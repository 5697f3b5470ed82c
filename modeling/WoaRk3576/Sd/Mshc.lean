/-
# The requests of dwcmshc

The slot has one outstanding request.  `MshcSlotIssueRequest` publishes it in the extension and
starts it, the DPC (the port driver's or, for the driver's own requests, `MshcLocalRequestDpc`)
takes the reported events off what the request waits for, and `MshcCompleteRequest` ends it.  A
command that leaves the card busy is ended by a worker instead, once the data line is idle.

The model keeps the fields of `MSHC_EXTENSION` that these functions read and write, the requests by
identity, the DPC and the work item that are queued, and what has been completed.  The events are
the port driver's, as `MshcConvertIntStatusToStandardEvents` gives them; the programming of the
controller's registers and the transfer of the data itself are left out, and so is the crash dump
mode, which polls with the interrupts off.

A completion has four ways to go, and each of the modules on top of this one asks something else of
them: whether the request ends or is left to the worker, and whether it is the port driver's or the
driver's own.  `completeRequest_rule` goes through them once.  Its hypotheses are about the parts
that a completion is put together from, so that a module supplies what its relation is and what the
parts do to it; `completeRequest_rel` is the common case of a relation that composes.

Four questions are asked: whether a phase is completed once (`MshcPhases`), whether an event is
lost (`MshcPio`), whose request the worker completes (`MshcBusy`), and what a local command leaves
behind (`MshcLocal`, `MshcStop`).
-/
import Mathlib.Data.Finset.Basic
import Mathlib.Logic.Function.Basic
import WoaRk3576.Sd.Port

namespace WoaRk3576.Sd

/-! ## 1. Requests

An event or an error is a bit in the source and an element of a finite set here, since no code in
this module does anything but set operations with them.  The bits themselves are in
`MshcEvents.lean`. -/

/-- `SDPORT_EVENT_*`. -/
inductive SdEvent
  | cardResponse
  | cardRwEnd
  | bufferEmpty
  | bufferFull
  | dmaComplete
  | cardChange
  | error
  deriving DecidableEq, Repr

/-- `SDPORT_ERROR_*`. -/
inductive SdError
  | cmdTimeout
  | cmdCrcError
  | cmdEndBitError
  | cmdIndexError
  | dataTimeout
  | dataCrcError
  | dataEndBitError
  | busPowerError
  | genericIoError
  | admaError
  deriving DecidableEq, Repr

/-- `SDPORT_COMMAND`. -/
structure SdCommand where
  responseType : ResponseType
  transferType : TransferType
  transferDirection : TransferDirection
  transferMethod : TransferMethod
  length : BitVec 32
  deriving DecidableEq

/-- A command with a data phase. -/
def SdCommand.isData (c : SdCommand) : Prop :=
  c.transferType ≠ .none ∧ c.transferType ≠ .undefined

instance (c : SdCommand) : Decidable c.isData := inferInstanceAs (Decidable (_ ∧ _))

/-- `SDPORT_REQUEST`. -/
structure SdRequest where
  type : RequestType
  command : SdCommand
  requiredEvents : Finset SdEvent
  status : NtStatus
  deriving DecidableEq

/-- Which request: one of the port driver's, or one on the stack of a local command. -/
inductive RequestId
  | port (n : Nat)
  | stop
  | status
  | tuning
  deriving DecidableEq, Repr

/-! ## 2. The extension

A request is known by its identity, as the local ones are variables on the stack of a function and
used again by each call of it.  A ticket tells one issue from the next, and what was completed is
kept by ticket, so that "twice" and "for another request" can be said. -/

/-- The fields of `MSHC_EXTENSION` that requests depend on; `optimalFifoThreshold` is
`MSHC_OPTIMAL_FIFO_THRESHOLD` of the platform's FIFO, and `completeRequestBusyWorkItem` is whether
the work item was allocated. -/
structure MshcExtension where
  initialized : Bool
  outstandingRequest : Option RequestId
  currentEvents : Finset SdEvent
  currentErrors : Finset SdError
  currentTransferRemainingLength : BitVec 32
  localRequestPending : Bool
  fifoThreshold : BitVec 32
  optimalFifoThreshold : BitVec 32
  completeRequestBusyWorkItem : Bool
  tuningPerformed : Bool
  dataCrcErrorsSinceLastTuning : Nat

/-- `MSHC_DCRC_ERROR_RETUNING_THRESHOLD`. -/
def mshcDcrcErrorRetuningThreshold : Nat := 10

/-- A request as it was issued: its identity, and how many requests had been issued by then. -/
structure Ticket where
  request : RequestId
  issue : Nat
  deriving DecidableEq, Repr

/-- A run of the worker: what it was queued for, and the request it handed on, which is `none`
where it handed on a null pointer. -/
structure WorkerRun where
  queuedFor : Ticket
  passed : Option Ticket
  deriving DecidableEq, Repr

/-- The extension with the requests, the queued DPC and worker, the number of requests issued,
the worker's runs, the issues that were completed, and the completions that the port driver was
told of. -/
structure MshcHost extends MshcExtension where
  requests : RequestId → SdRequest
  localRequestDpc : Bool
  busyWorker : Option Ticket
  issues : Nat
  workerRuns : List WorkerRun
  ended : List Ticket
  completed : List (RequestId × NtStatus)

def MshcHost.put (h : MshcHost) (r : RequestId) (request : SdRequest) : MshcHost :=
  { h with requests := Function.update h.requests r request }

def MshcHost.setStatus (h : MshcHost) (r : RequestId) (status : NtStatus) : MshcHost :=
  h.put r { h.requests r with status }

def MshcHost.setRequired (h : MshcHost) (r : RequestId) (required : Finset SdEvent) : MshcHost :=
  h.put r { h.requests r with requiredEvents := required }

@[simp]
theorem MshcHost.put_requests (h : MshcHost) (r : RequestId) (request : SdRequest) :
    (h.put r request).requests r = request := Function.update_self ..

theorem MshcHost.put_requests_ne (h : MshcHost) {r r' : RequestId} (hne : r' ≠ r)
    (request : SdRequest) : (h.put r request).requests r' = h.requests r' :=
  Function.update_of_ne hne ..

@[simp]
theorem MshcHost.setStatus_requests (h : MshcHost) (r : RequestId) (status : NtStatus) :
    (h.setStatus r status).requests r = { h.requests r with status } := h.put_requests ..

@[simp]
theorem MshcHost.setStatus_toMshcExtension (h : MshcHost) (r : RequestId) (status : NtStatus) :
    (h.setStatus r status).toMshcExtension = h.toMshcExtension := rfl

/-- A status changes no request's required events. -/
@[simp]
theorem MshcHost.setStatus_required (h : MshcHost) (r r' : RequestId) (status : NtStatus) :
    ((h.setStatus r status).requests r').requiredEvents = (h.requests r').requiredEvents := by
  by_cases hr : r' = r
  · subst hr
    rw [setStatus_requests]
  · exact congrArg _ (h.put_requests_ne hr _)

/-- The required events change no request's status. -/
@[simp]
theorem MshcHost.setRequired_status (h : MshcHost) (r r' : RequestId)
    (required : Finset SdEvent) :
    ((h.setRequired r required).requests r').status = (h.requests r').status := by
  by_cases hr : r' = r
  · subst hr
    rw [setRequired, put_requests]
  · exact congrArg _ (h.put_requests_ne hr _)

@[simp]
theorem MshcHost.setRequired_requests (h : MshcHost) (r : RequestId)
    (required : Finset SdEvent) :
    (h.setRequired r required).requests r = { h.requests r with requiredEvents := required } :=
  h.put_requests ..

/-! ## 3. Completion

`MshcCompleteRequest` may have to wait for the card to become idle.  At `DISPATCH_LEVEL` it queues
a worker; otherwise it calls the worker itself, which reads the outstanding request from the
extension and completes it, and may find the line busy again.  So the function calls itself for a
request that is not its argument.  `completeRequest_rule` and `completeRequest_rel` are the two
forms in which this recursion is used. -/

/-- What the data line says when it is read, and what becomes of a wait for it. -/
inductive DataLine
  | idle
  | busyTimeout
  | busyIdle (again : DataLine)
  deriving DecidableEq, Repr

/-- What a call of the driver finds: the data line, the card detect register, and whether it runs
at `DISPATCH_LEVEL`. -/
structure CallContext where
  data : DataLine
  inserted : Bool
  dispatch : Bool
  deriving DecidableEq, Repr

/-- The commands after which the card may still be busy. -/
def SdCommand.mayBusy (c : SdCommand) : Prop :=
  c.responseType = .r1b ∨ c.responseType = .r5b ∨ c.transferDirection = .write

instance (c : SdCommand) : Decidable c.mayBusy := inferInstanceAs (Decidable (_ ∨ _ ∨ _))

/-- The test before the data line is read. -/
def MshcHost.WaitsForIdle (h : MshcHost) (r : RequestId) (status : NtStatus) : Prop :=
  status = .success ∧ (h.requests r).requiredEvents = ∅ ∧ (h.requests r).command.mayBusy

instance (h : MshcHost) (r : RequestId) (status : NtStatus) :
    Decidable (h.WaitsForIdle r status) := inferInstanceAs (Decidable (_ ∧ _ ∧ _))

/-- The statuses of a request that is done with its phase. -/
def NtStatus.Releases (status : NtStatus) : Prop :=
  status = .success ∨ status = .moreProcessingRequired

instance (status : NtStatus) : Decidable status.Releases := inferInstanceAs (Decidable (_ ∨ _))

/-- A request that succeeded is released, a failed one stays for `ResetHost`. -/
def releaseRequest (r : RequestId) (h : MshcHost) : MshcHost :=
  if (h.requests r).status.Releases then { h with outstandingRequest := none } else h

/-- A request fails when the card is gone, after it was released. -/
def checkCard (inserted : Bool) (r : RequestId) (h : MshcHost) : MshcHost :=
  if inserted then h else h.setStatus r .ioDeviceError

/-- A local request is no longer pending, the others are completed to the port driver. -/
def signalCompletion (r : RequestId) (h : MshcHost) : MshcHost :=
  if h.localRequestPending then { h with localRequestPending := false }
  else { h with completed := h.completed ++ [(r, (h.requests r).status)] }

def recordEnd (r : RequestId) (h : MshcHost) : MshcHost :=
  { h with ended := h.ended ++ [⟨r, h.issues⟩] }

/-- `MshcCompleteRequest` once the card is not waited for. -/
def finishRequest (inserted : Bool) (r : RequestId) (h : MshcHost) : MshcHost :=
  recordEnd r (signalCompletion r (checkCard inserted r (releaseRequest r h)))

theorem releaseRequest_eq (r : RequestId) (h : MshcHost) :
    releaseRequest r h = { h with
      outstandingRequest := if (h.requests r).status.Releases then none
        else h.outstandingRequest } := by
  unfold releaseRequest
  by_cases hok : (h.requests r).status.Releases
  · rw [if_pos hok, if_pos hok]
  · rw [if_neg hok, if_neg hok]

theorem signalCompletion_eq (r : RequestId) (h : MshcHost) :
    signalCompletion r h = { h with
      localRequestPending := false
      completed := if h.localRequestPending then h.completed
        else h.completed ++ [(r, (h.requests r).status)] } := by
  obtain ⟨⟨_, _, _, _, _, pending, _, _, _, _, _⟩, _, _, _, _, _, _, _⟩ := h
  cases pending with
  | true => rfl
  | false => rfl

section Finish

variable (inserted : Bool) (r : RequestId) (h : MshcHost)

theorem finishRequest_outstanding :
    (finishRequest inserted r h).outstandingRequest
      = if (h.requests r).status.Releases then none else h.outstandingRequest := by
  unfold finishRequest recordEnd checkCard
  rw [signalCompletion_eq, releaseRequest_eq]
  cases inserted <;> rfl

/-- A request that is finished leaves the rest of the extension alone. -/
theorem finishRequest_extension :
    (finishRequest inserted r h).toMshcExtension = { h.toMshcExtension with
      outstandingRequest := if (h.requests r).status.Releases then none else h.outstandingRequest
      localRequestPending := false } := by
  unfold finishRequest recordEnd checkCard
  rw [signalCompletion_eq, releaseRequest_eq]
  cases inserted <;> rfl

@[simp]
theorem finishRequest_pending : (finishRequest inserted r h).localRequestPending = false := by
  unfold finishRequest recordEnd
  rw [signalCompletion_eq]

theorem finishRequest_requests :
    (finishRequest inserted r h).requests
      = if inserted then h.requests else (h.setStatus r .ioDeviceError).requests := by
  unfold finishRequest recordEnd checkCard
  rw [signalCompletion_eq, releaseRequest_eq]
  cases inserted <;> rfl

@[simp]
theorem finishRequest_required (r' : RequestId) :
    ((finishRequest inserted r h).requests r').requiredEvents
      = (h.requests r').requiredEvents := by
  rw [finishRequest_requests]
  cases inserted with
  | true => rfl
  | false => exact h.setStatus_required r r' _

@[simp]
theorem finishRequest_busyWorker : (finishRequest inserted r h).busyWorker = h.busyWorker := by
  unfold finishRequest recordEnd checkCard
  rw [signalCompletion_eq, releaseRequest_eq]
  cases inserted <;> rfl

@[simp]
theorem finishRequest_localRequestDpc :
    (finishRequest inserted r h).localRequestDpc = h.localRequestDpc := by
  unfold finishRequest recordEnd checkCard
  rw [signalCompletion_eq, releaseRequest_eq]
  cases inserted <;> rfl

@[simp]
theorem finishRequest_currentEvents :
    (finishRequest inserted r h).currentEvents = h.currentEvents := by
  unfold finishRequest recordEnd checkCard
  rw [signalCompletion_eq, releaseRequest_eq]
  cases inserted <;> rfl

@[simp]
theorem finishRequest_currentErrors :
    (finishRequest inserted r h).currentErrors = h.currentErrors := by
  unfold finishRequest recordEnd checkCard
  rw [signalCompletion_eq, releaseRequest_eq]
  cases inserted <;> rfl

@[simp]
theorem finishRequest_workerRuns : (finishRequest inserted r h).workerRuns = h.workerRuns := by
  unfold finishRequest recordEnd checkCard
  rw [signalCompletion_eq, releaseRequest_eq]
  cases inserted <;> rfl

@[simp]
theorem finishRequest_issues : (finishRequest inserted r h).issues = h.issues := by
  unfold finishRequest recordEnd checkCard
  rw [signalCompletion_eq, releaseRequest_eq]
  cases inserted <;> rfl

theorem finishRequest_ended :
    (finishRequest inserted r h).ended = h.ended ++ [⟨r, h.issues⟩] := by
  unfold finishRequest recordEnd checkCard
  rw [signalCompletion_eq, releaseRequest_eq]
  cases inserted <;> rfl

end Finish

/-- A run of the worker, for what it was queued, as it reads `OutstandingRequest`. -/
def MshcHost.recordRun (h : MshcHost) (queuedFor : Ticket) : MshcHost :=
  { h with
    workerRuns :=
      h.workerRuns ++ [⟨queuedFor, h.outstandingRequest.map fun r => ⟨r, h.issues⟩⟩] }

/-- The worker is queued at `DISPATCH_LEVEL`, and is called at once otherwise. -/
def MshcHost.Queues (h : MshcHost) (dispatch : Bool) : Prop :=
  h.completeRequestBusyWorkItem = true ∧ dispatch = true

instance (h : MshcHost) (dispatch : Bool) : Decidable (h.Queues dispatch) :=
  inferInstanceAs (Decidable (_ ∧ _))

/-- `MshcCompleteRequest`, with the worker where it is called at once. -/
def completeRequest (inserted dispatch : Bool) :
    DataLine → RequestId → NtStatus → MshcHost → MshcHost
  | .idle, r, status, h => finishRequest inserted r (h.setStatus r status)
  | .busyTimeout, r, status, h =>
    let h := h.setStatus r status
    if h.WaitsForIdle r status then
      if h.Queues dispatch then { h with busyWorker := some ⟨r, h.issues⟩ }
      else
        match h.outstandingRequest with
        | none => h.recordRun ⟨r, h.issues⟩
        | some r' =>
          finishRequest inserted r' ((h.recordRun ⟨r, h.issues⟩).setStatus r' .ioTimeout)
    else finishRequest inserted r h
  | .busyIdle again, r, status, h =>
    let h := h.setStatus r status
    if h.WaitsForIdle r status then
      if h.Queues dispatch then { h with busyWorker := some ⟨r, h.issues⟩ }
      else
        match h.outstandingRequest with
        | none => h.recordRun ⟨r, h.issues⟩
        | some r' =>
          completeRequest inserted dispatch again r' .success (h.recordRun ⟨r, h.issues⟩)
    else finishRequest inserted r h

/-- **The rule of a completion.** `A r status h` is what is known where `r` is completed with
`status`: it gives `Q` if the request is finished, if the worker is queued, and if the worker finds
no request; a worker that finds one completes it in turn. -/
theorem completeRequest_rule {inserted dispatch : Bool}
    {A : RequestId → NtStatus → MshcHost → Prop} {Q : MshcHost → Prop}
    (finish : ∀ r status h, A r status h → Q (finishRequest inserted r (h.setStatus r status)))
    (queue : ∀ r status h, A r status h → (h.setStatus r status).WaitsForIdle r status →
      (h.setStatus r status).Queues dispatch →
      Q { h.setStatus r status with busyWorker := some ⟨r, h.issues⟩ })
    (leave : ∀ r status h, A r status h → h.outstandingRequest = none →
      Q ((h.setStatus r status).recordRun ⟨r, h.issues⟩))
    (again : ∀ r status h r', A r status h → (h.setStatus r status).WaitsForIdle r status →
      ¬ (h.setStatus r status).Queues dispatch → h.outstandingRequest = some r' →
      ∀ status', status' = .ioTimeout ∨ status' = .success →
        A r' status' ((h.setStatus r status).recordRun ⟨r, h.issues⟩))
    (data : DataLine) {r : RequestId} {status : NtStatus} {h : MshcHost} (hA : A r status h) :
    Q (completeRequest inserted dispatch data r status h) := by
  induction data generalizing r status h with
  | idle => exact finish r status h hA
  | busyTimeout =>
    unfold completeRequest
    dsimp only
    split
    · rename_i hwaits
      split
      · rename_i hqueue
        exact queue r status h hA hwaits hqueue
      · rename_i hqueue
        split
        · rename_i hout
          exact leave r status h hA hout
        · rename_i r' hout
          exact finish r' _ _ (again r status h r' hA hwaits hqueue hout _ (Or.inl rfl))
    · exact finish r status h hA
  | busyIdle data ih =>
    unfold completeRequest
    dsimp only
    split
    · rename_i hwaits
      split
      · rename_i hqueue
        exact queue r status h hA hwaits hqueue
      · rename_i hqueue
        split
        · rename_i hout
          exact leave r status h hA hout
        · rename_i r' hout
          exact ih (again r status h r' hA hwaits hqueue hout _ (Or.inr rfl))
    · exact finish r status h hA

/-- **The parts of a completion**: a relation that composes, and holds of each part, holds of the
whole, however often the worker finds the line busy again. -/
theorem completeRequest_rel {R : MshcHost → MshcHost → Prop}
    (trans : ∀ {a b c}, R a b → R b c → R a c)
    (setStatus : ∀ h r status, R h (h.setStatus r status))
    (queue : ∀ (h : MshcHost) ticket, R h { h with busyWorker := some ticket })
    (recordRun : ∀ h ticket, R h (h.recordRun ticket)) {inserted : Bool}
    (finish : ∀ r h, R h (finishRequest inserted r h)) (dispatch : Bool) (data : DataLine)
    (r : RequestId) (status : NtStatus) (h : MshcHost) :
    R h (completeRequest inserted dispatch data r status h) := by
  -- before each part, whatever follows by the relation follows from the start too
  refine completeRequest_rule (A := fun _ _ g => ∀ x, R g x → R h x) (Q := R h)
    ?_ ?_ ?_ ?_ data fun _ hx => hx
  · exact fun r status g hA => hA _ (trans (setStatus g r status) (finish ..))
  · exact fun r status g hA _ _ => hA _ (trans (setStatus g r status) (queue ..))
  · exact fun r status g hA _ => hA _ (trans (setStatus g r status) (recordRun ..))
  · exact fun r status g _ hA _ _ _ _ _ x hx =>
      hA x (trans (setStatus g r status) (trans (recordRun ..) hx))

def mshcCompleteRequest (c : CallContext) (r : RequestId) (status : NtStatus) (h : MshcHost) :
    MshcHost :=
  completeRequest c.inserted c.dispatch c.data r status h

/-- `MshcWaitDataIdle` of the worker: it times out, or the line is idle and may be read again. -/
inductive DataWait
  | timeout
  | idle (again : DataLine)
  deriving DecidableEq, Repr

/-- `MshcCompleteRequestBusyWorker`, from the queue. -/
def mshcCompleteRequestBusyWorker (inserted : Bool) (wait : DataWait) (h : MshcHost) : MshcHost :=
  match h.busyWorker with
  | none => h
  | some ticket =>
    let h := ({ h with busyWorker := none } : MshcHost).recordRun ticket
    match h.outstandingRequest with
    | none => h
    | some r =>
      match wait with
      | .timeout => completeRequest inserted false .idle r .ioTimeout h
      | .idle again => completeRequest inserted false again r .success h

/-! ## 4. Interrupts and DPCs

The same DPC routine serves both kinds of requests.  For the port driver's it is called with events
that nobody else has; for a local request the interrupt has recorded them already, and the DPC is
called with the record. -/

/-- `MshcConvertStandardErrorToStatus`. -/
def mshcConvertStandardErrorToStatus (errors : Finset SdError) : NtStatus :=
  if errors = ∅ then .success
  else if .cmdTimeout ∈ errors ∨ .dataTimeout ∈ errors then .ioTimeout
  else if .cmdCrcError ∈ errors ∨ .dataCrcError ∈ errors then .crcError
  else if .cmdEndBitError ∈ errors ∨ .dataEndBitError ∈ errors then .deviceDataError
  else if .cmdIndexError ∈ errors then .deviceProtocolError
  else if .busPowerError ∈ errors then .devicePowerFailure
  else .ioDeviceError

/-- `MshcSlotInterrupt` from the converted events on: while a local request is pending they are
kept for the local DPC, else the port driver gets them. -/
def mshcSlotInterrupt (events : Finset SdEvent) (errors : Finset SdError) (cardChange : Bool)
    (h : MshcHost) : MshcHost × Finset SdEvent × Finset SdError :=
  if (events ≠ ∅ ∨ errors ≠ ∅ ∨ cardChange = true) ∧ h.localRequestPending = true then
    ({ h with
        currentEvents := h.currentEvents ∪ events
        currentErrors := h.currentErrors ∪ errors
        localRequestDpc := true }, ∅, ∅)
  else (h, events, errors)

/-- A timeout is held back until the event that ends its phase is reported. -/
def HeldBack (events : Finset SdEvent) (errors : Finset SdError) : Prop :=
  (.cmdTimeout ∈ errors ∧ .cardResponse ∉ events) ∨ (.dataTimeout ∈ errors ∧ .cardRwEnd ∉ events)

instance (events : Finset SdEvent) (errors : Finset SdError) :
    Decidable (HeldBack events errors) := inferInstanceAs (Decidable (_ ∨ _))

/-- The end of a request with an error. -/
def failRequest (c : CallContext) (r : RequestId) (errors : Finset SdError) (h : MshcHost) :
    MshcHost :=
  let h :=
    if h.tuningPerformed ∧ .dataCrcError ∈ errors then
      { h with dataCrcErrorsSinceLastTuning := h.dataCrcErrorsSinceLastTuning + 1 }
    else h
  let h := h.setRequired r ∅
  let h := { h with currentEvents := ∅, currentErrors := ∅ }
  mshcCompleteRequest c r (mshcConvertStandardErrorToStatus errors) h

/-- What the DPC does with a request once the events are recorded. -/
def advanceRequest (c : CallContext) (r : RequestId) (events : Finset SdEvent) (h : MshcHost) :
    MshcHost :=
  let h := h.setRequired r ((h.requests r).requiredEvents \ events)
  if h.currentErrors ≠ ∅ then
    if HeldBack events h.currentErrors then h else failRequest c r h.currentErrors h
  else if (h.requests r).requiredEvents = ∅ then
    mshcCompleteRequest c r
      (if (h.requests r).status = .moreProcessingRequired then .moreProcessingRequired
        else .success) h
  else h

def mshcRequestDpc (c : CallContext) (r : RequestId) (events : Finset SdEvent)
    (errors : Finset SdError) (h : MshcHost) : MshcHost :=
  if (events = ∅ ∧ errors = ∅) ∨ (h.requests r).requiredEvents = ∅ then h
  else
    let h := { h with
      currentEvents := h.currentEvents ∪ events
      currentErrors := h.currentErrors ∪ errors }
    if h.outstandingRequest = none then h else advanceRequest c r events h

/-- `MshcLocalRequestDpc`, from the queue. -/
def mshcLocalRequestDpc (c : CallContext) (h : MshcHost) : MshcHost :=
  if h.localRequestDpc then
    let h := { h with localRequestDpc := false }
    match h.outstandingRequest with
    | none => h
    | some r => mshcRequestDpc c r h.currentEvents h.currentErrors h
  else h

/-! ## 5. Issue

A request is published before it is checked, so a refused one stays published.  A transfer of a
command that was issued earlier is a request of its own type, with what is left of the length in
the extension. -/

/-- `MshcBuildTransfer`. -/
def mshcBuildTransfer (r : RequestId) (h : MshcHost) : MshcHost × NtStatus :=
  let length := (h.requests r).command.length
  let h := { h with currentTransferRemainingLength := length }
  match (h.requests r).command.transferMethod with
  | .pio =>
    ({ h with
        fifoThreshold :=
          if length / 4 < h.optimalFifoThreshold then length / 4 else h.optimalFifoThreshold },
      .success)
  | .sgDma => ({ h with fifoThreshold := h.optimalFifoThreshold }, .success)
  | .undefined => (h, .notSupported)

/-- What the command phase of a request waits for. -/
def SdCommand.commandEvents (c : SdCommand) : Finset SdEvent :=
  match c.transferMethod with
  | .sgDma => {.cardResponse, .cardRwEnd}
  | .pio =>
    if c.transferDirection = .read then {.cardResponse, .bufferFull}
    else {.cardResponse, .bufferEmpty}
  | .undefined => {.cardResponse}

/-- `MshcSendCommand` once the transfer is built. -/
def sendBuiltCommand (r : RequestId) (h : MshcHost) : MshcHost × NtStatus :=
  if (h.requests r).command.responseType = .undefined then (h, .invalidParameter)
  else
    let h := { h with currentEvents := ∅, currentErrors := ∅ }
    (h.setRequired r (h.requests r).command.commandEvents, .pending)

def mshcSendCommand (r : RequestId) (h : MshcHost) : MshcHost × NtStatus :=
  if (h.requests r).command.isData then
    let built := mshcBuildTransfer r h
    if built.2.ntSuccess then sendBuiltCommand r built.1 else built
  else sendBuiltCommand r h

def mshcStartPioTransfer (c : CallContext) (r : RequestId) (h : MshcHost) :
    MshcHost × NtStatus :=
  let currentEvents := h.currentEvents
  let h := { h with
    currentEvents := ∅
    currentTransferRemainingLength := h.currentTransferRemainingLength - h.fifoThreshold * 4 }
  if h.currentTransferRemainingLength ≠ 0 then
    let buffer : SdEvent :=
      if (h.requests r).command.transferDirection = .read then .bufferFull else .bufferEmpty
    let h := h.setRequired r ((h.requests r).requiredEvents ∪ {buffer})
    (h.setStatus r .moreProcessingRequired, .pending)
  else
    let h := h.setStatus r .success
    if .cardRwEnd ∈ currentEvents then (mshcCompleteRequest c r .success h, .pending)
    else (h.setRequired r ((h.requests r).requiredEvents ∪ {.cardRwEnd}), .pending)

def mshcStartDmaTransfer (c : CallContext) (r : RequestId) (h : MshcHost) :
    MshcHost × NtStatus :=
  let h := { h with currentTransferRemainingLength := 0 }
  (mshcCompleteRequest c r .success (h.setStatus r .success), .success)

def mshcStartTransfer (c : CallContext) (r : RequestId) (h : MshcHost) : MshcHost × NtStatus :=
  match (h.requests r).command.transferMethod with
  | .pio => mshcStartPioTransfer c r h
  | .sgDma => mshcStartDmaTransfer c r h
  | .undefined => (h, .notSupported)

/-- The request becomes the outstanding one before anything of it is checked. -/
def mshcSlotIssueRequest (c : CallContext) (r : RequestId) (h : MshcHost) :
    MshcHost × NtStatus :=
  let h := { h with outstandingRequest := some r, issues := h.issues + 1 }
  match (h.requests r).type with
  | .commandNoTransfer | .commandWithTransfer => mshcSendCommand r h
  | .startTransfer => mshcStartTransfer c r h
  | .unspecified => (h, .notSupported)

end WoaRk3576.Sd
