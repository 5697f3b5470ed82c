/-
# The local commands of dwcmshc

`MshcIssueRequestSynchronously` publishes a request that lies on the stack of its caller, waits
until the completion clears `LocalRequestPending` or the time is up, and with `ErrorRecovery`
resets the host when the request failed.  What is left behind after the caller has returned is the
question here.

* The three callers are `mshcSendStopCommand`, `mshcSendStatusCommand` and `mshcSendTuningCommand`.
  None of their requests can be refused.
* With error recovery a failure is followed by a reset, which takes the request back.  The
  invariant is `Settled`.
* The stop command has no recovery, so its request is taken back by a completion with success or
  not at all; `MshcStop` says when one comes in time.

What runs during the wait is any list of activities: interrupts, DPCs, the busy worker, and the
card's data line with each of them.  `Settled r` says that the request is still waited for, or was
released, or has failed.  Every activity keeps it, as `MshcCompleteRequest` clears
`LocalRequestPending` on the way to both ends and releases the slot if the status is a success.  At
the end of the wait it is therefore a time-out, a failure, or released.  The first two are what the
caller resets for, and the reset releases whatever is outstanding.

The recovery's resets may themselves send the stop command, whose dead request may stay published:
the reset that sent it goes on to release that one, too.

`MshcBusLocal.lean` shows that the commands of the bus operations are runs of these.
-/
import WoaRk3576.Sd.Mshc

namespace WoaRk3576.Sd

/-! ## 1. What happens during the wait

The caller polls `LocalRequestPending` and sleeps in between, so anything may run between two of
its looks, and it looks a fixed number of times.  It gives up by clearing the flag itself. -/

/-- What runs beside a waiting caller; a `KDPC` runs at `DISPATCH_LEVEL`. -/
inductive Activity
  | interrupt (events : Finset SdEvent) (errors : Finset SdError) (cardChange : Bool)
  | localDpc (data : DataLine) (inserted : Bool)
  | busyWorker (wait : DataWait) (inserted : Bool)

def Activity.run : Activity → MshcHost → MshcHost
  | .interrupt events errors cardChange, h => (mshcSlotInterrupt events errors cardChange h).1
  | .localDpc data inserted, h => mshcLocalRequestDpc ⟨data, inserted, true⟩ h
  | .busyWorker wait inserted, h => mshcCompleteRequestBusyWorker inserted wait h

def runAll : List Activity → MshcHost → MshcHost
  | [], h => h
  | a :: as, h => runAll as (a.run h)

/-- The polling loop: `polls n` runs before `LocalRequestPending` is read with `Retry = n`, and
`polls 0` after it was read last.  The result says whether the time was up. -/
def pollLoop (polls : Nat → List Activity) : Nat → MshcHost → MshcHost × Bool
  | 0, h => (runAll (polls 0) h, true)
  | retry + 1, h =>
    let h := runAll (polls (retry + 1)) h
    if h.localRequestPending = false then (h, false) else pollLoop polls retry h

/-- `PollWaitUs`, and `DIV_CEIL(TimeoutUs, PollWaitUs)`. -/
def pollCount (timeoutUs : Nat) : Nat := (timeoutUs + 10 - 1) / 10

/-- The end of the wait: the request is no longer pending, and it has failed if the time was up. -/
def endWait (r : RequestId) (waited : MshcHost × Bool) : MshcHost :=
  let h := { waited.1 with localRequestPending := false }
  if waited.2 then h.setStatus r .ioTimeout else h

/-- The resets of the error recovery. -/
def recoverRequest (busOperation : ResetType → MshcHost → MshcHost) (r : RequestId)
    (h : MshcHost) : MshcHost :=
  let h := busOperation .cmd h
  if (h.requests r).command.isData then busOperation .dat h else h

/-- No caller waits without a limit (`TimeoutUs = 0`). -/
def mshcIssueRequestSynchronously (busOperation : ResetType → MshcHost → MshcHost)
    (c : CallContext) (polls : Nat → List Activity) (r : RequestId) (timeoutUs : Nat)
    (errorRecovery : Bool) (h : MshcHost) : MshcHost × NtStatus :=
  let issued := mshcSlotIssueRequest c r { h with localRequestPending := true }
  if issued.2 ≠ .pending then issued
  else
    let h := endWait r (pollLoop polls (pollCount timeoutUs) issued.1)
    let h :=
      if errorRecovery ∧ (h.requests r).status.ntSuccess = false then
        recoverRequest busOperation r h
      else h
    (h, (h.requests r).status)

/-! ## 2. The local commands and the reset

A reset and a synchronous call need each other, and the model follows the source: the reset is
given what retuning and signaling do, and the call what a bus operation does.  The circle is closed
in the modules on bus operations. -/

/-- How a synchronous call goes: what its issue finds, and what runs while it waits. -/
structure WaitInput where
  context : CallContext
  polls : Nat → List Activity

def stopRequest : SdRequest where
  type := .commandNoTransfer
  command := ⟨.r1b, .none, .undefined, .undefined, 0⟩
  requiredEvents := ∅
  status := .success

/-- Without error recovery: the command is itself a part of the reset sequence. -/
def mshcSendStopCommand (input : WaitInput) (h : MshcHost) : MshcHost × NtStatus :=
  mshcIssueRequestSynchronously (fun _ h => h) input.context input.polls .stop 1000000 false
    (h.put .stop stopRequest)

/-- How a reset goes: whether `MshcResetWait` succeeds, and its stop command. -/
structure ResetInput where
  resetDone : Bool
  stop : WaitInput

/-- `MshcResetHost`; `retune` is `MshcExecuteTuning`, and `setSignaling` the change of the signaling
voltage when everything is reset. -/
def mshcResetHost (retune setSignaling : MshcHost → MshcHost) (input : ResetInput)
    (type : ResetType) (h : MshcHost) : MshcHost :=
  let h := { h with outstandingRequest := none }
  match type with
  | .all => if input.resetDone then setSignaling h else h
  -- After a failed data transfer the registers are left for the reset that follows; they are all
  -- that the rest of this one touches.
  | .cmd => h
  | .dat =>
    let h := (mshcSendStopCommand input.stop h).1
    if input.resetDone = false then h
    else if h.tuningPerformed = true
        ∧ mshcDcrcErrorRetuningThreshold ≤ h.dataCrcErrorsSinceLastTuning then
      retune h
    else h

/-- `MshcSlotIssueBusOperation` with `SdResetHost`. -/
def mshcSlotIssueBusOperation (retune setSignaling : MshcHost → MshcHost)
    (input : ResetType → ResetInput) (type : ResetType) (h : MshcHost) : MshcHost :=
  if h.initialized then mshcResetHost retune setSignaling (input type) type h else h

/-- A synchronous call with error recovery. -/
structure SyncInput extends WaitInput where
  reset : ResetType → ResetInput

def statusRequest : SdRequest where
  type := .commandNoTransfer
  command := ⟨.r1, .none, .undefined, .undefined, 0⟩
  requiredEvents := ∅
  status := .success

def mshcSendStatusCommand (retune setSignaling : MshcHost → MshcHost) (input : SyncInput)
    (h : MshcHost) : MshcHost × NtStatus :=
  mshcIssueRequestSynchronously (mshcSlotIssueBusOperation retune setSignaling input.reset)
    input.context input.polls .status 50000 true (h.put .status statusRequest)

/-- The speeds of `MshcExtension->BusSpeed` that are tuned, and the others. -/
inductive TuningSpeed
  | sd
  | emmc
  | unexpected
  deriving DecidableEq, Repr

/-- The block has 128 bytes on a bus of 8 bits and 64 on the others. -/
def tuningRequest (busWidth8Bit : Bool) : SdRequest where
  type := .commandWithTransfer
  command := ⟨.r1, .singleBlock, .read, .pio, if busWidth8Bit then 128 else 64⟩
  requiredEvents := ∅
  status := .success

def sendTuningRequest (retune setSignaling : MshcHost → MshcHost) (input : SyncInput)
    (h : MshcHost) : MshcHost × NtStatus :=
  mshcIssueRequestSynchronously (mshcSlotIssueBusOperation retune setSignaling input.reset)
    input.context input.polls .tuning 1000000 true h

/-- The transfer of the block, one input for each iteration; there is no result while the caller
has not returned. -/
def tuningTransfer (retune setSignaling : MshcHost → MshcHost) :
    List SyncInput → MshcHost → Option MshcHost
  | [], _ => none
  | input :: inputs, h =>
    let sent := sendTuningRequest retune setSignaling input h
    if sent.2 = .moreProcessingRequired then tuningTransfer retune setSignaling inputs sent.1
    else some sent.1

/-- `MshcSendTuningCommand` up to the comparison of the block. -/
def mshcSendTuningCommand (retune setSignaling : MshcHost → MshcHost) (speed : TuningSpeed)
    (busWidth8Bit : Bool) (input : SyncInput) (inputs : List SyncInput) (h : MshcHost) :
    Option MshcHost :=
  if speed = .unexpected then some h
  else
    let sent :=
      sendTuningRequest retune setSignaling input (h.put .tuning (tuningRequest busWidth8Bit))
    if sent.2.ntSuccess = false then some sent.1
    else
      tuningTransfer retune setSignaling inputs
        (sent.1.put .tuning { sent.1.requests .tuning with type := .startTransfer })

/-! ## 3. What a wait leaves alone

Nothing that runs during the wait issues a request, so the caller's own one stays what it is but
for its status and its required events. -/

/-- `h'` comes from `h` by activities: nothing is published, and no request but the stop command's
becomes another one. -/
structure Kept (h h' : MshcHost) : Prop where
  initialized : h'.initialized = h.initialized
  tuningPerformed : h'.tuningPerformed = h.tuningPerformed
  workItem : h'.completeRequestBusyWorkItem = h.completeRequestBusyWorkItem
  outstanding : h'.outstandingRequest = none ∨ h'.outstandingRequest = h.outstandingRequest
  command : ∀ r, (h'.requests r).command = (h.requests r).command
  type : ∀ r, (h'.requests r).type = (h.requests r).type

theorem Kept.refl (h : MshcHost) : Kept h h :=
  ⟨rfl, rfl, rfl, Or.inr rfl, fun _ => rfl, fun _ => rfl⟩

theorem Kept.trans {h h' h'' : MshcHost} (k : Kept h h') (k' : Kept h' h'') : Kept h h'' where
  initialized := k'.initialized.trans k.initialized
  tuningPerformed := k'.tuningPerformed.trans k.tuningPerformed
  workItem := k'.workItem.trans k.workItem
  outstanding := by
    rcases k'.outstanding with hn | he
    · exact Or.inl hn
    · exact he ▸ k.outstanding
  command := fun r => (k'.command r).trans (k.command r)
  type := fun r => (k'.type r).trans (k.type r)

/-- Writing the status or the required events of a request. -/
theorem Kept.put {h : MshcHost} {r : RequestId} {request : SdRequest}
    (hcommand : request.command = (h.requests r).command)
    (htype : request.type = (h.requests r).type) : Kept h (h.put r request) where
  initialized := rfl
  tuningPerformed := rfl
  workItem := rfl
  outstanding := Or.inr rfl
  command := fun r' => by
    by_cases hr : r' = r
    · subst hr
      rw [MshcHost.put_requests, hcommand]
    · rw [h.put_requests_ne hr]
  type := fun r' => by
    by_cases hr : r' = r
    · subst hr
      rw [MshcHost.put_requests, htype]
    · rw [h.put_requests_ne hr]

theorem Kept.setStatus (h : MshcHost) (r : RequestId) (status : NtStatus) :
    Kept h (h.setStatus r status) := Kept.put rfl rfl

theorem Kept.setRequired (h : MshcHost) (r : RequestId) (required : Finset SdEvent) :
    Kept h (h.setRequired r required) := Kept.put rfl rfl

theorem finishRequest_kept (inserted : Bool) (r : RequestId) (h : MshcHost) :
    Kept h (finishRequest inserted r h) := by
  have hrelease : Kept h (releaseRequest r h) := by
    unfold releaseRequest
    split
    · exact ⟨rfl, rfl, rfl, Or.inl rfl, fun _ => rfl, fun _ => rfl⟩
    · exact Kept.refl h
  have hcard : ∀ g : MshcHost, Kept g (checkCard inserted r g) := by
    intro g
    unfold checkCard
    split
    · exact Kept.refl g
    · exact Kept.setStatus ..
  have hsignal : ∀ g : MshcHost, Kept g (signalCompletion r g) := by
    intro g
    unfold signalCompletion
    split
    · exact ⟨rfl, rfl, rfl, Or.inr rfl, fun _ => rfl, fun _ => rfl⟩
    · exact ⟨rfl, rfl, rfl, Or.inr rfl, fun _ => rfl, fun _ => rfl⟩
  have hrecord : ∀ g : MshcHost, Kept g (recordEnd r g) :=
    fun g => ⟨rfl, rfl, rfl, Or.inr rfl, fun _ => rfl, fun _ => rfl⟩
  exact hrelease.trans ((hcard _).trans ((hsignal _).trans (hrecord _)))

theorem recordRun_kept (h : MshcHost) (ticket : Ticket) : Kept h (h.recordRun ticket) :=
  ⟨rfl, rfl, rfl, Or.inr rfl, fun _ => rfl, fun _ => rfl⟩

theorem completeRequest_kept (inserted dispatch : Bool) (data : DataLine) (r : RequestId)
    (status : NtStatus) (h : MshcHost) :
    Kept h (completeRequest inserted dispatch data r status h) := by
  have hqueue : ∀ (g : MshcHost) (ticket : Ticket), Kept g { g with busyWorker := some ticket } :=
    fun g ticket => ⟨rfl, rfl, rfl, Or.inr rfl, fun _ => rfl, fun _ => rfl⟩
  exact completeRequest_rel (R := Kept) Kept.trans Kept.setStatus hqueue recordRun_kept
    (finishRequest_kept inserted) dispatch data r status h

theorem mshcCompleteRequestBusyWorker_kept (inserted : Bool) (wait : DataWait) (h : MshcHost) :
    Kept h (mshcCompleteRequestBusyWorker inserted wait h) := by
  unfold mshcCompleteRequestBusyWorker
  split
  · exact Kept.refl h
  · rename_i ticket _
    have hrun : Kept h (({ h with busyWorker := none } : MshcHost).recordRun ticket) :=
      ⟨rfl, rfl, rfl, Or.inr rfl, fun _ => rfl, fun _ => rfl⟩
    refine hrun.trans ?_
    dsimp only
    split
    · exact Kept.refl _
    · split
      · exact completeRequest_kept ..
      · exact completeRequest_kept ..

theorem failRequest_kept (c : CallContext) (r : RequestId) (errors : Finset SdError)
    (h : MshcHost) : Kept h (failRequest c r errors h) := by
  have hcount : ∀ p : Prop, ∀ [Decidable p], Kept h (if p then
      { h with dataCrcErrorsSinceLastTuning := h.dataCrcErrorsSinceLastTuning + 1 } else h) := by
    intro p _
    split
    · exact ⟨rfl, rfl, rfl, Or.inr rfl, fun _ => rfl, fun _ => rfl⟩
    · exact Kept.refl h
  have hclear : ∀ g : MshcHost, Kept g { g with currentEvents := ∅, currentErrors := ∅ } :=
    fun g => ⟨rfl, rfl, rfl, Or.inr rfl, fun _ => rfl, fun _ => rfl⟩
  exact (hcount _).trans ((Kept.setRequired ..).trans ((hclear _).trans (completeRequest_kept ..)))

theorem advanceRequest_kept (c : CallContext) (r : RequestId) (events : Finset SdEvent)
    (h : MshcHost) : Kept h (advanceRequest c r events h) := by
  unfold advanceRequest
  refine (Kept.setRequired h r ((h.requests r).requiredEvents \ events)).trans ?_
  dsimp only
  split
  · split
    · exact Kept.refl _
    · exact failRequest_kept ..
  · split
    · exact completeRequest_kept ..
    · exact Kept.refl _

theorem mshcRequestDpc_kept (c : CallContext) (r : RequestId) (events : Finset SdEvent)
    (errors : Finset SdError) (h : MshcHost) : Kept h (mshcRequestDpc c r events errors h) := by
  unfold mshcRequestDpc
  split
  · exact Kept.refl h
  · have hrecord : Kept h { h with
        currentEvents := h.currentEvents ∪ events
        currentErrors := h.currentErrors ∪ errors } :=
      ⟨rfl, rfl, rfl, Or.inr rfl, fun _ => rfl, fun _ => rfl⟩
    refine hrecord.trans ?_
    dsimp only
    split
    · exact Kept.refl _
    · exact advanceRequest_kept ..

theorem mshcLocalRequestDpc_kept (c : CallContext) (h : MshcHost) :
    Kept h (mshcLocalRequestDpc c h) := by
  unfold mshcLocalRequestDpc
  split
  · have hdequeue : Kept h { h with localRequestDpc := false } :=
      ⟨rfl, rfl, rfl, Or.inr rfl, fun _ => rfl, fun _ => rfl⟩
    refine hdequeue.trans ?_
    dsimp only
    split
    · exact Kept.refl _
    · exact mshcRequestDpc_kept ..
  · exact Kept.refl h

theorem Activity.run_kept (a : Activity) (h : MshcHost) : Kept h (a.run h) := by
  cases a with
  | interrupt events errors cardChange =>
    simp only [Activity.run, mshcSlotInterrupt]
    split
    · exact ⟨rfl, rfl, rfl, Or.inr rfl, fun _ => rfl, fun _ => rfl⟩
    · exact Kept.refl h
  | localDpc data inserted => exact mshcLocalRequestDpc_kept ..
  | busyWorker wait inserted => exact mshcCompleteRequestBusyWorker_kept ..

theorem runAll_kept (as : List Activity) (h : MshcHost) : Kept h (runAll as h) := by
  induction as generalizing h with
  | nil => exact Kept.refl h
  | cons a as ih => exact (a.run_kept h).trans (ih _)

theorem pollLoop_kept (polls : Nat → List Activity) (n : Nat) (h : MshcHost) :
    Kept h (pollLoop polls n h).1 := by
  induction n generalizing h with
  | zero => exact runAll_kept ..
  | succ n ih =>
    unfold pollLoop
    refine (runAll_kept (polls (n + 1)) h).trans ?_
    dsimp only
    split
    · exact Kept.refl _
    · exact ih _

/-! ## 4. A completed request is released or failed

A completion sets a status.  A success takes the request back, and an error stays in the request,
where the caller finds it.  `STATUS_PENDING` would do neither, and nothing is completed with it. -/

/-- **A request that is no longer waited for is released or has failed.** -/
def Settled (r : RequestId) (h : MshcHost) : Prop :=
  h.localRequestPending = true ∨ h.outstandingRequest ≠ some r
    ∨ (h.requests r).status.ntSuccess = false

theorem settled_of_outstanding {r q : RequestId} {h : MshcHost}
    (hq : h.outstandingRequest = none ∨ h.outstandingRequest = some q)
    (hfail : (h.requests q).status.ntSuccess = false) : Settled r h := by
  refine Or.inr ?_
  by_cases hr : r = q
  · exact Or.inr (hr ▸ hfail)
  · refine Or.inl fun ho => ?_
    rcases hq with hn | hs
    · cases hn.symm.trans ho
    · exact hr (Option.some.inj (ho.symm.trans hs))

theorem finishRequest_settled (inserted : Bool) (r r' : RequestId) {status : NtStatus}
    (hstatus : status ≠ .pending) {h : MshcHost} (hr' : h.outstandingRequest = some r') :
    Settled r (finishRequest inserted r' (h.setStatus r' status)) := by
  have hout := finishRequest_outstanding inserted r' (h.setStatus r' status)
  rw [MshcHost.setStatus_requests] at hout
  by_cases hok : status.Releases
  · refine Or.inr (Or.inl ?_)
    rw [hout, if_pos hok]
    exact fun hn => by cases hn
  · have hfail : status.ntSuccess = false := by
      cases status with
      | success => exact absurd (Or.inl rfl) hok
      | pending => exact absurd rfl hstatus
      | _ => rfl
    refine settled_of_outstanding (q := r') (Or.inr ?_) ?_
    · rw [hout, if_neg hok]
      exact hr'
    · rw [finishRequest_requests]
      cases inserted with
      | true => simpa using hfail
      | false => simp [NtStatus.ntSuccess]

/-- The worker is never queued for `r`. -/
theorem queued_settled {r r' : RequestId} {status : NtStatus} {h : MshcHost}
    (hr' : h.outstandingRequest = some r') (hbusy : ¬ (h.requests r).command.mayBusy)
    (hwaits : h.WaitsForIdle r' status) (ticket : Ticket) :
    Settled r { h with busyWorker := some ticket } := by
  refine Or.inr (Or.inl fun ho => ?_)
  have hr : r' = r := Option.some.inj (hr'.symm.trans ho)
  exact hbusy (hr ▸ hwaits.2.2)

/-- The request that is completed is the outstanding one, and `r` is not waited for to become
idle. -/
theorem completeRequest_settled (inserted dispatch : Bool) (data : DataLine) {r : RequestId}
    (r' : RequestId) {status : NtStatus} (hstatus : status ≠ .pending) {h : MshcHost}
    (hr' : h.outstandingRequest = some r') (hbusy : ¬ (h.requests r).command.mayBusy) :
    Settled r (completeRequest inserted dispatch data r' status h) := by
  have hkept : ∀ q status (g : MshcHost), ¬ (g.requests r).command.mayBusy →
      ¬ ((g.setStatus q status).requests r).command.mayBusy :=
    fun q status g hg => ((Kept.setStatus g q status).command r).symm ▸ hg
  refine completeRequest_rule (A := fun q status g => status ≠ .pending
    ∧ g.outstandingRequest = some q ∧ ¬ (g.requests r).command.mayBusy)
    ?_ ?_ ?_ ?_ data ⟨hstatus, hr', hbusy⟩
  · rintro q status g ⟨hstatus, hout, -⟩
    exact finishRequest_settled inserted r q hstatus hout
  · rintro q status g ⟨-, hout, hbusy⟩ hwaits -
    have hout' : (g.setStatus q status).outstandingRequest = some q := hout
    exact queued_settled hout' (hkept q status g hbusy) hwaits _
  · rintro q status g ⟨-, hout, -⟩ hnone
    cases hout.symm.trans hnone
  · rintro q status g q' ⟨-, hout, hbusy⟩ - - hout' status' hstatus'
    refine ⟨?_, hout', hkept q status g hbusy⟩
    rcases hstatus' with rfl | rfl
    · decide
    · decide

theorem convertError_ne_pending (errors : Finset SdError) :
    mshcConvertStandardErrorToStatus errors ≠ .pending := by
  unfold mshcConvertStandardErrorToStatus
  repeat' split
  all_goals exact fun h => by cases h

/-- What a step does to a request that it does not complete. -/
theorem Settled.of_eq {r : RequestId} {h h' : MshcHost} (hs : Settled r h)
    (hpending : h'.localRequestPending = h.localRequestPending)
    (hout : h'.outstandingRequest = h.outstandingRequest)
    (hstatus : (h'.requests r).status = (h.requests r).status) : Settled r h' := by
  unfold Settled
  rw [hpending, hout, hstatus]
  exact hs

theorem failRequest_settled (c : CallContext) {r r' : RequestId} (errors : Finset SdError)
    {h : MshcHost} (hr' : h.outstandingRequest = some r')
    (hbusy : ¬ (h.requests r).command.mayBusy) : Settled r (failRequest c r' errors h) := by
  unfold failRequest
  dsimp only
  refine completeRequest_settled _ _ _ r' (convertError_ne_pending errors) ?_ ?_
  · split
    · exact hr'
    · exact hr'
  · split
    · exact ((Kept.setRequired _ r' ∅).command r).symm ▸ hbusy
    · exact ((Kept.setRequired h r' ∅).command r).symm ▸ hbusy

theorem mshcRequestDpc_settled (c : CallContext) {r r' : RequestId} (events : Finset SdEvent)
    (errors : Finset SdError) {h : MshcHost} (hr' : h.outstandingRequest = some r')
    (hbusy : ¬ (h.requests r).command.mayBusy) (hs : Settled r h) :
    Settled r (mshcRequestDpc c r' events errors h) := by
  unfold mshcRequestDpc
  split
  · exact hs
  · dsimp only
    split
    · exact hs
    · unfold advanceRequest
      dsimp only
      split
      · split
        · exact hs.of_eq rfl rfl (MshcHost.setRequired_status _ r' r _)
        · refine failRequest_settled c _ hr' ?_
          exact ((Kept.setRequired _ r' _).command r).symm ▸ hbusy
      · split
        · refine completeRequest_settled _ _ _ r' ?_ hr' ?_
          · split
            · exact fun hp => by cases hp
            · exact fun hp => by cases hp
          · exact ((Kept.setRequired _ r' _).command r).symm ▸ hbusy
        · exact hs.of_eq rfl rfl (MshcHost.setRequired_status _ r' r _)

theorem Activity.run_settled (a : Activity) {r : RequestId} {h : MshcHost}
    (hbusy : ¬ (h.requests r).command.mayBusy) (hs : Settled r h) : Settled r (a.run h) := by
  cases a with
  | interrupt events errors cardChange =>
    simp only [Activity.run, mshcSlotInterrupt]
    split
    · exact hs.of_eq rfl rfl rfl
    · exact hs
  | localDpc data inserted =>
    simp only [Activity.run, mshcLocalRequestDpc]
    split
    · split
      · exact hs.of_eq rfl rfl rfl
      · rename_i r' hr'
        exact mshcRequestDpc_settled _ _ _ hr' hbusy (hs.of_eq rfl rfl rfl)
    · exact hs
  | busyWorker wait inserted =>
    simp only [Activity.run, mshcCompleteRequestBusyWorker]
    split
    · exact hs
    · split
      · exact hs.of_eq rfl rfl rfl
      · rename_i r' hr'
        split
        · exact completeRequest_settled _ _ _ r' (by decide) hr' hbusy
        · exact completeRequest_settled _ _ _ r' (by decide) hr' hbusy

theorem runAll_settled (as : List Activity) {r : RequestId} {h : MshcHost}
    (hbusy : ¬ (h.requests r).command.mayBusy) (hs : Settled r h) : Settled r (runAll as h) := by
  induction as generalizing h with
  | nil => exact hs
  | cons a as ih => exact ih (((a.run_kept h).command r).symm ▸ hbusy) (a.run_settled hbusy hs)

/-- **Whatever ran while the caller waited**, either the time was up or the request was completed,
and then it was released or has failed. -/
theorem pollLoop_settled (polls : Nat → List Activity) (n : Nat) {r : RequestId} {h : MshcHost}
    (hbusy : ¬ (h.requests r).command.mayBusy) (hs : Settled r h) :
    (pollLoop polls n h).2 = true ∨ (pollLoop polls n h).1.outstandingRequest ≠ some r
      ∨ ((pollLoop polls n h).1.requests r).status.ntSuccess = false := by
  induction n generalizing h with
  | zero => exact Or.inl rfl
  | succ n ih =>
    have hrun := runAll_settled (polls (n + 1)) hbusy hs
    unfold pollLoop
    dsimp only
    split
    · rename_i hp
      rcases hrun with hpending | hrest
      · cases hp.symm.trans hpending
      · exact Or.inr hrest
    · exact ih (((runAll_kept (polls (n + 1)) h).command r).symm ▸ hbusy) hrun

/-! ## 5. With error recovery nothing is left

A failure is followed by a reset for the command line first, and that reset takes back whatever is
outstanding, before anything else is tried.  What comes behind it, the data reset with its stop
command, may leave a request of its own, but that is the stop command's and not the caller's. -/

/-- **Nothing of the request is left behind.** -/
def Clean (r : RequestId) (h : MshcHost) : Prop :=
  h.outstandingRequest ≠ some r ∧ h.localRequestPending = false

/-- What a call leaves alone, of the extension and of its request. -/
structure Same (r : RequestId) (h h' : MshcHost) : Prop where
  initialized : h'.initialized = h.initialized
  tuningPerformed : h'.tuningPerformed = h.tuningPerformed
  command : (h'.requests r).command = (h.requests r).command
  type : (h'.requests r).type = (h.requests r).type

theorem Same.refl (r : RequestId) (h : MshcHost) : Same r h h := ⟨rfl, rfl, rfl, rfl⟩

theorem Same.trans {r : RequestId} {h h' h'' : MshcHost} (s : Same r h h') (s' : Same r h' h'') :
    Same r h h'' where
  initialized := s'.initialized.trans s.initialized
  tuningPerformed := s'.tuningPerformed.trans s.tuningPerformed
  command := s'.command.trans s.command
  type := s'.type.trans s.type

theorem Kept.same {h h' : MshcHost} (k : Kept h h') (r : RequestId) : Same r h h' :=
  ⟨k.initialized, k.tuningPerformed, k.command r, k.type r⟩

/-- A request that the issue takes. -/
def SdRequest.Accepted (request : SdRequest) : Prop :=
  match request.type with
  | .commandNoTransfer | .commandWithTransfer =>
    request.command.responseType ≠ .undefined
      ∧ (request.command.isData → request.command.transferMethod ≠ .undefined)
  | .startTransfer => request.command.transferMethod = .pio
  | .unspecified => False

/-- A published request, before it is started. -/
def MshcHost.publish (h : MshcHost) (r : RequestId) : MshcHost :=
  { h with outstandingRequest := some r, issues := h.issues + 1 }

theorem sendBuiltCommand_kept (r : RequestId) (h : MshcHost) :
    Kept h (sendBuiltCommand r h).1 := by
  unfold sendBuiltCommand
  split
  · exact Kept.refl h
  · have hclear : Kept h { h with currentEvents := ∅, currentErrors := ∅ } :=
      ⟨rfl, rfl, rfl, Or.inr rfl, fun _ => rfl, fun _ => rfl⟩
    exact hclear.trans (Kept.setRequired ..)

theorem mshcBuildTransfer_kept (r : RequestId) (h : MshcHost) :
    Kept h (mshcBuildTransfer r h).1 := by
  unfold mshcBuildTransfer
  dsimp only
  split
  · exact ⟨rfl, rfl, rfl, Or.inr rfl, fun _ => rfl, fun _ => rfl⟩
  · exact ⟨rfl, rfl, rfl, Or.inr rfl, fun _ => rfl, fun _ => rfl⟩
  · exact ⟨rfl, rfl, rfl, Or.inr rfl, fun _ => rfl, fun _ => rfl⟩

theorem mshcSendCommand_kept (r : RequestId) (h : MshcHost) : Kept h (mshcSendCommand r h).1 := by
  unfold mshcSendCommand
  split
  · dsimp only
    split
    · exact (mshcBuildTransfer_kept r h).trans (sendBuiltCommand_kept ..)
    · exact mshcBuildTransfer_kept r h
  · exact sendBuiltCommand_kept r h

theorem mshcStartTransfer_kept (c : CallContext) (r : RequestId) (h : MshcHost) :
    Kept h (mshcStartTransfer c r h).1 := by
  have htake : ∀ (events : Finset SdEvent) (length : BitVec 32), Kept h { h with
      currentEvents := events, currentTransferRemainingLength := length } :=
    fun _ _ => ⟨rfl, rfl, rfl, Or.inr rfl, fun _ => rfl, fun _ => rfl⟩
  unfold mshcStartTransfer
  split
  · unfold mshcStartPioTransfer
    refine (htake ∅ (h.currentTransferRemainingLength - h.fifoThreshold * 4)).trans ?_
    dsimp only
    split
    · exact (Kept.setRequired ..).trans (Kept.setStatus ..)
    · split
      · exact (Kept.setStatus ..).trans (completeRequest_kept ..)
      · exact (Kept.setStatus ..).trans (Kept.setRequired ..)
  · exact (htake _ 0).trans ((Kept.setStatus ..).trans (completeRequest_kept ..))
  · exact Kept.refl h

theorem mshcSlotIssueRequest_kept (c : CallContext) (r : RequestId) (h : MshcHost) :
    Kept (h.publish r) (mshcSlotIssueRequest c r h).1 := by
  unfold mshcSlotIssueRequest
  dsimp only
  split
  · exact mshcSendCommand_kept ..
  · exact mshcSendCommand_kept ..
  · exact mshcStartTransfer_kept ..
  · exact Kept.refl _

theorem mshcBuildTransfer_status (r : RequestId) (h : MshcHost) :
    (mshcBuildTransfer r h).2
      = if (h.requests r).command.transferMethod = .undefined then .notSupported
        else .success := by
  unfold mshcBuildTransfer
  dsimp only
  cases (h.requests r).command.transferMethod <;> rfl

theorem sendBuiltCommand_status {r : RequestId} {h : MshcHost}
    (hresponse : (h.requests r).command.responseType ≠ .undefined) :
    (sendBuiltCommand r h).2 = .pending := by
  unfold sendBuiltCommand
  rw [if_neg hresponse]

theorem mshcSendCommand_status {r : RequestId} {h : MshcHost}
    (hresponse : (h.requests r).command.responseType ≠ .undefined)
    (hdata : (h.requests r).command.isData → (h.requests r).command.transferMethod ≠ .undefined) :
    (mshcSendCommand r h).2 = .pending := by
  unfold mshcSendCommand
  split
  · rename_i hd
    have hbuilt := (mshcBuildTransfer_status r h).trans (if_neg (hdata hd))
    dsimp only
    rw [hbuilt]
    exact sendBuiltCommand_status (((mshcBuildTransfer_kept r h).command r).symm ▸ hresponse)
  · exact sendBuiltCommand_status hresponse

/-- **An accepted request is started**, whatever the state it is issued in. -/
theorem mshcSlotIssueRequest_status (c : CallContext) {r : RequestId} {h : MshcHost}
    (haccept : (h.requests r).Accepted) : (mshcSlotIssueRequest c r h).2 = .pending := by
  unfold mshcSlotIssueRequest
  unfold SdRequest.Accepted at haccept
  cases htype : (h.requests r).type with
  | unspecified =>
    rw [htype] at haccept
    exact haccept.elim
  | commandNoTransfer | commandWithTransfer =>
    rw [htype] at haccept
    simp only [htype]
    exact mshcSendCommand_status haccept.1 haccept.2
  | startTransfer =>
    rw [htype] at haccept
    have hpio : (h.requests r).command.transferMethod = .pio := haccept
    simp only [htype, mshcStartTransfer, hpio]
    unfold mshcStartPioTransfer
    dsimp only
    split
    · rfl
    · split
      · rfl
      · rfl

theorem sendBuiltCommand_pending (r : RequestId) (h : MshcHost) :
    (sendBuiltCommand r h).1.localRequestPending = h.localRequestPending := by
  unfold sendBuiltCommand
  split
  · rfl
  · rfl

theorem mshcBuildTransfer_pending (r : RequestId) (h : MshcHost) :
    (mshcBuildTransfer r h).1.localRequestPending = h.localRequestPending := by
  unfold mshcBuildTransfer
  dsimp only
  split <;> rfl

theorem mshcSendCommand_pending (r : RequestId) (h : MshcHost) :
    (mshcSendCommand r h).1.localRequestPending = h.localRequestPending := by
  unfold mshcSendCommand
  split
  · dsimp only
    split
    · exact (sendBuiltCommand_pending ..).trans (mshcBuildTransfer_pending r h)
    · exact mshcBuildTransfer_pending r h
  · exact sendBuiltCommand_pending r h

/-- A local request that was started is still pending, or it was completed at once. -/
theorem mshcSlotIssueRequest_settled (c : CallContext) {r : RequestId} {h : MshcHost}
    (hbusy : ¬ (h.requests r).command.mayBusy) (hpending : h.localRequestPending = true) :
    Settled r (mshcSlotIssueRequest c r h).1 := by
  unfold mshcSlotIssueRequest
  dsimp only
  split
  · exact Or.inl ((mshcSendCommand_pending ..).trans hpending)
  · exact Or.inl ((mshcSendCommand_pending ..).trans hpending)
  · unfold mshcStartTransfer
    split
    · unfold mshcStartPioTransfer
      dsimp only
      split
      · exact Or.inl hpending
      · split
        · refine completeRequest_settled _ _ _ r (by decide) rfl ?_
          exact ((Kept.setStatus _ r .success).command r).symm ▸ hbusy
        · exact Or.inl hpending
    · refine completeRequest_settled _ _ _ r (by decide) rfl ?_
      exact ((Kept.setStatus _ r .success).command r).symm ▸ hbusy
    · exact Or.inl hpending
  · exact Or.inl hpending

/-- **A synchronous call with error recovery is clean** if its resets are. -/
theorem sync_clean {busOperation : ResetType → MshcHost → MshcHost} (c : CallContext)
    (polls : Nat → List Activity) {r : RequestId} (timeoutUs : Nat) {h : MshcHost}
    (haccept : (h.requests r).Accepted) (hbusy : ¬ (h.requests r).command.mayBusy)
    (hcmd : ∀ g, Same r h g → g.localRequestPending = false →
      Clean r (busOperation .cmd g) ∧ Same r g (busOperation .cmd g))
    (hdat : (h.requests r).command.isData → ∀ g, Same r h g → g.localRequestPending = false →
      Clean r (busOperation .dat g) ∧ Same r g (busOperation .dat g)) :
    Clean r (mshcIssueRequestSynchronously busOperation c polls r timeoutUs true h).1
      ∧ Same r h (mshcIssueRequestSynchronously busOperation c polls r timeoutUs true h).1 := by
  have hstatus := mshcSlotIssueRequest_status c
    (h := { h with localRequestPending := true }) haccept
  have hissued := mshcSlotIssueRequest_settled c
    (h := { h with localRequestPending := true }) hbusy rfl
  have hkept := mshcSlotIssueRequest_kept c r { h with localRequestPending := true }
  generalize hi : mshcSlotIssueRequest c r { h with localRequestPending := true } = issued
    at hstatus hissued hkept
  have hwait := pollLoop_settled polls (pollCount timeoutUs)
    ((hkept.command r).symm ▸ hbusy) hissued
  have hkept' := hkept.trans (pollLoop_kept polls (pollCount timeoutUs) issued.1)
  generalize hw : pollLoop polls (pollCount timeoutUs) issued.1 = waited at hwait hkept'
  have hsame : Same r h (endWait r waited) := by
    have hwaited : Same r h { waited.1 with localRequestPending := false } :=
      ⟨hkept'.initialized, hkept'.tuningPerformed, hkept'.command r, hkept'.type r⟩
    unfold endWait
    dsimp only
    split
    · exact hwaited.trans ((Kept.setStatus _ r .ioTimeout).same r)
    · exact hwaited
  have hend : (endWait r waited).localRequestPending = false := by
    unfold endWait
    split <;> rfl
  have hout : (endWait r waited).outstandingRequest ≠ some r
      ∨ ((endWait r waited).requests r).status.ntSuccess = false := by
    unfold endWait
    cases htime : waited.2 with
    | true =>
      refine Or.inr ?_
      simp [NtStatus.ntSuccess]
    | false =>
      rcases hwait with htrue | hrest
      · cases htime.symm.trans htrue
      · exact hrest
  unfold mshcIssueRequestSynchronously
  dsimp only
  rw [hi, if_neg (fun hne => hne hstatus), hw]
  split
  · rename_i hfail
    obtain ⟨hclean, hsame'⟩ := hcmd _ hsame hend
    unfold recoverRequest
    dsimp only
    split
    · rename_i hdata
      have hd : (h.requests r).command.isData := (hsame.trans hsame').command ▸ hdata
      obtain ⟨hclean', hsame''⟩ := hdat hd _ (hsame.trans hsame') hclean.2
      exact ⟨hclean', (hsame.trans hsame').trans hsame''⟩
    · exact ⟨hclean, hsame.trans hsame'⟩
  · rename_i hok
    refine ⟨⟨?_, hend⟩, hsame⟩
    rcases hout with ho | hfail
    · exact ho
    · exact absurd ⟨rfl, hfail⟩ hok

/-- A reset of the command line takes the outstanding request back. -/
theorem mshcResetHost_cmd (retune setSignaling : MshcHost → MshcHost) (input : ResetInput)
    {r : RequestId} {h : MshcHost} (hpending : h.localRequestPending = false) :
    Clean r (mshcResetHost retune setSignaling input .cmd h)
      ∧ Same r h (mshcResetHost retune setSignaling input .cmd h) :=
  ⟨⟨fun hn => (by cases hn), hpending⟩, rfl, rfl, rfl, rfl⟩

theorem sync_pending {busOperation : ResetType → MshcHost → MshcHost} (c : CallContext)
    (polls : Nat → List Activity) {r : RequestId} (timeoutUs : Nat) {h : MshcHost}
    (haccept : (h.requests r).Accepted) :
    mshcIssueRequestSynchronously busOperation c polls r timeoutUs false h
      = (endWait r (pollLoop polls (pollCount timeoutUs)
          (mshcSlotIssueRequest c r { h with localRequestPending := true }).1),
        ((endWait r (pollLoop polls (pollCount timeoutUs)
          (mshcSlotIssueRequest c r { h with localRequestPending := true }).1)).requests
            r).status) := by
  have hstatus := mshcSlotIssueRequest_status c
    (h := { h with localRequestPending := true }) haccept
  unfold mshcIssueRequestSynchronously
  dsimp only
  rw [if_neg (fun hne => hne hstatus), if_neg (fun hr => by cases hr.1)]

theorem stopRequest_accepted (h : MshcHost) :
    ((h.put .stop stopRequest).requests .stop).Accepted := by
  rw [MshcHost.put_requests]
  exact ⟨by decide, fun hd => absurd rfl hd.1⟩

/-- **The stop command is over when it returns**, and only its own request can be left. -/
theorem mshcSendStopCommand_spec (input : WaitInput) {r : RequestId} (hr : r ≠ .stop)
    (h : MshcHost) :
    Clean r (mshcSendStopCommand input h).1 ∧ Same r h (mshcSendStopCommand input h).1 := by
  unfold mshcSendStopCommand
  rw [sync_pending _ _ _ (stopRequest_accepted h)]
  have hkept := (mshcSlotIssueRequest_kept input.context .stop
    { h.put .stop stopRequest with localRequestPending := true }).trans
      (pollLoop_kept input.polls (pollCount 1000000) _)
  generalize pollLoop input.polls (pollCount 1000000) _ = waited at hkept
  have hrequest : (h.put .stop stopRequest).requests r = h.requests r := h.put_requests_ne hr _
  have hend : Kept waited.1 (endWait .stop waited) := by
    have hclear : Kept waited.1 { waited.1 with localRequestPending := false } :=
      ⟨rfl, rfl, rfl, Or.inr rfl, fun _ => rfl, fun _ => rfl⟩
    unfold endWait
    split
    · exact hclear.trans (Kept.setStatus ..)
    · exact hclear
  have hall := hkept.trans hend
  refine ⟨⟨fun ho => ?_, ?_⟩, hall.initialized, hall.tuningPerformed, ?_, ?_⟩
  · rcases hall.outstanding with hn | hs
    · cases hn.symm.trans ho
    · exact hr (Option.some.inj (ho.symm.trans hs))
  · unfold endWait
    split <;> rfl
  · exact (hall.command r).trans (congrArg SdRequest.command hrequest)
  · exact (hall.type r).trans (congrArg SdRequest.type hrequest)

/-- While the card is being tuned, the reset of the data line does not tune it again. -/
theorem mshcResetHost_dat (retune setSignaling : MshcHost → MshcHost) (input : ResetInput)
    {r : RequestId} (hr : r ≠ .stop) {h : MshcHost} (htuning : h.tuningPerformed = false) :
    Clean r (mshcResetHost retune setSignaling input .dat h)
      ∧ Same r h (mshcResetHost retune setSignaling input .dat h) := by
  obtain ⟨hclean, hsame⟩ :=
    mshcSendStopCommand_spec input.stop hr { h with outstandingRequest := none }
  have hsame' : Same r h
      (mshcSendStopCommand input.stop { h with outstandingRequest := none }).1 :=
    ⟨hsame.1, hsame.2, hsame.3, hsame.4⟩
  unfold mshcResetHost
  dsimp only
  split
  · exact ⟨hclean, hsame'⟩
  · split
    · rename_i hretune
      cases (hsame'.tuningPerformed.trans htuning).symm.trans hretune.1
    · exact ⟨hclean, hsame'⟩

theorem statusRequest_accepted : statusRequest.Accepted :=
  ⟨by decide, fun hd => absurd rfl hd.1⟩

/-- **The status command leaves nothing behind.** -/
theorem mshcSendStatusCommand_clean (retune setSignaling : MshcHost → MshcHost)
    (input : SyncInput) {h : MshcHost} (hinit : h.initialized = true) :
    Clean .status (mshcSendStatusCommand retune setSignaling input h).1 := by
  unfold mshcSendStatusCommand
  have hrequest := h.put_requests .status statusRequest
  refine (sync_clean input.context input.polls 50000 ?_ ?_ ?_ ?_).1
  · rw [hrequest]
    exact statusRequest_accepted
  · rw [hrequest]
    decide
  · intro g hsame hpending
    unfold mshcSlotIssueBusOperation
    rw [if_pos (hsame.initialized.trans hinit)]
    exact mshcResetHost_cmd _ _ _ hpending
  · intro hdata
    rw [hrequest] at hdata
    exact absurd hdata (by decide)

/-- **A request of the tuning command leaves nothing behind**, in either phase. -/
theorem sendTuningRequest_clean (retune setSignaling : MshcHost → MshcHost) (input : SyncInput)
    {h : MshcHost} (hinit : h.initialized = true) (htuning : h.tuningPerformed = false)
    (haccept : (h.requests .tuning).Accepted) (hbusy : ¬ (h.requests .tuning).command.mayBusy) :
    Clean .tuning (sendTuningRequest retune setSignaling input h).1
      ∧ Same .tuning h (sendTuningRequest retune setSignaling input h).1 := by
  refine sync_clean input.context input.polls 1000000 haccept hbusy ?_ ?_
  · intro g hsame hpending
    unfold mshcSlotIssueBusOperation
    rw [if_pos (hsame.initialized.trans hinit)]
    exact mshcResetHost_cmd _ _ _ hpending
  · intro _ g hsame _
    unfold mshcSlotIssueBusOperation
    rw [if_pos (hsame.initialized.trans hinit)]
    exact mshcResetHost_dat _ _ _ (by decide) (hsame.tuningPerformed.trans htuning)

/-- The transfer of the block: an iteration, and then the rest. -/
theorem tuningTransfer_clean (retune setSignaling : MshcHost → MshcHost)
    (inputs : List SyncInput) {h h' : MshcHost} (hinit : h.initialized = true)
    (htuning : h.tuningPerformed = false) (htype : (h.requests .tuning).type = .startTransfer)
    (hpio : (h.requests .tuning).command.transferMethod = .pio)
    (hbusy : ¬ (h.requests .tuning).command.mayBusy)
    (hreturn : tuningTransfer retune setSignaling inputs h = some h') : Clean .tuning h' := by
  induction inputs generalizing h with
  | nil => cases hreturn
  | cons input inputs ih =>
    have haccept : (h.requests .tuning).Accepted := by
      unfold SdRequest.Accepted
      rw [htype]
      exact hpio
    obtain ⟨hclean, hsame⟩ :=
      sendTuningRequest_clean retune setSignaling input hinit htuning haccept hbusy
    unfold tuningTransfer at hreturn
    dsimp only at hreturn
    split at hreturn
    · exact ih (hsame.initialized.trans hinit) (hsame.tuningPerformed.trans htuning)
        (hsame.type.trans htype) (hsame.command ▸ hpio) (hsame.command ▸ hbusy) hreturn
    · exact Option.some.inj hreturn ▸ hclean

theorem tuningRequest_spec (busWidth8Bit : Bool) :
    (tuningRequest busWidth8Bit).Accepted ∧ ¬ (tuningRequest busWidth8Bit).command.mayBusy := by
  cases busWidth8Bit with
  | false => exact ⟨⟨by decide, fun _ => by decide⟩, by decide⟩
  | true => exact ⟨⟨by decide, fun _ => by decide⟩, by decide⟩

/-- **The tuning command leaves nothing behind** once it has returned. -/
theorem mshcSendTuningCommand_clean (retune setSignaling : MshcHost → MshcHost)
    (speed : TuningSpeed) (busWidth8Bit : Bool) (input : SyncInput) (inputs : List SyncInput)
    {h h' : MshcHost} (hinit : h.initialized = true) (htuning : h.tuningPerformed = false)
    (hclean : Clean .tuning h)
    (hreturn : mshcSendTuningCommand retune setSignaling speed busWidth8Bit input inputs h
      = some h') : Clean .tuning h' := by
  have hrequest := h.put_requests .tuning (tuningRequest busWidth8Bit)
  obtain ⟨haccept, hbusy⟩ := tuningRequest_spec busWidth8Bit
  obtain ⟨hsent, hsame⟩ := sendTuningRequest_clean retune setSignaling input
    (h := h.put .tuning (tuningRequest busWidth8Bit)) hinit htuning (hrequest ▸ haccept)
    (hrequest ▸ hbusy)
  unfold mshcSendTuningCommand at hreturn
  generalize sendTuningRequest retune setSignaling input
    (h.put .tuning (tuningRequest busWidth8Bit)) = sent at hreturn hsent hsame
  split at hreturn
  · exact Option.some.inj hreturn ▸ hclean
  · dsimp only at hreturn
    split at hreturn
    · exact Option.some.inj hreturn ▸ hsent
    · have hcommand : (sent.1.requests .tuning).command = (tuningRequest busWidth8Bit).command := by
        rw [hsame.command, hrequest]
      refine tuningTransfer_clean retune setSignaling inputs
        (h := sent.1.put .tuning { sent.1.requests .tuning with type := .startTransfer })
        (hsame.initialized.trans hinit) (hsame.tuningPerformed.trans htuning) ?_ ?_ ?_ hreturn
      · rw [MshcHost.put_requests]
      · rw [MshcHost.put_requests, hcommand]
        rfl
      · rw [MshcHost.put_requests, hcommand]
        exact hbusy

end WoaRk3576.Sd
