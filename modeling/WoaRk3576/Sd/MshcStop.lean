/-
# The stop command of dwcmshc

The stop command is the one local command without error recovery.  Its dead request stays published
unless a completion with success releases it before the caller returns, and two things can bring
that about:

* the local DPC takes the card's response while no error is known, and the card is not busy then;
* a busy worker runs while the command is published.  `MshcCompleteRequestBusyWorker` completes
  whatever request it finds in `OutstandingRequest`, so it does not matter for which request it was
  queued: by the DPC for this command, or by an earlier write that the caller's reset ended.

`StopStage` keeps, of everything that runs beside the caller, only what these two depend on, and
`StopStage.after` is where the hardware and the order of DPC and worker take the command.
`Activity.run_stage` says that every activity moves the extension as it moves the stage; nothing is
assumed of the extension before the command, since issuing it sets all that the stage speaks of
except the two queues, and these are where the first stage begins.

`local_commands_clean` is the result for all the local commands: the stop command leaves its dead
request published unless it was released in time, the others leave nothing, and a request that is
refused would be left as it was published.
-/
import Mathlib.Data.Finset.Lattice.Lemmas
import Mathlib.Data.Finset.SDiff
import WoaRk3576.Sd.MshcLocal

namespace WoaRk3576.Sd

/-! ## 1. How far the command has come

The stop command is busy afterwards, so its end may be left to the worker.  A stage is what is left
of the extension if one only asks how the command ends: a response in three states, the events of
it, and whether the DPC, the worker and the caller are still there.  Each activity is a function of
stages, and the worker of an earlier request is one of them, queued from the start. -/

/-- The line is idle in the end. -/
def DataLine.settles : DataLine → Bool
  | .idle => true
  | .busyTimeout => false
  | .busyIdle again => again.settles

/-- What became of the card's response: a response is `taken` when the command waits for nothing
more, also where an error ended it, and `released` is a command that was completed with success. -/
inductive StopResponse
  | awaited
  | taken
  | released
  deriving DecidableEq, Repr

/-- **How far a stop command has come**: its response, the events and errors that were reported
while the caller waited, whether the local DPC and a busy worker are queued, and whether the caller
still waits. -/
structure StopStage where
  response : StopResponse
  events : Finset SdEvent
  errors : Finset SdError
  dpc : Bool
  worker : Bool
  waited : Bool
  deriving DecidableEq

namespace StopStage

/-- A command that was just issued, with the queues as the issue finds them. -/
def issued (dpc worker : Bool) : StopStage := ⟨.awaited, ∅, ∅, dpc, worker, true⟩

/-- Events are kept for the local DPC as long as the caller waits. -/
def interrupt (events : Finset SdEvent) (errors : Finset SdError) (cardChange : Bool)
    (s : StopStage) : StopStage :=
  if s.waited = true ∧ (events ≠ ∅ ∨ errors ≠ ∅ ∨ cardChange = true) then
    { s with events := s.events ∪ events, errors := s.errors ∪ errors, dpc := true }
  else s

/-- The response was taken without an error: a busy card is left to the worker, or waited for
where there is no work item. -/
def takeResponse (workItem : Bool) (data : DataLine) (s : StopStage) : StopStage :=
  if data ≠ .idle ∧ workItem = true then { s with response := .taken, worker := true }
  else { s with response := if data.settles then .released else .taken, waited := false }

/-- An error ends the command, unless it is held back for an event that is to come. -/
def fail (s : StopStage) : StopStage :=
  if HeldBack s.events s.errors then
    { s with response := if .cardResponse ∈ s.events then .taken else s.response }
  else { s with response := .taken, waited := false }

def localDpc (workItem : Bool) (data : DataLine) (s : StopStage) : StopStage :=
  if s.dpc = false then s
  else if s.response ≠ .awaited then { s with dpc := false }
  else if s.errors ≠ ∅ then fail { s with dpc := false }
  else if .cardResponse ∈ s.events then takeResponse workItem data { s with dpc := false }
  else { s with dpc := false }

/-- The worker completes a published command.  It reads the data line again only where the
response was taken: before that `RequiredEvents` is not empty. -/
def busyWorker (wait : DataWait) (s : StopStage) : StopStage :=
  if s.worker = false then s
  else
    match s.response, wait with
    | .released, _ => { s with worker := false }
    | _, .timeout => { s with worker := false, waited := false }
    | .awaited, .idle _ => { s with response := .released, worker := false, waited := false }
    | .taken, .idle again =>
      { s with
        response := if again.settles then .released else .taken
        worker := false
        waited := false }

/-- What an activity does to a command; `workItem` is whether the worker can be queued. -/
def next (workItem : Bool) (s : StopStage) : Activity → StopStage
  | .interrupt events errors cardChange => s.interrupt events errors cardChange
  | .localDpc data _ => s.localDpc workItem data
  | .busyWorker wait _ => s.busyWorker wait

/-- Where everything that runs until the caller returns takes the command: the caller looks once
after each of the lists, and `n` times in all. -/
def after (workItem : Bool) (polls : Nat → List Activity) : Nat → StopStage → StopStage
  | 0, s => (polls 0).foldl (next workItem) s
  | n + 1, s =>
    let s := (polls (n + 1)).foldl (next workItem) s
    if s.waited = true then after workItem polls n s else s

end StopStage

/-- **The command is released in time**, from the queues that its issue finds. -/
def Answered (h : MshcHost) (polls : Nat → List Activity) : Prop :=
  (StopStage.after h.completeRequestBusyWorkItem polls (pollCount 1000000)
    (.issued h.localRequestDpc h.busyWorker.isSome)).response = .released

/-! ## 2. The extension in each stage

`InStage` is the connection, as a relation between a stage and an extension.  Everything that the
next step of the driver looks at is a field of the stage. -/

/-- **What the extension looks like.**  The events and errors matter only while the response is
awaited: a DPC that finds nothing required does nothing. -/
structure InStage (s : StopStage) (h : MshcHost) : Prop where
  waited : h.localRequestPending = s.waited
  dpc : h.localRequestDpc = s.dpc
  worker : h.busyWorker.isSome = s.worker
  mayBusy : (h.requests .stop).command.mayBusy
  outstanding : h.outstandingRequest = if s.response = .released then none else some .stop
  taken : s.response = .taken → (h.requests .stop).requiredEvents = ∅
  awaited : s.response = .awaited → (h.requests .stop).requiredEvents = {.cardResponse}
    ∧ (h.requests .stop).status ≠ .moreProcessingRequired
    ∧ h.currentEvents = s.events ∧ h.currentErrors = s.errors

theorem InStage.published {s : StopStage} {h : MshcHost} (hs : InStage s h)
    (hr : s.response ≠ .released) : h.outstandingRequest = some .stop :=
  hs.outstanding.trans (if_neg hr)

/-! ## 3. Completions of the command

A completion is looked into once, for the stop command.  It ends in one of three ways: released,
published and over, or left to the worker; which of them depends on the status and the data line
only. -/

/-- **`h'` is `h` with the stop command finished**, and released if `released` is true. -/
structure Finished (released : Bool) (h h' : MshcHost) : Prop where
  outstanding : h'.outstandingRequest = if released then none else some .stop
  pending : h'.localRequestPending = false
  dpc : h'.localRequestDpc = h.localRequestDpc
  worker : h'.busyWorker = h.busyWorker
  events : h'.currentEvents = h.currentEvents
  errors : h'.currentErrors = h.currentErrors
  command : (h'.requests .stop).command = (h.requests .stop).command
  required : (h'.requests .stop).requiredEvents = (h.requests .stop).requiredEvents
  status : (h'.requests .stop).status ≠ .moreProcessingRequired

theorem finishRequest_finished (inserted : Bool) {status : NtStatus} {h : MshcHost}
    (hout : h.outstandingRequest = some .stop) (hstatus : status ≠ .moreProcessingRequired) :
    Finished (decide status.Releases) h
      (finishRequest inserted .stop (h.setStatus .stop status)) where
  outstanding := by
    rw [finishRequest_outstanding, MshcHost.setStatus_requests]
    simp only [decide_eq_true_eq]
    split
    · rfl
    · exact hout
  pending := finishRequest_pending ..
  dpc := finishRequest_localRequestDpc ..
  worker := finishRequest_busyWorker ..
  events := (finishRequest_currentEvents ..)
  errors := (finishRequest_currentErrors ..)
  command := ((Kept.setStatus h .stop status).trans (finishRequest_kept ..)).command .stop
  required := (finishRequest_required ..).trans (h.setStatus_required ..)
  status := by
    rw [finishRequest_requests]
    cases inserted with
    | true => simpa using hstatus
    | false => simp

theorem completeRequest_of_not_waits (inserted dispatch : Bool) (data : DataLine)
    (r : RequestId) {status : NtStatus} {h : MshcHost}
    (hwaits : ¬ (h.setStatus r status).WaitsForIdle r status) :
    completeRequest inserted dispatch data r status h
      = finishRequest inserted r (h.setStatus r status) := by
  cases data with
  | idle => rfl
  | busyTimeout | busyIdle again =>
    unfold completeRequest
    exact if_neg hwaits

theorem completeRequest_queue (inserted dispatch : Bool) {data : DataLine}
    (hdata : data ≠ .idle) (r : RequestId) {status : NtStatus} {h : MshcHost}
    (hwaits : (h.setStatus r status).WaitsForIdle r status)
    (hqueue : (h.setStatus r status).Queues dispatch) :
    completeRequest inserted dispatch data r status h
      = { h.setStatus r status with busyWorker := some ⟨r, h.issues⟩ } := by
  cases data with
  | idle => exact absurd rfl hdata
  | busyTimeout | busyIdle again =>
    unfold completeRequest
    exact (if_pos hwaits).trans (if_pos hqueue)

/-- A request that succeeded and may leave the card busy. -/
theorem setStatus_waitsForIdle {r : RequestId} {h : MshcHost}
    (hrequired : (h.requests r).requiredEvents = ∅) (hbusy : (h.requests r).command.mayBusy) :
    (h.setStatus r .success).WaitsForIdle r .success := by
  refine ⟨rfl, ?_, ?_⟩
  · rw [MshcHost.setStatus_required, hrequired]
  · rw [MshcHost.setStatus_requests]
    exact hbusy

/-- What a completion leaves of the command before it goes on. -/
theorem Finished.of_recordRun {released : Bool} {status : NtStatus} {ticket : Ticket}
    {h h' : MshcHost}
    (hf : Finished released ((h.setStatus .stop status).recordRun ticket) h') :
    Finished released h h' where
  outstanding := hf.outstanding
  pending := hf.pending
  dpc := hf.dpc
  worker := hf.worker
  events := hf.events
  errors := hf.errors
  command := hf.command.trans ((Kept.setStatus h .stop status).command .stop)
  required := hf.required.trans (h.setStatus_required ..)
  status := hf.status

/-- **The wait decides**: a command whose card becomes idle is released, and one whose card stays
busy is not. -/
theorem completeRequest_settles (inserted dispatch : Bool) (data : DataLine) {h : MshcHost}
    (hout : h.outstandingRequest = some .stop)
    (hrequired : (h.requests .stop).requiredEvents = ∅)
    (hbusy : (h.requests .stop).command.mayBusy)
    (hqueue : data = .idle ∨ ¬ h.Queues dispatch) :
    Finished data.settles h (completeRequest inserted dispatch data .stop .success h) := by
  induction data generalizing h with
  | idle =>
    have hfinished : Finished (decide NtStatus.success.Releases) h _ :=
      finishRequest_finished inserted hout (by decide)
    exact hfinished
  | busyTimeout =>
    have hwaits := setStatus_waitsForIdle hrequired hbusy
    have hnot : ¬ h.Queues dispatch := hqueue.resolve_left (by decide)
    have hout' : (h.setStatus .stop .success).outstandingRequest = some .stop := hout
    have heq : completeRequest inserted dispatch .busyTimeout .stop .success h
        = finishRequest inserted .stop
          (((h.setStatus .stop .success).recordRun ⟨.stop, h.issues⟩).setStatus .stop
            .ioTimeout) := by
      unfold completeRequest
      dsimp only
      rw [if_pos hwaits, if_neg (show ¬ (h.setStatus .stop .success).Queues dispatch from hnot),
        hout']
      rfl
    have hfinished : Finished (decide NtStatus.ioTimeout.Releases)
        ((h.setStatus .stop .success).recordRun ⟨.stop, h.issues⟩) _ :=
      finishRequest_finished inserted hout (by decide)
    rw [heq]
    exact hfinished.of_recordRun
  | busyIdle again ih =>
    have hwaits := setStatus_waitsForIdle hrequired hbusy
    have hnot : ¬ h.Queues dispatch := hqueue.resolve_left (fun hn => by cases hn)
    have hout' : (h.setStatus .stop .success).outstandingRequest = some .stop := hout
    have heq : completeRequest inserted dispatch (.busyIdle again) .stop .success h
        = completeRequest inserted dispatch again .stop .success
          ((h.setStatus .stop .success).recordRun ⟨.stop, h.issues⟩) := by
      rw [completeRequest]
      rw [if_pos hwaits, if_neg (show ¬ (h.setStatus .stop .success).Queues dispatch from hnot),
        hout']
      rfl
    have hagain : Finished again.settles
        ((h.setStatus .stop .success).recordRun ⟨.stop, h.issues⟩) _ :=
      ih hout hwaits.2.1 hwaits.2.2 (Or.inr hnot)
    rw [heq]
    exact hagain.of_recordRun

theorem convertError_not_releases {errors : Finset SdError} (h : errors ≠ ∅) :
    ¬ (mshcConvertStandardErrorToStatus errors).Releases := by
  unfold mshcConvertStandardErrorToStatus
  rw [if_neg h]
  repeat' split
  all_goals decide

/-- An error ends a command without releasing it. -/
theorem failRequest_finished (c : CallContext) {errors : Finset SdError} (herrors : errors ≠ ∅)
    {h : MshcHost} (hout : h.outstandingRequest = some .stop) :
    ∃ g : MshcHost, Finished false g (failRequest c .stop errors h)
      ∧ g.localRequestDpc = h.localRequestDpc ∧ g.busyWorker = h.busyWorker
      ∧ (g.requests .stop).requiredEvents = ∅
      ∧ (g.requests .stop).command = (h.requests .stop).command := by
  unfold failRequest mshcCompleteRequest
  dsimp only
  have hstatus := convertError_not_releases herrors
  have hfinish : ∀ g : MshcHost, g.outstandingRequest = some .stop →
      Finished false g (completeRequest c.inserted c.dispatch c.data .stop
        (mshcConvertStandardErrorToStatus errors) g) := by
    intro g hg
    rw [completeRequest_of_not_waits _ _ _ _ fun hwaits => hstatus (Or.inl hwaits.1)]
    have hfinished := finishRequest_finished c.inserted hg
      (fun hn => hstatus (Or.inr hn))
    rwa [decide_eq_false hstatus] at hfinished
  refine ⟨_, hfinish _ ?_, ?_, ?_, ?_, ?_⟩
  · split
    · exact hout
    · exact hout
  · split <;> rfl
  · split <;> rfl
  · exact congrArg SdRequest.requiredEvents (MshcHost.setRequired_requests ..)
  · refine (congrArg SdRequest.command (MshcHost.setRequired_requests ..)).trans ?_
    split <;> rfl

/-- A finished command is released, or it waits for nothing more. -/
theorem Finished.inStage {released : Bool} {g h' : MshcHost} (hf : Finished released g h')
    (hbusy : (g.requests .stop).command.mayBusy)
    (hrequired : (g.requests .stop).requiredEvents = ∅) {s : StopStage}
    (hdpc : g.localRequestDpc = s.dpc) (hworker : g.busyWorker.isSome = s.worker) :
    InStage { s with response := if released then .released else .taken, waited := false } h' where
  waited := hf.pending
  dpc := hf.dpc.trans hdpc
  worker := (congrArg Option.isSome hf.worker).trans hworker
  mayBusy := hf.command ▸ hbusy
  outstanding := by
    rw [hf.outstanding]
    cases released <;> rfl
  taken := fun _ => hf.required.trans hrequired
  awaited := fun hn => by cases released <;> cases hn

/-! ## 4. A step of each activity

For every activity and every stage: the driver's function leads from an extension in the stage to
one in the next stage.  The cases are those of the source.  A worker that comes before the
response, for whatever it was queued, reads the outstanding request and completes the stop command.
-/

theorem interrupt_stage (events : Finset SdEvent) (errors : Finset SdError) (cardChange : Bool)
    {s : StopStage} {h : MshcHost} (hs : InStage s h) :
    InStage (s.interrupt events errors cardChange)
      (mshcSlotInterrupt events errors cardChange h).1 := by
  unfold StopStage.interrupt mshcSlotInterrupt
  by_cases hrecord : s.waited = true ∧ (events ≠ ∅ ∨ errors ≠ ∅ ∨ cardChange = true)
  · rw [if_pos hrecord, if_pos ⟨hrecord.2, hs.waited.trans hrecord.1⟩]
    refine ⟨hs.waited, rfl, hs.worker, hs.mayBusy, hs.outstanding, hs.taken, fun hr => ?_⟩
    obtain ⟨hrequired, hstatus, hevents, herrors⟩ := hs.awaited hr
    exact ⟨hrequired, hstatus, congrArg (· ∪ events) hevents, congrArg (· ∪ errors) herrors⟩
  · rw [if_neg hrecord, if_neg fun hn => hrecord ⟨hs.waited.symm.trans hn.2, hn.1⟩]
    exact hs

/-- Taking the DPC off its queue. -/
theorem InStage.dequeueDpc {s : StopStage} {h : MshcHost} (hs : InStage s h) :
    InStage { s with dpc := false } { h with localRequestDpc := false } :=
  ⟨hs.waited, rfl, hs.worker, hs.mayBusy, hs.outstanding, hs.taken, hs.awaited⟩

/-- A DPC that finds nothing to advance. -/
theorem mshcLocalRequestDpc_idle (c : CallContext) {s : StopStage} {h : MshcHost}
    (hs : InStage s h) (hdpc : s.dpc = true) (hr : s.response ≠ .awaited) :
    mshcLocalRequestDpc c h = { h with localRequestDpc := false } := by
  unfold mshcLocalRequestDpc
  rw [if_pos (hs.dpc.trans hdpc)]
  dsimp only
  cases hresponse : s.response with
  | awaited => exact absurd hresponse hr
  | taken =>
    rw [hs.published (by rw [hresponse]; decide)]
    exact if_pos (Or.inr (hs.taken hresponse))
  | released => rw [hs.outstanding.trans (if_pos hresponse)]

/-- A DPC that finds the response awaited: the events it hands on are those that are recorded
already. -/
theorem mshcLocalRequestDpc_awaited (c : CallContext) {s : StopStage} {h : MshcHost}
    (hs : InStage s h) (hdpc : s.dpc = true) (hr : s.response = .awaited) :
    mshcLocalRequestDpc c h
      = if s.events = ∅ ∧ s.errors = ∅ then { h with localRequestDpc := false }
        else advanceRequest c .stop s.events { h with localRequestDpc := false } := by
  obtain ⟨hrequired, -, hevents, herrors⟩ := hs.awaited hr
  have hout := hs.published (by rw [hr]; decide)
  have hne : ¬ (h.requests .stop).requiredEvents = ∅ := by
    rw [hrequired]
    decide
  unfold mshcLocalRequestDpc
  rw [if_pos (hs.dpc.trans hdpc)]
  dsimp only
  rw [hout]
  unfold mshcRequestDpc
  dsimp only
  rw [hevents, herrors, Finset.union_self, Finset.union_self]
  by_cases hnone : s.events = ∅ ∧ s.errors = ∅
  · rw [if_pos hnone, if_pos (Or.inl hnone)]
  · rw [if_neg hnone, if_neg (not_or.mpr ⟨hnone, hne⟩),
      if_neg (fun hn => by cases hout.symm.trans hn)]
    rw [← hevents, ← herrors]

/-- **The events are taken off what the command requires**, which is the response only. -/
theorem InStage.takeOff {s : StopStage} {h : MshcHost} (hs : InStage s h)
    (hr : s.response = .awaited) :
    InStage { s with response := if .cardResponse ∈ s.events then .taken else s.response }
      (h.setRequired .stop ((h.requests .stop).requiredEvents \ s.events)) := by
  obtain ⟨hrequired, hstatus, hevents, herrors⟩ := hs.awaited hr
  have hout := hs.published (by rw [hr]; decide)
  have hset : ((h.setRequired .stop ((h.requests .stop).requiredEvents \ s.events)).requests
      .stop).requiredEvents = {.cardResponse} \ s.events := by
    rw [MshcHost.setRequired_requests, hrequired]
  have hbusy : ((h.setRequired .stop ((h.requests .stop).requiredEvents \ s.events)).requests
      .stop).command.mayBusy := by
    rw [MshcHost.setRequired_requests]
    exact hs.mayBusy
  by_cases hmem : SdEvent.cardResponse ∈ s.events
  · rw [if_pos hmem]
    refine ⟨hs.waited, hs.dpc, hs.worker, hbusy, hout, fun _ => ?_, fun hn => by cases hn⟩
    rw [hset]
    exact Finset.sdiff_eq_empty_iff_subset.2 (Finset.singleton_subset_iff.2 hmem)
  · rw [if_neg hmem]
    refine ⟨hs.waited, hs.dpc, hs.worker, hbusy, hs.outstanding,
      fun hn => (by cases hr.symm.trans hn), fun _ => ⟨?_, ?_, hevents, herrors⟩⟩
    · rw [hset]
      exact Finset.sdiff_eq_self_of_disjoint (Finset.disjoint_singleton_left.2 hmem)
    · rw [MshcHost.setRequired_status]
      exact hstatus

/-- **The DPC takes the response**: the command is completed with success. -/
theorem takeResponse_stage (data : DataLine) (inserted : Bool) {s : StopStage} {g : MshcHost}
    (hout : g.outstandingRequest = some .stop) (hwaited : g.localRequestPending = s.waited)
    (hrequired : (g.requests .stop).requiredEvents = ∅)
    (hbusy : (g.requests .stop).command.mayBusy) (hdpc : g.localRequestDpc = s.dpc)
    (hworker : g.busyWorker.isSome = s.worker) :
    InStage (s.takeResponse g.completeRequestBusyWorkItem data)
      (mshcCompleteRequest ⟨data, inserted, true⟩ .stop .success g) := by
  unfold StopStage.takeResponse mshcCompleteRequest
  by_cases hqueue : data ≠ .idle ∧ g.completeRequestBusyWorkItem = true
  · rw [if_pos hqueue, completeRequest_queue inserted true hqueue.1 .stop
      (setStatus_waitsForIdle hrequired hbusy) ⟨hqueue.2, rfl⟩]
    refine ⟨hwaited, hdpc, rfl, ?_, hout, fun _ => ?_, fun hn => by cases hn⟩
    · exact ((Kept.setStatus g .stop .success).command .stop).symm ▸ hbusy
    · exact (g.setStatus_required ..).trans hrequired
  · rw [if_neg hqueue]
    have hnot : data = .idle ∨ ¬ g.Queues true := by
      by_cases hdata : data = .idle
      · exact Or.inl hdata
      · exact Or.inr fun hq => hqueue ⟨hdata, hq.1⟩
    exact (completeRequest_settles inserted true data hout hrequired hbusy hnot).inStage hbusy
      hrequired hdpc hworker

/-- **A DPC with an error**: the command is ended, or the error is held back. -/
theorem fail_stage (c : CallContext) {s : StopStage} {h : MshcHost} (hs : InStage s h)
    (hr : s.response = .awaited) (herr : s.errors ≠ ∅) :
    InStage s.fail (advanceRequest c .stop s.events h) := by
  obtain ⟨-, -, -, herrors⟩ := hs.awaited hr
  have hoff := hs.takeOff hr
  unfold advanceRequest StopStage.fail
  dsimp only
  have hcurrent : (h.setRequired .stop
      ((h.requests .stop).requiredEvents \ s.events)).currentErrors = s.errors := herrors
  rw [hcurrent, if_pos herr]
  by_cases hheld : HeldBack s.events s.errors
  · rw [if_pos hheld, if_pos hheld]
    exact hoff
  · rw [if_neg hheld, if_neg hheld]
    generalize h.setRequired .stop ((h.requests .stop).requiredEvents \ s.events) = g at hoff ⊢
    obtain ⟨g', hfinished, hdpc, hworker, hrequired, hcommand⟩ :=
      failRequest_finished c herr (hoff.published (by split <;> simp [hr]))
    exact hfinished.inStage (hcommand.symm ▸ hoff.mayBusy) hrequired (hdpc.trans hoff.dpc)
      (hworker ▸ hoff.worker)

/-- **A DPC without an error**: the command is completed if the response is there. -/
theorem succeed_stage (data : DataLine) (inserted : Bool) {s : StopStage} {h : MshcHost}
    (hs : InStage s h) (hr : s.response = .awaited) (herr : s.errors = ∅) :
    InStage
      (if .cardResponse ∈ s.events then s.takeResponse h.completeRequestBusyWorkItem data else s)
      (advanceRequest ⟨data, inserted, true⟩ .stop s.events h) := by
  obtain ⟨-, hstatus, -, herrors⟩ := hs.awaited hr
  have hoff := hs.takeOff hr
  have hout := hs.published (by rw [hr]; decide)
  unfold advanceRequest
  dsimp only
  have hcurrent : (h.setRequired .stop
      ((h.requests .stop).requiredEvents \ s.events)).currentErrors = s.errors := herrors
  rw [hcurrent, if_neg (not_not.mpr herr), MshcHost.setRequired_status]
  by_cases hmem : SdEvent.cardResponse ∈ s.events
  · rw [if_pos hmem] at hoff
    rw [if_pos hmem, if_pos (hoff.taken rfl), if_neg hstatus]
    have hsame : (h.setRequired .stop ((h.requests .stop).requiredEvents
        \ s.events)).completeRequestBusyWorkItem = h.completeRequestBusyWorkItem := rfl
    rw [← hsame]
    exact takeResponse_stage data inserted hout hoff.waited (hoff.taken rfl) hoff.mayBusy
      hoff.dpc hoff.worker
  · rw [if_neg hmem] at hoff
    have hleft := (hoff.awaited hr).1
    rw [if_neg hmem, if_neg (by rw [hleft]; decide)]
    exact hoff

theorem localDpc_stage (data : DataLine) (inserted : Bool) {s : StopStage} {h : MshcHost}
    (hs : InStage s h) :
    InStage (s.localDpc h.completeRequestBusyWorkItem data)
      (mshcLocalRequestDpc ⟨data, inserted, true⟩ h) := by
  unfold StopStage.localDpc
  cases hdpc : s.dpc with
  | false =>
    have hsame : mshcLocalRequestDpc ⟨data, inserted, true⟩ h = h := by
      unfold mshcLocalRequestDpc
      exact if_neg fun hn => by cases (hs.dpc.trans hdpc).symm.trans hn
    rw [if_pos rfl, hsame]
    exact hs
  | true =>
    have hs' := hs.dequeueDpc
    rw [if_neg (by decide)]
    by_cases hr : s.response = .awaited
    · rw [if_neg (not_not.mpr hr), mshcLocalRequestDpc_awaited _ hs hdpc hr]
      by_cases hnone : s.events = ∅ ∧ s.errors = ∅
      · rw [if_pos hnone, if_neg (not_not.mpr hnone.2),
          if_neg (by rw [hnone.1]; exact Finset.notMem_empty _)]
        exact hs'
      · rw [if_neg hnone]
        by_cases herr : s.errors = ∅
        · rw [if_neg (not_not.mpr herr)]
          exact succeed_stage data inserted hs' hr herr
        · rw [if_pos herr]
          exact fail_stage _ hs' hr herr
    · rw [if_pos hr, mshcLocalRequestDpc_idle _ hs hdpc hr]
      exact hs'

/-- Taking the worker off its queue. -/
theorem InStage.dequeueWorker {s : StopStage} {h : MshcHost} (hs : InStage s h)
    (ticket : Ticket) :
    InStage { s with worker := false }
      (({ h with busyWorker := none } : MshcHost).recordRun ticket) :=
  ⟨hs.waited, hs.dpc, rfl, hs.mayBusy, hs.outstanding, hs.taken, hs.awaited⟩

/-- The worker's wait was in vain: the command is given up, and not released. -/
theorem workerTimeout_stage (inserted : Bool) {s : StopStage} {h : MshcHost}
    (hs : InStage s h) (hr : s.response ≠ .released) :
    InStage { s with waited := false }
      (completeRequest inserted false .idle .stop .ioTimeout h) := by
  have hfinished : Finished (decide NtStatus.ioTimeout.Releases) h _ :=
    finishRequest_finished inserted (hs.published hr) (by decide)
  refine ⟨hfinished.pending, hfinished.dpc.trans hs.dpc,
    (congrArg Option.isSome hfinished.worker).trans hs.worker, ?_, ?_, fun ht => ?_, fun ha => ?_⟩
  · exact hfinished.command ▸ hs.mayBusy
  · exact hfinished.outstanding.trans (if_neg hr).symm
  · exact hfinished.required.trans (hs.taken ht)
  · obtain ⟨hrequired, -, hevents, herrors⟩ := hs.awaited ha
    exact ⟨hfinished.required.trans hrequired, hfinished.status, hfinished.events.trans hevents,
      hfinished.errors.trans herrors⟩

/-- A worker that comes before the response completes the command all the same. -/
theorem workerEarly_stage (inserted : Bool) (again : DataLine) {s : StopStage} {h : MshcHost}
    (hs : InStage s h) (hr : s.response = .awaited) :
    InStage { s with response := .released, waited := false }
      (completeRequest inserted false again .stop .success h) := by
  have hout := hs.published (by rw [hr]; decide)
  have hwaits : ¬ (h.setStatus .stop .success).WaitsForIdle .stop .success := by
    intro hn
    have hrequired := hn.2.1
    rw [MshcHost.setStatus_required, (hs.awaited hr).1] at hrequired
    exact absurd hrequired (by decide)
  have hfinished : Finished (decide NtStatus.success.Releases) h _ :=
    finishRequest_finished inserted hout (by decide)
  rw [completeRequest_of_not_waits _ _ _ _ hwaits]
  exact ⟨hfinished.pending, hfinished.dpc.trans hs.dpc,
    (congrArg Option.isSome hfinished.worker).trans hs.worker, hfinished.command ▸ hs.mayBusy,
    hfinished.outstanding, fun hn => (by cases hn), fun hn => (by cases hn)⟩

/-- **The worker ends a published command**, whatever it was queued for. -/
theorem busyWorker_stage (wait : DataWait) (inserted : Bool) {s : StopStage} {h : MshcHost}
    (hs : InStage s h) :
    InStage (s.busyWorker wait) (mshcCompleteRequestBusyWorker inserted wait h) := by
  unfold StopStage.busyWorker mshcCompleteRequestBusyWorker
  cases hworker : h.busyWorker with
  | none =>
    have hnone : s.worker = false := by rw [← hs.worker, hworker]; rfl
    rw [if_pos hnone]
    exact hs
  | some ticket =>
    have hsome : s.worker = true := by rw [← hs.worker, hworker]; rfl
    have hrun := hs.dequeueWorker ticket
    rw [if_neg (by rw [hsome]; decide)]
    dsimp only
    generalize ({ h with busyWorker := none } : MshcHost).recordRun ticket = g at hrun ⊢
    cases hresponse : s.response with
    | released =>
      rw [hrun.outstanding.trans (if_pos hresponse)]
      simpa only [hresponse] using hrun
    | awaited =>
      have hr : s.response ≠ .released := by rw [hresponse]; decide
      rw [hrun.published hr]
      cases wait with
      | timeout => simpa only [hresponse] using workerTimeout_stage inserted hrun hr
      | idle again => exact workerEarly_stage inserted again hrun hresponse
    | taken =>
      have hr : s.response ≠ .released := by rw [hresponse]; decide
      rw [hrun.published hr]
      cases wait with
      | timeout => simpa only [hresponse] using workerTimeout_stage inserted hrun hr
      | idle again =>
        have hsettles := completeRequest_settles inserted false again (hrun.published hr)
          (hrun.taken hresponse) hrun.mayBusy (Or.inr fun hq => by cases hq.2)
        exact hsettles.inStage hrun.mayBusy (hrun.taken hresponse) hrun.dpc hrun.worker

/-- **Each activity takes the extension from stage to stage.** -/
theorem Activity.run_stage (a : Activity) {s : StopStage} {h : MshcHost} (hs : InStage s h) :
    InStage (s.next h.completeRequestBusyWorkItem a) (a.run h) := by
  cases a with
  | interrupt events errors cardChange => exact interrupt_stage events errors cardChange hs
  | localDpc data inserted => exact localDpc_stage data inserted hs
  | busyWorker wait inserted => exact busyWorker_stage wait inserted hs

/-! ## 5. The wait

The polling loop is the same loop over stages, so the end of the wait is the stage that all that
ran leads to. -/

theorem runAll_stage (as : List Activity) {s : StopStage} {h : MshcHost} (hs : InStage s h) :
    InStage (as.foldl (StopStage.next h.completeRequestBusyWorkItem) s) (runAll as h) := by
  induction as generalizing s h with
  | nil => exact hs
  | cons a as ih =>
    have hrest := ih (a.run_stage hs)
    rw [(a.run_kept h).workItem] at hrest
    exact hrest

/-- **The wait ends in the stage that all that ran leads to**: the caller looks at
`LocalRequestPending`, which is whether the stage is still waited for. -/
theorem pollLoop_stage (polls : Nat → List Activity) (n : Nat) {s : StopStage} {h : MshcHost}
    (hs : InStage s h) :
    InStage (StopStage.after h.completeRequestBusyWorkItem polls n s) (pollLoop polls n h).1 := by
  induction n generalizing s h with
  | zero => exact runAll_stage (polls 0) hs
  | succ n ih =>
    have hrun := runAll_stage (polls (n + 1)) hs
    have hitem := (runAll_kept (polls (n + 1)) h).workItem
    unfold pollLoop StopStage.after
    dsimp only
    rw [hrun.waited]
    cases hover : ((polls (n + 1)).foldl (StopStage.next h.completeRequestBusyWorkItem) s).waited with
    | false =>
      rw [if_pos rfl, if_neg (by decide)]
      exact hrun
    | true =>
      have hrest := ih hrun
      rw [hitem] at hrest
      rw [if_pos rfl, if_neg (by decide)]
      exact hrest

/-! ## 6. What the commands leave behind

Without recovery the caller does nothing about a request that failed.  So the command is clean
exactly if it was released, which is a question about the stage at the end of the wait. -/

/-- The stop command, once it is issued: whatever was queued before is queued still. -/
theorem mshcSlotIssueRequest_stop (c : CallContext) (h : MshcHost) :
    InStage (.issued h.localRequestDpc h.busyWorker.isSome)
      (mshcSlotIssueRequest c .stop
        { h.put .stop stopRequest with localRequestPending := true }).1 := by
  have hrequest : (h.put .stop stopRequest).requests .stop = stopRequest := h.put_requests ..
  unfold mshcSlotIssueRequest mshcSendCommand sendBuiltCommand
  dsimp only
  rw [hrequest]
  refine ⟨rfl, rfl, rfl, ?_, rfl, fun hn => (by cases hn), fun _ => ⟨?_, ?_, rfl, rfl⟩⟩
  · show (((_ : MshcHost).setRequired .stop _).requests .stop).command.mayBusy
    rw [MshcHost.setRequired_requests]
    exact hrequest ▸ Or.inl rfl
  · show (((_ : MshcHost).setRequired .stop _).requests .stop).requiredEvents = _
    rw [MshcHost.setRequired_requests]
    rfl
  · show (((_ : MshcHost).setRequired .stop _).requests .stop).status ≠ _
    rw [MshcHost.setRequired_status]
    rw [hrequest]
    decide

/-- **The stop command is clean exactly when it was released in time.** -/
theorem mshcSendStopCommand_clean_iff (input : WaitInput) (h : MshcHost) :
    Clean .stop (mshcSendStopCommand input h).1 ↔ Answered h input.polls := by
  have hissued := mshcSlotIssueRequest_stop input.context h
  have hitem := (mshcSlotIssueRequest_kept input.context .stop
    { h.put .stop stopRequest with localRequestPending := true }).workItem
  unfold mshcSendStopCommand
  rw [sync_pending _ _ _ (stopRequest_accepted h)]
  generalize (mshcSlotIssueRequest input.context .stop
    { h.put .stop stopRequest with localRequestPending := true }).1 = g at hissued hitem
  have hstage := pollLoop_stage input.polls (pollCount 1000000) hissued
  rw [show g.completeRequestBusyWorkItem = h.completeRequestBusyWorkItem from hitem] at hstage
  generalize pollLoop input.polls (pollCount 1000000) g = waited at hstage
  have hpending : (endWait .stop waited).localRequestPending = false := by
    unfold endWait
    split <;> rfl
  have hout : (endWait .stop waited).outstandingRequest = waited.1.outstandingRequest := by
    unfold endWait
    split <;> rfl
  unfold Answered Clean
  dsimp only
  rw [hout, hstage.outstanding]
  constructor
  · rintro ⟨hclean, -⟩
    by_contra hr
    exact hclean (if_neg hr)
  · intro hr
    rw [if_pos hr]
    exact ⟨fun hn => (by cases hn), hpending⟩

/-- A request that the issue refuses. -/
def SdRequest.Refused (request : SdRequest) : Prop :=
  ¬ request.Accepted
    ∧ ¬ (request.type = .startTransfer ∧ request.command.transferMethod = .sgDma)

theorem sendBuiltCommand_refused {r : RequestId} {h : MshcHost}
    (hresponse : (h.requests r).command.responseType = .undefined) :
    sendBuiltCommand r h = (h, .invalidParameter) := by
  unfold sendBuiltCommand
  exact if_pos hresponse

theorem mshcBuildTransfer_outstanding (r : RequestId) (h : MshcHost) :
    (mshcBuildTransfer r h).1.outstandingRequest = h.outstandingRequest := by
  unfold mshcBuildTransfer
  dsimp only
  split <;> rfl

/-- A refused command is neither started nor taken back. -/
theorem mshcSendCommand_refused {r : RequestId} {h : MshcHost}
    (hrefused : ¬ ((h.requests r).command.responseType ≠ .undefined
      ∧ ((h.requests r).command.isData → (h.requests r).command.transferMethod ≠ .undefined))) :
    (mshcSendCommand r h).2 ≠ .pending
      ∧ (mshcSendCommand r h).1.outstandingRequest = h.outstandingRequest := by
  have hbuilt := mshcBuildTransfer_status r h
  have hout := mshcBuildTransfer_outstanding r h
  have hcommand := (mshcBuildTransfer_kept r h).command r
  generalize hb : mshcBuildTransfer r h = built at hbuilt hout hcommand
  unfold mshcSendCommand
  rw [hb]
  split
  · rename_i hdata
    by_cases hmethod : (h.requests r).command.transferMethod = .undefined
    · rw [if_pos hmethod] at hbuilt
      dsimp only
      rw [hbuilt, if_neg (by decide)]
      exact ⟨hbuilt ▸ by decide, hout⟩
    · have hresponse : (h.requests r).command.responseType = .undefined := by
        by_contra hne
        exact hrefused ⟨hne, fun _ => hmethod⟩
      rw [if_neg hmethod] at hbuilt
      dsimp only
      rw [hbuilt, if_pos (show NtStatus.success.ntSuccess = true from rfl),
        sendBuiltCommand_refused (hcommand.symm ▸ hresponse)]
      exact ⟨fun hn => (by cases hn), hout⟩
  · rename_i hdata
    have hresponse : (h.requests r).command.responseType = .undefined := by
      by_contra hne
      exact hrefused ⟨hne, fun hd => absurd hd hdata⟩
    rw [sendBuiltCommand_refused hresponse]
    exact ⟨fun hn => (by cases hn), rfl⟩

theorem mshcSlotIssueRequest_refused (c : CallContext) {r : RequestId} {h : MshcHost}
    (hrefused : (h.requests r).Refused) :
    (mshcSlotIssueRequest c r h).2 ≠ .pending
      ∧ (mshcSlotIssueRequest c r h).1.outstandingRequest = some r := by
  obtain ⟨hno, hdma⟩ := hrefused
  unfold SdRequest.Accepted at hno
  unfold mshcSlotIssueRequest
  dsimp only
  cases htype : (h.requests r).type with
  | unspecified => exact ⟨fun hn => (by cases hn), rfl⟩
  | commandNoTransfer | commandWithTransfer =>
    rw [htype] at hno
    exact mshcSendCommand_refused (r := r) (h := h.publish r) hno
  | startTransfer =>
    rw [htype] at hno
    have hmethod : (h.requests r).command.transferMethod = .undefined := by
      cases hm : (h.requests r).command.transferMethod with
      | undefined => rfl
      | pio => exact absurd hm hno
      | sgDma => exact absurd ⟨htype, hm⟩ hdma
    simp only [mshcStartTransfer, hmethod]
    exact ⟨fun hn => (by cases hn), trivial⟩

theorem issue_refused_not_clean (busOperation : ResetType → MshcHost → MshcHost)
    (c : CallContext) (polls : Nat → List Activity) {r : RequestId} (timeoutUs : Nat)
    (errorRecovery : Bool) {h : MshcHost} (hrefused : (h.requests r).Refused) :
    ¬ Clean r (mshcIssueRequestSynchronously busOperation c polls r timeoutUs errorRecovery
      h).1 := by
  intro hclean
  obtain ⟨hstatus, hout⟩ := mshcSlotIssueRequest_refused c
    (h := { h with localRequestPending := true }) hrefused
  unfold mshcIssueRequestSynchronously at hclean
  dsimp only at hclean
  rw [if_pos hstatus] at hclean
  exact hclean.1 hout

/-! ## 7. The local commands

The three commands and a refused request under one roof, with the condition for each.  The commands
that recover need nothing, since their reset does what the stop command has nobody to do for it. -/

/-- A call that issues a request synchronously: one of the three local commands, or any that the
issue refuses. -/
inductive LocalCall
  | stop (input : WaitInput)
  | status (retune setSignaling : MshcHost → MshcHost) (input : SyncInput)
  | tuning (retune setSignaling : MshcHost → MshcHost) (speed : TuningSpeed)
      (busWidth8Bit : Bool) (input : SyncInput) (inputs : List SyncInput)
  | refused (busOperation : ResetType → MshcHost → MshcHost) (c : CallContext)
      (polls : Nat → List Activity) (r : RequestId) (timeoutUs : Nat) (errorRecovery : Bool)

def LocalCall.request : LocalCall → RequestId
  | .stop .. => .stop
  | .status .. => .status
  | .tuning .. => .tuning
  | .refused _ _ _ r _ _ => r

/-- The extension when the call returns, if it does. -/
def LocalCall.run : LocalCall → MshcHost → Option MshcHost
  | .stop input, h => some (mshcSendStopCommand input h).1
  | .status retune setSignaling input, h =>
    some (mshcSendStatusCommand retune setSignaling input h).1
  | .tuning retune setSignaling speed busWidth8Bit input inputs, h =>
    mshcSendTuningCommand retune setSignaling speed busWidth8Bit input inputs h
  | .refused busOperation c polls r timeoutUs errorRecovery, h =>
    some (mshcIssueRequestSynchronously busOperation c polls r timeoutUs errorRecovery h).1

/-- What the callers see to: the slot is initialized before a command that recovers, and it is not
marked as tuned while it is being tuned.  Nothing has to be so before a stop command. -/
def LocalCall.Ready (h : MshcHost) : LocalCall → Prop
  | .stop _ => True
  | .status .. => h.initialized = true
  | .tuning .. => h.initialized = true ∧ h.tuningPerformed = false ∧ Clean .tuning h
  | .refused _ _ _ r _ _ => (h.requests r).Refused

/-- The stop command has to be released in time, the commands that recover need nothing, and a
request that is refused is never taken back. -/
def LocalCall.TakenBack (h : MshcHost) : LocalCall → Prop
  | .stop input => Answered h input.polls
  | .status .. | .tuning .. => True
  | .refused .. => False

/-- **What the local commands leave behind.**  The stop command is clean exactly when it was
released in time, by the DPC or by a worker, from any state of the extension: without recovery a
completion with success is all that takes its request back.  The status and the tuning command are
always clean, since a failure of theirs is followed by a reset, which takes the request back first
of all; and a request that is refused is left behind by the early return. -/
theorem local_commands_clean (call : LocalCall) {h h' : MshcHost} (hready : call.Ready h)
    (hreturn : call.run h = some h') : Clean call.request h' ↔ call.TakenBack h := by
  cases call with
  | stop input => exact Option.some.inj hreturn ▸ mshcSendStopCommand_clean_iff input h
  | status retune setSignaling input =>
    have hclean := mshcSendStatusCommand_clean retune setSignaling input hready
    exact Option.some.inj hreturn ▸ iff_of_true hclean trivial
  | tuning retune setSignaling speed busWidth8Bit input inputs =>
    obtain ⟨hinit, htuning, hbefore⟩ := hready
    have hclean := mshcSendTuningCommand_clean retune setSignaling speed busWidth8Bit input inputs
      hinit htuning hbefore hreturn
    exact iff_of_true hclean trivial
  | refused busOperation c polls r timeoutUs errorRecovery =>
    have hdirty := issue_refused_not_clean busOperation c polls timeoutUs errorRecovery hready
    exact Option.some.inj hreturn ▸ iff_of_false hdirty id

/-- A slot at rest. -/
def idleHost : MshcHost where
  initialized := true
  outstandingRequest := none
  currentEvents := ∅
  currentErrors := ∅
  currentTransferRemainingLength := 0
  localRequestPending := false
  fifoThreshold := 0
  optimalFifoThreshold := 128
  completeRequestBusyWorkItem := true
  tuningPerformed := false
  dataCrcErrorsSinceLastTuning := 0
  requests := fun _ => stopRequest
  localRequestDpc := false
  busyWorker := none
  issues := 0
  workerRuns := []
  ended := []
  completed := []

/-- The card answers every poll, with the errors. -/
def answeringPolls (errors : Finset SdError) : WaitInput where
  context := ⟨.idle, true, false⟩
  polls := fun _ => [.interrupt {.cardResponse} errors false, .localDpc .idle true]

/-- The caller looks once: nothing that comes later runs before it returns. -/
theorem after_of_over {workItem : Bool} {polls : Nat → List Activity} {n : Nat} {s : StopStage}
    (hover : ((polls (n + 1)).foldl (StopStage.next workItem) s).waited = false) :
    StopStage.after workItem polls (n + 1) s
      = (polls (n + 1)).foldl (StopStage.next workItem) s := by
  unfold StopStage.after
  exact if_neg (by rw [hover]; decide)

theorem answered_of_first {h : MshcHost} {polls : Nat → List Activity}
    (hover : ((polls 100000).foldl (StopStage.next h.completeRequestBusyWorkItem)
      (.issued h.localRequestDpc h.busyWorker.isSome)).waited = false) :
    Answered h polls ↔ ((polls 100000).foldl (StopStage.next h.completeRequestBusyWorkItem)
      (.issued h.localRequestDpc h.busyWorker.isSome)).response = .released := by
  have hcount : pollCount 1000000 = 99999 + 1 := by decide
  rw [Answered, hcount, after_of_over hover]

/-- A stop command that the card answers at once, one that finds a worker queued by an earlier
request and is answered with the card busy, and a status command whose response has an error. -/
theorem local_commands_clean_of_response :
    Clean .stop (mshcSendStopCommand (answeringPolls ∅) idleHost).1
      ∧ Clean .stop (mshcSendStopCommand
        ⟨⟨.idle, true, false⟩, fun _ => [.interrupt {.cardResponse} ∅ false,
          .busyWorker (.idle .busyTimeout) true, .localDpc .busyTimeout true]⟩
        { idleHost with busyWorker := some ⟨.port 0, 0⟩ }).1
      ∧ Clean .status (mshcSendStatusCommand id id
        ⟨answeringPolls {.cmdCrcError}, fun _ => ⟨true, answeringPolls ∅⟩⟩ idleHost).1 :=
  ⟨(local_commands_clean (.stop (answeringPolls ∅)) (h := idleHost) trivial rfl).2
      ((answered_of_first (by decide)).2 (by decide)),
    (local_commands_clean (.stop _) (h := { idleHost with busyWorker := some ⟨.port 0, 0⟩ })
      trivial rfl).2 ((answered_of_first (by decide)).2 (by decide)),
    (local_commands_clean (.status id id _) (h := idleHost) rfl rfl).2 trivial⟩

/-- **A stop command whose response has a CRC error is left behind**: its request stays
published after the caller has returned. -/
theorem stop_left_behind :
    ¬ ∀ (input : WaitInput) (h : MshcHost), Clean .stop (mshcSendStopCommand input h).1 := by
  intro hall
  have hanswered := (mshcSendStopCommand_clean_iff (answeringPolls {.cmdCrcError}) idleHost).1
    (hall _ _)
  have hreleased := (answered_of_first (by decide)).1 hanswered
  exact absurd hreleased (by decide)

end WoaRk3576.Sd
