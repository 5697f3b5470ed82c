/-
# The events of a PIO request of dwcmshc

`MshcSlotInterrupt` acknowledges an event in the controller, so from then on the driver alone knows
of it.  For a request of the port driver it is on its way to a call of the DPC, for a local one it
is in `CurrentEvents`, until it is taken off `RequiredEvents` or `MshcStartPioTransfer` finds the
end of the transfer there.

The events of the FIFO and the end of the transfer are lost in two places: the DPC returns early
between two phases, and `MshcStartPioTransfer` empties `CurrentEvents`.  `none_lost` says that
these are all, and that a request then never waits for an event that has happened.

The observer keeps the events that were acknowledged and not consumed yet (`acked`).  The invariant
has two parts for them (`Keeping`): they are held, in `CurrentEvents` or on their way; and those
that the request waits for are on their way, so that the DPC will be called with them.  The second
one is what the property is about, and it needs the first: an event that is reported early is not
waited for, stays in `CurrentEvents`, and comes to be waited for by the next phase.  There the
start of the transfer has to find it, and it looks for the end of the transfer only.

That a completion touches no event (`completeRequest_sameEvents`) separates the two ways in which a
DPC may end from what it does to the events before.
-/
import Mathlib.Data.Finset.Lattice.Lemmas
import Mathlib.Data.Finset.SDiff
import WoaRk3576.Lib.Transition
import WoaRk3576.Sd.MshcBusy
import WoaRk3576.Sd.MshcPhases

namespace WoaRk3576.Sd

open WoaRk3576.Lib

/-! ## 1. The events of a request

An acknowledged event is gone from the controller, so it must be somewhere in the driver until it
is consumed: in `CurrentEvents`, or on its way to the DPC.  Where it is depends on whose request it
belongs to, as an interrupt records events only while a local request is pending. -/

/-- The events that a PIO transfer depends on. -/
def pioEvents : Finset SdEvent := {.bufferEmpty, .bufferFull, .cardRwEnd}

/-- The extension, the PIO request that is worked on, whether it is a local one and whether its
next phase is due, what the port driver's DPC was not called with yet, and the events that were
acknowledged for the request and not consumed. -/
structure PioHost extends MshcHost where
  current : Option RequestId
  isLocal : Bool
  due : Bool
  onWay : Finset SdEvent
  acked : Finset SdEvent

/-- A completion since `n` requests had been completed: the request goes on, or is over. -/
def PioHost.settle (r : RequestId) (n : Nat) (s : PioHost) : PioHost :=
  if n < s.ended.length then
    if (s.requests r).GoesOn then { s with due := true }
    else { s with current := none, due := false, acked := ∅ }
  else s

/-- The calls of the driver in any order; `prepare` is how a local caller begins to wait for the
next phase. -/
inductive PioStep
  | issue (c : CallContext) (r : RequestId) (isLocal : Bool) (request : SdRequest)
  | interrupt (events : Finset SdEvent) (errors : Finset SdError) (cardChange : Bool)
  | portDpc (c : CallContext) (events : Finset SdEvent) (errors : Finset SdError)
  | localDpc (c : CallContext)
  | busyWorker (wait : DataWait) (inserted : Bool)
  | prepare
  | startTransfer (c : CallContext)

/-- The port driver calls the DPC for its own request, with events that are on their way. -/
def pioStep (s : PioHost) : PioStep → Option PioHost
  | .issue c r isLocal request =>
    if s.current = none ∧ request.Accepted ∧ request.type ≠ .startTransfer
        ∧ request.command.isData ∧ request.command.transferMethod = .pio then
      let h := { s.toMshcHost with localRequestPending := isLocal }
      some { s with
        toMshcHost := (mshcSlotIssueRequest c r (h.put r request)).1
        current := some r
        isLocal := isLocal
        due := false
        acked := ∅ }
    else none
  | .interrupt events errors cardChange =>
    let reported := mshcSlotInterrupt events errors cardChange s.toMshcHost
    some { s with
      toMshcHost := reported.1
      onWay := s.onWay ∪ reported.2.1
      acked := if s.current = none then s.acked else s.acked ∪ events ∩ pioEvents }
  | .portDpc c events errors =>
    match s.current with
    | none => none
    | some r =>
      if s.isLocal = false ∧ events ⊆ s.onWay then
        some (PioHost.settle r s.ended.length { s with
          toMshcHost := mshcRequestDpc c r events errors s.toMshcHost
          onWay := s.onWay \ events
          acked := s.acked \ ((s.requests r).requiredEvents ∩ events) })
      else none
  | .localDpc c =>
    match s.current with
    | none => none
    | some r =>
      some (PioHost.settle r s.ended.length { s with
        toMshcHost := mshcLocalRequestDpc c s.toMshcHost
        acked :=
          if s.localRequestDpc = true ∧ s.outstandingRequest = some r then
            s.acked \ ((s.requests r).requiredEvents ∩ s.currentEvents)
          else s.acked })
  | .busyWorker wait inserted =>
    match s.current with
    | none => none
    | some r =>
      some (PioHost.settle r s.ended.length { s with
        toMshcHost := mshcCompleteRequestBusyWorker inserted wait s.toMshcHost })
  | .prepare =>
    if s.isLocal = true ∧ s.due = true then
      some { s with toMshcHost := { s.toMshcHost with localRequestPending := true } }
    else none
  | .startTransfer c =>
    match s.current with
    | none => none
    | some r =>
      if s.due = true ∧ (s.isLocal = true → s.localRequestPending = true) then
        let request := { s.requests r with type := .startTransfer }
        some (PioHost.settle r s.ended.length { s with
          toMshcHost := (mshcSlotIssueRequest c r (s.toMshcHost.put r request)).1
          due := false
          acked := if s.MoreBlocks then s.acked else s.acked \ (s.currentEvents ∩ {.cardRwEnd}) })
      else none

/-- A slot that has not been used. -/
def PioHost.Fresh (s : PioHost) : Prop :=
  s.current = none ∧ s.busyWorker = none

/-- Where the events of the request are kept. -/
def PioHost.held (s : PioHost) : Finset SdEvent :=
  if s.isLocal then s.currentEvents else s.currentEvents ∪ s.onWay

/-- The events of the request with which the DPC will be called. -/
def PioHost.coming (s : PioHost) : Finset SdEvent :=
  if s.isLocal then (if s.localRequestDpc then s.currentEvents else ∅) else s.onWay

/-- **No acknowledged event is lost**: until it is consumed it is recorded or on its way, and if the
request waits for it, then it is on its way. -/
def NoneLost (s : PioHost) : Prop :=
  ∀ r ∈ s.current, s.acked ⊆ s.held ∧ (s.requests r).requiredEvents ∩ s.acked ⊆ s.coming

/-- **The condition on a step.**  Between the phases of a request no event of its transfer reaches
the early return of the port driver's DPC or, for a local request, an interrupt that hands it to
the port driver; and no event that is not consumed is in `CurrentEvents` alone when a block is
moved, but for the end of the transfer with the last one. -/
def EventsKept (s : PioHost) : PioStep → Prop
  | .interrupt events _ _ => ∀ r ∈ s.current, s.isLocal = true → s.localRequestPending = false →
      Disjoint events pioEvents
  | .portDpc _ events _ => ∀ r ∈ s.current, (s.requests r).requiredEvents = ∅ →
      Disjoint events s.acked
  | .startTransfer _ =>
    s.acked ⊆ (if s.isLocal then ∅ else s.onWay) ∪ (if s.MoreBlocks then ∅ else {.cardRwEnd})
  | _ => True

instance (s : PioHost) (step : PioStep) : Decidable (EventsKept s step) :=
  match step with
  | .interrupt events _ _ => inferInstanceAs (Decidable (∀ r ∈ s.current, s.isLocal = true →
      s.localRequestPending = false → Disjoint events pioEvents))
  | .portDpc _ events _ => inferInstanceAs (Decidable (∀ r ∈ s.current,
      (s.requests r).requiredEvents = ∅ → Disjoint events s.acked))
  | .startTransfer _ => inferInstanceAs (Decidable (s.acked ⊆
      (if s.isLocal then ∅ else s.onWay) ∪ (if s.MoreBlocks then ∅ else {.cardRwEnd})))
  | .issue .. | .localDpc .. | .busyWorker .. | .prepare => inferInstanceAs (Decidable True)

/-! ## 2. What a completion leaves alone

A completion changes the status and who is outstanding, and no events.  This holds however it goes
on, with the worker queued or called, so it is proved once for all of these and not looked into
again. -/

/-- The events of the slot are the same, and no local request has begun to wait. -/
structure SameEvents (h h' : MshcHost) : Prop where
  events : h'.currentEvents = h.currentEvents
  localDpc : h'.localRequestDpc = h.localRequestDpc
  required : ∀ q, (h'.requests q).requiredEvents = (h.requests q).requiredEvents
  pending : h'.localRequestPending = true → h.localRequestPending = true

theorem SameEvents.refl (h : MshcHost) : SameEvents h h := ⟨rfl, rfl, fun _ => rfl, id⟩

theorem SameEvents.trans {h h' h'' : MshcHost} (s : SameEvents h h') (s' : SameEvents h' h'') :
    SameEvents h h'' :=
  ⟨s'.events.trans s.events, s'.localDpc.trans s.localDpc,
    fun q => (s'.required q).trans (s.required q), fun hp => s.pending (s'.pending hp)⟩

theorem SameEvents.setStatus (h : MshcHost) (r : RequestId) (status : NtStatus) :
    SameEvents h (h.setStatus r status) :=
  ⟨rfl, rfl, fun q => h.setStatus_required r q status, id⟩

theorem finishRequest_sameEvents (inserted : Bool) (r : RequestId) (h : MshcHost) :
    SameEvents h (finishRequest inserted r h) := by
  refine ⟨?_, ?_, fun q => finishRequest_required inserted r h q, ?_⟩
  · unfold finishRequest recordEnd checkCard
    rw [signalCompletion_eq, releaseRequest_eq]
    cases inserted with
    | true => rfl
    | false => rfl
  · unfold finishRequest recordEnd checkCard
    rw [signalCompletion_eq, releaseRequest_eq]
    cases inserted with
    | true => rfl
    | false => rfl
  · rw [finishRequest_pending]
    exact fun hp => by cases hp

theorem recordRun_sameEvents (h : MshcHost) (ticket : Ticket) : SameEvents h (h.recordRun ticket) :=
  ⟨rfl, rfl, fun _ => rfl, id⟩

/-- **A completion** touches no event, whether it ends or queues the worker. -/
theorem completeRequest_sameEvents (inserted dispatch : Bool) (data : DataLine) (r : RequestId)
    (status : NtStatus) (h : MshcHost) :
    SameEvents h (completeRequest inserted dispatch data r status h) :=
  completeRequest_rel (R := SameEvents) SameEvents.trans SameEvents.setStatus
    (fun _ _ => ⟨rfl, rfl, fun _ => rfl, id⟩) recordRun_sameEvents
    (finishRequest_sameEvents inserted) dispatch data r status h

/-- A completion that ends a request leaves no worker queued. -/
theorem completeRequest_worker (inserted dispatch : Bool) (data : DataLine) (r : RequestId)
    (status : NtStatus) {h : MshcHost} (hworker : h.busyWorker = none) :
    (completeRequest inserted dispatch data r status h).busyWorker = none
      ∨ (completeRequest inserted dispatch data r status h).ended = h.ended := by
  refine completeRequest_rule (A := fun _ _ g => g.busyWorker = none ∧ g.ended = h.ended)
    (Q := fun g => g.busyWorker = none ∨ g.ended = h.ended) ?_ ?_ ?_ ?_ data ⟨hworker, rfl⟩
  · exact fun r status g hA => Or.inl ((finishRequest_busyWorker ..).trans hA.1)
  · exact fun r status g hA _ _ => Or.inr hA.2
  · exact fun r status g hA _ => Or.inl hA.1
  · exact fun r status g r' hA _ _ _ _ _ => hA

/-! ## 3. The invariant

`Keeping` says of the request that is worked on where its events are, and that it is in a state in
which they will be looked at.  Once the request is over, nothing is to be kept. -/

/-- The request that is worked on. -/
structure Working (r : RequestId) (s : PioHost) : Prop where
  outstanding : s.outstandingRequest = none ∨ s.outstandingRequest = some r
  waits : (s.requests r).requiredEvents ≠ ∅ →
    s.outstandingRequest = some r ∧ s.busyWorker = none ∧ s.due = false
  worker : s.due = true → s.busyWorker = none
  method : (s.requests r).command.transferMethod = .pio
  port : s.isLocal = false → s.localRequestPending = false

/-- Its events are kept. -/
structure Keeping (r : RequestId) (s : PioHost) : Prop extends Working r s where
  recorded : s.acked ⊆ s.held
  coming : (s.requests r).requiredEvents ∩ s.acked ⊆ s.coming

theorem Working.keeping {r : RequestId} {s : PioHost} (hw : Working r s)
    (hevents : s.acked ⊆ s.held ∧ (s.requests r).requiredEvents ∩ s.acked ⊆ s.coming) :
    Keeping r s :=
  ⟨hw, hevents.1, hevents.2⟩

structure PioInv (s : PioHost) : Prop where
  idle : s.current = none → s.busyWorker = none
  active : ∀ r ∈ s.current, Keeping r s

theorem pioInv_of_current {r : RequestId} {s : PioHost} (hcurrent : s.current = some r)
    (hk : Keeping r s) : PioInv s := by
  constructor
  · intro hnone
    cases hcurrent.symm.trans hnone
  · intro q hq
    cases hcurrent.symm.trans hq
    exact hk

/-- **After a call that leaves no event required**: the request goes on, is over, or is left to the
worker. -/
theorem settle_pioInv {r : RequestId} {s : PioHost} {n : Nat} (hcurrent : s.current = some r)
    (hw : Working r s) (hrecorded : s.acked ⊆ s.held) (hspent : (s.requests r).requiredEvents = ∅)
    (hworker : s.busyWorker = none ∨ s.ended.length = n) : PioInv (PioHost.settle r n s) := by
  unfold PioHost.settle
  split
  · rename_i hended
    have hfree : s.busyWorker = none :=
      hworker.resolve_right fun hn => Nat.lt_irrefl n (hn ▸ hended)
    split
    · refine pioInv_of_current (r := r) hcurrent ⟨⟨hw.outstanding, ?_, ?_, hw.method, hw.port⟩,
        hrecorded, ?_⟩
      · exact fun hwaits => absurd hspent hwaits
      · exact fun _ => hfree
      · rw [hspent, Finset.empty_inter]
        exact Finset.empty_subset _
    · constructor
      · exact fun _ => hfree
      · intro q hq
        cases hq
  · refine pioInv_of_current hcurrent ⟨hw, hrecorded, ?_⟩
    rw [hspent, Finset.empty_inter]
    exact Finset.empty_subset _

/-- A call that completes nothing. -/
theorem settle_of_eq {r : RequestId} {s : PioHost} {n : Nat} (hn : s.ended.length = n) :
    PioHost.settle r n s = s := by
  unfold PioHost.settle
  exact if_neg (hn ▸ Nat.lt_irrefl n)

theorem settle_keeping {r : RequestId} {s : PioHost} {n : Nat} (hcurrent : s.current = some r)
    (hk : Keeping r s) (hn : s.ended.length = n) : PioInv (PioHost.settle r n s) := by
  rw [settle_of_eq hn]
  exact pioInv_of_current hcurrent hk

/-- A completion of the request that is worked on. -/
theorem Working.complete {r : RequestId} {s : PioHost} (hcurrent : s.current = some r)
    (hw : Working r s) (hrecorded : s.acked ⊆ s.held) (hspent : (s.requests r).requiredEvents = ∅)
    (hdue : s.due = false) (hworker : s.busyWorker = none) (inserted dispatch : Bool)
    (data : DataLine) (status : NtStatus) {n : Nat} (hn : s.ended.length = n) :
    PioInv (PioHost.settle r n { s with
      toMshcHost := completeRequest inserted dispatch data r status s.toMshcHost }) := by
  have hsame := completeRequest_sameEvents inserted dispatch data r status s.toMshcHost
  have hkept := completeRequest_kept inserted dispatch data r status s.toMshcHost
  have hended := completeRequest_worker inserted dispatch data r status hworker
  have hspent' := (hsame.required r).trans hspent
  generalize completeRequest inserted dispatch data r status s.toMshcHost = h at *
  refine settle_pioInv hcurrent ⟨?_, ?_, ?_, ?_, ?_⟩ ?_ hspent' ?_
  · rcases hkept.outstanding with hnone | hsame'
    · exact Or.inl hnone
    · exact hw.outstanding.imp hsame'.trans hsame'.trans
  · exact fun hwaits => absurd hspent' hwaits
  · intro hd
    cases hdue.symm.trans hd
  · exact (congrArg SdCommand.transferMethod (hkept.command r)).trans hw.method
  · intro hport
    have hfalse := hw.port hport
    by_contra hp
    cases hfalse.symm.trans (hsame.pending (Bool.eq_true_of_not_eq_false hp))
  · unfold PioHost.held at hrecorded ⊢
    dsimp only
    rw [hsame.events]
    exact hrecorded
  · rcases hended with hfree | hended
    · exact Or.inl hfree
    · exact Or.inr (hn ▸ congrArg List.length hended)

/-- A failed completion ends the request. -/
theorem settle_over {r : RequestId} {s : PioHost} {n : Nat} (hended : n < s.ended.length)
    (hfailed : ¬ (s.requests r).GoesOn) (hworker : s.busyWorker = none) :
    PioInv (PioHost.settle r n s) := by
  unfold PioHost.settle
  rw [if_pos hended, if_neg hfailed]
  constructor
  · exact fun _ => hworker
  · intro q hq
    cases hq

/-! ## 4. The DPC

The DPC takes its events down before it does anything else, unless it returns early: with nothing
to report, or for a request that waits for nothing.  The early return is one of the places where
events are dropped. -/

/-- The request once the DPC has taken the events down. -/
def PioHost.take (r : RequestId) (events : Finset SdEvent) (errors : Finset SdError)
    (s : PioHost) : PioHost :=
  let h := { s.toMshcHost with
    currentEvents := s.currentEvents ∪ events
    currentErrors := s.currentErrors ∪ errors }
  { s with toMshcHost := h.setRequired r ((s.requests r).requiredEvents \ events) }

theorem PioHost.take_required (r : RequestId) (events : Finset SdEvent) (errors : Finset SdError)
    (s : PioHost) : ((s.take r events errors).requests r).requiredEvents
      = (s.requests r).requiredEvents \ events :=
  congrArg SdRequest.requiredEvents (MshcHost.setRequired_requests ..)

/-- **What the DPC does**: nothing, or it takes the events down, and may then complete the request,
with an error or because it waits for nothing more. -/
theorem mshcRequestDpc_cases (c : CallContext) (r : RequestId) (events : Finset SdEvent)
    (errors : Finset SdError) (s : PioHost) (hout : (s.requests r).requiredEvents ≠ ∅ →
      s.outstandingRequest = some r) :
    let t := (s.take r events errors).toMshcHost
    (((events = ∅ ∧ errors = ∅) ∨ (s.requests r).requiredEvents = ∅)
        ∧ mshcRequestDpc c r events errors s.toMshcHost = s.toMshcHost)
      ∨ ((s.requests r).requiredEvents ≠ ∅ ∧ (mshcRequestDpc c r events errors s.toMshcHost = t
        ∨ (t.currentErrors ≠ ∅ ∧ mshcRequestDpc c r events errors s.toMshcHost
          = failRequest c r t.currentErrors t)
        ∨ ((t.requests r).requiredEvents = ∅ ∧ ∃ status,
          mshcRequestDpc c r events errors s.toMshcHost = mshcCompleteRequest c r status t))) := by
  intro t
  by_cases hidle : (events = ∅ ∧ errors = ∅) ∨ (s.requests r).requiredEvents = ∅
  · exact Or.inl ⟨hidle, mshcRequestDpc_idle c hidle⟩
  · have hwaits : (s.requests r).requiredEvents ≠ ∅ := fun hspent => hidle (Or.inr hspent)
    have htaken : ¬ s.outstandingRequest = none := by
      rw [hout hwaits]
      simp
    have hdpc : mshcRequestDpc c r events errors s.toMshcHost
        = if t.currentErrors ≠ ∅ then
            if HeldBack events t.currentErrors then t else failRequest c r t.currentErrors t
          else if (t.requests r).requiredEvents = ∅ then
            mshcCompleteRequest c r
              (if (t.requests r).status = .moreProcessingRequired then .moreProcessingRequired
                else .success) t
          else t := by
      unfold mshcRequestDpc
      rw [if_neg hidle]
      exact if_neg htaken
    refine Or.inr ⟨hwaits, ?_⟩
    rw [hdpc]
    split
    · rename_i herrors
      split
      · exact Or.inl rfl
      · exact Or.inr (Or.inl ⟨herrors, rfl⟩)
    · split
      · rename_i hspent
        exact Or.inr (Or.inr ⟨hspent, _, rfl⟩)
      · exact Or.inl rfl

/-- An error is completed at once. -/
theorem completeRequest_failed (inserted dispatch : Bool) (data : DataLine) (r : RequestId)
    {status : NtStatus} (hstatus : status ≠ .success) (h : MshcHost) :
    completeRequest inserted dispatch data r status h
      = finishRequest inserted r (h.setStatus r status) := by
  have hnever : ¬ (h.setStatus r status).WaitsForIdle r status := fun hwaits => hstatus hwaits.1
  cases data with
  | idle => rfl
  | busyTimeout =>
    unfold completeRequest
    exact if_neg hnever
  | busyIdle again =>
    unfold completeRequest
    exact if_neg hnever

theorem finishRequest_not_goesOn (inserted : Bool) (r : RequestId) {status : NtStatus}
    (hfailed : status.Failed) (h : MshcHost) :
    ¬ ((finishRequest inserted r (h.setStatus r status)).requests r).GoesOn := by
  have hgone : NtStatus.ioDeviceError.Failed := ⟨by decide, by decide, by decide⟩
  refine failed_not_goesOn ?_
  rw [finishRequest_requests]
  cases inserted with
  | true =>
    rw [if_pos rfl, MshcHost.setStatus_requests]
    exact hfailed
  | false =>
    rw [if_neg (by decide), MshcHost.setStatus_requests]
    exact hgone

theorem Working.fail {c : CallContext} {r : RequestId} {errors : Finset SdError} {s : PioHost}
    (herrors : errors ≠ ∅) (hworker : s.busyWorker = none) {n : Nat} (hn : s.ended.length = n) :
    PioInv (PioHost.settle r n
      { s with toMshcHost := failRequest c r errors s.toMshcHost }) := by
  have hfailed := convertError_failed herrors
  obtain ⟨m, hfail⟩ := failRequest_eq c r errors s.toMshcHost
  rw [hfail, mshcCompleteRequest, completeRequest_failed _ _ _ _ hfailed.1]
  refine settle_over ?_ (finishRequest_not_goesOn _ _ hfailed _) ?_
  · rw [finishRequest_ended, List.length_append]
    exact hn ▸ Nat.lt_succ_self s.ended.length
  · rw [finishRequest_busyWorker]
    exact hworker

/-- **A call of the DPC**, where `s` is the state without the events that it is called with. -/
theorem Working.dpc {c : CallContext} {r : RequestId} {events : Finset SdEvent}
    {errors : Finset SdError} {s : PioHost} (hcurrent : s.current = some r) (hw : Working r s)
    (hearly : (events = ∅ ∧ errors = ∅) ∨ (s.requests r).requiredEvents = ∅ →
      s.acked ⊆ s.held ∧ (s.requests r).requiredEvents ∩ s.acked ⊆ s.coming)
    (hlate : s.acked ⊆ (s.take r events errors).held
      ∧ ((s.requests r).requiredEvents \ events) ∩ s.acked ⊆ (s.take r events errors).coming) :
    PioInv (PioHost.settle r s.ended.length
      { s with toMshcHost := mshcRequestDpc c r events errors s.toMshcHost }) := by
  have hrequired := s.take_required r events errors
  have htake : (s.requests r).requiredEvents ≠ ∅ → Working r (s.take r events errors) := by
    intro hwaits
    obtain ⟨hout, hworker, hdue⟩ := hw.waits hwaits
    refine ⟨hw.outstanding, fun _ => ⟨hout, hworker, hdue⟩, fun _ => hworker, ?_, hw.port⟩
    exact (congrArg (fun request : SdRequest => request.command.transferMethod)
      (MshcHost.setRequired_requests ..)).trans hw.method
  rcases mshcRequestDpc_cases c r events errors s fun hwaits => (hw.waits hwaits).1 with
    ⟨hidle, hsame⟩ | ⟨hwaits, htaken | ⟨herrors, hfail⟩ | ⟨hspent, status, hcomplete⟩⟩
  · rw [hsame]
    obtain ⟨hrecorded, hcoming⟩ := hearly hidle
    exact settle_keeping (s := s) hcurrent ⟨hw, hrecorded, hcoming⟩ rfl
  · rw [htaken]
    have hkeeping : Keeping r (s.take r events errors) := by
      refine ⟨htake hwaits, hlate.1, ?_⟩
      rw [hrequired]
      exact hlate.2
    exact settle_keeping (s := s.take r events errors) hcurrent hkeeping rfl
  · rw [hfail]
    exact Working.fail (s := s.take r events errors) herrors (hw.waits hwaits).2.1 rfl
  · rw [hcomplete]
    exact Working.complete (s := s.take r events errors) hcurrent (htake hwaits) hlate.1 hspent
      (hw.waits hwaits).2.2 (hw.waits hwaits).2.1 _ _ _ status rfl

/-- The port driver's DPC. -/
theorem pioStep_portDpc {c : CallContext} {r : RequestId} {events : Finset SdEvent}
    {errors : Finset SdError} {s : PioHost} (hcurrent : s.current = some r) (hk : Keeping r s)
    (hport : s.isLocal = false)
    (hkept : (s.requests r).requiredEvents = ∅ → Disjoint events s.acked) :
    PioInv (PioHost.settle r s.ended.length { s with
      toMshcHost := mshcRequestDpc c r events errors s.toMshcHost
      onWay := s.onWay \ events
      acked := s.acked \ ((s.requests r).requiredEvents ∩ events) }) := by
  have hrecorded : s.acked ⊆ s.currentEvents ∪ s.onWay := by
    have := hk.recorded
    unfold PioHost.held at this
    rwa [hport] at this
  have hcoming : (s.requests r).requiredEvents ∩ s.acked ⊆ s.onWay := by
    have := hk.coming
    unfold PioHost.coming at this
    rwa [hport] at this
  refine Working.dpc (s := { s with
    onWay := s.onWay \ events
    acked := s.acked \ ((s.requests r).requiredEvents ∩ events) }) hcurrent
    ⟨hk.outstanding, hk.waits, hk.worker, hk.method, hk.port⟩ ?_ ?_
  · intro hidle
    unfold PioHost.held PioHost.coming
    dsimp only
    rw [hport]
    have hapart : Disjoint events s.acked := by
      rcases hidle with ⟨hnone, -⟩ | hspent
      · exact hnone ▸ Finset.disjoint_empty_left _
      · exact hkept hspent
    have houtside : ∀ e ∈ s.acked, e ∉ events := fun e he hin =>
      Finset.disjoint_left.1 hapart hin he
    constructor
    · intro e he
      have hacked := (Finset.mem_sdiff.1 he).1
      rcases Finset.mem_union.1 (hrecorded hacked) with hhere | hway
      · exact Finset.mem_union_left _ hhere
      · exact Finset.mem_union_right _ (Finset.mem_sdiff.2 ⟨hway, houtside e hacked⟩)
    · intro e he
      obtain ⟨hrequired, he⟩ := Finset.mem_inter.1 he
      have hacked := (Finset.mem_sdiff.1 he).1
      have hway := hcoming (Finset.mem_inter.2 ⟨hrequired, hacked⟩)
      exact Finset.mem_sdiff.2 ⟨hway, houtside e hacked⟩
  · unfold PioHost.held PioHost.coming PioHost.take
    dsimp only
    rw [hport]
    constructor
    · intro e he
      have hacked := (Finset.mem_sdiff.1 he).1
      by_cases hin : e ∈ events
      · exact Finset.mem_union_left _ (Finset.mem_union_right _ hin)
      · rcases Finset.mem_union.1 (hrecorded hacked) with hhere | hway
        · exact Finset.mem_union_left _ (Finset.mem_union_left _ hhere)
        · exact Finset.mem_union_right _ (Finset.mem_sdiff.2 ⟨hway, hin⟩)
    · intro e he
      obtain ⟨hrequired, he⟩ := Finset.mem_inter.1 he
      obtain ⟨hrequired, hin⟩ := Finset.mem_sdiff.1 hrequired
      have hacked := (Finset.mem_sdiff.1 he).1
      exact Finset.mem_sdiff.2 ⟨hcoming (Finset.mem_inter.2 ⟨hrequired, hacked⟩), hin⟩

/-- The local DPC. -/
theorem pioStep_localDpc {c : CallContext} {r : RequestId} {s : PioHost}
    (hcurrent : s.current = some r) (hk : Keeping r s) :
    PioInv (PioHost.settle r s.ended.length { s with
      toMshcHost := mshcLocalRequestDpc c s.toMshcHost
      acked :=
        if s.localRequestDpc = true ∧ s.outstandingRequest = some r then
          s.acked \ ((s.requests r).requiredEvents ∩ s.currentEvents)
        else s.acked }) := by
  cases hqueued : s.localRequestDpc with
  | false =>
    have hsame : mshcLocalRequestDpc c s.toMshcHost = s.toMshcHost := by
      unfold mshcLocalRequestDpc
      rw [hqueued]
      rfl
    rw [hsame, if_neg (fun hboth => by cases hboth.1)]
    exact settle_keeping (s := s) hcurrent hk rfl
  | true =>
    rcases hk.outstanding with hnone | hout
    · have hspent : (s.requests r).requiredEvents = ∅ := by
        by_contra hwaits
        cases hnone.symm.trans (hk.waits hwaits).1
      have hsame : mshcLocalRequestDpc c s.toMshcHost
          = { s.toMshcHost with localRequestDpc := false } := by
        unfold mshcLocalRequestDpc
        dsimp only
        rw [hqueued, hnone]
        rfl
      rw [hsame, if_neg (fun hboth => by cases hnone.symm.trans hboth.2)]
      refine settle_pioInv hcurrent ⟨hk.outstanding, hk.waits, hk.worker, hk.method, hk.port⟩
        hk.recorded hspent (Or.inr rfl)
    · have hdpc : mshcLocalRequestDpc c s.toMshcHost
          = mshcRequestDpc c r s.currentEvents s.currentErrors
            { s.toMshcHost with localRequestDpc := false } := by
        unfold mshcLocalRequestDpc
        dsimp only
        rw [hqueued, hout]
        rfl
      rw [hdpc, if_pos ⟨rfl, hout⟩]
      refine Working.dpc (s := { s with
        toMshcHost := { s.toMshcHost with localRequestDpc := false }
        acked := s.acked \ ((s.requests r).requiredEvents ∩ s.currentEvents) }) hcurrent
        ⟨hk.outstanding, hk.waits, hk.worker, hk.method, hk.port⟩ ?_ ?_
      · intro hidle
        refine ⟨fun e he => hk.recorded (Finset.mem_sdiff.1 he).1, ?_⟩
        intro e he
        obtain ⟨hrequired, he⟩ := Finset.mem_inter.1 he
        have hacked := (Finset.mem_sdiff.1 he).1
        rcases hidle with ⟨hnone, -⟩ | hspent
        · have hway := hk.coming (Finset.mem_inter.2 ⟨hrequired, hacked⟩)
          unfold PioHost.coming at hway ⊢
          rw [hqueued, hnone] at hway
          exact hway
        · have hspent' : (s.requests r).requiredEvents = ∅ := hspent
          rw [hspent'] at hrequired
          exact absurd hrequired (Finset.notMem_empty e)
      · constructor
        · intro e he
          have hhere := hk.recorded (Finset.mem_sdiff.1 he).1
          unfold PioHost.held PioHost.take at *
          dsimp only at *
          rwa [Finset.union_idempotent]
        · intro e he
          obtain ⟨hrequired, he⟩ := Finset.mem_inter.1 he
          obtain ⟨hrequired, hin⟩ := Finset.mem_sdiff.1 hrequired
          have hacked := (Finset.mem_sdiff.1 he).1
          have hhere := hk.recorded hacked
          have hway := hk.coming (Finset.mem_inter.2 ⟨hrequired, hacked⟩)
          unfold PioHost.held at hhere
          unfold PioHost.coming PioHost.take at *
          dsimp only at *
          cases hport : s.isLocal with
          | false =>
            rw [hport] at hway
            exact hway
          | true =>
            rw [hport] at hhere
            exact absurd hhere hin

/-- The worker, which is queued only for a request that waits for no event. -/
theorem pioStep_busyWorker {wait : DataWait} {inserted : Bool} {r : RequestId} {s : PioHost}
    (hcurrent : s.current = some r) (hk : Keeping r s) :
    PioInv (PioHost.settle r s.ended.length { s with
      toMshcHost := mshcCompleteRequestBusyWorker inserted wait s.toMshcHost }) := by
  unfold mshcCompleteRequestBusyWorker
  cases hworker : s.busyWorker with
  | none => exact settle_keeping (s := s) hcurrent hk rfl
  | some ticket =>
    have hspent : (s.requests r).requiredEvents = ∅ := by
      by_contra hwaits
      cases hworker.symm.trans (hk.waits hwaits).2.1
    have hdue : s.due = false := by
      by_contra hdue
      cases hworker.symm.trans (hk.worker (Bool.eq_true_of_not_eq_false hdue))
    generalize hg : ({ s.toMshcHost with busyWorker := none } : MshcHost).recordRun ticket = g
    have hw : Working r { s with toMshcHost := g } := by
      subst hg
      exact ⟨hk.outstanding, fun hwaits => absurd hspent hwaits, fun _ => rfl, hk.method, hk.port⟩
    have hrecorded : s.acked ⊆ ({ s with toMshcHost := g } : PioHost).held := by
      subst hg
      exact hk.recorded
    have hspent' : (g.requests r).requiredEvents = ∅ := by
      subst hg
      exact hspent
    have hfree : g.busyWorker = none := by
      subst hg
      rfl
    have hended : g.ended.length = s.ended.length := by
      subst hg
      rfl
    dsimp only
    rw [hg]
    cases hout : g.outstandingRequest with
    | none => exact settle_pioInv hcurrent hw hrecorded hspent' (Or.inl hfree)
    | some q =>
      have hq : r = q := by
        rcases hw.outstanding with hnone | hr
        · cases hnone.symm.trans hout
        · exact Option.some.inj (hr.symm.trans hout)
      subst hq
      cases wait with
      | timeout =>
        exact Working.complete (s := { s with toMshcHost := g }) hcurrent hw hrecorded hspent'
          hdue hfree _ _ _ _ hended
      | idle again =>
        exact Working.complete (s := { s with toMshcHost := g }) hcurrent hw hrecorded hspent'
          hdue hfree _ _ _ _ hended

/-! ## 5. The other steps

The start of a block clears `CurrentEvents`.  Of what was recorded there it looks for the end of
the transfer only, and only with the last block; whatever else is there and was not consumed is
dropped. -/

/-- **What an interrupt does**: it records the events for a local request that waits, or hands them
on. -/
theorem mshcSlotInterrupt_cases (events : Finset SdEvent) (errors : Finset SdError)
    (cardChange : Bool) (h : MshcHost) :
    (h.localRequestPending = true ∧ mshcSlotInterrupt events errors cardChange h
        = ({ h with
          currentEvents := h.currentEvents ∪ events
          currentErrors := h.currentErrors ∪ errors
          localRequestDpc := true }, ∅, ∅))
      ∨ ((h.localRequestPending = true → events = ∅)
        ∧ mshcSlotInterrupt events errors cardChange h = (h, events, errors)) := by
  unfold mshcSlotInterrupt
  split
  · rename_i hkeep
    exact Or.inl ⟨hkeep.2, rfl⟩
  · rename_i hhand
    refine Or.inr ⟨?_, rfl⟩
    intro hpending
    by_contra hsome
    exact hhand ⟨Or.inl hsome, hpending⟩

theorem pioStep_interrupt {events : Finset SdEvent} {errors : Finset SdError} {cardChange : Bool}
    {s : PioHost} (hi : PioInv s) (hkept : EventsKept s (.interrupt events errors cardChange)) :
    PioInv { s with
      toMshcHost := (mshcSlotInterrupt events errors cardChange s.toMshcHost).1
      onWay := s.onWay ∪ (mshcSlotInterrupt events errors cardChange s.toMshcHost).2.1
      acked := if s.current = none then s.acked else s.acked ∪ events ∩ pioEvents } := by
  cases hcurrent : s.current with
  | none =>
    have hfree := hi.idle hcurrent
    constructor
    · intro _
      rcases mshcSlotInterrupt_cases events errors cardChange s.toMshcHost with
        ⟨-, hsame⟩ | ⟨-, hsame⟩
      · rw [hsame]
        exact hfree
      · rw [hsame]
        exact hfree
    · intro q hq
      cases hq
  | some r =>
    have hk := hi.active r hcurrent
    rw [if_neg (by simp)]
    refine pioInv_of_current (r := r) rfl ?_
    rcases mshcSlotInterrupt_cases events errors cardChange s.toMshcHost with
      ⟨hpending, hsame⟩ | ⟨hempty, hsame⟩
    · have hlocal : s.isLocal = true := by
        by_contra hport
        cases (hk.port (Bool.eq_false_of_not_eq_true hport)).symm.trans hpending
      have hrecorded := hk.recorded
      unfold PioHost.held at hrecorded
      rw [hlocal] at hrecorded
      have hkeeps : s.acked ∪ events ∩ pioEvents ⊆ s.currentEvents ∪ events :=
        Finset.union_subset_union hrecorded Finset.inter_subset_left
      rw [hsame]
      refine ⟨⟨hk.outstanding, hk.waits, hk.worker, hk.method, ?_⟩, ?_, ?_⟩
      · exact fun hport => by cases hlocal.symm.trans hport
      · unfold PioHost.held
        dsimp only
        rw [hlocal]
        exact hkeeps
      · unfold PioHost.coming
        dsimp only
        rw [hlocal]
        exact fun e he => hkeeps (Finset.mem_inter.1 he).2
    · rw [hsame]
      refine Working.keeping ⟨hk.outstanding, hk.waits, hk.worker, hk.method, hk.port⟩ ?_
      unfold PioHost.held PioHost.coming
      dsimp only
      have hrecorded := hk.recorded
      have hcoming := hk.coming
      unfold PioHost.held at hrecorded
      unfold PioHost.coming at hcoming
      cases hlocal : s.isLocal with
      | true =>
        have hnone : events ∩ pioEvents = ∅ := by
          cases hpending : s.localRequestPending with
          | true => rw [hempty hpending, Finset.empty_inter]
          | false => exact Finset.disjoint_iff_inter_eq_empty.1 (hkept r hcurrent hlocal hpending)
        rw [hlocal] at hrecorded hcoming
        rw [hnone, Finset.union_empty]
        exact ⟨hrecorded, hcoming⟩
      | false =>
        rw [hlocal] at hrecorded hcoming
        constructor
        · intro e he
          rcases Finset.mem_union.1 he with hold | hnew
          · rcases Finset.mem_union.1 (hrecorded hold) with hhere | hway
            · exact Finset.mem_union_left _ hhere
            · exact Finset.mem_union_right _ (Finset.mem_union_left _ hway)
          · have hin := (Finset.mem_inter.1 hnew).1
            exact Finset.mem_union_right _ (Finset.mem_union_right _ hin)
        · intro e he
          obtain ⟨hrequired, he⟩ := Finset.mem_inter.1 he
          rcases Finset.mem_union.1 he with hold | hnew
          · exact Finset.mem_union_left _ (hcoming (Finset.mem_inter.2 ⟨hrequired, hold⟩))
          · exact Finset.mem_union_right _ (Finset.mem_inter.1 hnew).1

theorem pioStep_issue {c : CallContext} {r : RequestId} {isLocal : Bool} {request : SdRequest}
    {s : PioHost} (hi : PioInv s) (hnone : s.current = none) (haccepted : request.Accepted)
    (htype : request.type ≠ .startTransfer) (hmethod : request.command.transferMethod = .pio) :
    PioInv { s with
      toMshcHost := (mshcSlotIssueRequest c r
        (({ s.toMshcHost with localRequestPending := isLocal } : MshcHost).put r request)).1
      current := some r
      isLocal := isLocal
      due := false
      acked := ∅ } := by
  obtain ⟨hknown, hresponse, hdata⟩ := haccepted.command htype
  generalize hg : ({ s.toMshcHost with localRequestPending := isLocal } : MshcHost).put r request
    = g
  have hrequest : g.requests r = request := hg ▸ MshcHost.put_requests ..
  rw [mshcSlotIssueRequest_command c (hrequest.symm ▸ hknown) (hrequest.symm ▸ htype)]
  have hpublished : (g.publish r).requests r = request := hrequest
  have hsent := mshcSendCommand_sent (h := g.publish r) (hpublished.symm ▸ hresponse)
    (hpublished.symm ▸ hdata)
  have hworker : (mshcSendCommand r (g.publish r)).1.busyWorker = none :=
    (mshcSendCommand_sameWorker r _).worker.trans (hg ▸ hi.idle hnone)
  have hpending := mshcSendCommand_pending r (g.publish r)
  have hout : (mshcSendCommand r (g.publish r)).1.outstandingRequest = some r := hsent.outstanding
  refine pioInv_of_current (r := r) rfl ⟨⟨Or.inr hout, ?_, ?_, ?_, ?_⟩, ?_, ?_⟩
  · exact fun _ => ⟨hout, hworker, rfl⟩
  · exact fun _ => hworker
  · rw [hsent.command, hpublished]
    exact hmethod
  · intro hport
    have hport' : isLocal = false := hport
    exact hpending.trans (hg ▸ hport')
  · exact Finset.empty_subset _
  · rw [Finset.inter_empty]
    exact Finset.empty_subset _

/-- The state once a block is moved keeps the events that are on their way. -/
theorem keeps_onWay {s : PioHost} {required acked : Finset SdEvent}
    (hacked : acked ⊆ if s.isLocal then ∅ else s.onWay) :
    acked ⊆ s.held ∧ required ∩ acked ⊆ s.coming := by
  unfold PioHost.held PioHost.coming
  cases hlocal : s.isLocal with
  | true =>
    rw [hlocal] at hacked
    have hnone : acked = ∅ := Finset.subset_empty.1 hacked
    rw [hnone, Finset.inter_empty]
    exact ⟨Finset.empty_subset _, Finset.empty_subset _⟩
  | false =>
    rw [hlocal] at hacked
    constructor
    · exact hacked.trans Finset.subset_union_right
    · exact Finset.inter_subset_right.trans hacked

/-- The extension once a block of the request is moved. -/
structure Moved (r : RequestId) (s : PioHost) (k : MshcHost) : Prop where
  outstanding : k.outstandingRequest = some r
  worker : k.busyWorker = none
  method : (k.requests r).command.transferMethod = .pio
  port : s.isLocal = false → k.localRequestPending = false
  ended : k.ended.length = s.ended.length

theorem Moved.keeping {r : RequestId} {s : PioHost} {k : MshcHost} {acked : Finset SdEvent}
    (hm : Moved r s k) (hway : acked ⊆ if s.isLocal then ∅ else s.onWay) :
    Keeping r { s with toMshcHost := k, due := false, acked := acked } := by
  refine Working.keeping ⟨Or.inr hm.outstanding, ?_, fun _ => hm.worker, hm.method, hm.port⟩ ?_
  · exact fun _ => ⟨hm.outstanding, hm.worker, rfl⟩
  · exact keeps_onWay (s := { s with toMshcHost := k, due := false, acked := acked }) hway

theorem Moved.setStatus {r : RequestId} {s : PioHost} {k : MshcHost} (hm : Moved r s k)
    (status : NtStatus) : Moved r s (k.setStatus r status) := by
  refine ⟨hm.outstanding, hm.worker, ?_, hm.port, hm.ended⟩
  rw [MshcHost.setStatus_requests]
  exact hm.method

theorem Moved.setRequired {r : RequestId} {s : PioHost} {k : MshcHost} (hm : Moved r s k)
    (required : Finset SdEvent) : Moved r s (k.setRequired r required) := by
  refine ⟨hm.outstanding, hm.worker, ?_, hm.port, hm.ended⟩
  rw [MshcHost.setRequired_requests]
  exact hm.method

/-- The last block leaves only what is on its way, or the end of the transfer to be consumed. -/
theorem Keeping.last_block {c : CallContext} {r : RequestId} {s : PioHost} (hk : Keeping r s)
    (hkept : EventsKept s (.startTransfer c)) (hlast : ¬ s.MoreBlocks) :
    s.acked \ (s.currentEvents ∩ {.cardRwEnd}) ⊆ if s.isLocal then ∅ else s.onWay := by
  unfold EventsKept at hkept
  rw [if_neg hlast] at hkept
  intro e he
  obtain ⟨hacked, hunused⟩ := Finset.mem_sdiff.1 he
  rcases Finset.mem_union.1 (hkept hacked) with hway | hend
  · exact hway
  · have hnot : e ∉ s.currentEvents := fun hhere => hunused (Finset.mem_inter.2 ⟨hhere, hend⟩)
    have hheld := hk.recorded hacked
    unfold PioHost.held at hheld
    cases hlocal : s.isLocal with
    | true =>
      rw [hlocal] at hheld
      exact absurd hheld hnot
    | false =>
      rw [hlocal] at hheld
      exact (Finset.mem_union.1 hheld).resolve_left hnot

/-- **A block is moved.** -/
theorem pioStep_startTransfer {c : CallContext} {r : RequestId} {s : PioHost}
    (hcurrent : s.current = some r) (hk : Keeping r s) (hdue : s.due = true)
    (hkept : EventsKept s (.startTransfer c)) :
    PioInv (PioHost.settle r s.ended.length { s with
      toMshcHost := (mshcSlotIssueRequest c r
        (s.toMshcHost.put r { s.requests r with type := .startTransfer })).1
      due := false
      acked := if s.MoreBlocks then s.acked else s.acked \ (s.currentEvents ∩ {.cardRwEnd}) }) := by
  have hworker := hk.worker hdue
  have hspent : (s.requests r).requiredEvents = ∅ := by
    by_contra hwaits
    cases (hk.waits hwaits).2.2.symm.trans hdue
  generalize hg : s.toMshcHost.put r { s.requests r with type := .startTransfer } = g
  have hrequest : g.requests r = { s.requests r with type := .startTransfer } :=
    hg ▸ MshcHost.put_requests ..
  have htype : (g.requests r).type = .startTransfer := by rw [hrequest]
  have hrequired : ((g.publish r).requests r).requiredEvents = ∅ :=
    (congrArg SdRequest.requiredEvents hrequest).trans hspent
  have hmethod : ((g.publish r).requests r).command.transferMethod = .pio :=
    (congrArg (fun request : SdRequest => request.command.transferMethod) hrequest).trans hk.method
  have hmore : (g.publish r).MoreBlocks ↔ s.MoreBlocks := by
    subst hg
    exact Iff.rfl
  have hstart : (mshcSlotIssueRequest c r g).1 = (mshcStartPioTransfer c r (g.publish r)).1 := by
    rw [mshcSlotIssueRequest_transfer c htype]
    unfold mshcStartTransfer
    rw [hmethod]
  have hmoved : Moved r s (g.publish r).takeBlock := by
    refine ⟨rfl, ?_, hmethod, ?_, ?_⟩
    · subst hg
      exact hworker
    · subst hg
      exact hk.port
    · subst hg
      rfl
  rw [hstart]
  rcases mshcStartPioTransfer_cases c r (g.publish r) with
    ⟨hleft, hnext⟩ | ⟨hlast, -, hover⟩ | ⟨hlast, -, hwaits⟩
  · rw [hnext, if_pos (hmore.1 hleft)]
    have hway : s.acked ⊆ if s.isLocal then ∅ else s.onWay := by
      have hkept' := hkept
      unfold EventsKept at hkept'
      rwa [if_pos (hmore.1 hleft), Finset.union_empty] at hkept'
    have hnextMoved := (hmoved.setRequired (((g.publish r).requests r).requiredEvents
      ∪ {((g.publish r).requests r).command.fifoEvent})).setStatus .moreProcessingRequired
    exact settle_keeping hcurrent (hnextMoved.keeping hway) hnextMoved.ended
  · have hlast' : ¬ s.MoreBlocks := fun hleft => hlast (hmore.2 hleft)
    rw [hover, if_neg hlast']
    have hoverMoved := hmoved.setStatus .success
    have hkeeping := hoverMoved.keeping (hk.last_block hkept hlast')
    have hspent' : (((g.publish r).takeBlock.setStatus r .success).requests r).requiredEvents = ∅ :=
      (MshcHost.setStatus_required ..).trans hrequired
    exact Working.complete (s := { s with
      toMshcHost := (g.publish r).takeBlock.setStatus r .success
      due := false
      acked := s.acked \ (s.currentEvents ∩ {.cardRwEnd}) }) hcurrent hkeeping.toWorking
      hkeeping.recorded hspent' rfl hoverMoved.worker _ _ _ _ hoverMoved.ended
  · have hlast' : ¬ s.MoreBlocks := fun hleft => hlast (hmore.2 hleft)
    rw [hwaits, if_neg hlast']
    have hwaitsMoved := (hmoved.setStatus .success).setRequired
      (((g.publish r).requests r).requiredEvents ∪ {.cardRwEnd})
    exact settle_keeping hcurrent (hwaitsMoved.keeping (hk.last_block hkept hlast'))
      hwaitsMoved.ended

/-- **Every step that meets the condition keeps the invariant.** -/
theorem pioStep_pioInv {s s' : PioHost} {step : PioStep} (hi : PioInv s)
    (hkept : EventsKept s step) (hs : pioStep s step = some s') : PioInv s' := by
  unfold pioStep at hs
  cases step with
  | issue c r isLocal request =>
    dsimp only at hs
    split at hs
    · rename_i hissue
      obtain ⟨hnone, haccepted, htype, -, hmethod⟩ := hissue
      exact Option.some.inj hs ▸ pioStep_issue hi hnone haccepted htype hmethod
    · cases hs
  | interrupt events errors cardChange =>
    exact Option.some.inj hs ▸ pioStep_interrupt hi hkept
  | prepare =>
    dsimp only at hs
    split at hs
    · rename_i hlocal
      rw [← Option.some.inj hs]
      refine ⟨hi.idle, fun r hr => ?_⟩
      have hk := hi.active r hr
      refine ⟨⟨hk.outstanding, hk.waits, hk.worker, hk.method, ?_⟩, hk.recorded, hk.coming⟩
      exact fun hport => by cases hlocal.1.symm.trans hport
    · cases hs
  | portDpc c events errors =>
    dsimp only at hs
    split at hs
    · cases hs
    · rename_i r hcurrent
      obtain ⟨hport, hs⟩ := Option.ite_none_right_eq_some.mp hs
      rw [← Option.some.inj hs]
      exact pioStep_portDpc hcurrent (hi.active r hcurrent) hport.1 (hkept r hcurrent)
  | localDpc c =>
    dsimp only at hs
    split at hs
    · cases hs
    · rename_i r hcurrent
      rw [← Option.some.inj hs]
      exact pioStep_localDpc hcurrent (hi.active r hcurrent)
  | busyWorker wait inserted =>
    dsimp only at hs
    split at hs
    · cases hs
    · rename_i r hcurrent
      rw [← Option.some.inj hs]
      exact pioStep_busyWorker hcurrent (hi.active r hcurrent)
  | startTransfer c =>
    dsimp only at hs
    split at hs
    · cases hs
    · rename_i r hcurrent
      obtain ⟨hdue, hs⟩ := Option.ite_none_right_eq_some.mp hs
      rw [← Option.some.inj hs]
      exact pioStep_startTransfer (c := c) hcurrent (hi.active r hcurrent) hdue.1 hkept

/-! ## 6. Runs

The property is the part of `Keeping` that speaks of the events a request waits for. -/

def idlePio : PioHost where
  toMshcHost := idleHost
  current := none
  isLocal := false
  due := false
  onWay := ∅
  acked := ∅

/-- A read of 512 bytes, whose end is reported while the transfer waits for it, and the block of
the tuning command, whose end comes early. -/
def pioReads : List PioStep :=
  [.issue quietCard (.port 0) false readRequest, .interrupt {.cardResponse, .bufferFull} ∅ false,
    .portDpc quietCard {.cardResponse} ∅, .portDpc quietCard {.bufferFull} ∅,
    .startTransfer quietCard, .interrupt {.cardRwEnd} ∅ false, .portDpc quietCard {.cardRwEnd} ∅,
    .issue quietCard .tuning true (tuningRequest false), .interrupt {.cardResponse} ∅ false,
    .interrupt {.cardRwEnd} ∅ false, .localDpc quietCard]

/-- The end of the read is acknowledged before its transfer is started. -/
def shortRead : List PioStep :=
  [.issue quietCard (.port 0) false readRequest, .interrupt {.cardResponse, .bufferFull} ∅ false,
    .portDpc quietCard {.cardResponse, .bufferFull} ∅, .interrupt {.cardRwEnd} ∅ false,
    .portDpc quietCard {.cardRwEnd} ∅]

end WoaRk3576.Sd
