/-
# The phases of a request of dwcmshc

The port driver issues a request in phases: the command, and for data one
`SdRequestTypeStartTransfer` after another while it is told `STATUS_MORE_PROCESSING_REQUIRED`.
`MshcRequestDpc` is called with the events and errors of a phase in any order and grouping, and may
be called with those of the next phase early.

`phases_exact` is what holds when no report falls between two phases and no timeout is held back
for good: every phase is completed exactly once, with an error if one was reported, or waits for an
event that is still to come.  `report_between_phases` is the end of a short read that is reported
between its command and its transfer: the DPC drops it, and the transfer waits for it forever.

At any time a request rests or is in flight (`PhaseInv`), and the two have little in common.

* In flight (`InFlight`) it waits for something, and for nothing that was reported: the DPC takes
  what is reported off what is required, and completes the request when nothing is left.  This is
  why it cannot be completed twice, and why what is left is to come.
* At rest (`Resting`) the issues and the completions are equally many.  The next phase can start if
  the end of the transfer, where it was reported early, is in `CurrentEvents`, for the start of a
  transfer looks there and nowhere else (`Continues`).  A report at rest is dropped; the condition
  on the steps is that nothing is dropped which the next phase needs.

A completion takes the one to the other (`Ending.phaseInv`), with the status deciding whether there
is a next phase.

The card stays inserted and its data line idle.
-/
import Mathlib.Data.Finset.Lattice.Lemmas
import Mathlib.Data.Finset.SDiff
import Mathlib.Data.List.Range
import WoaRk3576.Lib.Transition
import WoaRk3576.Sd.MshcLocal

namespace WoaRk3576.Sd

open WoaRk3576.Lib

/-! ## 1. The port driver's side

A data command is a request with a command phase and transfer phases, and the port driver issues
each phase when the one before was completed.  What it sees is the log of completions.  The data
line is idle and the card inserted, so a completion is not put off; the worker has a module of its
own. -/

/-- The card stays inserted and the data line is idle. -/
def quietCard : CallContext := ⟨.idle, true, true⟩

theorem mshcCompleteRequest_quiet (r : RequestId) (status : NtStatus) (h : MshcHost) :
    mshcCompleteRequest quietCard r status h = finishRequest true r (h.setStatus r status) := rfl

/-- A status that reports an error. -/
def NtStatus.Failed (status : NtStatus) : Prop :=
  status ≠ .success ∧ status ≠ .pending ∧ status ≠ .moreProcessingRequired

/-- A completed request that has a further phase. -/
def SdRequest.GoesOn (request : SdRequest) : Prop :=
  request.command.isData ∧ (request.status = .moreProcessingRequired
    ∨ (request.status = .success ∧ request.type ≠ .startTransfer))

instance (request : SdRequest) : Decidable request.GoesOn :=
  inferInstanceAs (Decidable (_ ∧ (_ ∨ _ ∧ _)))

/-- The extension, the request that the port driver works on and whether its next phase is due,
what was reported of it so far, and for every completed phase the errors that had been reported
and the status. -/
structure PhaseHost extends MshcHost where
  current : Option RequestId
  due : Bool
  reported : Finset SdEvent
  reportedErrors : Finset SdError
  log : List (Finset SdError × NtStatus)

/-- The port driver takes note of a completion since `n` requests had been completed. -/
def PhaseHost.record (r : RequestId) (n : Nat) (s : PhaseHost) : PhaseHost :=
  if n < s.ended.length then
    { s with
      due := decide (s.requests r).GoesOn
      log := s.log ++ [(s.reportedErrors, (s.requests r).status)] }
  else s

/-- What the port driver, or for a local request the driver itself, does. -/
inductive PhaseStep
  | issue (r : RequestId) (localRequest : Bool) (request : SdRequest)
  | startTransfer (localRequest : Bool)
  | dpc (events : Finset SdEvent) (errors : Finset SdError)

/-- The events of the FIFO, which are raised again for every block. -/
def fifoEvents : Finset SdEvent := {.bufferEmpty, .bufferFull}

instance (request : SdRequest) : Decidable request.Accepted :=
  decidable_of_iff (request.type ≠ .unspecified
      ∧ (request.type = .startTransfer → request.command.transferMethod = .pio)
      ∧ (request.type ≠ .startTransfer → request.command.responseType ≠ .undefined
        ∧ (request.command.isData → request.command.transferMethod ≠ .undefined)))
    (by
      unfold SdRequest.Accepted
      cases request.type <;> simp)

/-- A new request is issued when the one before is over, the next phase when it is due, and every
event and error is reported once. -/
def phaseStep (s : PhaseHost) : PhaseStep → Option PhaseHost
  | .issue r localRequest request =>
    if s.ended.length = s.issues ∧ s.due = false ∧ request.Accepted
        ∧ request.type ≠ .startTransfer then
      let h := { s.toMshcHost with localRequestPending := localRequest }
      some { s with
        toMshcHost := (mshcSlotIssueRequest quietCard r (h.put r request)).1
        current := some r
        reported := ∅
        reportedErrors := ∅ }
    else none
  | .startTransfer localRequest =>
    match s.current with
    | none => none
    | some r =>
      if s.due then
        let h := { s.toMshcHost with localRequestPending := localRequest }
        let request := { s.requests r with type := .startTransfer }
        some (PhaseHost.record r s.ended.length { s with
          toMshcHost := (mshcSlotIssueRequest quietCard r (h.put r request)).1
          due := false
          reported := s.reported \ fifoEvents })
      else none
  | .dpc events errors =>
    match s.current with
    | none => none
    | some r =>
      if Disjoint events s.reported ∧ Disjoint errors s.reportedErrors then
        some (PhaseHost.record r s.ended.length { s with
          toMshcHost := mshcRequestDpc quietCard r events errors s.toMshcHost
          reported := s.reported ∪ events
          reportedErrors := s.reportedErrors ∪ errors })
      else none

/-- A slot that has not been used. -/
def PhaseHost.Fresh (s : PhaseHost) : Prop :=
  s.issues = 0 ∧ s.ended = [] ∧ s.localRequestPending = false ∧ s.current = none
    ∧ s.due = false ∧ s.log = []

/-- A phase waits for events that have not been reported yet. -/
def PhaseHost.Awaits (s : PhaseHost) : Prop :=
  ∃ r, s.outstandingRequest = some r ∧ (s.requests r).requiredEvents ≠ ∅
    ∧ Disjoint (s.requests r).requiredEvents s.reported

/-- **Every issued phase is completed exactly once**, but for the last one, which may still wait
for an event to come; a phase of which an error was reported before fails; and a completion ends
the wait of a local request. -/
structure PhasesExact (s : PhaseHost) : Prop where
  once : s.ended.map Ticket.issue = List.range' 1 s.ended.length
  all : s.ended.length = s.issues ∨ (s.ended.length + 1 = s.issues ∧ s.Awaits)
  logged : s.log.length = s.ended.length
  errors : ∀ entry ∈ s.log, entry.1 ≠ ∅ → entry.2.Failed
  released : s.ended.length = s.issues → s.localRequestPending = false

/-- Whether the next block is not the last. -/
def MshcExtension.MoreBlocks (h : MshcExtension) : Prop :=
  h.currentTransferRemainingLength - h.fifoThreshold * 4 ≠ 0

instance (h : MshcExtension) : Decidable h.MoreBlocks := inferInstanceAs (Decidable (_ ≠ _))

/-- **The condition on a step.**  The end of a PIO transfer is not known before its last block is
started; nothing is reported between two phases that the request still needs; and the last event
that a phase waits for does not come while a timeout is held back. -/
def ReportsKept (s : PhaseHost) : PhaseStep → Prop
  | .issue .. => True
  | .startTransfer _ => ∀ r ∈ s.current, (s.requests r).command.transferMethod = .pio →
      s.MoreBlocks → .cardRwEnd ∉ s.currentEvents
  | .dpc events errors => ∀ r ∈ s.current,
      (s.due = true → errors = ∅
        ∧ ((s.requests r).command.transferMethod = .pio → .cardRwEnd ∉ events))
      ∧ ((s.requests r).requiredEvents ≠ ∅ → (s.requests r).requiredEvents \ events = ∅ →
        s.currentErrors ∪ errors ≠ ∅ → ¬ HeldBack events (s.currentErrors ∪ errors))

instance (s : PhaseHost) (step : PhaseStep) : Decidable (ReportsKept s step) :=
  match step with
  | .issue .. => inferInstanceAs (Decidable True)
  | .startTransfer _ => inferInstanceAs (Decidable (∀ r ∈ s.current,
      (s.requests r).command.transferMethod = .pio → s.MoreBlocks →
        .cardRwEnd ∉ s.currentEvents))
  | .dpc events errors => inferInstanceAs (Decidable (∀ r ∈ s.current,
      (s.due = true → errors = ∅
        ∧ ((s.requests r).command.transferMethod = .pio → .cardRwEnd ∉ events))
      ∧ ((s.requests r).requiredEvents ≠ ∅ → (s.requests r).requiredEvents \ events = ∅ →
        s.currentErrors ∪ errors ≠ ∅ → ¬ HeldBack events (s.currentErrors ∪ errors))))

/-! ## 2. The invariant

A request rests or is under way.  At rest every issue was completed, and what a further phase would
find is in order; under way one more was issued than completed, and it waits for events that were
not reported.  The second part is what the lost reports break. -/

/-- The logs up to the last completion. -/
structure Logged (s : PhaseHost) : Prop where
  once : s.ended.map Ticket.issue = List.range' 1 s.ended.length
  length : s.log.length = s.ended.length
  errors : ∀ entry ∈ s.log, entry.1 ≠ ∅ → entry.2.Failed

/-- The next phase of a request can start: no error was reported, and a reported end of the transfer
is kept in the extension. -/
structure Continues (r : RequestId) (s : PhaseHost) : Prop where
  method : (s.requests r).command.transferMethod ≠ .undefined
  clean : s.reportedErrors = ∅
  recorded : (s.requests r).command.transferMethod = .pio → .cardRwEnd ∈ s.reported →
    .cardRwEnd ∈ s.currentEvents

/-- No phase is under way. -/
structure Resting (s : PhaseHost) : Prop where
  allEnded : s.ended.length = s.issues
  released : s.localRequestPending = false
  spent : ∀ r ∈ s.current, (s.requests r).requiredEvents = ∅
  next : s.due = true → ∀ r ∈ s.current, Continues r s

/-- A phase of the request is under way. -/
structure InFlight (r : RequestId) (s : PhaseHost) : Prop where
  current : s.current = some r
  outstanding : s.outstandingRequest = some r
  started : s.ended.length + 1 = s.issues
  due : s.due = false
  waits : (s.requests r).requiredEvents ≠ ∅
  unreported : Disjoint (s.requests r).requiredEvents s.reported
  errors : s.reportedErrors ≠ ∅ → s.currentErrors ≠ ∅
  method : (s.requests r).command.isData → (s.requests r).command.transferMethod ≠ .undefined
  recorded :
    (s.requests r).type ≠ .startTransfer ∨ (s.requests r).status = .moreProcessingRequired →
      (s.requests r).command.transferMethod = .pio → .cardRwEnd ∈ s.reported →
        .cardRwEnd ∈ s.currentEvents

structure PhaseInv (s : PhaseHost) : Prop extends Logged s where
  phase : Resting s ∨ ∃ r, InFlight r s

/-! ## 3. Completion

`Ending` is the moment between the last event and the completion, in which the logs are those of
before and the request is ready to be completed.  It is the same moment for a command, a block, a
transfer and a failure, so each of these has only to show that it comes there. -/

theorem finishRequest_inserted (r : RequestId) (h : MshcHost) :
    finishRequest true r h = { h with
      outstandingRequest := if (h.requests r).status.Releases then none else h.outstandingRequest
      localRequestPending := false
      completed := if h.localRequestPending then h.completed
        else h.completed ++ [(r, (h.requests r).status)]
      ended := h.ended ++ [⟨r, h.issues⟩] } := by
  unfold finishRequest recordEnd checkCard
  rw [signalCompletion_eq, releaseRequest_eq]
  rfl

/-- A phase that is about to be completed. -/
structure Ending (r : RequestId) (status : NtStatus) (s : PhaseHost) : Prop extends Logged s where
  current : s.current = some r
  started : s.ended.length + 1 = s.issues
  spent : (s.requests r).requiredEvents = ∅
  failed : s.reportedErrors ≠ ∅ → status.Failed
  next : ({ s.requests r with status } : SdRequest).GoesOn → Continues r s

/-- What a completion does, as far as the phases depend on it. -/
structure Completed (r : RequestId) (status : NtStatus) (s s' : PhaseHost) : Prop where
  ended : s'.ended = s.ended ++ [⟨r, s.issues⟩]
  issues : s'.issues = s.issues
  pending : s'.localRequestPending = false
  request : s'.requests r = { s.requests r with status }
  events : s'.currentEvents = s.currentEvents
  current : s'.current = s.current
  due : s'.due = decide ({ s.requests r with status } : SdRequest).GoesOn
  reported : s'.reported = s.reported
  reportedErrors : s'.reportedErrors = s.reportedErrors
  log : s'.log = s.log ++ [(s.reportedErrors, status)]

theorem completed_record (r : RequestId) (status : NtStatus) (s : PhaseHost) :
    Completed r status s (PhaseHost.record r s.ended.length
      { s with toMshcHost := mshcCompleteRequest quietCard r status s.toMshcHost }) := by
  have hfinish := finishRequest_inserted r (s.setStatus r status)
  rw [← mshcCompleteRequest_quiet] at hfinish
  generalize mshcCompleteRequest quietCard r status s.toMshcHost = g at hfinish
  have hended : g.ended = s.ended ++ [⟨r, s.issues⟩] := congrArg MshcHost.ended hfinish
  have hrequest : g.requests r = { s.requests r with status } :=
    (congrArg (fun h : MshcHost => h.requests r) hfinish).trans (s.setStatus_requests r status)
  have hissues : g.issues = s.issues := by
    rw [hfinish]
    rfl
  have hpending : g.localRequestPending = false := by rw [hfinish]
  have hevents : g.currentEvents = s.currentEvents := by
    rw [hfinish]
    rfl
  have hgrown : s.ended.length < g.ended.length := by
    rw [hended, List.length_append]
    exact Nat.lt_succ_self _
  unfold PhaseHost.record
  rw [if_pos hgrown]
  constructor
  · exact hended
  · exact hissues
  · exact hpending
  · exact hrequest
  · exact hevents
  · rfl
  · exact congrArg (fun request : SdRequest => decide request.GoesOn) hrequest
  · rfl
  · rfl
  · exact congrArg (fun request : SdRequest => s.log ++ [(s.reportedErrors, request.status)])
      hrequest

/-- **A completion** ends the phase, and the next one can start. -/
theorem Ending.phaseInv {r : RequestId} {status : NtStatus} {s s' : PhaseHost}
    (he : Ending r status s) (hc : Completed r status s s') : PhaseInv s' := by
  have hlength : s'.ended.length = s.ended.length + 1 := by
    rw [hc.ended, List.length_append]
    rfl
  constructor
  · constructor
    · rw [hlength, hc.ended, List.map_append, he.once, List.range'_1_concat, ← he.started,
        Nat.add_comm 1]
      rfl
    · rw [hlength, hc.log, List.length_append, he.length]
      rfl
    · intro entry hentry
      rw [hc.log] at hentry
      rcases List.mem_append.1 hentry with hold | hnew
      · exact he.errors entry hold
      · rw [List.mem_singleton.1 hnew]
        exact he.failed
  · left
    constructor
    · rw [hlength, hc.issues]
      exact he.started
    · exact hc.pending
    · intro q hq
      cases he.current.symm.trans (hc.current ▸ hq)
      rw [hc.request]
      exact he.spent
    · intro hdue q hq
      cases he.current.symm.trans (hc.current ▸ hq)
      rw [hc.due] at hdue
      obtain ⟨hmethod, hclean, hrecorded⟩ := he.next (of_decide_eq_true hdue)
      constructor
      · rw [hc.request]
        exact hmethod
      · rw [hc.reportedErrors]
        exact hclean
      · rw [hc.request, hc.reported, hc.events]
        exact hrecorded

/-! ## 4. A call of the DPC

A report takes events off what the phase waits for.  Nothing more happens while some are left,
unless there is an error; a timeout is an error that is held back until the event that ends its
phase, and if that event came before, nothing is left to end it. -/

/-- Where nothing is completed there is nothing to take note of. -/
theorem PhaseHost.record_of_eq {r : RequestId} {n : Nat} {s : PhaseHost}
    (hn : s.ended.length = n) : PhaseHost.record r n s = s := by
  unfold PhaseHost.record
  exact if_neg (hn ▸ Nat.lt_irrefl n)

theorem convertError_failed {errors : Finset SdError} (herrors : errors ≠ ∅) :
    (mshcConvertStandardErrorToStatus errors).Failed := by
  unfold mshcConvertStandardErrorToStatus NtStatus.Failed
  rw [if_neg herrors]
  split
  · decide
  · split
    · decide
    · split
      · decide
      · split
        · decide
        · split
          · decide
          · decide

theorem failed_not_goesOn {request : SdRequest} (hfailed : request.status.Failed) :
    ¬ request.GoesOn := by
  rintro ⟨-, hmore | ⟨hsuccess, -⟩⟩
  · exact hfailed.2.2 hmore
  · exact hfailed.1 hsuccess

/-- A failed request is completed like any other, once its events are taken back. -/
theorem failRequest_eq (c : CallContext) (r : RequestId) (errors : Finset SdError)
    (h : MshcHost) : ∃ n, failRequest c r errors h
      = mshcCompleteRequest c r (mshcConvertStandardErrorToStatus errors)
        { h.setRequired r ∅ with
          currentEvents := ∅
          currentErrors := ∅
          dataCrcErrorsSinceLastTuning := n } := by
  unfold failRequest
  dsimp only
  split
  · exact ⟨_, rfl⟩
  · exact ⟨_, rfl⟩

/-- The state with the report of a DPC taken down. -/
def PhaseHost.report (r : RequestId) (events : Finset SdEvent) (errors : Finset SdError)
    (s : PhaseHost) : PhaseHost :=
  let h := { s.toMshcHost with
    currentEvents := s.currentEvents ∪ events
    currentErrors := s.currentErrors ∪ errors }
  { s with
    toMshcHost := h.setRequired r ((s.requests r).requiredEvents \ events)
    reported := s.reported ∪ events
    reportedErrors := s.reportedErrors ∪ errors }

@[simp]
theorem PhaseHost.report_requests (r : RequestId) (events : Finset SdEvent)
    (errors : Finset SdError) (s : PhaseHost) : (s.report r events errors).requests r
      = { s.requests r with requiredEvents := (s.requests r).requiredEvents \ events } :=
  MshcHost.setRequired_requests ..

/-- A phase that still waits after a report. -/
theorem InFlight.report {r : RequestId} {s : PhaseHost} {events : Finset SdEvent}
    {errors : Finset SdError} (hf : InFlight r s)
    (hwaits : (s.requests r).requiredEvents \ events ≠ ∅) :
    InFlight r (s.report r events errors) := by
  have hrequest := s.report_requests r events errors
  constructor
  · exact hf.current
  · exact hf.outstanding
  · exact hf.started
  · exact hf.due
  · rw [hrequest]
    exact hwaits
  · rw [hrequest]
    have hold := Finset.disjoint_of_subset_left
      (Finset.sdiff_subset (t := events)) hf.unreported
    exact Finset.disjoint_union_right.2 ⟨hold, Finset.sdiff_disjoint⟩
  · intro herrors hnone
    have hnone' : s.currentErrors ∪ errors = ∅ := hnone
    obtain ⟨hcurrent, hnew⟩ := Finset.union_eq_empty.1 hnone'
    refine herrors (Finset.union_eq_empty.2 ⟨?_, hnew⟩)
    by_contra hold
    exact hf.errors hold hcurrent
  · rw [hrequest]
    exact hf.method
  · rw [hrequest]
    intro hphase hpio hend
    rcases Finset.mem_union.1 hend with hold | hnew
    · exact Finset.mem_union_left _ (hf.recorded hphase hpio hold)
    · exact Finset.mem_union_right _ hnew

theorem PhaseInv.record {r : RequestId} {n : Nat} {s : PhaseHost} (hi : PhaseInv s)
    (hn : s.ended.length = n) : PhaseInv (PhaseHost.record r n s) := by
  rw [PhaseHost.record_of_eq hn]
  exact hi

/-- A phase that ends with its errors. -/
theorem InFlight.failing {r : RequestId} {s : PhaseHost} (events : Finset SdEvent)
    {errors : Finset SdError} (hl : Logged s) (hf : InFlight r s)
    (herrors : s.currentErrors ∪ errors ≠ ∅) (n : Nat) :
    Ending r (mshcConvertStandardErrorToStatus (s.currentErrors ∪ errors))
      { s.report r events errors with
        toMshcHost := { (s.report r events errors).setRequired r ∅ with
          currentEvents := ∅
          currentErrors := ∅
          dataCrcErrorsSinceLastTuning := n } } := by
  have hfailed := convertError_failed herrors
  constructor
  · exact ⟨hl.once, hl.length, hl.errors⟩
  · exact hf.current
  · exact hf.started
  · exact congrArg SdRequest.requiredEvents (MshcHost.setRequired_requests ..)
  · exact fun _ => hfailed
  · exact fun hgoes => absurd hgoes (failed_not_goesOn hfailed)

/-- The last event of a phase without errors. -/
theorem InFlight.ending {r : RequestId} {s : PhaseHost} {events : Finset SdEvent}
    {errors : Finset SdError} (hl : Logged s) (hf : InFlight r s)
    (hlast : (s.requests r).requiredEvents \ events = ∅) (hnone : s.currentErrors ∪ errors = ∅)
    {status : NtStatus} (hstatus : status = if (s.requests r).status = .moreProcessingRequired then
      .moreProcessingRequired else .success) :
    Ending r status (s.report r events errors) := by
  obtain ⟨hcurrent, hnew⟩ := Finset.union_eq_empty.1 hnone
  have hclean : s.reportedErrors ∪ errors = ∅ := by
    refine Finset.union_eq_empty.2 ⟨?_, hnew⟩
    by_contra hold
    exact hf.errors hold hcurrent
  have hrequest := s.report_requests r events errors
  constructor
  · exact ⟨hl.once, hl.length, hl.errors⟩
  · exact hf.current
  · exact hf.started
  · rw [hrequest]
    exact hlast
  · exact fun herrors => absurd hclean herrors
  · rw [hrequest]
    rintro ⟨hdata, hgoes⟩
    have hphase : (s.requests r).type ≠ .startTransfer
        ∨ (s.requests r).status = .moreProcessingRequired := by
      by_cases hmore : (s.requests r).status = .moreProcessingRequired
      · exact Or.inr hmore
      · rw [if_neg hmore] at hstatus
        rcases hgoes with hmore' | ⟨-, htype⟩
        · cases hstatus.symm.trans hmore'
        · exact Or.inl htype
    constructor
    · rw [hrequest]
      exact hf.method hdata
    · exact hclean
    · rw [hrequest]
      intro hpio hend
      rcases Finset.mem_union.1 hend with hold | hnew
      · exact Finset.mem_union_left _ (hf.recorded hphase hpio hold)
      · exact Finset.mem_union_right _ hnew

/-- **A report of a phase that is under way.** -/
theorem InFlight.dpc {r : RequestId} {s : PhaseHost} {events : Finset SdEvent}
    {errors : Finset SdError} (hl : Logged s) (hf : InFlight r s)
    (hreport : ¬ (events = ∅ ∧ errors = ∅))
    (hheld : (s.requests r).requiredEvents \ events = ∅ → s.currentErrors ∪ errors ≠ ∅ →
      ¬ HeldBack events (s.currentErrors ∪ errors)) :
    PhaseInv (PhaseHost.record r s.ended.length { s with
      toMshcHost := mshcRequestDpc quietCard r events errors s.toMshcHost
      reported := s.reported ∪ events
      reportedErrors := s.reportedErrors ∪ errors }) := by
  have hguard : ¬ ((events = ∅ ∧ errors = ∅) ∨ (s.requests r).requiredEvents = ∅) := by
    rintro (hnothing | hspent)
    · exact hreport hnothing
    · exact hf.waits hspent
  have htaken : ¬ s.outstandingRequest = none := by
    rw [hf.outstanding]
    simp
  have hrequired : ((s.report r events errors).requests r).requiredEvents
      = (s.requests r).requiredEvents \ events := by rw [PhaseHost.report_requests]
  have hdpc : mshcRequestDpc quietCard r events errors s.toMshcHost
      = let h := (s.report r events errors).toMshcHost
        if h.currentErrors ≠ ∅ then
          if HeldBack events h.currentErrors then h
          else failRequest quietCard r h.currentErrors h
        else if (h.requests r).requiredEvents = ∅ then
          mshcCompleteRequest quietCard r
            (if (h.requests r).status = .moreProcessingRequired then .moreProcessingRequired
              else .success) h
        else h := by
    unfold mshcRequestDpc
    rw [if_neg hguard]
    exact if_neg htaken
  rw [hdpc]
  dsimp only
  split
  · rename_i herrors
    have hnone : s.currentErrors ∪ errors ≠ ∅ := herrors
    split
    · rename_i hback
      have hwaits : (s.requests r).requiredEvents \ events ≠ ∅ :=
        fun hlast => hheld hlast hnone hback
      exact PhaseInv.record (s := s.report r events errors)
        ⟨⟨hl.once, hl.length, hl.errors⟩, Or.inr ⟨r, hf.report hwaits⟩⟩ rfl
    · obtain ⟨n, hfail⟩ := failRequest_eq quietCard r (s.currentErrors ∪ errors)
        (s.report r events errors).toMshcHost
      have hending := hf.failing events hl hnone n
      rw [show failRequest quietCard r (s.report r events errors).currentErrors _ = _ from hfail]
      exact hending.phaseInv (completed_record r _ _)
  · rename_i herrors
    have hnone : s.currentErrors ∪ errors = ∅ := not_not.1 herrors
    split
    · rename_i hlast
      rw [hrequired] at hlast
      have hstatus : ((s.report r events errors).requests r).status = (s.requests r).status := by
        rw [PhaseHost.report_requests]
      rw [hstatus]
      have hending := hf.ending hl hlast hnone rfl
      exact hending.phaseInv (completed_record r _ (s.report r events errors))
    · rename_i hwaits
      rw [hrequired] at hwaits
      exact PhaseInv.record (s := s.report r events errors)
        ⟨⟨hl.once, hl.length, hl.errors⟩, Or.inr ⟨r, hf.report hwaits⟩⟩ rfl

/-- A call of the DPC that does nothing. -/
theorem mshcRequestDpc_idle (c : CallContext) {r : RequestId} {events : Finset SdEvent}
    {errors : Finset SdError} {h : MshcHost}
    (hidle : (events = ∅ ∧ errors = ∅) ∨ (h.requests r).requiredEvents = ∅) :
    mshcRequestDpc c r events errors h = h := by
  unfold mshcRequestDpc
  exact if_pos hidle

theorem phaseStep_dpc {r : RequestId} {s : PhaseHost} {events : Finset SdEvent}
    {errors : Finset SdError} (hi : PhaseInv s) (hcurrent : s.current = some r)
    (hkept : ReportsKept s (.dpc events errors)) :
    PhaseInv (PhaseHost.record r s.ended.length { s with
      toMshcHost := mshcRequestDpc quietCard r events errors s.toMshcHost
      reported := s.reported ∪ events
      reportedErrors := s.reportedErrors ∪ errors }) := by
  obtain ⟨hdue, hheld⟩ := hkept r hcurrent
  have hl := hi.toLogged
  rcases hi.phase with hrest | ⟨q, hf⟩
  · rw [mshcRequestDpc_idle quietCard (Or.inr (hrest.spent r hcurrent))]
    refine PhaseInv.record ⟨⟨hl.once, hl.length, hl.errors⟩, Or.inl ?_⟩ rfl
    refine ⟨hrest.allEnded, hrest.released, hrest.spent, ?_⟩
    intro hd q hq
    cases hcurrent.symm.trans hq
    obtain ⟨hnone, hend⟩ := hdue hd
    obtain ⟨hmethod, hclean, hrecorded⟩ := hrest.next hd r hcurrent
    refine ⟨hmethod, ?_, ?_⟩
    · exact Finset.union_eq_empty.2 ⟨hclean, hnone⟩
    · intro hpio hreported
      rcases Finset.mem_union.1 hreported with hold | hnew
      · exact hrecorded hpio hold
      · exact absurd hnew (hend hpio)
  · cases hf.current.symm.trans hcurrent
    by_cases hreport : events = ∅ ∧ errors = ∅
    · rw [mshcRequestDpc_idle quietCard (Or.inl hreport)]
      obtain ⟨rfl, rfl⟩ := hreport
      rw [Finset.union_empty, Finset.union_empty]
      exact hi.record rfl
    · exact hf.dpc hl hreport (hheld hf.waits)

/-! ## 5. The start of a phase

What a phase waits for is set when it starts, without a look at what was reported before, with one
exception: the end of a PIO transfer, which is looked up in `CurrentEvents`.  Whether it is there
is the business of the reports between the phases. -/

/-- What an accepted command looks like once it is sent. -/
structure Sent (r : RequestId) (h h' : MshcHost) : Prop where
  outstanding : h'.outstandingRequest = h.outstandingRequest
  issues : h'.issues = h.issues
  ended : h'.ended = h.ended
  waits : (h'.requests r).requiredEvents ≠ ∅
  command : (h'.requests r).command = (h.requests r).command

theorem commandEvents_ne_empty (c : SdCommand) : c.commandEvents ≠ ∅ := by
  have hresponse : SdEvent.cardResponse ∈ c.commandEvents := by
    unfold SdCommand.commandEvents
    split
    · decide
    · split
      · decide
      · decide
    · decide
  exact Finset.ne_empty_of_mem hresponse

theorem sendBuiltCommand_sent {r : RequestId} {h : MshcHost}
    (hresponse : (h.requests r).command.responseType ≠ .undefined) :
    Sent r h (sendBuiltCommand r h).1 := by
  unfold sendBuiltCommand
  rw [if_neg hresponse]
  refine ⟨rfl, rfl, rfl, ?_, ?_⟩
  · rw [MshcHost.setRequired_requests]
    exact commandEvents_ne_empty _
  · rw [MshcHost.setRequired_requests]

theorem mshcBuildTransfer_requests (r : RequestId) (h : MshcHost) :
    (mshcBuildTransfer r h).1.requests = h.requests ∧ (mshcBuildTransfer r h).1.issues = h.issues
      ∧ (mshcBuildTransfer r h).1.ended = h.ended
      ∧ (mshcBuildTransfer r h).1.outstandingRequest = h.outstandingRequest := by
  unfold mshcBuildTransfer
  dsimp only
  split
  · exact ⟨rfl, rfl, rfl, rfl⟩
  · exact ⟨rfl, rfl, rfl, rfl⟩
  · exact ⟨rfl, rfl, rfl, rfl⟩

theorem mshcSendCommand_sent {r : RequestId} {h : MshcHost}
    (hresponse : (h.requests r).command.responseType ≠ .undefined)
    (hdata : (h.requests r).command.isData → (h.requests r).command.transferMethod ≠ .undefined) :
    Sent r h (mshcSendCommand r h).1 := by
  unfold mshcSendCommand
  split
  · rename_i hd
    have hbuilt := (mshcBuildTransfer_status r h).trans (if_neg (hdata hd))
    obtain ⟨hrequests, hissues, hended, hout⟩ := mshcBuildTransfer_requests r h
    dsimp only
    rw [hbuilt, if_pos (show NtStatus.success.ntSuccess = true from rfl)]
    have hsent := sendBuiltCommand_sent (r := r) (h := (mshcBuildTransfer r h).1)
      (hrequests.symm ▸ hresponse)
    exact ⟨hsent.outstanding.trans hout, hsent.issues.trans hissues, hsent.ended.trans hended,
      hsent.waits, hsent.command.trans (by rw [hrequests])⟩
  · exact sendBuiltCommand_sent hresponse

theorem SdRequest.Accepted.command {request : SdRequest} (haccepted : request.Accepted)
    (htype : request.type ≠ .startTransfer) : request.type ≠ .unspecified
      ∧ request.command.responseType ≠ .undefined
      ∧ (request.command.isData → request.command.transferMethod ≠ .undefined) := by
  unfold SdRequest.Accepted at haccepted
  cases hkind : request.type with
  | unspecified =>
    rw [hkind] at haccepted
    exact absurd haccepted id
  | startTransfer => exact absurd hkind htype
  | commandNoTransfer | commandWithTransfer =>
    rw [hkind] at haccepted
    exact ⟨by decide, haccepted⟩

/-- The issue of a command. -/
theorem mshcSlotIssueRequest_command (c : CallContext) {r : RequestId} {h : MshcHost}
    (hknown : (h.requests r).type ≠ .unspecified) (htype : (h.requests r).type ≠ .startTransfer) :
    mshcSlotIssueRequest c r h = mshcSendCommand r (h.publish r) := by
  unfold mshcSlotIssueRequest
  dsimp only
  cases hkind : (h.requests r).type with
  | unspecified => exact absurd hkind hknown
  | startTransfer => exact absurd hkind htype
  | commandNoTransfer => rfl
  | commandWithTransfer => rfl

/-- The issue of a transfer. -/
theorem mshcSlotIssueRequest_transfer (c : CallContext) {r : RequestId} {h : MshcHost}
    (htype : (h.requests r).type = .startTransfer) :
    mshcSlotIssueRequest c r h = mshcStartTransfer c r (h.publish r) := by
  unfold mshcSlotIssueRequest
  dsimp only
  rw [htype]
  rfl

/-- **A new request** is under way once it is issued. -/
theorem phaseStep_issue {r : RequestId} {localRequest : Bool} {request : SdRequest}
    {s : PhaseHost} (hi : PhaseInv s) (hover : s.ended.length = s.issues) (hdue : s.due = false)
    (haccepted : request.Accepted) (htype : request.type ≠ .startTransfer) :
    PhaseInv { s with
      toMshcHost := (mshcSlotIssueRequest quietCard r
        (({ s.toMshcHost with localRequestPending := localRequest } : MshcHost).put r request)).1
      current := some r
      reported := ∅
      reportedErrors := ∅ } := by
  generalize hg : ({ s.toMshcHost with localRequestPending := localRequest } : MshcHost).put r
    request = g
  have hrequest : (g.publish r).requests r = request := hg ▸ MshcHost.put_requests ..
  obtain ⟨hknown, hresponse, hdata⟩ := haccepted.command htype
  have hrequest' : g.requests r = request := hrequest
  have hsent : Sent r (g.publish r) (mshcSlotIssueRequest quietCard r g).1 := by
    rw [mshcSlotIssueRequest_command quietCard (hrequest'.symm ▸ hknown) (hrequest'.symm ▸ htype)]
    exact mshcSendCommand_sent (hrequest.symm ▸ hresponse) (hrequest.symm ▸ hdata)
  have hl := hi.toLogged
  have hended := hsent.ended.trans (show (g.publish r).ended = s.ended from hg ▸ rfl)
  have hissues := hsent.issues.trans (show (g.publish r).issues = s.issues + 1 from hg ▸ rfl)
  have hcommand := hsent.command
  rw [hrequest] at hcommand
  refine ⟨⟨?_, ?_, hl.errors⟩, Or.inr ⟨r, ?_⟩⟩
  · rw [hended]
    exact hl.once
  · rw [hended]
    exact hl.length
  · constructor
    · rfl
    · exact hsent.outstanding
    · rw [hended, hissues, hover]
    · exact hdue
    · exact hsent.waits
    · exact Finset.disjoint_empty_right _
    · exact fun herrors => absurd rfl herrors
    · rw [hcommand]
      exact hdata
    · intro _ _ hend
      exact absurd hend (Finset.notMem_empty _)

/-- The extension after the start of a transfer of the request. -/
structure Started (r : RequestId) (s : PhaseHost) (h : MshcHost) : Prop where
  ended : h.ended = s.ended
  issues : h.issues = s.issues + 1
  outstanding : h.outstandingRequest = some r
  type : (h.requests r).type = .startTransfer
  command : (h.requests r).command = (s.requests r).command

section Transfer

variable {r : RequestId} {s : PhaseHost} {h : MshcHost}

theorem Started.setStatus (hs : Started r s h) (status : NtStatus) :
    Started r s (h.setStatus r status) := by
  have hrequest := h.setStatus_requests r status
  refine ⟨hs.ended, hs.issues, hs.outstanding, ?_, ?_⟩
  · rw [hrequest]
    exact hs.type
  · rw [hrequest]
    exact hs.command

theorem Started.setRequired (hs : Started r s h) (required : Finset SdEvent) :
    Started r s (h.setRequired r required) := by
  have hrequest := h.setRequired_requests r required
  refine ⟨hs.ended, hs.issues, hs.outstanding, ?_, ?_⟩
  · rw [hrequest]
    exact hs.type
  · rw [hrequest]
    exact hs.command

variable (hs : Started r s h) (hl : Logged s) (hcurrent : s.current = some r)
  (hover : s.ended.length = s.issues) (hclean : s.reportedErrors = ∅)

include hs hl hcurrent hover hclean

/-- A transfer that is over. -/
theorem Started.over (hspent : (h.requests r).requiredEvents = ∅) (reported : Finset SdEvent) :
    PhaseInv (PhaseHost.record r s.ended.length { s with
      toMshcHost := mshcCompleteRequest quietCard r .success h
      due := false
      reported := reported }) := by
  have hending : Ending r .success { s with
      toMshcHost := h
      due := false
      reported := reported } := by
    constructor
    · constructor
      · rw [hs.ended]
        exact hl.once
      · rw [hs.ended]
        exact hl.length
      · exact hl.errors
    · exact hcurrent
    · rw [hs.ended, hs.issues, hover]
    · exact hspent
    · exact fun herrors => absurd hclean herrors
    · rintro ⟨-, hmore | ⟨-, hcommand⟩⟩
      · cases hmore
      · exact absurd hs.type hcommand
  have hcompleted := completed_record r .success { s with
    toMshcHost := h
    due := false
    reported := reported }
  have hlength : s.ended.length = h.ended.length := by rw [hs.ended]
  rw [hlength]
  exact hending.phaseInv hcompleted

/-- A transfer that waits. -/
theorem Started.waits {reported : Finset SdEvent} (hwaits : (h.requests r).requiredEvents ≠ ∅)
    (hunreported : Disjoint (h.requests r).requiredEvents reported)
    (hmethod : (h.requests r).command.transferMethod ≠ .undefined)
    (hrecorded : (h.requests r).status = .moreProcessingRequired → .cardRwEnd ∉ reported) :
    PhaseInv (PhaseHost.record r s.ended.length { s with
      toMshcHost := h
      due := false
      reported := reported }) := by
  have hlength : h.ended.length = s.ended.length := by rw [hs.ended]
  refine PhaseInv.record ⟨⟨?_, ?_, hl.errors⟩, Or.inr ⟨r, ?_⟩⟩ hlength
  · rw [hs.ended]
    exact hl.once
  · rw [hs.ended]
    exact hl.length
  · constructor
    · exact hcurrent
    · exact hs.outstanding
    · rw [hs.ended, hs.issues, hover]
    · rfl
    · exact hwaits
    · exact hunreported
    · exact fun herrors => absurd hclean herrors
    · exact fun _ => hmethod
    · rintro (hcommand | hmore) _ hend
      · exact absurd hs.type hcommand
      · exact absurd hend (hrecorded hmore)

end Transfer

/-- The extension once a block is moved. -/
def MshcHost.takeBlock (h : MshcHost) : MshcHost :=
  { h with
    currentEvents := ∅
    currentTransferRemainingLength := h.currentTransferRemainingLength - h.fifoThreshold * 4 }

/-- The event that the FIFO is ready for the next block. -/
def SdCommand.fifoEvent (c : SdCommand) : SdEvent :=
  if c.transferDirection = .read then .bufferFull else .bufferEmpty

theorem SdCommand.fifoEvent_mem (c : SdCommand) : c.fifoEvent ∈ fifoEvents := by
  unfold SdCommand.fifoEvent
  split
  · decide
  · decide

/-- **What the start of a PIO transfer does**: it asks for more, completes the request, or waits for
the end of the transfer. -/
theorem mshcStartPioTransfer_cases (c : CallContext) (r : RequestId) (h : MshcHost) :
    (h.MoreBlocks ∧ (mshcStartPioTransfer c r h).1
        = (h.takeBlock.setRequired r
            ((h.requests r).requiredEvents ∪ {(h.requests r).command.fifoEvent})).setStatus r
              .moreProcessingRequired)
      ∨ (¬ h.MoreBlocks ∧ .cardRwEnd ∈ h.currentEvents ∧ (mshcStartPioTransfer c r h).1
        = mshcCompleteRequest c r .success (h.takeBlock.setStatus r .success))
      ∨ (¬ h.MoreBlocks ∧ .cardRwEnd ∉ h.currentEvents ∧ (mshcStartPioTransfer c r h).1
        = (h.takeBlock.setStatus r .success).setRequired r
            ((h.requests r).requiredEvents ∪ {.cardRwEnd})) := by
  unfold mshcStartPioTransfer
  dsimp only
  split
  · rename_i hmore
    exact Or.inl ⟨hmore, rfl⟩
  · rename_i hlast
    split
    · rename_i hend
      exact Or.inr (Or.inl ⟨hlast, hend, rfl⟩)
    · rename_i hend
      refine Or.inr (Or.inr ⟨hlast, hend, ?_⟩)
      rw [MshcHost.setStatus_required]
      rfl

/-- **The next phase** of a request: a block by PIO, whose successor or whose end the request waits
for unless the end is known, or a transfer by DMA, which is over at once. -/
theorem phaseStep_startTransfer {r : RequestId} {localRequest : Bool} {s : PhaseHost}
    (hi : PhaseInv s) (hcurrent : s.current = some r) (hdue : s.due = true)
    (hkept : ReportsKept s (.startTransfer localRequest)) :
    PhaseInv (PhaseHost.record r s.ended.length { s with
      toMshcHost := (mshcSlotIssueRequest quietCard r
        (({ s.toMshcHost with localRequestPending := localRequest } : MshcHost).put r
          { s.requests r with type := .startTransfer })).1
      due := false
      reported := s.reported \ fifoEvents }) := by
  have hl := hi.toLogged
  have hrest : Resting s := by
    rcases hi.phase with hrest | ⟨q, hf⟩
    · exact hrest
    · cases hf.due.symm.trans hdue
  obtain ⟨hmethod, hclean, hrecorded⟩ := hrest.next hdue r hcurrent
  have hspent := hrest.spent r hcurrent
  generalize hg : ({ s.toMshcHost with localRequestPending := localRequest } : MshcHost).put r
    { s.requests r with type := .startTransfer } = g
  have hrequest : (g.publish r).requests r = { s.requests r with type := .startTransfer } :=
    hg ▸ MshcHost.put_requests ..
  have htype : (g.requests r).type = .startTransfer :=
    (congrArg SdRequest.type hrequest :)
  have hpublished : Started r s (g.publish r) := by
    refine ⟨?_, ?_, rfl, ?_, ?_⟩
    · exact hg ▸ rfl
    · exact hg ▸ rfl
    · rw [hrequest]
    · rw [hrequest]
  have hstarted : ∀ (events : Finset SdEvent) (length : BitVec 32), Started r s
      { g.publish r with currentEvents := events, currentTransferRemainingLength := length } :=
    fun _ _ => ⟨hpublished.ended, hpublished.issues, rfl, hpublished.type, hpublished.command⟩
  rw [mshcSlotIssueRequest_transfer quietCard htype]
  unfold mshcStartTransfer
  rw [hrequest]
  cases hm : (s.requests r).command.transferMethod with
  | undefined => exact absurd hm hmethod
  | sgDma =>
    refine ((hstarted _ 0).setStatus .success).over hl hcurrent hrest.allEnded hclean ?_ _
    rw [MshcHost.setStatus_required]
    exact (congrArg SdRequest.requiredEvents hrequest).trans hspent
  | pio =>
    have hstep := mshcStartPioTransfer_cases quietCard r (g.publish r)
    have hks : Started r s (g.publish r).takeBlock := hstarted _ _
    have hrequired : ((g.publish r).requests r).requiredEvents = ∅ :=
      (congrArg SdRequest.requiredEvents hrequest).trans hspent
    rw [hrequired, Finset.empty_union, Finset.empty_union] at hstep
    rcases hstep with ⟨hmore, hnext⟩ | ⟨hlast, hend, hover⟩ | ⟨hlast, hend, hwaits⟩
    · rw [hnext]
      have hkeeps : s.MoreBlocks := by
        rw [← hg] at hmore
        exact hmore
      have hunseen : .cardRwEnd ∉ s.reported :=
        fun hreported => hkept r hcurrent hm hkeeps (hrecorded hm hreported)
      have hnexts := (hks.setRequired {((g.publish r).requests r).command.fifoEvent}).setStatus
        .moreProcessingRequired
      refine hnexts.waits hl hcurrent hrest.allEnded hclean ?_ ?_ ?_ ?_
      · rw [MshcHost.setStatus_required, MshcHost.setRequired_requests]
        exact Finset.singleton_ne_empty _
      · rw [MshcHost.setStatus_required, MshcHost.setRequired_requests]
        refine Finset.disjoint_singleton_left.2 fun hin => ?_
        exact (Finset.mem_sdiff.1 hin).2 (SdCommand.fifoEvent_mem _)
      · rw [hnexts.command]
        exact hmethod
      · exact fun _ hin => hunseen (Finset.mem_sdiff.1 hin).1
    · rw [hover]
      refine (hks.setStatus .success).over hl hcurrent hrest.allEnded hclean ?_ _
      rw [MshcHost.setStatus_required]
      exact hrequired
    · rw [hwaits]
      have hunseen : .cardRwEnd ∉ s.reported := by
        intro hreported
        rw [← hg] at hend
        exact hend (hrecorded hm hreported)
      have hends := (hks.setStatus .success).setRequired {.cardRwEnd}
      refine hends.waits hl hcurrent hrest.allEnded hclean ?_ ?_ ?_ ?_
      · rw [MshcHost.setRequired_requests]
        exact Finset.singleton_ne_empty _
      · rw [MshcHost.setRequired_requests]
        exact Finset.disjoint_singleton_left.2 fun hin => hunseen (Finset.mem_sdiff.1 hin).1
      · rw [hends.command]
        exact hmethod
      · intro hmore
        rw [MshcHost.setRequired_status, MshcHost.setStatus_requests] at hmore
        cases hmore

/-- **Every step that meets the condition keeps the invariant.** -/
theorem phaseStep_phaseInv {s s' : PhaseHost} {step : PhaseStep} (hi : PhaseInv s)
    (hkept : ReportsKept s step) (hs : phaseStep s step = some s') : PhaseInv s' := by
  cases step with
  | issue r localRequest request =>
    unfold phaseStep at hs
    dsimp only at hs
    split at hs
    · rename_i hissue
      obtain ⟨hover, hdue, haccepted, htype⟩ := hissue
      exact Option.some.inj hs ▸ phaseStep_issue hi hover hdue haccepted htype
    · cases hs
  | startTransfer localRequest =>
    unfold phaseStep at hs
    dsimp only at hs
    split at hs
    · cases hs
    · rename_i r hcurrent
      obtain ⟨hdue, hs⟩ := Option.ite_none_right_eq_some.mp hs
      rw [← Option.some.inj hs]
      exact phaseStep_startTransfer hi hcurrent hdue hkept
  | dpc events errors =>
    unfold phaseStep at hs
    dsimp only at hs
    split at hs
    · cases hs
    · rename_i r hcurrent
      obtain ⟨-, hs⟩ := Option.ite_none_right_eq_some.mp hs
      rw [← Option.some.inj hs]
      exact phaseStep_dpc hi hcurrent hkept

/-! ## 6. Runs

Each step keeps `PhaseInv`, and in each state that has it the phase was completed once or waits for
something that was not reported. -/

/-- **Every phase is completed exactly once, or waits for an event to come**, in every run in which
no report is lost between two phases and no timeout is held back for good.  In flight a request
waits for something that was not reported, so its completion is the first and the last; at rest the
issues and the completions are equally many. -/
theorem phases_exact {s : PhaseHost} (hr : ReachIf PhaseHost.Fresh phaseStep ReportsKept s) :
    PhasesExact s := by
  have hinv : PhaseInv s := by
    refine ReachIf.invariant ?_ (fun s a t hi hG hst => phaseStep_phaseInv hi hG hst) hr
    rintro s ⟨hissues, hended, hpending, hcurrent, hdue, hlog⟩
    refine ⟨⟨?_, ?_, ?_⟩, Or.inl ⟨?_, hpending, ?_, ?_⟩⟩
    · rw [hended]
      rfl
    · rw [hlog, hended]
      rfl
    · rw [hlog]
      exact fun entry hentry => absurd hentry List.not_mem_nil
    · rw [hended, hissues]
      rfl
    · rw [hcurrent]
      exact fun r hr => by cases hr
    · rw [hdue]
      exact fun hd => by cases hd
  refine ⟨hinv.once, ?_, hinv.length, hinv.errors, ?_⟩
  · rcases hinv.phase with hrest | ⟨r, hf⟩
    · exact Or.inl hrest.allEnded
    · exact Or.inr ⟨hf.started, r, hf.outstanding, hf.waits, hf.unreported⟩
  · intro hover
    rcases hinv.phase with hrest | ⟨r, hf⟩
    · exact hrest.released
    · exact absurd (hf.started.trans hover.symm) (Nat.succ_ne_self _)

def idlePhases : PhaseHost where
  initialized := true
  outstandingRequest := none
  currentEvents := ∅
  currentErrors := ∅
  currentTransferRemainingLength := 0
  localRequestPending := false
  fifoThreshold := 0
  optimalFifoThreshold := 128
  completeRequestBusyWorkItem := true
  tuningPerformed := false
  dataCrcErrorsSinceLastTuning := 0
  requests := fun _ => stopRequest
  localRequestDpc := false
  busyWorker := none
  issues := 0
  workerRuns := []
  ended := []
  completed := []
  current := none
  due := false
  reported := ∅
  reportedErrors := ∅
  log := []

/-- A read of 512 bytes by PIO. -/
def readRequest : SdRequest where
  type := .commandWithTransfer
  command := ⟨.r1, .singleBlock, .read, .pio, 512⟩
  requiredEvents := ∅
  status := .success

/-- The end of the read is reported before its block is asked for; then a local command fails. -/
def earlyEnd : List PhaseStep :=
  [.issue (.port 0) false readRequest, .dpc {.cardRwEnd} ∅, .dpc {.bufferFull} ∅,
    .dpc {.cardResponse} ∅, .startTransfer false, .issue .status true statusRequest,
    .dpc ∅ {.cmdTimeout}, .dpc {.cardResponse} ∅]

/-- Both phases of the read succeed, the command fails. -/
theorem phases_exact_of_earlyEnd : ∃ s : PhaseHost,
    s.log = [(∅, .success), (∅, .success), ({.cmdTimeout}, .ioTimeout)] ∧ PhasesExact s := by
  obtain ⟨s, hr, hp⟩ := exists_reachIf_of_runIf phaseStep ReportsKept
    (show PhaseHost.Fresh idlePhases from ⟨rfl, rfl, rfl, rfl, rfl, rfl⟩) earlyEnd
    (fun s => decide (s.log = [(∅, .success), (∅, .success), ({.cmdTimeout}, .ioTimeout)]))
    (by decide)
  exact ⟨s, of_decide_eq_true hp, phases_exact hr⟩

/-- The same read; its end is reported between the command and the transfer. -/
def lateTransfer : List PhaseStep :=
  [.issue (.port 0) false readRequest, .dpc {.cardResponse, .bufferFull} ∅, .dpc {.cardRwEnd} ∅,
    .startTransfer false]

/-- **A report between two phases is lost**: the transfer waits for an event that was reported. -/
theorem report_between_phases :
    ¬ ∀ s : PhaseHost, Reach PhaseHost.Fresh phaseStep s → PhasesExact s := by
  intro hall
  obtain ⟨s, hr, hp⟩ := exists_reach_of_run phaseStep
    (show PhaseHost.Fresh idlePhases from ⟨rfl, rfl, rfl, rfl, rfl, rfl⟩) lateTransfer
    (fun s => decide (s.ended.length + 1 = s.issues ∧ s.outstandingRequest = some (.port 0)
      ∧ (s.requests (.port 0)).requiredEvents = {.cardRwEnd} ∧ .cardRwEnd ∈ s.reported))
    (by decide)
  obtain ⟨hone, hout, hrequired, hreported⟩ := of_decide_eq_true hp
  rcases (hall s hr).all with hover | ⟨-, r, hr', -, hunreported⟩
  · exact absurd (hone.trans hover.symm) (Nat.succ_ne_self _)
  · cases hout.symm.trans hr'
    rw [hrequired] at hunreported
    exact Finset.disjoint_singleton_left.1 hunreported hreported

end WoaRk3576.Sd
