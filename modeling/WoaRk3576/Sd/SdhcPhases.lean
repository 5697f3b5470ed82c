/-
# The phases of a request of dwcsdhc

`SdhcRequestDpc` merges the events into `CurrentEvents`, takes them off what the request waits for,
and completes the request when nothing is left.  It has no way to tell a phase that was completed
from one that has nothing left to wait for, so any call between the phases of a data command, or
after one whose slot stays taken, completes it once more.

`sdhc_phases_exact` is what holds without such calls: every phase is completed exactly once, with
nothing left to wait for or an error, and a data command succeeds only after all of its blocks were
moved.  `late_transfer_complete` is the end of a read that comes before its transfer is started.

The invariant is that of the other controller (`MshcPhases.lean`) with its parts changed places: a
request rests or is in flight, in flight it waits for something that was not reported, and at rest
the issues and the completions are equally many.  What is reported early is not dropped here, as
the DPC merges before it tests, so nothing is said of reports between the phases but that the
request does not wait for nothing when they come.

That all blocks were moved is a count (`SdhcGoesOn.left`): `BlockCount` is what is left of the
blocks, as long as the request is a PIO one that goes on.  The last phase of it starts with one
block left and ends with none; that of a transfer by DMA starts behind the event that ends it
(`SdhcGoesOn.done`).
-/
import WoaRk3576.Lib.Bits
import WoaRk3576.Lib.Transition
import WoaRk3576.Sd.Sdhc

namespace WoaRk3576.Sd

open WoaRk3576.Lib

/-! ## 1. The port driver's side

As for the other controller, a data request is issued phase by phase, and what is asked is that
each issue has one completion.  Here it is also asked that a success comes after the data, which
needs the number of blocks that went through the data port. -/

/-- A completion, as the port driver sees it: what the request still waited for, whether an error
had been reported, whether the request succeeded as a whole, and whether its data was moved. -/
structure SdhcEnd where
  required : BitVec 32
  error : Bool
  succeeded : Bool
  moved : Bool
  deriving DecidableEq

/-- The slot, the request that the port driver works on and whether its next phase is due, the
phases that were issued, what was reported of the request, its blocks and how many of them went
through the data port, and the completions. -/
structure SdhcPhaseHost extends SdhcHost where
  current : Option Nat
  due : Bool
  issues : Nat
  reported : BitVec 32
  errorReported : Bool
  blocks : BitVec 16
  moved : Nat
  ends : List SdhcEnd

/-- All blocks were moved: through the data port, or by DMA, whose end the controller reports. -/
def SdhcPhaseHost.AllMoved (s : SdhcPhaseHost) (r : Nat) : Prop :=
  ((s.requests r).command.transferMethod = .pio → s.blocks.toNat ≤ s.moved)
    ∧ ((s.requests r).command.transferMethod = .sgDma →
      s.reported &&& sdhcIsTransferComplete ≠ 0)

instance (s : SdhcPhaseHost) (r : Nat) : Decidable (s.AllMoved r) :=
  inferInstanceAs (Decidable (_ ∧ _))

/-- The port driver takes note of a completion since `n` were told. -/
def SdhcPhaseHost.record (r : Nat) (n : Nat) (s : SdhcPhaseHost) : SdhcPhaseHost :=
  match s.completed[n]? with
  | none => s
  | some (_, status) =>
    { s with
      due := decide (¬ (s.requests r).Final status)
      ends := s.ends ++ [{
        required := (s.requests r).requiredEvents
        error := s.errorReported
        succeeded := decide ((s.requests r).command.isData ∧ (s.requests r).Final status
          ∧ status = .success)
        moved := decide (s.AllMoved r) }] }

/-- What the port driver does; `request` is what it has filled in, `errors` is what the error status
register held. -/
inductive SdhcPhaseStep
  | issue (r : Nat) (request : SdhcRequest)
  | startTransfer
  | dpc (events : BitVec 32) (errors : BitVec 16)

/-- The events of the data port, which are raised again for every block. -/
def sdhcBufferEvents : BitVec 32 := sdhcIsBufferReadReady ||| sdhcIsBufferWriteReady

/-- A new request is issued when the one before is over, and the next phase when it is due; the DPC
comes with any events and errors. -/
def sdhcPhaseStep (s : SdhcPhaseHost) : SdhcPhaseStep → Option SdhcPhaseHost
  | .issue r request =>
    if s.completed.length = s.issues ∧ s.due = false ∧ request.Accepted
        ∧ request.type ≠ .startTransfer then
      some { s with
        toSdhcHost := (sdhcSlotIssueRequest r { s.put r request with live := some r }).1
        current := some r
        issues := s.issues + 1
        reported := 0
        errorReported := false
        blocks := request.command.blockCount
        moved := 0 }
    else none
  | .startTransfer =>
    match s.current with
    | none => none
    | some r =>
      if s.due then
        let request := { s.requests r with type := .startTransfer }
        some (SdhcPhaseHost.record r s.completed.length { s with
          toSdhcHost := (sdhcSlotIssueRequest r (s.put r request)).1
          due := false
          issues := s.issues + 1
          reported := s.reported &&& ~~~sdhcBufferEvents
          moved := if request.command.transferMethod = .pio then s.moved + 1 else s.moved })
      else none
  | .dpc events errors =>
    match s.current with
    | none => none
    | some r =>
      some (SdhcPhaseHost.record r s.completed.length { s with
        toSdhcHost := sdhcRequestDpc r events (errors.setWidth 32) s.toSdhcHost
        reported := s.reported ||| events
        errorReported := s.errorReported || decide (errors ≠ 0) })

/-- A slot that has not been used. -/
def SdhcPhaseHost.Fresh (s : SdhcPhaseHost) : Prop :=
  s.issues = 0 ∧ s.completed = [] ∧ s.current = none ∧ s.due = false ∧ s.ends = []

/-- A phase waits for events that have not been reported yet. -/
def SdhcPhaseHost.Awaits (s : SdhcPhaseHost) : Prop :=
  ∃ r, s.outstandingRequest = some r ∧ (s.requests r).requiredEvents ≠ 0
    ∧ (s.requests r).requiredEvents &&& s.reported = 0

/-- **Every issued phase is completed exactly once**, but for the last one, which may still wait
for an event to come; without an error only when nothing is left to wait for; and a data request
succeeds only after its blocks were moved. -/
structure SdhcPhasesExact (s : SdhcPhaseHost) : Prop where
  once : s.completed.length = s.issues ∨ (s.completed.length + 1 = s.issues ∧ s.Awaits)
  logged : s.ends.length = s.completed.length
  required : ∀ e ∈ s.ends, e.error = false → e.required = 0
  moved : ∀ e ∈ s.ends, e.succeeded = true → e.moved = true

/-- **The condition on a step.**  The DPC does not come for a request that has its slot and waits
for nothing, and the end of a PIO transfer is not known before its last block is started. -/
def SdhcReportsKept (s : SdhcPhaseHost) : SdhcPhaseStep → Prop
  | .issue .. => True
  | .startTransfer => ∀ r ∈ s.current, (s.requests r).command.transferMethod = .pio →
      (s.requests r).command.blockCount - 1 ≠ 0 → s.currentEvents &&& sdhcIsTransferComplete = 0
  | .dpc .. => ∀ r ∈ s.current, s.outstandingRequest ≠ none → (s.requests r).requiredEvents ≠ 0

instance (s : SdhcPhaseHost) (step : SdhcPhaseStep) : Decidable (SdhcReportsKept s step) :=
  match step with
  | .issue .. => inferInstanceAs (Decidable True)
  | .startTransfer => inferInstanceAs (Decidable (∀ r ∈ s.current,
      (s.requests r).command.transferMethod = .pio → (s.requests r).command.blockCount - 1 ≠ 0 →
        s.currentEvents &&& sdhcIsTransferComplete = 0))
  | .dpc .. => inferInstanceAs (Decidable (∀ r ∈ s.current, s.outstandingRequest ≠ none →
      (s.requests r).requiredEvents ≠ 0))

/-! ## 2. The invariant

The numbers of issues and of completions say whether a phase is under way, and what remains to be
shown is that the moment agrees: at rest nothing is waited for, under way something is.  The blocks
are counted from both ends, those that were moved and those that are left. -/

/-- The completions so far. -/
structure SdhcLogged (s : SdhcPhaseHost) : Prop where
  length : s.ends.length = s.completed.length
  required : ∀ e ∈ s.ends, e.error = false → e.required = 0
  moved : ∀ e ∈ s.ends, e.succeeded = true → e.moved = true

/-- A data request goes on: a reported end of its transfer is kept in the extension, `BlockCount` is
what is left of its blocks, and `dmaEnd` holds the end of a transfer by DMA. -/
structure SdhcGoesOn (r : Nat) (dmaEnd : BitVec 32) (s : SdhcPhaseHost) : Prop where
  method : (s.requests r).command.transferMethod ≠ .undefined
  recorded : (s.requests r).command.transferMethod = .pio →
    s.currentEvents &&& sdhcIsTransferComplete = 0 → s.reported &&& sdhcIsTransferComplete = 0
  left : (s.requests r).command.transferMethod = .pio →
    s.blocks = (s.requests r).command.blockCount + BitVec.ofNat 16 s.moved
  done : (s.requests r).command.transferMethod = .sgDma → dmaEnd &&& sdhcIsTransferComplete ≠ 0

/-- No phase is under way. -/
structure SdhcResting (s : SdhcPhaseHost) : Prop where
  allEnded : s.completed.length = s.issues
  spent : ∀ r ∈ s.current, (s.requests r).requiredEvents = 0
  next : s.due = true → ∀ r ∈ s.current, SdhcGoesOn r s.reported s

/-- A phase of the request is under way. -/
structure SdhcInFlight (r : Nat) (s : SdhcPhaseHost) : Prop where
  current : s.current = some r
  outstanding : s.outstandingRequest = some r
  started : s.completed.length + 1 = s.issues
  due : s.due = false
  waits : (s.requests r).requiredEvents ≠ 0
  unreported : (s.requests r).requiredEvents &&& s.reported = 0
  next : (s.requests r).command.isData →
    (s.requests r).type ≠ .startTransfer ∨ (s.requests r).status = .moreProcessingRequired →
      SdhcGoesOn r ((s.requests r).requiredEvents ||| s.reported) s
  last : (s.requests r).type = .startTransfer → (s.requests r).status ≠ .moreProcessingRequired →
    s.AllMoved r

structure SdhcPhaseInv (s : SdhcPhaseHost) : Prop extends SdhcLogged s where
  phase : SdhcResting s ∨ ∃ r, SdhcInFlight r s

/-- A phase that is about to be completed. -/
structure SdhcEnding (r : Nat) (status : NtStatus) (s : SdhcPhaseHost) : Prop extends
    SdhcLogged s where
  current : s.current = some r
  started : s.completed.length + 1 = s.issues
  spent : (s.requests r).requiredEvents = 0
  last : (s.requests r).command.isData → (s.requests r).Final status → status = .success →
    s.AllMoved r
  next : ¬ (s.requests r).Final status → SdhcGoesOn r s.reported s

/-- What a completion does, as far as the phases depend on it. -/
structure SdhcCompleted (r : Nat) (status : NtStatus) (s s' : SdhcPhaseHost) : Prop where
  completed : s'.completed = s.completed ++ [(r, status)]
  requests : s'.requests = s.requests
  events : s'.currentEvents = s.currentEvents
  current : s'.current = s.current
  issues : s'.issues = s.issues
  due : s'.due = decide (¬ (s.requests r).Final status)
  reported : s'.reported = s.reported
  blocks : s'.blocks = s.blocks
  moved : s'.moved = s.moved
  ends : s'.ends = s.ends ++ [{
    required := (s.requests r).requiredEvents
    error := s.errorReported
    succeeded := decide ((s.requests r).command.isData ∧ (s.requests r).Final status
      ∧ status = .success)
    moved := decide (s.AllMoved r) }]

theorem sdhcCompleteRequest_completed (r : Nat) (status : NtStatus) (h : SdhcHost) :
    (sdhcCompleteRequest r status h).completed = h.completed ++ [(r, status)] := by
  unfold sdhcCompleteRequest
  split
  · rfl
  · rfl

theorem sdhcCompleteRequest_events (r : Nat) (status : NtStatus) (h : SdhcHost) :
    (sdhcCompleteRequest r status h).currentEvents = h.currentEvents := by
  unfold sdhcCompleteRequest
  split
  · rfl
  · rfl

theorem sdhcCompleted_record (r : Nat) (status : NtStatus) (s : SdhcPhaseHost) {n : Nat}
    (hn : s.completed.length = n) :
    SdhcCompleted r status s (SdhcPhaseHost.record r n
      { s with toSdhcHost := sdhcCompleteRequest r status s.toSdhcHost }) := by
  have hcompleted := sdhcCompleteRequest_completed r status s.toSdhcHost
  have hevents := sdhcCompleteRequest_events r status s.toSdhcHost
  have hrequests := sdhcCompleteRequest_requests r status s.toSdhcHost
  generalize sdhcCompleteRequest r status s.toSdhcHost = h at *
  have hlast : h.completed[n]? = some (r, status) := by
    rw [hcompleted, ← hn]
    simp
  unfold SdhcPhaseHost.record
  dsimp only
  rw [hlast]
  obtain ⟨extension, requests, live, completed⟩ := h
  obtain rfl : requests = s.requests := hrequests
  exact ⟨hcompleted, rfl, hevents, rfl, rfl, rfl, rfl, rfl, rfl, rfl⟩

/-- **A completion** ends the phase, and the next one can start. -/
theorem SdhcEnding.phaseInv {r : Nat} {status : NtStatus} {s s' : SdhcPhaseHost}
    (he : SdhcEnding r status s) (hc : SdhcCompleted r status s s') : SdhcPhaseInv s' := by
  have hlength : s'.completed.length = s.completed.length + 1 := by
    rw [hc.completed, List.length_append]
    rfl
  have hmem : ∀ {P : SdhcEnd → Prop}, (∀ e ∈ s.ends, P e) → P {
      required := (s.requests r).requiredEvents
      error := s.errorReported
      succeeded := decide ((s.requests r).command.isData ∧ (s.requests r).Final status
        ∧ status = .success)
      moved := decide (s.AllMoved r) } → ∀ e ∈ s'.ends, P e := by
    intro P hold hnew e hin
    rw [hc.ends] at hin
    rcases List.mem_append.1 hin with hin | hin
    · exact hold e hin
    · exact List.mem_singleton.1 hin ▸ hnew
  refine ⟨⟨?_, ?_, ?_⟩, Or.inl ⟨?_, ?_, ?_⟩⟩
  · rw [hlength, hc.ends, List.length_append, he.length]
    rfl
  · exact hmem he.required fun _ => he.spent
  · refine hmem he.moved fun hsucceeded => ?_
    obtain ⟨hdata, hfinal, hstatus⟩ := of_decide_eq_true hsucceeded
    exact decide_eq_true (he.last hdata hfinal hstatus)
  · rw [hlength, hc.issues]
    exact he.started
  · intro q hq
    cases he.current.symm.trans (hc.current ▸ hq)
    rw [hc.requests]
    exact he.spent
  · intro hdue q hq
    cases he.current.symm.trans (hc.current ▸ hq)
    rw [hc.due] at hdue
    obtain ⟨hmethod, hrecorded, hleft, hdone⟩ := he.next (of_decide_eq_true hdue)
    constructor
    · rw [hc.requests]
      exact hmethod
    · rw [hc.requests, hc.events, hc.reported]
      exact hrecorded
    · rw [hc.requests, hc.blocks, hc.moved]
      exact hleft
    · rw [hc.requests, hc.reported]
      exact hdone

/-- A call that completes nothing. -/
theorem SdhcPhaseInv.record {r n : Nat} {s : SdhcPhaseHost} (hi : SdhcPhaseInv s)
    (hn : s.completed.length = n) : SdhcPhaseInv (SdhcPhaseHost.record r n s) := by
  have hnone : s.completed[n]? = none := List.getElem?_eq_none (hn ▸ Nat.le_refl n)
  unfold SdhcPhaseHost.record
  rw [hnone]
  exact hi

/-! ## 3. A call of the DPC

The DPC merges its events before it looks at anything, so a call at rest is recorded if the slot is
free.  If the slot is still taken, it finds nothing to wait for and completes; this is the call
that the condition excludes. -/

/-- The state with the report of a DPC taken down; `request` is what becomes of the request. -/
def SdhcPhaseHost.report (r : Nat) (events : BitVec 32) (errors : BitVec 16)
    (request : SdhcRequest) (s : SdhcPhaseHost) : SdhcPhaseHost :=
  let h := { s.toSdhcHost with currentEvents := s.currentEvents ||| events }
  { s with
    toSdhcHost := h.put r request
    reported := s.reported ||| events
    errorReported := s.errorReported || decide (errors ≠ 0) }

@[simp]
theorem SdhcPhaseHost.report_requests (r : Nat) (events : BitVec 32) (errors : BitVec 16)
    (request : SdhcRequest) (s : SdhcPhaseHost) :
    (s.report r events errors request).requests r = request :=
  SdhcHost.put_requests ..

/-- A larger set still holds the end of the transfer. -/
theorem or_ne_zero_of_left {x e : BitVec 32} (y : BitVec 32) (hx : x &&& e ≠ 0) :
    (x ||| y) &&& e ≠ 0 := fun hor => hx ((or_apart_iff x y e).1 hor).1

/-- The events that are taken off what is required were reported. -/
theorem split_by_report {x y e : BitVec 32} (z : BitVec 32) (hsome : (x ||| y) &&& e ≠ 0) :
    ((x &&& ~~~z) ||| (y ||| z)) &&& e ≠ 0 := by
  intro hnone
  obtain ⟨hx, hyz⟩ := (or_apart_iff _ _ _).1 hnone
  obtain ⟨hy, hz⟩ := (or_apart_iff _ _ _).1 hyz
  have hez : e &&& z = 0 := (BitVec.and_comm e z).trans hz
  rw [and_not_and_of_apart x hez] at hx
  exact hsome ((or_apart_iff _ _ _).2 ⟨hx, hy⟩)

section Report

variable {r : Nat} {s : SdhcPhaseHost} {request : SdhcRequest} (events : BitVec 32)
  (errors : BitVec 16) (hcommand : request.command = (s.requests r).command)

include hcommand

theorem SdhcPhaseHost.AllMoved.report (hm : s.AllMoved r) :
    (s.report r events errors request).AllMoved r := by
  obtain ⟨hpio, hdma⟩ := hm
  unfold SdhcPhaseHost.AllMoved
  rw [SdhcPhaseHost.report_requests, hcommand]
  exact ⟨hpio, fun hmethod => or_ne_zero_of_left events (hdma hmethod)⟩

theorem SdhcGoesOn.report {dmaEnd dmaEnd' : BitVec 32} (hg : SdhcGoesOn r dmaEnd s)
    (hend : dmaEnd &&& sdhcIsTransferComplete ≠ 0 → dmaEnd' &&& sdhcIsTransferComplete ≠ 0) :
    SdhcGoesOn r dmaEnd' (s.report r events errors request) := by
  constructor
  · rw [SdhcPhaseHost.report_requests, hcommand]
    exact hg.method
  · rw [SdhcPhaseHost.report_requests, hcommand]
    intro hpio hnone
    obtain ⟨hold, hnew⟩ := (or_apart_iff _ _ _).1 hnone
    exact (or_apart_iff _ _ _).2 ⟨hg.recorded hpio hold, hnew⟩
  · rw [SdhcPhaseHost.report_requests, hcommand]
    exact hg.left
  · rw [SdhcPhaseHost.report_requests, hcommand]
    exact fun hdma => hend (hg.done hdma)

end Report

section InFlight

variable {r : Nat} {s : SdhcPhaseHost} {events : BitVec 32} {errors : BitVec 16}
  (hf : SdhcInFlight r s)

include hf

/-- A phase that still waits after a report. -/
theorem SdhcInFlight.report (hwaits : (s.requests r).requiredEvents &&& ~~~events ≠ 0) :
    SdhcInFlight r (s.report r events errors { s.requests r with
      requiredEvents := (s.requests r).requiredEvents &&& ~~~events }) := by
  constructor
  · exact hf.current
  · exact hf.outstanding
  · exact hf.started
  · exact hf.due
  · rw [SdhcPhaseHost.report_requests]
    exact hwaits
  · rw [SdhcPhaseHost.report_requests]
    exact diff_apart_or events hf.unreported
  · rw [SdhcPhaseHost.report_requests]
    intro hdata hphase
    refine SdhcGoesOn.report events errors ?_ (hf.next hdata hphase) (split_by_report events)
    rfl
  · rw [SdhcPhaseHost.report_requests]
    intro htype hmore
    exact (hf.last htype hmore).report events errors rfl

/-- The last event of a phase. -/
theorem SdhcInFlight.ending (hl : SdhcLogged s)
    (hspent : (s.requests r).requiredEvents &&& ~~~events = 0) {status : NtStatus}
    (hstatus : status = if (s.requests r).status = .moreProcessingRequired then
      .moreProcessingRequired else .success) :
    SdhcEnding r status (s.report r events errors { s.requests r with
      requiredEvents := (s.requests r).requiredEvents &&& ~~~events
      status := status }) := by
  refine ⟨⟨hl.length, hl.required, hl.moved⟩, hf.current, hf.started, ?_, ?_, ?_⟩
  · rw [SdhcPhaseHost.report_requests]
    exact hspent
  · rw [SdhcPhaseHost.report_requests]
    intro hdata hfinal hsuccess
    have hmore : (s.requests r).status ≠ .moreProcessingRequired := by
      intro hmore
      rw [if_pos hmore] at hstatus
      cases hstatus.symm.trans hsuccess
    rcases hfinal with hnone | ⟨hfailed, -⟩ | ⟨htype, -⟩
    · exact absurd hdata hnone
    · exact absurd hsuccess hfailed
    · exact (hf.last htype hmore).report events errors rfl
  · rw [SdhcPhaseHost.report_requests]
    intro hgoes
    have hdata : (s.requests r).command.isData := by
      by_contra hnone
      exact hgoes (Or.inl hnone)
    have hphase : (s.requests r).type ≠ .startTransfer
        ∨ (s.requests r).status = .moreProcessingRequired := by
      by_cases hmore : (s.requests r).status = .moreProcessingRequired
      · exact Or.inr hmore
      · rw [if_neg hmore] at hstatus
        exact Or.inl fun htype => hgoes (Or.inr (Or.inr ⟨htype, hstatus⟩))
    refine SdhcGoesOn.report events errors ?_ (hf.next hdata hphase) fun hsome => ?_
    · rfl
    · have hsplit := split_by_report events hsome
      have hor : 0 ||| (s.reported ||| events) = s.reported ||| events := BitVec.zero_or
      rw [hspent, hor] at hsplit
      exact hsplit

/-- A phase that ends with an error. -/
theorem SdhcInFlight.failing (hl : SdhcLogged s) (herrors : errors ≠ 0) :
    SdhcEnding r (sdhcConvertErrorToStatus errors) { s with
      toSdhcHost := ({ s.toSdhcHost with currentEvents := 0 } : SdhcHost).put r
        { s.requests r with requiredEvents := 0 }
      reported := s.reported ||| events
      errorReported := s.errorReported || decide (errors ≠ 0) } := by
  have hfailed := sdhcConvertErrorToStatus_failed herrors
  refine ⟨⟨hl.length, hl.required, hl.moved⟩, hf.current, hf.started, ?_, ?_, ?_⟩
  · exact congrArg SdhcRequest.requiredEvents (SdhcHost.put_requests ..)
  · exact fun _ _ hsuccess => absurd hsuccess hfailed.1
  · exact fun hgoes => absurd (Or.inr (Or.inl hfailed)) hgoes

/-- **A report of a phase that is under way.** -/
theorem SdhcInFlight.dpc (hl : SdhcLogged s) :
    SdhcPhaseInv (SdhcPhaseHost.record r s.completed.length { s with
      toSdhcHost := sdhcRequestDpc r events (errors.setWidth 32) s.toSdhcHost
      reported := s.reported ||| events
      errorReported := s.errorReported || decide (errors ≠ 0) }) := by
  have htaken : ¬ s.outstandingRequest = none := by
    rw [hf.outstanding]
    simp
  unfold sdhcRequestDpc
  dsimp only
  rw [if_neg htaken]
  split
  · rename_i herrors
    have hne := (setWidth_ne_zero_iff errors).1 herrors
    rw [BitVec.setWidth_setWidth_of_le _ (by decide), BitVec.setWidth_eq]
    have hfailing := @SdhcInFlight.failing r s events errors hf hl hne
    exact hfailing.phaseInv (sdhcCompleted_record r _ _ rfl)
  · split
    · rename_i hspent
      have hending := @SdhcInFlight.ending r s events errors hf hl hspent _ rfl
      exact hending.phaseInv (sdhcCompleted_record r _ _ rfl)
    · rename_i hwaits
      have hreport := @SdhcInFlight.report r s events errors hf hwaits
      exact SdhcPhaseInv.record ⟨⟨hl.length, hl.required, hl.moved⟩, Or.inr ⟨r, hreport⟩⟩ rfl

end InFlight

/-- A report that finds the slot free is only recorded. -/
theorem SdhcResting.report {s : SdhcPhaseHost} (hl : SdhcLogged s) (hrest : SdhcResting s)
    (events : BitVec 32) (errors : BitVec 16) :
    SdhcPhaseInv { s with
      toSdhcHost := { s.toSdhcHost with currentEvents := s.currentEvents ||| events }
      reported := s.reported ||| events
      errorReported := s.errorReported || decide (errors ≠ 0) } := by
  refine ⟨⟨hl.length, hl.required, hl.moved⟩, Or.inl ⟨hrest.allEnded, hrest.spent, ?_⟩⟩
  intro hdue r hr
  obtain ⟨hmethod, hrecorded, hleft, hdone⟩ := hrest.next hdue r hr
  refine ⟨hmethod, ?_, hleft, fun hdma => or_ne_zero_of_left events (hdone hdma)⟩
  intro hpio hnone
  obtain ⟨hold, hnew⟩ := (or_apart_iff _ _ _).1 hnone
  exact (or_apart_iff _ _ _).2 ⟨hrecorded hpio hold, hnew⟩

theorem sdhcPhaseStep_dpc {r : Nat} {events : BitVec 32} {errors : BitVec 16} {s : SdhcPhaseHost}
    (hi : SdhcPhaseInv s) (hcurrent : s.current = some r)
    (hkept : SdhcReportsKept s (.dpc events errors)) :
    SdhcPhaseInv (SdhcPhaseHost.record r s.completed.length { s with
      toSdhcHost := sdhcRequestDpc r events (errors.setWidth 32) s.toSdhcHost
      reported := s.reported ||| events
      errorReported := s.errorReported || decide (errors ≠ 0) }) := by
  have hl := hi.toSdhcLogged
  rcases hi.phase with hrest | ⟨q, hf⟩
  · have hfree : s.outstandingRequest = none := by
      by_contra htaken
      exact hkept r hcurrent htaken (hrest.spent r hcurrent)
    rw [sdhcRequestDpc_free hfree]
    exact SdhcPhaseInv.record (hrest.report hl events errors) rfl
  · cases hf.current.symm.trans hcurrent
    exact hf.dpc hl

/-! ## 4. The start of a phase

A block is moved at the start of its phase, and the request then waits for the next one, or for the
end of the transfer, if it was not reported yet.  A transfer by DMA has its end behind it, since
the command phase waited for that. -/

theorem sdhcCommandEvents_ne_zero (c : SdhcCommand) : c.commandEvents ≠ 0 := by
  intro hzero
  have hbit : c.commandEvents &&& sdhcIsCmdComplete = 0 := by
    rw [hzero]
    decide
  unfold SdhcCommand.commandEvents at hbit
  obtain ⟨hcmd, -⟩ := (or_apart_iff _ _ _).1 hbit
  obtain ⟨hcmd, -⟩ := (or_apart_iff _ _ _).1 hcmd
  exact absurd hcmd (by decide)

/-- A command for DMA waits for the end of the transfer. -/
theorem sdhcCommandEvents_sgDma {c : SdhcCommand} (hdma : c.transferMethod = .sgDma) :
    c.commandEvents &&& sdhcIsTransferComplete ≠ 0 := by
  intro hzero
  unfold SdhcCommand.commandEvents at hzero
  rw [hdma] at hzero
  obtain ⟨-, htransfer⟩ := (or_apart_iff _ _ _).1 hzero
  have hself : sdhcIsTransferComplete &&& sdhcIsTransferComplete = 0 := htransfer
  exact absurd hself (by decide)

theorem sdhcBuildTransfer_method {c : SdhcCommand}
    (hbuild : (sdhcBuildTransfer c).ntSuccess = true) : c.transferMethod ≠ .undefined := by
  intro hmethod
  unfold sdhcBuildTransfer at hbuild
  rw [hmethod] at hbuild
  cases hbuild

/-- **A new request** is under way once it is issued. -/
theorem sdhcPhaseStep_issue {r : Nat} {request : SdhcRequest} {s : SdhcPhaseHost}
    (hi : SdhcPhaseInv s) (hover : s.completed.length = s.issues) (hdue : s.due = false)
    (haccepted : request.Accepted) (htype : request.type ≠ .startTransfer) :
    SdhcPhaseInv { s with
      toSdhcHost := (sdhcSlotIssueRequest r { s.put r request with live := some r }).1
      current := some r
      issues := s.issues + 1
      reported := 0
      errorReported := false
      blocks := request.command.blockCount
      moved := 0 } := by
  obtain ⟨hresponse, hbuild⟩ := haccepted.2.2 htype
  have hl := hi.toSdhcLogged
  generalize hg : ({ s.put r request with outstandingRequest := some r, live := some r } :
    SdhcHost) = g
  have hrequest : g.requests r = request := hg ▸ s.put_requests r request
  have hissue : (sdhcSlotIssueRequest r { s.put r request with live := some r }).1
      = ({ g with currentEvents := 0 } : SdhcHost).put r
        { request with requiredEvents := request.command.commandEvents } := by
    have hsend := congrArg Prod.fst (sdhcSendCommand_eq (r := r) (h := g)
      (hrequest.symm ▸ hresponse) (hrequest.symm ▸ hbuild))
    rw [hrequest] at hsend
    refine Eq.trans ?_ hsend
    unfold sdhcSlotIssueRequest
    dsimp only
    rw [hg, s.put_requests]
    cases hkind : request.type with
    | unspecified => exact absurd hkind haccepted.1
    | startTransfer => exact absurd hkind htype
    | commandNoTransfer => rfl
    | commandWithTransfer => rfl
  rw [hissue]
  have hended : g.completed = s.completed := by
    subst hg
    rfl
  have hout : g.outstandingRequest = some r := by
    subst hg
    rfl
  refine ⟨⟨?_, hl.required, hl.moved⟩, Or.inr ⟨r, rfl, hout, ?_, hdue, ?_, ?_, ?_, ?_⟩⟩
  · exact hl.length.trans (congrArg List.length hended.symm)
  · exact congrArg Nat.succ ((congrArg List.length hended).trans hover)
  · rw [SdhcHost.put_requests]
    exact sdhcCommandEvents_ne_zero _
  · exact BitVec.and_zero
  · rw [SdhcHost.put_requests]
    intro hdata _
    constructor
    · rw [SdhcHost.put_requests]
      exact sdhcBuildTransfer_method (hbuild hdata)
    · exact fun _ _ => BitVec.zero_and
    · rw [SdhcHost.put_requests]
      exact fun _ => (BitVec.add_zero _).symm
    · rw [SdhcHost.put_requests]
      exact fun hdma => or_ne_zero_of_left _ (sdhcCommandEvents_sgDma hdma)
  · rw [SdhcHost.put_requests]
    exact fun hstart => absurd hstart htype

/-- The end of the transfer is no event of the data port. -/
theorem transferComplete_and_bufferEvents : sdhcIsTransferComplete &&& sdhcBufferEvents = 0 := by
  decide

theorem bufferReady_ne_zero (c : SdhcCommand) : c.bufferReady ≠ 0 := by
  unfold SdhcCommand.bufferReady
  split
  · decide
  · decide

theorem bufferReady_subset (c : SdhcCommand) : c.bufferReady &&& ~~~sdhcBufferEvents = 0 := by
  unfold SdhcCommand.bufferReady
  split
  · decide
  · decide

/-- The last block is moved when none is left. -/
theorem le_succ_of_left {blocks left : BitVec 16} {moved : Nat}
    (h : blocks = left + BitVec.ofNat 16 moved) (hlast : left - 1 = 0) :
    blocks.toNat ≤ moved + 1 := by
  have hone : left = 1 := sub_eq_zero.mp hlast
  rw [h, hone, BitVec.toNat_add, BitVec.toNat_ofNat]
  have hone' : (1 : BitVec 16).toNat = 1 := rfl
  omega

/-- A block less is left, a block more was moved. -/
theorem left_succ {blocks left : BitVec 16} {moved : Nat}
    (h : blocks = left + BitVec.ofNat 16 moved) :
    blocks = (left - 1) + BitVec.ofNat 16 (moved + 1) := by
  rw [h, BitVec.ofNat_add]
  exact (sub_add_add_cancel _ _ _).symm

/-- The slot when the next phase of the request starts. -/
structure SdhcNextPhase (r : Nat) (s : SdhcPhaseHost) (g : SdhcHost) : Prop where
  outstanding : g.outstandingRequest = some r
  completed : g.completed = s.completed
  events : g.currentEvents = s.currentEvents
  request : g.requests r = { s.requests r with type := .startTransfer }

/-- A transfer that is over once it is started; `request` is what has become of the request. -/
theorem SdhcNextPhase.ending {r : Nat} {s : SdhcPhaseHost} {g : SdhcHost}
    (hnext : SdhcNextPhase r s g) (hl : SdhcLogged s) (hrest : SdhcResting s)
    (hcurrent : s.current = some r) (request : SdhcRequest) (htype : request.type = .startTransfer)
    (hspent : request.requiredEvents = 0) (currentEvents : BitVec 32) (moved : Nat)
    (hmoved : (request.command.transferMethod = .pio → s.blocks.toNat ≤ moved)
      ∧ (request.command.transferMethod = .sgDma →
        s.reported &&& ~~~sdhcBufferEvents &&& sdhcIsTransferComplete ≠ 0)) :
    SdhcPhaseInv (SdhcPhaseHost.record r s.completed.length { s with
      toSdhcHost := sdhcCompleteRequest r .success
        (({ g with currentEvents } : SdhcHost).put r request)
      due := false
      issues := s.issues + 1
      reported := s.reported &&& ~~~sdhcBufferEvents
      moved := moved }) := by
  have hlength := congrArg List.length hnext.completed
  have hending : SdhcEnding r .success { s with
      toSdhcHost := ({ g with currentEvents } : SdhcHost).put r request
      due := false
      issues := s.issues + 1
      reported := s.reported &&& ~~~sdhcBufferEvents
      moved := moved } := by
    refine ⟨⟨?_, hl.required, hl.moved⟩, hcurrent, ?_, ?_, ?_, ?_⟩
    · exact hl.length.trans hlength.symm
    · exact congrArg Nat.succ (hlength.trans hrest.allEnded)
    · rw [SdhcHost.put_requests]
      exact hspent
    · intro _ _ _
      unfold SdhcPhaseHost.AllMoved
      rw [SdhcHost.put_requests]
      exact hmoved
    · rw [SdhcHost.put_requests]
      exact fun hnot => absurd (Or.inr (Or.inr ⟨htype, rfl⟩)) hnot
  exact hending.phaseInv (sdhcCompleted_record r .success _ hlength)

/-- **A block by PIO**, after which the request waits for its successor or for the end of the
transfer, unless the end is known. -/
theorem SdhcNextPhase.pio {r : Nat} {s : SdhcPhaseHost} {g : SdhcHost} (hnext : SdhcNextPhase r s g)
    (hl : SdhcLogged s) (hrest : SdhcResting s) (hcurrent : s.current = some r)
    (hgoes : SdhcGoesOn r s.reported s) (hpio : (s.requests r).command.transferMethod = .pio)
    (hmore : (s.requests r).command.blockCount - 1 ≠ 0 →
      s.currentEvents &&& sdhcIsTransferComplete = 0) :
    SdhcPhaseInv (SdhcPhaseHost.record r s.completed.length { s with
      toSdhcHost := (sdhcStartPioTransfer r g).1
      due := false
      issues := s.issues + 1
      reported := s.reported &&& ~~~sdhcBufferEvents
      moved := s.moved + 1 }) := by
  have hor : ∀ x : BitVec 32, 0 ||| x = x := fun _ => BitVec.zero_or
  have hlength := congrArg List.length hnext.completed
  have hunseen : s.currentEvents &&& sdhcIsTransferComplete = 0 →
      s.reported &&& ~~~sdhcBufferEvents &&& sdhcIsTransferComplete = 0 := fun hnone =>
    (and_not_and_of_apart _ transferComplete_and_bufferEvents).trans (hgoes.recorded hpio hnone)
  have hblocks := hgoes.left hpio
  unfold sdhcStartPioTransfer
  dsimp only
  rw [hnext.request, hnext.events]
  dsimp only
  rw [hrest.spent r hcurrent, hor, hor]
  split
  · rename_i hleft
    refine SdhcPhaseInv.record ⟨⟨?_, hl.required, hl.moved⟩, Or.inr ⟨r, hcurrent, hnext.outstanding,
      ?_, rfl, ?_, ?_, ?_, ?_⟩⟩ hlength
    · exact hl.length.trans hlength.symm
    · exact congrArg Nat.succ (hlength.trans hrest.allEnded)
    · rw [SdhcHost.put_requests]
      exact bufferReady_ne_zero _
    · rw [SdhcHost.put_requests]
      exact and_and_not_of_subset _ (bufferReady_subset _)
    · intro _ _
      constructor
      · rw [SdhcHost.put_requests]
        exact hgoes.method
      · exact fun _ _ => hunseen (hmore hleft)
      · rw [SdhcHost.put_requests]
        exact fun _ => left_succ hblocks
      · rw [SdhcHost.put_requests]
        exact fun hdma => absurd (hpio.symm.trans hdma) (by decide)
    · rw [SdhcHost.put_requests]
      exact fun _ hstatus => absurd rfl hstatus
  · rename_i hnone
    have hlast := not_not.mp hnone
    split
    · refine hnext.ending hl hrest hcurrent { s.requests r with
        type := .startTransfer
        command := { (s.requests r).command with
          blockCount := (s.requests r).command.blockCount - 1 }
        requiredEvents := 0
        status := .success } rfl rfl 0 _ ⟨fun _ => le_succ_of_left hblocks hlast, ?_⟩
      exact fun hdma => absurd (hpio.symm.trans hdma) (by decide)
    · rename_i hend
      refine SdhcPhaseInv.record ⟨⟨?_, hl.required, hl.moved⟩, Or.inr ⟨r, hcurrent,
        hnext.outstanding, ?_, rfl, ?_, ?_, ?_, ?_⟩⟩ hlength
      · exact hl.length.trans hlength.symm
      · exact congrArg Nat.succ (hlength.trans hrest.allEnded)
      · rw [SdhcHost.put_requests]
        exact (by decide : sdhcIsTransferComplete ≠ 0)
      · rw [SdhcHost.put_requests]
        exact (BitVec.and_comm _ _).trans (hunseen (not_not.mp hend))
      · rw [SdhcHost.put_requests]
        rintro _ (htype | hstatus)
        · exact absurd rfl htype
        · cases hstatus
      · intro _ _
        unfold SdhcPhaseHost.AllMoved
        rw [SdhcHost.put_requests]
        exact ⟨fun _ => le_succ_of_left hblocks hlast,
          fun hdma => absurd (hpio.symm.trans hdma) (by decide)⟩

/-- **A transfer by DMA**, whose end the command phase has waited for, is over at once. -/
theorem SdhcNextPhase.sgDma {r : Nat} {s : SdhcPhaseHost} {g : SdhcHost}
    (hnext : SdhcNextPhase r s g) (hl : SdhcLogged s) (hrest : SdhcResting s)
    (hcurrent : s.current = some r) (hgoes : SdhcGoesOn r s.reported s)
    (hdma : (s.requests r).command.transferMethod = .sgDma) :
    SdhcPhaseInv (SdhcPhaseHost.record r s.completed.length { s with
      toSdhcHost := (sdhcStartAdmaTransfer r g).1
      due := false
      issues := s.issues + 1
      reported := s.reported &&& ~~~sdhcBufferEvents }) := by
  unfold sdhcStartAdmaTransfer
  dsimp only
  rw [hnext.request]
  refine hnext.ending hl hrest hcurrent { s.requests r with
    type := .startTransfer
    status := .success } rfl (hrest.spent r hcurrent) _ _ ⟨?_, fun _ => ?_⟩
  · exact fun hpio => absurd (hdma.symm.trans hpio) (by decide)
  · rw [and_not_and_of_apart _ transferComplete_and_bufferEvents]
    exact hgoes.done hdma

/-- **The next phase** of a request. -/
theorem sdhcPhaseStep_startTransfer {r : Nat} {s : SdhcPhaseHost} (hi : SdhcPhaseInv s)
    (hcurrent : s.current = some r) (hdue : s.due = true)
    (hkept : SdhcReportsKept s .startTransfer) :
    SdhcPhaseInv (SdhcPhaseHost.record r s.completed.length { s with
      toSdhcHost :=
        (sdhcSlotIssueRequest r (s.put r { s.requests r with type := .startTransfer })).1
      due := false
      issues := s.issues + 1
      reported := s.reported &&& ~~~sdhcBufferEvents
      moved := if (s.requests r).command.transferMethod = .pio then s.moved + 1
        else s.moved }) := by
  have hl := hi.toSdhcLogged
  have hrest : SdhcResting s := by
    rcases hi.phase with hrest | ⟨q, hf⟩
    · exact hrest
    · cases hf.due.symm.trans hdue
  have hgoes := hrest.next hdue r hcurrent
  have hnext : SdhcNextPhase r s
      { s.put r { s.requests r with type := .startTransfer } with outstandingRequest := some r } :=
    ⟨rfl, rfl, rfl, SdhcHost.put_requests ..⟩
  unfold sdhcSlotIssueRequest
  dsimp only
  generalize ({ s.put r { s.requests r with type := .startTransfer } with
    outstandingRequest := some r } : SdhcHost) = g at hnext ⊢
  rw [SdhcHost.put_requests]
  dsimp only
  unfold sdhcStartTransfer
  rw [hnext.request]
  cases hm : (s.requests r).command.transferMethod with
  | undefined => exact absurd hm hgoes.method
  | sgDma =>
    rw [if_neg (by decide)]
    exact hnext.sgDma hl hrest hcurrent hgoes hm
  | pio =>
    rw [if_pos rfl]
    exact hnext.pio hl hrest hcurrent hgoes hm (hkept r hcurrent hm)

/-- **Every step that meets the condition keeps the invariant.** -/
theorem sdhcPhaseStep_phaseInv {s s' : SdhcPhaseHost} {step : SdhcPhaseStep} (hi : SdhcPhaseInv s)
    (hkept : SdhcReportsKept s step) (hs : sdhcPhaseStep s step = some s') : SdhcPhaseInv s' := by
  cases step with
  | issue r request =>
    unfold sdhcPhaseStep at hs
    dsimp only at hs
    split at hs
    · rename_i hissue
      obtain ⟨hended, hdue, haccepted, htype⟩ := hissue
      exact Option.some.inj hs ▸ sdhcPhaseStep_issue hi hended hdue haccepted htype
    · cases hs
  | startTransfer =>
    unfold sdhcPhaseStep at hs
    dsimp only at hs
    split at hs
    · cases hs
    · rename_i r hcurrent
      obtain ⟨hdue, hs⟩ := Option.ite_none_right_eq_some.mp hs
      rw [← Option.some.inj hs]
      exact sdhcPhaseStep_startTransfer hi hcurrent hdue hkept
  | dpc events errors =>
    unfold sdhcPhaseStep at hs
    dsimp only at hs
    split at hs
    · cases hs
    · rename_i r hcurrent
      rw [← Option.some.inj hs]
      exact sdhcPhaseStep_dpc hi hcurrent hkept

/-! ## 5. Runs

As for the other controller, each step keeps the invariant, and the count of the blocks is carried
along with it. -/

/-- **Every phase is completed exactly once, or waits for an event to come**, in every run in which
the DPC does not come for a request that has its slot and waits for nothing.  The DPC takes what is
reported off what the request waits for, so each completion takes a request from waiting to
resting; and `BlockCount` is what is left of the blocks of a PIO command. -/
theorem sdhc_phases_exact {s : SdhcPhaseHost}
    (hr : ReachIf SdhcPhaseHost.Fresh sdhcPhaseStep SdhcReportsKept s) : SdhcPhasesExact s := by
  have hinv : SdhcPhaseInv s := by
    refine ReachIf.invariant ?_ (fun s a t hi hG hst => sdhcPhaseStep_phaseInv hi hG hst) hr
    rintro s ⟨hissues, hcompleted, hcurrent, hdue, hends⟩
    refine ⟨⟨?_, ?_, ?_⟩, Or.inl ⟨?_, ?_, ?_⟩⟩
    · rw [hends, hcompleted]
      rfl
    · simp [hends]
    · simp [hends]
    · rw [hcompleted, hissues]
      rfl
    · simp [hcurrent]
    · simp [hdue]
  refine ⟨?_, hinv.length, hinv.required, hinv.moved⟩
  rcases hinv.phase with hrest | ⟨r, hf⟩
  · exact Or.inl hrest.allEnded
  · exact Or.inr ⟨hf.started, r, hf.outstanding, hf.waits, hf.unreported⟩

/-- A read by PIO of so many blocks of 512 bytes. -/
def sdhcReadRequest (method : TransferMethod) (blocks : BitVec 16) : SdhcRequest where
  type := .commandWithTransfer
  command := ⟨.r1, .multiBlock, .read, method, blocks, 512⟩
  requiredEvents := 0
  status := .success

def sdhcIdlePhases : SdhcPhaseHost where
  outstandingRequest := none
  currentEvents := 0
  requests := fun _ => sdhcReadRequest .pio 0
  live := none
  completed := []
  current := none
  due := false
  issues := 0
  reported := 0
  errorReported := false
  blocks := 0
  moved := 0
  ends := []

theorem sdhcIdlePhases_fresh : sdhcIdlePhases.Fresh := ⟨rfl, rfl, rfl, rfl, rfl⟩

/-- A read of two blocks by PIO, then one of a block by DMA; both succeed. -/
theorem sdhc_phases_exact_of_reads : ∃ s : SdhcPhaseHost,
    s.ends.map SdhcEnd.succeeded = [false, false, true, false, true] ∧ SdhcPhasesExact s := by
  obtain ⟨s, hr, hp⟩ := exists_reachIf_of_runIf sdhcPhaseStep SdhcReportsKept sdhcIdlePhases_fresh
    [.issue 0 (sdhcReadRequest .pio 2), .dpc sdhcIsCmdComplete 0, .dpc sdhcIsBufferReadReady 0,
      .startTransfer, .dpc sdhcIsBufferReadReady 0, .startTransfer, .dpc sdhcIsTransferComplete 0,
      .issue 1 (sdhcReadRequest .sgDma 1), .dpc (sdhcIsCmdComplete ||| sdhcIsTransferComplete) 0,
      .startTransfer]
    (fun s => decide (s.ends.map SdhcEnd.succeeded = [false, false, true, false, true]))
    (by decide)
  exact ⟨s, of_decide_eq_true hp, sdhc_phases_exact hr⟩

/-- **The end of a read of one block comes before its transfer is started**: the command phase is
completed once more. -/
theorem late_transfer_complete : ∃ s, Reach SdhcPhaseHost.Fresh sdhcPhaseStep s
    ∧ s.issues = 1 ∧ s.completed.length = 2 ∧ ¬ SdhcPhasesExact s := by
  obtain ⟨s, hr, hp⟩ := exists_reach_of_run sdhcPhaseStep sdhcIdlePhases_fresh
    [.issue 0 (sdhcReadRequest .pio 1), .dpc (sdhcIsCmdComplete ||| sdhcIsBufferReadReady) 0,
      .dpc sdhcIsTransferComplete 0]
    (fun s => decide (s.issues = 1 ∧ s.completed.length = 2)) (by decide)
  obtain ⟨hissues, hcompleted⟩ := of_decide_eq_true hp
  refine ⟨s, hr, hissues, hcompleted, fun hexact => ?_⟩
  rcases hexact.once with hsame | ⟨hsame, -⟩
  · omega
  · omega

end WoaRk3576.Sd
