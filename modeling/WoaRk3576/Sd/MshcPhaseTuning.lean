/-
# The search of dwcmshc for a sample phase

`MshcRockchipExecuteTuning` in `rockchip_ops.cpp`, with its table of ranges and the subscripts that
it reads and writes it at.  Whether the tuning command passes is any function of the sample phase.

The search tries the phases in order and skips some after one that fails, so that what it can know
of the circle are the phases that it tested.  Which these are follows from the results alone
(`Grid`): from 0 to the last phase, each followed by the next one if it passed and by one a few
degrees on if it failed.  So no arc of passing phases longer than the skip is missed, and where
every phase passes every phase is tested (`Grid.near`).

`mshcRockchipExecuteTuning_sound` is about the tested phases: the phase it ends with is the middle
of a longest arc of tested phases that pass.  The reason is the invariant `Searched` of the first
loop: its table has exactly the maximal runs of passing phases below `Index`, so that on the circle
only the first and the last of them can belong together, and these the function merges.

* A range is never adjacent to the next one, so a table of them has no more entries than half the
  phases, and the subscripts stay inside (`Ranges.two_mul_le`).
* A longest arc of the circle is one of the ranges or the two ends together, which bound every
  other arc (`Candidates`, `Ranges.arc_le`); the second loop takes the longest of these.
* The phase that is set does not depend on what was set before (`setPhase_eq`).

A card that changes its mind is covered as well: no phase is tested twice, so its answers are a
function of the phase (`MshcBusTuning.lean`, for the search on the bus).
-/
import Mathlib.Data.List.Chain
import WoaRk3576.Lib.Arcs
import WoaRk3576.Lib.Loop
import WoaRk3576.Sd.MshcBus

namespace WoaRk3576.Sd.PhaseTuning

open WoaRk3576.Lib WoaRk3576.Sd.Bus

/-! ## 1. `MshcRockchipExecuteTuning`

The function has the sending of the tuning command as a parameter, whether it passes at a phase.
The table of ranges is a fixed array that the loop writes into, and its counter is unsigned, so the
subscripts are kept for every access. -/

/-- `SAMPLE_PHASE_DEFAULT`. -/
def samplePhaseDefault : Nat := 0

/-- The number of entries of `Ranges`. -/
def rangesLength : Nat := numPhases / 2 + 1

/-- The variables of the function, and the timing registers.  `tested` are the phases that the
tuning command was sent at, `programmed` is the sample phase set last, and `subscripts` are those of
the accesses to `Ranges`. -/
structure TuneState where
  index : Nat
  ranges : Nat → Int × Int
  rangeCount : Nat
  currentTuneCmdOk : Bool
  previousTuneCmdOk : Bool
  firstTuneCmdOk : Bool
  clock : MshcClock
  programmed : Option Nat
  tested : List Nat
  subscripts : List Int

/-- The variables before the loop. -/
def TuneState.start (clock : MshcClock) : TuneState :=
  ⟨0, fun _ => (0, 0), 0, false, false, false, clock, none, [], []⟩

/-- `MshcRk3576SetPhase` for the sample phase, and whether it succeeded. -/
def TuneState.setPhase (s : TuneState) (degrees : Nat) : Bool × TuneState :=
  match mshcRk3576SetPhase s.clock true degrees with
  | .ok (true, clock) => (true, { s with clock := clock, programmed := some degrees })
  | _ => (false, s)

/-- The phase of the iteration is set, and the tuning command sent if that worked. -/
def TuneState.tryPhase (pass : Nat → Bool) (s : TuneState) : TuneState :=
  let phase := rangeIndexToPhase s.index
  match s.setPhase phase with
  | (false, s) => { s with currentTuneCmdOk := false }
  | (true, s) => { s with currentTuneCmdOk := pass phase, tested := phase :: s.tested }

/-- The result of the first phase is kept. -/
def TuneState.recordFirst (s : TuneState) : TuneState :=
  if s.index = 0 then { s with firstTuneCmdOk := s.currentTuneCmdOk } else s

/-- `RangeCount - 1`, as an unsigned number. -/
def TuneState.lastRange (s : TuneState) : Nat :=
  if s.rangeCount = 0 then 0xffffffff else s.rangeCount - 1

/-- `Ranges[RangeCount - 1].Start = Index` of a new range. -/
def TuneState.startRange (s : TuneState) : TuneState :=
  if s.previousTuneCmdOk then s
  else
    { s with
      rangeCount := s.rangeCount + 1
      ranges := Function.update s.ranges s.rangeCount ((s.index : Int), (s.ranges s.rangeCount).2)
      subscripts := (s.rangeCount : Int) :: s.subscripts }

/-- `Ranges[RangeCount - 1].End = Index`. -/
def TuneState.endRange (s : TuneState) : TuneState :=
  { s with
    ranges := Function.update s.ranges s.lastRange ((s.ranges s.lastRange).1, (s.index : Int))
    subscripts := (s.lastRange : Int) :: s.subscripts }

/-- The next `Index` after a phase that failed: a few phases are skipped, but not too many. -/
def skipPhases (index : Nat) : Nat :=
  if index = numPhases - 1 then index + 1
  else if index + phaseToRangeIndex badPhasesToSkip ≥ numPhases then numPhases - 1
  else index + phaseToRangeIndex badPhasesToSkip

/-- The rest of the iteration. -/
def TuneState.advance (s : TuneState) : TuneState :=
  let s :=
    if s.currentTuneCmdOk then
      let s := s.startRange.endRange
      { s with index := s.index + 1 }
    else { s with index := skipPhases s.index }
  { s with previousTuneCmdOk := s.currentTuneCmdOk }

/-- The first loop. -/
def tuneStep (pass : Nat → Bool) (s : TuneState) : Option TuneState :=
  if s.index < numPhases then some (s.tryPhase pass).recordFirst.advance else none

/-- The first loop, from the start. -/
def searchPhases (pass : Nat → Bool) (clock : MshcClock) : TuneState :=
  loop (tuneStep pass) numPhases (TuneState.start clock)

/-- A range that wraps around takes the place of the first one. -/
def TuneState.mergeWrapped (s : TuneState) : TuneState :=
  if 1 < s.rangeCount ∧ s.firstTuneCmdOk ∧ s.currentTuneCmdOk then
    { s with
      rangeCount := s.rangeCount - 1
      ranges := Function.update s.ranges 0 ((s.ranges (s.rangeCount - 1)).1, (s.ranges 0).2)
      subscripts := ((s.rangeCount - 1 : Nat) : Int) :: 0 :: s.subscripts }
  else s

/-- The second loop: `LongestRangeLength` and `LongestRange`. -/
def findLongest (ranges : Nat → Int × Int) (rangeCount : Nat) : Int × Int :=
  (List.range rangeCount).foldl
    (fun longest index =>
      if longest.1 < rangeLength (ranges index) then (rangeLength (ranges index), (index : Int))
      else longest) (-1, -1)

/-- `MiddlePhase`. -/
def TuneState.middlePhase (s : TuneState) : Nat :=
  let longest := findLongest s.ranges s.rangeCount
  let middle := (s.ranges longest.2.toNat).1 + longest.1.tdiv 2
  rangeIndexToPhase (middle.tmod numPhases).toNat

/-- The phase is chosen and set.  That it cannot be set is logged only. -/
def TuneState.programBest (s : TuneState) : TuneState :=
  if (s.ranges 0).1 = 0 ∧ (s.ranges 0).2 = numPhases - 1 then
    (TuneState.setPhase { s with subscripts := 0 :: 0 :: s.subscripts } samplePhaseDefault).2
  else
    (TuneState.setPhase { s with
      subscripts := (findLongest s.ranges s.rangeCount).2
        :: (List.range s.rangeCount).map Nat.cast ++ 0 :: 0 :: s.subscripts } s.middlePhase).2

/-- **`MshcRockchipExecuteTuning`**: the status, and the variables and registers it ends with. -/
def mshcRockchipExecuteTuning (pass : Nat → Bool) (clock : MshcClock) : NtStatus × TuneState :=
  let s := searchPhases pass clock
  if s.rangeCount = 0 then (.ioDeviceError, s) else (.success, s.mergeWrapped.programBest)

/-! ## 2. The parts of an iteration

An iteration sets the phase, tests it, and then one of three things happens: the phase failed, it
extends the last range, or it starts a range.  One equation for each, so that the loop's proof need
not unfold the bookkeeping. -/

@[simp]
theorem rangeIndexToPhase_eq (index : Nat) : rangeIndexToPhase index = index := by
  unfold rangeIndexToPhase numPhases
  omega

theorem skipPhases_spec {index : Nat} (hlt : index < numPhases) :
    index < skipPhases index ∧ skipPhases index ≤ numPhases
      ∧ (skipPhases index = numPhases → index = numPhases - 1) := by
  have hskip : phaseToRangeIndex badPhasesToSkip = 20 := rfl
  unfold skipPhases
  rw [hskip]
  unfold numPhases at *
  split
  · omega
  · split <;> omega

/-- The sample phase is a function of the card clock and the degrees. -/
theorem samplePhase_eq (clock : MshcClock) (hrate : 1000 ≤ clock.rkCardClockHz)
    (degrees : Nat) :
    ∃ con1, ∀ old, mshcRk3576SetPhase { clock with timingCon1 := old } true degrees
      = .ok (true, { clock with timingCon1 := con1 }) := by
  unfold mshcRk3576SetPhase
  simp only [if_neg (Nat.not_lt.mpr hrate)]
  have hne : clock.rkCardClockHz / 1000 * 36 * (60 / 10) ≠ 0 := by omega
  rw [divULong_ok _ hne]
  exact ⟨_, fun _ => rfl⟩

/-- The registers are those of the start but for the sample phase. -/
def TuneState.KeepsClock (s : TuneState) (clock : MshcClock) : Prop :=
  ∃ old, s.clock = { clock with timingCon1 := old }

/-- **A phase is set**: what the sample register becomes does not depend on what was set before. -/
theorem setPhase_eq {s : TuneState} {clock : MshcClock} (hclock : s.KeepsClock clock)
    (hrate : 1000 ≤ clock.rkCardClockHz) (degrees : Nat) :
    ∃ con1, s.setPhase degrees = (true, { s with
        clock := { clock with timingCon1 := con1 }
        programmed := some degrees })
      ∧ mshcRk3576SetPhase clock true degrees = .ok (true, { clock with timingCon1 := con1 }) := by
  obtain ⟨old, hold⟩ := hclock
  obtain ⟨con1, hset⟩ := samplePhase_eq clock hrate degrees
  refine ⟨con1, ?_, hset clock.timingCon1⟩
  unfold TuneState.setPhase
  rw [hold, hset]

theorem tryPhase_eq {s : TuneState} {clock : MshcClock} (hclock : s.KeepsClock clock)
    (hrate : 1000 ≤ clock.rkCardClockHz) (pass : Nat → Bool) :
    ∃ con1, s.tryPhase pass = { s with
      clock := { clock with timingCon1 := con1 }
      programmed := some s.index
      currentTuneCmdOk := pass s.index
      tested := s.index :: s.tested } := by
  obtain ⟨con1, hset, -⟩ := setPhase_eq hclock hrate s.index
  refine ⟨con1, ?_⟩
  unfold TuneState.tryPhase
  simp only [rangeIndexToPhase_eq, hset]

theorem recordFirst_eq (s : TuneState) :
    s.recordFirst = { s with
      firstTuneCmdOk := if s.index = 0 then s.currentTuneCmdOk else s.firstTuneCmdOk } := by
  unfold TuneState.recordFirst
  split <;> rfl

theorem advance_of_bad {s : TuneState} (hbad : s.currentTuneCmdOk = false) :
    s.advance = { s with index := skipPhases s.index, previousTuneCmdOk := false } := by
  simp [TuneState.advance, hbad]

/-- A phase that passes after one that passed. -/
theorem advance_of_good {s : TuneState} (hgood : s.currentTuneCmdOk = true)
    (hprevious : s.previousTuneCmdOk = true) (hcount : 0 < s.rangeCount) :
    s.advance = { s with
      index := s.index + 1
      ranges := Function.update s.ranges (s.rangeCount - 1)
        ((s.ranges (s.rangeCount - 1)).1, (s.index : Int))
      previousTuneCmdOk := true
      subscripts := ((s.rangeCount - 1 : Nat) : Int) :: s.subscripts } := by
  have hlast : s.lastRange = s.rangeCount - 1 := if_neg (by omega)
  simp [TuneState.advance, TuneState.startRange, TuneState.endRange, hgood, hprevious, hlast]

/-- A phase that passes after one that failed, or as the first one. -/
theorem advance_of_new {s : TuneState} (hgood : s.currentTuneCmdOk = true)
    (hprevious : s.previousTuneCmdOk = false) :
    s.advance = { s with
      index := s.index + 1
      rangeCount := s.rangeCount + 1
      ranges := Function.update s.ranges s.rangeCount ((s.index : Int), (s.index : Int))
      previousTuneCmdOk := true
      subscripts := (s.rangeCount : Int) :: (s.rangeCount : Int) :: s.subscripts } := by
  simp [TuneState.advance, TuneState.startRange, TuneState.endRange, TuneState.lastRange, hgood,
    hprevious]

/-! ## 3. The loop

The phases that are tested are given by what was seen before: the next one after a phase that
passed, and one further on after one that failed.  `Grid` says this of the whole list, so nothing
is left to the function to say.  The invariant holds the table of ranges against the phases that
passed, as maximal runs of them below the index, and the number of ranges is at most half of the
phases, since between two of them one failed. -/

/-- The phase was tested, and the tuning command passed. -/
def Passed (pass : Nat → Bool) (tested : List Nat) (phase : Nat) : Prop :=
  phase ∈ tested ∧ pass phase = true

theorem passed_cons {pass : Nat → Bool} {tested : List Nat} {index : Nat} (phase : Nat) :
    Passed pass (index :: tested) phase
      ↔ Passed pass tested phase ∨ (phase = index ∧ pass index = true) := by
  unfold Passed
  rw [List.mem_cons]
  constructor
  · rintro ⟨rfl | hmem, hpass⟩
    · exact Or.inr ⟨rfl, hpass⟩
    · exact Or.inl ⟨hmem, hpass⟩
  · rintro (⟨hmem, hpass⟩ | ⟨rfl, hpass⟩)
    · exact ⟨Or.inr hmem, hpass⟩
    · exact ⟨Or.inl rfl, hpass⟩

/-- The phase that is tested after `phase`: the next one after a phase that passed, else one a few
degrees on, but not past the last one. -/
def nextPhase (pass : Nat → Bool) (phase : Nat) : Nat :=
  if pass phase then phase + 1 else min (phase + badPhasesToSkip) (numPhases - 1)

/-- **Which phases are tested**, the last one first: 0, the one after it, and so on to the last
phase of the circle. -/
structure Grid (pass : Nat → Bool) (tested : List Nat) : Prop where
  first : tested.getLast? = some 0
  steps : tested.IsChain fun later phase => later = nextPhase pass phase
  last : tested.head? = some (numPhases - 1)

/-- A phase that was not tested is less than a skip behind one that was tested and failed. -/
theorem near_of_chain {pass : Nat → Bool} {phase : Nat} : ∀ tested : List Nat,
    (tested.IsChain fun later phase => later = nextPhase pass phase) →
    tested.getLast? = some 0 → (∀ top ∈ tested.head?, phase ≤ top) →
    (phase ∈ tested
      ∨ ∃ bad ∈ tested, pass bad = false ∧ bad < phase ∧ phase < bad + badPhasesToSkip)
  | [], _, hfirst, _ => nomatch hfirst
  | [top], _, hfirst, htop => by
    obtain rfl : top = 0 := by simpa using hfirst
    obtain rfl : phase = 0 := Nat.le_zero.mp (htop 0 rfl)
    exact Or.inl List.mem_cons_self
  | later :: top :: tested, hsteps, hfirst, hlater => by
    obtain ⟨hstep, hrest⟩ := List.isChain_cons_cons.mp hsteps
    have hle := hlater later rfl
    rcases Nat.lt_or_ge top phase with hlt | hge
    · rcases Nat.eq_or_lt_of_le hle with rfl | hbetween
      · exact Or.inl List.mem_cons_self
      · refine Or.inr ⟨top, List.mem_cons_of_mem _ List.mem_cons_self, ?_, hlt, ?_⟩
        · cases hpass : pass top with
          | false => rfl
          | true =>
            rw [hstep, nextPhase, if_pos hpass] at hbetween
            omega
        · unfold nextPhase at hstep
          split at hstep
          · omega
          · omega
    · have hfirst' : (top :: tested).getLast? = some 0 := hfirst
      rcases near_of_chain (top :: tested) hrest hfirst' (fun top' htop' => by cases htop'; exact hge)
        with hmem | ⟨bad, hmem, hbad⟩
      · exact Or.inl (List.mem_cons_of_mem _ hmem)
      · exact Or.inr ⟨bad, List.mem_cons_of_mem _ hmem, hbad⟩

/-- **Nothing is missed** but what is just behind a phase that failed. -/
theorem Grid.near {pass : Nat → Bool} {tested : List Nat} (h : Grid pass tested) {phase : Nat}
    (hlt : phase < numPhases) :
    phase ∈ tested
      ∨ ∃ bad ∈ tested, pass bad = false ∧ bad < phase ∧ phase < bad + badPhasesToSkip :=
  near_of_chain tested h.steps h.first fun top htop => by
    rw [h.last] at htop
    cases htop
    exact Nat.le_sub_one_of_lt hlt

/-- The phases tested below `index`, at which the search goes on. -/
structure GridTo (pass : Nat → Bool) (tested : List Nat) (index : Nat) : Prop where
  first : (tested = [] ∧ index = 0) ∨ tested.getLast? = some 0
  steps : tested.IsChain fun later phase => later = nextPhase pass phase
  next : ∀ phase ∈ tested.head?, index = if pass phase then phase + 1 else skipPhases phase

/-- One more phase is tested. -/
theorem GridTo.cons {pass : Nat → Bool} {tested : List Nat} {index : Nat}
    (h : GridTo pass tested index) (hlt : index < numPhases) :
    GridTo pass (index :: tested) (if pass index then index + 1 else skipPhases index) where
  first := by
    rcases h.first with ⟨rfl, rfl⟩ | hfirst
    · exact Or.inr rfl
    · refine Or.inr ?_
      rw [List.getLast?_cons, hfirst]
      rfl
  steps := by
    refine List.IsChain.cons h.steps fun phase hphase => ?_
    have hindex := h.next phase hphase
    unfold nextPhase
    split
    · rename_i hpass
      rwa [if_pos hpass] at hindex
    · rename_i hfail
      rw [if_neg hfail] at hindex
      have hskip : phaseToRangeIndex badPhasesToSkip = badPhasesToSkip := rfl
      rw [skipPhases, hskip] at hindex
      split at hindex
      · omega
      · split at hindex <;> omega
  next := fun phase hphase => by
    cases hphase
    rfl

theorem GridTo.grid {pass : Nat → Bool} {tested : List Nat} (h : GridTo pass tested numPhases) :
    Grid pass tested where
  first := by
    rcases h.first with ⟨-, hzero⟩ | hfirst
    · exact absurd hzero (by decide)
    · exact hfirst
  steps := h.steps
  last := by
    rcases h.first with ⟨-, hzero⟩ | hfirst
    · exact absurd hzero (by decide)
    · cases htested : tested with
      | nil =>
        rw [htested] at hfirst
        cases hfirst
      | cons phase rest =>
        have hnext := h.next phase (by rw [htested]; rfl)
        have hskip : phaseToRangeIndex badPhasesToSkip = 20 := rfl
        have hlast : phase = numPhases - 1 := by
          rw [skipPhases, hskip] at hnext
          unfold numPhases at hnext ⊢
          split at hnext
          · omega
          · split at hnext
            · omega
            · split at hnext <;> omega
        rw [hlast]
        rfl

/-- The subscripts are inside the table. -/
def InTable (subscripts : List Int) : Prop := ∀ i ∈ subscripts, 0 ≤ i ∧ i < rangesLength

theorem inTable_cons {i : Int} {subscripts : List Int} (hi : 0 ≤ i ∧ i < rangesLength)
    (h : InTable subscripts) : InTable (i :: subscripts) :=
  List.forall_mem_cons.mpr ⟨hi, h⟩

/-- **The invariant of the first loop**: the table has the ranges of the phases that were tested
and passed, and the flags say whether the last one ends at the phase before. -/
structure Searched (pass : Nat → Bool) (clock : MshcClock) (s : TuneState) : Prop where
  keepsClock : s.KeepsClock clock
  grid : GridTo pass s.tested s.index
  index_le : s.index ≤ numPhases
  tested_lt : ∀ phase ∈ s.tested, phase < s.index
  ranges : Ranges (Passed pass s.tested) s.ranges s.rangeCount
  good : s.previousTuneCmdOk = true →
    0 < s.rangeCount ∧ (s.ranges (s.rangeCount - 1)).2 + 1 = s.index
  bad : s.previousTuneCmdOk = false → ∀ k < s.rangeCount, (s.ranges k).2 + 1 < s.index
  current : s.currentTuneCmdOk = s.previousTuneCmdOk
  first : 0 < s.index → (s.firstTuneCmdOk = true ↔ Passed pass s.tested 0)
  last : s.index = numPhases →
    (s.currentTuneCmdOk = true ↔ Passed pass s.tested (numPhases - 1))
  inTable : InTable s.subscripts

theorem searched_start (pass : Nat → Bool) (clock : MshcClock) :
    Searched pass clock (TuneState.start clock) where
  keepsClock := ⟨clock.timingCon1, rfl⟩
  grid := ⟨Or.inl ⟨rfl, rfl⟩, List.IsChain.nil, fun _ hphase => (nomatch hphase)⟩
  index_le := Nat.zero_le _
  tested_lt := by simp [TuneState.start]
  ranges := Ranges.empty fun p hp => List.not_mem_nil hp.1
  good := by simp [TuneState.start]
  bad := by simp [TuneState.start]
  current := rfl
  first := by simp [TuneState.start]
  last := by simp [TuneState.start, numPhases]
  inTable := fun _ hi => absurd hi List.not_mem_nil

section Step

variable {pass : Nat → Bool} {clock : MshcClock} {s : TuneState}

/-- The flag of the first phase, once the phase of this iteration is tested. -/
theorem Searched.first_step (h : Searched pass clock s) :
    ((if s.index = 0 then pass s.index else s.firstTuneCmdOk) = true)
      ↔ Passed pass (s.index :: s.tested) 0 := by
  rw [passed_cons]
  split
  · rename_i hzero
    have hnot : ¬ Passed pass s.tested 0 := fun hp => by
      have hlt := h.tested_lt 0 hp.1
      omega
    simp [hnot, hzero]
  · rename_i hne
    rw [h.first (Nat.pos_of_ne_zero hne)]
    simp [Ne.symm hne]

/-- The phases that were tested stay below the next one. -/
theorem Searched.tested_lt_cons (h : Searched pass clock s) {index : Nat} (hlt : s.index < index) :
    ∀ phase ∈ s.index :: s.tested, phase < index :=
  List.forall_mem_cons.mpr ⟨hlt, fun phase hmem => (h.tested_lt phase hmem).trans hlt⟩

/-- The phase of this iteration was not tested before. -/
theorem Searched.passed_last (h : Searched pass clock s) (hindex : s.index = numPhases - 1) :
    pass s.index = true ↔ Passed pass (s.index :: s.tested) (numPhases - 1) := by
  have hnot : ¬ Passed pass s.tested (numPhases - 1) := fun hp => by
    have hlt := h.tested_lt _ hp.1
    omega
  rw [passed_cons]
  simp [hnot, hindex]

/-- Where the table ends is before the middle of the circle. -/
theorem Searched.count_le {table : Nat → Int × Int} {count : Nat} {index : Nat}
    (hranges : Ranges (Passed pass (index :: s.tested)) table count) (h : Searched pass clock s)
    (hlt : index < numPhases) (hle : s.index ≤ index) {k : Nat} (hk : k < count) :
    0 ≤ (k : Int) ∧ (k : Int) < rangesLength := by
  have htwo := hranges.two_mul_le k hk
  have hordered := hranges.ordered k hk
  have hmem := (hranges.covers (table k).1.toNat).mpr ⟨k, hk, by omega, by omega⟩
  have hbound : (table k).1.toNat ≤ index := by
    rcases List.mem_cons.mp hmem.1 with heq | hold
    · omega
    · have hold := h.tested_lt _ hold
      omega
  unfold rangesLength numPhases at *
  omega

theorem Searched.step_bad (h : Searched pass clock s) (hlt : s.index < numPhases)
    (hbad : pass s.index = false) (con1 : BitVec 32) :
    Searched pass clock { s with
      index := skipPhases s.index
      currentTuneCmdOk := false
      previousTuneCmdOk := false
      firstTuneCmdOk := if s.index = 0 then pass s.index else s.firstTuneCmdOk
      clock := { clock with timingCon1 := con1 }
      programmed := some s.index
      tested := s.index :: s.tested } := by
  obtain ⟨hskip, hskipLe, hend⟩ := skipPhases_spec hlt
  have hgrid := h.grid.cons hlt
  rw [if_neg (by rw [hbad]; decide)] at hgrid
  refine ⟨⟨con1, rfl⟩, hgrid, hskipLe, ?_, ?_, ?_, ?_, rfl, fun _ => h.first_step, ?_, h.inTable⟩
  · exact h.tested_lt_cons hskip
  · exact h.ranges.congr fun phase => by simp [passed_cons, hbad]
  · exact fun hfalse => nomatch hfalse
  · intro _ k hk
    dsimp only at hk ⊢
    cases hprevious : s.previousTuneCmdOk with
    | true =>
      have hlast := (h.good hprevious).2
      have hle := h.ranges.le_last hk
      omega
    | false =>
      have hgap := h.bad hprevious k hk
      omega
  · intro hindex
    dsimp only at hindex ⊢
    rw [← h.passed_last (hend hindex), hbad]

theorem Searched.step_good (h : Searched pass clock s) (hlt : s.index < numPhases)
    (hgood : pass s.index = true) (hprevious : s.previousTuneCmdOk = true) (con1 : BitVec 32) :
    Searched pass clock { s with
      index := s.index + 1
      ranges := Function.update s.ranges (s.rangeCount - 1)
        ((s.ranges (s.rangeCount - 1)).1, (s.index : Int))
      currentTuneCmdOk := true
      previousTuneCmdOk := true
      firstTuneCmdOk := if s.index = 0 then pass s.index else s.firstTuneCmdOk
      clock := { clock with timingCon1 := con1 }
      programmed := some s.index
      tested := s.index :: s.tested
      subscripts := ((s.rangeCount - 1 : Nat) : Int) :: s.subscripts } := by
  obtain ⟨hcount, hlast⟩ := h.good hprevious
  have hranges := h.ranges.extend hcount hlast
    (T := Passed pass (s.index :: s.tested)) fun phase => by simp [passed_cons, hgood]
  have hgrid := h.grid.cons hlt
  rw [if_pos hgood] at hgrid
  refine ⟨⟨con1, rfl⟩, hgrid, hlt, ?_, hranges, ?_, ?_, rfl, fun _ => h.first_step, ?_, ?_⟩
  · exact h.tested_lt_cons (Nat.lt_succ_self _)
  · exact fun _ => ⟨hcount, by simp⟩
  · exact fun hfalse => nomatch hfalse
  · intro hindex
    rw [← h.passed_last (Nat.eq_sub_of_add_eq hindex), hgood]
  · exact inTable_cons (h.count_le hranges hlt (Nat.le_refl _) (Nat.sub_one_lt_of_lt hcount))
      h.inTable

theorem Searched.step_new (h : Searched pass clock s) (hlt : s.index < numPhases)
    (hgood : pass s.index = true) (hprevious : s.previousTuneCmdOk = false) (con1 : BitVec 32) :
    Searched pass clock { s with
      index := s.index + 1
      rangeCount := s.rangeCount + 1
      ranges := Function.update s.ranges s.rangeCount ((s.index : Int), (s.index : Int))
      currentTuneCmdOk := true
      previousTuneCmdOk := true
      firstTuneCmdOk := if s.index = 0 then pass s.index else s.firstTuneCmdOk
      clock := { clock with timingCon1 := con1 }
      programmed := some s.index
      tested := s.index :: s.tested
      subscripts := (s.rangeCount : Int) :: (s.rangeCount : Int) :: s.subscripts } := by
  have hranges := h.ranges.append (h.bad hprevious)
    (T := Passed pass (s.index :: s.tested)) fun phase => by simp [passed_cons, hgood]
  have hgrid := h.grid.cons hlt
  rw [if_pos hgood] at hgrid
  refine ⟨⟨con1, rfl⟩, hgrid, hlt, ?_, hranges, ?_, ?_, rfl, fun _ => h.first_step, ?_, ?_⟩
  · exact h.tested_lt_cons (Nat.lt_succ_self _)
  · exact fun _ => ⟨Nat.succ_pos _, by simp⟩
  · exact fun hfalse => nomatch hfalse
  · intro hindex
    rw [← h.passed_last (Nat.eq_sub_of_add_eq hindex), hgood]
  · have hin := h.count_le hranges hlt (Nat.le_refl _) (Nat.lt_succ_self _)
    exact inTable_cons hin (inTable_cons hin h.inTable)

/-- **The step lemma**: an iteration keeps the invariant, and moves on. -/
theorem Searched.step (h : Searched pass clock s) (hrate : 1000 ≤ clock.rkCardClockHz)
    (hlt : s.index < numPhases) :
    ∃ s', tuneStep pass s = some s' ∧ s.index < s'.index ∧ Searched pass clock s' := by
  obtain ⟨con1, htry⟩ := tryPhase_eq h.keepsClock hrate pass
  unfold tuneStep
  rw [if_pos hlt, htry, recordFirst_eq]
  refine ⟨_, rfl, ?_⟩
  cases hpass : pass s.index with
  | false =>
    rw [advance_of_bad rfl]
    have hstep := h.step_bad hlt hpass con1
    rw [hpass] at hstep
    exact ⟨(skipPhases_spec hlt).1, hstep⟩
  | true =>
    cases hprevious : s.previousTuneCmdOk with
    | true =>
      rw [advance_of_good]
      · have hstep := h.step_good hlt hpass hprevious con1
        rw [hpass] at hstep
        exact ⟨Nat.lt_succ_self _, hstep⟩
      · rfl
      · rfl
      · exact (h.good hprevious).1
    | false =>
      rw [advance_of_new]
      · have hstep := h.step_new hlt hpass hprevious con1
        rw [hpass] at hstep
        exact ⟨Nat.lt_succ_self _, hstep⟩
      · rfl
      · rfl

end Step

/-- **The first loop** ends by itself, past the last phase, and with the invariant. -/
theorem searchPhases_spec (pass : Nat → Bool) (clock : MshcClock)
    (hrate : 1000 ≤ clock.rkCardClockHz) :
    tuneStep pass (searchPhases pass clock) = none
      ∧ Searched pass clock (searchPhases pass clock) := by
  refine loop_spec (tuneStep pass)
    (fun n s => Searched pass clock s ∧ n = numPhases - s.index) (Searched pass clock) ?_
    numPhases numPhases _ ⟨searched_start pass clock, rfl⟩ (Nat.le_refl _)
  rintro n s ⟨h, rfl⟩
  by_cases hlt : s.index < numPhases
  · obtain ⟨s', hstep, hindex, h'⟩ := h.step hrate hlt
    exact Or.inr ⟨s', _, hstep, by omega, h', rfl⟩
  · exact Or.inl ⟨if_neg hlt, h⟩

/-- The loop is left past the last phase. -/
theorem searchPhases_index (pass : Nat → Bool) (clock : MshcClock)
    (hrate : 1000 ≤ clock.rkCardClockHz) : (searchPhases pass clock).index = numPhases := by
  obtain ⟨hnone, h⟩ := searchPhases_spec pass clock hrate
  unfold tuneStep at hnone
  split at hnone
  · cases hnone
  · have hle := h.index_le
    omega

/-! ## 4. The choice of a range

The degrees are a circle, and the table is a line: a run that goes across the ends of the circle is
two ranges of the table, the first and the last.  The merge puts them together, and after it every
maximal arc of the circle is one entry (`Candidates`).  The second loop takes the first of the
longest. -/

theorem rangeLength_of_le {range : Int × Int} (hle : range.1 ≤ range.2) :
    rangeLength range = range.2 - range.1 + 1 := if_neg (by omega)

theorem rangeLength_of_wrap {range : Int × Int} (hlt : range.2 + 1 < range.1) :
    rangeLength range = range.2 - range.1 + 1 + numPhases := if_pos (by omega)

/-- **The second loop** finds a range, and none is longer. -/
theorem findLongest_spec (table : Nat → Int × Int) :
    ∀ count, 0 < count → (∀ k < count, 0 ≤ rangeLength (table k)) →
      ∃ k < count, findLongest table count = (rangeLength (table k), (k : Int))
        ∧ ∀ j < count, rangeLength (table j) ≤ rangeLength (table k) := by
  intro count
  unfold findLongest
  induction count with
  | zero => exact fun hpos => absurd hpos (Nat.lt_irrefl 0)
  | succ count ih =>
    intro _ hnonneg
    rw [List.range_succ, List.foldl_append, List.foldl_cons, List.foldl_nil]
    rcases Nat.eq_zero_or_pos count with rfl | hpos
    · have hzero := hnonneg 0 (Nat.zero_lt_one)
      refine ⟨0, Nat.zero_lt_one, ?_, ?_⟩
      · rw [List.range_zero, List.foldl_nil, if_pos (by dsimp only; omega)]
      · intro j hj
        obtain rfl : j = 0 := by omega
        exact Int.le_refl _
    · obtain ⟨k, hk, hfind, hlongest⟩ := ih hpos fun j hj => hnonneg j (by omega)
      rw [hfind]
      split
      · rename_i hlonger
        refine ⟨count, by omega, rfl, fun j hj => ?_⟩
        rcases Nat.lt_succ_iff_lt_or_eq.mp hj with hlt | rfl
        · have hj := hlongest j hlt
          omega
        · exact Int.le_refl _
      · rename_i hnot
        refine ⟨k, by omega, rfl, fun j hj => ?_⟩
        rcases Nat.lt_succ_iff_lt_or_eq.mp hj with hlt | rfl
        · exact hlongest j hlt
        · exact Int.not_lt.mp hnot

/-- **What the second loop chooses from**: arcs of the set, which bound every other arc. -/
structure Candidates (S : Nat → Prop) (table : Nat → Int × Int) (count : Nat) : Prop where
  pos : 0 < count
  count_lt : count < rangesLength
  start : ∀ k < count, 0 ≤ (table k).1 ∧ (table k).1 < numPhases
  length_pos : ∀ k < count, 0 < rangeLength (table k)
  isArc : ∀ k < count, IsArc numPhases S (table k).1.toNat (rangeLength (table k)).toNat
  longest : ∀ bound : Int, (∀ k < count, rangeLength (table k) ≤ bound) →
    ∀ start length, IsArc numPhases S start length → 0 < length → (length : Int) ≤ bound
  whole : ∀ k < count, rangeLength (table k) = numPhases →
    (table 0).1 = 0 ∧ (table 0).2 = numPhases - 1

section Choice

variable {S : Nat → Prop} {table : Nat → Int × Int} {count : Nat}

theorem ranges_start_lt (h : Ranges S table count) (hS : ∀ p, S p → p < numPhases) {k : Nat}
    (hk : k < count) : (table k).2 < numPhases := by
  have hnonneg := h.nonneg k hk
  have hordered := h.ordered k hk
  have hlt := hS (table k).2.toNat ((h.covers _).mpr ⟨k, hk, by omega, by omega⟩)
  omega

theorem ranges_count_lt (h : Ranges S table count) (hS : ∀ p, S p → p < numPhases)
    (hpos : 0 < count) : count < rangesLength := by
  have htwo := h.two_mul_le (count - 1) (by omega)
  have hordered := h.ordered (count - 1) (by omega)
  have hlt := ranges_start_lt h hS (Nat.sub_one_lt_of_lt hpos)
  unfold rangesLength numPhases at *
  omega

/-- The ranges of the table, where the set does not go across the ends of the circle. -/
theorem candidates_of_ranges (h : Ranges S table count) (hS : ∀ p, S p → p < numPhases)
    (hpos : 0 < count) (hends : 1 < count → S 0 → ¬ S (numPhases - 1)) :
    Candidates S table count where
  pos := hpos
  count_lt := ranges_count_lt h hS hpos
  start k hk := by
    have hordered := h.ordered k hk
    have hlt := ranges_start_lt h hS hk
    exact ⟨h.nonneg k hk, by omega⟩
  length_pos k hk := by
    rw [rangeLength_of_le (h.ordered k hk)]
    have hordered := h.ordered k hk
    omega
  isArc k hk := by
    rw [rangeLength_of_le (h.ordered k hk)]
    exact h.isArc_range hS hk
  longest bound hbound start length harc hlength := by
    refine h.arc_le hS (fun k hk => ?_) (fun hzero hlast hcount => ?_) harc hlength
    · rw [← rangeLength_of_le (h.ordered k hk)]
      exact hbound k hk
    · exact absurd hlast (hends hcount hzero)
  whole k hk hwhole := by
    rw [rangeLength_of_le (h.ordered k hk)] at hwhole
    have htwo := h.two_mul_le k hk
    have hlt := ranges_start_lt h hS hk
    obtain rfl : k = 0 := by omega
    omega

/-- The last range merged into the first, where it does. -/
theorem candidates_of_wrap (h : Ranges S table count) (hS : ∀ p, S p → p < numPhases)
    (hcount : 1 < count) (hzero : S 0) (hlast : S (numPhases - 1)) :
    Candidates S (Function.update table 0 ((table (count - 1)).1, (table 0).2)) (count - 1) := by
  have hother : ∀ k < count, 0 < k →
      Function.update table 0 ((table (count - 1)).1, (table 0).2) k = table k :=
    fun k _ hk => Function.update_of_ne (by omega) _ _
  have hgap := h.separated 0 (count - 1) (by omega) (by omega)
  have hwrap : rangeLength ((table (count - 1)).1, (table 0).2)
      = (table 0).2 + 1 + ((numPhases : Int) - (table (count - 1)).1) := by
    rw [rangeLength_of_wrap hgap]
    dsimp only
    omega
  have hfirst := h.first_eq hzero
  have hend := h.last_eq hS hlast
  have hordered := h.ordered 0 (by omega)
  have hordered' := h.ordered (count - 1) (by omega)
  refine ⟨by omega, ?_, ?_, ?_, ?_, ?_, ?_⟩
  · have hlt := ranges_count_lt h hS (by omega)
    omega
  · intro k hk
    rcases Nat.eq_zero_or_pos k with rfl | hkpos
    · rw [Function.update_self]
      dsimp only
      omega
    · rw [hother k (by omega) hkpos]
      have hnonneg := h.nonneg k (by omega)
      have hle := h.ordered k (by omega)
      have hlt := ranges_start_lt h hS (k := k) (by omega)
      omega
  · intro k hk
    rcases Nat.eq_zero_or_pos k with rfl | hkpos
    · rw [Function.update_self, hwrap]
      omega
    · rw [hother k (by omega) hkpos, rangeLength_of_le (h.ordered k (by omega))]
      have hle := h.ordered k (by omega)
      omega
  · intro k hk
    rcases Nat.eq_zero_or_pos k with rfl | hkpos
    · rw [Function.update_self, hwrap]
      exact h.isArc_wrap hS hzero hlast hcount
    · rw [hother k (by omega) hkpos, rangeLength_of_le (h.ordered k (by omega))]
      exact h.isArc_range hS (by omega)
  · intro bound hbound start length harc hlength
    have hmerged := hbound 0 (by omega)
    rw [Function.update_self, hwrap] at hmerged
    refine h.arc_le hS (fun k hk => ?_) (fun _ _ _ => hmerged) harc hlength
    have hlt := ranges_start_lt h hS hk
    rcases Nat.eq_zero_or_pos k with rfl | hkpos
    · omega
    · rcases Nat.lt_or_ge k (count - 1) with hk' | hk'
      · have hk'' := hbound k hk'
        rwa [hother k hk hkpos, rangeLength_of_le (h.ordered k hk)] at hk''
      · obtain rfl : k = count - 1 := by omega
        omega
  · intro k hk hwhole
    rcases Nat.eq_zero_or_pos k with rfl | hkpos
    · rw [Function.update_self, hwrap] at hwhole
      omega
    · rw [hother k (by omega) hkpos, rangeLength_of_le (h.ordered k (by omega))] at hwhole
      have htwo := h.two_mul_le k (by omega)
      have hlt := ranges_start_lt h hS (k := k) (by omega)
      omega

/-- **The range that is chosen** is a longest arc. -/
theorem Candidates.longestArc (h : Candidates S table count) {k : Nat} (hk : k < count)
    (hlongest : ∀ j < count, rangeLength (table j) ≤ rangeLength (table k)) :
    LongestArc numPhases S (table k).1.toNat (rangeLength (table k)).toNat := by
  have hpos := h.length_pos k hk
  obtain ⟨hnonneg, hlt⟩ := h.start k hk
  refine ⟨by omega, by omega, h.isArc k hk, fun start length harc => ?_⟩
  rcases Nat.eq_zero_or_pos length with rfl | hlength
  · exact Nat.zero_le _
  · have hle := h.longest _ hlongest start length harc hlength
    omega

end Choice

/-- The phase that stands for an arc: its middle, or the default for the whole circle. -/
def arcPhase (start length : Nat) : Nat :=
  if length = numPhases then samplePhaseDefault else (start + length / 2) % numPhases

/-- A phase that stands for a longest arc of the set. -/
def Chosen (S : Nat → Prop) (phase : Nat) : Prop :=
  ∃ start length, LongestArc numPhases S start length ∧ phase = arcPhase start length

/-- The whole circle stands for itself, whatever its longest arc starts at. -/
theorem Chosen.eq_default {S : Nat → Prop} {phase : Nat} (h : Chosen S phase)
    (hall : ∀ p < numPhases, S p) : phase = samplePhaseDefault := by
  obtain ⟨start, length, harc, rfl⟩ := h
  have hwhole : IsArc numPhases S 0 numPhases :=
    ⟨Nat.le_refl _, fun i _ => hall _ (Nat.mod_lt _ (by decide))⟩
  exact if_pos (Nat.le_antisymm harc.isArc.1 (harc.longest 0 numPhases hwhole))

theorem Chosen.mem {S : Nat → Prop} {phase : Nat} (h : Chosen S phase) : S phase := by
  obtain ⟨start, length, harc, rfl⟩ := h
  unfold arcPhase
  split
  · rename_i hwhole
    have hmem := harc.mem (i := (numPhases - start) % numPhases)
      (by rw [hwhole]; exact Nat.mod_lt _ (by decide))
    rw [Nat.add_mod_mod, Nat.add_sub_cancel' (Nat.le_of_lt harc.start_lt), Nat.mod_self] at hmem
    exact hmem
  · exact harc.mem (Nat.div_lt_self harc.pos Nat.one_lt_two)

/-! ## 5. The whole function

If some phase passed, the table is not empty and the middle of a longest arc is set; if all passed,
the arc is the whole circle and stands for the default. -/

section Whole

variable {pass : Nat → Bool} {clock : MshcClock} {s : TuneState}

theorem Searched.passed_lt (h : Searched pass clock s) (phase : Nat)
    (hpassed : Passed pass s.tested phase) : phase < numPhases :=
  Nat.lt_of_lt_of_le (h.tested_lt phase hpassed.1) h.index_le

/-- After the merge the table has what the second loop chooses from. -/
theorem Searched.merged (h : Searched pass clock s) (hend : s.index = numPhases)
    (hcount : 0 < s.rangeCount) :
    Candidates (Passed pass s.tested) s.mergeWrapped.ranges s.mergeWrapped.rangeCount
      ∧ s.mergeWrapped.clock = s.clock ∧ s.mergeWrapped.tested = s.tested
      ∧ InTable s.mergeWrapped.subscripts := by
  have hfirst := h.first (hend ▸ Nat.zero_lt_succ _)
  have hlast := h.last hend
  unfold TuneState.mergeWrapped
  split
  · rename_i hwrap
    obtain ⟨hcount, hfirstOk, hlastOk⟩ := hwrap
    have hlt := ranges_count_lt h.ranges h.passed_lt (Nat.lt_of_succ_lt hcount)
    refine ⟨candidates_of_wrap h.ranges h.passed_lt hcount (hfirst.mp hfirstOk)
      (hlast.mp hlastOk), rfl, rfl, ?_⟩
    exact inTable_cons (by omega) (inTable_cons (by omega) h.inTable)
  · rename_i hnot
    refine ⟨candidates_of_ranges h.ranges h.passed_lt hcount ?_, rfl, rfl, h.inTable⟩
    exact fun hcount hzero hend => hnot ⟨hcount, hfirst.mpr hzero, hlast.mpr hend⟩

/-- The middle of a range, as the function computes it. -/
theorem middlePhase_eq {k : Nat} (hnonneg : 0 ≤ (s.ranges k).1)
    (hpos : 0 < rangeLength (s.ranges k))
    (hfind : findLongest s.ranges s.rangeCount = (rangeLength (s.ranges k), (k : Int))) :
    s.middlePhase
      = ((s.ranges k).1.toNat + (rangeLength (s.ranges k)).toNat / 2) % numPhases := by
  unfold TuneState.middlePhase
  rw [hfind]
  obtain ⟨start, hstart⟩ := Int.eq_ofNat_of_zero_le hnonneg
  obtain ⟨length, hlength⟩ := Int.eq_ofNat_of_zero_le (Int.le_of_lt hpos)
  simp only [Int.toNat_natCast, hstart, hlength, rangeIndexToPhase_eq]
  rfl

/-- **The choice**: the phase that is set stands for a longest arc. -/
theorem programBest_spec {S : Nat → Prop} (h : Candidates S s.ranges s.rangeCount)
    (hclock : s.KeepsClock clock) (hrate : 1000 ≤ clock.rkCardClockHz)
    (hin : InTable s.subscripts) :
    ∃ phase, Chosen S phase ∧ s.programBest.programmed = some phase
      ∧ mshcRk3576SetPhase clock true phase = .ok (true, s.programBest.clock)
      ∧ s.programBest.tested = s.tested ∧ InTable s.programBest.subscripts := by
  have hzero : (0 : Int) ≤ 0 ∧ (0 : Int) < rangesLength := by decide
  have hchecked := inTable_cons hzero (inTable_cons hzero hin)
  obtain ⟨k, hk, hfind, hlongest⟩ :=
    findLongest_spec s.ranges s.rangeCount h.pos fun j hj => Int.le_of_lt (h.length_pos j hj)
  have harc := h.longestArc hk hlongest
  unfold TuneState.programBest
  split
  · rename_i hwhole
    obtain ⟨con1, hset, hphase⟩ := setPhase_eq (s := { s with subscripts := 0 :: 0 :: s.subscripts })
      hclock hrate samplePhaseDefault
    rw [hset]
    refine ⟨samplePhaseDefault, ⟨_, _, harc, ?_⟩, rfl, hphase, rfl, hchecked⟩
    have hlength : rangeLength (s.ranges 0) = numPhases := by
      rw [rangeLength_of_le (by unfold numPhases at hwhole; omega), hwhole.1, hwhole.2]
      omega
    have hle := hlongest 0 h.pos
    have hbound := harc.isArc.1
    exact (if_pos (by omega)).symm
  · rename_i hnot
    obtain ⟨con1, hset, hphase⟩ := setPhase_eq (s := { s with
      subscripts := (findLongest s.ranges s.rangeCount).2
        :: (List.range s.rangeCount).map Nat.cast ++ 0 :: 0 :: s.subscripts })
      hclock hrate s.middlePhase
    rw [hset]
    refine ⟨s.middlePhase, ⟨_, _, harc, ?_⟩, rfl, hphase, rfl, ?_⟩
    · rw [middlePhase_eq (h.start k hk).1 (h.length_pos k hk) hfind]
      refine (if_neg fun hlength => hnot (h.whole k hk ?_)).symm
      have hpos := h.length_pos k hk
      omega
    · have hcount := h.count_lt
      rw [hfind]
      refine inTable_cons (by dsimp only; omega) fun i hi => ?_
      rcases List.mem_append.mp hi with hread | hold
      · obtain ⟨j, hj, rfl⟩ := List.mem_map.mp hread
        have hj := List.mem_range.mp hj
        omega
      · exact hchecked i hold

end Whole

/-- **`MshcRockchipExecuteTuning` picks a sound sample phase**: it tests the phases of the grid that
the results lead to; it fails just where none of them passes; the phase that it leaves in the
register was tested, passed, and is the middle of a longest arc of tested phases that pass, the
default phase where every phase passes; its first loop ends; and no access is past the end of
`Ranges`.

The table of the first loop has the runs of passing phases in order, with a gap between any two; so
there are at most half as many of them as phases, and the only arc that it splits is one across the
ends of the circle, which is put together again before the longest one is looked for. -/
theorem mshcRockchipExecuteTuning_sound (pass : Nat → Bool) (clock : MshcClock)
    (hrate : 1000 ≤ clock.rkCardClockHz) :
    let result := mshcRockchipExecuteTuning pass clock
    let passed := Passed pass result.2.tested
    tuneStep pass (searchPhases pass clock) = none
      ∧ Grid pass result.2.tested
      ∧ (result.1.ntSuccess = false ↔ ∀ phase ∈ result.2.tested, pass phase = false)
      ∧ (result.1.ntSuccess = true → ∃ phase, result.2.programmed = some phase
        ∧ mshcRk3576SetPhase clock true phase = .ok (true, result.2.clock)
        ∧ passed phase ∧ Chosen passed phase)
      ∧ ((∀ phase < numPhases, pass phase = true) →
        result.1.ntSuccess = true ∧ result.2.programmed = some samplePhaseDefault)
      ∧ InTable result.2.subscripts := by
  obtain ⟨hnone, h⟩ := searchPhases_spec pass clock hrate
  have hend := searchPhases_index pass clock hrate
  have hempty := h.ranges.eq_zero_iff
  unfold mshcRockchipExecuteTuning
  refine ⟨hnone, ?_⟩
  dsimp only
  generalize searchPhases pass clock = s at *
  have hgrid : Grid pass s.tested := (hend ▸ h.grid).grid
  have hnopass : s.rangeCount = 0 ↔ ∀ phase ∈ s.tested, pass phase = false := by
    rw [hempty]
    simp [Passed]
  -- where every phase passes every phase is tested
  have hall : (∀ phase < numPhases, pass phase = true) →
      ∀ phase < numPhases, Passed pass s.tested phase := by
    intro hpass phase hlt
    rcases hgrid.near hlt with hmem | ⟨bad, hmem, hbad, hbehind, -⟩
    · exact ⟨hmem, hpass phase hlt⟩
    · rw [hpass bad (hbehind.trans hlt)] at hbad
      cases hbad
  split
  · rename_i hzero
    refine ⟨hgrid, iff_of_true rfl (hnopass.mp hzero), fun hfalse => (nomatch hfalse),
      fun hpass => ?_, h.inTable⟩
    exact absurd (hall hpass 0 (by decide)) (hempty.mp hzero 0)
  · rename_i hne
    obtain ⟨hcandidates, hclock, htested, hin⟩ := h.merged hend (Nat.pos_of_ne_zero hne)
    have hkeeps : s.mergeWrapped.KeepsClock clock := by
      unfold TuneState.KeepsClock
      rw [hclock]
      exact h.keepsClock
    obtain ⟨phase, hchosen, hprogrammed, hset, htested', hin'⟩ :=
      programBest_spec hcandidates hkeeps hrate hin
    dsimp only
    rw [htested', htested]
    refine ⟨hgrid, iff_of_false (fun hfalse => nomatch hfalse) fun hall => hne (hnopass.mpr hall),
      fun _ => ⟨phase, hprogrammed, hset, hchosen.mem, hchosen⟩, fun hpass => ⟨rfl, ?_⟩, hin'⟩
    rw [hprogrammed, hchosen.eq_default (hall hpass)]

/-- One window of phases passes, from 100 to 199: the search succeeds in its middle. -/
theorem mshcRockchipExecuteTuning_sound_of_window :
    let pass : Nat → Bool := fun phase => decide (100 ≤ phase ∧ phase < 200)
    let result := mshcRockchipExecuteTuning pass ⟨0, 0, 0, 0, 0, none, 50000000, 0, 0⟩
    result.2.programmed = some 150 ∧ Grid pass result.2.tested
      ∧ ∃ phase, result.2.programmed = some phase ∧ Passed pass result.2.tested phase
        ∧ Chosen (Passed pass result.2.tested) phase := by
  have hsound := mshcRockchipExecuteTuning_sound (fun phase => decide (100 ≤ phase ∧ phase < 200))
    ⟨0, 0, 0, 0, 0, none, 50000000, 0, 0⟩ (by decide)
  obtain ⟨-, hgrid, -, hsuccess, -, -⟩ := hsound
  obtain ⟨phase, hprogrammed, -, hpassed, hchosen⟩ := hsuccess (by decide +kernel)
  exact ⟨by decide +kernel, hgrid, phase, hprogrammed, hpassed, hchosen⟩

end WoaRk3576.Sd.PhaseTuning
