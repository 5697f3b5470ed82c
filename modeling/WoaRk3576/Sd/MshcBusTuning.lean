/-
# The phase search of the bus operations is the one of `Sd/MshcPhaseTuning.lean`

`MshcRockchipExecuteTuning` is modelled twice, for two purposes.  In `Sd/MshcBus.lean` it sends
tuning commands to a card that answers as it likes and keeps its ranges in a list, so that the
recovery inside of a search can be followed.  In `Sd/MshcPhaseTuning.lean` the answers are a
function of the phase, and the ranges are in the table of the source, with its subscripts.

`mshcRockchipExecuteTuning_search` says that a search on the bus IS one over a table: for some
function of the phase it ends with the same status and, if it succeeds, with the same timing
registers.  So what is proved there of the phase that is chosen holds in the middle of a bus
operation too.

* The index only grows (`PhaseSearch.record_index`), so no phase is tried twice, and the answers
  of a card that changes its mind still are a function of the phase.  The function is found from
  the last phase backwards, in the induction of `tryPhases_search`.
* One iteration does the same to the list and to the table (`SameSearch.record`), as a range is
  extended only after one was started.
* Sending a tuning command leaves the clock alone but for the sample phase, which the next
  iteration writes (`mshcSendTuningCommand_returns`).  It may do so because the flag that allows
  a retuning is clear.
-/
import WoaRk3576.Sd.MshcPhaseTuning
import WoaRk3576.Sd.MshcRecovery

namespace WoaRk3576.Sd.PhaseTuning

open WoaRk3576.Lib WoaRk3576.Sd.Bus

/-! ## 1. One iteration

The search on the bus keeps its ranges in a list and the function on its own in a table with a
counter.  The list is the table up to the counter, and each of the three things that an iteration
does keeps it so. -/

/-- The first entries of the table, as a list. -/
def tableList (table : Nat → Int × Int) (count : Nat) : List (Int × Int) :=
  (List.range count).map table

theorem tableList_succ (table : Nat → Int × Int) (count : Nat) :
    tableList table (count + 1) = tableList table count ++ [table count] := by
  rw [tableList, List.range_succ, List.map_append]
  rfl

theorem tableList_cons (table : Nat → Int × Int) (count : Nat) :
    tableList table (count + 1) = table 0 :: tableList (fun k => table (k + 1)) count := by
  rw [tableList, List.range_succ_eq_map, List.map_cons, List.map_map]
  rfl

/-- A write to the entry behind a list does not show in it. -/
theorem tableList_update (table : Nat → Int × Int) (count : Nat) (range : Int × Int) :
    tableList (Function.update table count range) count = tableList table count :=
  List.map_congr_left fun _ hk => Function.update_of_ne (List.mem_range.mp hk).ne _ _

theorem tableList_update_succ (table : Nat → Int × Int) (count : Nat) (range : Int × Int) :
    tableList (Function.update table count range) (count + 1)
      = tableList table count ++ [range] := by
  rw [tableList_succ, tableList_update, Function.update_self]

/-- **The two searches are at the same point.** -/
structure SameSearch (clock : MshcClock) (t : PhaseSearch) (u : TuneState) : Prop where
  index : t.index = u.index
  ranges : t.ranges = tableList u.ranges u.rangeCount
  currentOk : t.currentOk = u.currentTuneCmdOk
  previousOk : t.previousOk = u.previousTuneCmdOk
  firstOk : t.firstOk = u.firstTuneCmdOk
  started : u.previousTuneCmdOk = true → 0 < u.rangeCount
  keepsClock : u.KeepsClock clock

theorem sameSearch_start (clock : MshcClock) :
    SameSearch clock .start (TuneState.start clock) :=
  ⟨rfl, rfl, rfl, rfl, rfl, fun hfalse => absurd hfalse Bool.false_ne_true, clock.timingCon1, rfl⟩

/-- The variables once the phase of the iteration is tested. -/
def TuneState.testedWith (u : TuneState) (clock : MshcClock) (ok : Bool) : TuneState :=
  { u with
    clock := clock
    programmed := some u.index
    currentTuneCmdOk := ok
    tested := u.index :: u.tested }

/-- The last range ends at the phase now, whether it has just been started or not. -/
theorem extendRanges_eq (ranges : List (Int × Int)) (range : Int × Int) (index : Nat) :
    extendRanges (ranges ++ [range]) true index = ranges ++ [(range.1, (index : Int))] := by
  unfold extendRanges
  simp

theorem extendRanges_new (ranges : List (Int × Int)) (index : Nat) :
    extendRanges ranges false index = ranges ++ [((index : Int), (index : Int))] := by
  unfold extendRanges
  simp

section Record

variable {clock : MshcClock} {t : PhaseSearch} {u : TuneState}

/-- The answer for the first phase is kept. -/
theorem SameSearch.first_eq (h : SameSearch clock t u) (ok : Bool) :
    (if t.index = 0 then ok else t.firstOk) = if u.index = 0 then ok else u.firstTuneCmdOk := by
  rw [h.index, h.firstOk]

theorem SameSearch.record_bad (h : SameSearch clock t u) (con1 : BitVec 32) :
    SameSearch clock (t.record false)
      (u.testedWith { clock with timingCon1 := con1 } false).recordFirst.advance := by
  rw [recordFirst_eq, advance_of_bad rfl]
  have hfirst := h.first_eq false
  unfold PhaseSearch.record
  simp only [Bool.false_eq_true, if_false]
  split
  · rename_i hlast
    refine ⟨?_, h.ranges, rfl, rfl, hfirst, fun hfalse => (nomatch hfalse), con1, rfl⟩
    dsimp only [TuneState.testedWith]
    rw [skipPhases, ← h.index, if_pos hlast]
  · rename_i hmore
    refine ⟨?_, h.ranges, rfl, rfl, hfirst, fun hfalse => (nomatch hfalse), con1, rfl⟩
    dsimp only [TuneState.testedWith]
    rw [skipPhases, ← h.index, if_neg hmore]

theorem SameSearch.record_good (h : SameSearch clock t u) (con1 : BitVec 32) :
    SameSearch clock (t.record true)
      (u.testedWith { clock with timingCon1 := con1 } true).recordFirst.advance := by
  rw [recordFirst_eq]
  have hfirst := h.first_eq true
  unfold PhaseSearch.record
  simp only [if_true]
  cases hprevious : u.previousTuneCmdOk with
  | true =>
    have hcount := h.started hprevious
    obtain ⟨count, hcounted⟩ := Nat.exists_eq_succ_of_ne_zero hcount.ne'
    rw [advance_of_good]
    · refine ⟨congrArg (· + 1) h.index, ?_, rfl, rfl, hfirst, fun _ => hcount, con1, rfl⟩
      dsimp only [TuneState.testedWith]
      rw [h.previousOk, hprevious, h.ranges, hcounted, Nat.succ_eq_add_one, Nat.add_sub_cancel,
        tableList_succ, extendRanges_eq, tableList_update_succ, h.index]
    · rfl
    · exact hprevious
    · exact hcount
  | false =>
    rw [advance_of_new]
    · refine ⟨congrArg (· + 1) h.index, ?_, rfl, rfl, hfirst, fun _ => Nat.succ_pos _, con1, rfl⟩
      dsimp only [TuneState.testedWith]
      rw [h.previousOk, hprevious, h.ranges, extendRanges_new, tableList_update_succ, h.index]
    · rfl
    · exact hprevious

/-- **One iteration**: the list and the table get the same range. -/
theorem SameSearch.record (h : SameSearch clock t u) (ok : Bool) (con1 : BitVec 32) :
    SameSearch clock (t.record ok)
      (u.testedWith { clock with timingCon1 := con1 } ok).recordFirst.advance := by
  cases ok with
  | false => exact h.record_bad con1
  | true => exact h.record_good con1

/-- The iteration over the table, where the phase is answered with `pass`. -/
theorem SameSearch.tuneStep (h : SameSearch clock t u) (hrate : 1000 ≤ clock.rkCardClockHz)
    (hlt : t.index < numPhases) :
    ∃ con1, ∀ pass, PhaseTuning.tuneStep pass u
      = some (u.testedWith { clock with timingCon1 := con1 } (pass t.index)).recordFirst.advance := by
  obtain ⟨con1, hset, -⟩ := setPhase_eq h.keepsClock hrate u.index
  refine ⟨con1, fun pass => ?_⟩
  rw [h.index] at hlt ⊢
  unfold PhaseTuning.tuneStep TuneState.tryPhase
  rw [if_pos hlt]
  simp only [rangeIndexToPhase_eq, hset]
  rfl

end Record

/-! ## 2. The loop

On the bus, sending the tuning command changes the state of the bus, and what it answers depends on
that.  Each phase is tested once only, so the answers are a function of the phase all the same, and
this function is the parameter of the other search. -/

section Search

variable {p : MshcSlot} {send : MshcBus → MshcResult} {start : MshcBus}

/-- The clock is that of the start but for the sample phase. -/
theorem keeps_clock {s : MshcBus} (hs : Keeps start s) :
    s.toMshcClock = { start.toMshcClock with timingCon1 := s.timingCon1 } := by
  have hclock : ({ s.toMshcClock with timingCon1 := 0 } : MshcClock)
      = { start.toMshcClock with timingCon1 := 0 } := congrArg BusSettings.clock hs.settings
  exact congrArg (fun c : MshcClock => { c with timingCon1 := s.timingCon1 }) hclock

/-- One phase on the bus: it is recorded with some answer. -/
theorem tryPhase_record (hrate : 1000 ≤ start.rkCardClockHz)
    (hsend : ∀ s, Keeps start s → Returns p (Keeps s) (send s)) {t t' : PhaseSearch}
    {s s' : MshcBus} (hs : Keeps start s) (htry : tryPhase send t s = .ok (t', s')) :
    (∃ ok, t' = t.record ok) ∧ Keeps start s' := by
  obtain ⟨con1, hset⟩ := samplePhase_eq start.toMshcClock hrate (rangeIndexToPhase t.index)
  unfold tryPhase at htry
  rw [keeps_clock hs, hset] at htry
  dsimp only at htry
  have hphase : Keeps start { s with
      toMshcClock := { start.toMshcClock with timingCon1 := con1 } } := by
    refine hs.trans ⟨?_, rfl⟩
    rw [MshcBus.settings, MshcBus.settings, keeps_clock hs]
  rcases hsend _ hphase with ⟨status, sent, hsent, hkeeps⟩ | ⟨hendless, -⟩
  · rw [hsent] at htry
    cases htry
    exact ⟨⟨_, rfl⟩, hphase.trans hkeeps⟩
  · rw [hendless] at htry
    cases htry

/-- **The loop on the bus is one over the table**, for some function of the phase.  By induction
on the iterations left: the rest of the search asks only for phases above this one, so its
function is free to answer for this one as the card did. -/
theorem tryPhases_search (hrate : 1000 ≤ start.rkCardClockHz)
    (hsend : ∀ s, Keeps start s → Returns p (Keeps s) (send s)) (fuel : Nat) :
    ∀ {t t' : PhaseSearch} {u : TuneState} {s s' : MshcBus},
      SameSearch start.toMshcClock t u → Keeps start s →
      tryPhases send (fuel + 1) t s = .ok (t', s') →
      Keeps start s' ∧ ∃ pass : Nat → Bool, ∀ pass' : Nat → Bool,
        (∀ phase, t.index ≤ phase → pass' phase = pass phase) →
        SameSearch start.toMshcClock t' (loop (tuneStep pass') fuel u) := by
  induction fuel with
  | zero =>
    intro t t' u s s' h hs hrun
    rw [tryPhases] at hrun
    split at hrun
    · split at hrun
      · cases hrun
      · cases hrun
    · cases hrun
      exact ⟨hs, fun _ => false, fun _ _ => h⟩
  | succ fuel ih =>
    intro t t' u s s' h hs hrun
    rw [tryPhases] at hrun
    split at hrun
    · rename_i hlt
      split at hrun
      · cases hrun
      · rename_i next sent htry
        obtain ⟨⟨ok, rfl⟩, hkeeps⟩ := tryPhase_record hrate hsend hs htry
        obtain ⟨con1, hstep⟩ := h.tuneStep hrate hlt
        obtain ⟨hkeeps', pass, hrest⟩ := ih (h.record ok con1) hkeeps hrun
        refine ⟨hkeeps', Function.update pass t.index ok, fun pass' hpass => ?_⟩
        have hhere : pass' t.index = ok := by rw [hpass _ le_rfl, Function.update_self]
        rw [loop_some (hstep pass'), hhere]
        refine hrest pass' fun phase hphase => ?_
        have hmoved := (t.record_index hlt ok).1
        rw [hpass phase (by omega), Function.update_of_ne (by omega)]
    · rename_i hover
      cases hrun
      refine ⟨hs, fun _ => false, fun pass' _ => ?_⟩
      have hnone : tuneStep pass' u = none := if_neg (h.index ▸ hover)
      rw [loop_none hnone]
      exact h

end Search

/-! ## 3. The choice

The same ranges are merged and compared in the same order. -/

/-- Both loops over the ranges find the same one: the first of the longest. -/
theorem findLongest_eq (table : Nat → Int × Int) (hnonneg : 0 ≤ rangeLength (table 0)) (n : Nat) :
    ∃ k, findLongest table (n + 1) = (rangeLength (table k), (k : Int))
      ∧ longestRange (tableList (fun k => table (k + 1)) n) (table 0) = table k := by
  have hsnoc : ∀ (ranges : List (Int × Int)) (range longest : Int × Int),
      longestRange (ranges ++ [range]) longest
        = if rangeLength (longestRange ranges longest) < rangeLength range then range
          else longestRange ranges longest := by
    intro ranges range
    induction ranges with
    | nil => exact fun _ => rfl
    | cons other ranges ih => exact fun longest => ih _
  induction n with
  | zero =>
    refine ⟨0, ?_, rfl⟩
    rw [findLongest, List.range_succ, List.range_zero, List.nil_append, List.foldl_cons,
      List.foldl_nil, if_pos (by dsimp only; omega)]
  | succ n ih =>
    obtain ⟨k, hfind, hlongest⟩ := ih
    have hnext : findLongest table (n + 1 + 1)
        = if rangeLength (table k) < rangeLength (table (n + 1)) then
            (rangeLength (table (n + 1)), ((n + 1 : Nat) : Int))
          else (rangeLength (table k), (k : Int)) := by
      rw [findLongest] at hfind ⊢
      rw [List.range_succ, List.foldl_append, List.foldl_cons, List.foldl_nil, hfind]
    rw [hnext, tableList_succ, hsnoc, hlongest]
    split
    · exact ⟨n + 1, rfl, rfl⟩
    · exact ⟨k, rfl, rfl⟩

section Choice

variable {clock : MshcClock} {t : PhaseSearch} {u : TuneState}

/-- Ranges that do not go across the ends of the circle stay. -/
theorem mergedRanges_of_not
    (hnot : ¬ (1 < t.ranges.length ∧ t.firstOk = true ∧ t.currentOk = true)) :
    mergedRanges t = t.ranges := by
  unfold mergedRanges
  split
  · rename_i first rest last hranges _
    refine if_neg fun hwrap => hnot ⟨?_, hwrap.2⟩
    have hpos := List.length_pos_iff.mpr hwrap.1
    rw [hranges, List.length_cons]
    omega
  · rfl

/-- The merge of the ranges at both ends of the circle. -/
theorem SameSearch.merged (h : SameSearch clock t u) :
    mergedRanges t = tableList u.mergeWrapped.ranges u.mergeWrapped.rangeCount := by
  unfold TuneState.mergeWrapped
  split
  · rename_i hwrap
    obtain ⟨n, hcount⟩ := Nat.exists_eq_add_of_lt hwrap.1
    have hcount : u.rangeCount = n + 1 + 1 := by omega
    have hranges : t.ranges
        = u.ranges 0 :: (tableList (fun k => u.ranges (k + 1)) n ++ [u.ranges (n + 1)]) := by
      rw [h.ranges, hcount, tableList_cons, tableList_succ]
    have hlast : t.ranges.getLast? = some (u.ranges (n + 1)) := by
      rw [h.ranges, hcount, tableList_succ, List.getLast?_concat]
    unfold mergedRanges
    rw [hlast, hranges]
    dsimp only
    rw [h.firstOk, h.currentOk, if_pos ⟨List.append_ne_nil_of_right_ne_nil _ (by simp), hwrap.2⟩,
      hcount, Nat.add_sub_cancel, tableList_cons, Function.update_self, List.dropLast_concat]
    rfl
  · rename_i hnot
    rw [mergedRanges_of_not, h.ranges]
    rw [h.ranges, h.firstOk, h.currentOk, tableList, List.length_map, List.length_range]
    exact hnot

/-- Without a range there is nothing to choose from. -/
theorem SameSearch.chosen_none (h : SameSearch clock t u) (hcount : u.rangeCount = 0) :
    chosenPhase t = none := by
  have hnot : ¬ 1 < t.ranges.length := by
    rw [h.ranges, hcount]
    exact Nat.not_lt_zero 1
  unfold chosenPhase
  rw [mergedRanges_of_not fun hwrap => hnot hwrap.1, h.ranges, hcount]
  rfl

/-- **Both choose the same phase.** -/
theorem SameSearch.chosen (h : SameSearch clock t u) {S : Nat → Prop}
    (hcandidates : Candidates S u.mergeWrapped.ranges u.mergeWrapped.rangeCount) :
    ∃ phase subscripts, chosenPhase t = some phase
      ∧ u.mergeWrapped.programBest
        = (TuneState.setPhase { u.mergeWrapped with subscripts } phase).2 := by
  unfold chosenPhase
  rw [h.merged]
  generalize u.mergeWrapped = m at hcandidates ⊢
  obtain ⟨n, hn⟩ := Nat.exists_eq_succ_of_ne_zero hcandidates.pos.ne'
  obtain ⟨k, hfind, hlongest⟩ := findLongest_eq m.ranges
    (hcandidates.length_pos 0 hcandidates.pos).le n
  rw [hn, Nat.succ_eq_add_one, tableList_cons]
  dsimp only
  unfold TuneState.programBest
  have hlast : ((numPhases - 1 : Nat) : Int) = numPhases - 1 := rfl
  rw [hlast]
  by_cases hwhole : (m.ranges 0).1 = 0 ∧ (m.ranges 0).2 = numPhases - 1
  · rw [if_pos hwhole, if_pos hwhole]
    exact ⟨_, _, rfl, rfl⟩
  · have hmiddle : m.middlePhase = rangeIndexToPhase
        (((m.ranges k).1 + (rangeLength (m.ranges k)).tdiv 2).tmod numPhases).toNat := by
      unfold TuneState.middlePhase
      rw [hn, Nat.succ_eq_add_one, hfind]
      rfl
    rw [if_neg hwhole, if_neg hwhole, hlongest, hmiddle]
    exact ⟨_, _, rfl, rfl⟩

end Choice

/-! ## 4. The whole function

So what is proved of the choice of a phase holds of the routine as the bus operations call it. -/

/-- **A search on the bus is a search over the table**: with the clock of the card known and no
tuning performed yet, for some function of the phase. -/
theorem mshcRockchipExecuteTuning_search (p : MshcSlot) (hw : Nat → HwAnswer) (depth : Nat)
    {s s' : MshcBus} {status : NtStatus} (hrate : 1000 ≤ s.rkCardClockHz)
    (htuning : s.tuningPerformed = false)
    (hrun : Bus.mshcRockchipExecuteTuning p hw (depth + 7) s = .ok (status, s')) :
    ∃ pass, (mshcRockchipExecuteTuning pass s.toMshcClock).1 = status
      ∧ (status = .success →
        (mshcRockchipExecuteTuning pass s.toMshcClock).2.clock = s'.toMshcClock) := by
  have hsend : ∀ g, Keeps s g →
      Returns p (Keeps g) (Bus.mshcSendTuningCommand p hw (depth + 6) g) := fun g hg =>
    mshcSendTuningCommand_returns p hw depth (hg.tuningPerformed.trans htuning)
  unfold Bus.mshcRockchipExecuteTuning at hrun
  split at hrun
  · cases hrun
  · rename_i t searched hsearch
    obtain ⟨hkeeps, pass, hsame⟩ := tryPhases_search hrate hsend numPhases
      (sameSearch_start s.toMshcClock) (.refl s) hsearch
    have hsame := hsame pass fun _ _ => rfl
    have hsearched := (searchPhases_spec pass s.toMshcClock hrate).2
    have hend := searchPhases_index pass s.toMshcClock hrate
    refine ⟨pass, ?_⟩
    unfold mshcRockchipExecuteTuning
    dsimp only
    change SameSearch _ t (searchPhases pass s.toMshcClock) at hsame
    generalize searchPhases pass s.toMshcClock = u at hsame hsearched hend ⊢
    unfold programPhase at hrun
    by_cases hcount : u.rangeCount = 0
    · rw [hsame.chosen_none hcount] at hrun
      cases hrun
      rw [if_pos hcount]
      exact ⟨rfl, fun hfalse => (nomatch hfalse)⟩
    · obtain ⟨hcandidates, hclock, -, -⟩ := hsearched.merged hend (Nat.pos_of_ne_zero hcount)
      obtain ⟨phase, subscripts, hchosen, hbest⟩ := hsame.chosen hcandidates
      obtain ⟨con1, hset, hphase⟩ := setPhase_eq (s := { u.mergeWrapped with subscripts })
        (by
          unfold TuneState.KeepsClock
          rw [hclock]
          exact hsame.keepsClock) hrate phase
      obtain ⟨con1', hsame'⟩ := samplePhase_eq s.toMshcClock hrate phase
      rw [hchosen] at hrun
      dsimp only at hrun
      rw [keeps_clock hkeeps, hsame'] at hrun
      cases hrun
      rw [if_neg hcount]
      refine ⟨rfl, fun _ => ?_⟩
      dsimp only
      rw [hbest, hset]
      have hcon := hphase.symm.trans (hsame' s.timingCon1)
      cases hcon
      rfl

/-- **`MshcExecuteTuning`** clears the flag itself, so this is every tuning of the bus. -/
theorem mshcExecuteTuning_search (p : MshcSlot) (hw : Nat → HwAnswer) (depth : Nat)
    {s s' : MshcBus} {status : NtStatus} (hrate : 1000 ≤ s.rkCardClockHz)
    (hrun : mshcExecuteTuning p hw (depth + 8) s = .ok (status, s')) :
    ∃ pass, (mshcRockchipExecuteTuning pass s.toMshcClock).1 = status
      ∧ (status = .success →
        (mshcRockchipExecuteTuning pass s.toMshcClock).2.clock = s'.toMshcClock) := by
  unfold mshcExecuteTuning at hrun
  dsimp only at hrun
  split at hrun
  · cases hrun
  · rename_i status' s₁ hsearch
    cases hrun
    obtain ⟨pass, hstatus, hclock⟩ := mshcRockchipExecuteTuning_search p hw depth (s := { s with
      tuningPerformed := false
      dataCrcErrorsSinceLastTuning := 0 }) hrate rfl hsearch
    exact ⟨pass, hstatus, hclock⟩

end WoaRk3576.Sd.PhaseTuning
