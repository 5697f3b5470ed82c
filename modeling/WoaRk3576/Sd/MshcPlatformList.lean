/-
# The cleanup of the platform list

`MshcCleanup` walks the ring of the platform entries and removes and frees those of its miniport,
on the way.  What an entry holds once it was freed is not the driver's any more (`left`), and the
walk reads its next entry from there.

`mshcCleanup_iff` says when that does not happen, and `mshcCleanup_of_kept` that nothing else is
wrong: where a freed entry keeps its links until the next step, exactly the entries of the miniport
go.

The ring is a list of entries whose links lead from each to the next (`Lib/ListEntry.lean`), and
the walk is an induction over the entries behind its place.  One of another miniport is only read.
One of this miniport is taken out, freed, and read for its link right behind that
(`mshcCleanupLoop_own`): there is no ring in which the read comes first, so the cleanup is right
for a miniport without an entry, and for no other.  If the freed entry keeps its links, the walk
goes on where it would have gone, and the entries that are left are a ring again.
-/
import WoaRk3576.Lib.ListEntry

namespace WoaRk3576.Sd

open WoaRk3576.Lib

/-! ## 1. The memory and its accesses

The list is reached through addresses, and an entry that was freed can still be read, though what
it holds is anyone's.  So the accesses are kept in a trace, and what a freed entry holds is a
parameter. -/

/-- The fields of `MSHC_PLATFORM_INFO_LIST_ENTRY` that the cleanup reads, by address. -/
structure PlatformMemory where
  links : Nat → ListEntry
  miniportFdo : Nat → Nat

inductive ListEvent
  | read (entry : Nat)
  | write (entry : Nat)
  | free (entry : Nat)
  deriving DecidableEq, Repr

/-- The memory, and what was done to it, in order. -/
structure CleanupRun where
  memory : PlatformMemory
  trace : List ListEvent

/-- The entries that were freed. -/
def freedEntries (trace : List ListEvent) : List Nat :=
  trace.filterMap fun
    | .free entry => some entry
    | _ => none

/-- **No entry is read after it was freed.** -/
def NoReadAfterFree (trace : List ListEvent) : Prop :=
  ∀ before entry after, trace = before ++ .free entry :: after → .read entry ∉ after

def CleanupRun.event (r : CleanupRun) (e : ListEvent) : CleanupRun :=
  { r with trace := r.trace ++ [e] }

/-- `RemoveEntryList`. -/
def CleanupRun.remove (r : CleanupRun) (entry : Nat) : CleanupRun where
  memory := { r.memory with links := removeEntryList r.memory.links entry }
  trace := r.trace ++ [.read entry, .write (r.memory.links entry).blink,
    .write (r.memory.links entry).flink]

/-- `ExFreePoolWithTag`: `left` says what an entry holds then. -/
def CleanupRun.free (left : PlatformMemory → Nat → ListEntry × Nat) (r : CleanupRun) (entry : Nat) :
    CleanupRun where
  memory :=
    { links := Function.update r.memory.links entry (left r.memory entry).1
      miniportFdo := Function.update r.memory.miniportFdo entry (left r.memory entry).2 }
  trace := r.trace ++ [.free entry]

/-! ## 2. The cleanup

The loop reads the next link at its end, behind the removal and the release of the entry. -/

/-- The loop of `MshcCleanup`, from `entry` on. -/
def mshcCleanupLoop (left : PlatformMemory → Nat → ListEntry × Nat) (head device : Nat) :
    Nat → Nat → CleanupRun → Option CleanupRun
  | 0, _, _ => none
  | fuel + 1, entry, r =>
    if entry = head then some r
    else
      let r := r.event (.read entry)
      if r.memory.miniportFdo entry ≠ device then
        mshcCleanupLoop left head device fuel (r.memory.links entry).flink (r.event (.read entry))
      else
        let r := (r.remove entry).free left entry
        mshcCleanupLoop left head device fuel (r.memory.links entry).flink (r.event (.read entry))

/-- **`MshcCleanup`** for the miniport with the functional device object `device`. -/
def mshcCleanup (left : PlatformMemory → Nat → ListEntry × Nat) (head device fuel : Nat)
    (memory : PlatformMemory) : Option CleanupRun :=
  let r : CleanupRun := ⟨memory, [.read head]⟩
  if (memory.links head).flink = head then some r
  else mshcCleanupLoop left head device fuel (memory.links head).flink (r.event (.read head))

/-- **The cleanup is right**: it ends, it removes and frees exactly the entries of the miniport, the
others stay in order, and no entry is read after it was freed. -/
def CleansUp (left : PlatformMemory → Nat → ListEntry × Nat) (head device : Nat)
    (memory : PlatformMemory) (entries : List Nat) : Prop :=
  ∃ fuel r, mshcCleanup left head device fuel memory = some r
    ∧ IsRing r.memory.links head (entries.filter fun e => memory.miniportFdo e ≠ device)
    ∧ freedEntries r.trace = entries.filter (fun e => memory.miniportFdo e = device)
    ∧ NoReadAfterFree r.trace

/-! ## 3. The steps of the loop

One round of the walk, for an entry of another miniport and for one of its own, with the trace of
what was read and freed. -/

section Steps

variable {left : PlatformMemory → Nat → ListEntry × Nat} {head device entry : Nat} {r : CleanupRun}

theorem mshcCleanupLoop_head (fuel : Nat) :
    mshcCleanupLoop left head device (fuel + 1) head r = some r := if_pos rfl

/-- An entry of another miniport is passed. -/
theorem mshcCleanupLoop_other (fuel : Nat) (hne : entry ≠ head)
    (hother : r.memory.miniportFdo entry ≠ device) :
    mshcCleanupLoop left head device (fuel + 1) entry r
      = mshcCleanupLoop left head device fuel (r.memory.links entry).flink
        ⟨r.memory, r.trace ++ [.read entry, .read entry]⟩ := by
  have htrace : r.trace ++ [.read entry, .read entry]
      = r.trace ++ [.read entry] ++ [.read entry] := by
    rw [List.append_assoc]
    rfl
  rw [htrace]
  exact (if_neg hne).trans (if_pos hother)

variable (left) in
/-- **An entry of the miniport** is freed, and then read for its link. -/
theorem mshcCleanupLoop_own (fuel : Nat) (hne : entry ≠ head)
    (hown : r.memory.miniportFdo entry = device) :
    ∃ before, mshcCleanupLoop left head device (fuel + 1) entry r
      = mshcCleanupLoop left head device fuel
        ((((r.remove entry).free left entry).memory.links entry).flink)
        ⟨((r.remove entry).free left entry).memory,
          r.trace ++ before ++ [.free entry, .read entry]⟩
      ∧ freedEntries before = [] := by
  refine ⟨[.read entry, .read entry, .write (r.memory.links entry).blink,
    .write (r.memory.links entry).flink], ?_, rfl⟩
  have htrace : r.trace ++ [.read entry, .read entry, .write (r.memory.links entry).blink,
        .write (r.memory.links entry).flink] ++ [.free entry, .read entry]
      = r.trace ++ [.read entry] ++ [.read entry, .write (r.memory.links entry).blink,
        .write (r.memory.links entry).flink] ++ [.free entry] ++ [.read entry] := by
    simp only [List.append_assoc, List.cons_append, List.nil_append]
  rw [htrace]
  exact (if_neg hne).trans (if_neg (not_not.mpr hown))

/-- The trace only grows. -/
theorem mshcCleanupLoop_trace (fuel : Nat) : ∀ {entry : Nat} {r r' : CleanupRun},
    mshcCleanupLoop left head device fuel entry r = some r' → ∃ rest, r'.trace = r.trace ++ rest := by
  induction fuel with
  | zero => exact fun h => nomatch h
  | succ fuel ih =>
    intro entry r r' h
    by_cases hhead : entry = head
    · subst hhead
      rw [mshcCleanupLoop_head] at h
      exact ⟨[], by rw [Option.some.inj h, List.append_nil]⟩
    · by_cases hown : r.memory.miniportFdo entry = device
      · obtain ⟨before, hstep, -⟩ := mshcCleanupLoop_own left fuel hhead hown
        rw [hstep] at h
        obtain ⟨rest, hrest⟩ := ih h
        exact ⟨_, hrest.trans (by rw [List.append_assoc, List.append_assoc])⟩
      · rw [mshcCleanupLoop_other fuel hhead hown] at h
        obtain ⟨rest, hrest⟩ := ih h
        exact ⟨_, hrest.trans (List.append_assoc _ _ _)⟩

end Steps

/-! ## 4. Whole cleanups

The walk is followed along the list of the entries.  If one of them is the miniport's, the first
such entry is freed and then read for its link; if none is, the walk reads every entry once and
changes nothing. -/

section Runs

variable {left : PlatformMemory → Nat → ListEntry × Nat} {head device : Nat}
  {memory : PlatformMemory} {entries : List Nat}

/-- A trace with a read of a freed entry. -/
theorem not_noReadAfterFree (before rest : List ListEvent) (entry : Nat) :
    ¬ NoReadAfterFree (before ++ [.free entry, .read entry] ++ rest) := by
  intro h
  refine h before entry (.read entry :: rest) ?_ List.mem_cons_self
  rw [List.append_assoc]
  rfl

/-- **An entry of the miniport is read after it was freed**, by the walk from a place of the ring
before it. -/
theorem mshcCleanupLoop_own_of_mem (fuel : Nat) :
    ∀ (walked : List Nat) {rest : List Nat} {trace : List ListEvent} {r : CleanupRun},
      IsRing memory.links head (walked ++ rest) → (∃ e ∈ rest, memory.miniportFdo e = device) →
      mshcCleanupLoop left head device fuel (rest.headD head) ⟨memory, trace⟩ = some r →
      ¬ NoReadAfterFree r.trace := by
  induction fuel with
  | zero => exact fun _ _ _ _ _ _ h => nomatch h
  | succ fuel ih =>
    intro walked rest trace r hring hown hrun
    cases rest with
    | nil =>
      obtain ⟨e, hmem, -⟩ := hown
      exact absurd hmem List.not_mem_nil
    | cons entry rest =>
      have hne : entry ≠ head := hring.ne_head (List.mem_append_right _ List.mem_cons_self)
      rw [List.headD_cons] at hrun
      by_cases hdevice : memory.miniportFdo entry = device
      · obtain ⟨before, hstep, -⟩ :=
          mshcCleanupLoop_own left (r := ⟨memory, trace⟩) fuel hne hdevice
        rw [hstep] at hrun
        obtain ⟨after, hafter⟩ := mshcCleanupLoop_trace fuel hrun
        rw [hafter]
        exact not_noReadAfterFree _ after entry
      · rw [mshcCleanupLoop_other (r := ⟨memory, trace⟩) fuel hne hdevice] at hrun
        rw [hring.flink] at hrun
        refine ih (walked ++ [entry]) (by rwa [List.append_assoc]) ?_ hrun
        obtain ⟨e, hmem, he⟩ := hown
        rcases List.mem_cons.mp hmem with rfl | hmem
        · exact absurd he hdevice
        · exact ⟨e, hmem, he⟩

variable (left) in
/-- **A ring of other miniports** is walked to its end, and only read. -/
theorem mshcCleanupLoop_others :
    ∀ (walked : List Nat) {rest : List Nat} (trace : List ListEvent),
      IsRing memory.links head (walked ++ rest) → (∀ e ∈ rest, memory.miniportFdo e ≠ device) →
      ∃ reads : List Nat, mshcCleanupLoop left head device (rest.length + 1) (rest.headD head)
          ⟨memory, trace⟩ = some ⟨memory, trace ++ reads.map .read⟩ := by
  intro walked rest
  induction rest generalizing walked with
  | nil =>
    intro trace hring hother
    exact ⟨[], by rw [List.headD_nil, mshcCleanupLoop_head, List.map_nil, List.append_nil]⟩
  | cons entry rest ih =>
    intro trace hring hother
    have hne : entry ≠ head := hring.ne_head (List.mem_append_right _ List.mem_cons_self)
    obtain ⟨reads, hrun⟩ := ih (walked ++ [entry])
      (trace ++ [.read entry, .read entry]) (by rwa [List.append_assoc])
      (fun e hmem => hother e (List.mem_cons_of_mem _ hmem))
    refine ⟨entry :: entry :: reads, ?_⟩
    rw [List.headD_cons, List.length_cons,
      mshcCleanupLoop_other (r := ⟨memory, trace⟩) _ hne (hother entry List.mem_cons_self),
      hring.flink, hrun, List.append_assoc]
    rfl

theorem freedEntries_append (t t' : List ListEvent) :
    freedEntries (t ++ t') = freedEntries t ++ freedEntries t' := List.filterMap_append

theorem freedEntries_reads (reads : List Nat) : freedEntries (reads.map .read) = [] := by
  induction reads with
  | nil => rfl
  | cons e reads ih => exact ih

theorem noReadAfterFree_reads (reads : List Nat) : NoReadAfterFree (reads.map .read) := by
  intro before entry after heq
  have hmem : ListEvent.free entry ∈ reads.map ListEvent.read := by
    rw [heq]
    exact List.mem_append_right _ List.mem_cons_self
  obtain ⟨e, -, he⟩ := List.mem_map.mp hmem
  exact nomatch he

/-- The walk of a ring that is not empty. -/
theorem mshcCleanup_cons {entry : Nat} {rest : List Nat} (fuel : Nat)
    (h : IsRing memory.links head (entry :: rest)) :
    mshcCleanup left head device fuel memory
      = mshcCleanupLoop left head device fuel entry ⟨memory, [.read head, .read head]⟩ := by
  have hflink : (memory.links head).flink = entry := h.flink_head
  unfold mshcCleanup
  rw [hflink]
  exact if_neg (h.ne_head List.mem_cons_self)

theorem mshcCleanup_nil (fuel : Nat) (h : IsRing memory.links head []) :
    mshcCleanup left head device fuel memory = some ⟨memory, [.read head]⟩ := by
  unfold mshcCleanup
  exact if_pos h.flink_head

/-- **The cleanup is right exactly for a miniport without an entry**: every entry that it frees is
read for its link.  Entries of other miniports are read only while they are in the ring, and the
first one that is removed is freed before the walk has gone on from it. -/
theorem mshcCleanup_iff (h : IsRing memory.links head entries) :
    CleansUp left head device memory entries
      ↔ ∀ e ∈ entries, memory.miniportFdo e ≠ device := by
  constructor
  · rintro ⟨fuel, r, hrun, -, -, hsafe⟩ e hmem hown
    cases entries with
    | nil => exact absurd hmem List.not_mem_nil
    | cons entry rest =>
      rw [mshcCleanup_cons fuel h] at hrun
      exact mshcCleanupLoop_own_of_mem fuel [] h ⟨e, hmem, hown⟩ hrun hsafe
  · intro hother
    have hkept : entries.filter (fun e => memory.miniportFdo e ≠ device) = entries :=
      List.filter_eq_self.mpr fun e hmem => decide_eq_true (hother e hmem)
    have hnone : entries.filter (fun e => memory.miniportFdo e = device) = [] :=
      List.filter_eq_nil_iff.mpr fun e hmem => by simpa using hother e hmem
    cases entries with
    | nil => exact ⟨0, _, mshcCleanup_nil 0 h, h, rfl, noReadAfterFree_reads [head]⟩
    | cons entry rest =>
      obtain ⟨reads, hrun⟩ := mshcCleanupLoop_others left []
        [.read head, .read head] h hother
      refine ⟨_, _, (mshcCleanup_cons _ h).trans hrun, ?_, ?_, ?_⟩
      · rw [hkept]
        exact h
      · rw [hnone]
        exact freedEntries_reads (head :: head :: reads)
      · exact noReadAfterFree_reads (head :: head :: reads)

/-! ## 5. Freed entries that keep their links

What the cleanup would do if the memory of a freed entry stayed as it was.  It separates the order
of the two accesses, which is wrong, from the walk, which is right. -/

/-- A freed entry holds what it held. -/
def keptEntry (memory : PlatformMemory) (entry : Nat) : ListEntry × Nat :=
  (memory.links entry, memory.miniportFdo entry)

@[simp]
theorem free_keptEntry (r : CleanupRun) (entry : Nat) :
    (r.free keptEntry entry).memory = r.memory := by
  unfold CleanupRun.free keptEntry
  simp

variable (device) in
theorem mshcCleanupLoop_kept :
    ∀ (walked : List Nat) {rest : List Nat} {links : Nat → ListEntry} (miniportFdo : Nat → Nat)
      (trace : List ListEvent), IsRing links head (walked ++ rest) →
      ∃ links' events, mshcCleanupLoop keptEntry head device (rest.length + 1) (rest.headD head)
          ⟨⟨links, miniportFdo⟩, trace⟩ = some ⟨⟨links', miniportFdo⟩, trace ++ events⟩
        ∧ IsRing links' head (walked ++ rest.filter fun e => miniportFdo e ≠ device)
        ∧ freedEntries events = rest.filter (fun e => miniportFdo e = device) := by
  intro walked rest
  induction rest generalizing walked with
  | nil =>
    intro links miniportFdo trace hring
    exact ⟨links, [], by rw [List.headD_nil, mshcCleanupLoop_head, List.append_nil], hring, rfl⟩
  | cons entry rest ih =>
    intro links miniportFdo trace hring
    have hne : entry ≠ head := hring.ne_head (List.mem_append_right _ List.mem_cons_self)
    rw [List.headD_cons, List.length_cons]
    by_cases hown : miniportFdo entry = device
    · obtain ⟨before, hstep, hbefore⟩ := mshcCleanupLoop_own keptEntry
        (r := ⟨⟨links, miniportFdo⟩, trace⟩) (rest.length + 1) hne hown
      have hnext : (removeEntryList links entry entry).flink = rest.headD head := by
        rw [flink_removeEntryList, ite_self, hring.flink]
      obtain ⟨links', events, hrun, hring', hfreed⟩ := ih walked miniportFdo
        (trace ++ before ++ [.free entry, .read entry]) hring.remove
      refine ⟨links', before ++ [.free entry, .read entry] ++ events, ?_, ?_, ?_⟩
      · rw [hstep, free_keptEntry]
        unfold CleanupRun.remove
        dsimp only
        rw [hnext, hrun, List.append_assoc, List.append_assoc, List.append_assoc]
      · rw [List.filter_cons_of_neg (by simpa using hown)]
        exact hring'
      · rw [freedEntries_append, freedEntries_append, hbefore, hfreed,
          List.filter_cons_of_pos (by simpa using hown)]
        rfl
    · obtain ⟨links', events, hrun, hring', hfreed⟩ := ih (walked ++ [entry]) miniportFdo
        (trace ++ [.read entry, .read entry]) (by rwa [List.append_assoc])
      refine ⟨links', [.read entry, .read entry] ++ events, ?_, ?_, ?_⟩
      · rw [mshcCleanupLoop_other (r := ⟨⟨links, miniportFdo⟩, trace⟩) _ hne hown, hring.flink, hrun,
          List.append_assoc]
      · rw [List.filter_cons_of_pos (by simpa using hown)]
        rwa [List.append_assoc] at hring'
      · rw [freedEntries_append, hfreed, List.filter_cons_of_neg (by simpa using hown)]
        rfl

/-- **Where a freed entry keeps its links**, exactly the entries of the miniport are removed and
freed, and the others stay in order. -/
theorem mshcCleanup_of_kept (h : IsRing memory.links head entries) :
    ∃ fuel r, mshcCleanup keptEntry head device fuel memory = some r
      ∧ IsRing r.memory.links head (entries.filter fun e => memory.miniportFdo e ≠ device)
      ∧ freedEntries r.trace = entries.filter (fun e => memory.miniportFdo e = device) := by
  cases entries with
  | nil => exact ⟨0, _, mshcCleanup_nil 0 h, h, rfl⟩
  | cons entry rest =>
    obtain ⟨links', events, hrun, hring, hfreed⟩ := mshcCleanupLoop_kept device []
      memory.miniportFdo [.read head, .read head] h
    refine ⟨_, _, (mshcCleanup_cons _ h).trans hrun, hring, ?_⟩
    rw [freedEntries_append, hfreed]
    rfl

end Runs

/-- A list with one entry, at 1, of the miniport 7. -/
def platformListOfOne : PlatformMemory where
  links a := if a = 0 then ⟨1, 1⟩ else ⟨0, 0⟩
  miniportFdo _ := 7

theorem platformListOfOne_isRing : IsRing platformListOfOne.links 0 [1] := by
  refine ⟨?_, by decide⟩
  rw [List.cons_append, List.nil_append, List.isChain_cons_cons, List.isChain_cons_cons]
  exact ⟨⟨rfl, rfl⟩, ⟨rfl, rfl⟩, List.isChain_singleton 0⟩

/-- The entry of another miniport. -/
theorem mshcCleanup_iff_of_one : CleansUp keptEntry 0 8 platformListOfOne [1]
    ↔ ∀ e ∈ [1], platformListOfOne.miniportFdo e ≠ 8 :=
  mshcCleanup_iff platformListOfOne_isRing

/-- **The only entry of a list** is read after it was freed, even where it keeps its links. -/
theorem cleanup_reads_freed : ¬ CleansUp keptEntry 0 7 platformListOfOne [1] := by
  rintro ⟨fuel, r, hrun, -, -, hsafe⟩
  rw [mshcCleanup_cons fuel platformListOfOne_isRing] at hrun
  exact mshcCleanupLoop_own_of_mem fuel [] platformListOfOne_isRing
    ⟨1, List.mem_cons_self, rfl⟩ hrun hsafe

end WoaRk3576.Sd
