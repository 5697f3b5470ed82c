/-
# The copies of a sequence and the memory they are to stay in

`Rk3xSpiMapTransfer` maps the first MDL of a segment and returns the length of the whole transfer;
`Rk3xSpiEvtIoSequence` adds the lengths up in a `ULONG` and copies each segment with its own
length.  So a copy can run behind the first MDL of a chain, and when the sum has wrapped it can run
behind the buffers that were allocated with it.

`sequence_inBounds_iff` is the result: whatever can be mapped and allocated and however the
transfer ends, all copies stay in bounds exactly when the sum is zero, which is rejected, or the
sum does not wrap and no segment is longer than its first MDL.

Both loops copy the windows of the segments, one behind the other, up to the first segment that
cannot be mapped (`copySegments_mapTransfer` and `scatterSegments_mapTransfer`, by induction over
the segments).  In the best case all of them are copied, and every other outcome copies some of the
same windows; so "in bounds whatever happens" is that each window is in bounds
(`alwaysInBounds_iff_windows`).  One side of a window is the segment's memory, which gives the
bound of the first MDL.  The other is a buffer of the sum: if all windows lie in a buffer as long
as their sum modulo `2 ^ 32`, then the last one does, and the sum has not wrapped
(`copyLength_of_windows`).
-/
import WoaRk3576.Lib.Access
import WoaRk3576.Spi.Sequence

namespace WoaRk3576.Spi

open WoaRk3576.Lib

/-! ## 1. The copies

Here the data are left out and the chain of MDLs is put in: a transfer describes the bytes of its
whole chain, but only the first MDL is mapped.  Each call of `RtlCopyMemory` becomes a window of
the segment and one of the buffer, and in bounds means both. -/

/-- A transfer of a sequence with its chain of MDLs: where the first one is mapped, how many
bytes it describes, and how many each of the others does.  The chain describes the transfer. -/
structure MdlSegment where
  base : Nat
  first : Nat
  rest : List Nat
  transferLength : Nat
  toDevice : Bool
  covers : first + rest.sum = transferLength
  deriving DecidableEq

def MdlSegment.length (seg : MdlSegment) : Nat := ulong seg.transferLength

/-- A segment, and whether `MmGetSystemAddressForMdlSafe` can map it. -/
abbrev Mapping := MdlSegment × Bool

/-- What `Rk3xSpiMapTransfer` finds. -/
def mapTransfer (mapping : Mapping) : SequenceSegment :=
  ⟨if mapping.2 then some mapping.1.base else none, mapping.1.transferLength, mapping.1.toDevice⟩

/-- A call of `RtlCopyMemory`, between a segment and the window at `offset`. -/
structure SequenceCopy where
  segment : MdlSegment
  offset : Nat

/-- The copies of the first walk: it ends at a segment that is not mapped. -/
def gatherCopies : List Mapping → Nat → List SequenceCopy
  | [], _ => []
  | mapping :: mappings, offset =>
    if mapping.2 then
      (if mapping.1.toDevice then [⟨mapping.1, offset⟩] else [])
        ++ gatherCopies mappings (ulong (offset + mapping.1.length))
    else []

/-- The copies of the second walk: a segment that is not mapped is skipped. -/
def scatterCopies : List Mapping → Nat → List SequenceCopy
  | [], _ => []
  | mapping :: mappings, offset =>
    (if mapping.2 && !mapping.1.toDevice then [⟨mapping.1, offset⟩] else [])
      ++ scatterCopies mappings (ulong (offset + mapping.1.length))

/-- The loop that sums the lengths. -/
def addMdlLengths (total : Nat) (segs : List MdlSegment) : Nat :=
  segs.foldl (fun total seg => ulong (total + seg.length)) total

def mdlTotal (segs : List MdlSegment) : Nat := addMdlLengths 0 segs

/-- What is outside of the routine: what can be allocated, and whether the transfer succeeds. -/
structure SequenceOutcome where
  txAllocated : Bool
  rxAllocated : Bool
  transferred : Bool

/-- **The copies of `Rk3xSpiEvtIoSequence`.** -/
def sequenceCopies (mappings : List Mapping) (o : SequenceOutcome) : List SequenceCopy :=
  if mdlTotal (mappings.map Prod.fst) = 0 then []
  else if o.txAllocated && o.rxAllocated then
    gatherCopies mappings 0
      ++ (if mappings.all Prod.snd && o.transferred then scatterCopies mappings 0 else [])
  else []

/-- The bytes of a copy: in the segment's first MDL, which is what is mapped, and in a buffer of
`total` bytes. -/
def SequenceCopy.accesses (total : Nat) (c : SequenceCopy) : List Access :=
  [⟨⟨c.segment.base, c.segment.length⟩, [⟨c.segment.base, c.segment.first⟩]⟩,
    ⟨⟨c.offset, c.segment.length⟩, [⟨0, total⟩]⟩]

/-- **Every byte that the routine copies is in bounds.** -/
def SequenceInBounds (mappings : List Mapping) (o : SequenceOutcome) : Prop :=
  ∀ c ∈ sequenceCopies mappings o,
    AllInBounds (c.accesses (mdlTotal (mappings.map Prod.fst)))

/-- The routine stays in bounds with these segments, whatever can be mapped and allocated and
however the transfer ends. -/
def AlwaysInBounds (segs : List MdlSegment) : Prop :=
  ∀ mappings : List Mapping, mappings.map Prod.fst = segs →
    ∀ o, SequenceInBounds mappings o

/-! ## 2. The copies are those of the routine

The copies are not a second model of the routine: its two loops, on what `Rk3xSpiMapTransfer`
finds, are a fold over them, and the sum of the lengths is the one it allocates with. -/

section Copies

variable {m : Memory}

theorem addLengths_mapTransfer : ∀ (mappings : List Mapping) (total : Nat),
    addLengths total ((mappings.map mapTransfer).map (·.view m))
      = addMdlLengths total (mappings.map Prod.fst)
  | [], _ => rfl
  | _ :: mappings, _ => addLengths_mapTransfer mappings _

/-- The sum is the one that the request is allocated with. -/
theorem sequenceTotal_mapTransfer (mappings : List Mapping) :
    sequenceTotal ((mappings.map mapTransfer).map (·.view m)) = mdlTotal (mappings.map Prod.fst) :=
  addLengths_mapTransfer mappings 0

/-- A copy into `txBuf`. -/
def SequenceCopy.gather (m : Memory) (txBuf : Memory) (c : SequenceCopy) : Memory :=
  store txBuf c.offset (load m c.segment.base c.segment.length)

/-- A copy out of `rxBuf`. -/
def SequenceCopy.scatter (rxBuf : Memory) (m : Memory) (c : SequenceCopy) : Memory :=
  store m c.segment.base (load rxBuf c.offset c.segment.length)

theorem store_load_eq (m txBuf : Memory) (a offset n : Nat) :
    store txBuf offset (load m a n)
      = fun k => if offset ≤ k ∧ k < offset + n then m (a + (k - offset)) else txBuf k := by
  funext k
  by_cases hk : offset ≤ k ∧ k < offset + n
  · obtain ⟨i, rfl⟩ := Nat.exists_eq_add_of_le hk.1
    have hi : i < (load m a n).length := by
      rw [length_load]
      omega
    rw [if_pos hk, store_of_lt txBuf offset hi, getElem_load, Nat.add_sub_cancel_left]
  · rw [if_neg hk, store_of_apart txBuf (by rw [length_load]; omega)]

/-- **The copy loop makes these copies**, and comes to its end if everything is mapped. -/
theorem copySegments_mapTransfer : ∀ (mappings : List Mapping) (offset : Nat) (txBuf : Memory),
    copySegments ((mappings.map mapTransfer).map (·.view m)) offset txBuf
      = if mappings.all Prod.snd then
          some ((gatherCopies mappings offset).foldl (SequenceCopy.gather m) txBuf)
        else none
  | [], _, _ => rfl
  | ⟨seg, false⟩ :: mappings, offset, txBuf => rfl
  | ⟨seg, true⟩ :: mappings, offset, txBuf => by
    have ih := copySegments_mapTransfer mappings (ulong (offset + seg.length))
    cases hdevice : seg.toDevice with
    | false =>
      have hstep := ih txBuf
      simp only [List.map_cons, List.all_cons, Bool.true_and, gatherCopies, hdevice, if_true,
        Bool.false_eq_true, if_false, List.nil_append]
      rw [← hstep]
      simp [copySegments, mapTransfer, SequenceSegment.view, hdevice, MdlSegment.length,
        SpbSegment.length]
    | true =>
      have hstep := ih (store txBuf offset (load m seg.base seg.length))
      simp only [List.map_cons, List.all_cons, Bool.true_and, gatherCopies, hdevice, if_true,
        List.singleton_append, List.foldl_cons, SequenceCopy.gather]
      rw [← hstep, store_load_eq]
      simp only [copySegments, mapTransfer, SequenceSegment.view, hdevice, if_true,
        Option.map_some]
      rfl

/-- **The scatter loop makes these copies.** -/
theorem scatterSegments_mapTransfer (rxBuf : Memory) : ∀ (mappings : List Mapping)
    (offset : Nat) (m : Memory),
    scatterSegments (mappings.map mapTransfer) offset rxBuf m
      = (scatterCopies mappings offset).foldl (SequenceCopy.scatter rxBuf) m
  | [], _, _ => rfl
  | ⟨seg, mapped⟩ :: mappings, offset, m => by
    have ih := scatterSegments_mapTransfer rxBuf mappings (ulong (offset + seg.length))
    rw [List.map_cons, scatterSegments, scatterCopies, List.foldl_append, ← ih]
    cases mapped with
    | false => rfl
    | true => cases hdevice : seg.toDevice <;> simp [mapTransfer, hdevice] <;> rfl

end Copies

/-! ## 3. The windows of the segments

Which copies are made depends on what can be mapped and allocated and on how the transfer ends.  In
the best case all of them are made, so always being in bounds is a property of the windows alone. -/

/-- Every segment with the offset that both walks count for it. -/
def windows : List MdlSegment → Nat → List SequenceCopy
  | [], _ => []
  | seg :: segs, offset => ⟨seg, offset⟩ :: windows segs (ulong (offset + seg.length))

theorem gatherCopies_subset : ∀ (mappings : List Mapping) (offset : Nat),
    gatherCopies mappings offset ⊆ windows (mappings.map Prod.fst) offset
  | [], _ => List.Subset.refl _
  | ⟨seg, mapped⟩ :: mappings, offset => by
    have ih := gatherCopies_subset mappings (ulong (offset + seg.length))
    intro c hc
    rw [gatherCopies] at hc
    rw [List.map_cons, windows]
    split at hc
    · rcases List.mem_append.1 hc with hc | hc
      · split at hc
        · exact List.mem_cons.2 (.inl (List.mem_singleton.1 hc))
        · cases hc
      · exact List.mem_cons_of_mem _ (ih hc)
    · cases hc

theorem scatterCopies_subset : ∀ (mappings : List Mapping) (offset : Nat),
    scatterCopies mappings offset ⊆ windows (mappings.map Prod.fst) offset
  | [], _ => List.Subset.refl _
  | ⟨seg, mapped⟩ :: mappings, offset => by
    have ih := scatterCopies_subset mappings (ulong (offset + seg.length))
    intro c hc
    rw [scatterCopies] at hc
    rw [List.map_cons, windows]
    rcases List.mem_append.1 hc with hc | hc
    · split at hc
      · exact List.mem_cons.2 (.inl (List.mem_singleton.1 hc))
      · cases hc
    · exact List.mem_cons_of_mem _ (ih hc)

/-- A copy of the routine is the window of a segment. -/
theorem sequenceCopies_subset (mappings : List Mapping) (o : SequenceOutcome) :
    sequenceCopies mappings o ⊆ windows (mappings.map Prod.fst) 0 := by
  intro c hc
  unfold sequenceCopies at hc
  split at hc
  · cases hc
  · split at hc
    · rcases List.mem_append.1 hc with hc | hc
      · exact gatherCopies_subset mappings 0 hc
      · split at hc
        · exact scatterCopies_subset mappings 0 hc
        · cases hc
    · cases hc

/-- Every segment is mapped. -/
def mapAll (segs : List MdlSegment) : List Mapping := segs.map (·, true)

@[simp]
theorem mapAll_fst (segs : List MdlSegment) : (mapAll segs).map Prod.fst = segs := by
  simp [mapAll, Function.comp_def]

/-- When everything is mapped, one of the walks copies the window of a segment. -/
theorem mem_walks : ∀ (segs : List MdlSegment) (offset : Nat) {c : SequenceCopy},
    c ∈ windows segs offset →
      c ∈ gatherCopies (mapAll segs) offset ∨ c ∈ scatterCopies (mapAll segs) offset
  | [], _, _, hc => nomatch hc
  | seg :: segs, offset, c, hc => by
    have ih := mem_walks segs (ulong (offset + seg.length)) (c := c)
    simp only [mapAll, List.map_cons, gatherCopies, scatterCopies, if_true, Bool.true_and,
      List.mem_append]
    rcases List.mem_cons.1 hc with rfl | hc
    · cases hdevice : seg.toDevice with
      | true => exact .inl (.inl (by simp))
      | false => exact .inr (.inl (by simp))
    · exact (ih hc).imp .inr .inr

/-- **In the best case the routine copies the windows of all segments.** -/
theorem mem_sequenceCopies {segs : List MdlSegment} {c : SequenceCopy}
    (htotal : mdlTotal segs ≠ 0) (hc : c ∈ windows segs 0) :
    c ∈ sequenceCopies (mapAll segs) ⟨true, true, true⟩ := by
  have hall : (mapAll segs).all Prod.snd = true := by
    simp [mapAll]
  unfold sequenceCopies
  rw [mapAll_fst, if_neg htotal, hall]
  exact List.mem_append.2 (mem_walks segs 0 hc)

/-- A copy stays in bounds when the segment is no longer than its first MDL and the window lies
in the buffer; a copy of no bytes always does. -/
theorem accesses_inBounds_iff {total : Nat} {c : SequenceCopy} :
    AllInBounds (c.accesses total)
      ↔ c.segment.length ≤ c.segment.first
        ∧ (c.segment.length = 0 ∨ c.offset + c.segment.length ≤ total) := by
  unfold SequenceCopy.accesses
  rw [allInBounds_cons, allInBounds_cons, inBounds_one, inBounds_one, Extent.bytes_subset_iff,
    Extent.bytes_subset_iff]
  simp only [allInBounds_nil, and_true]
  omega

/-- **What always being in bounds means**, when the sum is not zero. -/
theorem alwaysInBounds_iff_windows {segs : List MdlSegment} (htotal : mdlTotal segs ≠ 0) :
    AlwaysInBounds segs ↔ ∀ c ∈ windows segs 0, AllInBounds (c.accesses (mdlTotal segs)) := by
  constructor
  · intro h c hc
    have hbest := h (mapAll segs) (mapAll_fst segs) ⟨true, true, true⟩ c
      (mem_sequenceCopies htotal hc)
    rwa [mapAll_fst] at hbest
  · rintro h mappings rfl o c hc
    exact h c (sequenceCopies_subset mappings o hc)

/-! ## 4. When the windows lie in the buffers

A buffer has the sum of the lengths modulo 2 ^ 32.  If the sum has wrapped, the window of some
segment ends behind it, since the offsets grow to the true sum before they wrap; so the windows lie
in the buffers only if the sum fits, or if it is 0 and the request is rejected. -/

/-- The lengths of the copies together. -/
def copyLength (segs : List MdlSegment) : Nat := (segs.map MdlSegment.length).sum

@[simp]
theorem copyLength_cons (seg : MdlSegment) (segs : List MdlSegment) :
    copyLength (seg :: segs) = seg.length + copyLength segs := by
  simp [copyLength]

/-- The sum of the loop is that of the lengths, modulo 2^32. -/
theorem addMdlLengths_eq : ∀ (segs : List MdlSegment) (total : Nat), total < 4294967296 →
    addMdlLengths total segs = (total + copyLength segs) % 4294967296
  | [], total, h => (Nat.mod_eq_of_lt h).symm
  | seg :: segs, total, _ => by
    have ih := addMdlLengths_eq segs (ulong (total + seg.length)) (ulong_lt _)
    calc addMdlLengths total (seg :: segs)
        = addMdlLengths (ulong (total + seg.length)) segs := rfl
      _ = (total + copyLength (seg :: segs)) % 4294967296 := by
        rw [ih, ulong, Nat.mod_add_mod, copyLength_cons, Nat.add_assoc]

theorem mdlTotal_eq (segs : List MdlSegment) :
    mdlTotal segs = copyLength segs % 4294967296 := by
  have htotal := addMdlLengths_eq segs 0 (by decide)
  rwa [Nat.zero_add] at htotal

/-- Without a wrap every window ends where the next begins. -/
theorem windows_le : ∀ (segs : List MdlSegment) (offset : Nat),
    offset + copyLength segs < 4294967296 →
      ∀ c ∈ windows segs offset, c.offset + c.segment.length ≤ offset + copyLength segs
  | [], _, _, _, hc => nomatch hc
  | seg :: segs, offset, hlt, c, hc => by
    rw [copyLength_cons] at hlt ⊢
    have hnext : ulong (offset + seg.length) = offset + seg.length :=
      Nat.mod_eq_of_lt (by omega)
    rw [windows, hnext] at hc
    rcases List.mem_cons.1 hc with rfl | hc
    · dsimp only
      omega
    · have ih := windows_le segs _ (by omega) c hc
      omega

/-- **When all windows lie in a buffer of the sum, the sum has not wrapped.** -/
theorem copyLength_of_windows : ∀ (segs : List MdlSegment) (offset : Nat), offset < 4294967296 →
    (∀ c ∈ windows segs offset, c.segment.length = 0
      ∨ c.offset + c.segment.length ≤ addMdlLengths offset segs) →
    offset + copyLength segs = addMdlLengths offset segs
  | [], _, _, _ => rfl
  | seg :: segs, offset, hoffset, h => by
    have hfirst := h ⟨seg, offset⟩ List.mem_cons_self
    have hlt : addMdlLengths offset (seg :: segs) < 4294967296 := by
      rw [addMdlLengths_eq _ offset hoffset]
      exact Nat.mod_lt _ (by decide)
    have hnext : ulong (offset + seg.length) = offset + seg.length := by
      refine Nat.mod_eq_of_lt ?_
      dsimp only at hfirst
      omega
    have hrest : addMdlLengths offset (seg :: segs) = addMdlLengths (offset + seg.length) segs := by
      rw [← hnext]
      rfl
    have ih := copyLength_of_windows segs (offset + seg.length) (hnext ▸ ulong_lt _) (by
      intro c hc
      rw [← hrest]
      refine h c (List.mem_cons_of_mem _ ?_)
      rwa [hnext])
    rw [copyLength_cons, hrest, ← ih, Nat.add_assoc]

theorem forall_windows : ∀ (segs : List MdlSegment) (offset : Nat) {p : MdlSegment → Prop},
    (∀ c ∈ windows segs offset, p c.segment) ↔ ∀ seg ∈ segs, p seg
  | [], _, _ => by simp [windows]
  | seg :: segs, offset, p => by
    rw [windows, List.forall_mem_cons, List.forall_mem_cons, forall_windows segs]

/-- **The segments fit**: their lengths add up to a multiple of 2^32, which is rejected, or to
less than 2^32 and none is longer than its first MDL.  Each length counts modulo 2^32. -/
def SegmentsFit (segs : List MdlSegment) : Prop :=
  (segs.map MdlSegment.transferLength).sum % 4294967296 = 0
    ∨ ((segs.map (·.transferLength % 4294967296)).sum < 4294967296
      ∧ ∀ seg ∈ segs, seg.transferLength % 4294967296 ≤ seg.first)

theorem transferLengths_mod : ∀ segs : List MdlSegment,
    (segs.map MdlSegment.transferLength).sum % 4294967296 = copyLength segs % 4294967296
  | [] => rfl
  | seg :: segs => by
    rw [List.map_cons, List.sum_cons, copyLength_cons, Nat.add_mod, transferLengths_mod segs,
      ← Nat.add_mod, MdlSegment.length, ulong, Nat.mod_add_mod]

/-- **The copies of a sequence always stay in bounds exactly when its segments fit.** In the best
case all segments are copied, so the question is about their windows: each has to lie in the first
MDL, and in a buffer of the sum, which a sum that has wrapped cannot hold.  A sum of 0 is refused
before. -/
theorem sequence_inBounds_iff (segs : List MdlSegment) :
    AlwaysInBounds segs ↔ SegmentsFit segs := by
  have hsum : (segs.map (·.transferLength % 4294967296)).sum = copyLength segs := rfl
  unfold SegmentsFit
  rw [transferLengths_mod, ← mdlTotal_eq, hsum]
  by_cases htotal : mdlTotal segs = 0
  · refine iff_of_true ?_ (.inl htotal)
    rintro mappings rfl o c hc
    rw [sequenceCopies, if_pos htotal] at hc
    cases hc
  · rw [alwaysInBounds_iff_windows htotal, or_iff_right htotal]
    simp only [accesses_inBounds_iff]
    constructor
    · intro h
      have hwhole := copyLength_of_windows segs 0 (by decide) fun c hc => (h c hc).2
      refine ⟨?_, (forall_windows segs 0).1 fun c hc => (h c hc).1⟩
      have hlt : mdlTotal segs < 4294967296 := by
        rw [mdlTotal_eq]
        exact Nat.mod_lt _ (by decide)
      have hmdl : mdlTotal segs = addMdlLengths 0 segs := rfl
      omega
    · rintro ⟨hlt, hfirst⟩ c hc
      have hmdl : mdlTotal segs = copyLength segs := by
        rw [mdlTotal_eq, Nat.mod_eq_of_lt hlt]
      have hle := windows_le segs 0 (by omega) c hc
      refine ⟨(forall_windows segs 0).2 hfirst c hc, .inr ?_⟩
      omega

/-- Eight bytes in two MDLs; and two segments of 2 GiB with one of a byte behind them, each
mapped as a whole. -/
theorem sequence_out_of_bounds :
    ¬ AlwaysInBounds [⟨4096, 4, [4], 8, true, rfl⟩]
      ∧ ¬ AlwaysInBounds [⟨0, 2147483648, [], 2147483648, true, rfl⟩,
        ⟨4294967296, 2147483648, [], 2147483648, true, rfl⟩, ⟨8589934592, 1, [], 1, true, rfl⟩] := by
  constructor
  · rw [alwaysInBounds_iff_windows (by decide)]
    intro h
    have hfirst := accesses_inBounds_iff.1 (h _ List.mem_cons_self)
    exact absurd hfirst.1 (by decide)
  · rw [alwaysInBounds_iff_windows (by decide)]
    intro h
    have hfirst := accesses_inBounds_iff.1 (h _ List.mem_cons_self)
    exact absurd hfirst.2 (by decide)

end WoaRk3576.Spi
