/-
# Scatter-gather lists, in pieces

Both controllers take the elements of a scatter-gather list in descriptors of a limited length, and
both drivers write them with the same two loops: over the elements, and over what is left of an
element.  `writeElements` are these loops, with what is written for a piece as a parameter.

`writeElements_eq` says that they write the pieces of the elements, one after another.  The inner
loop takes the limit or what is left, and so it takes the pieces of `Lib/Extents.lean`; the outer
one knows from the number of the elements that are left whether something is to be done behind this
one.  What a driver writes for a piece is then all that its own module is about.

The bytes of the pieces are those of the list, once and in order (`bytes_pieces`), also for a list
with empty elements, which have no piece.
-/
import Mathlib.Data.BitVec
import WoaRk3576.Lib.Extents
import WoaRk3576.Lib.Loop

namespace WoaRk3576.Sd

open WoaRk3576.Lib

universe u

variable {σ : Type u}

/-- `SCATTER_GATHER_ELEMENT`. -/
structure SglistElement where
  address : BitVec 64
  length : BitVec 32
  deriving DecidableEq

/-- What an element stands for. -/
def SglistElement.extent (e : SglistElement) : Extent (BitVec 64) := ⟨e.address, e.length.toNat⟩

/-- `NextAddress`, `RemainingLength`, and what was written. -/
structure PieceState (σ : Type u) where
  nextAddress : BitVec 64
  remainingLength : Nat
  table : σ

/-- An iteration of the inner loop. -/
def pieceStep (limit : Nat) (write : σ → BitVec 64 → Nat → σ) (s : PieceState σ) :
    Option (PieceState σ) :=
  if s.remainingLength > 0 then
    let nextLength := min limit s.remainingLength
    some {
      nextAddress := s.nextAddress + BitVec.ofNat 64 nextLength
      remainingLength := s.remainingLength - nextLength
      table := write s.table s.nextAddress nextLength }
  else none

/-- The inner loop. -/
def writePieces (limit : Nat) (write : σ → BitVec 64 → Nat → σ) (table : σ) (e : SglistElement) :
    σ :=
  (loop (pieceStep limit write) e.length.toNat ⟨e.address, e.length.toNat, table⟩).table

/-- **The outer loop.**  `after` is what is done behind an element, by the number of those that are
left. -/
def writeElements (limit : Nat) (write : σ → BitVec 64 → Nat → σ) (after : Nat → σ → σ) :
    σ → List SglistElement → σ
  | table, [] => table
  | table, e :: es =>
    writeElements limit write after (after es.length (writePieces limit write table e)) es

/-- The pieces of a list. -/
def pieces (limit : Nat) (elements : List SglistElement) : List (Extent (BitVec 64)) :=
  (elements.map SglistElement.extent).flatMap (chunks limit)

/-- What is written for a list of pieces. -/
def writeAll (write : σ → BitVec 64 → Nat → σ) (table : σ) (cs : List (Extent (BitVec 64))) : σ :=
  cs.foldl (fun table c => write table c.address c.length) table

theorem pieceStep_of_pos (limit : Nat) (write : σ → BitVec 64 → Nat → σ) (address : BitVec 64)
    {remaining : Nat} (hpos : 0 < remaining) (table : σ) :
    pieceStep limit write ⟨address, remaining, table⟩
      = some ⟨address + BitVec.ofNat 64 (min limit remaining), remaining - min limit remaining,
          write table address (min limit remaining)⟩ := if_pos hpos

section Pieces

variable {limit : Nat} (hlimit : 0 < limit) (write : σ → BitVec 64 → Nat → σ)

include hlimit

theorem writePieces_loop (fuel : Nat) : ∀ (address : BitVec 64) (remaining : Nat) (table : σ),
    remaining ≤ fuel →
      (loop (pieceStep limit write) fuel ⟨address, remaining, table⟩).table
        = writeAll write table (chunksFrom limit fuel address remaining) := by
  induction fuel with
  | zero => exact fun _ _ _ _ => rfl
  | succ fuel ih =>
    intro address remaining table hle
    rcases Nat.eq_zero_or_pos remaining with rfl | hpos
    · rw [loop_none rfl, chunksFrom_zero]
      rfl
    · rw [loop_some (pieceStep_of_pos limit write address hpos table), ih _ _ _ (by omega),
        chunksFrom, if_neg hpos.ne']
      rfl

/-- **The inner loop writes the pieces of the element.** -/
theorem writePieces_eq (table : σ) (e : SglistElement) :
    writePieces limit write table e = writeAll write table (chunks limit e.extent) :=
  writePieces_loop hlimit write e.length.toNat e.address e.length.toNat table (Nat.le_refl _)

/-- **The loops write the pieces of the list**, and do what is done behind the last element. -/
theorem writeElements_eq {after : Nat → σ → σ} (hafter : ∀ n table, after (n + 1) table = table)
    (es : List SglistElement) : ∀ (e : SglistElement) (table : σ),
      writeElements limit write after table (e :: es)
        = after 0 (writeAll write table (pieces limit (e :: es))) := by
  induction es with
  | nil =>
    intro e table
    rw [writeElements, writePieces_eq hlimit]
    simp [writeElements, pieces]
  | cons e' es ih =>
    intro e table
    rw [writeElements, List.length_cons, hafter, ih, writePieces_eq hlimit]
    simp [writeAll, pieces]

end Pieces

/-! ## The pieces of a list

Cutting an extent keeps its bytes and their order (`Lib/Extents.lean`), so the pieces of all
elements, one behind the other, are the bytes of the list. -/

section PieceList

variable {limit : Nat}

theorem mem_pieces {elements : List SglistElement} {c : Extent (BitVec 64)} :
    c ∈ pieces limit elements ↔ ∃ e ∈ elements, c ∈ chunks limit e.extent := by
  simp [pieces, List.mem_flatMap]

/-- A table that is read entry by entry. -/
theorem map_range_eq {α : Type*} {entry : Nat → α} {entries : List α} {count : Nat}
    (hcount : count = entries.length) (hentry : ∀ i (h : i < entries.length), entry i = entries[i]) :
    (List.range count).map entry = entries := by
  refine List.ext_getElem (by simp [hcount]) fun i h h' => ?_
  rw [List.getElem_map, List.getElem_range]
  exact hentry i h'

variable (hlimit : 0 < limit)

include hlimit

/-- **The pieces of a list are its bytes**, once and in order. -/
theorem bytes_pieces (elements : List SglistElement) :
    (pieces limit elements).flatMap Extent.bytes
      = (elements.map SglistElement.extent).flatMap Extent.bytes := by
  rw [pieces, List.flatMap_assoc]
  simp only [bytes_chunks hlimit]

/-- The pieces of a list are as long as it is. -/
theorem sum_length_pieces (elements : List SglistElement) :
    ((pieces limit elements).map Extent.length).sum
      = (elements.map fun e => e.length.toNat).sum := by
  rw [pieces, sum_length_chunks hlimit, List.map_map]
  rfl

theorem pieces_ne_nil {elements : List SglistElement} (hne : elements ≠ [])
    (hlength : ∀ e ∈ elements, e.length ≠ 0) : pieces limit elements ≠ [] := by
  obtain ⟨e, es, rfl⟩ := List.exists_cons_of_ne_nil hne
  have he : e.length.toNat ≠ 0 := fun hzero =>
    hlength e List.mem_cons_self (BitVec.eq_of_toNat_eq hzero)
  intro hnil
  exact chunks_ne_nil hlimit he (List.append_eq_nil_iff.mp hnil).1

end PieceList

/-! ## Addresses

Addresses are 64-bit words, and a table may hold 32 bits of them. -/

/-- The pieces of an element lie where it does. -/
theorem chunks_below {limit bound : Nat} (hbound : bound < 2 ^ 64) {e : SglistElement}
    (he : e.address.toNat + e.length.toNat ≤ bound) {c : Extent (BitVec 64)}
    (hc : c ∈ chunks limit e.extent) : c.address.toNat + c.length ≤ bound := by
  refine chunksFrom_forall (P := fun c => c.address.toNat + c.length ≤ bound)
    (I := fun address remaining => address.toNat + remaining ≤ bound)
    (fun address remaining _ hrest => ?_) _ _ _ he c hc
  have hmin : min limit remaining ≤ remaining := Nat.min_le_right _ _
  have hnext : (address + ((min limit remaining : Nat) : BitVec 64)).toNat
      = address.toNat + min limit remaining := by
    rw [BitVec.toNat_add, BitVec.natCast_eq_ofNat, BitVec.toNat_ofNat]
    omega
  dsimp only
  rw [hnext]
  omega

/-- An address below 4 GiB is its low part. -/
theorem lowPart_address {address : BitVec 64} (h : address.toNat < 2 ^ 32) :
    (address.setWidth 32).setWidth 64 = address := by
  refine BitVec.eq_of_toNat_eq ?_
  rw [BitVec.toNat_setWidth, BitVec.toNat_setWidth]
  omega

end WoaRk3576.Sd
