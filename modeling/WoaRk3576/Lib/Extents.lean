/-
# Extents and their pieces

An extent is an address and a length, and stands for the addresses of its bytes.  A controller
takes a list of extents in pieces of a limited length: `chunks` cuts one extent into pieces of
`limit` and a rest, one after another.

`bytes_chunks` says that the pieces are the extent, once and in order; the rest says how long the
pieces are and where they lie.  Addresses are of any type with a `+ 1`, natural numbers or words.
-/
import Mathlib.Algebra.Group.Nat.Even
import Mathlib.Algebra.Order.BigOperators.Group.List
import Mathlib.Data.Nat.Cast.Basic

namespace WoaRk3576.Lib

universe u

/-- An address and a length. -/
@[ext]
structure Extent (A : Type u) where
  address : A
  length : Nat
  deriving DecidableEq

section Extents

variable {A : Type u} [AddMonoidWithOne A]

/-- The addresses of the bytes. -/
def Extent.bytes (e : Extent A) : List A :=
  (List.range e.length).map fun i : Nat => e.address + (i : A)

@[simp]
theorem Extent.length_bytes (e : Extent A) : e.bytes.length = e.length := by
  simp [Extent.bytes]

@[simp]
theorem Extent.bytes_zero (a : A) : (⟨a, 0⟩ : Extent A).bytes = [] := rfl

/-- The first bytes, and the others. -/
theorem Extent.bytes_add (a : A) (m n : Nat) :
    (⟨a, m + n⟩ : Extent A).bytes
      = (⟨a, m⟩ : Extent A).bytes ++ (⟨a + (m : A), n⟩ : Extent A).bytes := by
  unfold Extent.bytes
  dsimp only
  rw [List.range_add, List.map_append, List.map_map]
  congr 1
  refine List.map_congr_left fun i _ => ?_
  rw [Function.comp_apply, Nat.cast_add, add_assoc]

/-- The pieces of `remaining` bytes from `address` on. -/
def chunksFrom (limit : Nat) : Nat → A → Nat → List (Extent A)
  | 0, _, _ => []
  | fuel + 1, address, remaining =>
    if remaining = 0 then []
    else ⟨address, min limit remaining⟩
      :: chunksFrom limit fuel (address + ((min limit remaining : Nat) : A))
        (remaining - min limit remaining)

/-- **The pieces of an extent.** -/
def chunks (limit : Nat) (e : Extent A) : List (Extent A) :=
  chunksFrom limit e.length e.address e.length

theorem chunksFrom_zero (limit fuel : Nat) (address : A) : chunksFrom limit fuel address 0 = [] := by
  cases fuel with
  | zero => rfl
  | succ fuel => rw [chunksFrom, if_pos rfl]

/-- What holds of the pieces: an induction over them, from what a piece does to the rest. -/
theorem chunksFrom_forall {limit : Nat} {P : Extent A → Prop} {I : A → Nat → Prop}
    (hstep : ∀ address remaining, remaining ≠ 0 → I address remaining →
      P ⟨address, min limit remaining⟩
        ∧ I (address + ((min limit remaining : Nat) : A)) (remaining - min limit remaining))
    (fuel : Nat) : ∀ address remaining, I address remaining →
      ∀ c ∈ chunksFrom limit fuel address remaining, P c := by
  induction fuel with
  | zero => exact fun _ _ _ c hc => absurd hc List.not_mem_nil
  | succ fuel ih =>
    intro address remaining hI c hc
    rw [chunksFrom] at hc
    split at hc
    · exact absurd hc List.not_mem_nil
    · rename_i hne
      obtain ⟨hpiece, hrest⟩ := hstep address remaining hne hI
      rcases List.mem_cons.mp hc with rfl | hc
      · exact hpiece
      · exact ih _ _ hrest c hc

variable {limit : Nat} (hlimit : 0 < limit)

include hlimit in
theorem bytes_chunksFrom (fuel : Nat) : ∀ (address : A) (remaining : Nat), remaining ≤ fuel →
    (chunksFrom limit fuel address remaining).flatMap Extent.bytes
      = (⟨address, remaining⟩ : Extent A).bytes := by
  induction fuel with
  | zero =>
    intro address remaining hle
    rw [Nat.le_zero.mp hle]
    rfl
  | succ fuel ih =>
    intro address remaining hle
    rw [chunksFrom]
    split
    · rename_i hzero
      rw [hzero]
      rfl
    · have hrest := ih (address + ((min limit remaining : Nat) : A))
        (remaining - min limit remaining) (by omega)
      have hsplit := Extent.bytes_add address (min limit remaining)
        (remaining - min limit remaining)
      rw [Nat.add_sub_cancel' (Nat.min_le_right limit remaining)] at hsplit
      rw [List.flatMap_cons, hrest, hsplit]

include hlimit in
/-- **The pieces of an extent are its bytes**, once and in order. -/
theorem bytes_chunks (e : Extent A) : (chunks limit e).flatMap Extent.bytes = e.bytes :=
  bytes_chunksFrom hlimit e.length e.address e.length (Nat.le_refl _)

include hlimit in
theorem chunks_length {e c : Extent A} (hc : c ∈ chunks limit e) :
    1 ≤ c.length ∧ c.length ≤ limit := by
  refine chunksFrom_forall (P := fun c => 1 ≤ c.length ∧ c.length ≤ limit) (I := fun _ _ => True)
    (fun _ remaining hne _ => ⟨?_, trivial⟩) e.length e.address e.length trivial c hc
  dsimp only
  omega

/-- The pieces keep the alignment of the limit and the length. -/
theorem chunks_dvd {n : Nat} (hlimit : n ∣ limit) {e c : Extent A} (he : n ∣ e.length)
    (hc : c ∈ chunks limit e) : n ∣ c.length := by
  refine chunksFrom_forall (P := fun c => n ∣ c.length) (I := fun _ remaining => n ∣ remaining)
    (fun _ remaining _ hrest => ?_) e.length e.address e.length he c hc
  have hmin : n ∣ min limit remaining := by
    rcases Nat.le_total limit remaining with hle | hle
    · rw [Nat.min_eq_left hle]
      exact hlimit
    · rw [Nat.min_eq_right hle]
      exact hrest
  exact ⟨hmin, Nat.dvd_sub hrest hmin⟩

include hlimit in
/-- An extent that is not empty has a piece. -/
theorem chunks_ne_nil {e : Extent A} (he : e.length ≠ 0) : chunks limit e ≠ [] := by
  intro hnil
  have hbytes := bytes_chunks hlimit e
  rw [hnil, List.flatMap_nil] at hbytes
  exact he (by rw [← e.length_bytes, ← hbytes, List.length_nil])

/-- The lengths of the bytes of a list. -/
theorem length_flatMap_bytes (es : List (Extent A)) :
    (es.flatMap Extent.bytes).length = (es.map Extent.length).sum := by
  rw [List.length_flatMap]
  simp only [Extent.length_bytes]

include hlimit in
/-- The pieces of a list are as long as the list. -/
theorem sum_length_chunks (es : List (Extent A)) :
    ((es.flatMap (chunks limit)).map Extent.length).sum = (es.map Extent.length).sum := by
  rw [← length_flatMap_bytes, ← length_flatMap_bytes, List.flatMap_assoc]
  simp only [bytes_chunks hlimit]

end Extents

end WoaRk3576.Lib
