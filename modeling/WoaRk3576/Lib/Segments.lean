/-
# A sequence in segments

What is one sequence to its reader may lie in a chain of segments.  A chain is the list of the
segments' lengths, and `memory k j` is the element `j` of segment `k`; `gather` is the sequence, and
`locate` finds the segment and the offset of an element by walking along the chain.

An element of the sequence is what lies at its location (`getElem?_gather`), and putting an element
at the location of `i` replaces the element `i` of the sequence and no other (`gather_put`).
-/
import Mathlib.Algebra.GroupWithZero.Nat
import Mathlib.Data.List.Basic
import Mathlib.Tactic.Common

namespace WoaRk3576.Lib

variable {α : Type*}

/-- The sequence in the segments `ns`, the first of which is segment `k`. -/
def gather (memory : Nat → Nat → α) : Nat → List Nat → List α
  | _, [] => []
  | k, n :: ns => (List.range n).map (memory k) ++ gather memory (k + 1) ns

/-- The segment and the offset of element `i`. -/
def locate : Nat → List Nat → Nat → Option (Nat × Nat)
  | _, [], _ => none
  | k, n :: ns, i => if i < n then some (k, i) else locate (k + 1) ns (i - n)

/-- The memory with `a` at a location. -/
def put (memory : Nat → Nat → α) (k j : Nat) (a : α) : Nat → Nat → α := fun k' j' =>
  if k' = k ∧ j' = j then a else memory k' j'

@[simp]
theorem length_gather (memory : Nat → Nat → α) (ns : List Nat) : ∀ k,
    (gather memory k ns).length = ns.sum := by
  induction ns with
  | nil => exact fun _ => rfl
  | cons n ns ih => simp [gather, ih]

/-- **An element is what lies at its location.** -/
theorem getElem?_gather (memory : Nat → Nat → α) (ns : List Nat) : ∀ k i,
    (gather memory k ns)[i]? = (locate k ns i).map fun p => memory p.1 p.2 := by
  induction ns with
  | nil => exact fun _ _ => rfl
  | cons n ns ih =>
    intro k i
    rw [gather, locate]
    split
    · rename_i hlt
      rw [List.getElem?_append_left (by simpa using hlt)]
      simp [hlt]
    · rename_i hge
      rw [List.getElem?_append_right (by simpa using hge), ih]
      simp

/-- Every element has a location. -/
theorem exists_locate {ns : List Nat} : ∀ {k i : Nat}, i < ns.sum →
    ∃ p, locate k ns i = some p := by
  induction ns with
  | nil => exact fun hlt => absurd hlt (Nat.not_lt_zero _)
  | cons n ns ih =>
    intro k i hlt
    rw [List.sum_cons] at hlt
    rw [locate]
    split
    · exact ⟨_, rfl⟩
    · exact ih (by omega)

/-- The walk goes forward. -/
theorem le_of_locate {ns : List Nat} : ∀ {k i : Nat} {p : Nat × Nat}, locate k ns i = some p →
    k ≤ p.1 := by
  induction ns with
  | nil => exact fun h => nomatch h
  | cons n ns ih =>
    intro k i p h
    rw [locate] at h
    split at h
    · cases h
      exact Nat.le_refl k
    · exact Nat.le_of_succ_le (ih h)

/-- A sequence depends on its own segments. -/
theorem gather_congr {m m' : Nat → Nat → α} (ns : List Nat) : ∀ {k : Nat},
    (∀ k' j, k ≤ k' → m k' j = m' k' j) → gather m k ns = gather m' k ns := by
  induction ns with
  | nil => exact fun _ => rfl
  | cons n ns ih =>
    intro k h
    rw [gather, gather, ih fun k' j hle => h k' j (Nat.le_of_succ_le hle)]
    congr 1
    exact List.map_congr_left fun j _ => h k j (Nat.le_refl k)

/-- **What is put at the location of `i` is element `i`**, and the others are kept. -/
theorem gather_put (memory : Nat → Nat → α) (a : α) (ns : List Nat) : ∀ {k i : Nat}
    {p : Nat × Nat}, locate k ns i = some p →
    gather (put memory p.1 p.2 a) k ns = (gather memory k ns).set i a := by
  induction ns with
  | nil => exact fun h => nomatch h
  | cons n ns ih =>
    intro k i p h
    rw [locate] at h
    rw [gather, gather]
    split at h
    · rename_i hlt
      cases h
      rw [List.set_append_left _ _ (by simpa using hlt)]
      congr 1
      · refine List.ext_getElem (by simp) fun j hj hj' => ?_
        rw [List.getElem_set]
        simp [put, eq_comm]
      · refine gather_congr ns fun k' j hle => ?_
        have hne : ¬ (k' = k ∧ j = i) := by omega
        simp [put, hne]
    · rename_i hge
      have hle := le_of_locate h
      rw [List.set_append_right _ _ (by simpa using hge)]
      congr 1
      · refine List.map_congr_left fun j _ => ?_
        have hne : ¬ (k = p.1 ∧ j = p.2) := by omega
        simp [put, hne]
      · rw [ih h]
        simp

end WoaRk3576.Lib
