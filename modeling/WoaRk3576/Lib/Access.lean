/-
# Reads and the extents that are to hold them

A read of memory is the extent of its bytes.  An `Access` has beside it the extents that it is to
stay inside: a buffer, and the parts of the buffer that the read belongs to.
-/
import WoaRk3576.Lib.Extents

namespace WoaRk3576.Lib

/-! ## 1. Extents of memory

That one extent lies inside another is a statement about sets of addresses, so an empty extent lies
inside every other, wherever it begins.  Comparing ends would be wrong for it. -/

namespace Extent

theorem mem_bytes {e : Extent Nat} {a : Nat} :
    a ∈ e.bytes ↔ e.address ≤ a ∧ a < e.address + e.length := by
  simp only [bytes, List.mem_map, List.mem_range, Nat.cast_id]
  constructor
  · rintro ⟨i, hi, rfl⟩
    omega
  · rintro ⟨hge, hlt⟩
    exact ⟨a - e.address, by omega, by omega⟩

/-- An extent inside another: an empty one is inside any. -/
theorem bytes_subset_iff {e f : Extent Nat} :
    e.bytes ⊆ f.bytes ↔ e.length = 0
      ∨ f.address ≤ e.address ∧ e.address + e.length ≤ f.address + f.length := by
  constructor
  · intro hsub
    by_cases hzero : e.length = 0
    · exact Or.inl hzero
    · have hfirst := mem_bytes.mp (hsub (mem_bytes.mpr ⟨Nat.le_refl _, by omega⟩))
      have hlast := mem_bytes.mp (hsub (mem_bytes.mpr
        ⟨Nat.le_add_right e.address (e.length - 1), by omega⟩))
      omega
  · rintro hin a ha
    have ha := mem_bytes.mp ha
    refine mem_bytes.mpr ?_
    omega

end Extent

/-! ## 2. Accesses

A read carries the extents it has to respect, which are decided where the pointer is made and not
where the read is judged.  A list of reads is inside if each of them is, so programs that read one
after another need no more than appending. -/

/-- A read, and the extents that are to hold its bytes. -/
structure Access where
  read : Extent Nat
  within : List (Extent Nat)
  deriving DecidableEq

/-- Each byte of the read is in each of the extents. -/
def Access.InBounds (a : Access) : Prop := ∀ e ∈ a.within, a.read.bytes ⊆ e.bytes

/-- **All reads of a list stay inside.** -/
def AllInBounds (accesses : List Access) : Prop := ∀ a ∈ accesses, a.InBounds

@[simp]
theorem allInBounds_nil : AllInBounds [] := fun _ ha => absurd ha List.not_mem_nil

@[simp]
theorem allInBounds_cons {a : Access} {accesses : List Access} :
    AllInBounds (a :: accesses) ↔ a.InBounds ∧ AllInBounds accesses :=
  List.forall_mem_cons

@[simp]
theorem allInBounds_append {as bs : List Access} :
    AllInBounds (as ++ bs) ↔ AllInBounds as ∧ AllInBounds bs :=
  List.forall_mem_append

section Nested

variable {read e f g : Extent Nat}

theorem inBounds_one : (⟨read, [e]⟩ : Access).InBounds ↔ read.bytes ⊆ e.bytes := by
  simp [Access.InBounds]

theorem inBounds_two :
    (⟨read, [e, f]⟩ : Access).InBounds ↔ read.bytes ⊆ e.bytes ∧ read.bytes ⊆ f.bytes := by
  simp [Access.InBounds]

theorem inBounds_three :
    (⟨read, [e, f, g]⟩ : Access).InBounds
      ↔ read.bytes ⊆ e.bytes ∧ read.bytes ⊆ f.bytes ∧ read.bytes ⊆ g.bytes := by
  simp [Access.InBounds]

end Nested

end WoaRk3576.Lib
