/-
# Ledgers: what is taken and what is given back

A routine that takes resources (blocks of a pool, references of an object) and gives them back
leaves a list of entries.  `settle` goes through the entries and says what is held at the end; it
fails at an entry that gives back what is not held.  So `settle s es = some t` says at once that
nothing is given back twice, and that what is held besides `t` is not lost.

`settle_append` and `settle_trans` put one ledger behind another.
-/
import Mathlib.Algebra.Order.Group.Multiset

namespace WoaRk3576.Lib

universe u

variable {ρ : Type u}

/-! ## 1. Entries

`settle` has no value for a ledger in which something is given back that nobody held.  So one
equation says two things: nothing is freed twice, and what is left is known. -/

/-- A resource is taken or given back. -/
inductive Entry (ρ : Type u)
  | take (r : ρ)
  | drop (r : ρ)
  deriving DecidableEq

variable [DecidableEq ρ]

/-- **What is held after the entries**, unless one of them gives back what is not held. -/
def settle : Multiset ρ → List (Entry ρ) → Option (Multiset ρ)
  | held, [] => some held
  | held, .take r :: es => settle (r ::ₘ held) es
  | held, .drop r :: es => if r ∈ held then settle (held.erase r) es else none

@[simp]
theorem settle_nil (s : Multiset ρ) : settle s [] = some s := rfl

@[simp]
theorem settle_take (s : Multiset ρ) (r : ρ) (es : List (Entry ρ)) :
    settle s (.take r :: es) = settle (r ::ₘ s) es := rfl

@[simp]
theorem settle_drop_cons (s : Multiset ρ) (r : ρ) (es : List (Entry ρ)) :
    settle (r ::ₘ s) (.drop r :: es) = settle s es := by
  rw [settle, if_pos (Multiset.mem_cons_self r s), Multiset.erase_cons_head]

/-! ## 2. Ledgers behind each other

The parts of a routine have ledgers of their own, which are put behind each other; what the first
part leaves is what the second begins with. -/

theorem settle_append (as bs : List (Entry ρ)) :
    ∀ s : Multiset ρ, settle s (as ++ bs) = (settle s as).bind fun t => settle t bs := by
  induction as with
  | nil => exact fun _ => rfl
  | cons a as ih =>
    intro s
    cases a with
    | take r => exact ih (r ::ₘ s)
    | drop r =>
      rw [List.cons_append, settle, settle]
      split
      · exact ih _
      · rfl

/-- **One ledger behind another.** -/
theorem settle_trans {s t u : Multiset ρ} {as bs : List (Entry ρ)} (ha : settle s as = some t)
    (hb : settle t bs = some u) : settle s (as ++ bs) = some u := by
  rw [settle_append, ha]
  exact hb

theorem settle_concat_take {s t : Multiset ρ} {es : List (Entry ρ)} (h : settle s es = some t)
    (r : ρ) : settle s (es ++ [.take r]) = some (r ::ₘ t) :=
  settle_trans h rfl

theorem settle_concat_drop {s t : Multiset ρ} {es : List (Entry ρ)} {r : ρ}
    (h : settle s es = some (r ::ₘ t)) : settle s (es ++ [.drop r]) = some t :=
  settle_trans h (settle_drop_cons t r [])

end WoaRk3576.Lib
