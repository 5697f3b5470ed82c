/-
# Accounts: what a routine holds besides the books

A state has a ledger of what was taken and given back, and books: what of it belongs to something
in the state.  A routine holds the rest while it runs.  `Moves a u b v` says of a routine from the
state `a` to the state `b` that it holds `u` before and `v` behind, whatever is held besides.

Routines are put together by `Moves.trans`.  `Moves.of_take` and `Moves.of_drop` are the rules for
one entry of the ledger, and `Moves.of_books` is the one for what enters or leaves the books.
-/
import Mathlib.Tactic.Abel
import WoaRk3576.Lib.Ledger

namespace WoaRk3576.Lib

universe u v

variable {ρ : Type u} [DecidableEq ρ] {σ : Type v}

/-- **From `a` to `b`, where the routine holds `x` before and `y` behind**, besides the books and
whatever else there is. -/
def Moves (books : σ → Multiset ρ) (ledger : σ → List (Entry ρ)) (a : σ) (x : Multiset ρ) (b : σ)
    (y : Multiset ρ) : Prop :=
  ∀ t, settle 0 (ledger a) = some (books a + (x + t)) →
    settle 0 (ledger b) = some (books b + (y + t))

variable {books : σ → Multiset ρ} {ledger : σ → List (Entry ρ)} {a b c : σ} {x y z : Multiset ρ}

theorem Moves.refl : Moves books ledger a x a x := fun _ h => h

theorem Moves.trans (h : Moves books ledger a x b y) (h' : Moves books ledger b y c z) :
    Moves books ledger a x c z :=
  fun t ht => h' t (h t ht)

/-- The order in which the resources were taken does not matter. -/
theorem Moves.congr (h : Moves books ledger a x b y) (hy : y = z) : Moves books ledger a x b z :=
  hy ▸ h

/-- What enters the books or leaves them was held before or is held behind. -/
theorem Moves.of_books (hbooks : books a + x = books b + y) (hledger : ledger b = ledger a) :
    Moves books ledger a x b y := by
  intro t ht
  rw [hledger, ← add_assoc, ← hbooks, add_assoc]
  exact ht

/-- What neither the books nor the ledger look at. -/
theorem Moves.of_same (hbooks : books b = books a) (hledger : ledger b = ledger a) :
    Moves books ledger a x b x :=
  Moves.of_books (congrArg (· + x) hbooks.symm) hledger

theorem Moves.of_take (r : ρ) (hbooks : books b = books a)
    (hledger : ledger b = ledger a ++ [.take r]) : Moves books ledger a x b ({r} + x) := by
  intro t ht
  have hheld : r ::ₘ (books a + (x + t)) = books b + ({r} + x + t) := by
    rw [hbooks, ← Multiset.singleton_add]
    abel
  rw [hledger, ← hheld]
  exact settle_concat_take ht r

theorem Moves.of_drop (r : ρ) (hbooks : books b = books a)
    (hledger : ledger b = ledger a ++ [.drop r]) : Moves books ledger a ({r} + x) b x := by
  intro t ht
  have hheld : books a + ({r} + x + t) = r ::ₘ (books b + (x + t)) := by
    rw [hbooks, ← Multiset.singleton_add]
    abel
  rw [hheld] at ht
  rw [hledger]
  exact settle_concat_drop ht

end WoaRk3576.Lib
