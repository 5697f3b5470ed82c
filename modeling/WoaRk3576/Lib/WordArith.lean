/-
# Unsigned arithmetic of a word, in several readings

A computation over unsigned words of `w` bits is written once, over a `WordArith m`: its four
operations, in a monad.  It can then be read as the machine does it (`wrapping`), as one that stops
where an operation leaves the word (`checked`), or as one that stops for products and divisors only
(`checkedProducts`).

Each of them is exact on operations that stay in the word (`Exact`), so that one proof that a
computation stays there evaluates it in every reading.
-/
import Mathlib.Algebra.Order.Floor.Div
import Mathlib.Tactic.Common

namespace WoaRk3576.Lib

/-- The operations on unsigned words, which are natural numbers. -/
structure WordArith (m : Type → Type) where
  add : Nat → Nat → m Nat
  sub : Nat → Nat → m Nat
  mul : Nat → Nat → m Nat
  div : Nat → Nat → m Nat

namespace WordArith

/-! ## 1. The readings

A computation is written once, for any `A`, and read in three ways.  Which reading is meant is said
where the computation is used, so that the same text is compared with itself. -/

/-- What the machine computes; a division by 0 gives 0. -/
def wrapping (w : Nat) : WordArith Id where
  add a b := (a + b) % 2 ^ w
  sub a b := (a + (2 ^ w - b)) % 2 ^ w
  mul a b := a * b % 2 ^ w
  div a b := a / b

/-- Nothing leaves the word. -/
def checked (w : Nat) : WordArith Option where
  add a b := if a + b < 2 ^ w then some (a + b) else none
  sub a b := if b ≤ a then some (a - b) else none
  mul a b := if a * b < 2 ^ w then some (a * b) else none
  div a b := if b ≠ 0 then some (a / b) else none

/-- No product leaves the word, and no divisor is 0. -/
def checkedProducts (w : Nat) : WordArith Option where
  add a b := some ((wrapping w).add a b)
  sub a b := some ((wrapping w).sub a b)
  mul := (checked w).mul
  div := (checked w).div

/-! ## 2. Exactness

An arithmetic is exact where the true results fit into the word.  What holds of every exact
arithmetic holds of the machine and of the checked readings alike. -/

variable {m : Type → Type} [Monad m]

/-- **Operations that stay in the word are exact.** -/
structure Exact (w : Nat) (A : WordArith m) : Prop where
  add : ∀ {a b : Nat}, a + b < 2 ^ w → A.add a b = pure (a + b)
  sub : ∀ {a b : Nat}, a < 2 ^ w → b ≤ a → A.sub a b = pure (a - b)
  mul : ∀ {a b : Nat}, a * b < 2 ^ w → A.mul a b = pure (a * b)
  div : ∀ {b : Nat} (a : Nat), b ≠ 0 → A.div a b = pure (a / b)

theorem wrapping_exact (w : Nat) : (wrapping w).Exact w where
  add h := Nat.mod_eq_of_lt h
  sub := by
    intro a b ha hle
    have hsum : a + (2 ^ w - b) = a - b + 2 ^ w := by omega
    exact (congrArg (· % 2 ^ w) hsum).trans
      ((Nat.add_mod_right _ _).trans (Nat.mod_eq_of_lt (by omega)))
  mul h := Nat.mod_eq_of_lt h
  div _ _ := rfl

theorem checked_exact (w : Nat) : (checked w).Exact w where
  add h := if_pos h
  sub _ h := if_pos h
  mul h := if_pos h
  div _ h := if_pos h

theorem checkedProducts_exact (w : Nat) : (checkedProducts w).Exact w where
  add h := congrArg some ((wrapping_exact w).add h)
  sub ha h := congrArg some ((wrapping_exact w).sub ha h)
  mul h := if_pos h
  div _ h := if_pos h

/-! ## 3. Division that rounds up

The usual form of a division that rounds up adds the divisor less one first.  The sum may leave the
word, and then the quotient is 0, as what is left of the sum is smaller than the divisor. -/

/-- The least multiple from `n` on. -/
theorem ceilDiv_bounds (n : Nat) {d : Nat} (hpos : 0 < d) :
    n ≤ d * (n ⌈/⌉ d) ∧ d * (n ⌈/⌉ d) < n + d := by
  constructor
  · exact (ceilDiv_le_iff_le_mul hpos).mp (Nat.le_refl _)
  · have hle : d * (n ⌈/⌉ d) ≤ n + d - 1 := Nat.mul_div_le (n + d - 1) d
    omega

/-- `(n + d - 1) / d`. -/
def divRoundUp (A : WordArith m) (n d : Nat) : m Nat := do
  let sum ← A.add n d
  let pred ← A.sub sum 1
  A.div pred d

theorem Exact.divRoundUp [LawfulMonad m] {w : Nat} {A : WordArith m} (h : A.Exact w) {n d : Nat}
    (hsum : n + d < 2 ^ w) (hpos : 0 < d) : A.divRoundUp n d = pure (n ⌈/⌉ d) := by
  unfold WordArith.divRoundUp
  rw [h.add hsum, pure_bind, h.sub hsum (by omega), pure_bind, h.div _ hpos.ne']
  rfl

/-- **A sum that leaves the word** gives the quotient 0. -/
theorem divRoundUp_of_lt {w n d : Nat} (hn : n < 2 ^ w) (hd : d < 2 ^ w) (hsum : 2 ^ w < n + d) :
    ((wrapping w).divRoundUp n d).run = 0 := by
  have hrun : ((wrapping w).divRoundUp n d).run
      = ((n + d) % 2 ^ w + (2 ^ w - 1)) % 2 ^ w / d := rfl
  have hadd : (n + d) % 2 ^ w = n + d - 2 ^ w :=
    (Nat.mod_eq_sub_mod hsum.le).trans (Nat.mod_eq_of_lt (by omega))
  have hpred : n + d - 2 ^ w + (2 ^ w - 1) = n + d - 2 ^ w - 1 + 2 ^ w := by omega
  rw [hrun, hadd, hpred, Nat.add_mod_right, Nat.mod_eq_of_lt (by omega)]
  exact Nat.div_eq_of_lt (by omega)

/-- **The quotient of the machine** is the one that rounds up, or 0 where the sum leaves the word.
-/
theorem divRoundUp_run {w n d : Nat} (hn : n < 2 ^ w) (hd : d < 2 ^ w) (hpos : 0 < d) :
    ((wrapping w).divRoundUp n d).run = if n + d ≤ 2 ^ w then n ⌈/⌉ d else 0 := by
  rcases Nat.lt_trichotomy (n + d) (2 ^ w) with hlt | heq | hgt
  · rw [if_pos hlt.le]
    exact congrArg Id.run ((wrapping_exact w).divRoundUp hlt hpos)
  · -- the sum is 0, and one less is the greatest word
    have hrun : ((wrapping w).divRoundUp n d).run
        = ((n + d) % 2 ^ w + (2 ^ w - 1)) % 2 ^ w / d := rfl
    have hceil : n ⌈/⌉ d = (n + d - 1) / d := rfl
    rw [if_pos heq.le, hrun, hceil, heq, Nat.mod_self, Nat.zero_add, Nat.mod_eq_of_lt (by omega)]
  · rw [if_neg (Nat.not_le.mpr hgt), divRoundUp_of_lt hn hd hgt]

end WordArith

end WoaRk3576.Lib
