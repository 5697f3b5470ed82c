/-
# Dividers of a clock

A parent clock is divided by a number of an admissible set, for a rate that must not be exceeded.
The best divider of the set gives the highest clock within the request, or the slowest one where
none is within (`BestDivider`).  The least divider within the request, or the greatest of all, is
the best (`LeastDivider.best`).  Of the multiples of a number in an interval it is the quotient that
rounds up, twice, kept in the interval (`leastDivider_multiples`).
-/
import Mathlib.Algebra.Order.Field.Rat
import Mathlib.Algebra.Order.Field.Basic
import Mathlib.Algebra.Order.Floor.Div
import Mathlib.Tactic.Common
import WoaRk3576.Lib.WordArith

namespace WoaRk3576.Lib

/-- The rate of a divided clock. -/
def dividedClock (parent divider : Nat) : ℚ := parent / divider

/-- **The best divider of a set** for a requested rate. -/
structure BestDivider (admissible : Nat → Prop) (parent target divider : Nat) : Prop where
  mem : admissible divider
  highest : ∀ e, admissible e → dividedClock parent e ≤ target →
    dividedClock parent divider ≤ target ∧ dividedClock parent e ≤ dividedClock parent divider
  slowest : (∀ e, admissible e → target < dividedClock parent e) →
    ∀ e, admissible e → dividedClock parent divider ≤ dividedClock parent e

/-- **The least divider of a set** within a requested rate, or the greatest of all where none is
within. -/
structure LeastDivider (admissible : Nat → Prop) (parent target divider : Nat) : Prop where
  mem : admissible divider
  least : ∀ e, admissible e → dividedClock parent e ≤ target →
    dividedClock parent divider ≤ target ∧ divider ≤ e
  greatest : (∀ e, admissible e → target < dividedClock parent e) → ∀ e, admissible e → e ≤ divider

theorem dividedClock_le_iff {parent target d : Nat} (hd : 0 < d) :
    dividedClock parent d ≤ target ↔ parent ≤ target * d := by
  unfold dividedClock
  rw [div_le_iff₀ (by exact_mod_cast hd)]
  exact_mod_cast Iff.rfl

/-- A greater divider gives a slower clock. -/
theorem dividedClock_anti (parent : Nat) {d e : Nat} (hd : 0 < d) (hle : d ≤ e) :
    dividedClock parent e ≤ dividedClock parent d := by
  have hpos : (0 : ℚ) < d := by exact_mod_cast hd
  have hle' : (d : ℚ) ≤ e := by exact_mod_cast hle
  exact div_le_div_of_nonneg_left (Nat.cast_nonneg parent) hpos hle'

section Best

variable {admissible : Nat → Prop} {parent target d : Nat}

/-- The least divider, in natural numbers. -/
theorem leastDivider_of_mul (hpos : ∀ e, admissible e → 0 < e) (hd : admissible d)
    (hleast : ∀ e, admissible e → parent ≤ target * e → parent ≤ target * d ∧ d ≤ e)
    (hmost : (∀ e, admissible e → target * e < parent) → ∀ e, admissible e → e ≤ d) :
    LeastDivider admissible parent target d where
  mem := hd
  least := by
    intro e he hwithin
    obtain ⟨hle, hde⟩ := hleast e he ((dividedClock_le_iff (hpos e he)).mp hwithin)
    exact ⟨(dividedClock_le_iff (hpos d hd)).mpr hle, hde⟩
  greatest := by
    intro hnone
    refine hmost fun e he => ?_
    have hnot : ¬ dividedClock parent e ≤ target := not_le.mpr (hnone e he)
    rw [dividedClock_le_iff (hpos e he)] at hnot
    exact Nat.lt_of_not_le hnot

/-- **The least divider within the request**, or the greatest of all, is the best. -/
theorem LeastDivider.best (h : LeastDivider admissible parent target d)
    (hpos : ∀ e, admissible e → 0 < e) : BestDivider admissible parent target d where
  mem := h.mem
  highest := by
    intro e he hwithin
    obtain ⟨hle, hde⟩ := h.least e he hwithin
    exact ⟨hle, dividedClock_anti parent (hpos d h.mem) hde⟩
  slowest := fun hnone e he => dividedClock_anti parent (hpos e he) (h.greatest hnone e he)

/-- The least multiple of `k` from `n` on. -/
theorem mul_ceilDiv_le_iff {k n e : Nat} (hk : 0 < k) (hdvd : k ∣ e) :
    k * (n ⌈/⌉ k) ≤ e ↔ n ≤ e := by
  obtain ⟨j, rfl⟩ := hdvd
  rw [Nat.mul_le_mul_left_iff hk, ceilDiv_le_iff_le_mul hk]

/-- **The least divider among the multiples of `k` in an interval**: the multiple from the quotient
that rounds up on, kept in the interval. -/
theorem leastDivider_multiples {k lo hi : Nat} (hk : 0 < k) (hlo : 0 < lo) (hle : lo ≤ hi)
    (hdvd : k ∣ hi) (htarget : 0 < target) :
    LeastDivider (fun e => k ∣ e ∧ lo ≤ e ∧ e ≤ hi) parent target
      (min (k * (max (parent ⌈/⌉ target) lo ⌈/⌉ k)) hi) := by
  have hwithin : ∀ e, parent ≤ target * e ↔ parent ⌈/⌉ target ≤ e :=
    fun e => (ceilDiv_le_iff_le_mul htarget).symm
  have hnext : ∀ e, k ∣ e → (k * (max (parent ⌈/⌉ target) lo ⌈/⌉ k) ≤ e
      ↔ max (parent ⌈/⌉ target) lo ≤ e) := fun e => mul_ceilDiv_le_iff hk
  have hmultiple : k ∣ k * (max (parent ⌈/⌉ target) lo ⌈/⌉ k) := Nat.dvd_mul_right ..
  have hself := (hnext _ hmultiple).mp (Nat.le_refl _)
  generalize k * (max (parent ⌈/⌉ target) lo ⌈/⌉ k) = m at *
  refine leastDivider_of_mul (fun e he => by omega) ⟨?_, by omega, by omega⟩ ?_ ?_
  · rcases Nat.le_total m hi with h | h
    · rwa [Nat.min_eq_left h]
    · rwa [Nat.min_eq_right h]
  · rintro e ⟨hke, hloe, hehi⟩ hfits
    rw [hwithin] at hfits ⊢
    have hme := (hnext e hke).mpr (by omega)
    omega
  · rintro hnone e ⟨-, -, hehi⟩
    have hhi := hnone hi ⟨hdvd, hle, Nat.le_refl hi⟩
    have hnot : ¬ parent ⌈/⌉ target ≤ hi := by
      rw [← hwithin]
      exact Nat.not_le.mpr hhi
    omega

/-- **The best divider of an interval**: the quotient that rounds up, kept in the interval. -/
theorem bestDivider_clamp {lo hi : Nat} (hlo : 0 < lo) (hle : lo ≤ hi) (htarget : 0 < target) :
    BestDivider (fun e => lo ≤ e ∧ e ≤ hi) parent target (min (max (parent ⌈/⌉ target) lo) hi) := by
  have hleast : LeastDivider _ parent target _ :=
    leastDivider_multiples Nat.one_pos hlo hle (Nat.one_dvd hi) htarget
  have hbest := hleast.best fun e he => by omega
  simpa using hbest

end Best

/-! ## 1. The quotient of a word

Where the quotient is computed in words its rounding sum may wrap.  Then it is 0, and a lower bound
brings it to the right value again if the dividend is small enough. -/

/-- A quotient that is 0 for a fast target is kept at 1. -/
theorem max_divRoundUp_run {w n d : Nat} (hn : 2 * n ≤ 2 ^ w) (hd : d < 2 ^ w) (hpos : 0 < d) :
    max ((WordArith.wrapping w).divRoundUp n d).run 1 = max (n ⌈/⌉ d) 1 := by
  rw [WordArith.divRoundUp_run (by omega) hd hpos]
  split
  · rfl
  · have hone : n ⌈/⌉ d ≤ 1 := (ceilDiv_le_iff_le_mul hpos).mpr (by omega)
    omega

end WoaRk3576.Lib
