/-
# Ranges of a set of numbers, and the arcs of a circle

A table of ranges says which numbers below `n` belong to a set: the ranges are in order, and two of
them have a gap between them.  An arc is a run of consecutive points of the circle of `n` points.
`Ranges.arc_le` bounds every arc inside the set by the ranges, those of the two ends taken together
where the set goes across them.
-/
import Mathlib.Logic.Function.Basic
import Mathlib.Tactic.Common

namespace WoaRk3576.Lib

variable {S T : Nat → Prop} {table : Nat → Int × Int} {count n i : Nat}

/-! ## 1. Tables of ranges

The table is built from the lowest number to the highest, and in each step a number either
continues the last range or opens a new one.  The definition leaves a gap behind every range, so
two ranges are never neighbours and the table is determined by its set. -/

/-- **The ranges of a set**: the first `count` entries of the table, each with its first and its
last number. -/
structure Ranges (S : Nat → Prop) (table : Nat → Int × Int) (count : Nat) : Prop where
  nonneg : ∀ k < count, 0 ≤ (table k).1
  ordered : ∀ k < count, (table k).1 ≤ (table k).2
  separated : ∀ j k, j < k → k < count → (table j).2 + 1 < (table k).1
  covers : ∀ p : Nat, S p ↔ ∃ k < count, (table k).1 ≤ p ∧ (p : Int) ≤ (table k).2

namespace Ranges

theorem empty (hS : ∀ p, ¬ S p) : Ranges S table 0 where
  nonneg := by simp
  ordered := by simp
  separated := by simp
  covers := by simpa using hS

theorem congr (h : Ranges S table count) (hT : ∀ p, T p ↔ S p) : Ranges T table count where
  nonneg := h.nonneg
  ordered := h.ordered
  separated := h.separated
  covers := fun p => (hT p).trans (h.covers p)

theorem eq_zero_iff (h : Ranges S table count) : count = 0 ↔ ∀ p, ¬ S p := by
  constructor
  · rintro rfl p hp
    obtain ⟨k, hk, -⟩ := (h.covers p).mp hp
    exact Nat.not_lt_zero k hk
  · intro hS
    by_contra hne
    have hnonneg := h.nonneg 0 (by omega)
    have hordered := h.ordered 0 (by omega)
    refine hS (table 0).1.toNat ((h.covers _).mpr ⟨0, by omega, ?_, ?_⟩) <;> omega

/-- Each range and the gap behind it have at least two numbers. -/
theorem two_mul_le (h : Ranges S table count) : ∀ k < count, 2 * (k : Int) ≤ (table k).1 := by
  intro k
  induction k with
  | zero =>
    intro hk
    simpa using h.nonneg 0 hk
  | succ k ih =>
    intro hk
    have hprev := ih (by omega)
    have hordered := h.ordered k (by omega)
    have hgap := h.separated k (k + 1) (by omega) hk
    omega

theorem le_last (h : Ranges S table count) {k : Nat} (hk : k < count) :
    (table k).2 ≤ (table (count - 1)).2 := by
  rcases Nat.lt_or_ge k (count - 1) with hlt | hge
  · have hgap := h.separated k (count - 1) hlt (by omega)
    have hordered := h.ordered (count - 1) (by omega)
    omega
  · obtain rfl : k = count - 1 := by omega
    exact Int.le_refl _

/-- The last range grows by the next number. -/
theorem extend (h : Ranges S table count) (hcount : 0 < count)
    (hlast : (table (count - 1)).2 + 1 = i) (hT : ∀ p, T p ↔ S p ∨ p = i) :
    Ranges T (Function.update table (count - 1) ((table (count - 1)).1, (i : Int))) count := by
  have hupdate : ∀ k < count, k ≠ count - 1 →
      Function.update table (count - 1) ((table (count - 1)).1, (i : Int)) k = table k :=
    fun k _ hk => Function.update_of_ne hk _ _
  refine ⟨?_, ?_, ?_, ?_⟩
  · intro k hk
    have hnonneg := h.nonneg k hk
    rcases eq_or_ne k (count - 1) with rfl | hne
    · simpa using hnonneg
    · rwa [hupdate k hk hne]
  · intro k hk
    have hordered := h.ordered k hk
    rcases eq_or_ne k (count - 1) with rfl | hne
    · simp only [Function.update_self]
      omega
    · rwa [hupdate k hk hne]
  · intro j k hjk hk
    have hgap := h.separated j k hjk hk
    rw [hupdate j (by omega) (by omega)]
    rcases eq_or_ne k (count - 1) with rfl | hne
    · simpa using hgap
    · rwa [hupdate k hk hne]
  · intro p
    rw [hT, h.covers]
    constructor
    · rintro (⟨k, hk, hlo, hhi⟩ | rfl)
      · refine ⟨k, hk, ?_⟩
        rcases eq_or_ne k (count - 1) with rfl | hne
        · simp only [Function.update_self]
          omega
        · rw [hupdate k hk hne]
          exact ⟨hlo, hhi⟩
      · refine ⟨count - 1, by omega, ?_⟩
        have hordered := h.ordered (count - 1) (by omega)
        simp only [Function.update_self]
        omega
    · rintro ⟨k, hk, hin⟩
      rcases eq_or_ne k (count - 1) with rfl | hne
      · simp only [Function.update_self] at hin
        by_cases hp : p = i
        · exact Or.inr hp
        · exact Or.inl ⟨count - 1, hk, by omega, by omega⟩
      · rw [hupdate k hk hne] at hin
        exact Or.inl ⟨k, hk, hin⟩

/-- A number past the gap after the last range starts a new one. -/
theorem append (h : Ranges S table count) (hlast : ∀ k < count, (table k).2 + 1 < i)
    (hT : ∀ p, T p ↔ S p ∨ p = i) :
    Ranges T (Function.update table count ((i : Int), (i : Int))) (count + 1) := by
  have hupdate : ∀ k < count,
      Function.update table count ((i : Int), (i : Int)) k = table k :=
    fun k hk => Function.update_of_ne (by omega) _ _
  refine ⟨?_, ?_, ?_, ?_⟩
  · intro k hk
    rcases Nat.lt_succ_iff_lt_or_eq.mp hk with hlt | rfl
    · rw [hupdate k hlt]
      exact h.nonneg k hlt
    · simp
  · intro k hk
    rcases Nat.lt_succ_iff_lt_or_eq.mp hk with hlt | rfl
    · rw [hupdate k hlt]
      exact h.ordered k hlt
    · simp
  · intro j k hjk hk
    rw [hupdate j (by omega)]
    rcases Nat.lt_succ_iff_lt_or_eq.mp hk with hlt | rfl
    · rw [hupdate k hlt]
      exact h.separated j k hjk hlt
    · simpa using hlast j hjk
  · intro p
    rw [hT, h.covers]
    constructor
    · rintro (⟨k, hk, hin⟩ | rfl)
      · refine ⟨k, by omega, ?_⟩
        rwa [hupdate k hk]
      · exact ⟨count, by omega, by simp⟩
    · rintro ⟨k, hk, hin⟩
      rcases Nat.lt_succ_iff_lt_or_eq.mp hk with hlt | rfl
      · rw [hupdate k hlt] at hin
        exact Or.inl ⟨k, hlt, hin⟩
      · simp only [Function.update_self] at hin
        exact Or.inr (by omega)

/-- An interval inside the set is inside one of the ranges. -/
theorem interval (h : Ranges S table count) {x y : Nat} (hxy : x ≤ y)
    (hS : ∀ p, x ≤ p → p ≤ y → S p) :
    ∃ k < count, (table k).1 ≤ x ∧ (y : Int) ≤ (table k).2 := by
  obtain ⟨k, hk, hlo, hhi⟩ := (h.covers x).mp (hS x (Nat.le_refl x) hxy)
  refine ⟨k, hk, hlo, ?_⟩
  by_contra hlt
  -- the number after the range belongs to another one, and between the two there is a gap
  have hnext := hS ((table k).2 + 1).toNat (by omega) (by omega)
  obtain ⟨j, hj, hlo', hhi'⟩ := (h.covers _).mp hnext
  have hordered := h.ordered k hk
  rcases Nat.lt_trichotomy j k with hjk | rfl | hkj
  · have hgap := h.separated j k hjk hk
    omega
  · omega
  · have hgap := h.separated k j hkj hj
    omega

/-- The range of 0 is the first. -/
theorem first_eq (h : Ranges S table count) (hzero : S 0) : (table 0).1 = 0 ∧ 0 < count := by
  obtain ⟨k, hk, hlo, -⟩ := (h.covers 0).mp hzero
  have hnonneg := h.nonneg k hk
  rcases Nat.eq_zero_or_pos k with rfl | hpos
  · exact ⟨by omega, hk⟩
  · have hgap := h.separated 0 k hpos hk
    have hordered := h.ordered 0 (by omega)
    have hnonneg' := h.nonneg 0 (by omega)
    omega

/-- The range of the last number is the last. -/
theorem last_eq (h : Ranges S table count) (hS : ∀ p, S p → p < n) (hlast : S (n - 1)) :
    (table (count - 1)).2 = (n : Int) - 1 := by
  have hn := hS _ hlast
  obtain ⟨k, hk, hlo, hhi⟩ := (h.covers _).mp hlast
  have hbound : ∀ j < count, (table j).2 < n := by
    intro j hj
    have hordered := h.ordered j hj
    have hnonneg := h.nonneg j hj
    have hmem := hS (table j).2.toNat ((h.covers _).mpr ⟨j, hj, by omega, by omega⟩)
    omega
  have hlt := hbound (count - 1) (by omega)
  have hle := h.le_last hk
  omega

end Ranges

/-! ## 2. Arcs

On the circle the last range may go on in the first one.  Apart from this an arc is an interval of
the set, and each interval lies in one range; so the longest arc is the longest of the ranges,
where the two at the ends count as one if the set goes across. -/

/-- The `length` points from `start` on belong to the set. -/
def IsArc (n : Nat) (S : Nat → Prop) (start length : Nat) : Prop :=
  length ≤ n ∧ ∀ i < length, S ((start + i) % n)

/-- **A longest arc** of the points of the set. -/
structure LongestArc (n : Nat) (S : Nat → Prop) (start length : Nat) : Prop where
  start_lt : start < n
  pos : 0 < length
  isArc : IsArc n S start length
  longest : ∀ start' length', IsArc n S start' length' → length' ≤ length

theorem IsArc.mod {start length : Nat} (h : IsArc n S start length) :
    IsArc n S (start % n) length := by
  refine ⟨h.1, fun i hi => ?_⟩
  rw [Nat.mod_add_mod]
  exact h.2 i hi

theorem LongestArc.mem {start length : Nat} (h : LongestArc n S start length) {i : Nat}
    (hi : i < length) : S ((start + i) % n) := h.isArc.2 i hi

namespace Ranges

variable (h : Ranges S table count)
include h

/-- The points of a range are an arc. -/
theorem isArc_range (hS : ∀ p, S p → p < n) {k : Nat} (hk : k < count) :
    IsArc n S (table k).1.toNat ((table k).2 - (table k).1 + 1).toNat := by
  have hnonneg := h.nonneg k hk
  have hordered := h.ordered k hk
  have hlt := hS (table k).2.toNat ((h.covers _).mpr ⟨k, hk, by omega, by omega⟩)
  refine ⟨by omega, fun i hi => ?_⟩
  rw [Nat.mod_eq_of_lt (by omega)]
  exact (h.covers _).mpr ⟨k, hk, by omega, by omega⟩

/-- Where the set goes across the ends, so do the last and the first range together. -/
theorem isArc_wrap (hS : ∀ p, S p → p < n) (hzero : S 0) (hlast : S (n - 1)) (hcount : 1 < count) :
    IsArc n S (table (count - 1)).1.toNat
      ((table 0).2 + 1 + (n - (table (count - 1)).1)).toNat := by
  obtain ⟨hfirst, -⟩ := h.first_eq hzero
  have hend := h.last_eq hS hlast
  have hgap := h.separated 0 (count - 1) (by omega) (by omega)
  have hordered := h.ordered 0 (by omega)
  have hordered' := h.ordered (count - 1) (by omega)
  refine ⟨by omega, fun i hi => ?_⟩
  rcases Nat.lt_or_ge ((table (count - 1)).1.toNat + i) n with hlt | hge
  · rw [Nat.mod_eq_of_lt hlt]
    exact (h.covers _).mpr ⟨count - 1, by omega, by omega, by omega⟩
  · rw [Nat.mod_eq_sub_mod hge, Nat.mod_eq_of_lt (by omega)]
    exact (h.covers _).mpr ⟨0, by omega, by omega, by omega⟩

/-- **No arc is longer than the ranges**, where the two ends count together. -/
theorem arc_le (hS : ∀ p, S p → p < n) {bound : Int}
    (hrange : ∀ k < count, (table k).2 - (table k).1 + 1 ≤ bound)
    (hwrap : S 0 → S (n - 1) → 1 < count →
      (table 0).2 + 1 + (n - (table (count - 1)).1) ≤ bound)
    {start length : Nat} (harc : IsArc n S start length) (hpos : 0 < length) :
    (length : Int) ≤ bound := by
  obtain ⟨hle, hmem⟩ := harc.mod
  have hlt : start % n < n := Nat.mod_lt _ (by omega)
  generalize start % n = start at hmem hlt
  rcases Nat.lt_or_ge n (start + length) with hacross | hinside
  · have hbefore : ∀ p, start ≤ p → p ≤ n - 1 → S p := by
      intro p hge hle
      have hp := hmem (p - start) (by omega)
      rwa [Nat.add_sub_cancel' hge, Nat.mod_eq_of_lt (by omega)] at hp
    have hafter : ∀ p, 0 ≤ p → p ≤ start + length - n - 1 → S p := by
      intro p _ hle
      have hp := hmem (n - start + p) (by omega)
      rwa [← Nat.add_assoc, Nat.add_sub_cancel' (Nat.le_of_lt hlt), Nat.add_mod_left,
        Nat.mod_eq_of_lt (by omega)] at hp
    obtain ⟨k, hk, hklo, hkhi⟩ := h.interval (by omega) hbefore
    obtain ⟨j, hj, hjlo, hjhi⟩ := h.interval (by omega) hafter
    have hbound := hrange k hk
    have hnonneg := h.nonneg k hk
    have hzero := hafter 0 (by omega) (by omega)
    have hlast := hbefore (n - 1) (by omega) (by omega)
    have hend := h.last_eq hS hlast
    obtain ⟨hfirst, -⟩ := h.first_eq hzero
    -- both parts are in one range, which is then the whole circle, or in the two outer ones
    rcases Nat.eq_zero_or_pos j with rfl | hjpos
    · rcases Nat.eq_zero_or_pos k with rfl | hkpos
      · omega
      · have hwrap := hwrap hzero hlast (by omega)
        rcases Nat.lt_or_ge k (count - 1) with hk' | hk'
        · have hgap := h.separated k (count - 1) hk' (by omega)
          have hordered := h.ordered (count - 1) (by omega)
          omega
        · obtain rfl : k = count - 1 := by omega
          omega
    · have hgap := h.separated 0 j hjpos hj
      have hordered := h.ordered 0 (by omega)
      omega
  · have hinterval : ∀ p, start ≤ p → p ≤ start + length - 1 → S p := by
      intro p hge hle
      have hp := hmem (p - start) (by omega)
      rwa [Nat.add_sub_cancel' hge, Nat.mod_eq_of_lt (by omega)] at hp
    obtain ⟨k, hk, hlo, hhi⟩ := h.interval (by omega) hinterval
    have hbound := hrange k hk
    omega

end Ranges

end WoaRk3576.Lib
