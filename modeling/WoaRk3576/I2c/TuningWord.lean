/-
# The tuning word of rk3xi2c

The three counters of the tuning word, and when they are right.  For a clock of the range the
counters are exact while the dividers are small (`sdaUpdateCfg_eq`, `stpCfg_eq`), and then only the
data hold time can fail, with the search at 0.

`tuning_meets_spec_iff` says for which clocks and speeds nothing fails: below 19 kHz the low phase
is longer than the hold time of the standard mode, and a slow standard speed on a fast clock makes
the rounding sum of the setup counters wrap; two narrow bands of clocks have no hold count in fast
mode.

* The search for the hold count goes down from 3 and ends at 0, whether it has found one or not.
  Larger counts hold longer, so it finds one if the count 1 is good (`holdCount_pos`) and none if
  that is too long (`holdCount_zero`), and what has to be known of a clock and a speed is one low
  phase.
* The dividers are a step function of the clock, and for a given divider the condition on the low
  phase is an interval of clocks.  In fast mode the dividers that leave a gap are two, which gives
  the two bands; in the fast mode plus there is none (sections 8 and 9).
* The setup counters are quotients that round up, by a sum that may leave the word.  Where it does
  the quotient is 0 and the counter one less than that, which does not fit its field
  (`divRoundUp_of_lt`).  The sum is that of half a period, so this is a bound on the clock for each
  speed.

The property is about the machine's words, with products and divisors checked but not the rounding
sums: those may wrap as long as the counters are right.
-/
import Mathlib.Tactic.Ring
import Mathlib.Tactic.Linarith
import Mathlib.Tactic.IntervalCases
import WoaRk3576.I2c.Rk3x
import WoaRk3576.I2c.Dividers

namespace WoaRk3576.I2c

open WoaRk3576.Lib

/-! ## 1. The property

The property again has no division in it.  It also asks that nothing leave the word on the way:
that is said with the checked reading of the computation, which has a value only when no product
does. -/

/-- `clk_rate_khz` and the dividers, as the machine computes them. -/
def machineDividers (clkRate : Nat) (connectionSpeed : BitVec 32) : Nat × Dividers :=
  (calcDividers (.wrapping 32) clkRate (busTimings connectionSpeed) (speedSpec connectionSpeed)).run

/-- The counters of a speed, in a reading of their computation. -/
def speedCounts {m : Type → Type} [Monad m] (A : WordArith m) (clkRate : Nat)
    (connectionSpeed : BitVec 32) : m TuningCounts :=
  tuningCounts A (machineDividers clkRate connectionSpeed).1
    (machineDividers clkRate connectionSpeed).2 (busTimings connectionSpeed)
    (speedSpec connectionSpeed)

/-- The counters that the machine computes. -/
def machineCounts (clkRate : Nat) (connectionSpeed : BitVec 32) : TuningCounts :=
  (speedCounts (.wrapping 32) clkRate connectionSpeed).run

/-- **The tuning word meets the specification**, for times in ns and rates in Hz: no product leaves
the word and no divisor is 0, every counter is at least 1 and fits its field once decremented, the
word is inside its mask, and the hold and setup times `(l * s + 1) * T` and `((8 - s) * l + 1) * T`
are those of the class. -/
structure TuningMeetsSpec (clkRate : Nat) (connectionSpeed : BitVec 32) : Prop where
  products : (speedCounts (.checkedProducts 32) clkRate connectionSpeed).isSome
  sda : 1 ≤ (machineCounts clkRate connectionSpeed).sdaUpdateCfg
    ∧ (machineCounts clkRate connectionSpeed).sdaUpdateCfg - 1 < 2 ^ 4
  sta : 1 ≤ (machineCounts clkRate connectionSpeed).stpStaCfg
    ∧ (machineCounts clkRate connectionSpeed).stpStaCfg - 1 < 2 ^ 2
  sto : 1 ≤ (machineCounts clkRate connectionSpeed).stpStoCfg
    ∧ (machineCounts clkRate connectionSpeed).stpStoCfg - 1 < 2 ^ 2
  inMask : (machineTimings clkRate connectionSpeed).2.tuning &&& ~~~regConTuningMask = 0
  hold : ((machineCounts clkRate connectionSpeed).sdaUpdateCfg
      * ((machineTimings clkRate connectionSpeed).2.divLow + 1) + 1) * 1000000000
    ≤ (speedSpec connectionSpeed).maxDataHoldNs * clkRate
  setup : (speedSpec connectionSpeed).minDataSetupNs * clkRate
    ≤ ((8 - (machineCounts clkRate connectionSpeed).sdaUpdateCfg)
      * ((machineTimings clkRate connectionSpeed).2.divLow + 1) + 1) * 1000000000

/-! ## 2. The exact counters

The counters in unbounded arithmetic, and when the machine computes them.  The search for the hold
time stays in the word for every low divider up to 570; a setup count does as long as its rounding
sum, which grows with the high divider, fits into 32 bits. -/

/-- The time of `count` low phases and a clock, in ns, rounded up. -/
def lowPhasesNs (clkRateKhz divLow count : Nat) : Nat :=
  ((count * divLow + 1) * 1000000) ⌈/⌉ clkRateKhz

/-- The search of the exact count. -/
def holdCount (clkRateKhz divLow : Nat) (spec : I2cSpecValues) : Nat → Nat
  | 0 => 0
  | s + 1 =>
    if lowPhasesNs clkRateKhz divLow (s + 1) < spec.maxDataHoldNs
        ∧ spec.minDataSetupNs < lowPhasesNs clkRateKhz divLow (8 - (s + 1)) then s + 1
    else holdCount clkRateKhz divLow spec s

/-- The exact count of a setup time. -/
def setupCount (clkRateKhz divHigh ns : Nat) : Nat :=
  (clkRateKhz * ns - 1000000) ⌈/⌉ (8 * 1000000 * divHigh)

section Exact

variable {m : Type → Type} [Monad m] [LawfulMonad m] {A : WordArith m} (hA : A.Exact 32)
  {k l : Nat} (hk : 24000 ≤ k ∧ k ≤ 400000)

include hA hk

theorem dataNs_eq (hl : l ≤ 570) {c : Nat} (hc : c ≤ 7) :
    dataNs A k l c = pure (lowPhasesNs k l c) := by
  have hproduct : c * l ≤ 7 * 570 := Nat.mul_le_mul hc hl
  unfold dataNs lowPhasesNs
  rw [hA.mul (by omega), pure_bind, hA.add (by omega), pure_bind, hA.mul (by omega), pure_bind,
    hA.divRoundUp (by omega) (by omega)]

/-- **The search is exact** while the low divider is small. -/
theorem sdaUpdateCfg_eq (hl : l ≤ 570) (spec : I2cSpecValues) {n : Nat} (hn : n ≤ 7) :
    sdaUpdateCfg A k l spec n = pure (holdCount k l spec n) := by
  induction n with
  | zero => rfl
  | succ n ih =>
    unfold sdaUpdateCfg holdCount
    rw [dataNs_eq hA hk hl hn, pure_bind, dataNs_eq hA hk hl (by omega), pure_bind]
    split
    · rfl
    · exact ih (by omega)

/-- **A setup count is exact** while its rounding sum stays in the word. -/
theorem stpCfg_eq {h rise ns : Nat} (hns : 380 ≤ rise + ns ∧ rise + ns ≤ 5700) (hpos : 0 < h)
    (hsum : k * (rise + ns) + 8 * 1000000 * h < 2 ^ 32 + 1000000) :
    stpCfg A k h rise ns = pure (setupCount k h (rise + ns)) := by
  have hmin : 24000 * 380 ≤ k * (rise + ns) := Nat.mul_le_mul hk.1 hns.1
  have hmax : k * (rise + ns) ≤ 400000 * 5700 := Nat.mul_le_mul hk.2 hns.2
  unfold stpCfg setupCount
  rw [hA.add (by omega), pure_bind, hA.mul (by omega), pure_bind, hA.sub (by omega) (by omega),
    pure_bind, hA.mul (by omega), pure_bind, hA.divRoundUp (by omega) (by omega)]

end Exact

/-! ## 3. The hold count

The search goes down from 3 and stops at the first count with a hold time below the greatest and a
setup time above the least.  If count 1 is good the search stops there at the latest, and what it
stops at is good; if it finds nothing it ends at 0. -/

section Hold

variable {k l : Nat} {spec : I2cSpecValues} (hk : 24000 ≤ k)

include hk

theorem lowPhasesNs_lt {ns c : Nat} (hns : 0 < ns) :
    lowPhasesNs k l c < ns ↔ (c * l + 1) * 1000000 ≤ k * (ns - 1) := by
  have hle : lowPhasesNs k l c ≤ ns - 1 ↔ (c * l + 1) * 1000000 ≤ k * (ns - 1) :=
    ceilDiv_le_iff_le_mul (by omega)
  rw [← hle]
  omega

theorem lt_lowPhasesNs {ns c : Nat} :
    ns < lowPhasesNs k l c ↔ k * ns < (c * l + 1) * 1000000 := by
  have hle : lowPhasesNs k l c ≤ ns ↔ (c * l + 1) * 1000000 ≤ k * ns :=
    ceilDiv_le_iff_le_mul (by omega)
  rw [← not_le, hle, not_le]

omit hk in
variable (spec) in
/-- The search ends at 0, or at a count that is good. -/
theorem holdCount_spec (n : Nat) : holdCount k l spec n = 0
    ∨ (1 ≤ holdCount k l spec n ∧ holdCount k l spec n ≤ n
      ∧ lowPhasesNs k l (holdCount k l spec n) < spec.maxDataHoldNs
      ∧ spec.minDataSetupNs < lowPhasesNs k l (8 - holdCount k l spec n)) := by
  induction n with
  | zero => exact Or.inl rfl
  | succ n ih =>
    unfold holdCount
    split
    · rename_i hgood
      exact Or.inr ⟨by omega, Nat.le_refl _, hgood.1, hgood.2⟩
    · rcases ih with hzero | ⟨hpos, hle, hgood⟩
      · exact Or.inl hzero
      · exact Or.inr ⟨hpos, by omega, hgood⟩

omit hk in
/-- **The search finds a count** if 1 is good. -/
theorem holdCount_pos (hhold : lowPhasesNs k l 1 < spec.maxDataHoldNs)
    (hsetup : spec.minDataSetupNs < lowPhasesNs k l 7) (n : Nat) :
    1 ≤ holdCount k l spec (n + 1) := by
  induction n with
  | zero =>
    unfold holdCount
    rw [if_pos ⟨hhold, hsetup⟩]
  | succ n ih =>
    unfold holdCount
    split
    · omega
    · exact ih

variable (spec) in
/-- **The search finds none** if 1 is too long: every count is longer. -/
theorem holdCount_zero (hns : 0 < spec.maxDataHoldNs)
    (hlong : spec.maxDataHoldNs ≤ lowPhasesNs k l 1) (n : Nat) : holdCount k l spec n = 0 := by
  induction n with
  | zero => rfl
  | succ n ih =>
    have hnot : ¬ lowPhasesNs k l (n + 1) < spec.maxDataHoldNs := by
      intro hlt
      rw [lowPhasesNs_lt hk hns] at hlt
      have hmul : 1 * l ≤ (n + 1) * l := Nat.mul_le_mul_right l (by omega)
      have hone : lowPhasesNs k l 1 < spec.maxDataHoldNs :=
        (lowPhasesNs_lt hk hns).mpr
          ((Nat.mul_le_mul_right 1000000 (Nat.add_le_add_right hmul 1)).trans hlt)
      exact absurd hone (Nat.not_lt.mpr hlong)
    unfold holdCount
    rw [if_neg (fun h => hnot h.1)]
    exact ih

/-- **A count that the search finds**, in terms of the times. -/
theorem holdCount_good (hns : 0 < spec.maxDataHoldNs)
    (hhold : (l + 1) * 1000000 ≤ k * (spec.maxDataHoldNs - 1))
    (hsetup : k * spec.minDataSetupNs < (7 * l + 1) * 1000000) :
    (1 ≤ holdCount k l spec 3 ∧ holdCount k l spec 3 ≤ 3)
      ∧ (holdCount k l spec 3 * l + 1) * 1000000 ≤ k * (spec.maxDataHoldNs - 1)
      ∧ k * spec.minDataSetupNs < ((8 - holdCount k l spec 3) * l + 1) * 1000000 := by
  have hone : lowPhasesNs k l 1 < spec.maxDataHoldNs :=
    (lowPhasesNs_lt hk hns).mpr (by rw [Nat.one_mul]; exact hhold)
  have hpos := holdCount_pos hone ((lt_lowPhasesNs hk).mpr hsetup) 2
  rcases holdCount_spec spec (k := k) (l := l) 3 with hzero | ⟨-, hle, hgood, hgood'⟩
  · exact absurd hpos (by rw [hzero]; decide)
  · exact ⟨⟨hpos, hle⟩, (lowPhasesNs_lt hk hns).mp hgood, (lt_lowPhasesNs hk).mp hgood'⟩

end Hold

/-! ## 4. The setup counts

Where a setup count goes wrong.  If the rounding sum wraps, the quotient is 0, since what is left
of the sum is smaller than its divisor; if the divisor itself leaves the word, the checked reading
has no value.  Either way the property fails. -/

section Setup

variable {k h rise ns : Nat} (hk : 24000 ≤ k ∧ k ≤ 400000)

theorem setupCount_bounds (hpos : 0 < h) (hns : 1000000 < k * ns)
    (hle : k * ns ≤ 16000000 * h + 1000000) : 1 ≤ setupCount k h ns ∧ setupCount k h ns ≤ 2 := by
  have hbound : ∀ c, setupCount k h ns ≤ c ↔ k * ns - 1000000 ≤ 8 * 1000000 * h * c :=
    fun c => ceilDiv_le_iff_le_mul (by omega)
  constructor
  · by_contra hzero
    have hnone := (hbound 0).mp (by omega)
    omega
  · exact (hbound 2).mpr (by omega)

include hk

/-- **A rounding sum that leaves the word** makes the count 0. -/
theorem stpCfg_wraps (hns : 380 ≤ rise + ns ∧ rise + ns ≤ 5700) (hperiod : 8 * 1000000 * h < 2 ^ 32)
    (hsum : 2 ^ 32 + 1000000 < k * (rise + ns) + 8 * 1000000 * h) :
    (stpCfg (.wrapping 32) k h rise ns).run = 0 := by
  have hA := WordArith.wrapping_exact 32
  have hmin : 24000 * 380 ≤ k * (rise + ns) := Nat.mul_le_mul hk.1 hns.1
  have hmax : k * (rise + ns) ≤ 400000 * 5700 := Nat.mul_le_mul hk.2 hns.2
  unfold stpCfg
  rw [hA.add (by omega), pure_bind, hA.mul (by omega), pure_bind, hA.sub (by omega) (by omega),
    pure_bind, hA.mul hperiod, pure_bind]
  exact WordArith.divRoundUp_of_lt (by omega) hperiod (by omega)

/-- **A period that leaves the word** is no product. -/
theorem stpCfg_none (hns : 380 ≤ rise + ns ∧ rise + ns ≤ 5700)
    (hperiod : 2 ^ 32 ≤ 8 * 1000000 * h) : stpCfg (.checkedProducts 32) k h rise ns = none := by
  have hA := WordArith.checkedProducts_exact 32
  have hmin : 24000 * 380 ≤ k * (rise + ns) := Nat.mul_le_mul hk.1 hns.1
  have hmax : k * (rise + ns) ≤ 400000 * 5700 := Nat.mul_le_mul hk.2 hns.2
  have hnone : (WordArith.checkedProducts 32).mul (8 * 1000000) h = none :=
    if_neg (Nat.not_lt.mpr hperiod)
  unfold stpCfg
  rw [hA.add (by omega), pure_bind, hA.mul (by omega), pure_bind, hA.sub (by omega) (by omega),
    pure_bind, hnone]
  rfl

end Setup

/-- The dividers leave the computation of the counters in the word. -/
structure SmallDividers (k : Nat) (d : Dividers) (t : I2cTimings) (spec : I2cSpecValues) :
    Prop where
  divLow : d.divLow ≤ 570
  divHigh : 0 < d.divHigh
  times : 380 ≤ t.sclRiseNs + spec.minSetupStopNs
    ∧ t.sclRiseNs + spec.minSetupStopNs ≤ t.sclRiseNs + spec.minSetupStartNs
    ∧ t.sclRiseNs + spec.minSetupStartNs ≤ 5700
  sum : k * (t.sclRiseNs + spec.minSetupStartNs) + 8 * 1000000 * d.divHigh < 2 ^ 32 + 1000000

/-- **The counters are exact** for small dividers, in every reading. -/
theorem tuningCounts_eq {m : Type → Type} [Monad m] [LawfulMonad m] {A : WordArith m}
    (hA : A.Exact 32) {k : Nat} (hk : 24000 ≤ k ∧ k ≤ 400000) {d : Dividers} {t : I2cTimings}
    {spec : I2cSpecValues} (h : SmallDividers k d t spec) :
    tuningCounts A k d t spec = pure ⟨holdCount k d.divLow spec 3,
      setupCount k d.divHigh (t.sclRiseNs + spec.minSetupStartNs),
      setupCount k d.divHigh (t.sclRiseNs + spec.minSetupStopNs)⟩ := by
  obtain ⟨hmin, hle, hmax⟩ := h.times
  have hsum : k * (t.sclRiseNs + spec.minSetupStopNs) + 8 * 1000000 * d.divHigh
      < 2 ^ 32 + 1000000 :=
    (Nat.add_le_add_right (Nat.mul_le_mul_left k hle) _).trans_lt h.sum
  unfold tuningCounts
  rw [sdaUpdateCfg_eq hA hk h.divLow spec (by decide), pure_bind,
    stpCfg_eq hA hk ⟨hmin.trans hle, hmax⟩ h.divHigh h.sum, pure_bind,
    stpCfg_eq hA hk ⟨hmin, hle.trans hmax⟩ h.divHigh hsum, pure_bind]

/-! ## 5. From the exact counters to the property

For dividers that keep the computation in the word, the property follows from two facts about the
dividers: that one low phase and a clock are short enough to be held, and that the setup time asks
for no more than two periods of the high phase. -/

theorem tuningWord_inMask {s u p : Nat} (hs : 1 ≤ s ∧ s ≤ 3) (hu : 1 ≤ u ∧ u ≤ 2)
    (hp : 1 ≤ p ∧ p ≤ 2) : tuningWord ⟨s, u, p⟩ &&& ~~~regConTuningMask = 0 := by
  obtain ⟨hs1, hs3⟩ := hs
  obtain ⟨hu1, hu2⟩ := hu
  obtain ⟨hp1, hp2⟩ := hp
  interval_cases s <;> interval_cases u <;> interval_cases p <;> decide

section Speed

variable {clkRate : Nat} (hlow : 24000000 ≤ clkRate) (hhigh : clkRate ≤ 400000000)
  (connectionSpeed : BitVec 32)

include hlow hhigh

theorem machineDividers_eq : machineDividers clkRate connectionSpeed
    = (clkRate ⌈/⌉ 1000, speedDividers clkRate connectionSpeed) :=
  congrArg Id.run (calcDividers_speed hlow hhigh connectionSpeed (WordArith.wrapping_exact 32))

theorem machineTimings_tuning : (machineTimings clkRate connectionSpeed).2.tuning
    = tuningWord (machineCounts clkRate connectionSpeed) := by
  have hrun := rk3xI2cV1CalcTimings_run (.wrapping 32)
    (calcDividers_speed hlow hhigh connectionSpeed (WordArith.wrapping_exact 32))
  unfold machineTimings machineCounts speedCounts
  rw [hrun, machineDividers_eq hlow hhigh]
  rfl

omit hhigh in
/-- A time of the rate in kHz is one of the clock rate, in a ns more. -/
theorem hold_of_khz {x k j : Nat} (hclk : 1000 * k < clkRate + 1000) (hj : j ≤ 3449)
    (hle : x * 1000000 ≤ k * j) : x * 1000000000 ≤ (j + 1) * clkRate := by
  have hkhz : 1000 * k * j ≤ (clkRate + 999) * j := Nat.mul_le_mul_right j (by omega)
  calc x * 1000000000
      = 1000 * (x * 1000000) := by ring
    _ ≤ 1000 * (k * j) := Nat.mul_le_mul_left _ hle
    _ = 1000 * k * j := by ring
    _ ≤ (clkRate + 999) * j := hkhz
    _ = j * clkRate + 999 * j := by ring
    _ ≤ j * clkRate + clkRate := by omega
    _ = (j + 1) * clkRate := by ring

/-- The rate in kHz is in its range. -/
theorem clkRateKhz_bounds : (24000 ≤ clkRate ⌈/⌉ 1000 ∧ clkRate ⌈/⌉ 1000 ≤ 400000)
    ∧ clkRate ≤ 1000 * (clkRate ⌈/⌉ 1000) ∧ 1000 * (clkRate ⌈/⌉ 1000) < clkRate + 1000 := by
  obtain ⟨hge, hlt⟩ := WordArith.ceilDiv_bounds clkRate (d := 1000) (by decide)
  omega

/-- The counters of a speed with small dividers. -/
theorem speedCounts_eq {m : Type → Type} [Monad m] [LawfulMonad m] {A : WordArith m}
    (hA : A.Exact 32)
    (hsmall : SmallDividers (clkRate ⌈/⌉ 1000) (speedDividers clkRate connectionSpeed)
      (busTimings connectionSpeed) (speedSpec connectionSpeed)) :
    speedCounts A clkRate connectionSpeed = pure
      ⟨holdCount (clkRate ⌈/⌉ 1000) (speedDividers clkRate connectionSpeed).divLow
          (speedSpec connectionSpeed) 3,
        setupCount (clkRate ⌈/⌉ 1000) (speedDividers clkRate connectionSpeed).divHigh
          ((busTimings connectionSpeed).sclRiseNs + (speedSpec connectionSpeed).minSetupStartNs),
        setupCount (clkRate ⌈/⌉ 1000) (speedDividers clkRate connectionSpeed).divHigh
          ((busTimings connectionSpeed).sclRiseNs
            + (speedSpec connectionSpeed).minSetupStopNs)⟩ := by
  unfold speedCounts
  rw [machineDividers_eq hlow hhigh]
  exact tuningCounts_eq hA (clkRateKhz_bounds hlow hhigh).1 hsmall

/-- **Where the property holds.**  For small dividers it is enough that the count 1 of the hold time
is good, and that two periods of the high divider are enough for the setup. -/
theorem tuning_of_small
    (hsmall : SmallDividers (clkRate ⌈/⌉ 1000) (speedDividers clkRate connectionSpeed)
      (busTimings connectionSpeed) (speedSpec connectionSpeed))
    (hns : 1 ≤ (speedSpec connectionSpeed).maxDataHoldNs
      ∧ (speedSpec connectionSpeed).maxDataHoldNs ≤ 3450)
    (hhold : ((speedDividers clkRate connectionSpeed).divLow + 1) * 1000000
      ≤ (clkRate ⌈/⌉ 1000) * ((speedSpec connectionSpeed).maxDataHoldNs - 1))
    (hsetup : (clkRate ⌈/⌉ 1000) * (speedSpec connectionSpeed).minDataSetupNs
      < (7 * (speedDividers clkRate connectionSpeed).divLow + 1) * 1000000)
    (hperiod : (clkRate ⌈/⌉ 1000)
        * ((busTimings connectionSpeed).sclRiseNs + (speedSpec connectionSpeed).minSetupStartNs)
      ≤ 16000000 * (speedDividers clkRate connectionSpeed).divHigh + 1000000) :
    TuningMeetsSpec clkRate connectionSpeed := by
  obtain ⟨hk, hclk, hclk'⟩ := clkRateKhz_bounds hlow hhigh
  obtain ⟨-, hdivLow, -⟩ := machineTimings_dividers hlow hhigh connectionSpeed
  have htuning := machineTimings_tuning hlow hhigh connectionSpeed
  have hcounts := congrArg Id.run
    (speedCounts_eq hlow hhigh connectionSpeed (WordArith.wrapping_exact 32) hsmall)
  have hproducts :=
    speedCounts_eq hlow hhigh connectionSpeed (WordArith.checkedProducts_exact 32) hsmall
  obtain ⟨hmin, hle, hmax⟩ := hsmall.times
  have hmul := Nat.mul_le_mul_left (clkRate ⌈/⌉ 1000) hle
  have hpositive : 24000 * 380 ≤ (clkRate ⌈/⌉ 1000)
      * ((busTimings connectionSpeed).sclRiseNs + (speedSpec connectionSpeed).minSetupStopNs) :=
    Nat.mul_le_mul hk.1 hmin
  have hstart := setupCount_bounds hsmall.divHigh (by omega) hperiod
  have hstop := setupCount_bounds hsmall.divHigh (by omega) (hmul.trans hperiod)
  obtain ⟨hcount, hgood, hgood'⟩ := holdCount_good hk.1 hns.1 hhold hsetup
  have hholdNs := hold_of_khz hlow hclk' (by omega) hgood
  have hsetupNs := Nat.mul_le_mul_left (speedSpec connectionSpeed).minDataSetupNs hclk
  rw [Nat.sub_add_cancel hns.1] at hholdNs
  have hmachine : machineCounts clkRate connectionSpeed = _ := hcounts
  refine ⟨by rw [hproducts]; rfl, ?_, ?_, ?_, ?_, ?_, ?_⟩
  · rw [hmachine]
    dsimp only [Id.run_pure]
    omega
  · rw [hmachine]
    dsimp only [Id.run_pure]
    omega
  · rw [hmachine]
    dsimp only [Id.run_pure]
    omega
  · rw [htuning, hmachine]
    exact tuningWord_inMask hcount hstart hstop
  · rw [hmachine, hdivLow]
    exact hholdNs
  · rw [hmachine, hdivLow]
    dsimp only [Id.run_pure]
    calc (speedSpec connectionSpeed).minDataSetupNs * clkRate
        ≤ (speedSpec connectionSpeed).minDataSetupNs * (1000 * (clkRate ⌈/⌉ 1000)) := hsetupNs
      _ = 1000 * ((clkRate ⌈/⌉ 1000) * (speedSpec connectionSpeed).minDataSetupNs) := by ring
      _ ≤ 1000 * (((8 - holdCount (clkRate ⌈/⌉ 1000) (speedDividers clkRate connectionSpeed).divLow
            (speedSpec connectionSpeed) 3) * (speedDividers clkRate connectionSpeed).divLow + 1)
          * 1000000) := Nat.mul_le_mul_left 1000 hgood'.le
      _ = _ := by ring

/-! ## 6. What the property needs

The converse: a tuning word that meets the specification has a hold count of at least 1 and start
and stop counts that did not wrap.  With the section above this leaves one inequality to decide for
small dividers. -/

/-- The low phase is not longer than the hold time. -/
theorem hold_of_meets (h : TuningMeetsSpec clkRate connectionSpeed) :
    ((speedDividers clkRate connectionSpeed).divLow + 1) * 1000000000
      ≤ (speedSpec connectionSpeed).maxDataHoldNs * clkRate := by
  obtain ⟨-, hdivLow, -⟩ := machineTimings_dividers hlow hhigh connectionSpeed
  have hhold := h.hold
  rw [hdivLow] at hhold
  have hmul := Nat.mul_le_mul_right (speedDividers clkRate connectionSpeed).divLow h.sda.1
  rw [Nat.one_mul] at hmul
  exact (Nat.mul_le_mul_right _ (Nat.add_le_add_right hmul 1)).trans hhold

/-- The count 1 is good for small dividers. -/
theorem short_of_meets (h : TuningMeetsSpec clkRate connectionSpeed)
    (hsmall : SmallDividers (clkRate ⌈/⌉ 1000) (speedDividers clkRate connectionSpeed)
      (busTimings connectionSpeed) (speedSpec connectionSpeed))
    (hns : 1 ≤ (speedSpec connectionSpeed).maxDataHoldNs) :
    ((speedDividers clkRate connectionSpeed).divLow + 1) * 1000000
      ≤ (clkRate ⌈/⌉ 1000) * ((speedSpec connectionSpeed).maxDataHoldNs - 1) := by
  obtain ⟨hk, -, -⟩ := clkRateKhz_bounds hlow hhigh
  have hcounts := congrArg Id.run
    (speedCounts_eq hlow hhigh connectionSpeed (WordArith.wrapping_exact 32) hsmall)
  have hsda := h.sda.1
  unfold machineCounts at hsda
  rw [hcounts] at hsda
  by_contra hlong
  have hnot : ¬ lowPhasesNs (clkRate ⌈/⌉ 1000) (speedDividers clkRate connectionSpeed).divLow 1
      < (speedSpec connectionSpeed).maxDataHoldNs := by
    rw [lowPhasesNs_lt hk.1 hns, Nat.one_mul]
    exact hlong
  have hzero := holdCount_zero (speedSpec connectionSpeed) hk.1 hns (Nat.not_lt.mp hnot) 3
  dsimp only [Id.run_pure] at hsda
  omega

/-- The rounding sum of the start count stays in the word. -/
theorem sum_of_meets (h : TuningMeetsSpec clkRate connectionSpeed)
    (hns : 380 ≤ (busTimings connectionSpeed).sclRiseNs
        + (speedSpec connectionSpeed).minSetupStartNs
      ∧ (busTimings connectionSpeed).sclRiseNs
        + (speedSpec connectionSpeed).minSetupStartNs ≤ 5700) :
    (clkRate ⌈/⌉ 1000) * ((busTimings connectionSpeed).sclRiseNs
        + (speedSpec connectionSpeed).minSetupStartNs)
      + 8 * 1000000 * (speedDividers clkRate connectionSpeed).divHigh ≤ 2 ^ 32 + 1000000 := by
  obtain ⟨hk, -, -⟩ := clkRateKhz_bounds hlow hhigh
  have hproducts := h.products
  have hsta := h.sta.1
  unfold machineCounts at hsta
  unfold speedCounts at hproducts hsta
  rw [machineDividers_eq hlow hhigh] at hproducts hsta
  rw [tuningCounts_run] at hsta
  by_contra hover
  by_cases hperiod : 8 * 1000000 * (speedDividers clkRate connectionSpeed).divHigh < 2 ^ 32
  · rw [stpCfg_wraps hk hns hperiod (Nat.not_le.mp hover)] at hsta
    exact Nat.not_succ_le_zero 0 hsta
  · rw [tuningCounts_none _ (stpCfg_none hk hns (Nat.not_lt.mp hperiod))] at hproducts
    exact absurd hproducts (by decide)

/-- **For small dividers the property is the hold time of the count 1.** -/
theorem tuning_iff_of_small
    (hsmall : SmallDividers (clkRate ⌈/⌉ 1000) (speedDividers clkRate connectionSpeed)
      (busTimings connectionSpeed) (speedSpec connectionSpeed))
    (hns : 1 ≤ (speedSpec connectionSpeed).maxDataHoldNs
      ∧ (speedSpec connectionSpeed).maxDataHoldNs ≤ 3450)
    (hsetup : (clkRate ⌈/⌉ 1000) * (speedSpec connectionSpeed).minDataSetupNs
      < (7 * (speedDividers clkRate connectionSpeed).divLow + 1) * 1000000)
    (hperiod : (clkRate ⌈/⌉ 1000)
        * ((busTimings connectionSpeed).sclRiseNs + (speedSpec connectionSpeed).minSetupStartNs)
      ≤ 16000000 * (speedDividers clkRate connectionSpeed).divHigh + 1000000) :
    TuningMeetsSpec clkRate connectionSpeed
      ↔ ((speedDividers clkRate connectionSpeed).divLow + 1) * 1000000
        ≤ (clkRate ⌈/⌉ 1000) * ((speedSpec connectionSpeed).maxDataHoldNs - 1) :=
  ⟨fun h => short_of_meets hlow hhigh connectionSpeed h hsmall hns.1,
    fun h => tuning_of_small hlow hhigh connectionSpeed hsmall hns h hsetup hperiod⟩

end Speed

/-! ## 7. The standard mode

Both phases have the same least divider, so the surplus is halved.  Below 19 kHz the low phase
alone is longer than the hold time may be; from there on what counts is whether the rounding sum
fits, which it does not for fast clocks at low speeds. -/

/-- The dividers of equal shares. -/
theorem surplus_equal {m : Nat} (T : Nat) (hm : 0 < m) :
    (T ≤ 2 * m ∧ surplus m m T = ⟨m, m⟩)
      ∨ (2 * m < T ∧ T ≤ 2 * (surplus m m T).divLow ∧ 2 * (surplus m m T).divLow ≤ T + 1
        ∧ (surplus m m T).divLow + (surplus m m T).divHigh = T) := by
  by_cases hmore : m + m < T
  · obtain ⟨hge, hlt⟩ := surplus_share m m T hm hmore
    have htotal := surplus_total m m T hm
    generalize surplus m m T = d at *
    have htwo : d.divLow * (m + m) = m * (2 * d.divLow) := by ring
    have htwo' : m * T + (m + m) = m * (T + 2) := by ring
    rw [htwo] at hge hlt
    rw [htwo'] at hlt
    have hge' : T ≤ 2 * d.divLow := Nat.le_of_mul_le_mul_left hge hm
    have hlt' : 2 * d.divLow < T + 2 := Nat.lt_of_mul_lt_mul_left hlt
    exact Or.inr (by omega)
  · refine Or.inl ⟨by omega, ?_⟩
    unfold surplus
    rw [if_pos (by omega)]

/-- A shorter period is exceeded as often at least. -/
theorem period_lt {k p T c : Nat} (hk : 0 < k) (hT : k ≤ p * T ∧ p * T < k + p) (hc : c ≤ p) :
    c * T < k + c := by
  cases T with
  | zero => omega
  | succ j =>
    have hmul : c * j ≤ p * j := Nat.mul_le_mul_right j hc
    rw [Nat.mul_succ] at hT ⊢
    omega

section Standard

variable {k scl m T : Nat} (hk : 24000 ≤ k ∧ k ≤ 400000)
  (hm : k * 5000 ≤ 8000000 * m ∧ 8000000 * m < k * 5000 + 8000000)
  (hT : k ≤ scl * 8 * T ∧ scl * 8 * T < k + scl * 8)

include hk hm hT

/-- **Below 19 kHz** the low phase is longer than the hold time. -/
theorem standard_scl (hhold : ((surplus m m T).divLow + 1) * 1000000 ≤ 3450 * k) : 19 ≤ scl := by
  by_contra hslow
  have hscl : scl * 8 * T ≤ 144 * T := Nat.mul_le_mul_right T (by omega)
  rcases surplus_equal T (by omega : 0 < m) with ⟨hless, heq⟩ | ⟨hmore, hge, hle, htotal⟩
  · rw [heq] at hhold
    dsimp only at hhold
    omega
  · omega

omit hT in
/-- **The rounding sum of the exact dividers** is the one of half the period. -/
theorem standard_sum :
    k * 5700 + 8 * 1000000 * (surplus m m T).divHigh < 2 ^ 32 + 1000000
      ↔ 5700 * k + 8000000 * (T / 2) < 2 ^ 32 + 1000000 := by
  rcases surplus_equal T (by omega : 0 < m) with ⟨hless, heq⟩ | ⟨hmore, hge, hle, htotal⟩
  · rw [heq]
    dsimp only
    omega
  · have hhalf : (surplus m m T).divHigh = T / 2 := by omega
    rw [hhalf]
    omega

/-- From 19 kHz on, the dividers of a sum that fits are small and good for the count 1. -/
theorem standard_small (hscl : 19 ≤ scl) (hsum : 5700 * k + 8000000 * (T / 2) < 2 ^ 32 + 1000000) :
    (surplus m m T).divLow ≤ 570 ∧ m ≤ (surplus m m T).divLow ∧ m ≤ (surplus m m T).divHigh
      ∧ ((surplus m m T).divLow + 1) * 1000000 ≤ k * 3449 := by
  obtain ⟨hl, hh⟩ := surplus_least m m T
  have hperiod := period_lt (by omega) hT (by omega : 152 ≤ scl * 8)
  rcases surplus_equal T (by omega : 0 < m) with ⟨hless, heq⟩ | ⟨hmore, hge, hle, htotal⟩
  · rw [heq]
    dsimp only
    omega
  · omega

end Standard

/-! ## 8. The fast mode

The low phase has a larger share here, and for slow clocks the dividers are so small that rounding
decides.  There are finitely many triples of least dividers and total below 42 MHz, and a table
goes through them; two of them are too long for the hold time, and each belongs to a narrow band of
clocks. -/

/-- The least clock for the dividers of the fast mode. -/
def fastClkMin (ml mh T : Nat) : Nat :=
  max (max 24000 (5000 * (ml - 1) + 1)) (max (80000 * (mh - 1) / 9 + 1) (800 * (T - 1) + 1))

/-- The greatest clock for the dividers of the fast mode. -/
def fastClkMax (ml mh : Nat) : Nat := min (5000 * ml) (80000 * mh / 9)

/-- **Below 42 MHz** the count 1 is good for every triple but two. -/
theorem fast_table : ∀ (ml : Fin 10) (mh : Fin 6) (T : Fin 54),
    fastClkMin ml mh T ≤ fastClkMax ml mh →
      (ml.val = 6 ∧ mh.val = 3 ∧ (T.val = 32 ∨ T.val = 34))
        ∨ ((surplus ml mh T).divLow + 1) * 1000000 ≤ fastClkMin ml mh T * 899 := by
  decide +kernel

section Fast

variable {k scl ml mh T : Nat} (hk : 24000 ≤ k ∧ k ≤ 400000) (hscl : 100 ≤ scl)
  (hml : k * 1600 ≤ 8000000 * ml ∧ 8000000 * ml < k * 1600 + 8000000)
  (hmh : k * 900 ≤ 8000000 * mh ∧ 8000000 * mh < k * 900 + 8000000)
  (hT : k ≤ scl * 8 * T ∧ scl * 8 * T < k + scl * 8)

include hk hscl hml hmh hT

omit hk hscl hml hmh in
/-- The period of a clock between two multiples. -/
theorem period_eq {q : Nat} (hmore : scl * 8 * q < k) (hle : k ≤ scl * 8 * (q + 1)) :
    T = q + 1 := by
  have hlt : q < T := Nat.lt_of_mul_lt_mul_left (hmore.trans_le hT.1)
  have hsucc : scl * 8 * (q + 2) = scl * 8 * (q + 1) + scl * 8 := by ring
  have hlt' : T < q + 2 := Nat.lt_of_mul_lt_mul_left
    (calc scl * 8 * T < k + scl * 8 := hT.2
      _ ≤ scl * 8 * (q + 1) + scl * 8 := Nat.add_le_add_right hle _
      _ = scl * 8 * (q + 2) := hsucc.symm)
  omega

theorem fast_small : (surplus ml mh T).divLow ≤ 570 ∧ ml ≤ (surplus ml mh T).divLow
    ∧ mh ≤ (surplus ml mh T).divHigh
    ∧ k * 900 + 8 * 1000000 * (surplus ml mh T).divHigh < 2 ^ 32 + 1000000 := by
  have hperiod := period_lt (by omega) hT (by omega : 800 ≤ scl * 8)
  obtain ⟨hl, hh⟩ := surplus_least ml mh T
  have htotal := surplus_total ml mh T (by omega)
  omega

/-- **From 42 MHz on**, the count 1 is good. -/
theorem fast_large (hlarge : 42000 ≤ k) :
    ((surplus ml mh T).divLow + 1) * 1000000 ≤ k * 899 := by
  have hperiod := period_lt (by omega) hT (by omega : 800 ≤ scl * 8)
  by_cases hmore : ml + mh < T
  · obtain ⟨-, hlt⟩ := surplus_share ml mh T (by omega) hmore
    generalize (surplus ml mh T).divLow = l at hlt ⊢
    by_contra hlong
    have hlow : 5000 * ml ≤ k + 4999 := by omega
    have hhigh : 9 * k ≤ 80000 * mh := by omega
    have hover : k * 899 + 1 ≤ (l + 1) * 1000000 := by omega
    nlinarith [Nat.mul_le_mul hover (Nat.le_refl (ml + mh))]
  · unfold surplus
    rw [if_pos (by omega)]
    dsimp only
    omega

/-- **The two bands of clocks** for which the count 1 is too long. -/
theorem fast_hold : ((surplus ml mh T).divLow + 1) * 1000000 ≤ k * 899
    ↔ ¬ (25000 < k ∧ 248 * scl < k ∧ k ≤ 25583) ∧ ¬ (264 * scl < k ∧ k ≤ 26666) := by
  have hperiod := period_lt (by omega) hT (by omega : 800 ≤ scl * 8)
  by_cases hlarge : 42000 ≤ k
  · have hgood := fast_large hk hscl hml hmh hT hlarge
    exact ⟨fun _ => ⟨by omega, by omega⟩, fun _ => hgood⟩
  constructor
  · intro hgood
    constructor
    · rintro ⟨hmin, hmore, hle⟩
      have hT32 : T = 32 := period_eq (q := 31) hT (by omega) (by omega)
      obtain ⟨rfl, rfl⟩ : ml = 6 ∧ mh = 3 := by omega
      have hdividers : (surplus 6 3 32).divLow = 22 := by decide
      rw [hT32, hdividers] at hgood
      omega
    · rintro ⟨hmore, hle⟩
      have hT34 : T = 34 := period_eq (q := 33) hT (by omega) (by omega)
      obtain ⟨rfl, rfl⟩ : ml = 6 ∧ mh = 3 := by omega
      have hdividers : (surplus 6 3 34).divLow = 23 := by decide
      rw [hT34, hdividers] at hgood
      omega
  · rintro ⟨hfirst, hsecond⟩
    have hmin : fastClkMin ml mh T ≤ k := by
      unfold fastClkMin
      omega
    have hmax : k ≤ fastClkMax ml mh := by
      unfold fastClkMax
      omega
    rcases fast_table ⟨ml, by omega⟩ ⟨mh, by omega⟩ ⟨T, by omega⟩ (hmin.trans hmax) with
      ⟨rfl, rfl, rfl | rfl⟩ | hgood
    · have hdividers : (surplus 6 3 32).divLow = 22 := by decide
      rw [hdividers]
      omega
    · have hdividers : (surplus 6 3 34).divLow = 23 := by decide
      rw [hdividers]
      omega
    · exact hgood.trans (Nat.mul_le_mul_right 899 hmin)

end Fast

/-! ## 9. The fast mode plus

The speeds are high enough that the low phase is always short and nothing comes near the end of the
word, so the property holds without a condition. -/

section FastPlus

variable {k scl ml mh T : Nat} (hk : 24000 ≤ k ∧ k ≤ 400000) (hscl : 400 ≤ scl)
  (hml : k * 620 ≤ 8000000 * ml ∧ 8000000 * ml < k * 620 + 8000000)
  (hmh : k * 380 ≤ 8000000 * mh ∧ 8000000 * mh < k * 380 + 8000000)
  (hT : k ≤ scl * 8 * T ∧ scl * 8 * T < k + scl * 8)

include hk hscl hml hmh hT

/-- **The dividers of the fast mode plus** are small and good for the count 1. -/
theorem fastPlus_small : (surplus ml mh T).divLow ≤ 570 ∧ ml ≤ (surplus ml mh T).divLow
    ∧ mh ≤ (surplus ml mh T).divHigh
    ∧ k * 380 + 8 * 1000000 * (surplus ml mh T).divHigh < 2 ^ 32 + 1000000
    ∧ ((surplus ml mh T).divLow + 1) * 1000000 ≤ k * 399 := by
  have hperiod := period_lt (by omega) hT (by omega : 3200 ≤ scl * 8)
  obtain ⟨hl, hh⟩ := surplus_least ml mh T
  have htotal := surplus_total ml mh T (by omega)
  omega

end FastPlus

/-! ## 10. When the tuning word meets the specification

The three modes together give the condition for all clocks and speeds, and the concrete case of one
of the bands of the fast mode shows what the failure looks like. -/

/-- **The clocks and speeds without a defect.**  In standard mode the speed is at least 19 kHz, and
the rounding sum for half the period fits; in fast mode the clock is outside two narrow bands, above
a multiple of the speed. -/
structure TuningFits (clkRate : Nat) (connectionSpeed : BitVec 32) : Prop where
  standard : connectionSpeed.toNat ≤ 100000 →
    19 ≤ (busTimings connectionSpeed).busFreqHz / 1000
      ∧ 5700 * (clkRate ⌈/⌉ 1000)
          + 8000000 * ((clkRate ⌈/⌉ 1000) ⌈/⌉ ((busTimings connectionSpeed).busFreqHz / 1000 * 8) / 2)
        < 2 ^ 32 + 1000000
  fast : 100000 < connectionSpeed.toNat → connectionSpeed.toNat ≤ 400000 →
    ¬ (25000 < clkRate ⌈/⌉ 1000
        ∧ 248 * ((busTimings connectionSpeed).busFreqHz / 1000) < clkRate ⌈/⌉ 1000
        ∧ clkRate ⌈/⌉ 1000 ≤ 25583)
      ∧ ¬ (264 * ((busTimings connectionSpeed).busFreqHz / 1000) < clkRate ⌈/⌉ 1000
        ∧ clkRate ⌈/⌉ 1000 ≤ 26666)

section Speed

variable {clkRate : Nat} (hlow : 24000000 ≤ clkRate) (hhigh : clkRate ≤ 400000000)
  (connectionSpeed : BitVec 32)

include hlow hhigh

theorem tuning_iff_standard {freq : Nat} (hfreq : 1000 ≤ freq ∧ freq ≤ 100000)
    (htimings : busTimings connectionSpeed = ⟨freq, 1000, 300⟩)
    (hspec : speedSpec connectionSpeed = standardModeSpec) :
    TuningMeetsSpec clkRate connectionSpeed
      ↔ 19 ≤ freq / 1000 ∧ 5700 * (clkRate ⌈/⌉ 1000)
          + 8000000 * ((clkRate ⌈/⌉ 1000) ⌈/⌉ (freq / 1000 * 8) / 2) < 2 ^ 32 + 1000000 := by
  obtain ⟨hk, hclk, hclk'⟩ := clkRateKhz_bounds hlow hhigh
  have hmeets := hold_of_meets hlow hhigh connectionSpeed
  have hsum := sum_of_meets hlow hhigh connectionSpeed
  have hsmall := tuning_of_small hlow hhigh connectionSpeed
  have hT := WordArith.ceilDiv_bounds (clkRate ⌈/⌉ 1000) (by omega : 0 < freq / 1000 * 8)
  have hm := WordArith.ceilDiv_bounds ((clkRate ⌈/⌉ 1000) * 5000) (by decide : 0 < 8 * 1000000)
  unfold speedDividers leastDiv at hmeets hsum hsmall
  rw [htimings, hspec] at hmeets hsum hsmall
  dsimp only [standardModeSpec] at hmeets hsum hsmall
  generalize clkRate ⌈/⌉ 1000 = k at *
  generalize k ⌈/⌉ (freq / 1000 * 8) = T at *
  generalize (k * 5000) ⌈/⌉ (8 * 1000000) = m at *
  constructor
  · intro h
    have hhold := hmeets h
    have hscl := standard_scl hk hm hT (by linarith)
    have hle := hsum h (by decide)
    exact ⟨hscl, (standard_sum hk hm).mp (by omega)⟩
  · rintro ⟨hscl, hfits⟩
    obtain ⟨hl, hleast, hleast', hhold⟩ := standard_small hk hm hT hscl hfits
    have hm1 : 0 < m := by omega
    refine hsmall ⟨hl, hm1.trans_le hleast', ⟨by simp, by simp, by simp⟩, ?_⟩ (by decide) hhold ?_ ?_
    · exact (standard_sum hk hm).mpr hfits
    · omega
    · linarith

theorem tuning_iff_fast {freq : Nat} (hfreq : 100000 < freq ∧ freq ≤ 400000)
    (htimings : busTimings connectionSpeed = ⟨freq, 300, 300⟩)
    (hspec : speedSpec connectionSpeed = fastModeSpec) :
    TuningMeetsSpec clkRate connectionSpeed
      ↔ ¬ (25000 < clkRate ⌈/⌉ 1000 ∧ 248 * (freq / 1000) < clkRate ⌈/⌉ 1000
          ∧ clkRate ⌈/⌉ 1000 ≤ 25583)
        ∧ ¬ (264 * (freq / 1000) < clkRate ⌈/⌉ 1000 ∧ clkRate ⌈/⌉ 1000 ≤ 26666) := by
  obtain ⟨hk, hclk, hclk'⟩ := clkRateKhz_bounds hlow hhigh
  have hiff := tuning_iff_of_small hlow hhigh connectionSpeed
  have hT := WordArith.ceilDiv_bounds (clkRate ⌈/⌉ 1000) (by omega : 0 < freq / 1000 * 8)
  have hml := WordArith.ceilDiv_bounds ((clkRate ⌈/⌉ 1000) * 1600) (by decide : 0 < 8 * 1000000)
  have hmh := WordArith.ceilDiv_bounds ((clkRate ⌈/⌉ 1000) * 900) (by decide : 0 < 8 * 1000000)
  unfold speedDividers leastDiv at hiff
  rw [htimings, hspec] at hiff
  dsimp only [fastModeSpec] at hiff
  generalize clkRate ⌈/⌉ 1000 = k at *
  generalize k ⌈/⌉ (freq / 1000 * 8) = T at *
  obtain ⟨ml, hml'⟩ : ∃ ml, (k * 1600) ⌈/⌉ (8 * 1000000) = ml := ⟨_, rfl⟩
  rw [hml'] at hiff hml
  obtain ⟨mh, hmh'⟩ : ∃ mh, (k * 900) ⌈/⌉ (8 * 1000000) = mh := ⟨_, rfl⟩
  rw [hmh'] at hiff hmh
  have hscl : 100 ≤ freq / 1000 := by omega
  have hmh1 : 0 < mh := by omega
  obtain ⟨hl, hleast, hleast', hsum⟩ := fast_small hk hscl hml hmh hT
  rw [← fast_hold hk hscl hml hmh hT]
  refine hiff ⟨hl, ?_, ⟨by simp, by simp, by simp⟩, hsum⟩ (by decide) ?_ ?_
  · exact hmh1.trans_le hleast'
  · linarith
  · linarith

theorem tuning_of_fastPlus {freq : Nat} (hfreq : 400000 < freq ∧ freq ≤ 1000000)
    (htimings : busTimings connectionSpeed = ⟨freq, 120, 120⟩)
    (hspec : speedSpec connectionSpeed = fastModePlusSpec) :
    TuningMeetsSpec clkRate connectionSpeed := by
  obtain ⟨hk, hclk, hclk'⟩ := clkRateKhz_bounds hlow hhigh
  have hsmall := tuning_of_small hlow hhigh connectionSpeed
  have hT := WordArith.ceilDiv_bounds (clkRate ⌈/⌉ 1000) (by omega : 0 < freq / 1000 * 8)
  have hml := WordArith.ceilDiv_bounds ((clkRate ⌈/⌉ 1000) * 620) (by decide : 0 < 8 * 1000000)
  have hmh := WordArith.ceilDiv_bounds ((clkRate ⌈/⌉ 1000) * 380) (by decide : 0 < 8 * 1000000)
  unfold speedDividers leastDiv at hsmall
  rw [htimings, hspec] at hsmall
  dsimp only [fastModePlusSpec] at hsmall
  generalize clkRate ⌈/⌉ 1000 = k at *
  generalize k ⌈/⌉ (freq / 1000 * 8) = T at *
  obtain ⟨ml, hml'⟩ : ∃ ml, (k * 620) ⌈/⌉ (8 * 1000000) = ml := ⟨_, rfl⟩
  rw [hml'] at hsmall hml
  obtain ⟨mh, hmh'⟩ : ∃ mh, (k * 380) ⌈/⌉ (8 * 1000000) = mh := ⟨_, rfl⟩
  rw [hmh'] at hsmall hmh
  have hmh1 : 0 < mh := by omega
  obtain ⟨hl, hleast, hleast', hsum, hhold⟩ := fastPlus_small hk (by omega) hml hmh hT
  refine hsmall ⟨hl, ?_, ⟨by simp, by simp, by simp⟩, hsum⟩ (by decide) hhold ?_ ?_
  · exact hmh1.trans_le hleast'
  · linarith
  · linarith

/-- **The tuning word meets the specification** exactly for the clocks and speeds without a defect.
In each of the three modes the property comes down to the hold time of one low phase and to a
rounding sum that has to fit into the word, and both are compared with the clock and the speed. -/
theorem tuning_meets_spec_iff :
    ((machineTimings clkRate connectionSpeed).1 = .success →
        TuningMeetsSpec clkRate connectionSpeed)
      ↔ TuningFits clkRate connectionSpeed := by
  obtain ⟨hsuccess, -, -⟩ := machineTimings_dividers hlow hhigh connectionSpeed
  have hneeds : ((machineTimings clkRate connectionSpeed).1 = .success →
      TuningMeetsSpec clkRate connectionSpeed) ↔ TuningMeetsSpec clkRate connectionSpeed :=
    ⟨fun h => h hsuccess, fun h _ => h⟩
  rw [hneeds]
  by_cases hstandard : connectionSpeed.toNat ≤ 100000
  · obtain ⟨htimings, hspec⟩ := busTimings_standard connectionSpeed hstandard
    rw [tuning_iff_standard hlow hhigh connectionSpeed (by omega) htimings hspec]
    constructor
    · intro h
      refine ⟨fun _ => ?_, fun hnot => absurd hstandard (Nat.not_le.mpr hnot)⟩
      rw [htimings]
      exact h
    · intro h
      have hfits := h.standard hstandard
      rw [htimings] at hfits
      exact hfits
  by_cases hfast : connectionSpeed.toNat ≤ 400000
  · obtain ⟨htimings, hspec⟩ := busTimings_fast connectionSpeed (Nat.not_le.mp hstandard) hfast
    rw [tuning_iff_fast hlow hhigh connectionSpeed (by omega) htimings hspec]
    constructor
    · intro h
      refine ⟨fun hnot => absurd hnot hstandard, fun _ _ => ?_⟩
      rw [htimings]
      exact h
    · intro h
      have hfits := h.fast (Nat.not_le.mp hstandard) hfast
      rw [htimings] at hfits
      exact hfits
  · obtain ⟨htimings, hspec⟩ := busTimings_fastPlus connectionSpeed (Nat.not_le.mp hfast)
    have hmeets := tuning_of_fastPlus hlow hhigh connectionSpeed (by omega) htimings hspec
    exact ⟨fun _ => ⟨fun hnot => absurd hnot hstandard, fun _ hnot => absurd hnot hfast⟩,
      fun _ => hmeets⟩

end Speed

/-- 200 MHz at 400 kHz. -/
theorem tuning_meets_spec_iff_of_fast :
    ((machineTimings 200000000 400000).1 = .success → TuningMeetsSpec 200000000 400000)
      ↔ TuningFits 200000000 400000 :=
  tuning_meets_spec_iff (by decide) (by decide) 400000

/-- **A clock of 25.3 MHz at 100001 Hz** has no hold count: the search ends at 0, and the word is
`0xFFFFFF00`. -/
theorem fast_speed_no_hold :
    ¬ ((machineTimings 25300000 100001).1 = .success → TuningMeetsSpec 25300000 100001) := by
  intro h
  have hsuccess : (machineTimings 25300000 100001).1 = .success := by decide +kernel
  have hzero : (machineCounts 25300000 100001).sdaUpdateCfg = 0 := by decide +kernel
  have hsda := (h hsuccess).sda.1
  rw [hzero] at hsda
  exact Nat.not_succ_le_zero 0 hsda

end WoaRk3576.I2c
