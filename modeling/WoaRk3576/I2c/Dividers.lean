/-
# The dividers of SCL

For a clock of 24 MHz to 400 MHz, nothing in the computation of the dividers leaves the word, so
the machine computes the exact ones (`calcDividers_eq`): the least dividers for the two times
(`leastDiv`), and what is missing to the period of the requested speed, shared by their scale
(`surplus`).  `dividers_meet_spec` is what these numbers are for.

The proof is in two halves.  That each operation stays in the word is a bound on its operands,
taken along the computation once for every reading of it (`WordArith.Exact`); the largest product
is that of the clock in kHz and of the longest time.  What is left is a statement about natural
numbers with quotients that round up.  The times are met since a least divider meets its own and
the surplus only adds to it.  The frequency is met since the two dividers together are the total
for the requested period or more (`surplus_total`), with the rounding of the shares going to the
low one.

The speed is any word: one below 1 kHz or above 1 MHz is replaced by the bound first, and what is
met is then the frequency of the bound.
-/
import Mathlib.Tactic.Ring
import Mathlib.Tactic.Linarith
import WoaRk3576.I2c.Clocks

namespace WoaRk3576.I2c

open WoaRk3576.Lib

/-! ## 1. The property

The property is stated in ns and Hz, without a division: a time of `d` dividers of eight clock
periods is compared with what is asked by multiplying out, so rounding can hide nothing. -/

/-- **The dividers meet the specification**, for times in ns and rates in Hz: the low time and the
high time have their least length and the edge, the frequency is not above the requested one (kept
between 1 kHz and 1 MHz), the registers are in their range, and no operation leaves the word. -/
structure DividersMeetSpec (clkRate : Nat) (connectionSpeed : BitVec 32) (calced : CalcedTimings) :
    Prop where
  low : ((speedSpec connectionSpeed).minLowNs + (updateClockSettings connectionSpeed).sclFallNs)
    * clkRate ≤ 8 * (calced.divLow + 1) * 1000000000
  high : ((speedSpec connectionSpeed).minHighNs + (updateClockSettings connectionSpeed).sclRiseNs)
    * clkRate ≤ 8 * (calced.divHigh + 1) * 1000000000
  frequency : clkRate ≤ 8 * ((calced.divLow + 1) + (calced.divHigh + 1))
    * min (max connectionSpeed.toNat 1000) 1000000
  divLow : 1 ≤ calced.divLow ∧ calced.divLow ≤ 0xffff
  divHigh : 1 ≤ calced.divHigh ∧ calced.divHigh ≤ 0xffff
  inWord : calcDividers (.checked 32) clkRate (busTimings connectionSpeed)
      (speedSpec connectionSpeed)
    = some (calcDividers (.wrapping 32) clkRate (busTimings connectionSpeed)
      (speedSpec connectionSpeed)).run

/-! ## 2. The exact dividers

The dividers in unbounded arithmetic.  There is a least divider for each phase and a total for the
frequency; if the total is larger, the surplus is shared in the ratio of the least ones.  The share
is rounded up for the low phase and the high phase gets the rest, which is what makes the sum
exactly the total. -/

/-- The least divider for a time. -/
def leastDiv (clkRateKhz ns : Nat) : Nat := (clkRateKhz * ns) ⌈/⌉ (8 * 1000000)

/-- The dividers for a total. -/
def surplus (minLowDiv minHighDiv minTotalDiv : Nat) : Dividers :=
  if minTotalDiv ≤ minLowDiv + minHighDiv then ⟨minLowDiv, minHighDiv⟩
  else
    ⟨minLowDiv + (minLowDiv * (minTotalDiv - (minLowDiv + minHighDiv))) ⌈/⌉ (minLowDiv + minHighDiv),
      minHighDiv + (minTotalDiv - (minLowDiv + minHighDiv)
        - (minLowDiv * (minTotalDiv - (minLowDiv + minHighDiv))) ⌈/⌉ (minLowDiv + minHighDiv))⟩

section Surplus

variable (ml mh T : Nat)

/-- The low part of a surplus is a part of it. -/
theorem extraLow_le (e : Nat) (hl : 0 < ml) : (ml * e) ⌈/⌉ (ml + mh) ≤ e :=
  (ceilDiv_le_iff_le_mul (by omega)).mpr (Nat.mul_le_mul_right e (Nat.le_add_right ml mh))

theorem surplus_least : ml ≤ (surplus ml mh T).divLow ∧ mh ≤ (surplus ml mh T).divHigh := by
  unfold surplus
  split
  · exact ⟨Nat.le_refl _, Nat.le_refl _⟩
  · exact ⟨Nat.le_add_right _ _, Nat.le_add_right _ _⟩

/-- **The dividers are the total**, or the least ones. -/
theorem surplus_total (hl : 0 < ml) :
    (surplus ml mh T).divLow + (surplus ml mh T).divHigh = max T (ml + mh) := by
  have hle := extraLow_le ml mh (T - (ml + mh)) hl
  unfold surplus
  split
  · dsimp only
    omega
  · dsimp only
    omega

/-- Small parts and a small total give small dividers. -/
theorem surplus_bounds (hl : 2 ≤ ml ∧ ml ≤ 250) (hh : 2 ≤ mh ∧ mh ≤ 250) (hT : T ≤ 50000) :
    2 ≤ (surplus ml mh T).divLow ∧ 2 ≤ (surplus ml mh T).divHigh
      ∧ (surplus ml mh T).divLow + (surplus ml mh T).divHigh ≤ 50000 := by
  obtain ⟨hlow, hhigh⟩ := surplus_least ml mh T
  have htotal := surplus_total ml mh T (by omega)
  omega

/-- **The low divider is its share of the total**, rounded up. -/
theorem surplus_share (hl : 0 < ml) (hmore : ml + mh < T) :
    ml * T ≤ (surplus ml mh T).divLow * (ml + mh)
      ∧ (surplus ml mh T).divLow * (ml + mh) < ml * T + (ml + mh) := by
  obtain ⟨hge, hlt⟩ := WordArith.ceilDiv_bounds (ml * (T - (ml + mh))) (d := ml + mh) (by omega)
  unfold surplus
  rw [if_neg (by omega)]
  dsimp only
  generalize (ml * (T - (ml + mh))) ⌈/⌉ (ml + mh) = c at hge hlt ⊢
  obtain ⟨e, rfl⟩ := Nat.exists_eq_add_of_le hmore.le
  rw [Nat.add_sub_cancel_left] at hge hlt
  have hshare : (ml + c) * (ml + mh) = ml * (ml + mh) + (ml + mh) * c := by ring
  have htotal : ml * (ml + mh + e) = ml * (ml + mh) + ml * e := by ring
  rw [hshare, htotal]
  omega

end Surplus

/-! ## 3. The computation stays in the word

Every intermediate value of the routine is bounded for the clock rates and times that the driver is
for, and the largest of them is below 2 ^ 32.  So no operation wraps, and all readings of the
computation agree with the exact one. -/

/-- A clock rate, a speed and times in the range that the driver is for. -/
structure InRange (clkRateKhz sclRateKhz highNs lowNs : Nat) : Prop where
  clk : 24000 ≤ clkRateKhz ∧ clkRateKhz ≤ 400000
  scl : 1 ≤ sclRateKhz ∧ sclRateKhz ≤ 1000
  high : 380 ≤ highNs ∧ highNs ≤ 5000
  low : 380 ≤ lowNs ∧ lowNs ≤ 5000

/-- The least dividers are small, and at least 2. -/
theorem leastDiv_bounds {k ns : Nat} (hk : 24000 ≤ k ∧ k ≤ 400000) (hns : 380 ≤ ns ∧ ns ≤ 5000) :
    2 ≤ leastDiv k ns ∧ leastDiv k ns ≤ 250 ∧ k * ns ≤ 8000000 * leastDiv k ns
      ∧ k * ns ≤ 2000000000 := by
  have hmin : 24000 * 380 ≤ k * ns := Nat.mul_le_mul hk.1 hns.1
  have hmax : k * ns ≤ 400000 * 5000 := Nat.mul_le_mul hk.2 hns.2
  obtain ⟨hge, hlt⟩ := WordArith.ceilDiv_bounds (k * ns) (d := 8 * 1000000) (by decide)
  unfold leastDiv
  omega

section Exact

variable {m : Type → Type} [Monad m] [LawfulMonad m] {A : WordArith m} (hA : A.Exact 32)

include hA

theorem minDiv_eq {k ns : Nat} (hk : 24000 ≤ k ∧ k ≤ 400000) (hns : 380 ≤ ns ∧ ns ≤ 5000) :
    minDiv A k ns = pure (leastDiv k ns) := by
  obtain ⟨hge, hle, -, hproduct⟩ := leastDiv_bounds hk hns
  have hdiv : A.divRoundUp (k * ns) (8 * 1000000) = pure (leastDiv k ns) :=
    hA.divRoundUp (by omega) (by decide)
  unfold minDiv
  rw [hA.mul (by omega), pure_bind, hdiv, pure_bind, if_neg (by omega)]

theorem distribute_eq {ml mh T : Nat} (hl : 2 ≤ ml ∧ ml ≤ 250) (hh : 2 ≤ mh ∧ mh ≤ 250)
    (hT : T ≤ 50000) (hmore : ml + mh < T) :
    distribute A ml mh (ml + mh) T = pure (surplus ml mh T) := by
  have hproduct : ml * (T - (ml + mh)) ≤ 250 * 50000 :=
    Nat.mul_le_mul hl.2 ((Nat.sub_le _ _).trans hT)
  have hle := extraLow_le ml mh (T - (ml + mh)) (by omega : 0 < ml)
  unfold distribute surplus
  rw [hA.sub (by omega) hmore.le, pure_bind, hA.mul (by omega), pure_bind,
    hA.divRoundUp (by omega) (by omega), pure_bind, hA.add (by omega), pure_bind,
    hA.sub (by omega) hle, pure_bind, hA.add (by omega), pure_bind, if_neg (by omega)]

/-- **The machine computes the exact dividers**, and so does every reading of the computation. -/
theorem calcDividers_eq {clkRate : Nat} {t : I2cTimings} {spec : I2cSpecValues}
    (h : InRange (clkRate ⌈/⌉ 1000) (t.busFreqHz / 1000) (t.sclRiseNs + spec.minHighNs)
      (t.sclFallNs + spec.minLowNs)) :
    calcDividers A clkRate t spec = pure (clkRate ⌈/⌉ 1000,
      surplus (leastDiv (clkRate ⌈/⌉ 1000) (t.sclFallNs + spec.minLowNs))
        (leastDiv (clkRate ⌈/⌉ 1000) (t.sclRiseNs + spec.minHighNs))
        ((clkRate ⌈/⌉ 1000) ⌈/⌉ (t.busFreqHz / 1000 * 8))) := by
  obtain ⟨hk, hs, hhigh, hlow⟩ := h
  obtain ⟨hclk, -⟩ := WordArith.ceilDiv_bounds clkRate (d := 1000) (by decide)
  unfold calcDividers
  rw [hA.divRoundUp (by omega) (by decide), pure_bind, hA.div _ (by decide), pure_bind]
  generalize clkRate ⌈/⌉ 1000 = k at hk ⊢
  generalize t.busFreqHz / 1000 = s at hs ⊢
  obtain ⟨hl2, hl250, -, -⟩ := leastDiv_bounds hk hlow
  obtain ⟨hh2, hh250, -, -⟩ := leastDiv_bounds hk hhigh
  have htotal : k ⌈/⌉ (s * 8) ≤ 50000 := (ceilDiv_le_iff_le_mul (by omega)).mpr (by omega)
  rw [hA.mul (by omega), pure_bind, hA.divRoundUp (by omega) (by omega), pure_bind,
    hA.add (by omega), pure_bind, minDiv_eq hA hk hhigh, pure_bind, hA.add (by omega), pure_bind,
    minDiv_eq hA hk hlow, pure_bind, hA.add (by omega), pure_bind]
  split
  · rename_i hleast
    rw [surplus, if_pos hleast]
  · rename_i hmore
    rw [distribute_eq hA ⟨hl2, hl250⟩ ⟨hh2, hh250⟩ htotal (Nat.not_le.mp hmore), pure_bind]

end Exact

/-! ## 4. The dividers of a speed

The two parts meet here: what is computed for a clock and a speed is the exact pair of dividers,
and the exact pair reaches the least times and the total.  The registers hold them less one, and
both are small enough for that. -/

/-- Every speed is in the range. -/
theorem inRange_of_clkRate {clkRate : Nat} (hlow : 24000000 ≤ clkRate) (hhigh : clkRate ≤ 400000000)
    (connectionSpeed : BitVec 32) :
    InRange (clkRate ⌈/⌉ 1000) ((busTimings connectionSpeed).busFreqHz / 1000)
      ((busTimings connectionSpeed).sclRiseNs + (speedSpec connectionSpeed).minHighNs)
      ((busTimings connectionSpeed).sclFallNs + (speedSpec connectionSpeed).minLowNs) := by
  obtain ⟨hge, hlt⟩ := WordArith.ceilDiv_bounds clkRate (d := 1000) (by decide)
  have hclk : 24000 ≤ clkRate ⌈/⌉ 1000 ∧ clkRate ⌈/⌉ 1000 ≤ 400000 := by omega
  have hclass := speedClass connectionSpeed
  generalize busTimings connectionSpeed = t at hclass ⊢
  generalize speedSpec connectionSpeed = spec at hclass ⊢
  cases hclass with
  | standard h => exact ⟨hclk, by dsimp only; omega, by dsimp only; decide, by dsimp only; decide⟩
  | fast h h' => exact ⟨hclk, by dsimp only; omega, by dsimp only; decide, by dsimp only; decide⟩
  | fastPlus h => exact ⟨hclk, by dsimp only; omega, by dsimp only; decide, by dsimp only; decide⟩

/-- The exact dividers of a speed. -/
def speedDividers (clkRate : Nat) (connectionSpeed : BitVec 32) : Dividers :=
  surplus
    (leastDiv (clkRate ⌈/⌉ 1000)
      ((busTimings connectionSpeed).sclFallNs + (speedSpec connectionSpeed).minLowNs))
    (leastDiv (clkRate ⌈/⌉ 1000)
      ((busTimings connectionSpeed).sclRiseNs + (speedSpec connectionSpeed).minHighNs))
    ((clkRate ⌈/⌉ 1000) ⌈/⌉ ((busTimings connectionSpeed).busFreqHz / 1000 * 8))

section Speed

variable {clkRate : Nat} (hlow : 24000000 ≤ clkRate) (hhigh : clkRate ≤ 400000000)
  (connectionSpeed : BitVec 32)

include hlow hhigh

/-- **The dividers are small, and at least 2.** -/
theorem speedDividers_bounds : 2 ≤ (speedDividers clkRate connectionSpeed).divLow
    ∧ 2 ≤ (speedDividers clkRate connectionSpeed).divHigh
    ∧ (speedDividers clkRate connectionSpeed).divLow
      + (speedDividers clkRate connectionSpeed).divHigh ≤ 50000 := by
  obtain ⟨hclk, hscl, hhighNs, hlowNs⟩ := inRange_of_clkRate hlow hhigh connectionSpeed
  obtain ⟨hl2, hl250, -, -⟩ := leastDiv_bounds hclk hlowNs
  obtain ⟨hh2, hh250, -, -⟩ := leastDiv_bounds hclk hhighNs
  have htotal : (clkRate ⌈/⌉ 1000) ⌈/⌉ ((busTimings connectionSpeed).busFreqHz / 1000 * 8)
      ≤ 50000 := (ceilDiv_le_iff_le_mul (by omega)).mpr (by omega)
  exact surplus_bounds _ _ _ ⟨hl2, hl250⟩ ⟨hh2, hh250⟩ htotal

/-- The dividers of the computation are the exact ones. -/
theorem calcDividers_speed {m : Type → Type} [Monad m] [LawfulMonad m] {A : WordArith m}
    (hA : A.Exact 32) :
    calcDividers A clkRate (busTimings connectionSpeed) (speedSpec connectionSpeed)
      = pure (clkRate ⌈/⌉ 1000, speedDividers clkRate connectionSpeed) :=
  calcDividers_eq hA (inRange_of_clkRate hlow hhigh connectionSpeed)

/-- **What the machine computes**: success, and the exact dividers, each less one while it fits. -/
theorem machineTimings_dividers :
    (machineTimings clkRate connectionSpeed).1 = .success
      ∧ (machineTimings clkRate connectionSpeed).2.divLow + 1
        = (speedDividers clkRate connectionSpeed).divLow
      ∧ (machineTimings clkRate connectionSpeed).2.divHigh + 1
        = (speedDividers clkRate connectionSpeed).divHigh := by
  obtain ⟨hl, hh, hsum⟩ := speedDividers_bounds hlow hhigh connectionSpeed
  have hsub : ∀ d : Nat, 2 ≤ d → d ≤ 50000 → ((WordArith.wrapping 32).sub d 1).run = d - 1 := by
    intro d hpos hle
    exact congrArg Id.run ((WordArith.wrapping_exact 32).sub (by omega) (by omega))
  have hrun := rk3xI2cV1CalcTimings_run (.wrapping 32)
    (calcDividers_speed hlow hhigh connectionSpeed (WordArith.wrapping_exact 32))
  have hlow' := hsub _ hl (by omega)
  have hhigh' := hsub _ hh (by omega)
  unfold machineTimings
  rw [hrun, hlow', hhigh', if_neg (by omega)]
  refine ⟨rfl, ?_, ?_⟩
  · dsimp only
    omega
  · dsimp only
    omega

/-- The dividers reach the least ones and the total. -/
theorem speedDividers_reach :
    ((speedSpec connectionSpeed).minLowNs + (busTimings connectionSpeed).sclFallNs) * clkRate
        ≤ 8000000000 * (speedDividers clkRate connectionSpeed).divLow
      ∧ ((speedSpec connectionSpeed).minHighNs + (busTimings connectionSpeed).sclRiseNs) * clkRate
        ≤ 8000000000 * (speedDividers clkRate connectionSpeed).divHigh
      ∧ clkRate ≤ 8 * ((speedDividers clkRate connectionSpeed).divLow
          + (speedDividers clkRate connectionSpeed).divHigh)
        * (busTimings connectionSpeed).busFreqHz := by
  obtain ⟨hclk, hscl, hhighNs, hlowNs⟩ := inRange_of_clkRate hlow hhigh connectionSpeed
  obtain ⟨hkhz, -⟩ := WordArith.ceilDiv_bounds clkRate (d := 1000) (by decide)
  unfold speedDividers
  generalize busTimings connectionSpeed = t at *
  generalize speedSpec connectionSpeed = spec at *
  generalize clkRate ⌈/⌉ 1000 = k at *
  obtain ⟨hl2, -, hlow', -⟩ := leastDiv_bounds hclk hlowNs
  obtain ⟨-, -, hhigh', -⟩ := leastDiv_bounds hclk hhighNs
  generalize leastDiv k (t.sclFallNs + spec.minLowNs) = ml at *
  generalize leastDiv k (t.sclRiseNs + spec.minHighNs) = mh at *
  obtain ⟨hperiod, -⟩ := WordArith.ceilDiv_bounds k (d := t.busFreqHz / 1000 * 8) (by omega)
  generalize k ⌈/⌉ (t.busFreqHz / 1000 * 8) = T at *
  obtain ⟨hleast, hleast'⟩ := surplus_least ml mh T
  have htotal := surplus_total ml mh T (by omega)
  refine ⟨?_, ?_, ?_⟩
  · calc (spec.minLowNs + t.sclFallNs) * clkRate
        ≤ (spec.minLowNs + t.sclFallNs) * (1000 * k) := Nat.mul_le_mul_left _ hkhz
      _ = 1000 * (k * (t.sclFallNs + spec.minLowNs)) := by ring
      _ ≤ 8000000000 * (surplus ml mh T).divLow := by omega
  · calc (spec.minHighNs + t.sclRiseNs) * clkRate
        ≤ (spec.minHighNs + t.sclRiseNs) * (1000 * k) := Nat.mul_le_mul_left _ hkhz
      _ = 1000 * (k * (t.sclRiseNs + spec.minHighNs)) := by ring
      _ ≤ 8000000000 * (surplus ml mh T).divHigh := by omega
  · calc clkRate
        ≤ 1000 * (t.busFreqHz / 1000 * 8 * T) := hkhz.trans (Nat.mul_le_mul_left _ hperiod)
      _ = 8 * T * (t.busFreqHz / 1000 * 1000) := by ring
      _ ≤ 8 * T * t.busFreqHz := Nat.mul_le_mul_left _ (Nat.div_mul_le_self _ _)
      _ ≤ _ := Nat.mul_le_mul_right _ (by omega)

/-- **The dividers meet the specification** for every clock of the range and every speed.  No
operation of the computation leaves the word, so what is computed are the exact dividers, and these
are the least ones for the two times, or larger ones whose sum is the total for the frequency. -/
theorem dividers_meet_spec :
    DividersMeetSpec clkRate connectionSpeed (machineTimings clkRate connectionSpeed).2 := by
  obtain ⟨-, hdivLow, hdivHigh⟩ := machineTimings_dividers hlow hhigh connectionSpeed
  obtain ⟨hl, hh, hsum⟩ := speedDividers_bounds hlow hhigh connectionSpeed
  obtain ⟨hreachLow, hreachHigh, hperiod⟩ := speedDividers_reach hlow hhigh connectionSpeed
  have htimings := clamp_eq (updateClockSettings connectionSpeed)
  unfold busTimings at hreachLow hreachHigh hperiod
  rw [htimings] at hreachLow hreachHigh hperiod
  refine ⟨?_, ?_, ?_, by omega, by omega, ?_⟩
  · rw [hdivLow]
    dsimp only at hreachLow
    omega
  · rw [hdivHigh]
    dsimp only at hreachHigh
    omega
  · rw [hdivLow, hdivHigh]
    exact hperiod
  · rw [calcDividers_speed hlow hhigh connectionSpeed (WordArith.checked_exact 32),
      calcDividers_speed hlow hhigh connectionSpeed (WordArith.wrapping_exact 32)]
    rfl

end Speed

/-- 200 MHz at 400 kHz. -/
theorem dividers_meet_spec_of_fast :
    DividersMeetSpec 200000000 400000 (machineTimings 200000000 400000).2 :=
  dividers_meet_spec (by decide) (by decide) 400000

end WoaRk3576.I2c
