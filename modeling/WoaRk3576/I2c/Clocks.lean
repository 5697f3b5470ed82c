/-
# The clock timings of rk3xi2c

`rk3x_i2c_v1_calc_timings` computes the two dividers of SCL and the three counters of the tuning
word from the clock rate and the timings of the bus, in unsigned words of 32 bits.  It is written
over a `WordArith`, so that the machine's values and the overflows on the way are two readings of
one computation.

The dividers count `l` and `h` and the tuning word `s`, `u` and `p` of the comment in the source;
the registers hold one less of each.

The specification of a speed is a table (`speedSpec`), and so are the timings that the driver takes
for it; which of the three classes a speed belongs to is asked in two places of the source, with
the same bounds, so that both come from one class (`speedClass`).  A speed is kept between 1 kHz
and 1 MHz before anything is computed with it.  What is computed is the subject of `Dividers.lean`
and `TuningWord.lean`.
-/
import Mathlib.Data.BitVec
import WoaRk3576.Lib.WordArith

namespace WoaRk3576.I2c

open WoaRk3576.Lib

/-! ## 1. The specification and the timings

The two records that the computation reads: what the I2C specification asks of a speed class, and
what is known of the bus.  The values are those of the tables in the source, in ns and Hz. -/

/-- `struct i2c_spec_values`. -/
structure I2cSpecValues where
  minLowNs : Nat
  minHighNs : Nat
  minSetupStartNs : Nat
  maxDataHoldNs : Nat
  minDataSetupNs : Nat
  minSetupStopNs : Nat
  deriving DecidableEq, Repr

def standardModeSpec : I2cSpecValues where
  minLowNs := 4700
  minHighNs := 4000
  minSetupStartNs := 4700
  maxDataHoldNs := 3450
  minDataSetupNs := 250
  minSetupStopNs := 4000

def fastModeSpec : I2cSpecValues where
  minLowNs := 1300
  minHighNs := 600
  minSetupStartNs := 600
  maxDataHoldNs := 900
  minDataSetupNs := 100
  minSetupStopNs := 600

def fastModePlusSpec : I2cSpecValues where
  minLowNs := 500
  minHighNs := 260
  minSetupStartNs := 260
  maxDataHoldNs := 400
  minDataSetupNs := 50
  minSetupStopNs := 260

/-- `I2C_MAX_STANDARD_MODE_FREQ`. -/
def i2cMaxStandardModeFreq : Nat := 100000

/-- `I2C_MAX_FAST_MODE_FREQ`. -/
def i2cMaxFastModeFreq : Nat := 400000

/-- `I2C_MAX_FAST_MODE_PLUS_FREQ`. -/
def i2cMaxFastModePlusFreq : Nat := 1000000

def rk3xI2cGetSpec (speed : Nat) : I2cSpecValues :=
  if speed ≤ i2cMaxStandardModeFreq then standardModeSpec
  else if speed ≤ i2cMaxFastModeFreq then fastModeSpec
  else fastModePlusSpec

/-- `struct i2c_timings`. -/
structure I2cTimings where
  busFreqHz : Nat
  sclRiseNs : Nat
  sclFallNs : Nat
  deriving DecidableEq, Repr

/-- `updateClockSettings`, with `bus_freq_hz` as `i2c_xfer` sets it. -/
def updateClockSettings (connectionSpeed : BitVec 32) : I2cTimings where
  busFreqHz := connectionSpeed.toNat
  sclRiseNs :=
    if connectionSpeed.toNat ≤ i2cMaxStandardModeFreq then 1000
    else if connectionSpeed.toNat ≤ i2cMaxFastModeFreq then 300
    else 120
  sclFallNs := if connectionSpeed.toNat ≤ i2cMaxFastModeFreq then 300 else 120

/-- `bus_freq_hz` is kept between 1 kHz and 1 MHz. -/
def I2cTimings.clamp (t : I2cTimings) : I2cTimings :=
  let t :=
    if i2cMaxFastModePlusFreq < t.busFreqHz then { t with busFreqHz := i2cMaxFastModePlusFreq }
    else t
  if t.busFreqHz < 1000 then { t with busFreqHz := 1000 } else t

/-! ## 2. The dividers

Each routine of the computation is written once, over an arithmetic `A`: read with wrapping words
it is what the machine does, read with exact ones it is what was meant, and read with checked ones
it says whether a product has left the word.  The later modules compare these readings. -/

section Calc

variable {m : Type → Type} [Monad m] (A : WordArith m)

/-- `div_low` and `div_high`. -/
structure Dividers where
  divLow : Nat
  divHigh : Nat
  deriving DecidableEq, Repr

/-- The divider for a least time. -/
def minDiv (clkRateKhz minNs : Nat) : m Nat := do
  let product ← A.mul clkRateKhz minNs
  let div ← A.divRoundUp product (8 * 1000000)
  pure (if div < 1 then 2 else div)

/-- The surplus goes to both dividers by the scale of the least ones. -/
def distribute (minLowDiv minHighDiv minDivForHold minTotalDiv : Nat) : m Dividers := do
  let extraDiv ← A.sub minTotalDiv minDivForHold
  let product ← A.mul minLowDiv extraDiv
  let extraLowDiv ← A.divRoundUp product minDivForHold
  let divLow ← A.add minLowDiv extraLowDiv
  let extraHighDiv ← A.sub extraDiv extraLowDiv
  let divHigh ← A.add minHighDiv extraHighDiv
  pure ⟨divLow, divHigh⟩

/-- `clk_rate_khz` and the dividers, for timings that were clamped. -/
def calcDividers (clkRate : Nat) (t : I2cTimings) (spec : I2cSpecValues) : m (Nat × Dividers) := do
  let clkRateKhz ← A.divRoundUp clkRate 1000
  let sclRateKhz ← A.div t.busFreqHz 1000
  let sclRateKhz8 ← A.mul sclRateKhz 8
  let minTotalDiv ← A.divRoundUp clkRateKhz sclRateKhz8
  let minHighNs ← A.add t.sclRiseNs spec.minHighNs
  let minHighDiv ← minDiv A clkRateKhz minHighNs
  let minLowNs ← A.add t.sclFallNs spec.minLowNs
  let minLowDiv ← minDiv A clkRateKhz minLowNs
  let minDivForHold ← A.add minLowDiv minHighDiv
  if minTotalDiv ≤ minDivForHold then pure (clkRateKhz, ⟨minLowDiv, minHighDiv⟩)
  else do
    let dividers ← distribute A minLowDiv minHighDiv minDivForHold minTotalDiv
    pure (clkRateKhz, dividers)

/-! ## 3. The tuning word

The three counters of the tuning word come from the dividers that were chosen: the hold time is
found by a search that goes down to 0, and the two setup times by a division that rounds up.  Each
is decremented and shifted into its field without a mask, as in the source. -/

/-- `(count * div_low + 1) * 1000000 / clk_rate_khz`, rounded up. -/
def dataNs (clkRateKhz divLow count : Nat) : m Nat := do
  let product ← A.mul count divLow
  let clocks ← A.add product 1
  let product ← A.mul clocks 1000000
  A.divRoundUp product clkRateKhz

/-- The search for `sda_update_cfg`, from `s` down to 0. -/
def sdaUpdateCfg (clkRateKhz divLow : Nat) (spec : I2cSpecValues) : Nat → m Nat
  | 0 => pure 0
  | s + 1 => do
    let maxHoldDataNs ← dataNs A clkRateKhz divLow (s + 1)
    let minSetupDataNs ← dataNs A clkRateKhz divLow (8 - (s + 1))
    if maxHoldDataNs < spec.maxDataHoldNs ∧ spec.minDataSetupNs < minSetupDataNs then pure (s + 1)
    else sdaUpdateCfg clkRateKhz divLow spec s

/-- `stp_sta_cfg` and `stp_sto_cfg`, for the time of the specification. -/
def stpCfg (clkRateKhz divHigh riseNs specNs : Nat) : m Nat := do
  let minSetupNs ← A.add riseNs specNs
  let product ← A.mul clkRateKhz minSetupNs
  let clocks ← A.sub product 1000000
  let period ← A.mul (8 * 1000000) divHigh
  A.divRoundUp clocks period

/-- The counters of the tuning word, before they are decremented. -/
structure TuningCounts where
  sdaUpdateCfg : Nat
  stpStaCfg : Nat
  stpStoCfg : Nat
  deriving DecidableEq, Repr

/-- The three counters. -/
def tuningCounts (clkRateKhz : Nat) (dividers : Dividers) (t : I2cTimings) (spec : I2cSpecValues) :
    m TuningCounts := do
  let sda ← sdaUpdateCfg A clkRateKhz dividers.divLow spec 3
  let sta ← stpCfg A clkRateKhz dividers.divHigh t.sclRiseNs spec.minSetupStartNs
  let sto ← stpCfg A clkRateKhz dividers.divHigh t.sclRiseNs spec.minSetupStopNs
  pure ⟨sda, sta, sto⟩

/-- `REG_CON_SDA_CFG`, `REG_CON_STA_CFG` and `REG_CON_STO_CFG` of the counters, each less one. -/
def tuningWord (counts : TuningCounts) : BitVec 32 :=
  (BitVec.ofNat 32 counts.sdaUpdateCfg - 1) <<< 8 ||| (BitVec.ofNat 32 counts.stpStaCfg - 1) <<< 12
    ||| (BitVec.ofNat 32 counts.stpStoCfg - 1) <<< 14

/-! ## 4. The function

The routine as a whole, with the dividers and the counters as its two halves.  A reading that
refuses one half refuses the whole, which is what the later proofs use to tell which half is at
fault. -/

inductive CalcStatus
  | success
  | invalidParameter
  deriving DecidableEq, Repr

/-- `struct rk3x_i2c_calced_timings`. -/
structure CalcedTimings where
  divLow : Nat
  divHigh : Nat
  tuning : BitVec 32
  deriving DecidableEq

/-- **`rk3x_i2c_v1_calc_timings`**. -/
def rk3xI2cV1CalcTimings (clkRate : Nat) (t : I2cTimings) : m (CalcStatus × CalcedTimings) := do
  let t := t.clamp
  let spec := rk3xI2cGetSpec t.busFreqHz
  let (clkRateKhz, dividers) ← calcDividers A clkRate t spec
  let counts ← tuningCounts A clkRateKhz dividers t spec
  let divLow ← A.sub dividers.divLow 1
  let divHigh ← A.sub dividers.divHigh 1
  pure (if 0xffff < divLow ∨ 0xffff < divHigh then .invalidParameter else .success,
    ⟨min divLow 0xffff, min divHigh 0xffff, tuningWord counts⟩)

end Calc

/-- The function after its dividers. -/
theorem rk3xI2cV1CalcTimings_run (A : WordArith Id) {clkRate k : Nat} {t : I2cTimings}
    {d : Dividers}
    (h : calcDividers A clkRate t.clamp (rk3xI2cGetSpec t.clamp.busFreqHz) = pure (k, d)) :
    (rk3xI2cV1CalcTimings A clkRate t).run
      = (if 0xffff < (A.sub d.divLow 1).run ∨ 0xffff < (A.sub d.divHigh 1).run
            then .invalidParameter else .success,
          ⟨min (A.sub d.divLow 1).run 0xffff, min (A.sub d.divHigh 1).run 0xffff,
            tuningWord
              (tuningCounts A k d t.clamp (rk3xI2cGetSpec t.clamp.busFreqHz)).run⟩) := by
  unfold rk3xI2cV1CalcTimings
  dsimp only
  rw [h]
  rfl

theorem tuningCounts_run (A : WordArith Id) (k : Nat) (d : Dividers) (t : I2cTimings)
    (spec : I2cSpecValues) : (tuningCounts A k d t spec).run
      = ⟨(sdaUpdateCfg A k d.divLow spec 3).run,
          (stpCfg A k d.divHigh t.sclRiseNs spec.minSetupStartNs).run,
          (stpCfg A k d.divHigh t.sclRiseNs spec.minSetupStopNs).run⟩ := rfl

/-- The counters are refused where the start count is. -/
theorem tuningCounts_none (A : WordArith Option) {k : Nat} {d : Dividers} {t : I2cTimings}
    {spec : I2cSpecValues} (h : stpCfg A k d.divHigh t.sclRiseNs spec.minSetupStartNs = none) :
    tuningCounts A k d t spec = none := by
  unfold tuningCounts
  rw [h]
  cases sdaUpdateCfg A k d.divLow spec 3 with
  | none => rfl
  | some sda => rfl

/-- What the machine computes for a connection speed. -/
def machineTimings (clkRate : Nat) (connectionSpeed : BitVec 32) : CalcStatus × CalcedTimings :=
  (rk3xI2cV1CalcTimings (.wrapping 32) clkRate (updateClockSettings connectionSpeed)).run

/-! ## 5. The speed classes

The class of a speed decides the timings and the specification together, so a proof about all
speeds has three cases and no more.  The class tells nothing about the speed inside it but its
bounds. -/

/-- The timings of a connection speed, with the clamped frequency. -/
def busTimings (connectionSpeed : BitVec 32) : I2cTimings :=
  (updateClockSettings connectionSpeed).clamp

/-- The specification of a connection speed. -/
def speedSpec (connectionSpeed : BitVec 32) : I2cSpecValues :=
  rk3xI2cGetSpec (busTimings connectionSpeed).busFreqHz

section Speed

variable (connectionSpeed : BitVec 32)

theorem clamp_eq (t : I2cTimings) :
    t.clamp = ⟨min (max t.busFreqHz 1000) 1000000, t.sclRiseNs, t.sclFallNs⟩ := by
  unfold I2cTimings.clamp i2cMaxFastModePlusFreq
  by_cases hhigh : 1000000 < t.busFreqHz
  · have hmin : min (max t.busFreqHz 1000) 1000000 = 1000000 := by omega
    rw [if_pos hhigh, hmin]
    rfl
  · rw [if_neg hhigh]
    by_cases hlow : t.busFreqHz < 1000
    · have hmin : min (max t.busFreqHz 1000) 1000000 = 1000 := by omega
      rw [if_pos hlow, hmin]
    · have hmin : min (max t.busFreqHz 1000) 1000000 = t.busFreqHz := by omega
      rw [if_neg hlow, hmin]

/-- The three classes. -/
inductive SpeedClass : BitVec 32 → I2cTimings → I2cSpecValues → Prop
  | standard {speed : BitVec 32} (h : speed.toNat ≤ 100000) :
    SpeedClass speed ⟨max speed.toNat 1000, 1000, 300⟩ standardModeSpec
  | fast {speed : BitVec 32} (h : 100000 < speed.toNat) (h' : speed.toNat ≤ 400000) :
    SpeedClass speed ⟨speed.toNat, 300, 300⟩ fastModeSpec
  | fastPlus {speed : BitVec 32} (h : 400000 < speed.toNat) :
    SpeedClass speed ⟨min speed.toNat 1000000, 120, 120⟩ fastModePlusSpec

/-- **The timings and the specification of a speed are those of its class.** -/
theorem speedClass :
    SpeedClass connectionSpeed (busTimings connectionSpeed) (speedSpec connectionSpeed) := by
  unfold speedSpec busTimings
  rw [clamp_eq]
  unfold updateClockSettings rk3xI2cGetSpec i2cMaxStandardModeFreq i2cMaxFastModeFreq
  dsimp only
  by_cases hstandard : connectionSpeed.toNat ≤ 100000
  · have hmin : min (max connectionSpeed.toNat 1000) 1000000 = max connectionSpeed.toNat 1000 := by
      omega
    rw [if_pos hstandard, if_pos (by omega), if_pos (by omega), hmin]
    exact .standard hstandard
  · by_cases hfast : connectionSpeed.toNat ≤ 400000
    · have hmin : min (max connectionSpeed.toNat 1000) 1000000 = connectionSpeed.toNat := by omega
      rw [if_neg hstandard, if_pos hfast, if_neg (by omega), if_pos (by omega), hmin]
      exact .fast (by omega) hfast
    · have hmin : min (max connectionSpeed.toNat 1000) 1000000
          = min connectionSpeed.toNat 1000000 := by omega
      rw [if_neg hstandard, if_neg hfast, if_neg (by omega), if_neg (by omega), hmin]
      exact .fastPlus (by omega)

theorem busTimings_standard (h : connectionSpeed.toNat ≤ 100000) :
    busTimings connectionSpeed = ⟨max connectionSpeed.toNat 1000, 1000, 300⟩
      ∧ speedSpec connectionSpeed = standardModeSpec := by
  have hclass := speedClass connectionSpeed
  generalize busTimings connectionSpeed = t at hclass ⊢
  generalize speedSpec connectionSpeed = spec at hclass ⊢
  cases hclass with
  | standard hle => exact ⟨rfl, rfl⟩
  | fast hlt hle => omega
  | fastPlus hlt => omega

theorem busTimings_fast (h : 100000 < connectionSpeed.toNat) (h' : connectionSpeed.toNat ≤ 400000) :
    busTimings connectionSpeed = ⟨connectionSpeed.toNat, 300, 300⟩
      ∧ speedSpec connectionSpeed = fastModeSpec := by
  have hclass := speedClass connectionSpeed
  generalize busTimings connectionSpeed = t at hclass ⊢
  generalize speedSpec connectionSpeed = spec at hclass ⊢
  cases hclass with
  | standard hle => omega
  | fast hlt hle => exact ⟨rfl, rfl⟩
  | fastPlus hlt => omega

theorem busTimings_fastPlus (h : 400000 < connectionSpeed.toNat) :
    busTimings connectionSpeed = ⟨min connectionSpeed.toNat 1000000, 120, 120⟩
      ∧ speedSpec connectionSpeed = fastModePlusSpec := by
  have hclass := speedClass connectionSpeed
  generalize busTimings connectionSpeed = t at hclass ⊢
  generalize speedSpec connectionSpeed = spec at hclass ⊢
  cases hclass with
  | standard hle => omega
  | fast hlt hle => omega
  | fastPlus hlt => exact ⟨rfl, rfl⟩

end Speed

end WoaRk3576.I2c
