/-
# The card clock of dwcsdhc: `DwcSdhcRkSetClock`

The clock of the card comes from a multiplexer and a divider of the CRU.  The request chooses the
parent, and the divider is the quotient that rounds up, in unsigned words of 32 bits.

`setClock_right` says what the register encodes then, for every request that is a word in Hz.

The parent is the PLL from 24 MHz on and the crystal below that.  This reaches the request if any
parent does (`emmcParent_reaches`): a request of 24 MHz is within reach of the PLL divided by 64,
and below it no parent is slower than the crystal.  The divider is the least one within the
request, kept between 1 and 64 (`Lib/ClockDivider.lean`).  The sum that rounds it up may leave the
word, for a request near 2^32; the quotient is then 0, and 1 is what the exact one would be, too.

`SdhcSwitches.lean` uses this of the clock that `SdhcSetClock` asks for.
-/
import Mathlib.Data.BitVec
import Mathlib.Tactic.IntervalCases
import WoaRk3576.Lib.ClockDivider
import WoaRk3576.Sd.Port

namespace WoaRk3576.Sd

open WoaRk3576.Lib

/-! ## 1. The registers

The multiplexer and the divider are two fields of one CRU register with a write mask in its upper
half.  The divider is computed in words of 32 bits, as in the source. -/

/-- The parents that the driver uses. -/
inductive EmmcParent
  | gpll400M
  | xin24M
  deriving DecidableEq, Repr

/-- `RK3576_CRU_EMMC_PARENT_400M` and `RK3576_CRU_EMMC_PARENT_24M`. -/
def EmmcParent.rate : EmmcParent → Nat
  | .gpll400M => 400000000
  | .xin24M => 24000000

/-- `RK3576_CRU_EMMC_MUX_GPLL_400M` and `RK3576_CRU_EMMC_MUX_XIN_24M`. -/
def EmmcParent.mux : EmmcParent → BitVec 32
  | .gpll400M => 0 <<< 14
  | .xin24M => 2 <<< 14

/-- `RK3576_CRU_EMMC_WRITE_MASK`. -/
def rk3576CruEmmcWriteMask : BitVec 32 := 0xFF000000

/-- `RK3576_CRU_EMMC_DIV`. -/
def rk3576CruEmmcDiv (n : Nat) : BitVec 32 := (BitVec.ofNat 32 n - 1) <<< 8

/-- The registers of the PHY, with their values. -/
inductive EmmcDllReg
  | ctrl
  | rxclk
  | txclk
  | strbin
  | cmdout
  deriving DecidableEq, Repr

/-- What a call writes: `CRU_CLKSEL_CON(89)`, if it does, and the registers of the PHY. -/
structure SetClockRun where
  status : NtStatus
  clkSel : Option (BitVec 32)
  dll : List (EmmcDllReg × BitVec 32)
  deriving DecidableEq

/-- `DwcSdhcRkConfigurePhy`. -/
def dwcSdhcRkConfigurePhy (frequency : BitVec 32) : NtStatus × List (EmmcDllReg × BitVec 32) :=
  if frequency.toNat < 100000000 then
    (.success, [(.ctrl, 0), (.rxclk, 0), (.txclk, 0),
      (.strbin, 1 <<< 27 ||| 1 <<< 26 ||| 0x10 <<< 16), (.cmdout, 0)])
  else (.notSupported, [])

/-- The divider of a parent: the quotient of the machine, between 1 and 64. -/
def emmcDivider (parent frequencyHz : Nat) : Nat :=
  let divider := ((WordArith.wrapping 32).divRoundUp parent frequencyHz).run
  if divider < 1 then 1 else if 64 < divider then 64 else divider

/-- The parent for a frequency. -/
def emmcParent (frequencyHz : Nat) : EmmcParent :=
  if EmmcParent.xin24M.rate ≤ frequencyHz then .gpll400M else .xin24M

/-- The value for `CRU_CLKSEL_CON(89)`. -/
def emmcClkSel (frequencyHz : Nat) : BitVec 32 :=
  let parent := emmcParent frequencyHz
  parent.mux ||| (rk3576CruEmmcWriteMask
    ||| rk3576CruEmmcDiv (emmcDivider parent.rate frequencyHz))

/-- **`DwcSdhcRkSetClock`**; `cruMapped` says that `s_CruClkSel` is not null. -/
def dwcSdhcRkSetClock (cruMapped : Bool) (targetFrequencyKhz : BitVec 32) : SetClockRun :=
  let frequencyHz := targetFrequencyKhz * 1000
  if frequencyHz = 0 then ⟨.invalidParameter, none, []⟩
  else
    let phy := dwcSdhcRkConfigurePhy frequencyHz
    ⟨phy.1, if cruMapped then some (emmcClkSel frequencyHz.toNat) else none, phy.2⟩

/-! ## 2. What the register encodes

The two fields are read back from the value that is written, and the clock that they stand for is
compared with the request. -/

/-- The divider of a value of `CRU_CLKSEL_CON(89)`. -/
def clkSelDivider (value : BitVec 32) : Nat := (value >>> 8 &&& 0x3f).toNat + 1

/-- The card clock is divided by 1 to 64. -/
def EmmcDivides (divider : Nat) : Prop := 1 ≤ divider ∧ divider ≤ 64

/-- **The card clock is right** for a request in Hz: the parent is in the bits of the multiplexer
and the divider in its own, and nothing else is written; the divider is the best one of the parent;
and the parent is one that reaches the request if any does. -/
structure CardClockRight (frequencyHz : Nat) (value : BitVec 32) (parent : EmmcParent) : Prop where
  mux : value &&& 0xc000 = parent.mux
  writeMask : value &&& 0xffff0000 = rk3576CruEmmcWriteMask
  others : value &&& 0xff = 0
  divides : EmmcDivides (clkSelDivider value)
  best : BestDivider EmmcDivides parent.rate frequencyHz (clkSelDivider value)
  reaches : ∀ p d, EmmcDivides d → dividedClock (EmmcParent.rate p) d ≤ frequencyHz →
    ∃ e, EmmcDivides e ∧ dividedClock parent.rate e ≤ frequencyHz

/-- A divider and a parent, as they are written and read. -/
theorem clkSel_fields (parent : EmmcParent) : ∀ k : Fin 64,
    (parent.mux ||| (rk3576CruEmmcWriteMask ||| rk3576CruEmmcDiv (k + 1))) &&& 0xc000 = parent.mux
      ∧ (parent.mux ||| (rk3576CruEmmcWriteMask ||| rk3576CruEmmcDiv (k + 1))) &&& 0xffff0000
        = rk3576CruEmmcWriteMask
      ∧ (parent.mux ||| (rk3576CruEmmcWriteMask ||| rk3576CruEmmcDiv (k + 1))) &&& 0xff = 0
      ∧ clkSelDivider (parent.mux ||| (rk3576CruEmmcWriteMask ||| rk3576CruEmmcDiv (k + 1)))
        = k + 1 := by
  cases parent with
  | gpll400M => decide
  | xin24M => decide

/-- **The divider of the machine** is the quotient that rounds up, kept between 1 and 64, also where
the rounding sum leaves the word. -/
theorem emmcDivider_eq (parent : EmmcParent) {frequencyHz : Nat} (hpos : 0 < frequencyHz)
    (hword : frequencyHz < 2 ^ 32) :
    emmcDivider parent.rate frequencyHz = min (max (parent.rate ⌈/⌉ frequencyHz) 1) 64 := by
  have hrate : 2 * parent.rate ≤ 2 ^ 32 := by
    cases parent with
    | gpll400M => decide
    | xin24M => decide
  rw [← max_divRoundUp_run hrate hword hpos]
  unfold emmcDivider
  dsimp only
  generalize ((WordArith.wrapping 32).divRoundUp parent.rate frequencyHz).run = q
  split
  · omega
  · split
    · omega
    · omega

/-- **The chosen parent reaches the request** if any parent does: the crystal is slower, and the
other one reaches 24 MHz. -/
theorem emmcParent_reaches {frequencyHz d : Nat} (p : EmmcParent) (hd : EmmcDivides d)
    (hreach : dividedClock p.rate d ≤ frequencyHz) :
    ∃ e, EmmcDivides e ∧ dividedClock (emmcParent frequencyHz).rate e ≤ frequencyHz := by
  refine ⟨64, ⟨by decide, by decide⟩, ?_⟩
  rw [dividedClock_le_iff (by decide)]
  rw [dividedClock_le_iff hd.1] at hreach
  have hslowest : frequencyHz * d ≤ frequencyHz * 64 := Nat.mul_le_mul_left _ hd.2
  unfold emmcParent
  split
  · rename_i hfast
    unfold EmmcParent.rate at hfast ⊢
    dsimp only at hfast ⊢
    omega
  · have hcrystal : EmmcParent.xin24M.rate ≤ p.rate := by
      cases p with
      | gpll400M => decide
      | xin24M => exact Nat.le_refl _
    omega

/-- **The value of a request** encodes the right card clock. -/
theorem emmcClkSel_right {frequencyHz : Nat} (hpos : 0 < frequencyHz)
    (hword : frequencyHz < 2 ^ 32) :
    CardClockRight frequencyHz (emmcClkSel frequencyHz) (emmcParent frequencyHz) := by
  have hdivider := emmcDivider_eq (emmcParent frequencyHz) hpos hword
  have hbest : BestDivider EmmcDivides (emmcParent frequencyHz).rate frequencyHz
      (emmcDivider (emmcParent frequencyHz).rate frequencyHz) := by
    rw [hdivider]
    exact bestDivider_clamp (by decide) (by decide) hpos
  obtain ⟨hmin, hmax⟩ := hbest.mem
  have hfields := clkSel_fields (emmcParent frequencyHz)
    ⟨emmcDivider (emmcParent frequencyHz).rate frequencyHz - 1, by omega⟩
  dsimp only at hfields
  rw [Nat.sub_add_cancel hmin] at hfields
  obtain ⟨hmux, hmask, hothers, hfield⟩ := hfields
  have hencoded : clkSelDivider (emmcClkSel frequencyHz)
      = emmcDivider (emmcParent frequencyHz).rate frequencyHz := hfield
  refine ⟨hmux, hmask, hothers, ?_, ?_, fun p d => emmcParent_reaches p⟩
  · rw [hencoded]
    exact hbest.mem
  · rw [hencoded]
    exact hbest

/-- **`DwcSdhcRkSetClock` sets the right card clock** for every request that is a word in Hz.  The
parent that is chosen reaches the request if any does, and its divider is the least one within the
request; where the rounding sum wraps, the divider is 1, as it should be. -/
theorem setClock_right {targetFrequencyKhz : BitVec 32} (hpos : 0 < targetFrequencyKhz.toNat)
    (hword : targetFrequencyKhz.toNat * 1000 < 2 ^ 32) :
    ∃ value parent, (dwcSdhcRkSetClock true targetFrequencyKhz).clkSel = some value
      ∧ CardClockRight (targetFrequencyKhz.toNat * 1000) value parent := by
  have hfrequency : (targetFrequencyKhz * 1000).toNat = targetFrequencyKhz.toNat * 1000 := by
    rw [BitVec.toNat_mul]
    exact Nat.mod_eq_of_lt hword
  have hne : targetFrequencyKhz * 1000 ≠ 0 := by
    intro hzero
    rw [hzero] at hfrequency
    have hnone : (0 : BitVec 32).toNat = 0 := rfl
    omega
  refine ⟨_, _, ?_, emmcClkSel_right (by omega) hword⟩
  unfold dwcSdhcRkSetClock
  dsimp only
  rw [if_neg hne, if_pos rfl, hfrequency]

/-- The identification clock of 400 kHz. -/
theorem setClock_right_of_identification :
    ∃ value parent, (dwcSdhcRkSetClock true 400).clkSel = some value
      ∧ CardClockRight ((400 : BitVec 32).toNat * 1000) value parent :=
  setClock_right (by decide) (by decide)

end WoaRk3576.Sd
