/-
# The baud divider of rk3xspi: `Rk3xSpiComputeBaudr`

The SPI clock is the input clock divided by `BAUDR`, an even number from 2 to 65534.  The driver
rounds the quotient up, so that the clock is never faster than the request, and then up to an even
number, in unsigned words of 32 bits.

* `computeBaudr_right`: the value is the least even divider within the request, or 65534 where none
  is, for every input clock below 2 ^ 31, also where the rounding sum leaves the word;
* `targetConnect_baudr`: so is the divider of every target that is connected.
-/
import Mathlib.Data.BitVec
import WoaRk3576.Lib.ClockDivider
import WoaRk3576.Spi.Transfer

namespace WoaRk3576.Spi

open WoaRk3576.Lib

/-! ## 1. The routine

The routine works in 32 bits, where the sum that rounds the quotient up can wrap.  The wrap does no
harm: with an input clock below 2 ^ 31 it occurs only for requests so high that the quotient should
be 1 and becomes 0, and the lower bound of 2 takes care of both. -/

/-- `RK3XSPI_DEFAULT_HZ`. -/
def rk3xspiDefaultHz : BitVec 32 := 1000000

/-- `RK3XSPI_INPUT_CLK_HZ`. -/
def rk3xspiInputClkHz : BitVec 32 := 200000000

/-- `RKSPI_BAUDR_MIN`. -/
def rkspiBaudrMin : BitVec 32 := 2

/-- `RKSPI_BAUDR_MAX`. -/
def rkspiBaudrMax : BitVec 32 := 65534

/-- **`Rk3xSpiComputeBaudr`**. -/
def rk3xSpiComputeBaudr (inputClockHz targetHz : BitVec 32) : BitVec 32 :=
  let targetHz := if targetHz = 0 then rk3xspiDefaultHz else targetHz
  let baudr := (inputClockHz + targetHz - 1) / targetHz
  let baudr := if baudr < rkspiBaudrMin then rkspiBaudrMin else baudr
  let baudr := (baudr + 1) &&& ~~~1
  if rkspiBaudrMax < baudr then rkspiBaudrMax else baudr

/-! ## 2. What it is for

The purpose is stated without the routine: of the values that the register can divide by, the even
numbers from 2 to 65534, it is the least one that brings the clock down to the request, or the
largest of all if none does. -/

/-- What `BAUDR` can divide by. -/
def BaudrDivides (divider : Nat) : Prop := 2 ∣ divider ∧ 2 ≤ divider ∧ divider ≤ 65534

/-- **The divider is right** for an input clock and a request in Hz. -/
structure BaudrRight (inputClockHz targetHz baudr : Nat) : Prop where
  even : baudr % 2 = 0
  bounds : 2 ≤ baudr ∧ baudr ≤ 65534
  within : (∃ e, BaudrDivides e ∧ dividedClock inputClockHz e ≤ targetHz) →
    dividedClock inputClockHz baudr ≤ targetHz
  least : ∀ e, BaudrDivides e → dividedClock inputClockHz e ≤ targetHz → baudr ≤ e
  slowest : (∀ e, BaudrDivides e → targetHz < dividedClock inputClockHz e) → baudr = 65534

variable {inputClockHz targetHz : BitVec 32}

theorem baudrRight_of_least {input target baudr : Nat}
    (h : LeastDivider BaudrDivides input target baudr) : BaudrRight input target baudr where
  even := Nat.mod_eq_zero_of_dvd h.mem.1
  bounds := h.mem.2
  within := fun ⟨e, he, hwithin⟩ => (h.least e he hwithin).1
  least := fun e he hwithin => (h.least e he hwithin).2
  slowest := by
    intro hnone
    have hmax := h.greatest hnone 65534 ⟨by decide, by decide, Nat.le_refl _⟩
    exact Nat.le_antisymm h.mem.2.2 hmax

/-! ## 3. What the machine computes

The routine is brought to a closed form over natural numbers: a quotient that rounds up, brought to
at least 2, made even upwards and cut at 65534.  That this is the least divider is then a general
fact about rounding. -/

/-- The quotient of the routine is the one of the machine. -/
theorem toNat_quotient (inputClockHz targetHz : BitVec 32) :
    ((inputClockHz + targetHz - 1) / targetHz).toNat
      = ((WordArith.wrapping 32).divRoundUp inputClockHz.toNat targetHz.toNat).run := by
  have hrun : ((WordArith.wrapping 32).divRoundUp inputClockHz.toNat targetHz.toNat).run
      = ((inputClockHz.toNat + targetHz.toNat) % 2 ^ 32 + (2 ^ 32 - 1)) % 2 ^ 32
        / targetHz.toNat := rfl
  rw [hrun, BitVec.toNat_udiv, BitVec.toNat_sub, BitVec.toNat_add, Nat.add_comm (2 ^ 32 - _)]
  rfl

/-- The lowest bit is cleared. -/
theorem toNat_and_not_one (x : BitVec 32) :
    (x &&& ~~~(1 : BitVec 32)).toNat = 2 * (x.toNat / 2) := by
  have hshift : x &&& ~~~(1 : BitVec 32) = x >>> 1 <<< 1 := by
    refine BitVec.eq_of_getLsbD_eq fun i hi => ?_
    rw [BitVec.getLsbD_and, BitVec.getLsbD_not, BitVec.getLsbD_shiftLeft,
      BitVec.getLsbD_ushiftRight]
    cases i with
    | zero => simp
    | succ i => simp [hi, Nat.add_comm]
  rw [hshift, BitVec.toNat_shiftLeft, BitVec.toNat_ushiftRight, Nat.shiftRight_eq_div_pow,
    Nat.shiftLeft_eq]
  have hlt := x.isLt
  omega

theorem toNat_raise (x lo : BitVec 32) :
    (if x < lo then lo else x).toNat = max x.toNat lo.toNat := by
  split
  · rename_i hlt
    exact (Nat.max_eq_right (Nat.le_of_lt (BitVec.lt_def.mp hlt))).symm
  · rename_i hge
    exact (Nat.max_eq_left (BitVec.le_def.mp (BitVec.not_lt.mp hge))).symm

theorem toNat_cap (x hi : BitVec 32) :
    (if hi < x then hi else x).toNat = min x.toNat hi.toNat := by
  split
  · rename_i hlt
    exact (Nat.min_eq_right (Nat.le_of_lt (BitVec.lt_def.mp hlt))).symm
  · rename_i hge
    exact (Nat.min_eq_left (BitVec.le_def.mp (BitVec.not_lt.mp hge))).symm

/-- **The value of the routine**: the quotient that rounds up, at least 2, the next even number, and
at most 65534. -/
theorem toNat_computeBaudr (hinput : inputClockHz.toNat < 2 ^ 31) (htarget : 0 < targetHz.toNat) :
    (rk3xSpiComputeBaudr inputClockHz targetHz).toNat
      = min (2 * (max (inputClockHz.toNat ⌈/⌉ targetHz.toNat) 2 ⌈/⌉ 2)) 65534 := by
  have hne : targetHz ≠ 0 := by
    rintro rfl
    exact Nat.lt_irrefl 0 htarget
  -- a quotient that is 0 for a fast request is raised to 2 like the one that rounds up
  have hquotient := max_divRoundUp_run (by omega : 2 * inputClockHz.toNat ≤ 2 ^ 32) targetHz.isLt
    htarget
  have hceil : inputClockHz.toNat ⌈/⌉ targetHz.toNat ≤ inputClockHz.toNat :=
    (ceilDiv_le_iff_le_mul htarget).mpr (Nat.le_mul_of_pos_left _ htarget)
  have hmin : rkspiBaudrMin.toNat = 2 := rfl
  have hmax : rkspiBaudrMax.toNat = 65534 := rfl
  have hone : (1 : BitVec 32).toNat = 1 := rfl
  have heven : ∀ n, n ⌈/⌉ 2 = (n + 1) / 2 := fun _ => rfl
  unfold rk3xSpiComputeBaudr
  rw [if_neg hne]
  dsimp only
  rw [toNat_cap, toNat_and_not_one, BitVec.toNat_add, toNat_raise, toNat_quotient, hmin, hmax, hone,
    heven]
  generalize ((WordArith.wrapping 32).divRoundUp inputClockHz.toNat targetHz.toNat).run = q at *
  have hraised : max q 2 = max (inputClockHz.toNat ⌈/⌉ targetHz.toNat) 2 := by omega
  rw [hraised]
  congr 2
  omega

/-- The divider is the least one of those that `BAUDR` has. -/
theorem leastDivider_computeBaudr (hinput : inputClockHz.toNat < 2 ^ 31)
    (htarget : 0 < targetHz.toNat) :
    LeastDivider BaudrDivides inputClockHz.toNat targetHz.toNat
      (rk3xSpiComputeBaudr inputClockHz targetHz).toNat := by
  rw [toNat_computeBaudr hinput htarget]
  exact leastDivider_multiples (by decide) (by decide) (by decide) (by decide) htarget

/-- **`Rk3xSpiComputeBaudr` gives the right divider** for every input clock below 2 ^ 31 and every
request.  The quotient that rounds up, made even and kept in the interval, is the least even
divider within the request; a sum that wraps makes the quotient 0 instead of 1, and the lower bound
covers both. -/
theorem computeBaudr_right (hinput : inputClockHz.toNat < 2 ^ 31) (htarget : 0 < targetHz.toNat) :
    BaudrRight inputClockHz.toNat targetHz.toNat
      (rk3xSpiComputeBaudr inputClockHz targetHz).toNat :=
  baudrRight_of_least (leastDivider_computeBaudr hinput htarget)

/-- The fastest request, at which the rounding sum leaves the word. -/
theorem computeBaudr_right_of_fastest :
    rk3xSpiComputeBaudr 0x7fffffff 0xffffffff = 2 ∧ BaudrRight 0x7fffffff 0xffffffff 2 :=
  ⟨by decide, @computeBaudr_right 0x7fffffff 0xffffffff (by decide) (by decide)⟩

/-! ## 4. The divider of a target

The routine is called when a target is connected, with the speed of the connection or the default
one.  The bound on the input clock and the positive request hold at this call, so every connected
target has the right divider. -/

/-- What `Rk3xSpiEvtTargetConnect` reads of the connection properties. -/
structure SpiConnection where
  propertiesLength : Nat
  serialBusType : BitVec 8
  connectionSpeed : BitVec 32
  dataBitLength : BitVec 8
  phase : BitVec 8
  polarity : BitVec 8
  deviceSelection : BitVec 16
  deriving DecidableEq, Repr

inductive ConnectStatus
  | invalidParameter
  | notSupported
  | noContext
  deriving DecidableEq, Repr

/-- `ConnectionSpeed` of a target. -/
def SpiConnection.speed (connection : SpiConnection) : BitVec 32 :=
  if connection.connectionSpeed = 0 then rk3xspiDefaultHz else connection.connectionSpeed

/-- **`Rk3xSpiEvtTargetConnect`**; `descriptorSize` is `sizeof(PNP_SERIAL_BUS_DESCRIPTOR)`, and
`allocated` says that `WdfObjectAllocateContext` succeeds. -/
def rk3xSpiEvtTargetConnect (descriptorSize : Nat) (connection : SpiConnection) (allocated : Bool) :
    Except ConnectStatus SpiTarget :=
  if connection.propertiesLength < descriptorSize then .error .invalidParameter
  else if connection.serialBusType ≠ 0x02 then .error .notSupported
  else if connection.dataBitLength ≠ 8 then .error .notSupported
  else if allocated = false then .error .noContext
  else .ok {
    chipSelect := connection.deviceSelection.toNat
    cpolHigh := connection.polarity ≠ 0
    cphaSecond := connection.phase ≠ 0
    baudr := rk3xSpiComputeBaudr rk3xspiInputClkHz connection.speed }

theorem SpiConnection.speed_pos (connection : SpiConnection) : 0 < connection.speed.toNat := by
  unfold SpiConnection.speed
  split
  · decide
  · rename_i hne
    refine Nat.pos_of_ne_zero fun hzero => hne ?_
    exact BitVec.eq_of_toNat_eq hzero

/-- **Every target that is connected has the right divider** for its speed. -/
theorem targetConnect_baudr {descriptorSize : Nat} {connection : SpiConnection} {allocated : Bool}
    {target : SpiTarget}
    (h : rk3xSpiEvtTargetConnect descriptorSize connection allocated = .ok target) :
    BaudrRight 200000000 connection.speed.toNat target.baudr.toNat := by
  unfold rk3xSpiEvtTargetConnect at h
  split at h
  · exact nomatch h
  split at h
  · exact nomatch h
  split at h
  · exact nomatch h
  split at h
  · exact nomatch h
  · cases h
    have hinput : rk3xspiInputClkHz.toNat < 2 ^ 31 := by decide
    exact baudrRight_of_least (leastDivider_computeBaudr hinput connection.speed_pos)

end WoaRk3576.Spi
