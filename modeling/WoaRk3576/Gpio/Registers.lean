/-
# The two register layouts of rk3xgpio

A bank of the first version has plain 32-bit registers.  The second version keeps most of them in
two words of 16 data bits each, at `reg` and `reg + 4`: the upper half of a word says which of its
data bits a write changes, and reads as 0.  The status registers and the input port are plain in
both.

The contents are the same in both layouts (`GpioCore`); `busRead` and `busWrite` say what an access
at an offset does, and `gpio_read32` and `gpio_write32` are the driver's helpers on top of them.
`gpio_read32_eq` and `gpio_write32_eq` are the result: through the helpers, and with the offsets of
its layout, a register reads and writes as one 32-bit word.

In the second layout a helper makes two accesses.  A read puts two halves together of which each
has zeros above its data; a write sets all bits of the upper half, so that both data words are
replaced as a whole.  This holds for any value of the register before the write, and it is all that
a callback has to know of the layout.
-/
import Mathlib.Logic.Function.Basic

namespace WoaRk3576.Gpio

/-! ## 1. The bank

The contents of a bank are the same in both versions; what differs is where a register is and
whether it is one word or two halves with write enables.  So the two versions are two tables of
offsets over the same contents. -/

/-- The fields of `ROCKCHIP_GPIO_REGISTERS`. -/
inductive GpioReg
  | portDR
  | portDDR
  | intEn
  | intMask
  | intType
  | intPolarity
  | intBothEdge
  | intStatus
  | intRawStatus
  | debounce
  | dbClkDivEn
  | dbClkDivCon
  | portEOI
  | extPort
  | versionID
  deriving DecidableEq, Repr

/-- What a bank holds: the registers that keep what is written, the pending interrupts and the
levels at the pins. -/
structure GpioCore where
  stored : GpioReg → BitVec 32
  pending : BitVec 32
  ext : BitVec 32

/-- The interrupt status that a bank derives from its contents is the hardware's. -/
abbrev IntStatus := GpioCore → BitVec 32

/-- Read a register as a whole. -/
def GpioCore.read (status : IntStatus) (core : GpioCore) : GpioReg → BitVec 32
  | .intStatus => status core
  | .intRawStatus => core.pending
  | .portEOI => 0
  | .extPort => core.ext
  | r => core.stored r

/-- Write the bits `mask` of a register; the end-of-interrupt register clears what is written
as one, and the status registers and the input port cannot be written. -/
def GpioCore.write (core : GpioCore) (r : GpioReg) (mask val : BitVec 32) : GpioCore :=
  match r with
  | .intStatus | .intRawStatus | .extPort | .versionID => core
  | .portEOI => { core with pending := core.pending &&& ~~~(val &&& mask) }
  | r => { core with
      stored := Function.update core.stored r (core.stored r &&& ~~~mask ||| val &&& mask) }

inductive GpioLayout
  | v1
  | v2
  deriving DecidableEq, Repr

/-- `GPIO_REGS_V1`. -/
def gpioRegsV1 : GpioReg → Nat
  | .portDR => 0x00
  | .portDDR => 0x04
  | .intEn => 0x30
  | .intMask => 0x34
  | .intType => 0x38
  | .intPolarity => 0x3c
  | .intStatus => 0x40
  | .intRawStatus => 0x44
  | .debounce => 0x48
  | .portEOI => 0x4c
  | .extPort => 0x50
  | _ => 0

/-- `GPIO_REGS_V2`. -/
def gpioRegsV2 : GpioReg → Nat
  | .portDR => 0x00
  | .portDDR => 0x08
  | .intEn => 0x10
  | .intMask => 0x18
  | .intType => 0x20
  | .intPolarity => 0x28
  | .intBothEdge => 0x30
  | .intStatus => 0x50
  | .intRawStatus => 0x58
  | .debounce => 0x38
  | .dbClkDivEn => 0x40
  | .dbClkDivCon => 0x48
  | .portEOI => 0x60
  | .extPort => 0x70
  | .versionID => 0x78

/-- What is at an offset: a whole register, or the low or the high 16 bits of one. -/
inductive GpioWord
  | whole (r : GpioReg)
  | low (r : GpioReg)
  | high (r : GpioReg)
  deriving DecidableEq, Repr

/-- The registers of a bank of the first version. -/
def decodeV1 : Nat → Option GpioWord
  | 0x00 => some (.whole .portDR)
  | 0x04 => some (.whole .portDDR)
  | 0x30 => some (.whole .intEn)
  | 0x34 => some (.whole .intMask)
  | 0x38 => some (.whole .intType)
  | 0x3c => some (.whole .intPolarity)
  | 0x40 => some (.whole .intStatus)
  | 0x44 => some (.whole .intRawStatus)
  | 0x48 => some (.whole .debounce)
  | 0x4c => some (.whole .portEOI)
  | 0x50 => some (.whole .extPort)
  | _ => none

/-- The registers of a bank of the second version. -/
def decodeV2 : Nat → Option GpioWord
  | 0x00 => some (.low .portDR)
  | 0x04 => some (.high .portDR)
  | 0x08 => some (.low .portDDR)
  | 0x0c => some (.high .portDDR)
  | 0x10 => some (.low .intEn)
  | 0x14 => some (.high .intEn)
  | 0x18 => some (.low .intMask)
  | 0x1c => some (.high .intMask)
  | 0x20 => some (.low .intType)
  | 0x24 => some (.high .intType)
  | 0x28 => some (.low .intPolarity)
  | 0x2c => some (.high .intPolarity)
  | 0x30 => some (.low .intBothEdge)
  | 0x34 => some (.high .intBothEdge)
  | 0x38 => some (.low .debounce)
  | 0x3c => some (.high .debounce)
  | 0x40 => some (.low .dbClkDivEn)
  | 0x44 => some (.high .dbClkDivEn)
  | 0x48 => some (.whole .dbClkDivCon)
  | 0x50 => some (.whole .intStatus)
  | 0x58 => some (.whole .intRawStatus)
  | 0x60 => some (.low .portEOI)
  | 0x64 => some (.high .portEOI)
  | 0x70 => some (.whole .extPort)
  | 0x78 => some (.whole .versionID)
  | _ => none

def GpioLayout.decode : GpioLayout → Nat → Option GpioWord
  | .v1 => decodeV1
  | .v2 => decodeV2

/-- `read32`: a word of halves has 16 data bits, an offset without a register reads as 0. -/
def busRead (layout : GpioLayout) (status : IntStatus) (core : GpioCore) (offset : Nat) :
    BitVec 32 :=
  match layout.decode offset with
  | none => 0
  | some (.whole r) => core.read status r
  | some (.low r) => core.read status r &&& 0xffff
  | some (.high r) => core.read status r >>> 16

/-- `write32`: the upper half of a word of halves enables the data bits in its lower half. -/
def busWrite (layout : GpioLayout) (core : GpioCore) (offset : Nat) (val : BitVec 32) :
    GpioCore :=
  match layout.decode offset with
  | none => core
  | some (.whole r) => core.write r (BitVec.allOnes 32) val
  | some (.low r) => core.write r (val >>> 16) (val &&& 0xffff)
  | some (.high r) => core.write r (val >>> 16 <<< 16) (val <<< 16)

/-! ## 2. The driver's helpers

The driver decides by the layout whether it writes a register with one access or with two. -/

/-- `GpioType`, and the layout and offsets that `RockchipGpioPrepareController` chooses. -/
structure GpioBank where
  typeV2 : Bool
  registers : GpioReg → Nat

def gpio_write32_v2 (layout : GpioLayout) (core : GpioCore) (reg : Nat) (val : BitVec 32) :
    GpioCore :=
  let core := busWrite layout core reg (val &&& 0xffff ||| 0xffff0000)
  busWrite layout core (reg + 0x4) (val >>> 16 ||| 0xffff0000)

def gpio_read32_v2 (layout : GpioLayout) (status : IntStatus) (core : GpioCore) (reg : Nat) :
    BitVec 32 :=
  busRead layout status core (reg + 0x4) <<< 16 ||| busRead layout status core reg

def gpio_write32 (bank : GpioBank) (layout : GpioLayout) (core : GpioCore) (reg : Nat)
    (val : BitVec 32) : GpioCore :=
  if bank.typeV2 then gpio_write32_v2 layout core reg val else busWrite layout core reg val

def gpio_read32 (bank : GpioBank) (layout : GpioLayout) (status : IntStatus) (core : GpioCore)
    (reg : Nat) : BitVec 32 :=
  if bank.typeV2 then gpio_read32_v2 layout status core reg else busRead layout status core reg

/-- The bank that the driver sets up for a layout. -/
def GpioLayout.bank : GpioLayout → GpioBank
  | .v1 => ⟨false, gpioRegsV1⟩
  | .v2 => ⟨true, gpioRegsV2⟩

/-! ## 3. A register is one word

Two writes of halves, each with its enables, come out as one write of the whole, also for the
register in which a written one clears a bit.  After this section the layout does not matter any
more. -/

/-- The registers that the callbacks write. -/
def GpioReg.Written : GpioReg → Prop
  | .portDR | .portDDR | .intMask | .intType | .intPolarity | .portEOI => True
  | _ => False

/-- The registers that the callbacks read through `gpio_read32`. -/
def GpioReg.Read : GpioReg → Prop
  | .portDR | .portDDR | .intMask | .intType | .intPolarity | .intStatus => True
  | _ => False

theorem getLsbD_dataBits (i : Nat) : (0xffff : BitVec 32).getLsbD i = decide (i < 16) := by
  rw [show (0xffff : BitVec 32) = BitVec.allOnes 32 >>> 16 by decide, BitVec.getLsbD_ushiftRight,
    BitVec.getLsbD_allOnes]
  exact decide_eq_decide.2 (by omega)

theorem getLsbD_enableBits (i : Nat) :
    (0xffff0000 : BitVec 32).getLsbD i = (decide (16 ≤ i) && decide (i < 32)) := by
  rw [show (0xffff0000 : BitVec 32) = BitVec.allOnes 32 <<< 16 by decide, BitVec.getLsbD_shiftLeft,
    BitVec.getLsbD_allOnes]
  by_cases hi : i < 16
  · simp [hi, Nat.not_le.2 hi]
  · simp [hi, Nat.not_lt.1 hi]
    omega

/-- The two halves of a word put together. -/
theorem halves_eq (x : BitVec 32) : (x >>> 16) <<< 16 ||| x &&& 0xffff = x := by
  refine BitVec.eq_of_getLsbD_eq fun i hi => ?_
  rw [BitVec.getLsbD_or, BitVec.getLsbD_shiftLeft, BitVec.getLsbD_ushiftRight, BitVec.getLsbD_and,
    getLsbD_dataBits]
  by_cases hlow : i < 16
  · simp [hlow]
  · have hshift : 16 + (i - 16) = i := by omega
    simp [hlow, hi, hshift]

/-- What a word of halves enables and carries when `val` is its data. -/
theorem enable_low (val : BitVec 32) :
    (val &&& 0xffff ||| 0xffff0000) >>> 16 = 0xffff
      ∧ (val &&& 0xffff ||| 0xffff0000) &&& 0xffff = val &&& 0xffff := by
  constructor
  · refine BitVec.eq_of_getLsbD_eq fun i hi => ?_
    rw [BitVec.getLsbD_ushiftRight, BitVec.getLsbD_or, BitVec.getLsbD_and, getLsbD_dataBits,
      getLsbD_dataBits, getLsbD_enableBits]
    by_cases hlow : i < 16
    · simp [hlow]
      omega
    · simp [hlow]
      omega
  · refine BitVec.eq_of_getLsbD_eq fun i hi => ?_
    rw [BitVec.getLsbD_and, BitVec.getLsbD_or, BitVec.getLsbD_and, getLsbD_dataBits,
      getLsbD_enableBits]
    by_cases hlow : i < 16
    · simp [hlow, Nat.not_le.2 hlow]
    · simp [hlow]

theorem enable_high (val : BitVec 32) :
    (val >>> 16 ||| 0xffff0000) >>> 16 <<< 16 = 0xffff0000
      ∧ (val >>> 16 ||| 0xffff0000) <<< 16 = val &&& 0xffff0000 := by
  constructor
  · refine BitVec.eq_of_getLsbD_eq fun i hi => ?_
    rw [BitVec.getLsbD_shiftLeft, BitVec.getLsbD_ushiftRight, BitVec.getLsbD_or,
      BitVec.getLsbD_ushiftRight, getLsbD_enableBits, getLsbD_enableBits]
    by_cases hlow : i < 16
    · simp [hlow, Nat.not_le.2 hlow]
    · have hshift : 16 + (i - 16) = i := by omega
      simp [hlow, hi, hshift, Nat.not_lt.1 hlow]
  · refine BitVec.eq_of_getLsbD_eq fun i hi => ?_
    rw [BitVec.getLsbD_shiftLeft, BitVec.getLsbD_or, BitVec.getLsbD_ushiftRight,
      BitVec.getLsbD_and, getLsbD_enableBits, getLsbD_enableBits]
    by_cases hlow : i < 16
    · simp [hlow, Nat.not_le.2 hlow]
    · have hshift : 16 + (i - 16) = i := by omega
      have hnot : ¬ 16 ≤ i - 16 := by omega
      simp [hlow, hi, hshift, hnot, Nat.not_lt.1 hlow]

/-- The low half written into `x`, then the high half. -/
theorem merge_halves (x val : BitVec 32) :
    (x &&& ~~~0xffff ||| val &&& 0xffff &&& 0xffff) &&& ~~~0xffff0000
      ||| val &&& 0xffff0000 &&& 0xffff0000 = val := by
  refine BitVec.eq_of_getLsbD_eq fun i hi => ?_
  simp only [BitVec.getLsbD_or, BitVec.getLsbD_and, BitVec.getLsbD_not, getLsbD_dataBits,
    getLsbD_enableBits]
  by_cases hlow : i < 16
  · simp [hlow, Nat.not_le.2 hlow, hi]
  · simp [hlow, Nat.not_lt.1 hlow, hi]

/-- The low half cleared in `x`, then the high half. -/
theorem clear_halves (x val : BitVec 32) :
    x &&& ~~~(val &&& 0xffff &&& 0xffff) &&& ~~~(val &&& 0xffff0000 &&& 0xffff0000)
      = x &&& ~~~(val &&& BitVec.allOnes 32) := by
  refine BitVec.eq_of_getLsbD_eq fun i hi => ?_
  simp only [BitVec.getLsbD_and, BitVec.getLsbD_not, getLsbD_dataBits, getLsbD_enableBits,
    BitVec.getLsbD_allOnes]
  by_cases hlow : i < 16
  · simp [hlow, Nat.not_le.2 hlow, hi]
  · simp [hlow, Nat.not_lt.1 hlow, hi]

/-- A register written as a whole holds what was written. -/
theorem merge_whole (x val : BitVec 32) :
    x &&& ~~~BitVec.allOnes 32 ||| val &&& BitVec.allOnes 32 = val := by
  rw [BitVec.not_allOnes, BitVec.and_zero, BitVec.zero_or, BitVec.and_allOnes]

/-- The two halves of a register that keeps what is written. -/
theorem update_halves (stored : GpioReg → BitVec 32) (r : GpioReg) (val : BitVec 32) :
    Function.update
        (Function.update stored r (stored r &&& ~~~0xffff ||| val &&& 0xffff &&& 0xffff)) r
        (Function.update stored r (stored r &&& ~~~0xffff ||| val &&& 0xffff &&& 0xffff) r
            &&& ~~~0xffff0000
          ||| val &&& 0xffff0000 &&& 0xffff0000)
      = Function.update stored r val := by
  rw [Function.update_self, Function.update_idem, merge_halves]

/-- **A register that is written as two halves is written as a whole.** -/
theorem write_halves {r : GpioReg} (hr : r.Written) (core : GpioCore) (val : BitVec 32) :
    (core.write r ((val &&& 0xffff ||| 0xffff0000) >>> 16)
        ((val &&& 0xffff ||| 0xffff0000) &&& 0xffff)).write r
      ((val >>> 16 ||| 0xffff0000) >>> 16 <<< 16) ((val >>> 16 ||| 0xffff0000) <<< 16)
      = core.write r (BitVec.allOnes 32) val := by
  rw [(enable_low val).1, (enable_low val).2, (enable_high val).1, (enable_high val).2]
  have hstored : ∀ r' : GpioReg, Function.update core.stored r' val
      = Function.update core.stored r'
        (core.stored r' &&& ~~~BitVec.allOnes 32 ||| val &&& BitVec.allOnes 32) := by
    intro r'
    rw [merge_whole]
  have hpending := clear_halves core.pending val
  cases r with
  | portEOI => exact congrArg (fun p => GpioCore.mk core.stored p core.ext) hpending
  | portDR | portDDR | intMask | intType | intPolarity =>
    exact congrArg (fun s => GpioCore.mk s core.pending core.ext)
      ((update_halves core.stored _ val).trans (hstored _))
  | _ => exact hr.elim

/-- **Through `gpio_write32` a register is one word**, in both layouts. -/
theorem gpio_write32_eq (layout : GpioLayout) {r : GpioReg} (hr : r.Written) (core : GpioCore)
    (val : BitVec 32) :
    gpio_write32 layout.bank layout core (layout.bank.registers r) val
      = core.write r (BitVec.allOnes 32) val := by
  cases layout with
  | v1 => cases r <;> first | rfl | exact hr.elim
  | v2 => cases r <;> first | exact write_halves hr core val | exact hr.elim

/-- **Through `gpio_read32` a register is one word**, in both layouts. -/
theorem gpio_read32_eq (layout : GpioLayout) (status : IntStatus) {r : GpioReg} (hr : r.Read)
    (core : GpioCore) :
    gpio_read32 layout.bank layout status core (layout.bank.registers r) = core.read status r := by
  cases layout with
  | v1 => cases r <;> first | rfl | exact hr.elim
  | v2 =>
    cases r with
    | intStatus =>
      have hhigh : (0 : BitVec 32) <<< 16 = 0 := by decide
      show (0 : BitVec 32) <<< 16 ||| status core = status core
      rw [hhigh]
      exact BitVec.zero_or
    | portDR | portDDR | intMask | intType | intPolarity => exact halves_eq _
    | _ => exact hr.elim

end WoaRk3576.Gpio
