/-
# Three register routines of dwcsdhc

`SdhcSlotToggleEvents`, `SdhcResetHost` and `SdhcSetVoltage` are called again and again, each on
what the last call left in the controller's registers.  Each of them goes wrong in one way:

* events are enabled and disabled on what the SIGNAL enables hold, which in crashdump mode nobody
  writes on an enable, and a disable of any event takes all error enables away;
* a reset that is not over within the poll budget leaves without the vendor bits;
* `SdBusVoltageOff` goes through the tail that powers the bus.

`toggled_events_exact`, `reset_bits_exact` and `voltage_exact` say which sequences of calls are
right, and that these are all.

Each of them is one step and one rule.  The step says of a call, in any state in which the property
holds, that it keeps it if and only if it meets the condition (`call_exact_iff`,
`vendorBitsKept_iff`, `sdhcSetVoltage_success`); `Each` and `Always` then take it along any
sequence of calls (`Lib/Calls.lean`).  The steps are about sets of bits in a word
(`Lib/Bits.lean`): what an enable adds and a disable takes away, and whether the bits that come out
are those that were asked for.

The reset is also a step of the slot, in `Sdhc.lean`, which looks at nothing but its type and
whether it was over: `sdhcResetHost_slot` says that this is what its polls come to.
-/
import WoaRk3576.Lib.Bits
import WoaRk3576.Lib.Calls
import WoaRk3576.Sd.Sdhc

namespace WoaRk3576.Sd.SdhcRegs

open WoaRk3576.Lib

/-! ## 1. `SdhcSlotToggleEvents`

An enable and a disable both start from the signal enables and write the result to the status
enables.  In the crash dump mode the signal enables are not written by an enable, so the next call
starts from what was there before it.  And a disable takes away the error enables, whatever its
mask is.  The observer keeps what was asked for: a union or a difference of sets. -/

/-- `SDHC_IS_ERROR_INTERRUPT`. -/
def sdhcIsErrorInterrupt : BitVec 16 := 0x8000

/-- The enables of events, and `CrashdumpMode`. -/
structure SdhcInterrupts where
  crashdumpMode : Bool
  interruptStatusEnable : BitVec 16
  errorStatusEnable : BitVec 16
  interruptSignalEnable : BitVec 16
  errorSignalEnable : BitVec 16
  deriving DecidableEq

def sdhcConvertEventsToHwMask (eventMask : BitVec 32) : BitVec 16 :=
  (eventMask &&& 0xFFFF).setWidth 16

def sdhcEnableInterrupt (normalInterruptMask : BitVec 32) (r : SdhcInterrupts) : SdhcInterrupts :=
  let interruptEnable := r.interruptSignalEnable ||| normalInterruptMask.setWidth 16
  let r := if r.crashdumpMode then r
    else { r with interruptSignalEnable := interruptEnable, errorSignalEnable := 0xFFFF }
  { r with interruptStatusEnable := interruptEnable, errorStatusEnable := 0xFFFF }

def sdhcDisableInterrupt (normalInterruptMask : BitVec 32) (r : SdhcInterrupts) : SdhcInterrupts :=
  let interruptDisable := r.interruptSignalEnable &&& ~~~normalInterruptMask.setWidth 16
  let r := { r with interruptStatusEnable := interruptDisable, errorStatusEnable := 0 }
  { r with interruptSignalEnable := interruptDisable, errorSignalEnable := 0 }

def sdhcSlotToggleEvents (eventMask : BitVec 32) (enable : Bool) (r : SdhcInterrupts) :
    SdhcInterrupts :=
  let interruptMask := sdhcConvertEventsToHwMask eventMask
  if enable then sdhcEnableInterrupt (interruptMask.setWidth 32) r
  else sdhcDisableInterrupt (interruptMask.setWidth 32) r

/-- A call. -/
structure ToggleCall where
  eventMask : BitVec 32
  enable : Bool
  deriving DecidableEq

/-- The registers, with the events that the calls have asked for. -/
structure SdhcToggles extends SdhcInterrupts where
  wanted : BitVec 16
  deriving DecidableEq

/-- A call, and what it asks for: a union or a difference. -/
def SdhcToggles.call (s : SdhcToggles) (c : ToggleCall) : SdhcToggles where
  toSdhcInterrupts := sdhcSlotToggleEvents c.eventMask c.enable s.toSdhcInterrupts
  wanted := if c.enable then s.wanted ||| sdhcConvertEventsToHwMask c.eventMask
    else s.wanted &&& ~~~sdhcConvertEventsToHwMask c.eventMask

/-- **The enables are as they were asked for**: the status enables are the events, outside
crashdump mode the signals follow them, and errors are enabled as long as the error interrupt
is. -/
structure EventsExact (s : SdhcToggles) : Prop where
  status : s.interruptStatusEnable = s.wanted
  signal : s.crashdumpMode = false → s.interruptSignalEnable = s.interruptStatusEnable
  errorStatus : s.wanted &&& sdhcIsErrorInterrupt ≠ 0 → s.errorStatusEnable = 0xFFFF
  errorSignal : s.wanted &&& sdhcIsErrorInterrupt ≠ 0 → s.crashdumpMode = false →
    s.errorSignalEnable = 0xFFFF

/-- **The condition on a call**: off its mask the signal enables are the status enables, and a
disable does not leave the error interrupt enabled. -/
def KeepsEvents (s : SdhcToggles) (c : ToggleCall) : Prop :=
  s.interruptSignalEnable &&& ~~~sdhcConvertEventsToHwMask c.eventMask
      = s.interruptStatusEnable &&& ~~~sdhcConvertEventsToHwMask c.eventMask
    ∧ (c.enable = true ∨ s.interruptStatusEnable &&& ~~~sdhcConvertEventsToHwMask c.eventMask
      &&& sdhcIsErrorInterrupt = 0)

instance (s : SdhcToggles) (c : ToggleCall) : Decidable (KeepsEvents s c) :=
  inferInstanceAs (Decidable (_ ∧ _))

section Toggles

variable (r : SdhcInterrupts) (mask : BitVec 16)

theorem setWidth_setWidth_mask : (mask.setWidth 32).setWidth 16 = mask := by
  rw [BitVec.setWidth_setWidth_of_le _ (by decide), BitVec.setWidth_eq]

/-- **What an enable does.** -/
theorem sdhcEnableInterrupt_eq : sdhcEnableInterrupt (mask.setWidth 32) r = { r with
    interruptStatusEnable := r.interruptSignalEnable ||| mask
    errorStatusEnable := 0xFFFF
    interruptSignalEnable := if r.crashdumpMode then r.interruptSignalEnable
      else r.interruptSignalEnable ||| mask
    errorSignalEnable := if r.crashdumpMode then r.errorSignalEnable else 0xFFFF } := by
  unfold sdhcEnableInterrupt
  rw [setWidth_setWidth_mask]
  cases hcrash : r.crashdumpMode with
  | true => simp [hcrash]
  | false => simp

/-- **What a disable does.** -/
theorem sdhcDisableInterrupt_eq : sdhcDisableInterrupt (mask.setWidth 32) r = { r with
    interruptStatusEnable := r.interruptSignalEnable &&& ~~~mask
    errorStatusEnable := 0
    interruptSignalEnable := r.interruptSignalEnable &&& ~~~mask
    errorSignalEnable := 0 } := by
  unfold sdhcDisableInterrupt
  rw [setWidth_setWidth_mask]

end Toggles

/-- **A call keeps the enables exact** if and only if it meets the condition. -/
theorem call_exact_iff {s : SdhcToggles} (h : EventsExact s) (c : ToggleCall) :
    EventsExact (s.call c) ↔ KeepsEvents s c := by
  unfold SdhcToggles.call sdhcSlotToggleEvents KeepsEvents
  cases henable : c.enable with
  | true =>
    simp only [if_true, sdhcEnableInterrupt_eq, true_or, and_true]
    rw [← or_eq_or_iff, h.status]
    constructor
    · exact EventsExact.status
    · intro hstatus
      refine ⟨hstatus, ?_, fun _ => rfl, ?_⟩
      · intro hcrash
        exact if_neg (ne_true_of_eq_false hcrash)
      · intro _ hcrash
        exact if_neg (ne_true_of_eq_false hcrash)
  | false =>
    simp only [Bool.false_eq_true, if_false, sdhcDisableInterrupt_eq, false_or]
    rw [h.status]
    constructor
    · intro hexact
      refine ⟨hexact.status, ?_⟩
      by_contra herror
      have hnone := hexact.errorStatus herror
      simp at hnone
    · rintro ⟨hstatus, herror⟩
      exact ⟨hstatus, fun _ => rfl, fun hsome => absurd herror hsome,
        fun hsome => absurd herror hsome⟩

/-- **The event enables are exact along a sequence of calls** if and only if each call meets the
condition.  From registers that are exact a call leads to exact ones just where it meets it, and
where it does not the sequence is wrong from there. -/
theorem toggled_events_exact {s : SdhcToggles} (h : EventsExact s) (calls : List ToggleCall) :
    Always SdhcToggles.call EventsExact s calls ↔ Each SdhcToggles.call KeepsEvents s calls :=
  always_iff_each (fun _ c hs => call_exact_iff hs c) calls s h

/-- The registers after a reset of the hardware. -/
def clearToggles (crashdumpMode : Bool) : SdhcToggles := ⟨⟨crashdumpMode, 0, 0, 0, 0⟩, 0⟩

theorem clearToggles_exact (crashdumpMode : Bool) : EventsExact (clearToggles crashdumpMode) where
  status := rfl
  signal := fun _ => rfl
  errorStatus := fun hsome => absurd BitVec.zero_and hsome
  errorSignal := fun hsome => absurd BitVec.zero_and hsome

/-- Commands, a transfer, and no more card detection. -/
theorem toggled_events_exact_of_transfer :
    Always SdhcToggles.call EventsExact (clearToggles false)
        [⟨0x00C3, true⟩, ⟨0x0030, true⟩, ⟨0x00C0, false⟩]
      ↔ Each SdhcToggles.call KeepsEvents (clearToggles false)
        [⟨0x00C3, true⟩, ⟨0x0030, true⟩, ⟨0x00C0, false⟩] :=
  toggled_events_exact (clearToggles_exact false) _

/-- A disable of card detection takes the error enables from under the error interrupt, and in
crashdump mode the second enable forgets the first. -/
theorem toggled_events_lost :
    ¬ Always SdhcToggles.call EventsExact (clearToggles false) [⟨0x80C3, true⟩, ⟨0x00C0, false⟩]
      ∧ ¬ Always SdhcToggles.call EventsExact (clearToggles true)
        [⟨0x0001, true⟩, ⟨0x0002, true⟩] := by
  constructor
  · rintro ⟨-, -, hlast⟩
    exact absurd (hlast.errorStatus (by decide)) (by decide)
  · rintro ⟨-, -, hlast⟩
    exact absurd hlast.status (by decide)

/-! ## 2. `SdhcResetHost`

A reset may clear vendor bits that the controller needs, so the driver writes them back behind it.
It does so if the reset is over within the polls; a reset that takes longer returns before.  What
the hardware makes of the registers is any value, so the bits may also have survived. -/

/-- `DWCMSHC_MISC_INTCLK_EN`. -/
def dwcmshcMiscIntclkEn : BitVec 32 := 1 <<< 1

/-- `DWCMSHC_CARD_IS_EMMC`. -/
def dwcmshcCardIsEmmc : BitVec 32 := 1 <<< 0

/-- `SDHC_HC_DMA_SELECT_MASK`. -/
def sdhcHcDmaSelectMask : BitVec 8 := 0x18

/-- The registers that a reset may change. -/
structure ResetRegs where
  miscCon : BitVec 32
  emmcControl : BitVec 32
  timeoutControl : BitVec 8
  interruptStatus : BitVec 16
  hostControl : BitVec 8
  deriving DecidableEq

/-- The registers, and what `SdhcResetHost` reads and writes of the extension. -/
structure ResetHost extends ResetRegs where
  outstandingRequest : Option Nat
  scatterGatherDma : Bool
  address64Bit : Bool
  deriving DecidableEq

/-- A call, and what the hardware does: the registers once the reset is written, and the answers
to the polls of `SDHC_RESET`.  No type stands for one that the code does not know. -/
structure ResetCall where
  resetType : Option ResetType
  cleared : ResetRegs
  polls : Nat → BitVec 8

/-- The value that is written to `SDHC_RESET`. -/
def resetMask : ResetType → BitVec 8
  | .all => 0x01
  | .cmd => 0x02
  | .dat => 0x04

/-- The polling loop with `retries`, from the poll `k` on: whether the reset was over in time. -/
def pollReset (polls : Nat → BitVec 8) (mask : BitVec 8) : Nat → Nat → Bool
  | 0, _ => false
  | retries + 1, k =>
    if retries = 0 then false
    else if polls k &&& mask ≠ 0 then pollReset polls mask retries (k + 1)
    else true

/-- The DMA select bits of `SDHC_HOST_CONTROL`. -/
def selectDma (h : ResetHost) (hostControl : BitVec 8) : BitVec 8 :=
  let hostControl := hostControl &&& ~~~sdhcHcDmaSelectMask
  if h.scatterGatherDma then
    if h.address64Bit then hostControl ||| 0x18 else hostControl ||| 0x10
  else hostControl

/-- `SdhcResetHost`. -/
def sdhcResetHost (h : ResetHost) (c : ResetCall) : ResetHost × NtStatus :=
  match c.resetType with
  | none => (h, .invalidParameter)
  | some type =>
    let h := { h with outstandingRequest := none }
    let miscCon := h.miscCon
    let h := { h with toResetRegs := c.cleared }
    if pollReset c.polls (resetMask type) 100 0 then
      let h := { h with miscCon := miscCon ||| dwcmshcMiscIntclkEn }
      let h := if type = .all then { h with emmcControl := h.emmcControl ||| dwcmshcCardIsEmmc }
        else h
      -- the interrupt status is cleared by writing ones
      ({ h with
        timeoutControl := 0x0e
        interruptStatus := 0
        hostControl := selectDma h h.hostControl }, .success)
    else (h, .ioTimeout)

/-- The reset is over within the budget of polls. -/
def ResetCall.isOver (c : ResetCall) : Bool :=
  c.resetType.any fun type => pollReset c.polls (resetMask type) 100 0

/-- What `Sd/Sdhc.lean` keeps of a reset: the slot is given up before the register is written, so it
is free after a time-out too, and the status is that of the polls. -/
theorem sdhcResetHost_slot (h : ResetHost) (c : ResetCall) (slot : SdhcHost)
    (hslot : slot.outstandingRequest = h.outstandingRequest) :
    (Sd.sdhcResetHost c.resetType c.isOver slot).1.outstandingRequest
        = (sdhcResetHost h c).1.outstandingRequest
      ∧ (Sd.sdhcResetHost c.resetType c.isOver slot).2 = (sdhcResetHost h c).2 := by
  unfold sdhcResetHost ResetCall.isOver
  cases htype : c.resetType with
  | none => exact ⟨hslot, rfl⟩
  | some type =>
    dsimp only [Sd.sdhcResetHost, Option.any_some]
    cases hover : pollReset c.polls (resetMask type) 100 0 with
    | true =>
      rw [if_pos rfl]
      refine ⟨?_, rfl⟩
      split
      · rfl
      · rfl
    | false => exact ⟨rfl, rfl⟩

/-- **The vendor bits outlast the call**, if it wrote the reset register. -/
def VendorBitsKept (h : ResetHost) (c : ResetCall) : Prop :=
  ∀ type, c.resetType = some type →
    (sdhcResetHost h c).1.miscCon = h.miscCon ||| dwcmshcMiscIntclkEn
      ∧ (type = .all → (sdhcResetHost h c).1.emmcControl &&& dwcmshcCardIsEmmc ≠ 0)

/-- **The condition on a call**: the reset is over within 99 polls, or it has left the vendor bits
as they are to be. -/
def ResetHeals (h : ResetHost) (c : ResetCall) : Prop :=
  ∀ type, c.resetType = some type →
    (∃ k < 99, c.polls k &&& resetMask type = 0)
      ∨ (c.cleared.miscCon = h.miscCon ||| dwcmshcMiscIntclkEn
        ∧ (type = .all → c.cleared.emmcControl &&& dwcmshcCardIsEmmc ≠ 0))

/-- The polls within the budget. -/
theorem pollReset_iff (polls : Nat → BitVec 8) (mask : BitVec 8) (n : Nat) :
    ∀ k, pollReset polls mask (n + 1) k = true ↔ ∃ j, k ≤ j ∧ j < k + n ∧ polls j &&& mask = 0 := by
  induction n with
  | zero =>
    intro k
    unfold pollReset
    rw [if_pos rfl]
    constructor
    · intro hfalse
      cases hfalse
    · rintro ⟨j, hle, hlt, -⟩
      omega
  | succ n ih =>
    intro k
    rw [pollReset, if_neg (Nat.succ_ne_zero n)]
    by_cases hover : polls k &&& mask = 0
    · rw [if_neg (not_not.mpr hover)]
      exact ⟨fun _ => ⟨k, le_rfl, by omega, hover⟩, fun _ => rfl⟩
    · rw [if_pos hover, ih]
      constructor
      · rintro ⟨j, hle, hlt, hj⟩
        exact ⟨j, by omega, by omega, hj⟩
      · rintro ⟨j, hle, hlt, hj⟩
        have hne : j ≠ k := fun heq => hover (heq ▸ hj)
        exact ⟨j, by omega, by omega, hj⟩

theorem emmc_or_ne_zero (control : BitVec 32) :
    (control ||| dwcmshcCardIsEmmc) &&& dwcmshcCardIsEmmc ≠ 0 := by
  intro hzero
  have hbits := ((or_apart_iff _ _ _).mp hzero).2
  exact absurd hbits (by decide)

/-- **One call**: the condition is exact. -/
theorem vendorBitsKept_iff (h : ResetHost) (c : ResetCall) :
    VendorBitsKept h c ↔ ResetHeals h c := by
  unfold VendorBitsKept ResetHeals
  refine forall_congr' fun type => forall_congr' fun htype => ?_
  have hpolls := pollReset_iff c.polls (resetMask type) 99 0
  simp only [Nat.zero_le, true_and, Nat.zero_add] at hpolls
  unfold sdhcResetHost
  rw [htype]
  dsimp only
  by_cases hover : pollReset c.polls (resetMask type) 100 0 = true
  · rw [if_pos hover]
    refine ⟨fun _ => .inl (hpolls.mp hover), fun _ => ⟨?_, fun hall => ?_⟩⟩
    · split
      · rfl
      · rfl
    · rw [if_pos hall]
      exact emmc_or_ne_zero _
  · rw [if_neg hover]
    constructor
    · exact .inr
    · rintro (hin | hspared)
      · exact absurd (hpolls.mpr hin) hover
      · exact hspared

/-- **The vendor bits outlast each of a sequence of calls** if and only if each call meets the
condition.  They are written back at the end of the routine, which is reached just if the reset is
over within the polls; otherwise they survive only where there was nothing to lose. -/
theorem reset_bits_exact (h : ResetHost) (calls : List ResetCall) :
    Each (fun h c => (sdhcResetHost h c).1) VendorBitsKept h calls
      ↔ Each (fun h c => (sdhcResetHost h c).1) ResetHeals h calls :=
  each_congr vendorBitsKept_iff calls h

/-- The controller with its vendor bits set. -/
def vendorHost : ResetHost where
  miscCon := 0x3
  emmcControl := 0x5
  timeoutControl := 0x0e
  interruptStatus := 0
  hostControl := 0x10
  outstandingRequest := none
  scatterGatherDma := true
  address64Bit := false

/-- A full reset that clears itself with the answer to poll 100. -/
theorem reset_bits_lost :
    ¬ Each (fun h c => (sdhcResetHost h c).1) VendorBitsKept vendorHost
      [⟨some .all, ⟨0, 0, 0, 0, 0⟩, fun k => if k < 100 then 0x01 else 0⟩] := by
  rintro ⟨hkept, -⟩
  exact absurd (hkept .all rfl).1 (by decide)

/-! ## 3. `SdhcSetVoltage`

The voltage is written with the power bit set, and written again until it is read back.  "Off" is a
voltage like the others to this loop. -/

/-- `SDPORT_BUS_VOLTAGE`. -/
inductive BusVoltage
  | undefined
  | off
  | v33
  | v30
  | v18
  deriving DecidableEq, Repr

/-- `SDHC_PC_BUS_POWER`. -/
def sdhcPcBusPower : BitVec 8 := 0x01

/-- `SDHC_PC_VOLTAGE_MASK`. -/
def sdhcPcVoltageMask : BitVec 8 := 0x0e

/-- `PowerControl` for a voltage, if it is valid. -/
def BusVoltage.powerControl : BusVoltage → Option (BitVec 8)
  | .v33 => some 0x0e
  | .v30 => some 0x0c
  | .v18 => some 0x0a
  | .off => some 0
  | .undefined => none

/-- A call, and what `SDHC_POWER_CONTROL` holds after the write `k` of it. -/
structure VoltageCall where
  voltage : BusVoltage
  answers : Nat → BitVec 8 → BitVec 8

/-- Where a polling loop is: whether it has found what it looked for, the number of writes so far,
and the register. -/
structure PowerPoll where
  done : Bool
  writes : Nat
  reg : BitVec 8

/-- A polling loop with `retries`, which writes `powerControl` and reads it back. -/
def pollPower (answers : Nat → BitVec 8 → BitVec 8) (mask powerControl : BitVec 8) :
    Nat → Nat → BitVec 8 → PowerPoll
  | 0, writes, reg => ⟨false, writes, reg⟩
  | retries + 1, writes, reg =>
    if retries = 0 then ⟨false, writes, reg⟩
    else
      let powerControlCheck := answers writes powerControl
      if powerControlCheck &&& mask ≠ powerControl then
        pollPower answers mask powerControl retries (writes + 1) powerControlCheck
      else ⟨true, writes + 1, powerControlCheck⟩

/-- `SdhcSetVoltage`, on `SDHC_POWER_CONTROL`. -/
def sdhcSetVoltage (reg : BitVec 8) (c : VoltageCall) : BitVec 8 × NtStatus :=
  match c.voltage.powerControl with
  | none => (reg, .invalidParameter)
  | some powerControl =>
    let selected := pollPower c.answers sdhcPcVoltageMask powerControl 100 0 reg
    if selected.done then
      let powerControl := powerControl ||| sdhcPcBusPower
      let powered := pollPower c.answers (sdhcPcVoltageMask ||| sdhcPcBusPower) powerControl 100
        (selected.writes + 1) (c.answers selected.writes powerControl)
      (powered.reg, if powered.done then .success else .ioTimeout)
    else (selected.reg, .ioTimeout)

/-- **The bus is powered as it was asked for**, if the call succeeded. -/
def PoweredAsAsked (reg : BitVec 8) (c : VoltageCall) : Prop :=
  (sdhcSetVoltage reg c).2 = .success →
    ((sdhcSetVoltage reg c).1 &&& sdhcPcBusPower ≠ 0 ↔ c.voltage ≠ .off)
      ∧ c.voltage.powerControl = some ((sdhcSetVoltage reg c).1 &&& sdhcPcVoltageMask)

/-- What a loop that has found its value leaves in the register. -/
theorem pollPower_reg {answers : Nat → BitVec 8 → BitVec 8} {mask powerControl : BitVec 8}
    (retries : Nat) : ∀ writes reg,
      (pollPower answers mask powerControl retries writes reg).done = true →
      (pollPower answers mask powerControl retries writes reg).reg &&& mask = powerControl := by
  induction retries with
  | zero =>
    intro writes reg hdone
    cases hdone
  | succ retries ih =>
    intro writes reg
    unfold pollPower
    dsimp only
    split
    · intro hdone
      cases hdone
    · split
      · exact ih _ _
      · rename_i hsame
        exact fun _ => not_not.mp hsame

/-- Bits of a register that shows a voltage with the bus powered. -/
theorem powered_bits {voltage : BusVoltage} {powerControl reg : BitVec 8}
    (hcode : voltage.powerControl = some powerControl)
    (hreg : reg &&& (sdhcPcVoltageMask ||| sdhcPcBusPower) = powerControl ||| sdhcPcBusPower) :
    reg &&& sdhcPcBusPower ≠ 0 ∧ reg &&& sdhcPcVoltageMask = powerControl := by
  have hpower : reg &&& sdhcPcBusPower = (powerControl ||| sdhcPcBusPower) &&& sdhcPcBusPower := by
    rw [← hreg, BitVec.and_assoc]
    rfl
  have hvoltage : reg &&& sdhcPcVoltageMask
      = (powerControl ||| sdhcPcBusPower) &&& sdhcPcVoltageMask := by
    rw [← hreg, BitVec.and_assoc]
    rfl
  rw [hpower, hvoltage]
  cases voltage with
  | undefined => cases hcode
  | off => cases hcode; decide
  | v33 => cases hcode; decide
  | v30 => cases hcode; decide
  | v18 => cases hcode; decide

/-- **A call that succeeded has powered the bus**, at the voltage it was given. -/
theorem sdhcSetVoltage_success {reg : BitVec 8} {c : VoltageCall}
    (h : (sdhcSetVoltage reg c).2 = .success) :
    (sdhcSetVoltage reg c).1 &&& sdhcPcBusPower ≠ 0
      ∧ c.voltage.powerControl = some ((sdhcSetVoltage reg c).1 &&& sdhcPcVoltageMask) := by
  unfold sdhcSetVoltage at h ⊢
  cases hcode : c.voltage.powerControl with
  | none =>
    rw [hcode] at h
    cases h
  | some powerControl =>
    rw [hcode] at h
    dsimp only at h ⊢
    split
    · rename_i hselected
      rw [if_pos hselected] at h
      dsimp only at h ⊢
      split at h
      · rename_i hdone
        obtain ⟨hpower, hvoltage⟩ := powered_bits hcode (pollPower_reg _ _ _ hdone)
        exact ⟨hpower, congrArg some hvoltage.symm⟩
      · cases h
    · rename_i hselected
      rw [if_neg hselected] at h
      cases h

/-- A voltage that is not off. -/
theorem poweredAsAsked_of_ne_off {reg : BitVec 8} {c : VoltageCall} (h : c.voltage ≠ .off) :
    PoweredAsAsked reg c := by
  intro hsuccess
  obtain ⟨hpower, hvoltage⟩ := sdhcSetVoltage_success hsuccess
  exact ⟨⟨fun _ => h, fun _ => hpower⟩, hvoltage⟩

/-- A call to turn the power off, on a register that holds what is written. -/
def offCall : VoltageCall := ⟨.off, fun _ value => value⟩

/-- Such a register has the value at the first poll. -/
theorem pollPower_held {mask powerControl : BitVec 8} (h : powerControl &&& mask = powerControl)
    (retries writes : Nat) (reg : BitVec 8) :
    pollPower (fun _ value => value) mask powerControl (retries + 2) writes reg
      = ⟨true, writes + 1, powerControl⟩ := by
  rw [pollPower, if_neg (Nat.succ_ne_zero retries), if_neg (not_not.mpr h)]

theorem offCall_powers (reg : BitVec 8) : ¬ PoweredAsAsked reg offCall := by
  intro hpowered
  have hsuccess : (sdhcSetVoltage reg offCall).2 = .success := by
    unfold sdhcSetVoltage offCall BusVoltage.powerControl
    dsimp only
    rw [pollPower_held (by decide) 98 0 reg, if_pos rfl, pollPower_held (by decide) 98]
    rfl
  exact (hpowered hsuccess).1.mp (sdhcSetVoltage_success hsuccess).1 rfl

/-- **The power is as asked after each of a sequence of calls**, whatever the polls answer, if and
only if no call asks for `SdBusVoltageOff`.  All voltages go through one tail, which sets the power
bit; for each that is a voltage this is right, and for the one that is none it is wrong. -/
theorem voltage_exact (reg : BitVec 8) (voltages : List BusVoltage) :
    (∀ calls : List VoltageCall, calls.map VoltageCall.voltage = voltages →
        Each (fun reg c => (sdhcSetVoltage reg c).1) PoweredAsAsked reg calls)
      ↔ .off ∉ voltages := by
  constructor
  · intro hall hoff
    have hcalls := hall (voltages.map fun voltage => ⟨voltage, fun _ value => value⟩)
      (by simp [Function.comp_def])
    obtain ⟨t, ht⟩ := hcalls.forall_mem offCall (List.mem_map.mpr ⟨.off, hoff, rfl⟩)
    exact offCall_powers t ht
  · rintro hoff calls rfl
    refine Each.of_forall (fun c hc t => poweredAsAsked_of_ne_off fun heq => hoff ?_) reg
    exact List.mem_map.mpr ⟨c, hc, heq⟩

/-- The power is turned on and off again. -/
theorem voltage_off_powered :
    ¬ ∀ calls : List VoltageCall, calls.map VoltageCall.voltage = [.v33, .off] →
        Each (fun reg c => (sdhcSetVoltage reg c).1) PoweredAsAsked 0 calls := by
  intro hall
  obtain ⟨-, hlast, -⟩ := hall [⟨.v33, fun _ value => value⟩, offCall] rfl
  exact offCall_powers _ hlast

end WoaRk3576.Sd.SdhcRegs
