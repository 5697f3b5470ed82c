/-
# The signaling voltage of dwcmshc, where a switch fails

`MshcSetSignalingVoltage` with any platform operation, or none, and any answers of the hardware.
The switch goes on step by step and returns where one fails; there is no way back.

`setSignaling_failed` says what a failed switch leaves behind: the voltage that the driver believes
in is the old one, the register has the new one, and the clock is off where the platform refuses
1.8 V and on where the card does not follow.

Each step is a write of one bit under the slot's mask, and the returns lie between the steps, so
what is left behind is known by where the switch returned.  Whether it is what was there before is
then asked bit by bit (`unswitched_iff`): the extension is never touched before the end; the bit of
the voltage is the old one only if it had the new value already; and the same for the enable bit of
the clock, which the steps on the way to 1.8 V clear and set again.
-/
import WoaRk3576.Lib.Bits
import WoaRk3576.Sd.MshcRecovery

namespace WoaRk3576.Sd.Signaling

open WoaRk3576.Lib WoaRk3576.Sd.Bus

/-! ## 1. `MshcSetSignalingVoltage`

The routine is taken again with the platform operation as a parameter, as there may be another
platform or none.  It writes its bits one by one, and each `return` is behind some of them. -/

/-- `PlatformOperations->SetSignalingVoltage`, which may be NULL. -/
abbrev PlatformOperation := Option (SignalingVoltage → NtStatus)

/-- `Status` after the call of the platform operation. -/
def platformStatus (operation : PlatformOperation) (voltage : SignalingVoltage) : NtStatus :=
  match operation with
  | none => .success
  | some setSignalingVoltage => setSignalingVoltage voltage

/-- The way back to 3.3 V, once it is safe. -/
def switchTo33 (operation : PlatformOperation) (p : MshcSlot) (s : MshcBus) :
    NtStatus × MshcBus :=
  let status := platformStatus operation .v33
  let s := { s with uhsReg := putBit s.uhsReg (mshcUhsRegVoltReg p.slotId) false }
  (status, if status.ntSuccess then { s with signalingVoltage := .v33 } else s)

/-- The switch to 1.8 V, with the interrupts off. -/
def switchTo18 (operation : PlatformOperation) (p : MshcSlot) (hw : Nat → HwAnswer)
    (s : MshcBus) : NtStatus × MshcBus :=
  let s := { s with
    ctrl := putBit s.ctrl mshcCtrlIntEnable false
    clkena := putBit s.clkena (mshcClkenaCclkEnable p.slotId) false }.asked
  let s := { s with uhsReg := putBit s.uhsReg (mshcUhsRegVoltReg p.slotId) true }
  let confirmed := confirm18 p hw (platformStatus operation .v18) s
  let s := { confirmed.2 with ctrl := putBit confirmed.2.ctrl mshcCtrlIntEnable true }
  (confirmed.1, if confirmed.1.ntSuccess then { s with signalingVoltage := .v18 } else s)

/-- **`MshcSetSignalingVoltage`**. -/
def mshcSetSignalingVoltage (operation : PlatformOperation) (p : MshcSlot) (hw : Nat → HwAnswer)
    (depth : Nat) (voltage : SignalingVoltage) (s : MshcBus) : MshcResult :=
  match voltage with
  | .v33 =>
    if s.signalingVoltage = .v18 ∧ s.cardPowerControlSupported = false then
      match Bus.mshcSendStatusCommand p hw depth s with
      | .error fault => .error fault
      | .ok (status, s) =>
        if status.ntSuccess then .ok (.success, s) else .ok (switchTo33 operation p s)
    else .ok (switchTo33 operation p s)
  | .v18 => .ok (switchTo18 operation p hw s)
  | .undefined => .ok (.invalidParameter, s)

/-- With the operation of `rockchip_ops.cpp` it is the one of the bus operations. -/
theorem mshcSetSignalingVoltage_rockchip (p : MshcSlot) (hw : Nat → HwAnswer) (depth : Nat)
    (voltage : SignalingVoltage) (s : MshcBus) :
    Bus.mshcSetSignalingVoltage p hw (depth + 1) voltage s
      = mshcSetSignalingVoltage (some mshcRockchipSetSignalingVoltage) p hw depth voltage s := by
  cases voltage <;> rfl

/-! ## 2. What is to be as before

Three things: the bit of the voltage, the enables of the clock, and the voltage in the extension. -/

/-- **Nothing is switched**: the voltage bit, the clock-enable register and the voltage that the
driver believes in. -/
structure Unswitched (p : MshcSlot) (s s' : MshcBus) : Prop where
  voltageBit : s'.uhsReg &&& mshcUhsRegVoltReg p.slotId = s.uhsReg &&& mshcUhsRegVoltReg p.slotId
  clkena : s'.clkena = s.clkena
  signalingVoltage : s'.signalingVoltage = s.signalingVoltage

/-- What a failed switch leaves in the registers. -/
def LeftBehind (operation : PlatformOperation) (p : MshcSlot) (s s' : MshcBus) :
    SignalingVoltage → Prop
  | .undefined => s' = s
  | .v33 => s'.uhsReg = s.uhsReg &&& ~~~mshcUhsRegVoltReg p.slotId ∧ s'.clkena = s.clkena
  | .v18 => s'.uhsReg = s.uhsReg ||| mshcUhsRegVoltReg p.slotId
    ∧ s'.clkena = if (platformStatus operation .v18).ntSuccess
      then s.clkena ||| mshcClkenaCclkEnable p.slotId
      else s.clkena &&& ~~~mshcClkenaCclkEnable p.slotId

/-- **The registers were already as a failed switch leaves them.** -/
def AlreadySet (operation : PlatformOperation) (p : MshcSlot) (s : MshcBus) :
    SignalingVoltage → Prop
  | .undefined => True
  | .v33 => s.uhsReg &&& mshcUhsRegVoltReg p.slotId = 0
  | .v18 => s.uhsReg &&& mshcUhsRegVoltReg p.slotId = mshcUhsRegVoltReg p.slotId
    ∧ s.clkena &&& mshcClkenaCclkEnable p.slotId
      = if (platformStatus operation .v18).ntSuccess then mshcClkenaCclkEnable p.slotId else 0

/-! ## 3. The two switches

The way to 3.3 V fails only where the platform refuses, and the way to 1.8 V also where the card
does not follow. -/

section Switch

variable (operation : PlatformOperation) (p : MshcSlot) (hw : Nat → HwAnswer) (s : MshcBus)

theorem switchTo33_failed (herror : (switchTo33 operation p s).1.ntSuccess = false) :
    (switchTo33 operation p s).2.signalingVoltage = s.signalingVoltage
      ∧ LeftBehind operation p s (switchTo33 operation p s).2 .v33 := by
  unfold switchTo33 at herror ⊢
  dsimp only at herror ⊢
  rw [if_neg (by rw [herror]; exact Bool.noConfusion)]
  exact ⟨rfl, rfl, rfl⟩

/-- The confirmation touches the clock only, and only where the platform has switched. -/
theorem confirm18_eq (status : NtStatus) :
    (confirm18 p hw status s).2.uhsReg = s.uhsReg
      ∧ (confirm18 p hw status s).2.signalingVoltage = s.signalingVoltage
      ∧ (confirm18 p hw status s).2.clkena
        = if status.ntSuccess then s.clkena ||| mshcClkenaCclkEnable p.slotId else s.clkena := by
  unfold confirm18
  split
  · exact ⟨rfl, rfl, rfl⟩
  · exact ⟨rfl, rfl, rfl⟩

theorem switchTo18_failed (herror : (switchTo18 operation p hw s).1.ntSuccess = false) :
    (switchTo18 operation p hw s).2.signalingVoltage = s.signalingVoltage
      ∧ LeftBehind operation p s (switchTo18 operation p hw s).2 .v18 := by
  unfold switchTo18 at herror ⊢
  dsimp only at herror ⊢
  rw [if_neg (by rw [herror]; exact Bool.noConfusion)]
  obtain ⟨huhs, hvoltage, hclock⟩ := confirm18_eq p hw
    { { s with
      ctrl := putBit s.ctrl mshcCtrlIntEnable false
      clkena := putBit s.clkena (mshcClkenaCclkEnable p.slotId) false }.asked with
      uhsReg := putBit s.uhsReg (mshcUhsRegVoltReg p.slotId) true }
    (platformStatus operation .v18)
  refine ⟨hvoltage, huhs, ?_⟩
  dsimp only [MshcBus.asked, putBit] at hclock ⊢
  rw [hclock]
  split
  · exact and_not_or s.clkena _
  · rfl

end Switch

/-! ## 4. The whole switch

The places at which the switch can return are the cases of the result, each with the bits that were
written before it. -/

/-- The status command keeps what a switch is about. -/
theorem keeps_switched {s s' : MshcBus} (h : KeepsTransfer s s') :
    s'.uhsReg = s.uhsReg ∧ s'.clkena = s.clkena ∧ s'.signalingVoltage = s.signalingVoltage :=
  ⟨congrArg BusSettings.uhsReg h.settings,
    congrArg (fun settings : BusSettings => settings.clock.clkena) h.settings,
    congrArg BusSettings.signalingVoltage h.settings⟩

/-- **What is left behind is what was there before** just where it was there before. -/
theorem unswitched_iff {operation : PlatformOperation} {p : MshcSlot} {s s' : MshcBus}
    {voltage : SignalingVoltage} (hleft : LeftBehind operation p s s' voltage)
    (hvoltage : s'.signalingVoltage = s.signalingVoltage) :
    Unswitched p s s' ↔ AlreadySet operation p s voltage := by
  cases voltage with
  | undefined =>
    obtain rfl : s' = s := hleft
    exact iff_of_true ⟨rfl, rfl, rfl⟩ trivial
  | v33 =>
    obtain ⟨huhs, hclock⟩ := hleft
    constructor
    · intro h
      have hbit := h.voltageBit
      rw [huhs, not_and_and] at hbit
      exact hbit.symm
    · intro h
      refine ⟨?_, hclock, hvoltage⟩
      rw [huhs, not_and_and]
      exact h.symm
  | v18 =>
    obtain ⟨huhs, hclock⟩ := hleft
    have hclkena : s'.clkena = s.clkena ↔ s.clkena &&& mshcClkenaCclkEnable p.slotId
        = if (platformStatus operation .v18).ntSuccess then mshcClkenaCclkEnable p.slotId
          else 0 := by
      rw [hclock]
      split
      · exact or_eq_self_iff
      · exact and_not_eq_self_iff
    constructor
    · intro h
      have hbit := h.voltageBit
      rw [huhs, or_and_self] at hbit
      exact ⟨hbit.symm, hclkena.mp h.clkena⟩
    · rintro ⟨hbit, hclk⟩
      refine ⟨?_, hclkena.mpr hclk, hvoltage⟩
      rw [huhs, or_and_self]
      exact hbit.symm

/-- **A switch that fails** does not change the voltage that the driver believes in, and leaves the
registers as its steps put them: nothing is as before unless it was so already.  Where it has
returned says which bits it has written, and the extension is written behind the last of them. -/
theorem setSignaling_failed (operation : PlatformOperation) (p : MshcSlot) (hw : Nat → HwAnswer)
    (depth : Nat) (voltage : SignalingVoltage) (s : MshcBus) :
    ∃ status s', mshcSetSignalingVoltage operation p hw (depth + 4) voltage s = .ok (status, s')
      ∧ (status.ntSuccess = false → s'.signalingVoltage = s.signalingVoltage
        ∧ LeftBehind operation p s s' voltage
        ∧ (Unswitched p s s' ↔ AlreadySet operation p s voltage)) := by
  have hall : ∀ s' : MshcBus, s'.signalingVoltage = s.signalingVoltage →
      LeftBehind operation p s s' voltage → s'.signalingVoltage = s.signalingVoltage
        ∧ LeftBehind operation p s s' voltage
        ∧ (Unswitched p s s' ↔ AlreadySet operation p s voltage) :=
    fun s' hvoltage hleft => ⟨hvoltage, hleft, unswitched_iff hleft hvoltage⟩
  unfold mshcSetSignalingVoltage
  cases voltage with
  | undefined => exact ⟨_, s, rfl, fun _ => hall s rfl rfl⟩
  | v18 =>
    refine ⟨_, _, rfl, fun herror => ?_⟩
    obtain ⟨hvoltage, hleft⟩ := switchTo18_failed operation p hw s herror
    exact hall _ hvoltage hleft
  | v33 =>
    dsimp only
    split
    · obtain ⟨status, s₁, hsent, hkeeps⟩ := mshcSendStatusCommand_keeps p hw depth s
      obtain ⟨huhs, hclock, hvoltage₁⟩ := keeps_switched hkeeps
      rw [hsent]
      dsimp only
      split
      · exact ⟨_, _, rfl, fun herror => nomatch herror⟩
      · refine ⟨_, _, rfl, fun herror => ?_⟩
        obtain ⟨hvoltage, hleft⟩ := switchTo33_failed operation p s₁ herror
        unfold LeftBehind at hleft
        dsimp only at hleft
        rw [huhs, hclock] at hleft
        exact hall _ (hvoltage.trans hvoltage₁) hleft
    · refine ⟨_, _, rfl, fun herror => ?_⟩
      obtain ⟨hvoltage, hleft⟩ := switchTo33_failed operation p s herror
      exact hall _ hvoltage hleft

/-- The platform of this repository refuses 1.8 V: the clock of the card stays off. -/
theorem refused18_switched :
    ∃ s', mshcSetSignalingVoltage (some mshcRockchipSetSignalingVoltage)
        ⟨⟨0, 0, false, some 0⟩, true, 256⟩ (fun _ => deadHw) 0 .v18 tunedBus
        = .ok (.notSupported, s')
      ∧ ¬ Unswitched ⟨⟨0, 0, false, some 0⟩, true, 256⟩ tunedBus s' :=
  ⟨_, rfl, fun h => absurd h.clkena (by decide)⟩

end WoaRk3576.Sd.Signaling
