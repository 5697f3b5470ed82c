/-
# The registers of dwcmshc mirror its extension

The extension keeps what was set (`BusWidth`, `BusSpeed`, `SignalingVoltage`), and the registers
PWREN, CTYPE and UHS_REG are to say the same.  Two operations break that:

* `MshcSetVoltage` computes `Pwren` and does not write it.  Every request succeeds, and the power
  bit stays what it was.
* `MshcSetSignalingVoltage` to 1.8 V sets the bit of UHS_REG and stops the clock before it asks the
  platform, which refuses; neither is taken back.

All others set what they are asked to set and nothing else, the recovery included.  So the mirror
holds along every run in which a voltage is requested only where the power bit has it already (the
full reset requests "off"), and 1.8 V only where the bus is there with the clock off.
`registers_mirror` is the result; `voltage_not_written` is the counterexample.

`BusEffect` says once what any bus operation can do to the settings, whatever fails inside of it
and however often: nothing, or one of six changes.  `busOperation_effect` derives it from the specs
of `MshcRecovery.lean`, which say of each function on the way that it leaves the settings alone.
That an effect keeps the mirror is then a question about one bit or one field of a register
(`BusEffect.agrees`), since a slot has bits of its own; and an attribute that an operation does not
set is the same behind it (`BusEffect.sameAttribute`).
-/
import WoaRk3576.Lib.Transition
import WoaRk3576.Sd.MshcRecovery

namespace WoaRk3576.Sd.Bus

open WoaRk3576.Lib

/-! ## 1. Bits

A setting is one bit or one field of a register under the mask of its slot.  Writing it leaves the
other bits, and writing what is there changes nothing. -/

theorem getLsbD_putBit (reg : BitVec 32) (i j : Nat) (value : Bool) (hi : i < 32) :
    (putBit reg (BitVec.twoPow 32 i) value).getLsbD j
      = if j = i then value else reg.getLsbD j := by
  unfold putBit
  by_cases hj : j < 32
  · by_cases heq : j = i
    · subst heq
      cases value <;> simp [hj]
    · cases value <;> simp [hj, heq]
  · have heq : j ≠ i := by omega
    rw [if_neg heq, BitVec.getLsbD_of_ge _ _ (by omega), BitVec.getLsbD_of_ge _ _ (by omega)]

/-- A bit that has the value already. -/
theorem putBit_self {reg : BitVec 32} {i : Nat} {value : Bool} (hi : i < 32)
    (h : reg.getLsbD i = value) : putBit reg (BitVec.twoPow 32 i) value = reg := by
  apply BitVec.eq_of_getLsbD_eq
  intro j _
  rw [getLsbD_putBit _ _ _ _ hi]
  split
  · rename_i heq
    rw [heq, h]
  · rfl

/-- `Ctype` in `MshcSetBusWidth`. -/
def putWidth (p : MshcSlot) (ctype width : BitVec 32) : BitVec 32 :=
  (ctype &&& ~~~(mshcCtypeCardWidthMask <<< p.slotId)) ||| (width <<< p.slotId)

theorem putWidth_field (p : MshcSlot) (ctype : BitVec 32) {width : BitVec 32}
    (h : width &&& mshcCtypeCardWidthMask = width) :
    putWidth p ctype width &&& (mshcCtypeCardWidthMask <<< p.slotId) = width <<< p.slotId := by
  have hwithin : (width <<< p.slotId) &&& (mshcCtypeCardWidthMask <<< p.slotId)
      = width <<< p.slotId := by
    rw [← BitVec.shiftLeft_and_distrib, h]
  unfold putWidth
  generalize mshcCtypeCardWidthMask <<< p.slotId = mask at hwithin ⊢
  generalize width <<< p.slotId = bits at hwithin ⊢
  apply BitVec.eq_of_getLsbD_eq
  intro i hi
  have hbit := congrArg (fun v => BitVec.getLsbD v i) hwithin
  simp only [BitVec.getLsbD_and, BitVec.getLsbD_or, BitVec.getLsbD_not, hi] at hbit ⊢
  cases hmask : mask.getLsbD i with
  | false => simpa [hmask] using hbit
  | true => simp

theorem ctypeWidth_within {busWidth : BusWidth} {width : BitVec 32}
    (h : ctypeWidth busWidth = some width) : width &&& mshcCtypeCardWidthMask = width := by
  cases busWidth <;> cases h <;> decide

/-! ## 2. The mirror

Four settings are in a register and in the extension: power, width, signaling voltage and the use
of both clock edges.  The extension does not keep the bus voltage, so for the power bit it is the
voltage that was asked for last. -/

/-- **The registers say what the extension says.** -/
structure Agrees (p : MshcSlot) (t : BusSettings) (requested : BusVoltage) : Prop where
  power : t.pwren.getLsbD p.slotId = decide (requested = .v33)
  width : t.ctype &&& (mshcCtypeCardWidthMask <<< p.slotId)
    = (ctypeWidth t.busWidth).getD 0 <<< p.slotId
  voltage : t.uhsReg.getLsbD p.slotId = decide (t.signalingVoltage = .v18)
  speed : t.uhsReg.getLsbD (16 + p.slotId) = decide (speedDdr t.busSpeed = some true)

/-- What an operation can set. -/
inductive BusAttribute
  | voltage
  | clock
  | width
  | speed
  | signaling
  deriving DecidableEq, Repr

/-- An attribute, in the registers and in the extension, is the same. -/
def SameAttribute (p : MshcSlot) (t t' : BusSettings) : BusAttribute → Prop
  | .voltage => t'.pwren.getLsbD p.slotId = t.pwren.getLsbD p.slotId
  | .clock => t'.clock = t.clock
  | .width => t'.ctype = t.ctype ∧ t'.busWidth = t.busWidth
  | .speed => t'.uhsReg.getLsbD (16 + p.slotId) = t.uhsReg.getLsbD (16 + p.slotId)
      ∧ t'.busSpeed = t.busSpeed
  | .signaling => t'.uhsReg.getLsbD p.slotId = t.uhsReg.getLsbD p.slotId
      ∧ t'.signalingVoltage = t.signalingVoltage

/-- The attribute that an operation sets; a full reset may set all of them. -/
def BusOperation.sets : BusOperation → Option BusAttribute
  | .setClock _ => some .clock
  | .setVoltage _ => some .voltage
  | .setBusWidth _ => some .width
  | .setBusSpeed _ => some .speed
  | .setSignalingVoltage _ => some .signaling
  | .resetHost _ | .executeTuning | .unsupported => none

/-! ## 3. What an operation does to the settings

`BusEffect` lists what any bus operation may have done to the settings when it returns, whatever it
was asked and the hardware answered.  The operations are unfolded here, and nowhere behind this
section. -/

/-- The settings after the switch to 3.3 V. -/
def BusSettings.to33 (p : MshcSlot) (t : BusSettings) : BusSettings :=
  { t with
    uhsReg := putBit t.uhsReg (mshcUhsRegVoltReg p.slotId) false
    signalingVoltage := .v33 }

/-- The settings after the switch to 1.8 V, which the platform refuses. -/
def BusSettings.refused18 (p : MshcSlot) (t : BusSettings) : BusSettings :=
  { t with
    clock := { t.clock with
      clkena := putBit t.clock.clkena (mshcClkenaCclkEnable p.slotId) false }
    uhsReg := putBit t.uhsReg (mshcUhsRegVoltReg p.slotId) true }

/-- **All that a bus operation can do to the settings.** -/
inductive BusEffect (p : MshcSlot) (t : BusSettings) :
    BusOperation → NtStatus → BusSettings → Prop
  | same (operation status) : BusEffect p t operation status t
  | clock (frequencyKhz status clock) :
      BusEffect p t (.setClock frequencyKhz) status { t with clock := clock }
  | width (busWidth status) {bits} (h : ctypeWidth busWidth = some bits) :
      BusEffect p t (.setBusWidth busWidth) status
        { t with ctype := putWidth p t.ctype bits, busWidth := busWidth }
  | speed (busSpeed status) {ddr} (h : speedDdr busSpeed = some ddr) :
      BusEffect p t (.setBusSpeed busSpeed) status
        { t with
          uhsReg := putBit t.uhsReg (mshcUhsRegDdrReg p.slotId) ddr
          busSpeed := busSpeed }
  | to33 (status) : BusEffect p t (.setSignalingVoltage .v33) status (t.to33 p)
  | refused18 : BusEffect p t (.setSignalingVoltage .v18) .notSupported (t.refused18 p)
  | fullReset (status clock) {t₂} (h : t₂ = t ∨ t₂ = t.to33 p) :
      BusEffect p t (.resetHost .all) status
        { t₂ with clock := clock, ctype := putWidth p t₂.ctype 0, busWidth := .width1Bit }

theorem switchTo33_settings {p : MshcSlot} {s s₁ : MshcBus} (h : s₁.settings = s.settings) :
    (switchTo33 p s₁).2.settings = s.settings.to33 p := by
  rw [← h]
  rfl

theorem switchTo18_eq (p : MshcSlot) (hw : Nat → HwAnswer) (s : MshcBus) :
    (switchTo18 p hw s).1 = .notSupported
      ∧ (switchTo18 p hw s).2.settings = s.settings.refused18 p :=
  ⟨rfl, rfl⟩

theorem resetBus_settings {p : MshcSlot} {hw : Nat → HwAnswer} {s s' : MshcBus}
    (h : resetBus p hw s = .ok s') :
    ∃ clock, s'.settings
      = { s.settings with
          clock := clock, ctype := putWidth p s.ctype 0, busWidth := .width1Bit } := by
  obtain ⟨clock, hbus⟩ := resetBus_eq p hw s
  rw [hbus] at h
  cases h
  exact ⟨_, rfl⟩

/-- **The full reset** on the settings. -/
theorem mshcResetHost_all_effect {p : MshcSlot} {hw : Nat → HwAnswer} (depth : Nat)
    {s s' : MshcBus} {status : NtStatus}
    (h : mshcResetHost p hw (depth + 6) .all s = .ok (status, s')) :
    BusEffect p s.settings (.resetHost .all) status s'.settings := by
  obtain ⟨s₁, hsettings, htimeout | ⟨s₂, s₃, hcase, hbus, hreset⟩⟩ := mshcResetHost_all p hw depth s
  · rw [htimeout] at h
    cases h
    rw [hsettings]
    exact .same _ _
  · rw [hreset] at h
    cases h
    obtain ⟨clock, hs'⟩ := resetBus_settings hbus
    rw [hs']
    have hvoltage : s₂.settings = s.settings ∨ s₂.settings = s.settings.to33 p := by
      rcases hcase with rfl | rfl
      · exact .inl hsettings
      · exact .inr (switchTo33_settings hsettings)
    exact .fullReset _ clock hvoltage

/-- A result that returns within the settings. -/
theorem Returns.same {p : MshcSlot} {s s' : MshcBus} {status : NtStatus} {r : MshcResult}
    (hreturns : Returns p (fun s' => s'.settings = s.settings) r) (h : r = .ok (status, s')) :
    s'.settings = s.settings := by
  rcases hreturns with ⟨status', s'', hr, hsettings⟩ | ⟨hr, -⟩
  · rw [hr] at h
    cases h
    exact hsettings
  · rw [hr] at h
    cases h

/-- **Every bus operation has one of the effects.** -/
theorem busOperation_effect {p : MshcSlot} {hw : Nat → HwAnswer} (depth : Nat)
    {operation : BusOperation} {s s' : MshcBus} {status : NtStatus}
    (h : mshcSlotIssueBusOperation p hw (depth + 10) operation s = .ok (status, s')) :
    BusEffect p s.settings operation status s'.settings := by
  unfold mshcSlotIssueBusOperation at h
  split at h
  · cases h
    exact .same _ _
  cases operation with
  | resetHost resetType =>
    cases resetType with
    | all => exact mshcResetHost_all_effect (depth + 3) h
    | cmd =>
      obtain ⟨status', s'', hreset, hkeeps⟩ := mshcResetHost_cmd p hw (depth + 8) s
      dsimp only at h
      rw [hreset] at h
      cases h
      rw [hkeeps.settings]
      exact .same _ _
    | dat =>
      rw [(mshcResetHost_dat_returns p hw depth s).same h]
      exact .same _ _
  | setClock frequencyKhz =>
    dsimp only [mshcBusSetClock] at h
    split at h
    · cases h
    · cases h
      exact .clock _ _ _
  | setVoltage voltage =>
    cases voltage <;> cases h <;> exact .same _ _
  | setBusWidth busWidth =>
    cases busWidth <;> cases h
    · exact .same _ _
    · exact .width _ _ rfl
    · exact .width _ _ rfl
    · exact .width _ _ rfl
  | setBusSpeed busSpeed =>
    dsimp only [mshcSetBusSpeed] at h
    cases hddr : speedDdr busSpeed with
    | none =>
      rw [hddr] at h
      cases h
      exact .same _ _
    | some ddr =>
      rw [hddr] at h
      cases h
      exact .speed _ _ hddr
  | setSignalingVoltage voltage =>
    cases voltage with
    | undefined =>
      cases h
      exact .same _ _
    | v18 =>
      obtain ⟨hstatus, hsettings⟩ := switchTo18_eq p hw s
      obtain rfl : status = .notSupported := by
        cases h
        exact hstatus
      have hs' : s'.settings = s.settings.refused18 p := by
        cases h
        exact hsettings
      rw [hs']
      exact .refused18
    | v33 =>
      obtain ⟨s₁, hsettings, hstays | hswitch⟩ := mshcSetSignalingVoltage_33 p hw (depth + 4) s
      · dsimp only at h
        rw [hstays] at h
        cases h
        rw [hsettings]
        exact .same _ _
      · dsimp only at h
        rw [hswitch] at h
        have hs' : s' = (switchTo33 p s₁).2 := by
          cases h
          rfl
        rw [hs', switchTo33_settings hsettings]
        exact .to33 _
  | executeTuning =>
    rw [(mshcExecuteTuning_returns p hw (depth + 1) s).same h]
    exact .same _ _
  | unsupported =>
    cases h
    exact .same _ _

/-! ## 4. The effects keep the mirror

Each effect is looked at once.  Width and speed are written to both sides or to none.  The power
bit is written by nothing, which is why the condition asks for it; the switch to 1.8 V is refused
after its bits were written. -/

section Effects

variable {p : MshcSlot} {t t' : BusSettings} {requested : BusVoltage} {operation : BusOperation}
  {status : NtStatus}

/-- The switch to 1.8 V may be asked for where the bus is there, with its clock off. -/
def Safe18 (p : MshcSlot) (t : BusSettings) (operation : BusOperation) : Prop :=
  operation = .setSignalingVoltage .v18 →
    t.signalingVoltage = .v18 ∧ t.clock.clkena.getLsbD p.slotId = false

/-- There it changes nothing. -/
theorem refused18_self (hslot : p.slotId < 16) (h : Agrees p t requested)
    (hsignaling : t.signalingVoltage = .v18) (hclock : t.clock.clkena.getLsbD p.slotId = false) :
    t.refused18 p = t := by
  have hbit : t.uhsReg.getLsbD p.slotId = true := by
    rw [h.voltage]
    exact decide_eq_true hsignaling
  have huhs := putBit_self (by omega) hbit
  have hclkena := putBit_self (by omega) hclock
  unfold BusSettings.refused18 mshcClkenaCclkEnable mshcUhsRegVoltReg
  rw [huhs, hclkena]

theorem Agrees.to33 (hslot : p.slotId < 16) (h : Agrees p t requested) :
    Agrees p (t.to33 p) requested where
  power := h.power
  width := h.width
  voltage := by
    dsimp only [BusSettings.to33, mshcUhsRegVoltReg]
    rw [getLsbD_putBit _ _ _ _ (by omega), if_pos rfl]
    rfl
  speed := by
    dsimp only [BusSettings.to33, mshcUhsRegVoltReg]
    rw [getLsbD_putBit _ _ _ _ (by omega), if_neg (by omega)]
    exact h.speed

theorem Agrees.putWidth (h : Agrees p t requested) {busWidth : BusWidth} {bits : BitVec 32}
    (hbits : ctypeWidth busWidth = some bits) (clock : MshcClock) :
    Agrees p { t with
      clock := clock, ctype := putWidth p t.ctype bits, busWidth := busWidth } requested where
  power := h.power
  width := by
    dsimp only
    rw [putWidth_field p _ (ctypeWidth_within hbits), hbits]
    rfl
  voltage := h.voltage
  speed := h.speed

/-- **The registers still agree**, with the voltage that was requested before. -/
theorem BusEffect.agrees (hslot : p.slotId < 16) (h : BusEffect p t operation status t')
    (hsafe : Safe18 p t operation) (hagrees : Agrees p t requested) :
    Agrees p t' requested := by
  cases h with
  | same => exact hagrees
  | clock => exact ⟨hagrees.power, hagrees.width, hagrees.voltage, hagrees.speed⟩
  | width _ _ hbits => exact hagrees.putWidth hbits t.clock
  | speed _ _ hddr =>
    refine ⟨hagrees.power, hagrees.width, ?_, ?_⟩
    · dsimp only [mshcUhsRegDdrReg]
      rw [getLsbD_putBit _ _ _ _ (by omega), if_neg (by omega)]
      exact hagrees.voltage
    · dsimp only [mshcUhsRegDdrReg]
      rw [getLsbD_putBit _ _ _ _ (by omega), if_pos rfl, hddr]
      simp
  | to33 => exact hagrees.to33 hslot
  | refused18 =>
    obtain ⟨hsignaling, hclock⟩ := hsafe rfl
    rw [refused18_self hslot hagrees hsignaling hclock]
    exact hagrees
  | fullReset _ clock hcase =>
    rcases hcase with rfl | rfl
    · exact hagrees.putWidth rfl clock
    · exact (hagrees.to33 hslot).putWidth rfl clock

/-- **What an operation does not set is the same**, but for a full reset. -/
theorem BusEffect.sameAttribute (hslot : p.slotId < 16) (h : BusEffect p t operation status t')
    (hsafe : Safe18 p t operation) (hagrees : Agrees p t requested)
    (hreset : operation ≠ .resetHost .all) {attr : BusAttribute}
    (hsets : operation.sets ≠ some attr) : SameAttribute p t t' attr := by
  have hrefl : SameAttribute p t t attr := by
    cases attr <;> first | exact rfl | exact ⟨rfl, rfl⟩
  cases h with
  | same => exact hrefl
  | clock => cases attr <;> first | exact absurd rfl hsets | exact rfl | exact ⟨rfl, rfl⟩
  | width => cases attr <;> first | exact absurd rfl hsets | exact rfl | exact ⟨rfl, rfl⟩
  | speed =>
    cases attr with
    | speed => exact absurd rfl hsets
    | signaling =>
      refine ⟨?_, rfl⟩
      dsimp only [mshcUhsRegDdrReg]
      rw [getLsbD_putBit _ _ _ _ (by omega), if_neg (by omega)]
    | voltage => exact rfl
    | clock => exact rfl
    | width => exact ⟨rfl, rfl⟩
  | to33 =>
    cases attr with
    | signaling => exact absurd rfl hsets
    | speed =>
      refine ⟨?_, rfl⟩
      dsimp only [BusSettings.to33, mshcUhsRegVoltReg]
      rw [getLsbD_putBit _ _ _ _ (by omega), if_neg (by omega)]
    | voltage => exact rfl
    | clock => exact rfl
    | width => exact ⟨rfl, rfl⟩
  | refused18 =>
    obtain ⟨hsignaling, hclock⟩ := hsafe rfl
    rw [refused18_self hslot hagrees hsignaling hclock]
    exact hrefl
  | fullReset => exact absurd rfl hreset

end Effects

/-! ## 5. Runs

The condition is on the state in which an operation begins.  With it each step keeps the agreement,
also a failed one, and for one that succeeds the rest of the settings is the same. -/

/-- A bus operation, and what the hardware answers to it. -/
structure BusAction where
  operation : BusOperation
  hw : Nat → HwAnswer

/-- The slot, the voltage that was last requested, and the last operation: where it began and
what it returned. -/
structure BusRun where
  bus : MshcBus
  requested : BusVoltage
  last : Option (MshcBus × BusOperation × NtStatus)

/-- A full reset that gets to the voltages requests "off". -/
def requestedAfter (p : MshcSlot) (operation : BusOperation) (status : NtStatus)
    (requested : BusVoltage) : BusVoltage :=
  match operation with
  | .setVoltage voltage => voltage
  | .resetHost .all => if status.ntSuccess ∧ p.crashdumpMode = false then .off else requested
  | _ => requested

/-- One operation, if it returns. -/
def busStep (p : MshcSlot) (x : BusRun) (a : BusAction) : Option BusRun :=
  match mshcSlotIssueBusOperation p a.hw 10 a.operation x.bus with
  | .error _ => none
  | .ok (status, bus) =>
    some ⟨bus, requestedAfter p a.operation status x.requested, some (x.bus, a.operation, status)⟩

/-- The run begins where the registers agree with the extension. -/
def BusRun.Start (p : MshcSlot) (x : BusRun) : Prop :=
  Agrees p x.bus.settings x.requested ∧ x.last = none

/-- **The mirror**: after an operation that succeeded the registers agree, and one that is not a
full reset changed nothing that it does not set. -/
def RegistersMirror (p : MshcSlot) (x : BusRun) : Prop :=
  ∀ before operation status, x.last = some (before, operation, status) →
    (status.ntSuccess = true → Agrees p x.bus.settings x.requested)
    ∧ (operation ≠ .resetHost .all → ∀ attr, operation.sets ≠ some attr →
      SameAttribute p before.settings x.bus.settings attr)

/-- **The condition on a step**: a voltage is requested only where the power bit has it already,
the full reset (which requests "off" once the controller is reset) included, and 1.8 V only
where the bus is there with its clock off. -/
def MirrorSafe (p : MshcSlot) (x : BusRun) (a : BusAction) : Prop :=
  match a.operation with
  | .setVoltage voltage => x.bus.pwren.getLsbD p.slotId = decide (voltage = .v33)
  | .resetHost .all =>
    p.crashdumpMode = true ∨ x.bus.pwren.getLsbD p.slotId = false
      ∨ (a.hw x.bus.tick).resetWait = false
  | .setSignalingVoltage .v18 =>
    x.bus.signalingVoltage = .v18 ∧ x.bus.clkena.getLsbD p.slotId = false
  | _ => True

instance decidableMirrorSafe (p : MshcSlot) (x : BusRun) :
    (a : BusAction) → Decidable (MirrorSafe p x a)
  | ⟨.setVoltage _, _⟩ => inferInstanceAs (Decidable (_ = _))
  | ⟨.resetHost .all, _⟩ => inferInstanceAs (Decidable (_ ∨ _ ∨ _))
  | ⟨.setSignalingVoltage .v18, _⟩ => inferInstanceAs (Decidable (_ ∧ _))
  | ⟨.resetHost .cmd, _⟩ | ⟨.resetHost .dat, _⟩ | ⟨.setSignalingVoltage .v33, _⟩
  | ⟨.setSignalingVoltage .undefined, _⟩ | ⟨.setClock _, _⟩ | ⟨.setBusWidth _, _⟩
  | ⟨.setBusSpeed _, _⟩ | ⟨.executeTuning, _⟩ | ⟨.unsupported, _⟩ =>
    inferInstanceAs (Decidable True)

section Steps

variable {p : MshcSlot} {x x' : BusRun} {a : BusAction}

/-- Nothing writes PWREN. -/
theorem BusEffect.pwren {t t' : BusSettings} {operation : BusOperation} {status : NtStatus}
    (h : BusEffect p t operation status t') : t'.pwren = t.pwren := by
  cases h with
  | fullReset _ _ hcase => rcases hcase with rfl | rfl <;> rfl
  | _ => rfl

/-- A full reset that begins with a controller that does not end its own fails. -/
theorem resetHost_all_timeout {hw : Nat → HwAnswer} {s s' : MshcBus} {status : NtStatus}
    (hwait : (hw s.tick).resetWait = false)
    (h : mshcSlotIssueBusOperation p hw 10 (.resetHost .all) s = .ok (status, s')) :
    status.ntSuccess = false := by
  have hreset : (resetController p hw { s with outstandingRequest := none }).1 = false := by
    unfold resetController mshcResetWait
    dsimp only
    rw [if_pos hwait]
    exact hwait
  unfold mshcSlotIssueBusOperation at h
  split at h
  · cases h
    rfl
  · unfold mshcResetHost at h
    dsimp only at h
    rw [if_neg (by simp [resetReturnsEarly]), if_pos hreset] at h
    cases h
    rfl

/-- **The power bit has the voltage that is requested by then.** -/
theorem power_requestedAfter {status : NtStatus} {bus : MshcBus} (hsafe : MirrorSafe p x a)
    (h : mshcSlotIssueBusOperation p a.hw 10 a.operation x.bus = .ok (status, bus))
    (hpower : x.bus.pwren.getLsbD p.slotId = decide (x.requested = .v33)) :
    x.bus.pwren.getLsbD p.slotId
      = decide (requestedAfter p a.operation status x.requested = .v33) := by
  unfold MirrorSafe at hsafe
  cases hop : a.operation with
  | setVoltage voltage =>
    rw [hop] at hsafe
    exact hsafe
  | resetHost resetType =>
    cases resetType with
    | all =>
      rw [hop] at hsafe h
      dsimp only [requestedAfter]
      split
      · rename_i hreset
        obtain ⟨hsuccess, hnormal⟩ := hreset
        rcases hsafe with hcrashdump | hoff | hwait
        · rw [hcrashdump] at hnormal
          cases hnormal
        · exact hoff
        · rw [resetHost_all_timeout hwait h] at hsuccess
          cases hsuccess
      · exact hpower
    | cmd => exact hpower
    | dat => exact hpower
  | _ => exact hpower

/-- **A step that meets the condition** keeps the registers in agreement, and what it does not
set the same. -/
theorem busStep_mirror (hslot : p.slotId < 16) (hsafe : MirrorSafe p x a)
    (hagrees : Agrees p x.bus.settings x.requested) (h : busStep p x a = some x') :
    Agrees p x'.bus.settings x'.requested ∧ RegistersMirror p x' := by
  unfold busStep at h
  cases hissue : mshcSlotIssueBusOperation p a.hw 10 a.operation x.bus with
  | error fault =>
    rw [hissue] at h
    cases h
  | ok returned =>
    obtain ⟨status, bus⟩ := returned
    rw [hissue] at h
    cases h
    have heffect := busOperation_effect 0 hissue
    have hsafe18 : Safe18 p x.bus.settings a.operation := by
      intro hop
      unfold MirrorSafe at hsafe
      rw [hop] at hsafe
      exact hsafe
    have hkept := heffect.agrees hslot hsafe18 hagrees
    have hafter : Agrees p bus.settings (requestedAfter p a.operation status x.requested) := by
      refine ⟨?_, hkept.width, hkept.voltage, hkept.speed⟩
      rw [heffect.pwren]
      exact power_requestedAfter hsafe hissue hagrees.power
    refine ⟨hafter, ?_⟩
    intro before operation status' hlast
    cases hlast
    exact ⟨fun _ => hafter, fun hreset attr hsets =>
      heffect.sameAttribute hslot hsafe18 hagrees hreset hsets⟩

/-- **The registers mirror the extension in every run in which no voltage is requested that the
power bit does not have, nor 1.8 V where the bus is not.** Whatever fails inside of it, an
operation changes the settings in one of six ways, and each way writes the register along with the
field. -/
theorem registers_mirror (hslot : p.slotId < 16)
    (h : ReachIf (BusRun.Start p) (busStep p) (MirrorSafe p) x) : RegistersMirror p x := by
  have hinv : Agrees p x.bus.settings x.requested ∧ RegistersMirror p x := by
    refine h.invariant (I := fun x => Agrees p x.bus.settings x.requested ∧ RegistersMirror p x)
      ?_ ?_
    · rintro s ⟨hagrees, hlast⟩
      refine ⟨hagrees, ?_⟩
      intro before operation status hsome
      rw [hlast] at hsome
      cases hsome
    · intro s b t hs hG hstep
      exact busStep_mirror hslot hG hs.1 hstep
  exact hinv.2

end Steps

/-- A slot after its initialisation. -/
def freshRun : BusRun where
  bus := { tunedBus with
    clkena := 0
    busFrequencyKhz := 0
    pwren := 0
    ctype := 0
    busWidth := .width1Bit
    busSpeed := .normal
    cardInitialized := false
    tuningPerformed := false
    dataCrcErrorsSinceLastTuning := 0 }
  requested := .off
  last := none

/-- The platform of a slot 0 with a FIFO of 256 words. -/
def slotZero : MshcSlot := ⟨⟨0, 0, false, some 0⟩, true, 256⟩

theorem freshRun_start : BusRun.Start slotZero freshRun :=
  ⟨⟨by decide, by decide, by decide, by decide⟩, rfl⟩

/-- 3.3 V is requested, the request succeeds, and the power bit is clear. -/
theorem voltage_not_written :
    ∃ x, Reach (BusRun.Start slotZero) (busStep slotZero) x ∧ ¬ RegistersMirror slotZero x := by
  obtain ⟨x, hreach, hwrong⟩ := exists_reach_of_run (busStep slotZero) freshRun_start
    [⟨.setVoltage .v33, fun _ => deadHw⟩]
    (fun x => x.last.any (fun last => last.2.2.ntSuccess) && decide (x.requested = .v33)
      && !x.bus.pwren.getLsbD 0) (by decide)
  refine ⟨x, hreach, ?_⟩
  intro hmirror
  simp only [Bool.and_eq_true, Option.any_eq_true, decide_eq_true_eq, Bool.not_eq_true'] at hwrong
  obtain ⟨⟨⟨⟨before, operation, status⟩, hlast, hsuccess⟩, hrequested⟩, hpower⟩ := hwrong
  have hset := ((hmirror before operation status hlast).1 hsuccess).power
  rw [hrequested] at hset
  exact absurd (hset.symm.trans hpower) (by decide)

/-- The bus is set to four bits and SDR104, and the controller reset for a data error. -/
theorem registers_mirror_run :
    ∃ x, ReachIf (BusRun.Start slotZero) (busStep slotZero) (MirrorSafe slotZero) x
      ∧ RegistersMirror slotZero x ∧ x.bus.busWidth = .width4Bit ∧ x.bus.busSpeed = .sdr104 := by
  obtain ⟨x, hreach, hset⟩ := exists_reachIf_of_runIf (busStep slotZero) (MirrorSafe slotZero)
    freshRun_start
    [⟨.setVoltage .off, fun _ => deadHw⟩, ⟨.setBusWidth .width4Bit, fun _ => deadHw⟩,
      ⟨.setBusSpeed .sdr104, fun _ => deadHw⟩, ⟨.resetHost .dat, fun _ => deadHw⟩]
    (fun x => decide (x.bus.busWidth = .width4Bit ∧ x.bus.busSpeed = .sdr104)) (by decide)
  exact ⟨x, hreach, registers_mirror (by decide) hreach, of_decide_eq_true hset⟩

end WoaRk3576.Sd.Bus
