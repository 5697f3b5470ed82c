/-
# The conditions that a request of rk3xi2c puts on the bus

`rk3x_i2c_stop` generates a STOP when `isLastMsg` is set, and otherwise resets the controller so
that the next START acts as a repeated one.  The flag does not say which message is the last one:
`i2c_xfer_single` clears it for every message, and the read and write handlers set it for every
message whose bytes are through.  So

* there is a STOP after each transfer of a sequence that completes;
* there is none after a NAK or an unexpected interrupt.

`framing_exact` is what holds of the requests that meet neither: every transfer that is begun
starts with a START, and the one STOP comes after the last one or after the one that has failed.
`stop_between_transfers` is a sequence of two writes.

A condition goes out with a write of `REG_CON` that sets a bit which was clear, so what is
invariant is as much about the two bits in the register as about the bus.  While the bytes of a
message are moved neither bit can be set anew (`OnWay`): the writes of the handlers change the mode
and the acknowledge bit only.  At its end the STOP bit is set, once (`OnWay.ending`), and at rest
it is already there, so that another interrupt adds no second one (`AtRest`).

The steps that are excluded are those after which the request goes on although its STOP was sent,
or ends although it was not.  A time-out is among the allowed ones as long as the message is under
way: the driver then forces the STOP itself.
-/
import WoaRk3576.I2c.Rk3x
import WoaRk3576.Lib.Bits

namespace WoaRk3576.I2c

open WoaRk3576.Lib

/-! ## 1. The property and its condition

What was seen on the bus during a request, against what a request of so many transfers should show.
-/

/-- The first `k` transfers, each with its START. -/
def frames (k : Nat) : List BusEvent :=
  (List.range k).flatMap fun i => [.transfer i, .start]

/-- **The last request was framed**: a START for every transfer that was begun, then one STOP; and
the transfer before it was the last one of the request, or it has failed. -/
def Framed (s : I2cWorld) : Prop :=
  ∃ k, k < s.transfers.length ∧ s.bus = frames (k + 1) ++ [.stop]
    ∧ (k + 1 = s.transfers.length ∨ s.status ≠ .success)

/-- What holds whenever `i2c_xfer` has returned. -/
def FramingExact (s : I2cWorld) : Prop :=
  s.phase = .free → s.transfers ≠ [] → Framed s

/-- An interrupt that does not break the message off: no NAK, and the event that the state machine
waits for if there is any. -/
def IrqExpected (ipd : BitVec 32) : Rk3xI2cState → Prop
  | .start => ipd &&& regIntNakrcv = 0
      ∧ (leftToHandle ipd &&& regIntAll ≠ 0 → leftToHandle ipd &&& regIntStart ≠ 0)
  | .write => ipd &&& regIntNakrcv = 0
      ∧ (leftToHandle ipd &&& regIntAll ≠ 0 → leftToHandle ipd &&& regIntMbtf ≠ 0)
  | .read => ipd &&& regIntNakrcv = 0
  | .stop => True
  | .idle => True

instance (ipd : BitVec 32) (state : Rk3xI2cState) : Decidable (IrqExpected ipd state) :=
  match state with
  | .start => inferInstanceAs (Decidable (ipd &&& regIntNakrcv = 0
      ∧ (leftToHandle ipd &&& regIntAll ≠ 0 → leftToHandle ipd &&& regIntStart ≠ 0)))
  | .write => inferInstanceAs (Decidable (ipd &&& regIntNakrcv = 0
      ∧ (leftToHandle ipd &&& regIntAll ≠ 0 → leftToHandle ipd &&& regIntMbtf ≠ 0)))
  | .read => inferInstanceAs (Decidable (ipd &&& regIntNakrcv = 0))
  | .stop => inferInstanceAs (Decidable True)
  | .idle => inferInstanceAs (Decidable True)

/-- More transfers of the request follow. -/
def I2cWorld.MoreFollow (s : I2cWorld) : Prop :=
  s.index + 1 < s.transfers.length

instance (s : I2cWorld) : Decidable s.MoreFollow :=
  inferInstanceAs (Decidable (_ < _))

/-- **The condition on a step.**  No DPC is queued when a message is set up; no interrupt breaks a
message off; no message but the last one of a request returns a success; and the wait neither
expires after the state machine has come to rest nor is alerted before the STOP. -/
def FramingKept (s : I2cWorld) : I2cStep → Prop
  | .request .. => True
  | .start => s.dpcQueued = none
  | .irq ipd _ => IrqExpected ipd s.state
  | .dpc => True
  | .wake => s.MoreFollow → s.transactionStatus ≠ .success
  | .timeout => s.state ≠ .idle
  | .alert => (s.state = .stop ∨ s.state = .idle)
      ∧ (s.MoreFollow → s.transactionStatus ≠ .success)

instance (s : I2cWorld) (step : I2cStep) : Decidable (FramingKept s step) :=
  match step with
  | .request .. => inferInstanceAs (Decidable True)
  | .start => inferInstanceAs (Decidable (s.dpcQueued = none))
  | .irq ipd _ => inferInstanceAs (Decidable (IrqExpected ipd s.state))
  | .dpc => inferInstanceAs (Decidable True)
  | .wake => inferInstanceAs (Decidable (s.MoreFollow → s.transactionStatus ≠ .success))
  | .timeout => inferInstanceAs (Decidable (s.state ≠ .idle))
  | .alert => inferInstanceAs (Decidable ((s.state = .stop ∨ s.state = .idle)
      ∧ (s.MoreFollow → s.transactionStatus ≠ .success)))

/-! ## 2. Writes of the control register

Conditions come from two bits.  Each routine writes the register with some of its bits kept and
others set, so what a write sends is decided by looking at these two. -/

theorem busConditions_quiet (before : BitVec 32) {after : BitVec 32}
    (hstart : after &&& regConStart = 0)
    (hstop : after &&& regConStop = 0 ∨ before &&& regConStop ≠ 0) :
    busConditions before after = [] := by
  have hnone : ¬ (after &&& regConStop ≠ 0 ∧ before &&& regConStop = 0) := by
    rintro ⟨hset, hclear⟩
    rcases hstop with hzero | hwas
    · exact hset hzero
    · exact hwas hclear
  unfold busConditions
  rw [if_neg (not_and_of_not_left _ (not_not.mpr hstart)), if_neg hnone]
  rfl

theorem busConditions_stop {before after : BitVec 32} (hstart : after &&& regConStart = 0)
    (hstop : after &&& regConStop ≠ 0) (hbefore : before &&& regConStop = 0) :
    busConditions before after = [.stop] := by
  unfold busConditions
  rw [if_neg (not_and_of_not_left _ (not_not.mpr hstart)), if_pos ⟨hstop, hbefore⟩]
  rfl

theorem busConditions_start {before after : BitVec 32} (hstart : after &&& regConStart ≠ 0)
    (hbefore : before &&& regConStart = 0) (hstop : after &&& regConStop = 0) :
    busConditions before after = [.start] := by
  unfold busConditions
  rw [if_pos ⟨hstart, hbefore⟩, if_neg (not_and_of_not_left _ (not_not.mpr hstop))]
  rfl

/-- The tuning bits are no conditions. -/
theorem tuning_apart (con : BitVec 32) :
    con &&& regConTuningMask &&& regConStart = 0 ∧ con &&& regConTuningMask &&& regConStop = 0 :=
  ⟨and_apart_right con (by decide), and_apart_right con (by decide)⟩

theorem regConMod_apart (mode : ConMode) :
    regConMod mode &&& regConStart = 0 ∧ regConMod mode &&& regConStop = 0 := by
  cases mode <;> decide

/-- The STOP bit alone is new. -/
theorem withStop_start {con : BitVec 32} (hstart : con &&& regConStart = 0) :
    (con ||| regConStop) &&& regConStart = 0 :=
  (or_apart_iff _ _ _).mpr ⟨hstart, by decide⟩

theorem withStop_stop (con : BitVec 32) : (con ||| regConStop) &&& regConStop ≠ 0 :=
  fun hzero => absurd ((or_apart_iff _ _ _).mp hzero).2 (by decide)

/-! ## 3. The state machine

A message is on its way, with its START sent and no STOP, or at rest, with its STOP sent.  An
interrupt that is expected leads from the first to the first or to the second, and at rest no
interrupt sends anything. -/

/-- The bytes of a message are being moved, and the bus has seen this so far. -/
structure OnWay (bus : List BusEvent) (s : Rk3xI2c) : Prop where
  moving : s.state ≠ .stop ∧ s.state ≠ .idle
  bus : s.bus = bus
  stop : s.regCon &&& regConStop = 0
  start : s.state ≠ .start → s.regCon &&& regConStart = 0
  notLast : s.isLastMsg = false
  dpcQueued : s.dpcQueued = none
  waitEvent : s.waitEvent = none

/-- The state machine is at rest, or waits for the end of its STOP. -/
structure AtRest (bus : List BusEvent) (s : Rk3xI2c) : Prop where
  rest : s.state = .stop ∨ s.state = .idle
  bus : s.bus = bus
  start : s.regCon &&& regConStart = 0
  stop : s.state = .stop → s.regCon &&& regConStop ≠ 0 ∧ s.isLastMsg = true

section Machine

variable {bus : List BusEvent} {s : Rk3xI2c}

/-- Moving bytes and asking for more of them is no condition. -/
theorem OnWay.sameControl {t : Rk3xI2c} (h : OnWay bus s) (hsame : SameControl s t) :
    OnWay bus t := by
  obtain ⟨hcon, hlast, hstate, -, hdpc, hevent, -, hbus⟩ := hsame
  constructor
  · rw [hstate]
    exact h.moving
  · exact hbus.trans h.bus
  · rw [hcon]
    exact h.stop
  · rw [hcon, hstate]
    exact h.start
  · exact hlast.trans h.notLast
  · exact hdpc.trans h.dpcQueued
  · exact hevent.trans h.waitEvent

theorem OnWay.prepareRead (h : OnWay bus s) (hread : s.state = .read) :
    OnWay bus (rk3xI2cPrepareRead s) := by
  have hstart := h.start (by rw [hread]; decide)
  have hclear : ∀ e : BitVec 32, s.regCon &&& e = 0 → regConLastack &&& e = 0 →
      regConMod .rx &&& e = 0 →
      (if s.processed ≠ 0 then
        (if 32 < s.transferLength - s.processed.toNat then s.regCon &&& ~~~regConLastack
          else s.regCon ||| regConLastack) &&& ~~~regConModMask ||| regConMod .rx
      else if 32 < s.transferLength - s.processed.toNat then s.regCon &&& ~~~regConLastack
        else s.regCon ||| regConLastack) &&& e = 0 := by
    intro e hcon hlastack hmod
    have hack : (if 32 < s.transferLength - s.processed.toNat then s.regCon &&& ~~~regConLastack
        else s.regCon ||| regConLastack) &&& e = 0 := by
      split
      · exact and_apart_left _ hcon
      · exact (or_apart_iff _ _ _).mpr ⟨hcon, hlastack⟩
    split
    · exact (or_apart_iff _ _ _).mpr ⟨and_apart_left _ hack, hmod⟩
    · exact hack
  have hstart' := hclear regConStart hstart (by decide) (by decide)
  have hstop' := hclear regConStop h.stop (by decide) (by decide)
  refine ⟨h.moving, ?_, hstop', fun _ => hstart', h.notLast, h.dpcQueued, h.waitEvent⟩
  have hquiet := busConditions_quiet s.regCon hstart' (.inl hstop')
  unfold rk3xI2cPrepareRead Rk3xI2c.writeCon
  dsimp only
  rw [hquiet, List.append_nil]
  exact h.bus

/-- **The bytes are through**: the STOP goes out. -/
theorem OnWay.ending (h : OnWay bus s) (hnot : s.state ≠ .start) (status : NtStatus) :
    AtRest (bus ++ [.stop]) (rk3xI2cStop status { s with isLastMsg := true }) := by
  have hstart := withStop_start (h.start hnot)
  have hset := withStop_stop s.regCon
  refine ⟨.inl rfl, ?_, hstart, fun _ => ⟨hset, rfl⟩⟩
  have hcondition := busConditions_stop hstart hset h.stop
  exact congrArg₂ (· ++ ·) h.bus hcondition

/-- A failure that the state machine at rest meets adds no condition. -/
theorem AtRest.again (h : AtRest bus s) (hstop : s.state = .stop) (status : NtStatus) :
    AtRest bus (rk3xI2cStop status s) := by
  obtain ⟨hset, hlast⟩ := h.stop hstop
  have hstart := withStop_start h.start
  unfold rk3xI2cStop
  dsimp only
  rw [if_pos hlast]
  refine ⟨.inl rfl, ?_, hstart, fun _ => ⟨withStop_stop _, hlast⟩⟩
  have hquiet := busConditions_quiet s.regCon hstart (.inr hset)
  exact (congrArg₂ (· ++ ·) h.bus hquiet).trans (List.append_nil _)

theorem AtRest.handle (h : AtRest bus s) (ipd : BitVec 32) (mapped : Nat → Bool) :
    AtRest bus (rk3xI2cHandle ipd mapped s) := by
  rcases h.rest with hstop | hidle
  · unfold rk3xI2cHandle rk3xI2cHandleStop
    rw [hstop]
    dsimp only
    split
    · exact h.again hstop _
    · have hstart := and_apart_left (~~~regConStop) h.start
      have hclear : s.regCon &&& ~~~regConStop &&& regConStop = 0 := not_and_and _ _
      refine ⟨.inr rfl, ?_, hstart, fun hno => by cases hno⟩
      have hquiet := busConditions_quiet s.regCon hstart (.inl hclear)
      exact (congrArg₂ (· ++ ·) h.bus hquiet).trans (List.append_nil _)
  · unfold rk3xI2cHandle
    rw [hidle]
    exact h

/-- **An interrupt at rest** adds no condition, whatever is pending. -/
theorem AtRest.irq (h : AtRest bus s) (ipd : BitVec 32) (mapped : Nat → Bool) :
    AtRest bus (rk3xI2cIrq ipd mapped s) := by
  unfold rk3xI2cIrq
  split
  · exact h
  · rename_i hbusy
    have hstop := h.rest.resolve_right hbusy
    have hafter : AtRest bus (if ipd &&& ~~~(regIntBrf ||| regIntBtf) &&& regIntNakrcv ≠ 0 then
        rk3xI2cStop .invalidTransaction s else s) := by
      split
      · exact h.again hstop _
      · exact h
    dsimp only
    split
    · exact hafter
    · exact hafter.handle _ mapped

/-- **The START has gone out**: the bytes are moved. -/
theorem OnWay.handleStart (h : OnWay bus s) {ipd : BitVec 32}
    (hevent : ipd &&& regIntStart ≠ 0) (mapped : Nat → Bool) :
    OnWay bus (rk3xI2cHandleStart ipd mapped s) := by
  have hstart : s.regCon &&& ~~~regConStart &&& regConStart = 0 := not_and_and _ _
  have hstop := and_apart_left (~~~regConStart) h.stop
  have hquiet := busConditions_quiet s.regCon hstart (.inl hstop)
  have hbus : s.bus ++ busConditions s.regCon (s.regCon &&& ~~~regConStart) = bus := by
    rw [hquiet, List.append_nil]
    exact h.bus
  unfold rk3xI2cHandleStart
  rw [if_neg hevent]
  dsimp only
  split
  · refine OnWay.sameControl ?_ (fillWords_sameControl mapped 8 0 _)
    exact ⟨⟨nofun, nofun⟩, hbus, hstop, fun _ => hstart, h.notLast, h.dpcQueued, h.waitEvent⟩
  · refine OnWay.prepareRead ?_ rfl
    exact ⟨⟨nofun, nofun⟩, hbus, hstop, fun _ => hstart, h.notLast, h.dpcQueued, h.waitEvent⟩

theorem OnWay.handleWrite (h : OnWay bus s) (hstate : s.state = .write) {ipd : BitVec 32}
    (hevent : ipd &&& regIntMbtf ≠ 0) (mapped : Nat → Bool) :
    OnWay bus (rk3xI2cHandleWrite ipd mapped s)
      ∨ AtRest (bus ++ [.stop]) (rk3xI2cHandleWrite ipd mapped s) := by
  have hsent : OnWay bus s.transmitted :=
    ⟨h.moving, h.bus, h.stop, h.start, h.notLast, h.dpcQueued, h.waitEvent⟩
  unfold rk3xI2cHandleWrite
  rw [if_neg hevent]
  dsimp only
  split
  · refine .inr (hsent.ending ?_ _)
    exact fun hstart => absurd (hstate.symm.trans hstart) (by decide)
  · exact .inl (hsent.sameControl (fillWords_sameControl mapped 8 0 _))

theorem OnWay.handleRead (h : OnWay bus s) (hstate : s.state = .read) (ipd : BitVec 32)
    (mapped : Nat → Bool) :
    OnWay bus (rk3xI2cHandleRead ipd mapped s)
      ∨ AtRest (bus ++ [.stop]) (rk3xI2cHandleRead ipd mapped s) := by
  unfold rk3xI2cHandleRead
  split
  · exact .inl h
  · have hsame := readBytes_sameControl mapped (min (s.transferLength - s.processed.toNat) 32) s
    have hread := hsame.state.trans hstate
    dsimp only
    split
    · refine .inr ((h.sameControl hsame).ending ?_ _)
      exact fun hstart => absurd (hread.symm.trans hstart) (by decide)
    · exact .inl ((h.sameControl hsame).prepareRead hread)

/-- **An expected interrupt** moves bytes, or ends the message with its STOP. -/
theorem OnWay.irq (h : OnWay bus s) {ipd : BitVec 32} (hexpected : IrqExpected ipd s.state)
    (mapped : Nat → Bool) :
    OnWay bus (rk3xI2cIrq ipd mapped s) ∨ AtRest (bus ++ [.stop]) (rk3xI2cIrq ipd mapped s) := by
  obtain ⟨hstop, hidle⟩ := h.moving
  have hnak : ipd &&& regIntNakrcv = 0 := by
    cases hstate : s.state with
    | start =>
      rw [hstate] at hexpected
      exact hexpected.1
    | write =>
      rw [hstate] at hexpected
      exact hexpected.1
    | read =>
      rw [hstate] at hexpected
      exact hexpected
    | stop => exact absurd hstate hstop
    | idle => exact absurd hstate hidle
  unfold rk3xI2cIrq
  rw [if_neg hidle, if_neg (not_not.mpr (and_apart_left _ hnak))]
  dsimp only
  split
  · exact .inl h
  · rename_i hleft
    unfold rk3xI2cHandle
    cases hstate : s.state with
    | start =>
      rw [hstate] at hexpected
      exact .inl (h.handleStart (hexpected.2 hleft) mapped)
    | write =>
      rw [hstate] at hexpected
      exact h.handleWrite hstate (hexpected.2 hleft) mapped
    | read => exact h.handleRead hstate _ mapped
    | stop => exact absurd hstate hstop
    | idle => exact absurd hstate hidle

/-- **The forced STOP** of a message under way. -/
theorem OnWay.forceStop (h : OnWay bus s) : AtRest (bus ++ [.stop]) (forceStop s) := by
  obtain ⟨htuningStart, -⟩ := tuning_apart s.regCon
  have hstart : (s.regCon &&& regConTuningMask ||| (regConEn ||| regConStop)) &&& regConStart
      = 0 := (or_apart_iff _ _ _).mpr ⟨htuningStart, by decide⟩
  have hset : (s.regCon &&& regConTuningMask ||| (regConEn ||| regConStop)) &&& regConStop ≠ 0 :=
    fun hzero => absurd ((or_apart_iff _ _ _).mp hzero).2 (by decide)
  refine ⟨.inr rfl, ?_, hstart, fun hno => by cases hno⟩
  exact congrArg₂ (· ++ ·) h.bus (busConditions_stop hstart hset h.stop)

/-- A STOP that is under way is not repeated. -/
theorem AtRest.forceStop (h : AtRest bus s) (hnot : s.state ≠ .idle) :
    AtRest bus (forceStop s) := by
  obtain ⟨htuningStart, -⟩ := tuning_apart s.regCon
  have hstart : (s.regCon &&& regConTuningMask ||| (regConEn ||| regConStop)) &&& regConStart
      = 0 := (or_apart_iff _ _ _).mpr ⟨htuningStart, by decide⟩
  have hset := (h.stop (h.rest.resolve_right hnot)).1
  refine ⟨.inr rfl, ?_, hstart, fun hno => by cases hno⟩
  have hquiet := busConditions_quiet s.regCon hstart (.inr hset)
  exact (congrArg₂ (· ++ ·) h.bus hquiet).trans (List.append_nil _)

end Machine

/-! ## 4. Runs

Every message that comes to its end sends a STOP, and one that is broken off sends none, so a
request is framed as it should be only if no message but its last one comes to its end; this is
what the condition says of the steps. -/

/-- Between requests and before the first transfer of one the state machine is at rest; in a wait,
the transfers so far have had their STARTs. -/
structure FramingInv (s : I2cWorld) : Prop where
  free : s.phase = .free → AtRest s.bus s.toRk3xI2c ∧ FramingExact s
  ready : s.phase = .ready → s.index = 0 ∧ AtRest [] s.toRk3xI2c
  waiting : s.phase = .waiting → s.index < s.transfers.length
    ∧ (OnWay (frames (s.index + 1)) s.toRk3xI2c
      ∨ AtRest (frames (s.index + 1) ++ [.stop]) s.toRk3xI2c)

/-- **The wait ends** after the STOP. -/
theorem AtRest.singleReturn {s : I2cWorld} {status : NtStatus}
    (h : AtRest (frames (s.index + 1) ++ [.stop]) s.toRk3xI2c)
    (hindex : s.index < s.transfers.length) (hlast : s.MoreFollow → status ≠ .success)
    (completion : Option Nat) : FramingInv (s.singleReturn status completion) := by
  have hrest : AtRest s.bus s.toRk3xI2c := h.bus.symm ▸ h
  unfold I2cWorld.singleReturn
  dsimp only
  split
  · rename_i hfailed
    refine ⟨fun _ => ⟨hrest, fun _ _ => ?_⟩, nofun, nofun⟩
    exact ⟨s.index, hindex, h.bus, .inr hfailed⟩
  · rename_i hsuccess
    have hnone : ¬ s.index + 1 < s.transfers.length := fun hmore => hsuccess (hlast hmore)
    rw [if_neg hnone]
    refine ⟨fun _ => ⟨hrest, fun _ _ => ?_⟩, nofun, nofun⟩
    exact ⟨s.index, hindex, h.bus, .inl (by dsimp only; omega)⟩

/-- **A transfer is begun** with its START. -/
theorem AtRest.xferSingle {s : I2cWorld} (h : AtRest [] s.toRk3xI2c) (hindex : s.index = 0)
    (hlength : s.index < s.transfers.length) (hqueued : s.dpcQueued = none)
    (descriptor : Transfer) : FramingInv (i2cXferSingle descriptor s) := by
  have hmode : ¬ s.target.addressMode ≠ .sevenBit := not_not.mpr s.target.addressMode_eq
  unfold i2cXferSingle
  dsimp only
  rw [if_neg hmode]
  generalize (if descriptor.direction = .fromDevice then ConMode.registerTx else .tx) = mode
  obtain ⟨-, htuningStop⟩ := tuning_apart s.regCon
  obtain ⟨-, hmodStop⟩ := regConMod_apart mode
  have hstart : (s.regCon &&& regConTuningMask ||| (regConEn ||| regConMod mode ||| regConStart)
      ||| regConActack) &&& regConStart ≠ 0 := by
    intro hzero
    obtain ⟨hzero, -⟩ := (or_apart_iff _ _ _).mp hzero
    obtain ⟨-, hzero⟩ := (or_apart_iff _ _ _).mp hzero
    exact absurd ((or_apart_iff _ _ _).mp hzero).2 (by decide)
  have hstop : (s.regCon &&& regConTuningMask ||| (regConEn ||| regConMod mode ||| regConStart)
      ||| regConActack) &&& regConStop = 0 := by
    refine (or_apart_iff _ _ _).mpr ⟨(or_apart_iff _ _ _).mpr ⟨htuningStop, ?_⟩, by decide⟩
    refine (or_apart_iff _ _ _).mpr ⟨(or_apart_iff _ _ _).mpr ⟨by decide, hmodStop⟩, by decide⟩
  have hcondition := busConditions_start hstart h.start hstop
  refine ⟨nofun, nofun, fun _ => ⟨hlength, .inl ?_⟩⟩
  refine ⟨⟨nofun, nofun⟩, ?_, hstop, fun hno => absurd rfl hno, rfl, hqueued, rfl⟩
  have hbus : s.bus ++ [.transfer s.index] ++ [.start] = frames (s.index + 1) := by
    rw [h.bus, hindex]
    rfl
  exact (congrArg (s.bus ++ [.transfer s.index] ++ ·) hcondition).trans hbus

/-- **Every step that meets the condition keeps the invariant.** -/
theorem i2cStep_framingInv {s s' : I2cWorld} {step : I2cStep} (h : FramingInv s)
    (hkept : FramingKept s step) (hstep : i2cStep s step = some s') : FramingInv s' := by
  cases step with
  | request target transfers =>
    obtain ⟨⟨hfree, -⟩, hs⟩ := Option.ite_none_right_eq_some.mp hstep
    cases hs
    obtain ⟨⟨hrest, -, hstart, hstop⟩, -⟩ := h.free hfree
    exact ⟨nofun, fun _ => ⟨rfl, hrest, rfl, hstart, hstop⟩, nofun⟩
  | start =>
    unfold i2cStep at hstep
    dsimp only at hstep
    split at hstep
    · rename_i descriptor hready hdescriptor
      cases hstep
      obtain ⟨hindex, hrest⟩ := h.ready hready
      exact hrest.xferSingle hindex (List.getElem?_eq_some_iff.mp hdescriptor).1 hkept descriptor
    · cases hstep
  | irq ipd mapped =>
    cases hstep
    refine ⟨fun hfree => ?_, fun hready => ?_, fun hwaiting => ?_⟩
    · obtain ⟨hrest, hexact⟩ := h.free hfree
      have hafter := hrest.irq ipd mapped
      refine ⟨⟨hafter.rest, rfl, hafter.start, hafter.stop⟩, fun _ hrequest => ?_⟩
      obtain ⟨k, hk, hbus, hlast⟩ := hexact hfree hrequest
      exact ⟨k, hk, hafter.bus.trans hbus, hlast⟩
    · obtain ⟨hindex, hrest⟩ := h.ready hready
      exact ⟨hindex, hrest.irq ipd mapped⟩
    · obtain ⟨hindex, hway | hrest⟩ := h.waiting hwaiting
      · exact ⟨hindex, hway.irq hkept mapped⟩
      · exact ⟨hindex, .inr (hrest.irq ipd mapped)⟩
  | dpc =>
    unfold i2cStep at hstep
    dsimp only at hstep
    split at hstep
    · cases hstep
    · rename_i m hm
      cases hstep
      refine ⟨fun hfree => ?_, fun hready => ?_, fun hwaiting => ?_⟩
      · obtain ⟨⟨hrest, hbus, hstart, hstop⟩, hexact⟩ := h.free hfree
        exact ⟨⟨hrest, hbus, hstart, hstop⟩, hexact⟩
      · obtain ⟨hindex, hrest, hbus, hstart, hstop⟩ := h.ready hready
        exact ⟨hindex, hrest, hbus, hstart, hstop⟩
      · obtain ⟨hindex, hway | ⟨hrest, hbus, hstart, hstop⟩⟩ := h.waiting hwaiting
        · cases hway.dpcQueued.symm.trans hm
        · exact ⟨hindex, .inr ⟨hrest, hbus, hstart, hstop⟩⟩
  | wake =>
    unfold i2cStep at hstep
    dsimp only at hstep
    split at hstep
    · rename_i m hwaiting hm
      cases hstep
      obtain ⟨hindex, hway | hrest⟩ := h.waiting hwaiting
      · cases hway.waitEvent.symm.trans hm
      · exact hrest.singleReturn hindex hkept _
    · cases hstep
  | timeout =>
    obtain ⟨⟨hwaiting, -⟩, hs⟩ := Option.ite_none_right_eq_some.mp hstep
    cases hs
    obtain ⟨hindex, hmessage⟩ := h.waiting hwaiting
    have hforced : AtRest (frames (s.index + 1) ++ [.stop]) (forceStop s.toRk3xI2c) := by
      rcases hmessage with hway | hrest
      · exact hway.forceStop
      · exact hrest.forceStop hkept
    refine AtRest.singleReturn (s := { s with toRk3xI2c := forceStop s.toRk3xI2c }) hforced hindex
      (fun _ hsuccess => ?_) none
    cases hsuccess
  | alert =>
    obtain ⟨⟨hwaiting, -⟩, hs⟩ := Option.ite_none_right_eq_some.mp hstep
    cases hs
    obtain ⟨hended, hlast⟩ := hkept
    obtain ⟨hindex, hway | hrest⟩ := h.waiting hwaiting
    · exact absurd hended (not_or.mpr hway.moving)
    · exact hrest.singleReturn hindex hlast none

/-- **Every request is framed** by its STARTs and one STOP, in every run whose steps meet the
condition.  A STOP goes out when its bit in `REG_CON` is set anew, which happens at the end of a
message only; the condition is that the request ends there and with it. -/
theorem framing_exact {s : I2cWorld} (hr : ReachIf I2cWorld.Fresh i2cStep FramingKept s) :
    FramingExact s := by
  have hinv : FramingInv s := by
    refine ReachIf.invariant ?_ (fun s a t hi hG hst => i2cStep_framingInv hi hG hst) hr
    rintro s ⟨hphase, hidle, hstart, -, -, -, hnone⟩
    refine ⟨fun _ => ⟨⟨.inr hidle, rfl, hstart, ?_⟩, ?_⟩, ?_, ?_⟩
    · exact fun hstop => absurd (hidle.symm.trans hstop) (by decide)
    · exact fun _ hrequest => absurd hnone hrequest
    · exact fun hready => absurd (hphase.symm.trans hready) (by decide)
    · exact fun hwaiting => absurd (hphase.symm.trans hwaiting) (by decide)
  exact fun hfree => (hinv.free hfree).2 hfree

/-- A write of a byte, then a sequence of two writes of which the first one times out. -/
theorem framing_exact_of_timeout : ∃ s : I2cWorld,
    s.status = .ioTimeout ∧ s.bus = [.transfer 0, .start, .stop] ∧ FramingExact s := by
  obtain ⟨s, hr, hp⟩ := exists_reachIf_of_runIf i2cStep FramingKept idleI2c_fresh
    [.request ⟨0, by decide⟩ [⟨.toDevice, 1, [4]⟩], .start, pending regIntStart,
      pending regIntMbtf, pending regIntStop, .dpc, .wake,
      .request ⟨0, by decide⟩ [⟨.toDevice, 1, [4]⟩, ⟨.toDevice, 1, [4]⟩], .start, .timeout]
    (fun s => decide (s.status = .ioTimeout ∧ s.bus = [.transfer 0, .start, .stop])) (by decide)
  obtain ⟨hstatus, hbus⟩ := of_decide_eq_true hp
  exact ⟨s, hstatus, hbus, framing_exact hr⟩

/-- **A sequence of two writes that both complete has a STOP between them**, and a write that is not
acknowledged has none. -/
theorem stop_between_transfers :
    (∃ s, Reach I2cWorld.Fresh i2cStep s ∧ s.status = .success
      ∧ s.bus = [.transfer 0, .start, .stop, .transfer 1, .start, .stop] ∧ ¬ FramingExact s)
    ∧ ∃ s, Reach I2cWorld.Fresh i2cStep s ∧ s.status = .invalidTransaction
      ∧ s.bus = [.transfer 0, .start] ∧ ¬ FramingExact s := by
  constructor
  · obtain ⟨s, hr, hp⟩ := exists_reach_of_run i2cStep idleI2c_fresh
      [.request ⟨0, by decide⟩ [⟨.toDevice, 1, [4]⟩, ⟨.toDevice, 1, [4]⟩], .start,
        pending regIntStart, pending regIntMbtf,
        pending regIntStop, .dpc, .wake, .start,
        pending regIntStart, pending regIntMbtf,
        pending regIntStop, .dpc, .wake]
      (fun s => decide (s.phase = .free ∧ s.status = .success ∧ s.transfers.length = 2
        ∧ s.bus = [.transfer 0, .start, .stop, .transfer 1, .start, .stop])) (by decide)
    obtain ⟨hfree, hstatus, htwo, hbus⟩ := of_decide_eq_true hp
    refine ⟨s, hr, hstatus, hbus, fun hexact => ?_⟩
    obtain ⟨k, hk, hframes, -⟩ := hexact hfree (List.ne_nil_of_length_pos (by omega))
    rw [hbus] at hframes
    obtain rfl | rfl : k = 0 ∨ k = 1 := by omega
    · exact absurd hframes (by decide)
    · exact absurd hframes (by decide)
  · obtain ⟨s, hr, hp⟩ := exists_reach_of_run i2cStep idleI2c_fresh
      [.request ⟨0, by decide⟩ [⟨.toDevice, 1, [4]⟩], .start, pending regIntStart,
        pending regIntNakrcv, .dpc, .wake]
      (fun s => decide (s.phase = .free ∧ s.status = .invalidTransaction ∧ s.transfers.length = 1
        ∧ s.bus = [.transfer 0, .start])) (by decide)
    obtain ⟨hfree, hstatus, hone, hbus⟩ := of_decide_eq_true hp
    refine ⟨s, hr, hstatus, hbus, fun hexact => ?_⟩
    obtain ⟨k, hk, hframes, -⟩ := hexact hfree (List.ne_nil_of_length_pos (by omega))
    rw [hbus] at hframes
    obtain rfl : k = 0 := by omega
    exact absurd hframes (by decide)

end WoaRk3576.I2c
