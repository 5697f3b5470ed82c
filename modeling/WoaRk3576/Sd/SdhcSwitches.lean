/-
# The clock and the signaling of dwcsdhc, where a change fails

`SdhcSetClock` and `SdhcSetSignaling` gate the clock first and then go on step by step; an error
returns at once, with the steps before it done, and nothing in the driver takes a step back.

* `clockLeft` is what each error of `SdhcSetClock` leaves behind.  There is one value for each
  error because the error says how far the call has come: no frequency, a frequency that the PHY is
  not set for, or a clock that has not become stable (`sdhcSetClock_left`).
* The registers are then as before exactly where they had that value already (`ClockAlready`,
  `clockLeft_eq_iff`).  For each register this is a fact about a field that is replaced.
* `SdhcSetSignaling` has three ways to fail, and on each the question is again whether the two
  registers were already as the last write leaves them (`sdhcSetSignaling_left`).

`switch_failed` puts both together.  The writes to the CRU and to the PHY are those of
`dwcSdhcRkSetClock`, whose divider is the subject of `setClock_right`.

`SDHC_CC_CLOCK_STABLE` is a bit of the hardware.  A write does not change it, and after the polls
it is as they have read it: set at the end of a call that succeeds, clear at the end of one that
has timed out.
-/
import WoaRk3576.Lib.Bits
import WoaRk3576.Sd.MshcClock
import WoaRk3576.Sd.SdhcCardClock

namespace WoaRk3576.Sd.SdhcSwitch

open WoaRk3576.Lib

/-! ## 1. The clock

The card's clock is gated first, then the CRU and the PHY are set, and the clock is enabled again
if it gets stable.  Each way out with an error lies behind some of these steps and undoes none, so
what is left is known from the status alone. -/

/-- `SDHC_CC_INTERNAL_CLOCK_ENABLE`. -/
def sdhcCcInternalClockEnable : BitVec 16 := 0x0001

/-- `SDHC_CC_CLOCK_STABLE`. -/
def sdhcCcClockStable : BitVec 16 := 0x0002

/-- `SDHC_CC_CLOCK_ENABLE`. -/
def sdhcCcClockEnable : BitVec 16 := 0x0004

/-- The bits that `SdhcSetClock` clears first. -/
def clockGate : BitVec 16 := sdhcCcClockEnable ||| sdhcCcInternalClockEnable

/-- `DWCMSHC_EMMC_DLL_*`. -/
structure EmmcPhy where
  dllCtrl : BitVec 32
  dllRxclk : BitVec 32
  dllTxclk : BitVec 32
  dllStrbin : BitVec 32
  dllCmdout : BitVec 32
  deriving DecidableEq

/-- A write to a register of the PHY. -/
def EmmcPhy.write (phy : EmmcPhy) : EmmcDllReg × BitVec 32 → EmmcPhy
  | (.ctrl, value) => { phy with dllCtrl := value }
  | (.rxclk, value) => { phy with dllRxclk := value }
  | (.txclk, value) => { phy with dllTxclk := value }
  | (.strbin, value) => { phy with dllStrbin := value }
  | (.cmdout, value) => { phy with dllCmdout := value }

/-- `SDHC_CLOCK_CONTROL`, the register at `s_CruClkSel` unless that is NULL, and the PHY. -/
@[ext]
structure SdhcClock where
  clockControl : BitVec 16
  cruClkSel : Option (BitVec 32)
  phy : EmmcPhy
  deriving DecidableEq

/-- What `DwcSdhcRkSetClock` writes, put into the registers. -/
def SdhcClock.written (r : SdhcClock) (run : SetClockRun) : SdhcClock :=
  { r with
    cruClkSel := match run.clkSel with
      | some value => r.cruClkSel.map fun cru => cruWrite cru value
      | none => r.cruClkSel
    phy := run.dll.foldl EmmcPhy.write r.phy }

/-- The polling loop with `retries`, from the poll `k` on: whether the clock was stable in time. -/
def pollStable (polls : Nat → Bool) : Nat → Nat → Bool
  | 0, _ => false
  | retries + 1, k =>
    if retries = 0 then false
    else if polls k then true
    else pollStable polls retries (k + 1)

/-- **`SdhcSetClock`**.  The last write has the stable bit that was read; where no poll has read it
set, it is clear in the end. -/
def sdhcSetClock (polls : Nat → Bool) (frequency : BitVec 32) (r : SdhcClock) :
    SdhcClock × NtStatus :=
  let clockControl := r.clockControl &&& ~~~clockGate
  let run := dwcSdhcRkSetClock r.cruClkSel.isSome frequency
  let set := { r with clockControl := clockControl }.written run
  if run.status.ntSuccess = false then (set, run.status)
  else
    let clockControl := clockControl ||| sdhcCcInternalClockEnable
    if pollStable polls 100 0 then
      ({ set with clockControl := clockControl ||| sdhcCcClockStable ||| sdhcCcClockEnable },
        .success)
    else ({ set with clockControl := clockControl &&& ~~~sdhcCcClockStable }, .ioTimeout)

/-- The PHY below 100 MHz. -/
def slowPhy : EmmcPhy where
  dllCtrl := 0
  dllRxclk := 0
  dllTxclk := 0
  dllStrbin := (1 <<< 27) ||| (1 <<< 26) ||| (0x10 <<< 16)
  dllCmdout := 0

/-- The CRU register once the clock is selected. -/
def selectedCru (frequency : BitVec 32) (r : SdhcClock) : Option (BitVec 32) :=
  r.cruClkSel.map fun cru => cruWrite cru (emmcClkSel (frequency * 1000).toNat)

/-- What a clock that does not get stable has had changed in `SDHC_CLOCK_CONTROL`. -/
def clockTimedOut : BitVec 16 := clockGate ||| sdhcCcClockStable

/-- What `SdhcSetClock` leaves behind with an error: the clock gated, and from
`STATUS_NOT_SUPPORTED` on a new selection in the CRU; a clock that does not get stable has its PHY
set and its internal clock on, and its stable bit is clear. -/
def clockLeft (frequency : BitVec 32) (r : SdhcClock) : NtStatus → SdhcClock
  | .invalidParameter => { r with clockControl := r.clockControl &&& ~~~clockGate }
  | .notSupported =>
    { r with
      clockControl := r.clockControl &&& ~~~clockGate
      cruClkSel := selectedCru frequency r }
  | _ =>
    { clockControl := (r.clockControl &&& ~~~clockTimedOut) ||| sdhcCcInternalClockEnable
      cruClkSel := selectedCru frequency r
      phy := slowPhy }

/-- **All was already as the error leaves it.**  After a time-out this takes an internal clock that
was on without being stable. -/
def ClockAlready (frequency : BitVec 32) (r : SdhcClock) : NtStatus → Prop
  | .invalidParameter => r.clockControl &&& clockGate = 0
  | .notSupported => r.clockControl &&& clockGate = 0 ∧ selectedCru frequency r = r.cruClkSel
  | _ => r.clockControl &&& clockTimedOut = sdhcCcInternalClockEnable
    ∧ selectedCru frequency r = r.cruClkSel ∧ r.phy = slowPhy

section SetClock

variable (polls : Nat → Bool) {frequency : BitVec 32} (r : SdhcClock)

/-- The CRU is written if it is mapped, whatever the PHY makes of the frequency. -/
theorem SdhcClock.written_select (clockControl : BitVec 16) (status : NtStatus)
    (dll : List (EmmcDllReg × BitVec 32)) :
    { r with clockControl := clockControl }.written ⟨status,
        if r.cruClkSel.isSome then some (emmcClkSel (frequency * 1000).toNat) else none, dll⟩
      = ⟨clockControl, selectedCru frequency r, dll.foldl EmmcPhy.write r.phy⟩ := by
  unfold SdhcClock.written selectedCru
  cases hcru : r.cruClkSel with
  | none => rfl
  | some cru => rfl

/-- Gated, with the internal clock on and the stable bit clear. -/
theorem clockTimedOut_eq (clockControl : BitVec 16) :
    ((clockControl &&& ~~~clockGate) ||| sdhcCcInternalClockEnable) &&& ~~~sdhcCcClockStable
      = (clockControl &&& ~~~clockTimedOut) ||| sdhcCcInternalClockEnable := by
  have hinternal : sdhcCcInternalClockEnable &&& ~~~sdhcCcClockStable
      = sdhcCcInternalClockEnable := by decide
  have hboth : ~~~clockGate &&& ~~~sdhcCcClockStable = ~~~clockTimedOut := by decide
  rw [BitVec.and_or_distrib_right, hinternal, BitVec.and_assoc, hboth]

/-- A frequency that is 0 in Hz. -/
theorem sdhcSetClock_zero (hzero : frequency * 1000 = 0) :
    sdhcSetClock polls frequency r
      = (clockLeft frequency r .invalidParameter, .invalidParameter) := by
  unfold sdhcSetClock dwcSdhcRkSetClock
  dsimp only
  rw [if_pos hzero]
  rfl

/-- A frequency that the PHY is not set for. -/
theorem sdhcSetClock_fast (hzero : frequency * 1000 ≠ 0)
    (hfast : ¬ (frequency * 1000).toNat < 100000000) :
    sdhcSetClock polls frequency r = (clockLeft frequency r .notSupported, .notSupported) := by
  unfold sdhcSetClock dwcSdhcRkSetClock dwcSdhcRkConfigurePhy
  dsimp only
  rw [if_neg hzero, if_neg hfast, SdhcClock.written_select]
  rfl

/-- Any other frequency: the polls decide. -/
theorem sdhcSetClock_slow (hzero : frequency * 1000 ≠ 0)
    (hslow : (frequency * 1000).toNat < 100000000) :
    (pollStable polls 100 0 = true → (sdhcSetClock polls frequency r).2 = .success)
      ∧ (pollStable polls 100 0 = false →
        sdhcSetClock polls frequency r = (clockLeft frequency r .ioTimeout, .ioTimeout)) := by
  unfold sdhcSetClock dwcSdhcRkSetClock dwcSdhcRkConfigurePhy
  dsimp only
  rw [if_neg hzero, if_pos hslow, SdhcClock.written_select, clockTimedOut_eq]
  constructor
  · intro hpoll
    rw [hpoll]
    rfl
  · intro hpoll
    rw [hpoll]
    rfl

/-- **A clock that cannot be set**: what is left behind, for each error. -/
theorem sdhcSetClock_left (herror : (sdhcSetClock polls frequency r).2.ntSuccess = false) :
    (sdhcSetClock polls frequency r).1
      = clockLeft frequency r (sdhcSetClock polls frequency r).2 := by
  by_cases hzero : frequency * 1000 = 0
  · rw [sdhcSetClock_zero polls r hzero]
  · by_cases hslow : (frequency * 1000).toNat < 100000000
    · obtain ⟨hstable, htimeout⟩ := sdhcSetClock_slow polls r hzero hslow
      cases hpoll : pollStable polls 100 0 with
      | true =>
        rw [hstable hpoll] at herror
        exact nomatch herror
      | false => rw [htimeout hpoll]
    · rw [sdhcSetClock_fast polls r hzero hslow]

end SetClock

/-- The stable bit of before the call does not survive a time-out. -/
example : (sdhcSetClock (fun _ => false) 400 ⟨0x0003, none, slowPhy⟩).1
    = ⟨0x0001, none, slowPhy⟩ := by decide

/-- What is left behind is what was there before just where it was there before. -/
theorem clockLeft_eq_iff (frequency : BitVec 32) (r : SdhcClock) (status : NtStatus) :
    clockLeft frequency r status = r ↔ ClockAlready frequency r status := by
  have hgate : r.clockControl &&& ~~~clockGate = r.clockControl
      ↔ r.clockControl &&& clockGate = 0 := and_not_eq_self_iff
  have htimeout : (r.clockControl &&& ~~~clockTimedOut) ||| sdhcCcInternalClockEnable
      = r.clockControl ↔ r.clockControl &&& clockTimedOut = sdhcCcInternalClockEnable :=
    and_not_or_eq_self_iff (by decide)
  rw [SdhcClock.ext_iff]
  cases status <;> simp only [clockLeft, ClockAlready, hgate, htimeout, and_true, eq_comm]

/-! ## 2. The signaling voltage

The clock is taken off, the lines are looked at, the voltage is switched, the clock is put on and
the lines are looked at again.  What the controller makes of a write to its control register is its
own affair. -/

/-- `SDHC_HC2_1_8V_SIGNALING`. -/
def sdhcHc2Signaling18 : BitVec 16 := 0x0008

/-- `SDHC_PS_DAT_3_0`. -/
def sdhcPsDat30 : BitVec 32 := 0x00F00000

/-- `SDHC_CLOCK_CONTROL` and `SDHC_HOST_CONTROL2`. -/
structure SdhcSignaling where
  clockControl : BitVec 16
  hostControl2 : BitVec 16
  deriving DecidableEq

/-- What the hardware does: the present state before and after the switch, and what the controller
makes of a write to `SDHC_HOST_CONTROL2`. -/
structure SignalingAnswer where
  before : BitVec 32
  latch : BitVec 16 → BitVec 16
  after : BitVec 32

/-- The value that is written to `SDHC_HOST_CONTROL2`. -/
def requestedControl2 (enable : Bool) (hostControl2 : BitVec 16) : BitVec 16 :=
  if enable then hostControl2 ||| sdhcHc2Signaling18 else hostControl2 &&& ~~~sdhcHc2Signaling18

/-- The test whether the voltage has latched. -/
def Latched (enable : Bool) (hostControl2 : BitVec 16) : Prop :=
  if enable then hostControl2 &&& sdhcHc2Signaling18 ≠ 0
  else hostControl2 &&& sdhcHc2Signaling18 = 0

instance (enable : Bool) (hostControl2 : BitVec 16) : Decidable (Latched enable hostControl2) :=
  match enable with
  | true => inferInstanceAs (Decidable (_ ≠ _))
  | false => inferInstanceAs (Decidable (_ = _))

/-- **`SdhcSetSignaling`**, and whether it succeeded. -/
def sdhcSetSignaling (enable : Bool) (hw : SignalingAnswer) (r : SdhcSignaling) :
    SdhcSignaling × Bool :=
  let r := { r with clockControl := r.clockControl &&& ~~~sdhcCcClockEnable }
  if sdhcPsDat30 &&& hw.before ≠ 0 then (r, false)
  else
    let r := { r with hostControl2 := hw.latch (requestedControl2 enable r.hostControl2) }
    if Latched enable r.hostControl2 then
      let r := { r with clockControl := r.clockControl ||| sdhcCcClockEnable }
      (r, decide (sdhcPsDat30 &&& hw.after = sdhcPsDat30))
    else (r, false)

/-- **What is to be as before**: `SDHC_HOST_CONTROL2` and the enable of the card's clock. -/
def SignalingAsBefore (r r' : SdhcSignaling) : Prop :=
  r'.hostControl2 = r.hostControl2
    ∧ r'.clockControl &&& sdhcCcClockEnable = r.clockControl &&& sdhcCcClockEnable

/-- **The registers were already as the error leaves them**: the clock off where the lines are not
low or the voltage does not latch, and on where the lines are not high; and from the write on the
control register as the controller has made it. -/
def SignalingAlready (enable : Bool) (hw : SignalingAnswer) (r : SdhcSignaling) : Prop :=
  if sdhcPsDat30 &&& hw.before ≠ 0 then r.clockControl &&& sdhcCcClockEnable = 0
  else hw.latch (requestedControl2 enable r.hostControl2) = r.hostControl2
    ∧ r.clockControl &&& sdhcCcClockEnable
      = if Latched enable (hw.latch (requestedControl2 enable r.hostControl2))
        then sdhcCcClockEnable else 0

theorem sdhcSetSignaling_left (enable : Bool) (hw : SignalingAnswer) (r : SdhcSignaling) :
    SignalingAsBefore r (sdhcSetSignaling enable hw r).1 ↔ SignalingAlready enable hw r := by
  unfold SignalingAsBefore SignalingAlready sdhcSetSignaling
  dsimp only
  by_cases hlow : sdhcPsDat30 &&& hw.before ≠ 0
  · rw [if_pos hlow, if_pos hlow]
    dsimp only
    rw [not_and_and]
    exact ⟨fun h => h.2.symm, fun h => ⟨rfl, h.symm⟩⟩
  · rw [if_neg hlow, if_neg hlow]
    split
    · dsimp only
      rw [or_and_self, eq_comm (a := sdhcCcClockEnable)]
    · dsimp only
      rw [not_and_and, eq_comm (a := (0 : BitVec 16))]

/-! ## 3. Both changes

That something is as it was before is an equation between registers; it holds after an error just
if every step that was made wrote what was there. -/

/-- **A change that fails leaves its steps behind**, and all is as before only where it was so
already.  The status says how far the call has come, so the registers it leaves are known, and each
is compared with what was there as a field that is replaced. -/
theorem switch_failed (polls : Nat → Bool) (frequency : BitVec 32) (r : SdhcClock)
    (enable : Bool) (hw : SignalingAnswer) (s : SdhcSignaling) :
    ((sdhcSetClock polls frequency r).2.ntSuccess = false →
      (sdhcSetClock polls frequency r).1
          = clockLeft frequency r (sdhcSetClock polls frequency r).2
        ∧ ((sdhcSetClock polls frequency r).1 = r
          ↔ ClockAlready frequency r (sdhcSetClock polls frequency r).2))
      ∧ ((sdhcSetSignaling enable hw s).2 = false →
        (SignalingAsBefore s (sdhcSetSignaling enable hw s).1 ↔ SignalingAlready enable hw s)) := by
  refine ⟨fun herror => ?_, fun _ => sdhcSetSignaling_left enable hw s⟩
  have hleft := sdhcSetClock_left polls r herror
  refine ⟨hleft, ?_⟩
  rw [hleft]
  exact clockLeft_eq_iff frequency r _

/-- A clock of 200 MHz is refused with the card's clock off and the CRU at 200 MHz, and a switch to
1.8 V whose data lines are not low leaves the clock off. -/
theorem refusedChange_switched :
    (sdhcSetClock (fun _ => true) 200000 ⟨0x0007, some 0x8F00, slowPhy⟩).2 = .notSupported
      ∧ (sdhcSetClock (fun _ => true) 200000 ⟨0x0007, some 0x8F00, slowPhy⟩).1
        ≠ ⟨0x0007, some 0x8F00, slowPhy⟩
      ∧ (sdhcSetSignaling true ⟨0x00100000, id, 0⟩ ⟨0x0007, 0⟩).2 = false
      ∧ ¬ SignalingAsBefore ⟨0x0007, 0⟩
        (sdhcSetSignaling true ⟨0x00100000, id, 0⟩ ⟨0x0007, 0⟩).1 :=
  ⟨by decide, by decide, by decide, fun h => absurd h.2 (by decide)⟩

end WoaRk3576.Sd.SdhcSwitch
