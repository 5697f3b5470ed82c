/-
# Power transitions of a bank: the save and restore callbacks of rk3xgpio

A bank that goes into a lower F-state loses its registers.  The class extension has them saved
before and restored after; the start routine, which is the first to run, and the callbacks are what
programs them in between.  Save and restore name five registers; the start routine also programs a
sixth, the interrupt enable register, and is not run on this way.

`context_kept_iff` is the result: after a transition every programmed register holds what it held
at save exactly when the interrupt enable register is reset to the value that the start routine
gives it, or was already lost since the last start.  `ContextKept.delivers` says what a kept
context means for interrupts, `transition_delivers` what is delivered otherwise.

A transition keeps what is saved and resets the rest (`stored_transition`), so the question is
about one register.  No callback programs it (`Callback.run_intEn`), a start always does
(`start_intEn`), and a loss of power resets it.  Its value after a run is therefore a matter of
which of the last two came last (`runBank_intEn`, an induction over the events), and a second
transition has nothing left to lose: this is the other case of the condition.

The reset values are a parameter, as the source does not name them.  With zero, where everything is
masked by the enable register, no interrupt is delivered after the first transition.
-/
import WoaRk3576.Gpio.Callbacks

namespace WoaRk3576.Gpio

/-! ## 1. The routines

Save copies five registers, and restore writes them back.  The loss of power in between sets every
register to its reset value, whatever that is. -/

/-- `ROCKCHIP_SAVED_CONTEXT`. -/
structure SavedContext where
  dataRegister : BitVec 32
  dataDirectionRegister : BitVec 32
  intMask : BitVec 32
  intType : BitVec 32
  intPolarity : BitVec 32
  deriving DecidableEq

/-- A bank: its registers and `SavedContext`. -/
structure BankState where
  core : GpioCore
  savedContext : SavedContext

section Routines

variable (io : GpioIo) (bank : BankState)

def rockchipGpioSaveBankHardwareContext : BankState :=
  { bank with
    savedContext :=
      ⟨io.gpioRead bank.core .portDR, io.gpioRead bank.core .portDDR,
        io.gpioRead bank.core .intMask, io.gpioRead bank.core .intType,
        io.gpioRead bank.core .intPolarity⟩ }

def rockchipGpioRestoreBankHardwareContext : BankState :=
  let saved := bank.savedContext
  let core := io.gpioWrite bank.core .portDR saved.dataRegister
  let core := io.gpioWrite core .intType saved.intType
  let core := io.gpioWrite core .intPolarity saved.intPolarity
  let core := io.gpioWrite core .portDDR saved.dataDirectionRegister
  -- the mask comes last, so that no interrupt is sampled with a wrong mode or polarity
  let core := io.gpioWrite core .intMask saved.intMask
  { bank with core }

/-- `RockchipGpioStartController`, for one of its banks. -/
def rockchipGpioStartController (restoreContext : Bool) : BankState :=
  let core := io.gpioWrite bank.core .intMask 0xffffffff
  let core := io.gpioWrite core .portEOI 0xffffffff
  let core := io.gpioWrite core .intEn 0xffffffff
  if restoreContext then rockchipGpioRestoreBankHardwareContext io { bank with core }
  else { bank with core }

/-- `RockchipGpioStopController`, for one of its banks. -/
def rockchipGpioStopController (saveContext : Bool) : BankState :=
  if saveContext then rockchipGpioSaveBankHardwareContext io bank else bank

end Routines

/-- The bank loses its registers: they are set to their reset values. -/
def BankState.powerLost (reset : GpioReg → BitVec 32) (bank : BankState) : BankState :=
  { bank with core := { bank.core with stored := reset, pending := 0 } }

/-- **A power transition**: save, loss, restore. -/
def BankState.transition (io : GpioIo) (reset : GpioReg → BitVec 32) (bank : BankState) :
    BankState :=
  rockchipGpioRestoreBankHardwareContext io
    ((rockchipGpioSaveBankHardwareContext io bank).powerLost reset)

/-- What happens to a bank on its way: callbacks and the hardware, starts and stops, and earlier
transitions. -/
inductive BankEvent
  | event (e : Event)
  | start (restoreContext : Bool)
  | stop (saveContext : Bool)
  | save
  | restore
  | powerLost

def BankEvent.run (io : GpioIo) (reset : GpioReg → BitVec 32) (bank : BankState) :
    BankEvent → BankState
  | .event e => { bank with core := (e.run io bank.core).1 }
  | .start restoreContext => rockchipGpioStartController io bank restoreContext
  | .stop saveContext => rockchipGpioStopController io bank saveContext
  | .save => rockchipGpioSaveBankHardwareContext io bank
  | .restore => rockchipGpioRestoreBankHardwareContext io bank
  | .powerLost => bank.powerLost reset

def runBank (io : GpioIo) (reset : GpioReg → BitVec 32) (bank : BankState)
    (events : List BankEvent) : BankState :=
  events.foldl (BankEvent.run io reset) bank

/-! ## 2. What a transition has to keep

The programmed registers are those that the driver writes and that hold a value.  What follows from
them is stated as well: the interrupts that are delivered and the levels that are driven. -/

/-- The registers that the driver programs; the end-of-interrupt register holds no value. -/
def GpioReg.Programmed : GpioReg → Prop
  | .portDR | .portDDR | .intEn | .intMask | .intType | .intPolarity => True
  | _ => False

/-- **The context is kept**: every programmed register has the value it had. -/
def ContextKept (before after : GpioCore) : Prop :=
  ∀ r : GpioReg, r.Programmed → after.stored r = before.stored r

/-- The interrupts that reach the processor when `raised` is detected at the pins. -/
def GpioCore.delivers (core : GpioCore) (raised : BitVec 32) : BitVec 32 :=
  raised &&& core.stored .intEn &&& ~~~core.stored .intMask

/-- The pins that the bank drives high. -/
def GpioCore.outputs (core : GpioCore) : BitVec 32 :=
  core.stored .portDR &&& core.stored .portDDR

theorem ContextKept.delivers {before after : GpioCore} (h : ContextKept before after)
    (raised : BitVec 32) : after.delivers raised = before.delivers raised := by
  unfold GpioCore.delivers
  rw [h .intEn trivial, h .intMask trivial]

theorem ContextKept.outputs {before after : GpioCore} (h : ContextKept before after) :
    after.outputs = before.outputs := by
  unfold GpioCore.outputs
  rw [h .portDR trivial, h .portDDR trivial]

/-! ## 3. What the routines do to the registers

A transition is a save, a loss and a restore, so each register afterwards is either the saved one
or the reset value.  The interrupt enable register is the one that is programmed and not saved. -/

variable {layout : GpioLayout} {status : IntStatus} {reset : GpioReg → BitVec 32}

/-- The writes of the two halves of the interrupt enable register are one write. -/
theorem gpioWrite_intEn (core : GpioCore) (val : BitVec 32) :
    ((layout.io status).gpioWrite core .intEn val).stored
      = Function.update core.stored .intEn val := by
  cases layout with
  | v1 => exact congrArg (Function.update core.stored .intEn) (merge_whole _ val)
  | v2 =>
    have hhalves : (GpioLayout.v2.io status).gpioWrite core .intEn val
        = (core.write .intEn ((val &&& 0xffff ||| 0xffff0000) >>> 16)
            ((val &&& 0xffff ||| 0xffff0000) &&& 0xffff)).write .intEn
          ((val >>> 16 ||| 0xffff0000) >>> 16 <<< 16) ((val >>> 16 ||| 0xffff0000) <<< 16) := rfl
    rw [hhalves, (enable_low val).1, (enable_low val).2, (enable_high val).1, (enable_high val).2]
    exact update_halves core.stored .intEn val

/-- A write of one of the other registers that hold a value. -/
theorem gpioWrite_stored {r : GpioReg} (hr : r.Written) (hne : r ≠ .portEOI) (core : GpioCore)
    (val : BitVec 32) :
    ((layout.io status).gpioWrite core r val).stored = Function.update core.stored r val := by
  rw [(layout.io_words status).gpioWrite hr, stored_write hr hne]

/-- **What restore programs**: the five registers of the saved context. -/
theorem stored_restore (bank : BankState) :
    (rockchipGpioRestoreBankHardwareContext (layout.io status) bank).core.stored
      = fun r => match r with
        | .portDR => bank.savedContext.dataRegister
        | .portDDR => bank.savedContext.dataDirectionRegister
        | .intMask => bank.savedContext.intMask
        | .intType => bank.savedContext.intType
        | .intPolarity => bank.savedContext.intPolarity
        | r => bank.core.stored r := by
  simp only [rockchipGpioRestoreBankHardwareContext]
  rw [gpioWrite_stored (r := .intMask) trivial (by decide),
    gpioWrite_stored (r := .portDDR) trivial (by decide),
    gpioWrite_stored (r := .intPolarity) trivial (by decide),
    gpioWrite_stored (r := .intType) trivial (by decide),
    gpioWrite_stored (r := .portDR) trivial (by decide)]
  funext r
  cases r <;> rfl

/-- **What save keeps**: the five registers, as the bank holds them. -/
theorem savedContext_save (bank : BankState) :
    (rockchipGpioSaveBankHardwareContext (layout.io status) bank).savedContext
      = ⟨bank.core.stored .portDR, bank.core.stored .portDDR, bank.core.stored .intMask,
        bank.core.stored .intType, bank.core.stored .intPolarity⟩ := by
  have hwords := layout.io_words status
  simp only [rockchipGpioSaveBankHardwareContext]
  rw [hwords.gpioRead (r := .portDR) trivial, hwords.gpioRead (r := .portDDR) trivial,
    hwords.gpioRead (r := .intMask) trivial, hwords.gpioRead (r := .intType) trivial,
    hwords.gpioRead (r := .intPolarity) trivial]
  rfl

/-- **A transition keeps what is saved and resets the rest.** -/
theorem stored_transition (bank : BankState) :
    (bank.transition (layout.io status) reset).core.stored
      = fun r => match r with
        | .portDR | .portDDR | .intMask | .intType | .intPolarity => bank.core.stored r
        | r => reset r := by
  unfold BankState.transition
  rw [stored_restore]
  simp only [BankState.powerLost, savedContext_save]
  funext r
  cases r <;> rfl

/-- The context is kept exactly when the interrupt enable register comes back by itself. -/
theorem transition_keeps_iff (bank : BankState) :
    ContextKept bank.core (bank.transition (layout.io status) reset).core
      ↔ bank.core.stored .intEn = reset .intEn := by
  unfold ContextKept
  rw [stored_transition]
  constructor
  · exact fun h => (h .intEn trivial).symm
  · rintro h r hr
    cases r with
    | intEn => exact h.symm
    | portDR | portDDR | intMask | intType | intPolarity => rfl
    | _ => exact hr.elim

/-- After a transition an interrupt is delivered as the reset value has it enabled. -/
theorem transition_delivers (bank : BankState) (raised : BitVec 32) :
    (bank.transition (layout.io status) reset).core.delivers raised
      = raised &&& reset .intEn &&& ~~~bank.core.stored .intMask := by
  unfold GpioCore.delivers
  rw [stored_transition]

/-! ## 4. The interrupt enable register over a run

The register is programmed by a start and by nothing else, so it has that value, or its reset value
once the power was lost, until the next start. -/

/-- **No callback programs the interrupt enable register.** -/
theorem Callback.run_intEn (c : Callback) (core : GpioCore) :
    (c.run (layout.io status) core).1.stored .intEn = core.stored .intEn := by
  rw [Callback.run_eq (layout.io_words status)]
  cases c with
  | enableInterrupt p =>
    simp only [Callback.run, rockchipGpioEnableInterrupt]
    split <;> rfl
  | disconnectIoPins pins preserve => cases preserve <;> rfl
  | _ => rfl

theorem Event.run_intEn (e : Event) (core : GpioCore) :
    (e.run (layout.io status) core).1.stored .intEn = core.stored .intEn := by
  cases e with
  | callback c => exact c.run_intEn core
  | hardware raised ext => rfl

theorem restore_intEn (bank : BankState) :
    (rockchipGpioRestoreBankHardwareContext (layout.io status) bank).core.stored .intEn
      = bank.core.stored .intEn := by
  rw [stored_restore]

/-- **A start programs it**, whether or not it restores the context. -/
theorem start_intEn (bank : BankState) (restoreContext : Bool) :
    (rockchipGpioStartController (layout.io status) bank restoreContext).core.stored .intEn
      = 0xffffffff := by
  cases restoreContext with
  | false =>
    simp only [rockchipGpioStartController, Bool.false_eq_true, if_false]
    rw [gpioWrite_intEn, Function.update_self]
  | true =>
    simp only [rockchipGpioStartController, if_true]
    rw [restore_intEn, gpioWrite_intEn, Function.update_self]

/-- Whether the registers were lost since the last start: what one event makes of it. -/
def BankEvent.lost (lost : Bool) : BankEvent → Bool
  | .start _ => false
  | .powerLost => true
  | _ => lost

/-- **The registers were lost since the last start.** -/
def lostSinceStart (events : List BankEvent) : Bool := events.foldl BankEvent.lost false

/-- The interrupt enable register after a start and what followed. -/
def intEnAfter (reset : GpioReg → BitVec 32) (lost : Bool) : BitVec 32 :=
  if lost then reset .intEn else 0xffffffff

/-- One event. -/
theorem BankEvent.run_intEn (e : BankEvent) {bank : BankState} {lost : Bool}
    (h : bank.core.stored .intEn = intEnAfter reset lost) :
    (e.run (layout.io status) reset bank).core.stored .intEn
      = intEnAfter reset (e.lost lost) := by
  cases e with
  | event e => exact (e.run_intEn bank.core).trans h
  | start restoreContext => exact start_intEn bank restoreContext
  | stop saveContext => cases saveContext <;> exact h
  | save => exact h
  | restore => exact (restore_intEn bank).trans h
  | powerLost => rfl

/-- **A run**: the register is what the last start made of it, or its reset value. -/
theorem runBank_intEn (events : List BankEvent) {bank : BankState} {lost : Bool}
    (h : bank.core.stored .intEn = intEnAfter reset lost) :
    (runBank (layout.io status) reset bank events).core.stored .intEn
      = intEnAfter reset (events.foldl BankEvent.lost lost) := by
  induction events generalizing bank lost with
  | nil => exact h
  | cons e events ih => exact ih (e.run_intEn h)

/-! ## 5. Transitions

So the condition can be said of the events: the register comes back right if its reset value is
what a start programs, or if it was lost before and not started again. -/

/-- **A transition keeps the context exactly when the interrupt enable register is reset to what
the start routine programs, or was lost before and not started again**: for every layout, every
bank that is started, and everything that happens to it before the transition.  Five registers are
saved and restored, so it is the sixth that decides, and its value depends only on whether a start
or a loss of power came last. -/
theorem context_kept_iff (layout : GpioLayout) (status : IntStatus)
    (reset : GpioReg → BitVec 32) (bank : BankState) (restoreContext : Bool)
    (events : List BankEvent) :
    ContextKept (runBank (layout.io status) reset bank (.start restoreContext :: events)).core
        ((runBank (layout.io status) reset bank (.start restoreContext :: events)).transition
          (layout.io status) reset).core
      ↔ reset .intEn = 0xffffffff ∨ lostSinceStart events = true := by
  have hrun : (runBank (layout.io status) reset bank
      (.start restoreContext :: events)).core.stored .intEn
        = intEnAfter reset (lostSinceStart events) :=
    runBank_intEn events (start_intEn bank restoreContext)
  rw [transition_keeps_iff, hrun]
  cases lostSinceStart events with
  | true => simp [intEnAfter]
  | false => simp [intEnAfter, eq_comm]

/-- A bank that is started and has pin 3 enabled as an interrupt; the reset values of its
registers are zero. -/
def interruptBank (layout : GpioLayout) : BankState :=
  runBank (layout.io GpioCore.pending) (fun _ => 0) ⟨⟨fun _ => 0, 0, 0⟩, ⟨0, 0, 0, 0, 0⟩⟩
    [.start false, .event (.callback (.enableInterrupt ⟨3, .levelSensitive, .activeLow⟩))]

/-- The same bank when its power is back. -/
def interruptBankBack (layout : GpioLayout) : BankState :=
  (interruptBank layout).transition (layout.io GpioCore.pending) fun _ => 0

/-- On either layout the interrupt is delivered before the transition and not after. -/
theorem context_not_kept :
    (¬ ContextKept (interruptBank .v1).core (interruptBankBack .v1).core
        ∧ (interruptBank .v1).core.delivers 8 = 8 ∧ (interruptBankBack .v1).core.delivers 8 = 0)
      ∧ ¬ ContextKept (interruptBank .v2).core (interruptBankBack .v2).core
        ∧ (interruptBank .v2).core.delivers 8 = 8
        ∧ (interruptBankBack .v2).core.delivers 8 = 0 := by
  refine ⟨⟨fun h => ?_, by decide, by decide⟩, fun h => ?_, by decide, by decide⟩
  · exact absurd (h .intEn trivial) (by decide)
  · exact absurd (h .intEn trivial) (by decide)

end WoaRk3576.Gpio
