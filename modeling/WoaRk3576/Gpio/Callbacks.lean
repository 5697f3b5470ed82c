/-
# The callbacks of rk3xgpio

The class extension drives a bank through these callbacks.  Each is a read-modify-write of up to
five registers, written here over the accesses of a bank (`GpioIo`), so that the same text runs on
either layout and on a bank whose registers are whole words.

* `Callback.run_eq`: on either layout a callback does what it does on whole words.
* `Callback.run_pin`: on whole words a callback is a function of each pin alone, `onPin`.
* `layouts_agree` is the result, over runs: the two layouts give the same replies and the same
  pins, and a callback changes no pin that it does not name.

The first two divide the work.  That the layouts agree is a matter of the helpers, which
`Registers.lean` has shown to read and write whole words; a callback is a sequence of such
accesses, so there is nothing about it to be proved but that it makes them one after the other.
What a callback is for is a matter of one bit in each register, and is proved where the registers
are words: a mask of one pin is what a pin has in common with a word, and the bits of the others
are kept by `&` and `|`.

A run begins with banks in whose registers the two layouts agree, whatever these hold.  The status
registers are the hardware's and may change before any callback; both layouts see the same change.
-/
import Mathlib.Order.Fin.Basic
import WoaRk3576.Gpio.Registers

namespace WoaRk3576.Gpio

/-! ## 1. The parameters

The callbacks reach a bank through three functions only, a read and a write of a register and a
plain read; these are parameters of a callback here.  There is one choice of them for each layout
and one for whole words. -/

/-- A pin of a bank; a bank has 32. -/
abbrev Pin := Fin 32

/-- `MASK(PIN)`. -/
def pinMask (pin : Pin) : BitVec 32 := 1#32 <<< pin.val

/-- `KINTERRUPT_MODE`. -/
inductive InterruptMode
  | levelSensitive
  | latched
  deriving DecidableEq, Repr

/-- `KINTERRUPT_POLARITY`. -/
inductive InterruptPolarity
  | polarityUnknown
  | activeHigh
  | activeLow
  | activeBoth
  | activeBothTriggerHigh
  deriving DecidableEq, Repr

/-- `GPIO_CONNECT_IO_PINS_MODE`. -/
inductive ConnectMode
  | invalid
  | input
  | output
  | maximum
  deriving DecidableEq, Repr

/-- The pin and the trigger of an enable or a reconfigure request. -/
structure InterruptParameters where
  pinNumber : Pin
  interruptMode : InterruptMode
  polarity : InterruptPolarity

inductive GpioStatus
  | success
  | notSupported
  deriving DecidableEq, Repr

/-- What a callback returns: its status, and the mask that it writes to its parameters. -/
structure GpioReply where
  status : GpioStatus
  mask : Option (BitVec 64)
  deriving DecidableEq

def GpioReply.success : GpioReply := ⟨.success, none⟩

/-- The accesses to a bank, by register: `gpio_read32`, `gpio_write32`, and the plain `read32`. -/
structure GpioIo where
  gpioRead : GpioCore → GpioReg → BitVec 32
  gpioWrite : GpioCore → GpioReg → BitVec 32 → GpioCore
  read : GpioCore → GpioReg → BitVec 32

/-- The accesses on a layout, at the offsets in `GpioBank->Registers`. -/
def GpioLayout.io (layout : GpioLayout) (status : IntStatus) : GpioIo where
  gpioRead core r := gpio_read32 layout.bank layout status core (layout.bank.registers r)
  gpioWrite core r val := gpio_write32 layout.bank layout core (layout.bank.registers r) val
  read core r := busRead layout status core (layout.bank.registers r)

/-- The accesses on a bank whose registers are whole words. -/
def wordIo (status : IntStatus) : GpioIo where
  gpioRead core r := core.read status r
  gpioWrite core r val := core.write r (BitVec.allOnes 32) val
  read core r := core.read status r

/-! ## 2. The callbacks

As the source has them, access by access.  Several differ in small ways that matter to a pin: which
of them clears the status first, or checks the polarity, or changes the mask. -/

/-- The mode register: the bit is clear for a level-triggered interrupt. -/
def typeValue (p : InterruptParameters) (pinValue : BitVec 32) : BitVec 32 :=
  if p.interruptMode = .levelSensitive then pinValue &&& ~~~pinMask p.pinNumber
  else pinValue ||| pinMask p.pinNumber

/-- The polarity register; a polarity that is neither high nor low leaves it as it is. -/
def polarityValue (p : InterruptParameters) (pinValue : BitVec 32) : BitVec 32 :=
  match p.polarity with
  | .activeHigh => pinValue ||| pinMask p.pinNumber
  | .activeLow => pinValue &&& ~~~pinMask p.pinNumber
  | _ => pinValue

/-- The direction register with a pin connected. -/
def connectValue (mode : ConnectMode) (pin : Pin) (pinValue : BitVec 32) : BitVec 32 :=
  match mode with
  | .input => pinValue &&& ~~~pinMask pin
  | .output => pinValue ||| pinMask pin
  | _ => pinValue

section Callbacks

variable (io : GpioIo) (core : GpioCore)

/-- The direction register with the pin as an input. -/
def setInput (pin : Pin) : GpioCore :=
  io.gpioWrite core .portDDR (io.gpioRead core .portDDR &&& ~~~pinMask pin)

def setType (p : InterruptParameters) : GpioCore :=
  io.gpioWrite core .intType (typeValue p (io.gpioRead core .intType))

def setPolarity (p : InterruptParameters) : GpioCore :=
  io.gpioWrite core .intPolarity (polarityValue p (io.gpioRead core .intPolarity))

/-- Clear a pin's bit in the mask register. -/
def clearMask (pin : Pin) : GpioCore :=
  io.gpioWrite core .intMask (io.gpioRead core .intMask &&& ~~~pinMask pin)

def rockchipGpioEnableInterrupt (p : InterruptParameters) : GpioCore × GpioReply :=
  if p.polarity ≠ .activeHigh ∧ p.polarity ≠ .activeLow then
    (core, ⟨.notSupported, none⟩)
  else
    let core := setInput io core p.pinNumber
    let core := setType io core p
    let core := setPolarity io core p
    let core := io.gpioWrite core .portEOI (pinMask p.pinNumber)
    let core := clearMask io core p.pinNumber
    (core, .success)

def rockchipGpioDisableInterrupt (pin : Pin) : GpioCore × GpioReply :=
  (io.gpioWrite core .intMask (io.gpioRead core .intMask ||| pinMask pin), .success)

/-- The mask of pins has 64 bits, of which a bank has the low 32. -/
def rockchipGpioMaskInterrupts (mask : BitVec 64) : GpioCore × GpioReply :=
  (io.gpioWrite core .intMask (io.gpioRead core .intMask ||| mask.setWidth 32),
    ⟨.success, some 0⟩)

def rockchipGpioUnmaskInterrupt (pin : Pin) : GpioCore × GpioReply :=
  (clearMask io core pin, .success)

def rockchipGpioQueryActiveInterrupts : GpioCore × GpioReply :=
  (core, ⟨.success, some ((io.gpioRead core .intStatus).setWidth 64)⟩)

def rockchipGpioQueryEnabledInterrupts : GpioCore × GpioReply :=
  (core, ⟨.success, some ((~~~io.gpioRead core .intMask).setWidth 64)⟩)

def rockchipGpioClearActiveInterrupts (mask : BitVec 64) : GpioCore × GpioReply :=
  (io.gpioWrite core .portEOI (mask.setWidth 32), ⟨.success, some 0⟩)

/-- Unlike the enable callback this one clears the status first, takes any polarity and leaves
the mask alone. -/
def rockchipGpioReconfigureInterrupt (p : InterruptParameters) : GpioCore × GpioReply :=
  let core := io.gpioWrite core .portEOI (pinMask p.pinNumber)
  let core := setInput io core p.pinNumber
  let core := setType io core p
  let core := setPolarity io core p
  (core, .success)

/-- The loop over `PinNumberTable` in the connect callback. -/
def connectLoop (mode : ConnectMode) : List Pin → BitVec 32 → BitVec 32
  | [], pinValue => pinValue
  | pin :: pins, pinValue =>
    connectLoop mode pins (connectValue mode pin pinValue)

def rockchipGpioConnectIoPins (pinNumberTable : List Pin) (mode : ConnectMode) :
    GpioCore × GpioReply :=
  (io.gpioWrite core .portDDR (connectLoop mode pinNumberTable (io.gpioRead core .portDDR)),
    .success)

/-- The loop of the disconnect callback: the direction and the output value. -/
def disconnectLoop : List Pin → BitVec 32 × BitVec 32 → BitVec 32 × BitVec 32
  | [], values => values
  | pin :: pins, (pinValue, outValue) =>
    disconnectLoop pins (pinValue ||| pinMask pin, outValue &&& ~~~pinMask pin)

def rockchipGpioDisconnectIoPins (pinNumberTable : List Pin) (preserveConfiguration : Bool) :
    GpioCore × GpioReply :=
  if preserveConfiguration then (core, .success)
  else
    let pinValue := io.gpioRead core .portDDR
    let outValue := io.gpioRead core .portDR
    let (pinValue, outValue) := disconnectLoop pinNumberTable (pinValue, outValue)
    let core := io.gpioWrite core .portDR outValue
    let core := io.gpioWrite core .portDDR pinValue
    (core, .success)

def rockchipGpioReadGpioPins (writeConfiguredPins : Bool) : GpioCore × GpioReply :=
  let pinValue := if writeConfiguredPins then io.gpioRead core .portDR else io.read core .extPort
  (core, ⟨.success, some (pinValue.setWidth 64)⟩)

/-- The masks have 64 bits; what is written is cut to 32. -/
def rockchipGpioWriteGpioPins (setMask clearMask : BitVec 64) : GpioCore × GpioReply :=
  let pinValue := io.gpioRead core .portDR
  let pinValue := ((pinValue.setWidth 64 ||| setMask).setWidth 32 : BitVec 32)
  let pinValue := ((pinValue.setWidth 64 &&& ~~~clearMask).setWidth 32 : BitVec 32)
  (io.gpioWrite core .portDR pinValue, .success)

end Callbacks

/-- A call of the class extension, with its parameters. -/
inductive Callback
  | enableInterrupt (p : InterruptParameters)
  | disableInterrupt (pin : Pin)
  | maskInterrupts (mask : BitVec 64)
  | unmaskInterrupt (pin : Pin)
  | queryActiveInterrupts
  | queryEnabledInterrupts
  | clearActiveInterrupts (mask : BitVec 64)
  | reconfigureInterrupt (p : InterruptParameters)
  | connectIoPins (pinNumberTable : List Pin) (mode : ConnectMode)
  | disconnectIoPins (pinNumberTable : List Pin) (preserveConfiguration : Bool)
  | readGpioPins (writeConfiguredPins : Bool)
  | writeGpioPins (setMask clearMask : BitVec 64)

def Callback.run (io : GpioIo) (core : GpioCore) : Callback → GpioCore × GpioReply
  | .enableInterrupt p => rockchipGpioEnableInterrupt io core p
  | .disableInterrupt pin => rockchipGpioDisableInterrupt io core pin
  | .maskInterrupts mask => rockchipGpioMaskInterrupts io core mask
  | .unmaskInterrupt pin => rockchipGpioUnmaskInterrupt io core pin
  | .queryActiveInterrupts => rockchipGpioQueryActiveInterrupts io core
  | .queryEnabledInterrupts => rockchipGpioQueryEnabledInterrupts io core
  | .clearActiveInterrupts mask => rockchipGpioClearActiveInterrupts io core mask
  | .reconfigureInterrupt p => rockchipGpioReconfigureInterrupt io core p
  | .connectIoPins pins mode => rockchipGpioConnectIoPins io core pins mode
  | .disconnectIoPins pins preserve => rockchipGpioDisconnectIoPins io core pins preserve
  | .readGpioPins configured => rockchipGpioReadGpioPins io core configured
  | .writeGpioPins set clear => rockchipGpioWriteGpioPins io core set clear

/-! ## 3. The layouts give the same accesses

A callback sees its bank only through the accesses, so accesses that give the same contents and
values give the same callback. -/

/-- Accesses that see whole words where the callbacks read and write. -/
structure GpioIo.Words (io : GpioIo) (status : IntStatus) : Prop where
  gpioRead : ∀ {r : GpioReg}, r.Read → ∀ core : GpioCore, io.gpioRead core r = core.read status r
  gpioWrite : ∀ {r : GpioReg}, r.Written → ∀ (core : GpioCore) (val : BitVec 32),
    io.gpioWrite core r val = core.write r (BitVec.allOnes 32) val
  read : ∀ core : GpioCore, io.read core .extPort = core.ext

theorem GpioLayout.io_words (layout : GpioLayout) (status : IntStatus) :
    (layout.io status).Words status where
  gpioRead := fun hr core => gpio_read32_eq layout status hr core
  gpioWrite := fun hr core val => gpio_write32_eq layout hr core val
  read := fun core => by cases layout <;> rfl

/-- **On either layout a callback does what it does on whole words.** -/
theorem Callback.run_eq {io : GpioIo} {status : IntStatus} (h : io.Words status) (core : GpioCore)
    (c : Callback) : c.run io core = c.run (wordIo status) core := by
  have hDDR : ∀ core : GpioCore, io.gpioRead core .portDDR = core.read status .portDDR :=
    h.gpioRead trivial
  have hDR : ∀ core : GpioCore, io.gpioRead core .portDR = core.read status .portDR :=
    h.gpioRead trivial
  have hMask : ∀ core : GpioCore, io.gpioRead core .intMask = core.read status .intMask :=
    h.gpioRead trivial
  have hinput : setInput io = setInput (wordIo status) := by
    funext core pin
    unfold setInput
    rw [hDDR, h.gpioWrite (r := .portDDR) trivial]
    rfl
  have htype : setType io = setType (wordIo status) := by
    funext core p
    unfold setType
    rw [h.gpioRead (r := .intType) trivial, h.gpioWrite (r := .intType) trivial]
    rfl
  have hpolarity : setPolarity io = setPolarity (wordIo status) := by
    funext core p
    unfold setPolarity
    rw [h.gpioRead (r := .intPolarity) trivial, h.gpioWrite (r := .intPolarity) trivial]
    rfl
  have hclear : clearMask io = clearMask (wordIo status) := by
    funext core pin
    unfold clearMask
    rw [hMask, h.gpioWrite (r := .intMask) trivial]
    rfl
  cases c with
  | enableInterrupt p =>
    simp only [Callback.run, rockchipGpioEnableInterrupt, hinput, htype, hpolarity, hclear,
      h.gpioWrite (r := .portEOI) trivial]
    rfl
  | disableInterrupt pin =>
    simp only [Callback.run, rockchipGpioDisableInterrupt, hMask,
      h.gpioWrite (r := .intMask) trivial]
    rfl
  | maskInterrupts mask =>
    simp only [Callback.run, rockchipGpioMaskInterrupts, hMask,
      h.gpioWrite (r := .intMask) trivial]
    rfl
  | unmaskInterrupt pin => simp only [Callback.run, rockchipGpioUnmaskInterrupt, hclear]
  | queryActiveInterrupts =>
    simp only [Callback.run, rockchipGpioQueryActiveInterrupts,
      h.gpioRead (r := .intStatus) trivial]
    rfl
  | queryEnabledInterrupts =>
    simp only [Callback.run, rockchipGpioQueryEnabledInterrupts, hMask]
    rfl
  | clearActiveInterrupts mask =>
    simp only [Callback.run, rockchipGpioClearActiveInterrupts,
      h.gpioWrite (r := .portEOI) trivial]
    rfl
  | reconfigureInterrupt p =>
    simp only [Callback.run, rockchipGpioReconfigureInterrupt, hinput, htype, hpolarity,
      h.gpioWrite (r := .portEOI) trivial]
    rfl
  | connectIoPins pins mode =>
    simp only [Callback.run, rockchipGpioConnectIoPins, hDDR, h.gpioWrite (r := .portDDR) trivial]
    rfl
  | disconnectIoPins pins preserve =>
    simp only [Callback.run, rockchipGpioDisconnectIoPins, hDDR, hDR,
      h.gpioWrite (r := .portDR) trivial, h.gpioWrite (r := .portDDR) trivial]
    rfl
  | readGpioPins configured =>
    simp only [Callback.run, rockchipGpioReadGpioPins, hDR, h.read]
    rfl
  | writeGpioPins set clear =>
    simp only [Callback.run, rockchipGpioWriteGpioPins, hDR, h.gpioWrite (r := .portDR) trivial]
    rfl

/-! ## 4. What a callback does to a pin

Every register has one bit for a pin, and every operation works bit by bit.  So a callback comes
down to a function of the attributes of one pin (`onPin`), and a pin that it does not name keeps
its own. -/

/-- The attributes of a pin: output or input, the level it drives, edge or level trigger, active
high or low, enabled as an interrupt, and masked. -/
@[ext]
structure PinState where
  direction : Bool
  level : Bool
  type : Bool
  polarity : Bool
  enable : Bool
  mask : Bool
  deriving DecidableEq, Repr

def GpioCore.pin (core : GpioCore) (q : Pin) : PinState where
  direction := (core.stored .portDDR).getLsbD q
  level := (core.stored .portDR).getLsbD q
  type := (core.stored .intType).getLsbD q
  polarity := (core.stored .intPolarity).getLsbD q
  enable := (core.stored .intEn).getLsbD q
  mask := (core.stored .intMask).getLsbD q

/-- The polarity that a trigger gives a pin that has `polarity`. -/
def InterruptParameters.polarityOf (p : InterruptParameters) (polarity : Bool) : Bool :=
  match p.polarity with
  | .activeHigh => true
  | .activeLow => false
  | _ => polarity

/-- The direction that a connection gives a pin that has `direction`. -/
def ConnectMode.directionOf (mode : ConnectMode) (direction : Bool) : Bool :=
  match mode with
  | .input => false
  | .output => true
  | _ => direction

/-- A pin whose trigger has been set. -/
def PinState.trigger (s : PinState) (p : InterruptParameters) : PinState :=
  { s with
    direction := false
    type := decide (p.interruptMode ≠ .levelSensitive)
    polarity := p.polarityOf s.polarity }

/-- **What a callback is for**: its effect on a pin, which no other pin enters. -/
def Callback.onPin (c : Callback) (q : Pin) (s : PinState) : PinState :=
  match c with
  | .enableInterrupt p =>
    if (p.polarity = .activeHigh ∨ p.polarity = .activeLow) ∧ q = p.pinNumber then
      { s.trigger p with mask := false }
    else s
  | .disableInterrupt pin => if q = pin then { s with mask := true } else s
  | .maskInterrupts mask => if mask.getLsbD q then { s with mask := true } else s
  | .unmaskInterrupt pin => if q = pin then { s with mask := false } else s
  | .queryActiveInterrupts | .queryEnabledInterrupts | .clearActiveInterrupts _ => s
  | .reconfigureInterrupt p => if q = p.pinNumber then s.trigger p else s
  | .connectIoPins pins mode =>
    if q ∈ pins then { s with direction := mode.directionOf s.direction } else s
  | .disconnectIoPins pins preserve =>
    if preserve = false ∧ q ∈ pins then { s with direction := true, level := false } else s
  | .readGpioPins _ => s
  | .writeGpioPins set clear =>
    { s with level := (s.level || set.getLsbD q) && !clear.getLsbD q }

/-- The pins that a callback names. -/
def Callback.Names (c : Callback) (q : Pin) : Prop :=
  match c with
  | .enableInterrupt p | .reconfigureInterrupt p => q = p.pinNumber
  | .disableInterrupt pin | .unmaskInterrupt pin => q = pin
  | .maskInterrupts mask | .clearActiveInterrupts mask => mask.getLsbD q = true
  | .connectIoPins pins _ | .disconnectIoPins pins _ => q ∈ pins
  | .queryActiveInterrupts | .queryEnabledInterrupts | .readGpioPins _ => False
  | .writeGpioPins set clear => set.getLsbD q = true ∨ clear.getLsbD q = true

theorem Callback.onPin_eq_self {c : Callback} {q : Pin} (h : ¬ c.Names q) (s : PinState) :
    c.onPin q s = s := by
  cases c with
  | enableInterrupt p => exact if_neg fun hq => h hq.2
  | disableInterrupt pin | unmaskInterrupt pin => exact if_neg h
  | maskInterrupts mask => exact if_neg h
  | queryActiveInterrupts | queryEnabledInterrupts | clearActiveInterrupts mask => rfl
  | reconfigureInterrupt p => exact if_neg h
  | connectIoPins pins mode => exact if_neg h
  | disconnectIoPins pins preserve => exact if_neg fun hq => h hq.2
  | readGpioPins configured => rfl
  | writeGpioPins set clear =>
    obtain ⟨hset, hclear⟩ := not_or.1 h
    simp [Callback.onPin, hset, hclear]

theorem getLsbD_pinMask (pin q : Pin) : (pinMask pin).getLsbD q = decide (q = pin) := by
  unfold pinMask
  rw [← BitVec.twoPow_eq, BitVec.getLsbD_twoPow]
  by_cases hq : q = pin
  · simp [hq]
  · have hval : pin.val ≠ q.val := fun h => hq (Fin.ext h.symm)
    simp [hq, hval]

theorem getLsbD_set (x : BitVec 32) (pin q : Pin) :
    (x ||| pinMask pin).getLsbD q = if q = pin then true else x.getLsbD q := by
  rw [BitVec.getLsbD_or, getLsbD_pinMask]
  by_cases hq : q = pin
  · simp [hq]
  · simp [hq]

theorem getLsbD_clear (x : BitVec 32) (pin q : Pin) :
    (x &&& ~~~pinMask pin).getLsbD q = if q = pin then false else x.getLsbD q := by
  rw [BitVec.getLsbD_and, BitVec.getLsbD_not, getLsbD_pinMask]
  by_cases hq : q = pin
  · simp [hq]
  · simp [hq, q.isLt]

/-- A register that holds what is written to it. -/
theorem stored_write {r : GpioReg} (hr : r.Written) (hne : r ≠ .portEOI) (core : GpioCore)
    (val : BitVec 32) :
    (core.write r (BitVec.allOnes 32) val).stored = Function.update core.stored r val := by
  cases r with
  | portEOI => exact absurd rfl hne
  | portDR | portDDR | intMask | intType | intPolarity =>
    exact congrArg (Function.update core.stored _) (merge_whole _ val)
  | _ => exact hr.elim

@[simp]
theorem pin_write_portDDR (core : GpioCore) (val : BitVec 32) (q : Pin) :
    (core.write .portDDR (BitVec.allOnes 32) val).pin q
      = { core.pin q with direction := val.getLsbD q } := by
  unfold GpioCore.pin
  rw [stored_write (r := .portDDR) trivial (by decide)]
  rfl

@[simp]
theorem pin_write_portDR (core : GpioCore) (val : BitVec 32) (q : Pin) :
    (core.write .portDR (BitVec.allOnes 32) val).pin q
      = { core.pin q with level := val.getLsbD q } := by
  unfold GpioCore.pin
  rw [stored_write (r := .portDR) trivial (by decide)]
  rfl

@[simp]
theorem pin_write_intType (core : GpioCore) (val : BitVec 32) (q : Pin) :
    (core.write .intType (BitVec.allOnes 32) val).pin q
      = { core.pin q with type := val.getLsbD q } := by
  unfold GpioCore.pin
  rw [stored_write (r := .intType) trivial (by decide)]
  rfl

@[simp]
theorem pin_write_intPolarity (core : GpioCore) (val : BitVec 32) (q : Pin) :
    (core.write .intPolarity (BitVec.allOnes 32) val).pin q
      = { core.pin q with polarity := val.getLsbD q } := by
  unfold GpioCore.pin
  rw [stored_write (r := .intPolarity) trivial (by decide)]
  rfl

@[simp]
theorem pin_write_intMask (core : GpioCore) (val : BitVec 32) (q : Pin) :
    (core.write .intMask (BitVec.allOnes 32) val).pin q
      = { core.pin q with mask := val.getLsbD q } := by
  unfold GpioCore.pin
  rw [stored_write (r := .intMask) trivial (by decide)]
  rfl

/-- The end of an interrupt is no attribute of a pin. -/
@[simp]
theorem pin_write_portEOI (core : GpioCore) (mask val : BitVec 32) (q : Pin) :
    (core.write .portEOI mask val).pin q = core.pin q := rfl

variable (status : IntStatus) (core : GpioCore) (q : Pin)

theorem pin_setInput (pin : Pin) :
    (setInput (wordIo status) core pin).pin q
      = if q = pin then { core.pin q with direction := false } else core.pin q := by
  have h : (core.stored .portDDR &&& ~~~pinMask pin).getLsbD q
      = if q = pin then false else (core.pin q).direction := getLsbD_clear _ pin q
  show (core.write .portDDR _ (core.stored .portDDR &&& ~~~pinMask pin)).pin q = _
  rw [pin_write_portDDR, h]
  split
  · rfl
  · rfl

theorem pin_setType (p : InterruptParameters) :
    (setType (wordIo status) core p).pin q
      = if q = p.pinNumber then
          { core.pin q with type := decide (p.interruptMode ≠ .levelSensitive) }
        else core.pin q := by
  have h : (typeValue p (core.stored .intType)).getLsbD q
      = if q = p.pinNumber then decide (p.interruptMode ≠ .levelSensitive)
        else (core.pin q).type := by
    unfold typeValue
    cases p.interruptMode with
    | levelSensitive => exact getLsbD_clear _ _ q
    | latched => exact getLsbD_set _ _ q
  show (core.write .intType _ (typeValue p (core.stored .intType))).pin q = _
  rw [pin_write_intType, h]
  split
  · rfl
  · rfl

theorem pin_setPolarity (p : InterruptParameters) :
    (setPolarity (wordIo status) core p).pin q
      = if q = p.pinNumber then
          { core.pin q with polarity := p.polarityOf (core.pin q).polarity }
        else core.pin q := by
  have h : (polarityValue p (core.stored .intPolarity)).getLsbD q
      = if q = p.pinNumber then p.polarityOf (core.pin q).polarity
        else (core.pin q).polarity := by
    unfold polarityValue InterruptParameters.polarityOf
    cases p.polarity with
    | activeHigh => exact getLsbD_set _ _ q
    | activeLow => exact getLsbD_clear _ _ q
    | polarityUnknown | activeBoth | activeBothTriggerHigh => exact (ite_self _).symm
  show (core.write .intPolarity _ (polarityValue p (core.stored .intPolarity))).pin q = _
  rw [pin_write_intPolarity, h]
  split
  · rfl
  · rfl

theorem pin_clearMask (pin : Pin) :
    (clearMask (wordIo status) core pin).pin q
      = if q = pin then { core.pin q with mask := false } else core.pin q := by
  have h : (core.stored .intMask &&& ~~~pinMask pin).getLsbD q
      = if q = pin then false else (core.pin q).mask := getLsbD_clear _ pin q
  show (core.write .intMask _ (core.stored .intMask &&& ~~~pinMask pin)).pin q = _
  rw [pin_write_intMask, h]
  split
  · rfl
  · rfl

/-- The three registers of a trigger. -/
theorem pin_trigger (p : InterruptParameters) :
    (setPolarity (wordIo status) (setType (wordIo status) (setInput (wordIo status) core
      p.pinNumber) p) p).pin q
      = if q = p.pinNumber then (core.pin q).trigger p else core.pin q := by
  rw [pin_setPolarity, pin_setType, pin_setInput]
  by_cases hq : q = p.pinNumber
  · simp [hq, PinState.trigger]
  · simp [hq]

theorem getLsbD_connectValue (mode : ConnectMode) (pin : Pin) (x : BitVec 32) :
    (connectValue mode pin x).getLsbD q
      = if q = pin then mode.directionOf (x.getLsbD q) else x.getLsbD q := by
  cases mode with
  | input => exact getLsbD_clear x pin q
  | output => exact getLsbD_set x pin q
  | invalid | maximum => exact (ite_self _).symm

theorem directionOf_idem (mode : ConnectMode) (direction : Bool) :
    mode.directionOf (mode.directionOf direction) = mode.directionOf direction := by
  cases mode <;> rfl

theorem getLsbD_connectLoop (mode : ConnectMode) (pins : List Pin) (x : BitVec 32) :
    (connectLoop mode pins x).getLsbD q
      = if q ∈ pins then mode.directionOf (x.getLsbD q) else x.getLsbD q := by
  induction pins generalizing x with
  | nil => rfl
  | cons pin pins ih =>
    rw [connectLoop, ih, getLsbD_connectValue]
    by_cases hq : q = pin
    · simp [hq, directionOf_idem]
    · simp [hq]

theorem getLsbD_disconnectLoop (pins : List Pin) (values : BitVec 32 × BitVec 32) :
    (disconnectLoop pins values).1.getLsbD q
        = (if q ∈ pins then true else values.1.getLsbD q)
      ∧ (disconnectLoop pins values).2.getLsbD q
        = (if q ∈ pins then false else values.2.getLsbD q) := by
  induction pins generalizing values with
  | nil => exact ⟨rfl, rfl⟩
  | cons pin pins ih =>
    obtain ⟨pinValue, outValue⟩ := values
    rw [disconnectLoop, (ih _).1, (ih _).2, getLsbD_set, getLsbD_clear]
    by_cases hq : q = pin
    · simp [hq]
    · simp [hq]

/-- **A callback is a function of each pin alone.** -/
theorem Callback.run_pin (c : Callback) :
    (c.run (wordIo status) core).1.pin q = c.onPin q (core.pin q) := by
  cases c with
  | enableInterrupt p =>
    simp only [Callback.run, rockchipGpioEnableInterrupt, Callback.onPin]
    by_cases hp : p.polarity ≠ .activeHigh ∧ p.polarity ≠ .activeLow
    · have hno : ¬ (p.polarity = .activeHigh ∨ p.polarity = .activeLow) := not_or.2 hp
      rw [if_pos hp, if_neg fun h => hno h.1]
    · have hyes : p.polarity = .activeHigh ∨ p.polarity = .activeLow := by
        by_contra hno
        exact hp (not_or.1 hno)
      rw [if_neg hp]
      show (clearMask (wordIo status) (GpioCore.write _ .portEOI _ _) p.pinNumber).pin q = _
      rw [pin_clearMask, pin_write_portEOI, pin_trigger]
      by_cases hq : q = p.pinNumber
      · simp [hq, hyes]
      · simp [hq]
  | disableInterrupt pin =>
    show (core.write .intMask _ (core.stored .intMask ||| pinMask pin)).pin q = _
    rw [pin_write_intMask, getLsbD_set]
    simp only [Callback.onPin]
    split
    · rfl
    · rfl
  | maskInterrupts mask =>
    show (core.write .intMask _ (core.stored .intMask ||| mask.setWidth 32)).pin q = _
    rw [pin_write_intMask, BitVec.getLsbD_or, BitVec.getLsbD_setWidth]
    simp only [Callback.onPin]
    by_cases hq : mask.getLsbD q
    · simp [hq, q.isLt]
    · simp [hq]
      rfl
  | unmaskInterrupt pin => exact pin_clearMask status core q pin
  | queryActiveInterrupts | queryEnabledInterrupts | clearActiveInterrupts mask => rfl
  | reconfigureInterrupt p =>
    exact pin_trigger status (core.write .portEOI (BitVec.allOnes 32) (pinMask p.pinNumber)) q p
  | connectIoPins pins mode =>
    show (core.write .portDDR _ (connectLoop mode pins (core.stored .portDDR))).pin q = _
    rw [pin_write_portDDR, getLsbD_connectLoop]
    simp only [Callback.onPin]
    by_cases hq : q ∈ pins
    · rw [if_pos hq, if_pos hq]
      cases mode <;> rfl
    · rw [if_neg hq, if_neg hq]
      rfl
  | disconnectIoPins pins preserve =>
    cases preserve with
    | true => simp [Callback.run, rockchipGpioDisconnectIoPins, Callback.onPin]
    | false =>
      show ((core.write .portDR _ (disconnectLoop pins _).2).write .portDDR _
        (disconnectLoop pins (core.stored .portDDR, core.stored .portDR)).1).pin q = _
      rw [pin_write_portDDR, pin_write_portDR, (getLsbD_disconnectLoop q pins _).1,
        (getLsbD_disconnectLoop q pins _).2]
      simp only [Callback.onPin]
      by_cases hq : q ∈ pins
      · simp [hq]
      · simp [hq]
        rfl
  | readGpioPins configured => rfl
  | writeGpioPins set clear =>
    show (core.write .portDR _ _).pin q = _
    rw [pin_write_portDR]
    simp only [Callback.onPin, BitVec.getLsbD_setWidth, BitVec.getLsbD_and, BitVec.getLsbD_or,
      BitVec.getLsbD_not]
    have hlt : q.val < 64 := by omega
    simp [q.isLt, hlt]
    rfl

/-! ## 5. Runs

Hardware events are the same on both layouts, so the agreement carries over to sequences of both. -/

/-- What happens to a bank: a callback, or pins and interrupts of the hardware. -/
inductive Event
  | callback (c : Callback)
  | hardware (raised ext : BitVec 32)

/-- An event and the replies so far. -/
def Event.run (io : GpioIo) : Event → GpioCore → GpioCore × List GpioReply
  | .callback c, core => ((c.run io core).1, [(c.run io core).2])
  | .hardware raised ext, core => ({ core with pending := core.pending ||| raised, ext }, [])

/-- A sequence of events: the contents at its end, and the replies in order. -/
def runEvents (io : GpioIo) : List Event → GpioCore → GpioCore × List GpioReply
  | [], core => (core, [])
  | e :: es, core =>
    let (core, replies) := e.run io core
    let (core, rest) := runEvents io es core
    (core, replies ++ rest)

theorem Event.run_eq {io : GpioIo} {status : IntStatus} (h : io.Words status) (e : Event)
    (core : GpioCore) : e.run io core = e.run (wordIo status) core := by
  cases e with
  | callback c => rw [Event.run, Event.run, Callback.run_eq h]
  | hardware raised ext => rfl

/-- **A run on a layout is a run on whole words.** -/
theorem runEvents_eq {io : GpioIo} {status : IntStatus} (h : io.Words status) (es : List Event)
    (core : GpioCore) : runEvents io es core = runEvents (wordIo status) es core := by
  induction es generalizing core with
  | nil => rfl
  | cons e es ih => simp only [runEvents, Event.run_eq h, ih]

/-- **The two layouts agree.**  From any contents, and for any sequence of callbacks with any
hardware between them, the second layout gives the replies and leaves every pin as the first
does; on each layout a single callback changes no pin that it does not name. -/
theorem layouts_agree (status : IntStatus) :
    (∀ (es : List Event) (core : GpioCore),
      (runEvents (GpioLayout.v2.io status) es core).2
          = (runEvents (GpioLayout.v1.io status) es core).2
        ∧ ∀ q, (runEvents (GpioLayout.v2.io status) es core).1.pin q
          = (runEvents (GpioLayout.v1.io status) es core).1.pin q)
      ∧ ∀ (layout : GpioLayout) (c : Callback) (core : GpioCore) (q : Pin), ¬ c.Names q →
        (c.run (layout.io status) core).1.pin q = core.pin q := by
  constructor
  · intro es core
    have heq : runEvents (GpioLayout.v2.io status) es core
        = runEvents (GpioLayout.v1.io status) es core := by
      rw [runEvents_eq (GpioLayout.v2.io_words status),
        runEvents_eq (GpioLayout.v1.io_words status)]
    rw [heq]
    exact ⟨rfl, fun _ => rfl⟩
  · intro layout c core q hq
    rw [Callback.run_eq (layout.io_words status), Callback.run_pin, Callback.onPin_eq_self hq]

/-- Pin 3 enabled on a bank of the second layout that holds ones: pin 20 stays an output. -/
theorem layouts_agree_of_enable :
    ((Callback.enableInterrupt ⟨3, .levelSensitive, .activeLow⟩).run
        (GpioLayout.v2.io GpioCore.pending) ⟨fun _ => BitVec.allOnes 32, 0, 0⟩).1.pin 20
      = (⟨fun _ => BitVec.allOnes 32, 0, 0⟩ : GpioCore).pin 20 :=
  (layouts_agree GpioCore.pending).2 .v2 _ _ 20 (by
    show ¬ (20 : Pin) = 3
    decide)

end WoaRk3576.Gpio
