/-
# Interrupt delivery of dwc_eqos

`DeviceInterruptIsr`, `DeviceInterruptDpc` and `DeviceSetNotification*Queue`.

The device sets bits of `Dma_Ch[0].Status`.  The ISR acknowledges what it read, masks all
interrupts and leaves the bits in `interruptStatus`, which the DPC takes out in a loop; the DPC
notifies the queue whose pointer is set, clears the pointer and enables the interrupts again.
Arming a notification sets the pointer (under `queueLock`) and then wants the interrupt (under the
interrupt lock).

Every access another processor can come between is a step of its own: the ISR has five, an
iteration of the DPC three, `DeviceSetNotification*Queue` two.  The interrupt lock is the program
counter of the ISR: whoever else needs the lock waits until the ISR is `idle`.  A DPC object may be
queued again while it runs, so there may be any number of running DPCs.

The receive and the transmit side differ in the bit they use (`QueueKind.bit`) and are one
definition.

`interrupt_not_lost` is the result: a completion raised while the notification of its queue is
armed is in the status register with its interrupt enabled, or on its way to the DPC with the queue
pointer set, until the queue is notified or the notification is disabled.

The invariant is about each bit by itself (`InterruptInv`).  A bit that was raised is in the status
register or in a copy of it (`Held`): the ISR takes it out of the register into a local variable,
from there into `interruptStatus`, and a DPC from there into its own; each hands it on before it
forgets it.  An armed notification has its pointer, and its interrupt is wanted unless the bit is
held already, since the ISR stops wanting just the interrupts that it found.  And the enable
register is what is wanted or nothing, the latter only while a DPC is yet to write it: whoever
masks all interrupts has a DPC queued behind it.

Where the pointer is set and the interrupt is not yet wanted, between the two steps of arming, an
event may be held by a DPC that finds the pointer and notifies; so a notification is never too
late, but may come before the call has returned.

`LinkInterrupts.lean` shows that the ISR and the DPC of `LinkState.lean` are these.
-/
import WoaRk3576.Lib.Transition

namespace WoaRk3576.Net

open WoaRk3576.Lib

/-! ## 1. Registers and flags

Two words say which interrupts there are: `InterruptsWanted` is the driver's own, with a flag for
each queue, and the enable registers are the device's.  The second is computed from the first
wherever it is written (`DeviceInterruptSet_Locked`), so for each queue its bit of the register is
its flag. -/

/-- The two packet queues. -/
inductive QueueKind
  | rx
  | tx
  deriving DecidableEq, Repr

/-- The bit of the queue in `ChannelStatus_t` and `ChannelInterruptEnable_t`. -/
def QueueKind.bit : QueueKind → Nat
  | .rx => 6
  | .tx => 0

/-- `InterruptsWanted`. -/
abbrev InterruptsWanted := BitVec 8

def interruptsNone : InterruptsWanted := 0

def interruptsState : InterruptsWanted := 1

/-- `InterruptsRx` and `InterruptsTx`. -/
def QueueKind.interrupts : QueueKind → InterruptsWanted
  | .rx => 2
  | .tx => 4

/-- `InterruptLinkStatus`. -/
def interruptLinkStatus : BitVec 32 := 0x80000000

/-- `InterruptChannel0StatusMask`. -/
def interruptChannel0StatusMask : BitVec 32 := ~~~interruptLinkStatus

/-- The bit of a queue is set. -/
def QueueKind.isSet (k : QueueKind) (status : BitVec 32) : Bool := status.getLsbD k.bit

/-- The flag of a queue is set. -/
def QueueKind.isWanted (k : QueueKind) (wanted : InterruptsWanted) : Bool :=
  wanted &&& k.interrupts ≠ 0

/-- A bit field of `Interrupt_Enable`. -/
def enableBit (i : Nat) (b : Bool) : BitVec 32 := if b then BitVec.twoPow 32 i else 0

/-- `MakeMacInterruptEnable`: the bit `LinkStatus`. -/
def makeMacInterruptEnable (wanted : InterruptsWanted) : Bool := wanted &&& interruptsState ≠ 0

/-- `MakeChannelInterruptEnable`. -/
def makeChannelInterruptEnable (wanted : InterruptsWanted) : BitVec 32 :=
  enableBit 6 (wanted &&& QueueKind.rx.interrupts ≠ 0)
    ||| enableBit 0 (wanted &&& QueueKind.tx.interrupts ≠ 0)
    ||| enableBit 15 true
    ||| enableBit 12 (wanted &&& interruptsState ≠ 0)
    ||| enableBit 14 (wanted &&& interruptsState ≠ 0)

/-- The registers: `Mac_Interrupt_Status.LinkStatus`, `Mac_Interrupt_Enable.LinkStatus`,
`Dma_Ch[0].Status` and `Dma_Ch[0].Interrupt_Enable`. -/
structure InterruptRegs where
  macLinkStatus : Bool
  macInterruptEnable : Bool
  status : BitVec 32
  interruptEnable : BitVec 32
  deriving DecidableEq, Repr

/-- `DeviceInterruptSet_Locked`. -/
def deviceInterruptSet_Locked (regs : InterruptRegs) (wanted : InterruptsWanted) :
    InterruptRegs :=
  { regs with
    macInterruptEnable := makeMacInterruptEnable wanted
    interruptEnable := makeChannelInterruptEnable wanted }

/-! ## 2. The system

The ISR and the two changes of `InterruptsWanted` run under the interrupt lock, the DPC only for
its last access.  Everything else is one step for each access, so an event may be raised, and a DPC
may be queued again, between any two of them. -/

/-- Where the ISR is, with its local variables.  It holds the interrupt lock unless `idle`. -/
inductive Isr
  | idle
  | readStatus (newInterruptStatus : BitVec 32)
  | acknowledge (channel0 newInterruptStatus : BitVec 32)
  | mask (newInterruptStatus : BitVec 32)
  | post (newInterruptStatus : BitVec 32)
  | queueDpc
  deriving DecidableEq, Repr

/-- Where a DPC is, with its copy of `interruptStatus`. -/
inductive Dpc
  | idle
  | exchange
  | notify (newInterruptStatus : BitVec 32)
  | enable
  deriving DecidableEq, Repr

/-- Where a call of `DeviceSetNotification*Queue` is: `apply` when the pointer is written and
the interrupt lock is still to be taken. -/
inductive SetNotification
  | idle
  | apply (enabled : Bool)
  deriving DecidableEq, Repr

/-- The device and its driver.  `queue` says which of `rxQueue` and `txQueue` are not null.  The
observer's part: `armed` is set when a notification was enabled and neither disabled nor fired
since, `raised` when a completion was raised since the pointer was written. -/
structure InterruptWorld where
  regs : InterruptRegs
  interruptStatus : BitVec 32
  interruptsWanted : InterruptsWanted
  queue : QueueKind → Bool
  isr : Isr
  dpcQueued : Bool
  dpc : Nat → Dpc
  setNotification : QueueKind → SetNotification
  armed : QueueKind → Bool
  raised : QueueKind → Bool

/-- `linkRead` is a read of the PHY's status by a DPC or by the work item of the link state: it
clears the device's bit. -/
inductive InterruptAction
  | raise (bits : BitVec 32)
  | linkChange
  | linkRead
  | isr
  | dpcStart (i : Nat)
  | dpc (i : Nat)
  | setQueue (k : QueueKind) (enabled : Bool)
  | setInterrupts (k : QueueKind)

/-- After `DeviceD0Entry`: only the state interrupts are wanted, no notification is armed. -/
def InterruptWorld.start (regs : InterruptRegs) : InterruptWorld where
  regs := deviceInterruptSet_Locked regs interruptsState
  interruptStatus := 0
  interruptsWanted := interruptsState
  queue := fun _ => false
  isr := .idle
  dpcQueued := false
  dpc := fun _ => .idle
  setNotification := fun _ => .idle
  armed := fun _ => false
  raised := fun _ => false

def InterruptWorld.Started (w : InterruptWorld) : Prop := ∃ regs, w = .start regs

/-- `newInterruptStatus` with the channel status that the ISR read. -/
def isrStatus (newInterruptStatus channel0 : BitVec 32) : BitVec 32 :=
  newInterruptStatus ||| (channel0 &&& interruptChannel0StatusMask)

/-- `interruptsWanted` when the ISR found `newInterruptStatus`. -/
def isrWanted (newInterruptStatus : BitVec 32) (wanted : InterruptsWanted) : InterruptsWanted :=
  let wanted :=
    if QueueKind.rx.isSet newInterruptStatus then wanted &&& ~~~QueueKind.rx.interrupts
    else wanted
  if QueueKind.tx.isSet newInterruptStatus then wanted &&& ~~~QueueKind.tx.interrupts else wanted

/-- One step of `DeviceInterruptIsr`. -/
def isrStep (w : InterruptWorld) : InterruptWorld :=
  match w.isr with
  | .idle =>
    { w with
      regs := { w.regs with macLinkStatus := false }
      isr := .readStatus (if w.regs.macLinkStatus then interruptLinkStatus else 0) }
  | .readStatus new =>
    if isrStatus new w.regs.status = 0 then { w with isr := .idle }
    else { w with isr := .acknowledge w.regs.status (isrStatus new w.regs.status) }
  | .acknowledge channel0 new =>
    { w with
      regs := { w.regs with status := w.regs.status &&& ~~~channel0 }
      isr := .mask new }
  | .mask new =>
    { w with
      regs := deviceInterruptSet_Locked w.regs interruptsNone
      interruptsWanted := isrWanted new w.interruptsWanted
      isr := .post new }
  | .post new => { w with interruptStatus := w.interruptStatus ||| new, isr := .queueDpc }
  | .queueDpc => { w with dpcQueued := true, isr := .idle }

/-- The DPC notifies the queue: its pointer is cleared. -/
def dpcNotifies (w : InterruptWorld) (new : BitVec 32) (k : QueueKind) : Bool :=
  w.queue k && k.isSet new

/-- One step of a running `DeviceInterruptDpc`. -/
def dpcStep (w : InterruptWorld) (i : Nat) : Option InterruptWorld :=
  match w.dpc i with
  | .idle => none
  | .exchange =>
    if w.interruptStatus = 0 then some { w with dpc := Function.update w.dpc i .idle }
    else some { w with
      interruptStatus := 0
      dpc := Function.update w.dpc i
        (if QueueKind.rx.isSet w.interruptStatus || QueueKind.tx.isSet w.interruptStatus then
          .notify w.interruptStatus else .enable) }
  | .notify new =>
    some { w with
      queue := fun k => w.queue k && !dpcNotifies w new k
      armed := fun k => w.armed k && !dpcNotifies w new k
      raised := fun k => w.raised k && !dpcNotifies w new k
      dpc := Function.update w.dpc i .enable }
  | .enable =>
    if w.isr = .idle then
      some { w with
        regs := if w.interruptsWanted ≠ interruptsNone then
          deviceInterruptSet_Locked w.regs w.interruptsWanted else w.regs
        dpc := Function.update w.dpc i .exchange }
    else none

/-- `DeviceInterruptEnable` and `DeviceInterruptDisable`, once they have the lock. -/
def deviceInterruptChange (w : InterruptWorld) (newWanted : InterruptsWanted) : InterruptWorld :=
  if w.interruptsWanted ≠ newWanted then
    { w with
      regs := deviceInterruptSet_Locked w.regs newWanted
      interruptsWanted := newWanted }
  else w

/-- The flags that `DeviceSetNotification*Queue` asks for. -/
def newInterruptsWanted (k : QueueKind) (enabled : Bool) (oldWanted : InterruptsWanted) :
    InterruptsWanted :=
  if enabled then oldWanted ||| k.interrupts else oldWanted &&& ~~~k.interrupts

def interruptStep (w : InterruptWorld) : InterruptAction → Option InterruptWorld
  | .raise bits =>
    some { w with
      regs := { w.regs with status := w.regs.status ||| bits }
      raised := fun k => w.raised k || (w.queue k && k.isSet bits) }
  | .linkChange => some { w with regs := { w.regs with macLinkStatus := true } }
  | .linkRead => some { w with regs := { w.regs with macLinkStatus := false } }
  | .isr => some (isrStep w)
  | .dpcStart i =>
    if w.dpcQueued = true ∧ w.dpc i = .idle then
      some { w with dpcQueued := false, dpc := Function.update w.dpc i .exchange }
    else none
  | .dpc i => dpcStep w i
  | .setQueue k enabled =>
    if w.setNotification k = .idle then
      some { w with
        queue := Function.update w.queue k enabled
        setNotification := Function.update w.setNotification k (.apply enabled)
        armed := Function.update w.armed k (w.armed k && enabled)
        raised := Function.update w.raised k (w.raised k && enabled) }
    else none
  | .setInterrupts k =>
    match w.setNotification k with
    | .idle => none
    | .apply enabled =>
      if w.isr = .idle then
        some { deviceInterruptChange w (newInterruptsWanted k enabled w.interruptsWanted) with
          setNotification := Function.update w.setNotification k .idle
          armed := Function.update w.armed k (enabled && w.queue k) }
      else none

/-! ## 3. Where a notification is

An event moves from the status register to a local variable of the ISR, to `interruptStatus`, and
into the copy of a DPC.  `Pending` lists the places in which it is safe: from each of them
something is bound to happen that brings it to the queue. -/

/-- The copy of the DPC has the bit of the queue. -/
def Dpc.Holds (k : QueueKind) (d : Dpc) : Prop := ∃ new, d = .notify new ∧ k.isSet new = true

/-- The DPC is on its way to write `Interrupt_Enable`. -/
def Dpc.Enables (d : Dpc) : Prop := d = .enable ∨ ∃ new, d = .notify new

theorem Dpc.not_holds {k : QueueKind} {d : Dpc} (h : ∀ new, d ≠ .notify new) : ¬ d.Holds k :=
  fun ⟨new, hnew, _⟩ => h new hnew

theorem Dpc.not_enables {d : Dpc} (h : d = .idle ∨ d = .exchange) : ¬ d.Enables := by
  rintro (rfl | ⟨new, rfl⟩) <;> rcases h with h | h <;> cases h

/-- The bit of the queue is in a copy that no DPC has acted on yet: the local variable of the
ISR once it acknowledged the device, `interruptStatus`, or the copy of a DPC. -/
def InterruptWorld.Held (w : InterruptWorld) (k : QueueKind) : Prop :=
  (∃ new, (w.isr = .mask new ∨ w.isr = .post new) ∧ k.isSet new = true)
    ∨ k.isSet w.interruptStatus = true
    ∨ ∃ i, (w.dpc i).Holds k

/-- A DPC is queued, about to be queued or running, and will write `Interrupt_Enable`. -/
def InterruptWorld.WillEnable (w : InterruptWorld) : Prop :=
  (∃ new, w.isr = .post new)
    ∨ (w.interruptStatus ≠ 0 ∧ (w.isr = .queueDpc ∨ w.dpcQueued = true ∨ ∃ i, w.dpc i = .exchange))
    ∨ ∃ i, (w.dpc i).Enables

/-- **The event of a queue is not lost**: it is pending in the channel status with its interrupt
enabled, or wanted and about to be enabled; or it is on its way to a DPC and the queue pointer
is set. -/
def InterruptWorld.Pending (w : InterruptWorld) (k : QueueKind) : Prop :=
  (k.isSet w.regs.status = true ∧ (k.isSet w.regs.interruptEnable = true
      ∨ (k.isWanted w.interruptsWanted = true ∧ w.WillEnable)))
    ∨ (w.Held k ∧ w.queue k = true)

/-! ## 4. Bits

The words have 32 and 8 bits, and all that the argument needs are two bits of the first and two
flags of the second.  The lemmas say what each operation of the driver does to them. -/

theorem QueueKind.isSet_or (k : QueueKind) (a b : BitVec 32) :
    k.isSet (a ||| b) = (k.isSet a || k.isSet b) := BitVec.getLsbD_or

theorem QueueKind.isSet_clear (k : QueueKind) (a b : BitVec 32) :
    k.isSet (a &&& ~~~b) = (k.isSet a && !k.isSet b) := by
  cases k <;> simp [QueueKind.isSet, QueueKind.bit]

/-- The link bit is no bit of a queue, and the mask keeps the bits of the queues. -/
theorem QueueKind.isSet_isrStatus (k : QueueKind) (new channel0 : BitVec 32) :
    k.isSet (isrStatus new channel0) = (k.isSet new || k.isSet channel0) := by
  cases k <;> simp [isrStatus, QueueKind.isSet, QueueKind.bit, interruptChannel0StatusMask,
    interruptLinkStatus]

/-- **The enable register follows `interruptsWanted`.** -/
theorem QueueKind.isSet_makeChannelInterruptEnable (k : QueueKind) (wanted : InterruptsWanted) :
    k.isSet (makeChannelInterruptEnable wanted) = k.isWanted wanted := by
  have hwanted : k.isWanted wanted = decide (wanted &&& k.interrupts ≠ 0) := rfl
  rw [hwanted, makeChannelInterruptEnable]
  generalize hrx : decide (wanted &&& QueueKind.rx.interrupts ≠ 0) = rx
  generalize htx : decide (wanted &&& QueueKind.tx.interrupts ≠ 0) = tx
  generalize decide (wanted &&& interruptsState ≠ 0) = state
  cases k with
  | rx =>
    rw [hrx]
    cases rx <;> cases tx <;> cases state <;> decide
  | tx =>
    rw [htx]
    cases rx <;> cases tx <;> cases state <;> decide

/-- The number of the flag `interrupts`. -/
def QueueKind.flag : QueueKind → Nat
  | .rx => 1
  | .tx => 2

theorem QueueKind.interrupts_eq (k : QueueKind) : k.interrupts = BitVec.twoPow 8 k.flag := by
  cases k <;> rfl

theorem QueueKind.isWanted_eq (k : QueueKind) (wanted : InterruptsWanted) :
    k.isWanted wanted = wanted.getLsbD k.flag := by
  have hne : BitVec.twoPow 8 k.flag ≠ 0#8 := by cases k <;> decide
  rw [QueueKind.isWanted, k.interrupts_eq, BitVec.and_twoPow]
  cases wanted.getLsbD k.flag <;> simp [hne]

theorem QueueKind.isWanted_clear (k j : QueueKind) (wanted : InterruptsWanted) :
    k.isWanted (wanted &&& ~~~j.interrupts) = (k.isWanted wanted && decide (k ≠ j)) := by
  rw [k.isWanted_eq, k.isWanted_eq, j.interrupts_eq]
  cases k <;> cases j <;> simp [QueueKind.flag]

theorem QueueKind.isWanted_set (k j : QueueKind) (wanted : InterruptsWanted) :
    k.isWanted (wanted ||| j.interrupts) = (k.isWanted wanted || decide (k = j)) := by
  rw [k.isWanted_eq, k.isWanted_eq, j.interrupts_eq]
  cases k <;> cases j <;> simp [QueueKind.flag]

/-- **The ISR stops wanting the interrupts it found.** -/
theorem isWanted_isrWanted (k : QueueKind) (new : BitVec 32) (wanted : InterruptsWanted) :
    k.isWanted (isrWanted new wanted) = (k.isWanted wanted && !k.isSet new) := by
  unfold isrWanted
  cases hrx : QueueKind.rx.isSet new <;> cases htx : QueueKind.tx.isSet new <;> cases k <;>
    simp [QueueKind.isWanted_clear, hrx, htx]

/-! ## 5. The invariant

`InterruptInv` is per queue.  An event that was raised is in the status register or held; an armed
notification is wanted, or its event is held; and the enable register is as `InterruptsWanted`
says, or a DPC is on its way to write it.  The last part is why masking everything in the ISR loses
nothing. -/

/-- **The invariant.**  An armed notification has its pointer, and its interrupt is wanted unless
the event is held already; what was raised is in the status register or held; the enable
register follows `interruptsWanted` unless a DPC is to write it. -/
structure InterruptInv (w : InterruptWorld) : Prop where
  armed_queue : ∀ k, w.armed k = true → w.queue k = true
  armed_wanted : ∀ k, w.armed k = true → k.isWanted w.interruptsWanted = true ∨ w.Held k
  raised_queue : ∀ k, w.raised k = true → w.queue k = true
  raised_status : ∀ k, w.raised k = true → k.isSet w.regs.status = true ∨ w.Held k
  enable_eq : w.regs.interruptEnable = makeChannelInterruptEnable w.interruptsWanted
    ∨ w.WillEnable
  enable_or_none : w.regs.interruptEnable = makeChannelInterruptEnable w.interruptsWanted
    ∨ w.regs.interruptEnable = makeChannelInterruptEnable interruptsNone
  found : ∀ new, ((∃ channel0, w.isr = .acknowledge channel0 new) ∨ w.isr = .mask new
    ∨ w.isr = .post new) → new ≠ 0
  acknowledged : ∀ channel0 new, w.isr = .acknowledge channel0 new → ∀ k : QueueKind,
    k.isSet channel0 = true → k.isSet new = true

variable {w w' : InterruptWorld}

theorem started_interruptInv (h : w.Started) : InterruptInv w := by
  obtain ⟨regs, rfl⟩ := h
  constructor
  · exact nofun
  · exact nofun
  · exact nofun
  · exact nofun
  · exact .inl rfl
  · exact .inl rfl
  · rintro new (⟨_, hnew⟩ | hnew | hnew) <;> cases hnew
  · exact nofun

/-- **The notification of an event that the invariant knows of is pending.** -/
theorem InterruptInv.pending (h : InterruptInv w) {k : QueueKind} (harmed : w.armed k = true)
    (hraised : w.raised k = true) : w.Pending k := by
  have hqueue := h.armed_queue k harmed
  by_cases hheld : w.Held k
  · exact .inr ⟨hheld, hqueue⟩
  · have hstatus := (h.raised_status k hraised).resolve_right hheld
    have hwanted := (h.armed_wanted k harmed).resolve_right hheld
    rcases h.enable_eq with heq | hwill
    · refine .inl ⟨hstatus, .inl ?_⟩
      rw [heq, QueueKind.isSet_makeChannelInterruptEnable]
      exact hwanted
    · exact .inl ⟨hstatus, .inr ⟨hwanted, hwill⟩⟩

/-! ### The device

The device may raise any bits at any time.  An event that is raised gets an observation, and the
bit is in the register from this moment on. -/

theorem InterruptInv.raise (h : InterruptInv w) (bits : BitVec 32) :
    InterruptInv { w with
      regs := { w.regs with status := w.regs.status ||| bits }
      raised := fun k => w.raised k || (w.queue k && k.isSet bits) } := by
  refine { h with
    raised_queue := fun k hk => ?_
    raised_status := fun k hk => ?_ }
  · rcases Bool.or_eq_true _ _ ▸ hk with hk | hk
    · exact h.raised_queue k hk
    · exact (Bool.and_eq_true _ _ ▸ hk).1
  · rw [QueueKind.isSet_or, Bool.or_eq_true]
    rcases Bool.or_eq_true _ _ ▸ hk with hk | hk
    · rcases h.raised_status k hk with hstatus | hheld
      · exact .inl (.inl hstatus)
      · exact .inr hheld
    · exact .inl (.inr (Bool.and_eq_true _ _ ▸ hk).2)

/-- The link bit is none of the channel status. -/
theorem InterruptInv.link (h : InterruptInv w) (macLinkStatus : Bool) :
    InterruptInv { w with regs := { w.regs with macLinkStatus } } :=
  ⟨h.armed_queue, h.armed_wanted, h.raised_queue, h.raised_status, h.enable_eq,
    h.enable_or_none, h.found, h.acknowledged⟩

/-! ### The ISR

The ISR takes the event out of the register and, some steps later, puts it into `interruptStatus`.
In between its local variable holds the event, and the lock keeps any change of the flags away. -/

/-- What is in `interruptStatus` or in a DPC stays held over a step that changes neither. -/
theorem InterruptWorld.Held.mono {k : QueueKind} (h : w.Held k)
    (hisr : ∀ new, w.isr = .mask new ∨ w.isr = .post new → w'.isr = .mask new ∨ w'.isr = .post new)
    (hstatus : w'.interruptStatus = w.interruptStatus) (hdpc : w'.dpc = w.dpc) : w'.Held k := by
  rcases h with ⟨new, hnew, hset⟩ | hset | hheld
  · exact .inl ⟨new, hisr new hnew, hset⟩
  · exact .inr (.inl (hstatus ▸ hset))
  · exact .inr (.inr (hdpc ▸ hheld))

/-- **A step that leaves the registers alone**: what is held stays held, and what is to be enabled
still is. -/
theorem InterruptInv.moves (h : InterruptInv w) {isr : Isr} {interruptStatus : BitVec 32}
    {dpcQueued : Bool} {dpc : Nat → Dpc}
    (hheld : ∀ k, w.Held k → InterruptWorld.Held { w with isr, interruptStatus, dpcQueued, dpc } k)
    (hwill : w.WillEnable →
      InterruptWorld.WillEnable { w with isr, interruptStatus, dpcQueued, dpc })
    (hisr : isr = w.isr ∨ isr = .queueDpc ∨ isr = .idle) :
    InterruptInv { w with isr, interruptStatus, dpcQueued, dpc } where
  armed_queue := h.armed_queue
  armed_wanted k hk := (h.armed_wanted k hk).imp_right (hheld k)
  raised_queue := h.raised_queue
  raised_status k hk := (h.raised_status k hk).imp_right (hheld k)
  enable_eq := h.enable_eq.imp_right hwill
  enable_or_none := h.enable_or_none
  found := by
    rcases hisr with rfl | rfl | rfl
    · exact h.found
    · rintro new (⟨_, hnew⟩ | hnew | hnew) <;> cases hnew
    · rintro new (⟨_, hnew⟩ | hnew | hnew) <;> cases hnew
  acknowledged := by
    rcases hisr with rfl | rfl | rfl
    · exact h.acknowledged
    · exact nofun
    · exact nofun

/-- The ISR before it acknowledges anything: only `isr` and the link status change. -/
theorem InterruptInv.isr_reading (h : InterruptInv w) (regs : InterruptRegs) (isr : Isr)
    (hstatus : regs.status = w.regs.status)
    (henable : regs.interruptEnable = w.regs.interruptEnable)
    (hisr : ∀ new, w.isr ≠ .mask new ∧ w.isr ≠ .post new ∧ isr ≠ .mask new ∧ isr ≠ .post new)
    (hqueueDpc : w.isr ≠ .queueDpc)
    (hfound : ∀ channel0 new, isr = .acknowledge channel0 new →
      new ≠ 0 ∧ ∀ k : QueueKind, k.isSet channel0 = true → k.isSet new = true) :
    InterruptInv { w with regs := regs, isr := isr } := by
  have hheld : ∀ k, w.Held k → InterruptWorld.Held { w with regs := regs, isr := isr } k := by
    intro k hk
    refine hk.mono (fun new hnew => ?_) rfl rfl
    rcases hnew with hnew | hnew
    · exact absurd hnew (hisr new).1
    · exact absurd hnew (hisr new).2.1
  have hwill : w.WillEnable → InterruptWorld.WillEnable { w with regs := regs, isr := isr } := by
    rintro (⟨new, hnew⟩ | ⟨hne, hnew | hnew⟩ | hnew)
    · exact absurd hnew (hisr new).2.1
    · exact absurd hnew hqueueDpc
    · exact .inr (.inl ⟨hne, .inr hnew⟩)
    · exact .inr (.inr hnew)
  constructor
  · exact h.armed_queue
  · intro k hk
    exact (h.armed_wanted k hk).imp_right (hheld k)
  · exact h.raised_queue
  · intro k hk
    rw [hstatus]
    exact (h.raised_status k hk).imp_right (hheld k)
  · rw [henable]
    exact h.enable_eq.imp_right hwill
  · rw [henable]
    exact h.enable_or_none
  · rintro new (⟨channel0, hnew⟩ | hnew | hnew)
    · exact (hfound channel0 new hnew).1
    · exact absurd hnew (hisr new).2.2.1
    · exact absurd hnew (hisr new).2.2.2
  · intro channel0 new hnew
    exact (hfound channel0 new hnew).2

/-- **A step of the ISR keeps the invariant.** -/
theorem InterruptInv.isr (h : InterruptInv w) : InterruptInv (isrStep w) := by
  unfold isrStep
  cases hisr : w.isr with
  | idle =>
    refine h.isr_reading _ _ rfl rfl (fun new => ?_) ?_ (fun _ _ hnew => by cases hnew)
    · rw [hisr]
      exact ⟨nofun, nofun, nofun, nofun⟩
    · rw [hisr]
      exact nofun
  | readStatus new =>
    have hreading : ∀ new, w.isr ≠ .mask new ∧ w.isr ≠ .post new := by
      intro new
      rw [hisr]
      exact ⟨nofun, nofun⟩
    have hqueueDpc : w.isr ≠ .queueDpc := by
      rw [hisr]
      exact nofun
    show InterruptInv (if isrStatus new w.regs.status = 0 then _ else _)
    split
    · exact h.isr_reading _ _ rfl rfl
        (fun new => ⟨(hreading new).1, (hreading new).2, nofun, nofun⟩) hqueueDpc nofun
    · rename_i hne
      refine h.isr_reading _ _ rfl rfl
        (fun new => ⟨(hreading new).1, (hreading new).2, nofun, nofun⟩) hqueueDpc ?_
      intro channel0 new' hnew
      cases hnew
      refine ⟨hne, fun k hk => ?_⟩
      rw [k.isSet_isrStatus, hk, Bool.or_true]
  | acknowledge channel0 new =>
    have hmono : ∀ k, w.Held k → InterruptWorld.Held { w with
        regs := { w.regs with status := w.regs.status &&& ~~~channel0 }
        isr := .mask new } k := by
      intro k hk
      refine hk.mono (fun new hnew => ?_) rfl rfl
      rw [hisr] at hnew
      rcases hnew with hnew | hnew <;> cases hnew
    constructor
    · exact h.armed_queue
    · intro k hk
      exact (h.armed_wanted k hk).imp_right (hmono k)
    · exact h.raised_queue
    · intro k hk
      rw [k.isSet_clear]
      rcases h.raised_status k hk with hstatus | hheld
      · cases hset : k.isSet channel0 with
        | false => exact .inl (by rw [hstatus]; rfl)
        | true => exact .inr (.inl ⟨new, .inl rfl, h.acknowledged channel0 new hisr k hset⟩)
      · exact .inr (hmono k hheld)
    · refine h.enable_eq.imp_right ?_
      rintro (⟨new, hnew⟩ | ⟨hne, hnew | hnew⟩ | hnew)
      · rw [hisr] at hnew
        cases hnew
      · rw [hisr] at hnew
        cases hnew
      · exact .inr (.inl ⟨hne, .inr hnew⟩)
      · exact .inr (.inr hnew)
    · exact h.enable_or_none
    · rintro new' (⟨_, hnew⟩ | hnew | hnew)
      · cases hnew
      · cases hnew
        exact h.found _ (.inl ⟨channel0, hisr⟩)
      · cases hnew
    · exact nofun
  | mask new =>
    have hmono : ∀ k, w.Held k → InterruptWorld.Held { w with
        regs := deviceInterruptSet_Locked w.regs interruptsNone
        interruptsWanted := isrWanted new w.interruptsWanted
        isr := .post new } k := by
      intro k hk
      refine hk.mono (fun new' hnew => .inr ?_) rfl rfl
      rw [hisr] at hnew
      rcases hnew with hnew | hnew <;> cases hnew
      rfl
    constructor
    · exact h.armed_queue
    · intro k hk
      rw [isWanted_isrWanted]
      rcases h.armed_wanted k hk with hwanted | hheld
      · cases hset : k.isSet new with
        | false => exact .inl (by rw [hwanted]; rfl)
        | true => exact .inr (.inl ⟨new, .inr rfl, hset⟩)
      · exact .inr (hmono k hheld)
    · exact h.raised_queue
    · intro k hk
      exact (h.raised_status k hk).imp_right (hmono k)
    · exact .inr (.inl ⟨new, rfl⟩)
    · exact .inr rfl
    · rintro new' (⟨_, hnew⟩ | hnew | hnew)
      · cases hnew
      · cases hnew
      · cases hnew
        exact h.found _ (.inr (.inl hisr))
    · exact nofun
  | post new =>
    have hne : w.interruptStatus ||| new ≠ 0 := by
      intro hzero
      have hnew := h.found new (.inr (.inr hisr))
      exact hnew (BitVec.or_eq_zero_iff.1 hzero).2
    have hmono : ∀ k, w.Held k → InterruptWorld.Held { w with
        interruptStatus := w.interruptStatus ||| new, isr := .queueDpc } k := by
      rintro k (⟨new', hnew, hset⟩ | hset | hset)
      · rw [hisr] at hnew
        rcases hnew with hnew | hnew <;> cases hnew
        refine .inr (.inl ?_)
        rw [k.isSet_or, hset, Bool.or_true]
      · refine .inr (.inl ?_)
        rw [k.isSet_or, hset, Bool.true_or]
      · exact .inr (.inr hset)
    exact h.moves hmono (fun _ => .inr (.inl ⟨hne, .inl rfl⟩)) (.inr (.inl rfl))
  | queueDpc =>
    have hmono : ∀ k, w.Held k → InterruptWorld.Held { w with
        dpcQueued := true, isr := .idle } k := by
      intro k hk
      refine hk.mono (fun new' hnew => ?_) rfl rfl
      rw [hisr] at hnew
      rcases hnew with hnew | hnew <;> cases hnew
    refine h.moves hmono ?_ (.inr (.inr rfl))
    rintro (⟨new, hnew⟩ | ⟨hne, hnew | hnew⟩ | hnew)
    · rw [hisr] at hnew
      cases hnew
    · exact .inr (.inl ⟨hne, .inr (.inl rfl)⟩)
    · exact .inr (.inl ⟨hne, .inr (.inl rfl)⟩)
    · exact .inr (.inr hnew)

/-! ### The DPC

The exchange empties `interruptStatus` into the copy of one DPC, also where others run.  That DPC
clears the pointers of the queues it notifies, which is what the observer means by a notification
that has fired. -/

theorem InterruptInv.dpcStart (h : InterruptInv w) {i : Nat} (hidle : w.dpc i = .idle) :
    InterruptInv { w with
      dpcQueued := false, dpc := Function.update w.dpc i .exchange } := by
  have hheld : ∀ k, w.Held k → InterruptWorld.Held { w with
      dpcQueued := false, dpc := Function.update w.dpc i .exchange } k := by
    intro k hk
    refine hk.imp_right (Or.imp_right fun hdpc => ?_)
    exact exists_update_of_not (Dpc.not_holds fun new => by rw [hidle]; exact nofun) hdpc
  refine h.moves hheld ?_ (.inl rfl)
  rintro (hpost | ⟨hne, hsched⟩ | hdpc)
  · exact .inl hpost
  · exact .inr (.inl ⟨hne, .inr (.inr ⟨i, Function.update_self ..⟩)⟩)
  · exact .inr (.inr (exists_update_of_not (Dpc.not_enables (.inl hidle)) hdpc))

/-- The exchange that finds nothing ends the DPC. -/
theorem InterruptInv.dpc_done (h : InterruptInv w) {i : Nat} (hi : w.dpc i = .exchange)
    (hzero : w.interruptStatus = 0) :
    InterruptInv { w with dpc := Function.update w.dpc i .idle } := by
  have hheld : ∀ k, w.Held k →
      InterruptWorld.Held { w with dpc := Function.update w.dpc i .idle } k := by
    intro k hk
    refine hk.imp_right (Or.imp_right fun hdpc => ?_)
    exact exists_update_of_not (Dpc.not_holds fun new => by rw [hi]; exact nofun) hdpc
  refine h.moves hheld ?_ (.inl rfl)
  rintro (hpost | ⟨hne, _⟩ | hdpc)
  · exact .inl hpost
  · exact absurd hzero hne
  · exact .inr (.inr (exists_update_of_not (Dpc.not_enables (.inr hi)) hdpc))

/-- The exchange takes `interruptStatus` over into the copy of the DPC. -/
theorem InterruptInv.dpc_take (h : InterruptInv w) {i : Nat} (hi : w.dpc i = .exchange)
    (d : Dpc) (hd : d = .enable ∨ d = .notify w.interruptStatus)
    (hset : ∀ k : QueueKind, k.isSet w.interruptStatus = true → d = .notify w.interruptStatus) :
    InterruptInv { w with interruptStatus := 0, dpc := Function.update w.dpc i d } := by
  have hheld : ∀ k, w.Held k → InterruptWorld.Held { w with
      interruptStatus := 0, dpc := Function.update w.dpc i d } k := by
    rintro k (hisr | hstatus | hdpc)
    · exact .inl hisr
    · exact .inr (.inr (exists_update_of_self ⟨w.interruptStatus, hset k hstatus, hstatus⟩))
    · refine .inr (.inr (exists_update_of_not (Dpc.not_holds fun new => ?_) hdpc))
      rw [hi]
      exact nofun
  refine h.moves hheld (fun _ => ?_) (.inl rfl)
  exact .inr (.inr (exists_update_of_self (hd.imp_right fun hnotify => ⟨_, hnotify⟩)))

/-- The DPC notifies: what it takes from the observers, it also takes from `Held`. -/
theorem InterruptInv.dpc_notify (h : InterruptInv w) {i : Nat} {new : BitVec 32}
    (hi : w.dpc i = .notify new) :
    InterruptInv { w with
      queue := fun k => w.queue k && !dpcNotifies w new k
      armed := fun k => w.armed k && !dpcNotifies w new k
      raised := fun k => w.raised k && !dpcNotifies w new k
      dpc := Function.update w.dpc i .enable } := by
  have hnot : ∀ k, w.queue k = true → (!dpcNotifies w new k) = true → k.isSet new = false := by
    intro k hqueue hno
    rw [dpcNotifies, hqueue, Bool.true_and] at hno
    exact Bool.not_eq_true' _ ▸ hno
  have hheld : ∀ k, k.isSet new = false → w.Held k →
      InterruptWorld.Held { w with
        queue := fun k => w.queue k && !dpcNotifies w new k
        armed := fun k => w.armed k && !dpcNotifies w new k
        raised := fun k => w.raised k && !dpcNotifies w new k
        dpc := Function.update w.dpc i .enable } k := by
    intro k hclear hheld
    refine hheld.imp_right (Or.imp_right fun hdpc => ?_)
    refine exists_update_of_not ?_ hdpc
    rintro ⟨new', hnew, hset⟩
    rw [hi] at hnew
    cases hnew
    rw [hclear] at hset
    cases hset
  constructor
  · intro k hk
    obtain ⟨harmed, hno⟩ := Bool.and_eq_true _ _ ▸ hk
    exact Bool.and_eq_true _ _ ▸ ⟨h.armed_queue k harmed, hno⟩
  · intro k hk
    obtain ⟨harmed, hno⟩ := Bool.and_eq_true _ _ ▸ hk
    exact (h.armed_wanted k harmed).imp_right
      (hheld k (hnot k (h.armed_queue k harmed) hno))
  · intro k hk
    obtain ⟨hraised, hno⟩ := Bool.and_eq_true _ _ ▸ hk
    exact Bool.and_eq_true _ _ ▸ ⟨h.raised_queue k hraised, hno⟩
  · intro k hk
    obtain ⟨hraised, hno⟩ := Bool.and_eq_true _ _ ▸ hk
    exact (h.raised_status k hraised).imp_right
      (hheld k (hnot k (h.raised_queue k hraised) hno))
  · exact .inr (.inr (.inr (exists_update_of_self (.inl rfl))))
  · exact h.enable_or_none
  · exact h.found
  · exact h.acknowledged

/-- The DPC enables the wanted interrupts again. -/
theorem InterruptInv.dpc_enable (h : InterruptInv w) {i : Nat} (hi : w.dpc i = .enable) :
    InterruptInv { w with
      regs := if w.interruptsWanted ≠ interruptsNone then
        deviceInterruptSet_Locked w.regs w.interruptsWanted else w.regs
      dpc := Function.update w.dpc i .exchange } := by
  have hheld : ∀ k, w.Held k → InterruptWorld.Held { w with
      regs := if w.interruptsWanted ≠ interruptsNone then
        deviceInterruptSet_Locked w.regs w.interruptsWanted else w.regs
      dpc := Function.update w.dpc i .exchange } k := by
    intro k hk
    refine hk.imp_right (Or.imp_right fun hdpc => ?_)
    exact exists_update_of_not (Dpc.not_holds fun new => by rw [hi]; exact nofun) hdpc
  have henable : (if w.interruptsWanted ≠ interruptsNone then
      deviceInterruptSet_Locked w.regs w.interruptsWanted else w.regs).interruptEnable
        = makeChannelInterruptEnable w.interruptsWanted := by
    by_cases hnone : w.interruptsWanted = interruptsNone
    · rw [if_neg (not_not_intro hnone)]
      rcases h.enable_or_none with heq | heq
      · exact heq
      · rw [heq, hnone]
    · rw [if_pos hnone]
      rfl
  have hstatus : (if w.interruptsWanted ≠ interruptsNone then
      deviceInterruptSet_Locked w.regs w.interruptsWanted else w.regs).status
        = w.regs.status := by
    split <;> rfl
  constructor
  · exact h.armed_queue
  · intro k hk
    exact (h.armed_wanted k hk).imp_right (hheld k)
  · exact h.raised_queue
  · intro k hk
    refine (h.raised_status k hk).imp (fun hset => ?_) (hheld k)
    exact (congrArg k.isSet hstatus).trans hset
  · exact .inl henable
  · exact .inl henable
  · exact h.found
  · exact h.acknowledged

/-- **A step of a DPC keeps the invariant.** -/
theorem InterruptInv.dpc (h : InterruptInv w) {i : Nat} (hs : dpcStep w i = some w') :
    InterruptInv w' := by
  unfold dpcStep at hs
  cases hi : w.dpc i with
  | idle =>
    rw [hi] at hs
    cases hs
  | exchange =>
    simp only [hi] at hs
    split at hs
    · rename_i hzero
      cases hs
      exact h.dpc_done hi hzero
    · cases hs
      refine h.dpc_take hi _ ?_ ?_
      · split
        · exact .inr rfl
        · exact .inl rfl
      · intro k hk
        refine if_pos ?_
        cases k with
        | rx => rw [hk, Bool.true_or]
        | tx => rw [hk, Bool.or_true]
  | notify new =>
    simp only [hi, Option.some.injEq] at hs
    cases hs
    exact h.dpc_notify hi
  | enable =>
    simp only [hi] at hs
    split at hs
    · cases hs
      exact h.dpc_enable hi
    · cases hs

/-! ### `DeviceSetNotification*Queue`

The caller writes the pointer first and the enable register afterwards, and an interrupt may come
in between.  Disarming a notification takes the observations of its queue away, so nothing is left
to be delivered. -/

/-- What is left of an observation of queue `k` when the pointer is written. -/
theorem update_and_eq_true {f : QueueKind → Bool} {k j : QueueKind} {b : Bool}
    (h : Function.update f k (f k && b) j = true) : f j = true ∧ (j = k → b = true) := by
  by_cases hjk : j = k
  · subst hjk
    rw [Function.update_self] at h
    obtain ⟨hf, hb⟩ := Bool.and_eq_true _ _ ▸ h
    exact ⟨hf, fun _ => hb⟩
  · rw [Function.update_of_ne hjk] at h
    exact ⟨h, fun heq => absurd heq hjk⟩

theorem update_eq_true {f : QueueKind → Bool} {k j : QueueKind} {b : Bool} (hf : f j = true)
    (hb : j = k → b = true) : Function.update f k b j = true := by
  by_cases hjk : j = k
  · rw [hjk, Function.update_self]
    exact hb hjk
  · rwa [Function.update_of_ne hjk]

theorem InterruptInv.setQueue (h : InterruptInv w) (k : QueueKind) (enabled : Bool)
    (setNotification : QueueKind → SetNotification) :
    InterruptInv { w with
      queue := Function.update w.queue k enabled
      setNotification := setNotification
      armed := Function.update w.armed k (w.armed k && enabled)
      raised := Function.update w.raised k (w.raised k && enabled) } := by
  constructor
  · intro j hj
    obtain ⟨harmed, henabled⟩ := update_and_eq_true hj
    exact update_eq_true (h.armed_queue j harmed) henabled
  · intro j hj
    exact h.armed_wanted j (update_and_eq_true hj).1
  · intro j hj
    obtain ⟨hraised, henabled⟩ := update_and_eq_true hj
    exact update_eq_true (h.raised_queue j hraised) henabled
  · intro j hj
    exact h.raised_status j (update_and_eq_true hj).1
  · exact h.enable_eq
  · exact h.enable_or_none
  · exact h.found
  · exact h.acknowledged

/-- A change of `interruptsWanted` with the enable register written to match. -/
theorem InterruptInv.wanted_change (h : InterruptInv w) {regs : InterruptRegs}
    {wanted : InterruptsWanted} {armed : QueueKind → Bool}
    (setNotification : QueueKind → SetNotification)
    (hstatus : regs.status = w.regs.status)
    (henable : regs.interruptEnable = makeChannelInterruptEnable wanted
      ∨ regs.interruptEnable = w.regs.interruptEnable ∧ wanted = w.interruptsWanted)
    (hqueue : ∀ k, armed k = true → w.queue k = true)
    (hwanted : ∀ k, armed k = true → k.isWanted wanted = true ∨ w.Held k) :
    InterruptInv { w with
      regs := regs
      interruptsWanted := wanted
      setNotification := setNotification
      armed := armed } := by
  constructor
  · exact hqueue
  · exact hwanted
  · exact h.raised_queue
  · intro k hk
    rw [hstatus]
    exact h.raised_status k hk
  · rcases henable with heq | ⟨heq, hsame⟩
    · exact .inl heq
    · rw [heq, hsame]
      exact h.enable_eq
  · rcases henable with heq | ⟨heq, hsame⟩
    · exact .inl heq
    · rw [heq, hsame]
      exact h.enable_or_none
  · exact h.found
  · exact h.acknowledged

/-- The other queue's flag stays, and the own flag follows `enabled`. -/
theorem isWanted_newInterruptsWanted (j k : QueueKind) (enabled : Bool)
    (wanted : InterruptsWanted) :
    j.isWanted (newInterruptsWanted k enabled wanted)
      = if j = k then enabled else j.isWanted wanted := by
  cases enabled with
  | false =>
    rw [newInterruptsWanted, if_neg Bool.false_ne_true, j.isWanted_clear]
    by_cases hjk : j = k <;> simp [hjk]
  | true =>
    rw [newInterruptsWanted, if_pos rfl, j.isWanted_set]
    by_cases hjk : j = k <;> simp [hjk]

theorem InterruptInv.setInterrupts (h : InterruptInv w) (k : QueueKind) (enabled : Bool)
    (setNotification : QueueKind → SetNotification) :
    InterruptInv
      { deviceInterruptChange w (newInterruptsWanted k enabled w.interruptsWanted) with
        setNotification := setNotification
        armed := Function.update w.armed k (enabled && w.queue k) } := by
  have hqueue : ∀ j, Function.update w.armed k (enabled && w.queue k) j = true →
      w.queue j = true := by
    intro j hj
    by_cases hjk : j = k
    · subst hjk
      rw [Function.update_self] at hj
      exact (Bool.and_eq_true _ _ ▸ hj).2
    · rw [Function.update_of_ne hjk] at hj
      exact h.armed_queue j hj
  have hwanted : ∀ j, Function.update w.armed k (enabled && w.queue k) j = true →
      j.isWanted (newInterruptsWanted k enabled w.interruptsWanted) = true ∨ w.Held j := by
    intro j hj
    rw [isWanted_newInterruptsWanted]
    by_cases hjk : j = k
    · subst hjk
      rw [Function.update_self] at hj
      exact .inl ((if_pos rfl).trans (Bool.and_eq_true _ _ ▸ hj).1)
    · rw [Function.update_of_ne hjk] at hj
      rw [if_neg hjk]
      exact h.armed_wanted j hj
  unfold deviceInterruptChange
  split
  · exact h.wanted_change setNotification rfl (.inl rfl) hqueue hwanted
  · rename_i hsame
    have hsame := (not_not.1 hsame).symm
    rw [hsame] at hwanted
    exact h.wanted_change setNotification rfl (.inr ⟨rfl, rfl⟩) hqueue hwanted

/-! ## 6. Whole runs

One case for each kind of step, each of them a lemma above.  The property is part of the invariant,
so the run adds nothing to it. -/

/-- **A step of the system keeps the invariant.** -/
theorem InterruptInv.step (h : InterruptInv w) {a : InterruptAction}
    (hs : interruptStep w a = some w') : InterruptInv w' := by
  cases a with
  | raise bits =>
    cases hs
    exact h.raise bits
  | linkChange =>
    cases hs
    exact h.link true
  | linkRead =>
    cases hs
    exact h.link false
  | isr =>
    cases hs
    exact h.isr
  | dpcStart i =>
    simp only [interruptStep] at hs
    split at hs
    · rename_i hqueued
      cases hs
      exact h.dpcStart hqueued.2
    · cases hs
  | dpc i => exact h.dpc hs
  | setQueue k enabled =>
    simp only [interruptStep] at hs
    split at hs
    · cases hs
      exact h.setQueue k enabled _
    · cases hs
  | setInterrupts k =>
    simp only [interruptStep] at hs
    cases hset : w.setNotification k with
    | idle =>
      simp only [hset] at hs
      cases hs
    | apply enabled =>
      simp only [hset] at hs
      split at hs
      · cases hs
        exact h.setInterrupts k enabled _
      · cases hs

theorem reach_interruptInv (h : Reach InterruptWorld.Started interruptStep w) : InterruptInv w :=
  Reach.invariant (fun _ hw => started_interruptInv hw) (fun _ _ _ hw hs => hw.step hs) h

/-- **No lost notification.** Over every interleaving of the device, the ISR, the DPCs and the
calls of `DeviceSetNotification*Queue`: an event raised while the notification of its queue is
armed stays pending until the queue is notified or the notification is disabled.  This is read off
the invariant: the event is in the register or held, and the interrupt is wanted, if it is not
held. -/
theorem interrupt_not_lost (w : InterruptWorld) (h : Reach InterruptWorld.Started interruptStep w)
    (k : QueueKind) (harmed : w.armed k = true) (hraised : w.raised k = true) : w.Pending k :=
  (reach_interruptInv h).pending harmed hraised

/-- A received packet, acknowledged by the ISR and in `interruptStatus` when the DPC starts. -/
theorem interrupt_not_lost_of_run : ∃ w : InterruptWorld, w.Pending .rx := by
  have hstarted : InterruptWorld.Started (.start ⟨false, false, 0, 0⟩) := ⟨_, rfl⟩
  obtain ⟨w, hreach, hw⟩ := exists_reach_of_run interruptStep hstarted
    [.setQueue .rx true, .setInterrupts .rx, .raise 0x40, .isr, .isr, .isr, .isr, .isr, .isr,
      .dpcStart 0]
    (fun w => w.armed .rx && w.raised .rx && w.interruptStatus == 0x40)
    (by decide)
  rw [Bool.and_eq_true, Bool.and_eq_true] at hw
  exact ⟨w, interrupt_not_lost w hreach .rx hw.1.1 hw.1.2⟩

end WoaRk3576.Net
