/-
# The I2C controller driver rk3xi2c

`i2c_xfer` takes a request of several transfers.  For each of them `i2c_xfer_single` sets up the
message and waits for `waitEvent`; the interrupt routine moves the bytes through the FIFOs in
chunks, and queues a DPC, which sets the event.  The wait has a timeout and is alertable.

Beside the fields of the code stands what an observer sees:

* the conditions on the bus.  START and STOP are enable bits of `REG_CON` that the driver sets and
  later disables, and a condition goes out when one is set that was clear;
* the bytes of the message: those in the transmit FIFO, and those that were moved.  A byte that is
  written is moved when the controller reports the end of the transmission (`REG_INT_MBTF`) of what
  is in the FIFO, a byte that is read when it is taken out of the FIFO and stored;
* the message for which a DPC was queued and for which the event was set, and what every call of
  `i2c_xfer_single` has returned.

The interrupt routine, the DPC and the thread that waits are steps of their own, in any order.  The
pending bits are any value at every interrupt.

The clock settings, which change the tuning bits of `REG_CON` only, the enabled interrupts, the
counts and the values of the bytes are left out; the bytes are those of `MessageData.lean`, and the
timings those of `Clocks.lean`.
-/
import Mathlib.Data.BitVec
import WoaRk3576.Lib.Transition

namespace WoaRk3576.I2c

open WoaRk3576.Lib

/-! ## 1. Registers

Only the bits that the routines set or test.  `REG_CON_MOD` is a field of two bits with three
values in use. -/

/-- `REG_CON_EN`. -/
def regConEn : BitVec 32 := 0x01

/-- `REG_CON_MOD_MASK`. -/
def regConModMask : BitVec 32 := 0x06

/-- `REG_CON_START`. -/
def regConStart : BitVec 32 := 0x08

/-- `REG_CON_STOP`. -/
def regConStop : BitVec 32 := 0x10

/-- `REG_CON_LASTACK`. -/
def regConLastack : BitVec 32 := 0x20

/-- `REG_CON_ACTACK`. -/
def regConActack : BitVec 32 := 0x40

/-- `REG_CON_TUNING_MASK`. -/
def regConTuningMask : BitVec 32 := 0xff00

/-- `REG_CON_MOD_TX`, `REG_CON_MOD_REGISTER_TX` and `REG_CON_MOD_RX`. -/
inductive ConMode
  | tx
  | registerTx
  | rx
  deriving DecidableEq, Repr

/-- `REG_CON_MOD`. -/
def regConMod : ConMode → BitVec 32
  | .tx => 0 <<< 1
  | .registerTx => 1 <<< 1
  | .rx => 2 <<< 1

/-- `REG_INT_BTF`. -/
def regIntBtf : BitVec 32 := 0x01

/-- `REG_INT_BRF`. -/
def regIntBrf : BitVec 32 := 0x02

/-- `REG_INT_MBTF`. -/
def regIntMbtf : BitVec 32 := 0x04

/-- `REG_INT_MBRF`. -/
def regIntMbrf : BitVec 32 := 0x08

/-- `REG_INT_START`. -/
def regIntStart : BitVec 32 := 0x10

/-- `REG_INT_STOP`. -/
def regIntStop : BitVec 32 := 0x20

/-- `REG_INT_NAKRCV`. -/
def regIntNakrcv : BitVec 32 := 0x40

/-- `REG_INT_ALL`. -/
def regIntAll : BitVec 32 := 0x7f

/-! ## 2. The device context

A START or a STOP condition goes out when its bit is set in a control register that did not have
it, so the bus is what the writes of `REG_CON` make of it. -/

inductive NtStatus
  | success
  | ioTimeout
  | ioDeviceError
  | invalidTransaction
  | infoLengthMismatch
  | invalidAddress
  | notSupported
  deriving DecidableEq, Repr

/-- `enum rk3x_i2c_state`. -/
inductive Rk3xI2cState
  | idle
  | start
  | read
  | write
  | stop
  deriving DecidableEq, Repr

/-- What is seen on the bus; `transfer i` marks that the transfer `i` of the request begins. -/
inductive BusEvent
  | transfer (i : Nat)
  | start
  | stop
  deriving DecidableEq, Repr

/-- `RK3XI2C_CONTEXT`, `REG_CON` and the queued DPC, with the number of messages that were set up,
the indices of the current message's bytes that are in the FIFO and that were moved, and the
bus.  An MDL chain is the list of its byte counts. -/
structure Rk3xI2c where
  regCon : BitVec 32
  mode : ConMode
  isLastMsg : Bool
  state : Rk3xI2cState
  processed : BitVec 32
  transactionStatus : NtStatus
  transferLength : Nat
  currentMdlChain : List Nat
  dpcQueued : Option Nat
  waitEvent : Option Nat
  message : Nat
  fifo : List Nat
  moved : List Nat
  bus : List BusEvent

/-- The conditions that go out when `REG_CON` changes. -/
def busConditions (before after : BitVec 32) : List BusEvent :=
  (if after &&& regConStart ≠ 0 ∧ before &&& regConStart = 0 then [.start] else [])
    ++ if after &&& regConStop ≠ 0 ∧ before &&& regConStop = 0 then [.stop] else []

def Rk3xI2c.writeCon (val : BitVec 32) (s : Rk3xI2c) : Rk3xI2c :=
  { s with
    regCon := val
    bus := s.bus ++ busConditions s.regCon val }

/-! ## 3. The bytes of a message

The bytes are numbered, and moving one is taking down its number; which byte of memory it is, and
its value, is in `MessageData.lean`.  `processed` is a word of 32 bits, and a message may be longer
than that. -/

/-- The walk of `MdlChainGetByte` and `MdlChainSetByte`; `mapped k` is whether the `k`-th MDL has a
system address. -/
def mdlChainWalk (mapped : Nat → Bool) : Nat → List Nat → Nat → NtStatus
  | _, [], _ => .infoLengthMismatch
  | k, mdlByteCount :: next, currentOffset =>
    if currentOffset < mdlByteCount then if mapped k then .success else .infoLengthMismatch
    else mdlChainWalk mapped (k + 1) next (currentOffset - mdlByteCount)

/-- `MdlChainGetByte` and `MdlChainSetByte`, but for the byte. -/
def mdlChainByte (mapped : Nat → Bool) (mdlChain : List Nat) (length index : Nat) : NtStatus :=
  if index < length then mdlChainWalk mapped 0 mdlChain index else .infoLengthMismatch

/-- The status of the next byte of the message.  `processed` is counted up whether it succeeds or
not, and `transactionStatus` keeps what has failed. -/
def Rk3xI2c.mdlStatus (mapped : Nat → Bool) (s : Rk3xI2c) : NtStatus :=
  mdlChainByte mapped s.currentMdlChain s.transferLength s.processed.toNat

/-- The loop body of `rk3x_i2c_fill_transmit_buf`: the address goes first. -/
def fillByte (mapped : Nat → Bool) (cnt : Nat) (s : Rk3xI2c) : Rk3xI2c :=
  if s.processed = 0 ∧ cnt = 0 then s
  else if s.mdlStatus mapped = .success then
    { s with
      processed := s.processed + 1
      fifo := s.fifo ++ [s.processed.toNat] }
  else
    { s with
      processed := s.processed + 1
      transactionStatus := s.mdlStatus mapped }

/-- The inner loop of `rk3x_i2c_fill_transmit_buf`, with the iterations that are left; it returns
`cnt`. -/
def fillWord (mapped : Nat → Bool) : Nat → Nat → Rk3xI2c → Nat × Rk3xI2c
  | 0, cnt, s => (cnt, s)
  | n + 1, cnt, s =>
    if s.processed.toNat = s.transferLength ∧ cnt ≠ 0 then (cnt, s)
    else fillWord mapped n (cnt + 1) (fillByte mapped cnt s)

/-- The outer loop of `rk3x_i2c_fill_transmit_buf`. -/
def fillWords (mapped : Nat → Bool) : Nat → Nat → Rk3xI2c → Rk3xI2c
  | 0, _, s => s
  | n + 1, cnt, s =>
    let word := fillWord mapped 4 cnt s
    if word.2.processed.toNat = word.2.transferLength then word.2
    else fillWords mapped n word.1 word.2

def rk3xI2cFillTransmitBuf (mapped : Nat → Bool) (s : Rk3xI2c) : Rk3xI2c :=
  fillWords mapped 8 0 s

/-- The loop of `rk3x_i2c_handle_read` over the receive FIFO. -/
def readBytes (mapped : Nat → Bool) : Nat → Rk3xI2c → Rk3xI2c
  | 0, s => s
  | n + 1, s =>
    if s.mdlStatus mapped = .success then
      readBytes mapped n { s with
        processed := s.processed + 1
        moved := s.moved ++ [s.processed.toNat] }
    else
      { s with
        processed := s.processed + 1
        transactionStatus := s.mdlStatus mapped }

/-! ## 4. The interrupt routine

The handlers of `rk3x_i2c_irq`, one for each state, and the switch in front of them.  What the
status register reports is an argument of theirs, so an interrupt may report anything in any state.
-/

def rk3xI2cStart (s : Rk3xI2c) : Rk3xI2c :=
  s.writeCon (s.regCon &&& regConTuningMask ||| (regConEn ||| regConMod s.mode ||| regConStart)
    ||| regConActack)

def rk3xI2cStop (status : NtStatus) (s : Rk3xI2c) : Rk3xI2c :=
  let s := { s with
    processed := 0
    currentMdlChain := []
    transferLength := 0
    transactionStatus := status }
  if s.isLastMsg then { s with state := .stop }.writeCon (s.regCon ||| regConStop)
  else { s with state := .idle, dpcQueued := some s.message }.writeCon
    (s.regCon &&& regConTuningMask)

def rk3xI2cPrepareRead (s : Rk3xI2c) : Rk3xI2c :=
  let len := s.transferLength - s.processed.toNat
  let con := if 32 < len then s.regCon &&& ~~~regConLastack else s.regCon ||| regConLastack
  s.writeCon (if s.processed ≠ 0 then con &&& ~~~regConModMask ||| regConMod .rx else con)

def rk3xI2cHandleStart (ipd : BitVec 32) (mapped : Nat → Bool) (s : Rk3xI2c) : Rk3xI2c :=
  if ipd &&& regIntStart = 0 then rk3xI2cStop .ioDeviceError s
  else
    let s := s.writeCon (s.regCon &&& ~~~regConStart)
    if s.mode = .tx then rk3xI2cFillTransmitBuf mapped { s with state := .write }
    else rk3xI2cPrepareRead { s with state := .read }

/-- The bytes in the transmit FIFO were sent. -/
def Rk3xI2c.transmitted (s : Rk3xI2c) : Rk3xI2c :=
  { s with
    moved := s.moved ++ s.fifo
    fifo := [] }

def rk3xI2cHandleWrite (ipd : BitVec 32) (mapped : Nat → Bool) (s : Rk3xI2c) : Rk3xI2c :=
  if ipd &&& regIntMbtf = 0 then rk3xI2cStop .ioDeviceError s
  else
    let s := s.transmitted
    if s.transferLength ≤ s.processed.toNat then
      rk3xI2cStop s.transactionStatus { s with isLastMsg := true }
    else rk3xI2cFillTransmitBuf mapped s

def rk3xI2cHandleRead (ipd : BitVec 32) (mapped : Nat → Bool) (s : Rk3xI2c) : Rk3xI2c :=
  if ipd &&& regIntMbrf = 0 then s
  else
    let s := readBytes mapped (min (s.transferLength - s.processed.toNat) 32) s
    if s.transferLength ≤ s.processed.toNat then
      rk3xI2cStop s.transactionStatus { s with isLastMsg := true }
    else rk3xI2cPrepareRead s

def rk3xI2cHandleStop (ipd : BitVec 32) (s : Rk3xI2c) : Rk3xI2c :=
  if ipd &&& regIntStop = 0 then rk3xI2cStop .ioDeviceError s
  else { s with state := .idle, dpcQueued := some s.message }.writeCon
    (s.regCon &&& ~~~regConStop)

/-- The pending bits that are left once those "we don't care about" and the NAK are taken off. -/
def leftToHandle (ipd : BitVec 32) : BitVec 32 :=
  ipd &&& ~~~(regIntBrf ||| regIntBtf) &&& ~~~regIntNakrcv

/-- The switch of `rk3x_i2c_irq`. -/
def rk3xI2cHandle (ipd : BitVec 32) (mapped : Nat → Bool) (s : Rk3xI2c) : Rk3xI2c :=
  match s.state with
  | .start => rk3xI2cHandleStart ipd mapped s
  | .write => rk3xI2cHandleWrite ipd mapped s
  | .read => rk3xI2cHandleRead ipd mapped s
  | .stop => rk3xI2cHandleStop ipd s
  | .idle => s

def rk3xI2cIrq (ipd : BitVec 32) (mapped : Nat → Bool) (s : Rk3xI2c) : Rk3xI2c :=
  if s.state = .idle then s
  else
    let s :=
      if ipd &&& ~~~(regIntBrf ||| regIntBtf) &&& regIntNakrcv ≠ 0 then
        rk3xI2cStop .invalidTransaction s
      else s
    if leftToHandle ipd &&& regIntAll = 0 then s
    else rk3xI2cHandle (leftToHandle ipd) mapped s

/-! ## 5. Transfers

`i2c_xfer` runs in a thread, which sets up a message and waits for an event with a limit of time.
Interrupts and the DPC run beside it.  What ends the wait is any of three things, so the thread's
place and the DPC's queue are part of the state, and for which message a DPC was queued is kept
with it. -/

inductive AddressMode
  | sevenBit
  | tenBit
  deriving DecidableEq, Repr

/-- The address mode by `I2C_SERIAL_BUS_SPECIFIC_FLAG_10BIT_ADDRESS`. -/
def addressModeOf (typeSpecificFlags : BitVec 16) : AddressMode :=
  if typeSpecificFlags &&& 0x0001 = 0 then .sevenBit else .tenBit

/-- `OnTargetConnect`, once the connection properties have the right size and type. -/
def onTargetConnect (typeSpecificFlags : BitVec 16) : NtStatus :=
  if addressModeOf typeSpecificFlags ≠ .sevenBit then .notSupported else .success

/-- A target that the driver has let connect. -/
structure PbcTarget where
  typeSpecificFlags : BitVec 16
  connected : onTargetConnect typeSpecificFlags = .success

/-- `Settings.AddressMode`. -/
def PbcTarget.addressMode (target : PbcTarget) : AddressMode :=
  addressModeOf target.typeSpecificFlags

theorem PbcTarget.addressMode_eq (target : PbcTarget) : target.addressMode = .sevenBit := by
  have hconnected := target.connected
  unfold onTargetConnect at hconnected
  by_contra hten
  have htenBit : addressModeOf target.typeSpecificFlags ≠ .sevenBit := hten
  rw [if_pos htenBit] at hconnected
  cases hconnected

inductive Direction
  | fromDevice
  | toDevice
  deriving DecidableEq, Repr

/-- `SPB_TRANSFER_DESCRIPTOR` with its MDL chain. -/
structure Transfer where
  direction : Direction
  transferLength : Nat
  mdlChain : List Nat
  deriving DecidableEq

/-- What a call of `i2c_xfer_single` has returned: for which message, with which status, the length
of the message and the bytes of it that were moved, and the message whose completion has ended
the wait. -/
structure SingleReturn where
  message : Nat
  status : NtStatus
  transferLength : Nat
  moved : List Nat
  completion : Option Nat
  deriving DecidableEq

/-- Where the thread of `i2c_xfer` stands: without a request, before `i2c_xfer_single` for the next
transfer, or in its wait. -/
inductive XferPhase
  | free
  | ready
  | waiting
  deriving DecidableEq, Repr

/-- The device, the last request and how far `i2c_xfer` has got with it, and the returns of
`i2c_xfer_single`. -/
structure I2cWorld extends Rk3xI2c where
  target : PbcTarget
  transfers : List Transfer
  index : Nat
  descriptor : Transfer
  phase : XferPhase
  status : NtStatus
  transferredLength : BitVec 32
  returns : List SingleReturn

/-- `i2c_xfer_single` returns, and the loop of `i2c_xfer` goes on or ends. -/
def I2cWorld.singleReturn (status : NtStatus) (completion : Option Nat) (s : I2cWorld) :
    I2cWorld :=
  let returned : SingleReturn :=
    { message := s.message
      status
      transferLength := s.descriptor.transferLength
      moved := s.moved
      completion }
  let s := { s with status, returns := s.returns ++ [returned] }
  if status ≠ .success then { s with phase := .free }
  else { s with
    transferredLength := s.transferredLength + BitVec.ofNat 32 s.descriptor.transferLength
    index := s.index + 1
    phase := if s.index + 1 < s.transfers.length then .ready else .free }

/-- `i2c_xfer_single` up to its wait. -/
def i2cXferSingle (descriptor : Transfer) (s : I2cWorld) : I2cWorld :=
  let s := { s with descriptor }
  if s.target.addressMode ≠ .sevenBit then s.singleReturn .invalidAddress none
  else { s with
    phase := .waiting
    toRk3xI2c := rk3xI2cStart { s.toRk3xI2c with
      waitEvent := none
      mode := if descriptor.direction = .fromDevice then .registerTx else .tx
      transferLength := descriptor.transferLength
      currentMdlChain := descriptor.mdlChain
      isLastMsg := false
      state := .start
      processed := 0
      transactionStatus := .success
      message := s.message + 1
      fifo := []
      moved := []
      bus := s.bus ++ [.transfer s.index] } }

/-- The wait has expired: a STOP condition is forced without interrupt. -/
def forceStop (s : Rk3xI2c) : Rk3xI2c :=
  { s.writeCon (s.regCon &&& regConTuningMask ||| (regConEn ||| regConStop)) with state := .idle }

/-- What happens: a request of at least one transfer, the next transfer of it, an interrupt, the
DPC, and the three ways in which the wait ends. -/
inductive I2cStep
  | request (target : PbcTarget) (transfers : List Transfer)
  | start
  | irq (ipd : BitVec 32) (mapped : Nat → Bool)
  | dpc
  | wake
  | timeout
  | alert

def i2cStep (s : I2cWorld) : I2cStep → Option I2cWorld
  | .request target transfers =>
    if s.phase = .free ∧ transfers ≠ [] then
      some { s with
        target
        transfers
        index := 0
        phase := .ready
        status := .success
        transferredLength := 0
        bus := [] }
    else none
  | .start =>
    match s.phase, s.transfers[s.index]? with
    | .ready, some descriptor => some (i2cXferSingle descriptor s)
    | _, _ => none
  | .irq ipd mapped => some { s with toRk3xI2c := rk3xI2cIrq ipd mapped s.toRk3xI2c }
  | .dpc =>
    match s.dpcQueued with
    | none => none
    | some m => some ({ s with dpcQueued := none, waitEvent := some m } : I2cWorld)
  | .wake =>
    match s.phase, s.waitEvent with
    | .waiting, some m => some (s.singleReturn s.transactionStatus (some m))
    | _, _ => none
  | .timeout =>
    if s.phase = .waiting ∧ s.waitEvent = none then
      some ({ s with toRk3xI2c := forceStop s.toRk3xI2c }.singleReturn .ioTimeout none)
    else none
  | .alert =>
    if s.phase = .waiting ∧ s.waitEvent = none then
      some (s.singleReturn s.transactionStatus none)
    else none

/-- After `OnD0Entry`: no request, the state machine at rest. -/
def I2cWorld.Fresh (s : I2cWorld) : Prop :=
  s.phase = .free ∧ s.state = .idle ∧ s.regCon &&& regConStart = 0 ∧ s.dpcQueued = none
    ∧ s.waitEvent = none ∧ s.returns = [] ∧ s.transfers = []

/-- A device that has not been used. -/
def idleI2c : I2cWorld where
  regCon := 0
  mode := .tx
  isLastMsg := false
  state := .idle
  processed := 0
  transactionStatus := .success
  transferLength := 0
  currentMdlChain := []
  dpcQueued := none
  waitEvent := none
  message := 0
  fifo := []
  moved := []
  bus := []
  target := ⟨0, by decide⟩
  transfers := []
  index := 0
  descriptor := ⟨.toDevice, 0, []⟩
  phase := .free
  status := .success
  transferredLength := 0
  returns := []

theorem idleI2c_fresh : idleI2c.Fresh := ⟨rfl, rfl, by decide, rfl, rfl, rfl, rfl⟩

/-- An interrupt with these pending bits, all MDLs mapped. -/
def pending (ipd : BitVec 32) : I2cStep := .irq ipd fun _ => true

/-! ## 6. What moving bytes leaves alone

Most of the proofs about framing and completion do not depend on the bytes; this is how they are
set aside. -/

/-- The bytes apart, two devices are the same. -/
structure SameControl (s t : Rk3xI2c) : Prop where
  regCon : t.regCon = s.regCon
  isLastMsg : t.isLastMsg = s.isLastMsg
  state : t.state = s.state
  transferLength : t.transferLength = s.transferLength
  dpcQueued : t.dpcQueued = s.dpcQueued
  waitEvent : t.waitEvent = s.waitEvent
  message : t.message = s.message
  bus : t.bus = s.bus

theorem SameControl.refl (s : Rk3xI2c) : SameControl s s :=
  ⟨rfl, rfl, rfl, rfl, rfl, rfl, rfl, rfl⟩

theorem SameControl.trans {s t u : Rk3xI2c} (hst : SameControl s t) (htu : SameControl t u) :
    SameControl s u :=
  ⟨htu.regCon.trans hst.regCon, htu.isLastMsg.trans hst.isLastMsg, htu.state.trans hst.state,
    htu.transferLength.trans hst.transferLength, htu.dpcQueued.trans hst.dpcQueued,
    htu.waitEvent.trans hst.waitEvent, htu.message.trans hst.message, htu.bus.trans hst.bus⟩

theorem fillByte_sameControl (mapped : Nat → Bool) (cnt : Nat) (s : Rk3xI2c) :
    SameControl s (fillByte mapped cnt s) := by
  unfold fillByte
  split
  · exact .refl s
  · split
    · exact ⟨rfl, rfl, rfl, rfl, rfl, rfl, rfl, rfl⟩
    · exact ⟨rfl, rfl, rfl, rfl, rfl, rfl, rfl, rfl⟩

theorem fillWord_sameControl (mapped : Nat → Bool) : ∀ (n cnt : Nat) (s : Rk3xI2c),
    SameControl s (fillWord mapped n cnt s).2
  | 0, _, s => .refl s
  | n + 1, cnt, s => by
    rw [fillWord]
    split
    · exact .refl s
    · exact (fillByte_sameControl mapped cnt s).trans (fillWord_sameControl mapped n _ _)

theorem fillWords_sameControl (mapped : Nat → Bool) : ∀ (n cnt : Nat) (s : Rk3xI2c),
    SameControl s (fillWords mapped n cnt s)
  | 0, _, s => .refl s
  | n + 1, cnt, s => by
    have hword := fillWord_sameControl mapped 4 cnt s
    rw [fillWords]
    split
    · exact hword
    · exact hword.trans (fillWords_sameControl mapped n _ _)

theorem readBytes_sameControl (mapped : Nat → Bool) : ∀ (n : Nat) (s : Rk3xI2c),
    SameControl s (readBytes mapped n s)
  | 0, s => .refl s
  | n + 1, s => by
    rw [readBytes]
    split
    · refine SameControl.trans ?_ (readBytes_sameControl mapped n _)
      exact ⟨rfl, rfl, rfl, rfl, rfl, rfl, rfl, rfl⟩
    · exact ⟨rfl, rfl, rfl, rfl, rfl, rfl, rfl, rfl⟩

end WoaRk3576.I2c
