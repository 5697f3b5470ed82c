/-
# The data of an rk3xi2c message

The bytes of a message, which the model of the state machine counts only.  `I2cMessage` adds to its
device the address, the memory behind the MDL chain and the transmit FIFO.

The controller acts when one of its two counts is written, so an observer keeps the writes: each of
`REG_MTXCNT` with the bytes that were put into the FIFO and with its registers (`TxFill`), and each
of `REG_MRXCNT` with `REG_CON` (`RxRequest`).

What does not touch the data is the state machine's own, applied to the device (`control`), and the
interrupt routine does to the device what it does there (`i2cMessageIrq_toRk3xI2c`).  So the states
of a message, its ends and its completion are those of `Rk3x.lean`, and what is to be shown of the
data is how a handler takes the next bytes out of the chain or puts them there.  The place of byte
`i` of the message in the chain is found by walking along the MDLs from the first one, each time
anew (`locate`, of `Lib/Segments.lean`).

`WriteData.lean` and `ReadData.lean` are the two directions.  What they share is what ends a
message: `processed` reaching the length, which a counter of 32 bits cannot do for a longer one.
-/
import WoaRk3576.Lib.Bits
import WoaRk3576.Lib.Lanes
import WoaRk3576.Lib.Segments
import WoaRk3576.I2c.Rk3x

namespace WoaRk3576.I2c

open WoaRk3576.Lib

/-! ## 1. The device and its FIFOs

The device of the state machine with memory, the registers of the FIFOs and a log of the fills and
the requests. -/

/-- A write of `REG_MTXCNT`: the bytes that were put into the FIFO before, the count, and the
registers of the FIFO. -/
structure TxFill where
  loaded : List (BitVec 8)
  mtxcnt : BitVec 32
  txBuffer : Nat → BitVec 32

/-- What the controller sends: as many bytes of the FIFO as the count says. -/
def TxFill.bytes (fill : TxFill) : List (BitVec 8) := lanes fill.txBuffer fill.mtxcnt.toNat

/-- A write of `REG_MRXCNT`, with `REG_CON`. -/
structure RxRequest where
  mrxcnt : BitVec 32
  regCon : BitVec 32

/-- The device with the data of its message; `memory k` is the buffer of the `k`-th MDL of the
chain. -/
structure I2cMessage extends Rk3xI2c where
  i2cAddress : BitVec 8
  memory : Nat → Nat → BitVec 8
  txBuffer : Nat → BitVec 32
  fills : List TxFill
  requests : List RxRequest

/-- An interrupt: the pending bits, which MDLs can be mapped, the receive FIFO, and what a local
`byte` holds that was not set. -/
structure Interrupt where
  ipd : BitVec 32
  mapped : Nat → Bool
  rxBuffer : Nat → BitVec 32
  byte : BitVec 8

/-- What is done to the device only. -/
def I2cMessage.control (f : Rk3xI2c → Rk3xI2c) (s : I2cMessage) : I2cMessage :=
  { s with toRk3xI2c := f s.toRk3xI2c }

section Control

variable (f : Rk3xI2c → Rk3xI2c) (s : I2cMessage)

@[simp]
theorem control_toRk3xI2c : (s.control f).toRk3xI2c = f s.toRk3xI2c := rfl

@[simp]
theorem control_i2cAddress : (s.control f).i2cAddress = s.i2cAddress := rfl

@[simp]
theorem control_memory : (s.control f).memory = s.memory := rfl

@[simp]
theorem control_txBuffer : (s.control f).txBuffer = s.txBuffer := rfl

@[simp]
theorem control_fills : (s.control f).fills = s.fills := rfl

@[simp]
theorem control_requests : (s.control f).requests = s.requests := rfl

end Control

/-! ## 2. The MDL chain

The walk counts down through the lengths of the chain.  It is done again for every byte, so it is a
function of the position. -/

/-- The walk of `MdlChainGetByte` and `MdlChainSetByte`: the MDL and the offset of the byte, where
its MDL can be mapped. -/
def mdlChainFind (mapped : Nat → Bool) : Nat → List Nat → Nat → Option (Nat × Nat)
  | _, [], _ => none
  | k, mdlByteCount :: next, currentOffset =>
    if currentOffset < mdlByteCount then if mapped k then some (k, currentOffset) else none
    else mdlChainFind mapped (k + 1) next (currentOffset - mdlByteCount)

/-- Where the next byte of the message lies. -/
def I2cMessage.mdlFind (mapped : Nat → Bool) (s : I2cMessage) : Option (Nat × Nat) :=
  if s.processed.toNat < s.transferLength then
    mdlChainFind mapped 0 s.currentMdlChain s.processed.toNat
  else none

/-- `MdlChainGetByte` of the next byte; `byte` is left as it was where it fails. -/
def I2cMessage.mdlChainGetByte (mapped : Nat → Bool) (byte : BitVec 8) (s : I2cMessage) : BitVec 8 :=
  match s.mdlFind mapped with
  | some (k, j) => s.memory k j
  | none => byte

/-- `MdlChainSetByte` of the next byte. -/
def I2cMessage.mdlChainSetByte (mapped : Nat → Bool) (byte : BitVec 8) (s : I2cMessage) :
    I2cMessage :=
  match s.mdlFind mapped with
  | some (k, j) => { s with memory := put s.memory k j byte }
  | none => s

/-- The walk succeeds where it finds the byte. -/
theorem mdlChainWalk_eq (mapped : Nat → Bool) (mdlChain : List Nat) : ∀ k i,
    mdlChainWalk mapped k mdlChain i
      = if (mdlChainFind mapped k mdlChain i).isSome then .success else .infoLengthMismatch := by
  induction mdlChain with
  | nil => exact fun _ _ => rfl
  | cons mdlByteCount next ih =>
    intro k i
    rw [mdlChainWalk, mdlChainFind]
    split
    · cases mapped k
      · rfl
      · rfl
    · exact ih _ _

theorem mdlStatus_eq (mapped : Nat → Bool) (s : I2cMessage) :
    s.mdlStatus mapped
      = if (s.mdlFind mapped).isSome then .success else .infoLengthMismatch := by
  unfold Rk3xI2c.mdlStatus mdlChainByte I2cMessage.mdlFind
  split
  · exact mdlChainWalk_eq mapped _ _ _
  · rfl

/-- With every MDL mapped, the walk finds what lies at the byte's location. -/
theorem mdlChainFind_eq_locate {mapped : Nat → Bool} (hmapped : ∀ k, mapped k = true)
    (mdlChain : List Nat) : ∀ k i, mdlChainFind mapped k mdlChain i = locate k mdlChain i := by
  induction mdlChain with
  | nil => exact fun _ _ => rfl
  | cons mdlByteCount next ih =>
    intro k i
    rw [mdlChainFind, locate, ih, if_pos (hmapped k)]

/-! ## 3. Filling the transmit FIFO

The loops put four bytes into a word and eight words into the FIFO.  The address is the first byte
of the message, and it is not counted by `processed`, which is why the two differ by one from then
on. -/

/-- The locals of `rk3x_i2c_fill_transmit_buf`, and the bytes that were put into the FIFO. -/
structure FillLocals where
  cnt : Nat
  byte : BitVec 8
  val : BitVec 32
  loaded : List (BitVec 8)

/-- The byte that comes next: the address first. -/
def I2cMessage.nextByte (mapped : Nat → Bool) (f : FillLocals) (s : I2cMessage) : BitVec 8 :=
  if s.processed = 0 ∧ f.cnt = 0 then (s.i2cAddress &&& 0x7f) <<< 1
  else s.mdlChainGetByte mapped f.byte

/-- A byte goes into `val`. -/
def FillLocals.load (j : Nat) (byte : BitVec 8) (f : FillLocals) : FillLocals where
  cnt := f.cnt + 1
  byte := byte
  val := f.val ||| byte.setWidth 32 <<< (j * 8)
  loaded := f.loaded ++ [byte]

/-- The inner loop, with the iterations that are left. -/
def I2cMessage.loadWord (mapped : Nat → Bool) : Nat → FillLocals → I2cMessage →
    FillLocals × I2cMessage
  | 0, f, s => (f, s)
  | n + 1, f, s =>
    if s.processed.toNat = s.transferLength ∧ f.cnt ≠ 0 then (f, s)
    else loadWord mapped n (f.load (3 - n) (s.nextByte mapped f)) (s.control (fillByte mapped f.cnt))

/-- The body of the outer loop: a word, and its write. -/
def I2cMessage.writeWord (mapped : Nat → Bool) (i : Nat) (f : FillLocals) (s : I2cMessage) :
    FillLocals × I2cMessage :=
  let word := s.loadWord mapped 4 { f with val := 0 }
  (word.1, { word.2 with txBuffer := Function.update word.2.txBuffer i word.1.val })

/-- The outer loop. -/
def I2cMessage.loadWords (mapped : Nat → Bool) : Nat → FillLocals → I2cMessage →
    FillLocals × I2cMessage
  | 0, f, s => (f, s)
  | n + 1, f, s =>
    if (s.writeWord mapped (7 - n) f).2.processed.toNat
        = (s.writeWord mapped (7 - n) f).2.transferLength then s.writeWord mapped (7 - n) f
    else loadWords mapped n (s.writeWord mapped (7 - n) f).1 (s.writeWord mapped (7 - n) f).2

/-- The locals at the beginning. -/
def FillLocals.start (byte : BitVec 8) : FillLocals where
  cnt := 0
  byte := byte
  val := 0
  loaded := []

/-- `REG_MTXCNT` is written. -/
def I2cMessage.writeMtxcnt (f : FillLocals) (s : I2cMessage) : I2cMessage :=
  { s with fills := s.fills ++ [⟨f.loaded, BitVec.ofNat 32 f.cnt, s.txBuffer⟩] }

/-- **`rk3x_i2c_fill_transmit_buf`**. -/
def fillTransmitBuf (e : Interrupt) (s : I2cMessage) : I2cMessage :=
  (s.loadWords e.mapped 8 (.start e.byte)).2.writeMtxcnt (s.loadWords e.mapped 8 (.start e.byte)).1

/-! ## 4. Receiving

A word is read from the FIFO for every four bytes, and its bytes are stored one by one through the
chain. -/

/-- **`rk3x_i2c_prepare_read`**. -/
def prepareRead (s : I2cMessage) : I2cMessage :=
  { s.control rk3xI2cPrepareRead with
    requests := s.requests ++
      [⟨BitVec.ofNat 32 (min (s.transferLength - s.processed.toNat) 32),
        (rk3xI2cPrepareRead s.toRk3xI2c).regCon⟩] }

/-- `val`, which is read from the FIFO for every fourth byte. -/
def nextVal (rxBuffer : Nat → BitVec 32) (i : Nat) (val : BitVec 32) : BitVec 32 :=
  if i % 4 = 0 then rxBuffer (i / 4) else val

/-- The next byte of the message is stored. -/
def I2cMessage.storeByte (mapped : Nat → Bool) (byte : BitVec 8) (s : I2cMessage) : I2cMessage :=
  (s.mdlChainSetByte mapped byte).control fun d =>
    { d with
      processed := d.processed + 1
      moved := d.moved ++ [d.processed.toNat] }

/-- The loop of `rk3x_i2c_handle_read`, with the iterations that are left. -/
def I2cMessage.receiveBytes (mapped : Nat → Bool) (rxBuffer : Nat → BitVec 32) :
    Nat → Nat → BitVec 32 → I2cMessage → I2cMessage
  | 0, _, _, s => s
  | n + 1, i, val, s =>
    if s.mdlStatus mapped = .success then
      receiveBytes mapped rxBuffer n (i + 1) (nextVal rxBuffer i val)
        (s.storeByte mapped (lane (nextVal rxBuffer i val) (i % 4)))
    else
      s.control fun d =>
        { d with
          processed := d.processed + 1
          transactionStatus := d.mdlStatus mapped }

/-! ## 5. The interrupt routine

The routine again, with the data.  A local variable that is not set where a walk fails is a part of
the interrupt. -/

/-- `rk3x_i2c_handle_start`. -/
def handleStart (e : Interrupt) (s : I2cMessage) : I2cMessage :=
  if e.ipd &&& regIntStart = 0 then s.control (rk3xI2cStop .ioDeviceError)
  else
    let s := s.control fun d => d.writeCon (d.regCon &&& ~~~regConStart)
    if s.mode = .tx then fillTransmitBuf e (s.control fun d => { d with state := .write })
    else prepareRead (s.control fun d => { d with state := .read })

/-- The message has ended. -/
def finish (s : I2cMessage) : I2cMessage :=
  s.control fun d => rk3xI2cStop d.transactionStatus { d with isLastMsg := true }

/-- `rk3x_i2c_handle_write`. -/
def handleWrite (e : Interrupt) (s : I2cMessage) : I2cMessage :=
  if e.ipd &&& regIntMbtf = 0 then s.control (rk3xI2cStop .ioDeviceError)
  else
    let s := s.control Rk3xI2c.transmitted
    if s.transferLength ≤ s.processed.toNat then finish s else fillTransmitBuf e s

/-- `rk3x_i2c_handle_read`. -/
def handleRead (e : Interrupt) (s : I2cMessage) : I2cMessage :=
  if e.ipd &&& regIntMbrf = 0 then s
  else
    let s := s.receiveBytes e.mapped e.rxBuffer
      (min (s.transferLength - s.processed.toNat) 32) 0 0
    if s.transferLength ≤ s.processed.toNat then finish s else prepareRead s

/-- The switch of `rk3x_i2c_irq`. -/
def handle (e : Interrupt) (s : I2cMessage) : I2cMessage :=
  match s.state with
  | .start => handleStart e s
  | .write => handleWrite e s
  | .read => handleRead e s
  | .stop => s.control (rk3xI2cHandleStop e.ipd)
  | .idle => s

/-- The interrupt with the pending bits that are left to handle. -/
def Interrupt.left (e : Interrupt) : Interrupt := { e with ipd := leftToHandle e.ipd }

/-- **`rk3x_i2c_irq`**. -/
def i2cMessageIrq (e : Interrupt) (s : I2cMessage) : I2cMessage :=
  if s.state = .idle then s
  else
    let s :=
      if e.ipd &&& ~~~(regIntBrf ||| regIntBtf) &&& regIntNakrcv ≠ 0 then
        s.control (rk3xI2cStop .invalidTransaction)
      else s
    if leftToHandle e.ipd &&& regIntAll = 0 then s
    else handle e.left s

/-- `i2c_xfer_single` up to its wait, for the transfer `index` of the request. -/
def i2cMessageSetUp (address : BitVec 16) (descriptor : Transfer) (memory : Nat → Nat → BitVec 8)
    (index : Nat) (s : I2cMessage) : I2cMessage :=
  { s with
    toRk3xI2c := rk3xI2cStart { s.toRk3xI2c with
      waitEvent := none
      mode := if descriptor.direction = .fromDevice then .registerTx else .tx
      transferLength := descriptor.transferLength
      currentMdlChain := descriptor.mdlChain
      isLastMsg := false
      state := .start
      processed := 0
      transactionStatus := .success
      message := s.message + 1
      fifo := []
      moved := []
      bus := s.bus ++ [.transfer index] }
    i2cAddress := address.setWidth 8
    memory
    fills := []
    requests := [] }

/-- The interrupts that follow. -/
def answers (es : List Interrupt) (s : I2cMessage) : I2cMessage :=
  es.foldl (fun s e => i2cMessageIrq e s) s

/-- The device after an interrupt and `k` more. -/
def messageRun (start : Interrupt) (answered : Nat → Interrupt) (s : I2cMessage) (k : Nat) :
    I2cMessage :=
  answers (start :: (List.range k).map answered) s

theorem messageRun_succ (start : Interrupt) (answered : Nat → Interrupt) (s : I2cMessage)
    (k : Nat) :
    messageRun start answered s (k + 1)
      = i2cMessageIrq (answered k) (messageRun start answered s k) := by
  simp [messageRun, answers, List.range_succ]

/-- A device that has not been used. -/
def idleMessage : I2cMessage where
  toRk3xI2c := idleI2c.toRk3xI2c
  i2cAddress := 0
  memory := fun _ _ => 0
  txBuffer := fun _ => 0
  fills := []
  requests := []

/-! ## 6. The device is that of the state machine

Without the data it is the routine of `Rk3x.lean`, step by step, so what is proved there holds
here. -/

theorem loadWord_eq (mapped : Nat → Bool) (n : Nat) : ∀ (f : FillLocals) (s : I2cMessage),
    (s.loadWord mapped n f).1.cnt = (fillWord mapped n f.cnt s.toRk3xI2c).1
      ∧ (s.loadWord mapped n f).2
        = { s with toRk3xI2c := (fillWord mapped n f.cnt s.toRk3xI2c).2 } := by
  induction n with
  | zero => exact fun _ _ => ⟨rfl, rfl⟩
  | succ n ih =>
    intro f s
    rw [I2cMessage.loadWord, fillWord]
    split
    · exact ⟨rfl, rfl⟩
    · exact ih _ _

theorem loadWords_eq (mapped : Nat → Bool) (n : Nat) : ∀ (f : FillLocals) (s : I2cMessage),
    (s.loadWords mapped n f).2.toRk3xI2c = fillWords mapped n f.cnt s.toRk3xI2c := by
  induction n with
  | zero => exact fun _ _ => rfl
  | succ n ih =>
    intro f s
    obtain ⟨hcnt, hword⟩ := loadWord_eq mapped 4 { f with val := 0 } s
    have hdevice : (s.writeWord mapped (7 - n) f).2.toRk3xI2c
        = (fillWord mapped 4 f.cnt s.toRk3xI2c).2 := congrArg I2cMessage.toRk3xI2c hword
    have hfst : (s.writeWord mapped (7 - n) f).1.cnt
        = (fillWord mapped 4 f.cnt s.toRk3xI2c).1 := hcnt
    rw [I2cMessage.loadWords, fillWords, hdevice]
    split
    · exact hdevice
    · rw [ih, hdevice, hfst]

theorem fillTransmitBuf_toRk3xI2c (e : Interrupt) (s : I2cMessage) :
    (fillTransmitBuf e s).toRk3xI2c = rk3xI2cFillTransmitBuf e.mapped s.toRk3xI2c :=
  loadWords_eq e.mapped 8 (.start e.byte) s

theorem mdlChainSetByte_toRk3xI2c (mapped : Nat → Bool) (byte : BitVec 8) (s : I2cMessage) :
    (s.mdlChainSetByte mapped byte).toRk3xI2c = s.toRk3xI2c := by
  unfold I2cMessage.mdlChainSetByte
  split
  · rfl
  · rfl

theorem receiveBytes_toRk3xI2c (mapped : Nat → Bool) (rxBuffer : Nat → BitVec 32) (n : Nat) :
    ∀ (i : Nat) (val : BitVec 32) (s : I2cMessage),
    (s.receiveBytes mapped rxBuffer n i val).toRk3xI2c = readBytes mapped n s.toRk3xI2c := by
  induction n with
  | zero => exact fun _ _ _ => rfl
  | succ n ih =>
    intro i val s
    rw [I2cMessage.receiveBytes, readBytes]
    split
    · rw [ih, I2cMessage.storeByte, control_toRk3xI2c, mdlChainSetByte_toRk3xI2c]
    · rfl

theorem handleStart_toRk3xI2c (e : Interrupt) (s : I2cMessage) :
    (handleStart e s).toRk3xI2c = rk3xI2cHandleStart e.ipd e.mapped s.toRk3xI2c := by
  unfold handleStart rk3xI2cHandleStart
  split
  · rfl
  · dsimp only
    rw [apply_ite I2cMessage.toRk3xI2c, fillTransmitBuf_toRk3xI2c]
    rfl

theorem handleWrite_toRk3xI2c (e : Interrupt) (s : I2cMessage) :
    (handleWrite e s).toRk3xI2c = rk3xI2cHandleWrite e.ipd e.mapped s.toRk3xI2c := by
  unfold handleWrite rk3xI2cHandleWrite
  split
  · rfl
  · dsimp only
    rw [apply_ite I2cMessage.toRk3xI2c, fillTransmitBuf_toRk3xI2c]
    rfl

theorem handleRead_toRk3xI2c (e : Interrupt) (s : I2cMessage) :
    (handleRead e s).toRk3xI2c = rk3xI2cHandleRead e.ipd e.mapped s.toRk3xI2c := by
  unfold handleRead rk3xI2cHandleRead
  split
  · rfl
  · dsimp only
    rw [apply_ite I2cMessage.toRk3xI2c, finish, prepareRead, control_toRk3xI2c, control_toRk3xI2c,
      receiveBytes_toRk3xI2c]

theorem handle_toRk3xI2c (e : Interrupt) (s : I2cMessage) :
    (handle e s).toRk3xI2c = rk3xI2cHandle e.ipd e.mapped s.toRk3xI2c := by
  unfold handle rk3xI2cHandle
  cases s.state with
  | start => exact handleStart_toRk3xI2c e s
  | write => exact handleWrite_toRk3xI2c e s
  | read => exact handleRead_toRk3xI2c e s
  | stop => rfl
  | idle => rfl

/-- **The interrupt routine** does to the device what it does there. -/
theorem i2cMessageIrq_toRk3xI2c (e : Interrupt) (s : I2cMessage) :
    (i2cMessageIrq e s).toRk3xI2c = rk3xI2cIrq e.ipd e.mapped s.toRk3xI2c := by
  unfold i2cMessageIrq rk3xI2cIrq
  split
  · rfl
  · dsimp only
    split
    · split
      · rfl
      · rfl
    · rw [handle_toRk3xI2c]
      congr 1
      split
      · rfl
      · rfl

/-- **A message is set up** as `i2c_xfer_single` does it. -/
theorem i2cMessageSetUp_toRk3xI2c (address : BitVec 16) (descriptor : Transfer)
    (memory : Nat → Nat → BitVec 8) {s : I2cMessage} {w : I2cWorld}
    (h : w.toRk3xI2c = s.toRk3xI2c) :
    (i2cMessageSetUp address descriptor memory w.index s).toRk3xI2c
      = (i2cXferSingle descriptor w).toRk3xI2c := by
  have hseven : ¬ w.target.addressMode ≠ .sevenBit := not_not.mpr w.target.addressMode_eq
  unfold i2cXferSingle i2cMessageSetUp
  dsimp only
  rw [if_neg hseven, ← h]

/-! ## 7. The interrupts of a message that goes well

With every interrupt as it is expected, the routine comes down to one of three functions. -/

/-- An interrupt that is waited for: it is pending, the last byte was acknowledged, and the MDLs can
be mapped. -/
structure Interrupt.Answers (event : BitVec 32) (e : Interrupt) : Prop where
  pending : e.ipd &&& event ≠ 0
  acknowledged : e.ipd &&& regIntNakrcv = 0
  mapped : ∀ k, e.mapped k = true

/-- An interrupt with only this pending. -/
def interrupt (event : BitVec 32) : Interrupt where
  ipd := event
  mapped := fun _ => true
  rxBuffer := fun _ => 0
  byte := 0

theorem interrupt_answers (event : BitVec 32) (hany : event &&& event ≠ 0)
    (hnak : event &&& regIntNakrcv = 0) : (interrupt event).Answers event :=
  ⟨hany, hnak, fun _ => rfl⟩

/-- Such an interrupt is handled. -/
theorem Interrupt.Answers.irq {event : BitVec 32} {e : Interrupt} (h : e.Answers event)
    (hevent : ~~~(regIntBrf ||| regIntBtf) &&& (~~~regIntNakrcv &&& event) = event)
    (hall : event &&& regIntAll = event) {s : I2cMessage} (hbusy : s.state ≠ .idle) :
    e.left.ipd &&& event ≠ 0 ∧ i2cMessageIrq e s = handle e.left s := by
  have hleft : leftToHandle e.ipd &&& event = e.ipd &&& event := by
    rw [leftToHandle, BitVec.and_assoc, BitVec.and_assoc, hevent]
  have hpending : leftToHandle e.ipd &&& event ≠ 0 := hleft ▸ h.pending
  have hany : ¬ leftToHandle e.ipd &&& regIntAll = 0 := fun hnone =>
    hpending (by rw [← hall, ← BitVec.and_assoc, and_apart_left event hnone])
  refine ⟨hpending, ?_⟩
  unfold i2cMessageIrq
  rw [if_neg hbusy, if_neg (not_not.mpr (and_apart_left _ h.acknowledged))]
  dsimp only
  rw [if_neg hany]

section States

variable {e : Interrupt} {s : I2cMessage}

/-- A START condition that was sent. -/
theorem Interrupt.Answers.irq_start (h : e.Answers regIntStart) (hstate : s.state = .start) :
    e.left.ipd &&& regIntStart ≠ 0 ∧ i2cMessageIrq e s = handleStart e.left s := by
  have hbusy : s.state ≠ .idle := by simp [hstate]
  obtain ⟨hpending, hirq⟩ := h.irq (by decide) (by decide) hbusy
  refine ⟨hpending, hirq.trans ?_⟩
  rw [handle, hstate]

/-- A transmission that is over. -/
theorem Interrupt.Answers.irq_write (h : e.Answers regIntMbtf) (hstate : s.state = .write) :
    e.left.ipd &&& regIntMbtf ≠ 0 ∧ i2cMessageIrq e s = handleWrite e.left s := by
  have hbusy : s.state ≠ .idle := by simp [hstate]
  obtain ⟨hpending, hirq⟩ := h.irq (by decide) (by decide) hbusy
  refine ⟨hpending, hirq.trans ?_⟩
  rw [handle, hstate]

/-- A chunk that was received. -/
theorem Interrupt.Answers.irq_read (h : e.Answers regIntMbrf) (hstate : s.state = .read) :
    e.left.ipd &&& regIntMbrf ≠ 0 ∧ i2cMessageIrq e s = handleRead e.left s := by
  have hbusy : s.state ≠ .idle := by simp [hstate]
  obtain ⟨hpending, hirq⟩ := h.irq (by decide) (by decide) hbusy
  refine ⟨hpending, hirq.trans ?_⟩
  rw [handle, hstate]

end States

theorem handleStart_write {e : Interrupt} {s : I2cMessage} (hpending : e.ipd &&& regIntStart ≠ 0)
    (htx : s.mode = .tx) :
    handleStart e s = fillTransmitBuf e
      ((s.control fun d => d.writeCon (d.regCon &&& ~~~regConStart)).control
        fun d => { d with state := .write }) :=
  (if_neg hpending).trans (if_pos htx)

theorem handleStart_read {e : Interrupt} {s : I2cMessage} (hpending : e.ipd &&& regIntStart ≠ 0)
    (hrx : s.mode ≠ .tx) :
    handleStart e s = prepareRead
      ((s.control fun d => d.writeCon (d.regCon &&& ~~~regConStart)).control
        fun d => { d with state := .read }) :=
  (if_neg hpending).trans (if_neg hrx)

theorem handleWrite_more {e : Interrupt} {s : I2cMessage} (hpending : e.ipd &&& regIntMbtf ≠ 0)
    (hmore : s.processed.toNat < s.transferLength) :
    handleWrite e s = fillTransmitBuf e (s.control Rk3xI2c.transmitted) :=
  (if_neg hpending).trans (if_neg (Nat.not_le.mpr hmore))

theorem handleWrite_end {e : Interrupt} {s : I2cMessage} (hpending : e.ipd &&& regIntMbtf ≠ 0)
    (hend : s.transferLength ≤ s.processed.toNat) :
    handleWrite e s = finish (s.control Rk3xI2c.transmitted) :=
  (if_neg hpending).trans (if_pos hend)

/-- What `handleRead` takes out of the FIFO. -/
def I2cMessage.receive (e : Interrupt) (s : I2cMessage) : I2cMessage :=
  s.receiveBytes e.mapped e.rxBuffer (min (s.transferLength - s.processed.toNat) 32) 0 0

theorem handleRead_more {e : Interrupt} {s : I2cMessage} (hpending : e.ipd &&& regIntMbrf ≠ 0)
    (hmore : (s.receive e).processed.toNat < (s.receive e).transferLength) :
    handleRead e s = prepareRead (s.receive e) :=
  (if_neg hpending).trans (if_neg (Nat.not_le.mpr hmore))

theorem handleRead_end {e : Interrupt} {s : I2cMessage} (hpending : e.ipd &&& regIntMbrf ≠ 0)
    (hend : (s.receive e).transferLength ≤ (s.receive e).processed.toNat) :
    handleRead e s = finish (s.receive e) :=
  (if_neg hpending).trans (if_pos hend)

/-- Bytes of the message have a location. -/
theorem mdlFind_eq {mapped : Nat → Bool} {s : I2cMessage} (hmapped : ∀ k, mapped k = true)
    (henough : s.transferLength ≤ s.currentMdlChain.sum)
    (hlt : s.processed.toNat < s.transferLength) :
    ∃ p, s.mdlFind mapped = some p
      ∧ locate 0 s.currentMdlChain s.processed.toNat = some p := by
  obtain ⟨p, hp⟩ := exists_locate (k := 0) (hlt.trans_le henough)
  refine ⟨p, ?_, hp⟩
  rw [I2cMessage.mdlFind, if_pos hlt, mdlChainFind_eq_locate hmapped, hp]

theorem mdlStatus_success {mapped : Nat → Bool} {s : I2cMessage} (hmapped : ∀ k, mapped k = true)
    (henough : s.transferLength ≤ s.currentMdlChain.sum)
    (hlt : s.processed.toNat < s.transferLength) : s.mdlStatus mapped = .success := by
  obtain ⟨p, hp, -⟩ := mdlFind_eq hmapped henough hlt
  rw [mdlStatus_eq, hp]
  rfl

/-! ## 8. A message that is too long

`processed` goes back to 0 before it reaches the length, so the end of the message is never seen. -/

/-- The message under way, which is too long for `processed`. -/
structure Endless (state : Rk3xI2cState) (s : I2cMessage) : Prop where
  long : 2 ^ 32 ≤ s.transferLength
  state : s.state = state

/-- **Such a message never ends**, if no answer ends it. -/
theorem Endless.run {state : Rk3xI2cState} {start : Interrupt} {answered : Nat → Interrupt}
    {s : I2cMessage} (hfirst : Endless state (i2cMessageIrq start s))
    (hnext : ∀ k s, Endless state s → Endless state (i2cMessageIrq (answered k) s)) (k : Nat) :
    Endless state (messageRun start answered s k) := by
  induction k with
  | zero => exact hfirst
  | succ k ih =>
    rw [messageRun_succ]
    exact hnext k _ ih

end WoaRk3576.I2c
