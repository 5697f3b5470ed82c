/-
# The transfer engine of rk3xspi: `Rk3xSpiTransfer`

The driver cuts a transfer into chunks of at most `RKSPI_MAX_FRAMES` frames.  In a chunk it pushes
bytes into the TX FIFO while it is at most `RKSPI_FIFO_DEPTH` frames ahead of what it read, then
drains the RX FIFO, until the chunk is read; then it waits for the shift engine to become idle.  A
polling budget may run out after every drain and while it waits.

The device shifts whenever it is enabled and a slave is selected: the first byte of the TX FIFO is
clocked out and the received byte goes into the RX FIFO, or is lost when that is full.  It may
shift between any two accesses of the driver.  Disabling the controller empties both FIFOs.  What
the status register says of TX-full and busy is arbitrary; RX-empty may come late, but the RX FIFO
is not reported to hold a frame when it is empty.

`transfer_exact` is the result: the frames clocked out are `Tx` in order, what comes back is stored
in `Rx` in order, and every exit leaves the slave released and the controller disabled.

The invariant follows the bytes and not the cursors (`Flowing`): of the bytes that were pushed some
are queued, some were clocked, and of the answers some wait and some are stored.
`Lib/Exchange.lean` has the three moves that keep them in order.  The cursors of a chunk then only
say how many there are, at each access of the driver (`PcInv`).

* That nothing is lost in a full RX FIFO is not a test of the driver but arithmetic: it is at most
  `RKSPI_FIFO_DEPTH` frames ahead, so no more are in flight than the FIFO can hold
  (`Flowing.inFlight`).
* That nothing is lost when a chunk ends and the controller is disabled is that everything pushed
  was read by then, so that both FIFOs are empty (`Flowing.empty`).
* On a time-out they need not be.  What is stored is then the beginning of the answers, and the
  exits are the same.
-/
import WoaRk3576.Lib.Transition
import WoaRk3576.Lib.Exchange

namespace WoaRk3576.Spi

open WoaRk3576.Lib

/-! ## 1. The request and the device

The device is a TX and an RX FIFO and a shifter between them, with no promise on when it shifts.
The memory at `Rx` and the frames clocked are recorded; the model loses an answer if the RX FIFO is
full, so that no frame is lost has to be proved. -/

/-- `RKSPI_FIFO_DEPTH`. -/
def rkspiFifoDepth : Nat := 32

/-- `RKSPI_MAX_FRAMES`. -/
def rkspiMaxFrames : Nat := 0xFFFF

/-- `RK3XSPI_TARGET`. -/
structure SpiTarget where
  chipSelect : Nat
  cpolHigh : Bool
  cphaSecond : Bool
  baudr : BitVec 32
  deriving DecidableEq, Repr

/-- `RKSPI_SER_CS`; a shift takes the low five bits of its count. -/
def rkspiSerCs (n : Nat) : BitVec 32 := BitVec.twoPow 32 (n % 32)

/-- `cr0` of `Rk3xSpiTransfer`: 8-bit frames, transmit and receive, and the mode of the target. -/
def rkspiCr0 (target : SpiTarget) : BitVec 32 :=
  0x1 ||| (if target.cpolHigh then 0x80 else 0) ||| (if target.cphaSecond then 0x40 else 0)

/-- The arguments of `Rk3xSpiTransfer`: `tx` is the memory at `Tx` unless that is NULL. -/
structure SpiTransfer where
  target : SpiTarget
  tx : Option (Nat → BitVec 8)
  rxNull : Bool
  length : Nat
  length_lt : length < 4294967296

/-- What frame `k` has to carry. -/
def SpiTransfer.txByte (t : SpiTransfer) (k : Nat) : BitVec 8 :=
  match t.tx with
  | some bytes => bytes k
  | none => 0

inductive SpiStatus
  | success
  | ioTimeout
  deriving DecidableEq, Repr

/-- The local variables `done`, `chunk`, `txi` and `rxi`. -/
structure Cursor where
  done : Nat
  chunk : Nat
  txi : Nat
  rxi : Nat
  deriving DecidableEq, Repr

/-- Where `Rk3xSpiTransfer` is: before each of its register accesses and at each loop test. -/
inductive SpiPc
  | entry
  | configure
  | baudr
  | chunks (done : Nat)
  | frames (done chunk : Nat)
  | enable (done chunk : Nat)
  | select (done chunk : Nat)
  | chunkLoop (c : Cursor)
  | push (c : Cursor)
  | txdr (c : Cursor)
  | drain (c : Cursor)
  | rxdr (c : Cursor)
  | budget (c : Cursor)
  | busy (done chunk : Nat)
  | busyBudget (done chunk : Nat)
  | release (status : SpiStatus)
  | disable (status : SpiStatus)
  | returned (status : SpiStatus)
  deriving DecidableEq, Repr

/-- The controller, the transfer and the memory at `Rx`.  The observer's part: `clocked` has the
byte sent and the byte received of every frame, `dropped` how many frames were clocked each time
the slave was released or the controller disabled, `outOfBounds` an access behind a buffer. -/
structure SpiWorld where
  transfer : SpiTransfer
  rxDepth : Nat
  ssienr : Bool
  ctrlr0 : BitVec 32
  ctrlr1 : BitVec 32
  baudr : BitVec 32
  ser : BitVec 32
  txFifo : List (BitVec 8)
  rxFifo : List (BitVec 8)
  pc : SpiPc
  rx : Nat → Option (BitVec 8)
  clocked : List (BitVec 8 × BitVec 8)
  dropped : List Nat
  outOfBounds : Bool

/-- The device shifts and receives a byte, or the driver goes on; `flag` is what its test finds:
TX full, RX empty, busy, or the budget used up. -/
inductive SpiAction
  | shift (received : BitVec 8)
  | driver (flag : Bool)

/-- `Rk3xSpiTransfer` is called. -/
def SpiTransfer.begin (t : SpiTransfer) (rxDepth : Nat) : SpiWorld where
  transfer := t
  rxDepth := rxDepth
  ssienr := false
  ctrlr0 := 0
  ctrlr1 := 0
  baudr := 0
  ser := 0
  txFifo := []
  rxFifo := []
  pc := .entry
  rx := fun _ => none
  clocked := []
  dropped := []
  outOfBounds := false

/-- The transfer begins on a device whose RX FIFO is deep enough. -/
def SpiTransfer.Begun (t : SpiTransfer) (w : SpiWorld) : Prop :=
  ∃ rxDepth, rkspiFifoDepth ≤ rxDepth ∧ w = t.begin rxDepth

/-! ## 2. The steps

One step of the driver is one register access or one loop test, so the device can shift between any
two of them.  The flag of a step is what the access finds there; it is left open, except that an RX
FIFO in which there is nothing is not read. -/

/-- A write of `RKSPI_SSIENR`. -/
def SpiWorld.writeSsienr (w : SpiWorld) (enable : Bool) : SpiWorld :=
  if enable then { w with ssienr := true }
  else { w with
    ssienr := false
    txFifo := []
    rxFifo := []
    dropped := w.dropped ++ [w.clocked.length] }

/-- The device clocks a frame. -/
def spiShift (w : SpiWorld) (received : BitVec 8) : Option SpiWorld :=
  if w.ssienr = true ∧ w.ser ≠ 0 then
    match w.txFifo with
    | [] => none
    | b :: txFifo =>
      some { w with
        txFifo := txFifo
        rxFifo :=
          if w.rxFifo.length < w.rxDepth then w.rxFifo ++ [received] else w.rxFifo
        clocked := w.clocked ++ [(b, received)] }
  else none

/-- **What a frame does**: it takes a byte from the TX FIFO of an enabled controller with a chip
selected, and drops what it receives if the RX FIFO is full. -/
theorem spiShift_cases {w w' : SpiWorld} {received : BitVec 8}
    (h : spiShift w received = some w') : (w.ssienr = true ∧ w.ser ≠ 0) ∧ ∃ b txFifo,
      w.txFifo = b :: txFifo ∧ w' = { w with
        txFifo := txFifo
        rxFifo :=
          if w.rxFifo.length < w.rxDepth then w.rxFifo ++ [received] else w.rxFifo
        clocked := w.clocked ++ [(b, received)] } := by
  unfold spiShift at h
  split at h
  · rename_i hon
    cases htx : w.txFifo with
    | nil =>
      simp only [htx] at h
      cases h
    | cons b txFifo =>
      simp only [htx] at h
      cases h
      exact ⟨hon, b, txFifo, rfl, rfl⟩
  · cases h

/-- `txi - rxi` on `ULONG`s. -/
def ulongSub (a b : Nat) : Nat := (a + 4294967296 - b) % 4294967296

/-- The write of `RKSPI_TXDR`. -/
def SpiWorld.writeTxdr (w : SpiWorld) (c : Cursor) : SpiWorld :=
  { w with
    txFifo := w.txFifo ++ [w.transfer.txByte (c.done + c.txi)]
    pc := .push { c with txi := c.txi + 1 }
    outOfBounds := w.outOfBounds
      || (w.transfer.tx.isSome && decide (w.transfer.length ≤ c.done + c.txi)) }

/-- The read of `RKSPI_RXDR`. -/
def SpiWorld.readRxdr (w : SpiWorld) (c : Cursor) : SpiWorld :=
  { w with
    rxFifo := w.rxFifo.tail
    pc := .drain { c with rxi := c.rxi + 1 }
    rx :=
      if w.transfer.rxNull then w.rx
      else Function.update w.rx (c.done + c.rxi) (some (w.rxFifo.headD 0))
    outOfBounds := w.outOfBounds
      || (!w.transfer.rxNull && decide (w.transfer.length ≤ c.done + c.rxi)) }

/-- One step of `Rk3xSpiTransfer`. -/
def spiDriver (w : SpiWorld) (flag : Bool) : Option SpiWorld :=
  match w.pc with
  | .entry =>
    if w.transfer.length = 0 then some { w with pc := .returned .success }
    else some { w.writeSsienr false with pc := .configure }
  | .configure => some { w with ctrlr0 := rkspiCr0 w.transfer.target, pc := .baudr }
  | .baudr => some { w with baudr := w.transfer.target.baudr, pc := .chunks 0 }
  | .chunks done =>
    if done < w.transfer.length then
      some { w.writeSsienr false with
        pc := .frames done (min (w.transfer.length - done) rkspiMaxFrames) }
    else some { w with pc := .release .success }
  | .frames done chunk =>
    some { w with ctrlr1 := BitVec.ofNat 32 (chunk - 1), pc := .enable done chunk }
  | .enable done chunk => some { w.writeSsienr true with pc := .select done chunk }
  | .select done chunk =>
    some { w with
      ser := rkspiSerCs w.transfer.target.chipSelect
      pc := .chunkLoop ⟨done, chunk, 0, 0⟩ }
  | .chunkLoop c =>
    if c.rxi < c.chunk then some { w with pc := .push c }
    else some { w with pc := .busy c.done c.chunk }
  | .push c =>
    if c.txi < c.chunk ∧ ulongSub c.txi c.rxi < rkspiFifoDepth ∧ flag = false then
      some { w with pc := .txdr c }
    else some { w with pc := .drain c }
  | .txdr c => some (w.writeTxdr c)
  | .drain c =>
    if flag = false ∧ w.rxFifo = [] then none
    else if c.rxi < c.chunk ∧ flag = false then some { w with pc := .rxdr c }
    else some { w with pc := .budget c }
  | .rxdr c => some (w.readRxdr c)
  | .budget c =>
    if flag then some { w with pc := .release .ioTimeout } else some { w with pc := .chunkLoop c }
  | .busy done chunk =>
    if flag then some { w with pc := .busyBudget done chunk }
    else some { w with pc := .chunks (done + chunk) }
  | .busyBudget done chunk =>
    if flag then some { w with pc := .release .ioTimeout }
    else some { w with pc := .busy done chunk }
  | .release status =>
    some { w with ser := 0, dropped := w.dropped ++ [w.clocked.length], pc := .disable status }
  | .disable status => some { w.writeSsienr false with pc := .returned status }
  | .returned _ => none

def spiStep (w : SpiWorld) : SpiAction → Option SpiWorld
  | .shift received => spiShift w received
  | .driver flag => spiDriver w flag

/-! ## 3. What a transfer does

The result is stated of every state of a run, not only of the last one: each clause that speaks of
the end says so. -/

/-- **The transfer is exact**: no more frames are in flight than the RX FIFO can hold, frame `k`
carries `Tx[k]` and its answer is what is stored in `Rx[k]`, no access is made behind a buffer,
on success exactly `Length` frames are clocked and stored, and when a transfer that is not empty
has returned, the slave is released and the controller disabled. -/
structure TransferExact (w : SpiWorld) : Prop where
  inFlight : w.txFifo.length + w.rxFifo.length ≤ w.rxDepth
  sent : w.clocked.map Prod.fst = (List.range w.clocked.length).map w.transfer.txByte
  stored : ∀ k b, w.rx k = some b →
    w.transfer.rxNull = false ∧ (w.clocked.map Prod.snd)[k]? = some b
  inBounds : w.outOfBounds = false
  success : w.pc = .returned .success → w.clocked.length = w.transfer.length
    ∧ (w.transfer.rxNull = false → ∀ k < w.transfer.length, (w.rx k).isSome)
  released : w.transfer.length ≠ 0 → ∀ status, w.pc = .returned status →
    w.ser = 0 ∧ w.ssienr = false

/-! ## 4. The invariant

The heart of it is one relation between three counters: what is pushed, what is clocked and what is
read, in this order.  The driver never pushes more than a FIFO depth ahead of what it has read, so
the answers of all frames in flight find room, and the FIFOs can be described as parts of the two
streams of bytes.  The driver's own counters restart with each chunk, and `Cursor.InChunk` ties
them to the stream. -/

/-- **The stream**: `n` answers are read and `t` bytes pushed, in order and without loss, and the
driver is at most `RKSPI_FIFO_DEPTH` frames ahead of what it read. -/
structure Flowing (w : SpiWorld) (n t : Nat) : Prop where
  exact : Exact w.transfer.txByte w.txFifo w.clocked w.rxFifo n
  stored : ∀ k, w.rx k
    = if w.transfer.rxNull = false ∧ k < n then (w.clocked.map Prod.snd)[k]? else none
  pushed : w.clocked.length + w.txFifo.length = t
  ahead : t ≤ n + rkspiFifoDepth

/-- The cursors of a chunk. -/
structure Cursor.InChunk (c : Cursor) (length : Nat) : Prop where
  rxi_le : c.rxi ≤ c.txi
  txi_le : c.txi ≤ c.chunk
  chunk_le : c.done + c.chunk ≤ length
  chunk_max : c.chunk ≤ rkspiMaxFrames

/-- The chunk `chunk` frames long that begins at `done`. -/
structure ChunkOf (done chunk length : Nat) : Prop where
  le : done + chunk ≤ length
  max : chunk ≤ rkspiMaxFrames

/-- What is known at each access of the driver. -/
def SpiWorld.PcInv (w : SpiWorld) : Prop :=
  match w.pc with
  | .entry | .configure | .baudr => Flowing w 0 0
  | .chunks done => Flowing w done done ∧ done ≤ w.transfer.length
  | .frames done chunk | .enable done chunk | .select done chunk =>
    Flowing w done done ∧ ChunkOf done chunk w.transfer.length
  | .chunkLoop c | .push c | .drain c | .budget c =>
    Flowing w (c.done + c.rxi) (c.done + c.txi) ∧ c.InChunk w.transfer.length
  | .txdr c =>
    Flowing w (c.done + c.rxi) (c.done + c.txi) ∧ c.InChunk w.transfer.length
      ∧ c.txi < c.chunk ∧ c.txi < c.rxi + rkspiFifoDepth
  | .rxdr c =>
    Flowing w (c.done + c.rxi) (c.done + c.txi) ∧ c.InChunk w.transfer.length ∧ w.rxFifo ≠ []
  | .busy done chunk | .busyBudget done chunk =>
    Flowing w (done + chunk) (done + chunk) ∧ ChunkOf done chunk w.transfer.length
  | .release status =>
    ∃ n t, Flowing w n t ∧ (status = .success → n = w.transfer.length ∧ t = w.transfer.length)
  | .disable status =>
    (∃ n t, Flowing w n t ∧ (status = .success → n = w.transfer.length ∧ t = w.transfer.length))
      ∧ w.ser = 0
  | .returned _ => TransferExact w ∧ w.txFifo = []

/-- **The invariant.** -/
structure SpiInv (w : SpiWorld) : Prop where
  depth : rkspiFifoDepth ≤ w.rxDepth
  inBounds : w.outOfBounds = false
  pcInv : w.PcInv

variable {w w' : SpiWorld} {n t : Nat}

/-- What is in flight fits into the RX FIFO. -/
theorem Flowing.inFlight (h : Flowing w n t) :
    w.txFifo.length + w.rxFifo.length ≤ rkspiFifoDepth := by
  have hback := h.exact.length_back
  have hpushed := h.pushed
  have hahead := h.ahead
  omega

/-- When everything pushed is read, both FIFOs are empty. -/
theorem Flowing.empty (h : Flowing w n n) :
    w.txFifo = [] ∧ w.rxFifo = [] ∧ w.clocked.length = n := by
  have hback := h.exact.length_back
  have hpushed := h.pushed
  exact ⟨List.eq_nil_of_length_eq_zero (by omega), List.eq_nil_of_length_eq_zero (by omega),
    by omega⟩

/-- The device clocks a frame: the answer finds room. -/
theorem Flowing.shift (h : Flowing w n t) (hdepth : rkspiFifoDepth ≤ w.rxDepth) {b : BitVec 8}
    {txFifo : List (BitVec 8)} (htx : w.txFifo = b :: txFifo) (received : BitVec 8) :
    Flowing { w with
      txFifo := txFifo
      rxFifo := if w.rxFifo.length < w.rxDepth then w.rxFifo ++ [received] else w.rxFifo
      clocked := w.clocked ++ [(b, received)] } n t := by
  have hroom : w.rxFifo.length < w.rxDepth := by
    have hinFlight := h.inFlight
    rw [htx, List.length_cons] at hinFlight
    omega
  rw [if_pos hroom]
  constructor
  · exact (htx ▸ h.exact).shift received
  · intro k
    refine (h.stored k).trans ?_
    by_cases hk : w.transfer.rxNull = false ∧ k < n
    · have hlt : k < (w.clocked.map Prod.snd).length := by
        rw [List.length_map]
        exact hk.2.trans_le h.exact.collected
      rw [if_pos hk, if_pos hk, List.map_append, List.getElem?_append_left hlt]
    · rw [if_neg hk, if_neg hk]
  · show (w.clocked ++ [(b, received)]).length + txFifo.length = t
    have hpushed := h.pushed
    rw [htx, List.length_cons] at hpushed
    rw [List.length_append, List.length_singleton]
    omega
  · exact h.ahead

/-- The driver pushes the next byte. -/
theorem Flowing.push (h : Flowing w n t) (ht : t < n + rkspiFifoDepth) (pc : SpiPc)
    (outOfBounds : Bool) :
    Flowing { w with
      txFifo := w.txFifo ++ [w.transfer.txByte t]
      pc := pc
      outOfBounds := outOfBounds } n (t + 1) := by
  have hexact := h.exact.push
  rw [h.pushed] at hexact
  refine ⟨hexact, h.stored, ?_, ht⟩
  rw [List.length_append, List.length_singleton, ← Nat.add_assoc, h.pushed]

/-- The driver reads the next answer and stores it. -/
theorem Flowing.pop (h : Flowing w n t) (hrx : w.rxFifo ≠ []) (pc : SpiPc) (outOfBounds : Bool) :
    Flowing { w with
      rxFifo := w.rxFifo.tail
      pc := pc
      rx := if w.transfer.rxNull then w.rx
        else Function.update w.rx n (some (w.rxFifo.headD 0))
      outOfBounds := outOfBounds } (n + 1) t := by
  obtain ⟨b, rest, heq⟩ := List.exists_cons_of_ne_nil hrx
  obtain ⟨hexact, hget⟩ := (heq ▸ h.exact).pop
  rw [heq]
  refine ⟨hexact, fun k => ?_, h.pushed, by have := h.ahead; omega⟩
  show (if w.transfer.rxNull = true then w.rx else Function.update w.rx n (some b)) k = _
  have hstored := h.stored k
  cases hnull : w.transfer.rxNull with
  | true =>
    rw [hnull, if_neg fun hand => Bool.noConfusion hand.1] at hstored
    exact hstored.trans (if_neg fun hand => Bool.noConfusion hand.1).symm
  | false =>
    rw [if_neg Bool.false_ne_true]
    by_cases hk : k = n
    · rw [hk, Function.update_self, if_pos ⟨rfl, Nat.lt_succ_self n⟩]
      exact hget.symm
    · rw [hnull] at hstored
      rw [Function.update_of_ne hk]
      refine hstored.trans (if_congr ⟨?_, ?_⟩ rfl rfl)
      · exact fun hand => ⟨hand.1, Nat.lt_succ_of_lt hand.2⟩
      · exact fun hand => ⟨hand.1, Nat.lt_of_le_of_ne (Nat.le_of_lt_succ hand.2) hk⟩

/-- The registers and the program counter do not matter for the stream. -/
theorem Flowing.other (h : Flowing w n t) (ssienr : Bool) (ctrlr0 ctrlr1 baudr ser : BitVec 32)
    (pc : SpiPc) (dropped : List Nat) :
    Flowing { w with
      ssienr := ssienr
      ctrlr0 := ctrlr0
      ctrlr1 := ctrlr1
      baudr := baudr
      ser := ser
      pc := pc
      dropped := dropped } n t :=
  ⟨h.exact, h.stored, h.pushed, h.ahead⟩

/-- Disabling the controller between chunks empties what is empty. -/
theorem Flowing.disable (h : Flowing w n n) (pc : SpiPc) :
    Flowing { w.writeSsienr false with pc := pc } n n := by
  obtain ⟨htx, hrx, -⟩ := h.empty
  refine ⟨?_, h.stored, ?_, h.ahead⟩
  · have hexact := h.exact
    rwa [htx, hrx] at hexact
  · exact h.empty.2.2

/-- What has been stored is what was received. -/
theorem Flowing.stored_some (h : Flowing w n t) {k : Nat} {b : BitVec 8} (hk : w.rx k = some b) :
    w.transfer.rxNull = false ∧ (w.clocked.map Prod.snd)[k]? = some b := by
  rw [h.stored k] at hk
  split at hk
  · rename_i hand
    exact ⟨hand.1, hk⟩
  · cases hk

/-- **While the driver runs, the transfer is exact.** -/
theorem Flowing.transferExact (h : Flowing w n t) (hinv : SpiInv w)
    (hpc : ∀ status, w.pc ≠ .returned status) : TransferExact w where
  inFlight := h.inFlight.trans hinv.depth
  sent := h.exact.exchanged
  stored _ _ hk := h.stored_some hk
  inBounds := hinv.inBounds
  success hret := absurd hret (hpc _)
  released _ _ hret := absurd hret (hpc _)

theorem begun_spiInv {t : SpiTransfer} (h : t.Begun w) : SpiInv w := by
  obtain ⟨rxDepth, hdepth, rfl⟩ := h
  refine ⟨hdepth, rfl, ?_⟩
  exact ⟨exact_nil _, fun k => by split <;> rfl, rfl, Nat.zero_le _⟩

/-! ### The device

The device moves one byte from the first FIFO to the second and leaves the driver where it is. -/

/-- **A frame that the device clocks keeps the invariant.** -/
theorem SpiInv.shift (h : SpiInv w) {received : BitVec 8} (hs : spiShift w received = some w') :
    SpiInv w' := by
  obtain ⟨hon, b, txFifo, htx, rfl⟩ := spiShift_cases hs
  refine ⟨h.depth, h.inBounds, ?_⟩
  have hflow : ∀ {n t pc}, Flowing w n t → Flowing { w with
      txFifo := txFifo
      rxFifo := if w.rxFifo.length < w.rxDepth then w.rxFifo ++ [received] else w.rxFifo
      pc := pc
      clocked := w.clocked ++ [(b, received)] } n t :=
    fun hflow => (hflow.shift h.depth htx received).other _ _ _ _ _ _ _
  have hpc := h.pcInv
  unfold SpiWorld.PcInv at hpc ⊢
  cases hw : w.pc <;> simp only [hw] at hpc ⊢
  case entry | configure | baudr => exact hflow hpc
  case chunks | frames | enable | select | chunkLoop | push | drain | budget | busy |
    busyBudget => exact ⟨hflow hpc.1, hpc.2⟩
  case txdr => exact ⟨hflow hpc.1, hpc.2⟩
  case rxdr =>
    refine ⟨hflow hpc.1, hpc.2.1, ?_⟩
    split
    · exact List.append_ne_nil_of_right_ne_nil _ (List.cons_ne_nil _ _)
    · exact hpc.2.2
  case release =>
    obtain ⟨n, t, hnt, hsuccess⟩ := hpc
    exact ⟨n, t, hflow hnt, hsuccess⟩
  case disable => exact absurd hpc.2 hon.2
  case returned =>
    rw [htx] at hpc
    cases hpc.2

/-! ### The driver

One case for each place in the driver.  Most of them change a register only; a push, a read and the
end of a chunk change the counters, each by one lemma above. -/

/-- The difference of the cursors does not wrap. -/
theorem Cursor.InChunk.ulongSub_eq {c : Cursor} {length : Nat} (h : c.InChunk length) :
    ulongSub c.txi c.rxi = c.txi - c.rxi := by
  have hrxi := h.rxi_le
  have htxi := h.txi_le
  have hmax := h.chunk_max
  unfold ulongSub
  unfold rkspiMaxFrames at hmax
  omega

/-- **The last register write**: the transfer has returned. -/
theorem transferExact_of_disable (h : SpiInv w) {status : SpiStatus}
    (hpc : w.pc = .disable status) :
    TransferExact { w.writeSsienr false with pc := .returned status } := by
  have hinv := h.pcInv
  unfold SpiWorld.PcInv at hinv
  simp only [hpc] at hinv
  obtain ⟨⟨n, t, hflow, hsuccess⟩, hser⟩ := hinv
  refine ⟨Nat.zero_le _, hflow.exact.exchanged, fun k b hk => hflow.stored_some hk, h.inBounds, ?_,
    fun _ _ _ => ⟨hser, rfl⟩⟩
  intro hret
  cases hret
  obtain ⟨rfl, rfl⟩ := hsuccess rfl
  have hlength := hflow.empty.2.2
  refine ⟨hlength, fun hnull k hk => ?_⟩
  have hlt : k < (w.clocked.map Prod.snd).length := by
    rw [List.length_map, hlength]
    exact hk
  show (w.rx k).isSome = true
  rw [hflow.stored k, if_pos ⟨hnull, hk⟩, List.getElem?_eq_getElem hlt]
  rfl

/-- **A step of the driver keeps the invariant.** -/
theorem SpiInv.driver (h : SpiInv w) {flag : Bool} (hs : spiDriver w flag = some w') :
    SpiInv w' := by
  have hinv := h.pcInv
  unfold SpiWorld.PcInv at hinv
  unfold spiDriver at hs
  cases hpc : w.pc with
  | entry =>
    simp only [hpc] at hs hinv
    split at hs <;> cases hs
    · rename_i hzero
      refine ⟨h.depth, h.inBounds, ?_, hinv.empty.1⟩
      refine ⟨hinv.inFlight.trans h.depth, hinv.exact.exchanged, fun k b hk => hinv.stored_some hk,
        h.inBounds, fun _ => ⟨hinv.empty.2.2.trans hzero.symm, fun _ k hk => ?_⟩,
        fun hne => absurd hzero hne⟩
      rw [show w.transfer.length = 0 from hzero] at hk
      exact absurd hk (Nat.not_lt_zero k)
    · exact ⟨h.depth, h.inBounds, hinv.disable .configure⟩
  | configure =>
    simp only [hpc] at hs hinv
    cases hs
    exact ⟨h.depth, h.inBounds, hinv.other _ _ _ _ _ .baudr _⟩
  | baudr =>
    simp only [hpc] at hs hinv
    cases hs
    exact ⟨h.depth, h.inBounds, hinv.other _ _ _ _ _ (.chunks 0) _, Nat.zero_le _⟩
  | chunks done =>
    simp only [hpc] at hs hinv
    obtain ⟨hflow, hle⟩ := hinv
    split at hs <;> cases hs
    · rename_i hlt
      refine ⟨h.depth, h.inBounds, hflow.disable _, ?_, Nat.min_le_right ..⟩
      have hmin := Nat.min_le_left (w.transfer.length - done) rkspiMaxFrames
      show done + min (w.transfer.length - done) rkspiMaxFrames ≤ w.transfer.length
      omega
    · rename_i hge
      have heq : done = w.transfer.length := by omega
      refine ⟨h.depth, h.inBounds, done, done, hflow.other _ _ _ _ _ _ _, fun _ => ?_⟩
      exact ⟨heq, heq⟩
  | frames done chunk =>
    simp only [hpc] at hs hinv
    cases hs
    exact ⟨h.depth, h.inBounds, hinv.1.other _ _ _ _ _ _ _, hinv.2⟩
  | enable done chunk =>
    simp only [hpc] at hs hinv
    cases hs
    exact ⟨h.depth, h.inBounds, hinv.1.other _ _ _ _ _ _ _, hinv.2⟩
  | select done chunk =>
    simp only [hpc] at hs hinv
    cases hs
    refine ⟨h.depth, h.inBounds, hinv.1.other _ _ _ _ _ _ _, ?_⟩
    exact ⟨Nat.le_refl 0, Nat.zero_le _, hinv.2.le, hinv.2.max⟩
  | chunkLoop c =>
    simp only [hpc] at hs hinv
    obtain ⟨hflow, hchunk⟩ := hinv
    split at hs <;> cases hs
    · exact ⟨h.depth, h.inBounds, hflow.other _ _ _ _ _ _ _, hchunk⟩
    · rename_i hge
      have hrxi := hchunk.rxi_le
      have htxi := hchunk.txi_le
      have hrxi_eq : c.rxi = c.chunk := by omega
      have htxi_eq : c.txi = c.chunk := by omega
      rw [hrxi_eq, htxi_eq] at hflow
      exact ⟨h.depth, h.inBounds, hflow.other _ _ _ _ _ _ _, hchunk.chunk_le,
        hchunk.chunk_max⟩
  | push c =>
    simp only [hpc] at hs hinv
    obtain ⟨hflow, hchunk⟩ := hinv
    split at hs <;> cases hs
    · rename_i hroom
      rw [hchunk.ulongSub_eq] at hroom
      refine ⟨h.depth, h.inBounds, hflow.other _ _ _ _ _ _ _, hchunk, hroom.1, ?_⟩
      have hrxi := hchunk.rxi_le
      omega
    · exact ⟨h.depth, h.inBounds, hflow.other _ _ _ _ _ _ _, hchunk⟩
  | txdr c =>
    simp only [hpc] at hs hinv
    cases hs
    obtain ⟨hflow, hchunk, hlt, hroom⟩ := hinv
    have hle := hchunk.chunk_le
    have hrxi := hchunk.rxi_le
    have hbounds : (w.outOfBounds || (w.transfer.tx.isSome
        && decide (w.transfer.length ≤ c.done + c.txi))) = false := by
      rw [h.inBounds, decide_eq_false (by omega), Bool.and_false]
      rfl
    refine ⟨h.depth, hbounds, hflow.push (by omega) _ _, ?_⟩
    exact ⟨Nat.le_succ_of_le hrxi, hlt, hle, hchunk.chunk_max⟩
  | drain c =>
    simp only [hpc] at hs hinv
    obtain ⟨hflow, hchunk⟩ := hinv
    split at hs
    · cases hs
    · rename_i htrue
      split at hs <;> cases hs
      · rename_i hread
        refine ⟨h.depth, h.inBounds, hflow.other _ _ _ _ _ _ _, hchunk, ?_⟩
        exact fun hnil => htrue ⟨hread.2, hnil⟩
      · exact ⟨h.depth, h.inBounds, hflow.other _ _ _ _ _ _ _, hchunk⟩
  | rxdr c =>
    simp only [hpc] at hs hinv
    cases hs
    obtain ⟨hflow, hchunk, hne⟩ := hinv
    have hle := hchunk.chunk_le
    have htxi := hchunk.txi_le
    -- an answer waits, so fewer are read than pushed
    have hlt : c.rxi < c.txi := by
      have hback := hflow.exact.length_back
      have hpushed := hflow.pushed
      have hpos := List.length_pos_of_ne_nil hne
      omega
    have hbounds : (w.outOfBounds || (!w.transfer.rxNull
        && decide (w.transfer.length ≤ c.done + c.rxi))) = false := by
      rw [h.inBounds, decide_eq_false (by omega), Bool.and_false]
      rfl
    refine ⟨h.depth, hbounds, hflow.pop hne _ _, ?_⟩
    exact ⟨hlt, htxi, hle, hchunk.chunk_max⟩
  | budget c =>
    simp only [hpc] at hs hinv
    split at hs <;> cases hs
    · exact ⟨h.depth, h.inBounds, _, _, hinv.1.other _ _ _ _ _ _ _, nofun⟩
    · exact ⟨h.depth, h.inBounds, hinv.1.other _ _ _ _ _ _ _, hinv.2⟩
  | busy done chunk =>
    simp only [hpc] at hs hinv
    split at hs <;> cases hs
    · exact ⟨h.depth, h.inBounds, hinv.1.other _ _ _ _ _ _ _, hinv.2⟩
    · exact ⟨h.depth, h.inBounds, hinv.1.other _ _ _ _ _ _ _, hinv.2.le⟩
  | busyBudget done chunk =>
    simp only [hpc] at hs hinv
    split at hs <;> cases hs
    · exact ⟨h.depth, h.inBounds, _, _, hinv.1.other _ _ _ _ _ _ _, nofun⟩
    · exact ⟨h.depth, h.inBounds, hinv.1.other _ _ _ _ _ _ _, hinv.2⟩
  | release status =>
    simp only [hpc] at hs hinv
    cases hs
    obtain ⟨n, t, hflow, hsuccess⟩ := hinv
    exact ⟨h.depth, h.inBounds, ⟨n, t, hflow.other _ _ _ _ _ _ _, hsuccess⟩, rfl⟩
  | disable status =>
    simp only [hpc] at hs
    cases hs
    exact ⟨h.depth, h.inBounds, transferExact_of_disable h hpc, rfl⟩
  | returned status =>
    simp only [hpc] at hs
    cases hs

theorem SpiInv.step (h : SpiInv w) {a : SpiAction} (hs : spiStep w a = some w') :
    SpiInv w' := by
  cases a with
  | shift received => exact h.shift hs
  | driver flag => exact h.driver hs

/-! ## 5. Whole transfers

The invariant holds when the routine is called and at every step, whoever takes it, so it holds in
every state that can be reached. -/

/-- **The invariant says what a transfer is to keep.** -/
theorem SpiInv.transferExact (h : SpiInv w) : TransferExact w := by
  have hinv := h.pcInv
  unfold SpiWorld.PcInv at hinv
  cases hpc : w.pc <;> simp only [hpc] at hinv
  case returned => exact hinv.1
  case entry | configure | baudr => exact hinv.transferExact h fun _ => by rw [hpc]; exact nofun
  case release =>
    obtain ⟨n, t, hflow, -⟩ := hinv
    exact hflow.transferExact h fun _ => by rw [hpc]; exact nofun
  case disable =>
    obtain ⟨⟨n, t, hflow, -⟩, -⟩ := hinv
    exact hflow.transferExact h fun _ => by rw [hpc]; exact nofun
  all_goals exact hinv.1.transferExact h fun _ => by rw [hpc]; exact nofun

/-- **Every transfer is exact**, whatever its buffers, with every schedule of the device and every
answer of the status register.  The driver is never more than a FIFO depth ahead of what it has
read, so no answer finds the RX FIFO full, and bytes that are neither lost nor reordered are where
the cursors say. -/
theorem transfer_exact (t : SpiTransfer) (w : SpiWorld) (h : Reach t.Begun spiStep w) :
    TransferExact w :=
  SpiInv.transferExact (Reach.invariant (fun _ => begun_spiInv) (fun _ _ _ hw => hw.step) h)

/-- A transfer of two bytes, the second frame clocked while the first is read. -/
def twoFrames : List SpiAction :=
  [.driver true, .driver true, .driver true, .driver true, .driver true, .driver true,
    .driver true, .driver true, .driver false, .driver true, .driver false, .driver true,
    .shift 0x21, .driver true, .driver false, .shift 0x22, .driver true, .driver false,
    .driver false, .driver true, .driver false, .driver false, .driver false, .driver true,
    .driver true, .driver true]

/-- Two bytes sent, two received. -/
theorem transfer_exact_of_run : ∃ w : SpiWorld, w.pc = .returned .success ∧ TransferExact w := by
  let t : SpiTransfer := ⟨⟨0, false, false, 20⟩, some fun k => BitVec.ofNat 8 (k + 7), false, 2,
    by decide⟩
  have hbegun : t.Begun (t.begin 32) := ⟨32, by decide, rfl⟩
  obtain ⟨w, hreach, hw⟩ := exists_reach_of_run spiStep hbegun twoFrames
    (fun w => w.pc == .returned .success) (by decide +kernel)
  exact ⟨w, eq_of_beq hw, transfer_exact t w hreach⟩

end WoaRk3576.Spi
