/-
# What a write message of rk3xi2c sends

The bytes of the message are the address and then the data.  Each fill of the FIFO takes the next
32 of them, or what is left: `processed` counts the data only, and so is one behind the bytes that
are in the FIFO or were sent (`Filling.processed`).  `writeExact_iff` says that the message is
right just where its length fits into `processed`, which has 32 bits where `TransferLength` is a
`size_t`: a longer message never ends.

A fill is two nested loops, over words and over the bytes of a word, and `cnt` counts the bytes of
both.  `Filling` is the invariant of either: the FIFO holds `cnt` bytes of the message from the
fill's first one on.  A byte keeps it because the byte that is taken is the next one (the address
if `processed` and `cnt` are 0, and otherwise byte `processed` of the data), and because a byte
that is added to a word with `|` has its lane, where there was nothing (`Lib/Lanes.lean`).  The
inner loop ends with the word or with the message, the outer one with 32 bytes or with the message,
so that the count that is written is the number of the bytes.

The fills of a message are then an induction over the transmissions, each of which takes the next
fill or ends the message.
-/
import WoaRk3576.Lib.Blocks
import WoaRk3576.I2c.Completion
import WoaRk3576.I2c.MessageData

namespace WoaRk3576.I2c

open WoaRk3576.Lib

/-! ## 1. The property

As for reading: the number of fills, the bytes of each, and no other change. -/

/-- The address byte of a write: the address of 7 bits, shifted left by one. -/
def addressByte (address : BitVec 16) : BitVec 8 := (address.setWidth 7).setWidth 8 <<< 1

theorem addressByte_eq (address : BitVec 16) :
    addressByte address = (address.setWidth 8 &&& 0x7f) <<< 1 := by
  have hmask : (0x7f : Nat) = 2 ^ 7 - 1 := rfl
  refine BitVec.eq_of_toNat_eq ?_
  simp only [addressByte, BitVec.ofNat_eq_ofNat, BitVec.toNat_shiftLeft, BitVec.toNat_setWidth,
    BitVec.toNat_and, BitVec.toNat_ofNat]
  rw [Nat.mod_eq_of_lt (by decide : 127 < 2 ^ 8), hmask, Nat.and_two_pow_sub_one_eq_mod]
  omega

/-- The bytes of a write message. -/
def writeBytes (address : BitVec 16) (length : Nat) (mdlChain : List Nat)
    (memory : Nat → Nat → BitVec 8) : List (BitVec 8) :=
  addressByte address :: (gather memory 0 mdlChain).take length

/-- **A fill is exact**: it carries between 1 and 32 bytes, the count is their number, and the
controller finds them in the FIFO. -/
structure TxFill.Exact (fill : TxFill) : Prop where
  pos : 1 ≤ fill.loaded.length
  le : fill.loaded.length ≤ 32
  count : fill.mtxcnt.toNat = fill.loaded.length
  bytes : fill.bytes = fill.loaded

/-- **The message is sent in `n` fills**; `run k` is the device after `k` transmissions. -/
structure SentIn (bytes : List (BitVec 8)) (run : Nat → I2cMessage) (n : Nat) : Prop where
  writing : ∀ k < n, (run k).state = .write ∧ (run k).fills.length = k + 1
  ended : (run n).state = .stop ∧ (run n).transactionStatus = .success
  fills : (run n).fills.length = n
  exact : ∀ fill ∈ (run n).fills, fill.Exact
  bytes : (run n).fills.flatMap TxFill.loaded = bytes

/-- **A write message is right**, whatever the device has done before: with every fill answered, its
bytes are sent in `⌈(length + 1) / 32⌉` fills. -/
def WriteExact (address : BitVec 16) (length : Nat) (mdlChain : List Nat)
    (memory : Nat → Nat → BitVec 8) (index : Nat) (s : I2cMessage) : Prop :=
  ∀ (start : Interrupt) (finished : Nat → Interrupt), start.Answers regIntStart →
    (∀ k, (finished k).Answers regIntMbtf) →
    SentIn (writeBytes address length mdlChain memory)
      (messageRun start finished
        (i2cMessageSetUp address ⟨.toDevice, length, mdlChain⟩ memory index s))
      ((length + 1 + 31) / 32)

/-! ## 2. The byte that comes next

The first byte is the address and the others are those of the chain.  The loop finds the next one
by its counters, and it is the next one of the message. -/

/-- The message under way, which is short enough for `processed`. -/
structure Sending (bytes : List (BitVec 8)) (s : I2cMessage) : Prop where
  bytes : bytes = (s.i2cAddress &&& 0x7f) <<< 1
    :: (gather s.memory 0 s.currentMdlChain).take s.transferLength
  enough : s.transferLength ≤ s.currentMdlChain.sum
  short : s.transferLength < 2 ^ 32
  status : s.transactionStatus = .success
  state : s.state = .write

/-- The locals of a fill that began at `base`. -/
structure Filling (bytes : List (BitVec 8)) (base : Nat) (f : FillLocals) (s : I2cMessage) :
    Prop where
  sending : Sending bytes s
  loaded : f.loaded = (bytes.drop base).take f.cnt
  processed : s.processed.toNat = base + f.cnt - 1
  le : base + f.cnt ≤ bytes.length

section Filling

variable {bytes : List (BitVec 8)} {base : Nat} {f : FillLocals} {s : I2cMessage}
  {mapped : Nat → Bool}

theorem Sending.length (h : Sending bytes s) : bytes.length = s.transferLength + 1 := by
  have := h.enough
  rw [h.bytes]
  simp [this]

/-- The first byte is the address. -/
theorem Filling.atAddress (h : Filling bytes base f s) (hbase : base ≠ 1)
    (haddress : s.processed = 0 ∧ f.cnt = 0) : base = 0 := by
  have hprocessed := h.processed
  rw [haddress.1, haddress.2] at hprocessed
  have hzero : (0 : BitVec 32).toNat = 0 := rfl
  omega

/-- The others are data. -/
theorem Filling.atData (h : Filling bytes base f s) (hdata : ¬ (s.processed = 0 ∧ f.cnt = 0)) :
    s.processed.toNat + 1 = base + f.cnt := by
  have hprocessed := h.processed
  have hpos : ¬ base + f.cnt = 0 := by
    intro hzero
    refine hdata ⟨BitVec.eq_of_toNat_eq ?_, by omega⟩
    rw [hprocessed, hzero]
    rfl
  omega

/-- **The next byte of the fill is the next byte of the message.** -/
theorem Filling.nextByte (h : Filling bytes base f s) (hmapped : ∀ k, mapped k = true)
    (hbase : base ≠ 1) (hmore : base + f.cnt < bytes.length) :
    bytes[base + f.cnt]? = some (s.nextByte mapped f) := by
  unfold I2cMessage.nextByte
  split
  · rename_i haddress
    rw [h.sending.bytes, h.atAddress hbase haddress, haddress.2]
    rfl
  · rename_i hdata
    have hnext := h.atData hdata
    have hlength := h.sending.length
    have hlt : s.processed.toNat < s.transferLength := by omega
    obtain ⟨p, hfind, hlocate⟩ := mdlFind_eq hmapped h.sending.enough hlt
    rw [h.sending.bytes, ← hnext, List.getElem?_cons_succ, List.getElem?_take_of_lt hlt,
      getElem?_gather, hlocate, I2cMessage.mdlChainGetByte, hfind]
    rfl

/-- **What a byte changes**: `processed` keeps one behind. -/
theorem Filling.fillByte (h : Filling bytes base f s) (hmapped : ∀ k, mapped k = true)
    (hbase : base ≠ 1) (hmore : base + f.cnt < bytes.length) :
    Sending bytes (s.control (fillByte mapped f.cnt))
      ∧ (s.control (fillByte mapped f.cnt)).processed.toNat = base + f.cnt := by
  have hsending := h.sending
  by_cases haddress : s.processed = 0 ∧ f.cnt = 0
  · have hdevice : I2c.fillByte mapped f.cnt s.toRk3xI2c = s.toRk3xI2c := if_pos haddress
    have hkept : s.control (I2c.fillByte mapped f.cnt) = s :=
      congrArg (fun d : Rk3xI2c => ({ s with toRk3xI2c := d } : I2cMessage)) hdevice
    rw [hkept]
    refine ⟨hsending, ?_⟩
    rw [h.atAddress hbase haddress, haddress.1, haddress.2]
    rfl
  · have hnext := h.atData haddress
    have hlength := hsending.length
    have hlt : s.processed.toNat < s.transferLength := by omega
    have hsuccess := mdlStatus_success hmapped hsending.enough hlt
    have hdevice : I2c.fillByte mapped f.cnt s.toRk3xI2c
        = { s.toRk3xI2c with
            processed := s.processed + 1
            fifo := s.fifo ++ [s.processed.toNat] } := (if_neg haddress).trans (if_pos hsuccess)
    have hmoved : s.control (I2c.fillByte mapped f.cnt)
        = { s with
            processed := s.processed + 1
            fifo := s.fifo ++ [s.processed.toNat] } :=
      congrArg (fun d : Rk3xI2c => ({ s with toRk3xI2c := d } : I2cMessage)) hdevice
    rw [hmoved]
    refine ⟨⟨hsending.bytes, hsending.enough, hsending.short, hsending.status, hsending.state⟩,
      ?_⟩
    rw [← hnext]
    exact processed_succ s.toRk3xI2c hsending.short fun _ => hlt

/-- **A byte is loaded.** -/
theorem Filling.load (h : Filling bytes base f s) (hmapped : ∀ k, mapped k = true)
    (hbase : base ≠ 1) (hmore : base + f.cnt < bytes.length) (j : Nat) :
    Filling bytes base (f.load j (s.nextByte mapped f)) (s.control (I2c.fillByte mapped f.cnt)) := by
  obtain ⟨hsending, hprocessed⟩ := h.fillByte hmapped hbase hmore
  refine ⟨hsending, ?_, hprocessed, hmore⟩
  have hnext : (bytes.drop base)[f.cnt]? = some (s.nextByte mapped f) := by
    rw [List.getElem?_drop, h.nextByte hmapped hbase hmore]
  simp only [FillLocals.load]
  rw [List.take_add_one, hnext, h.loaded]
  rfl

/-- The fill goes on while `processed` is not at the end, and in any case at its beginning. -/
theorem Filling.more (h : Filling bytes base f s) (hfirst : f.cnt = 0 → base < bytes.length)
    (hgo : ¬ (s.processed.toNat = s.transferLength ∧ f.cnt ≠ 0)) :
    base + f.cnt < bytes.length := by
  have hprocessed := h.processed
  have hlength := h.sending.length
  have hle := h.le
  by_cases hcnt : f.cnt = 0
  · rw [hcnt]
    exact hfirst hcnt
  · have hnot : s.processed.toNat ≠ s.transferLength := fun hend => hgo ⟨hend, hcnt⟩
    omega

/-- The end. -/
theorem Filling.all (h : Filling bytes base f s) (hcnt : f.cnt ≠ 0)
    (hend : s.processed.toNat = s.transferLength) : base + f.cnt = bytes.length := by
  have hprocessed := h.processed
  have hlength := h.sending.length
  have hle := h.le
  omega

end Filling

/-! ## 3. The words of a fill

The two loops of `fillTransmitBuf` are followed by what has been packed so far: between two words
the bytes before `4 * i` are in the FIFO, and inside a word the ones after them are in `val`.  Each
loop lemma is an induction on what the loop can still take, four bytes for the inner and eight
words for the outer one, and each stops early just when the message has no more bytes. -/

/-- The bytes from `4 * i` on are in `val`. -/
structure FillLocals.Packed (i : Nat) (f : FillLocals) : Prop where
  count : f.loaded.length = f.cnt
  lanes : ∀ j < 4, lane f.val j = (f.loaded[4 * i + j]?).getD 0

/-- The bytes before `4 * i` are in the FIFO. -/
def InFifo (i : Nat) (f : FillLocals) (s : I2cMessage) : Prop :=
  ∀ k < 4 * i, lane (s.txBuffer (k / 4)) (k % 4) = (f.loaded[k]?).getD 0

theorem FillLocals.Packed.load {i j : Nat} {f : FillLocals} (h : f.Packed i)
    (hcnt : f.cnt = 4 * i + j) (hj : j < 4) (byte : BitVec 8) : (f.load j byte).Packed i := by
  have hcount := h.count
  refine ⟨by simp [FillLocals.load, hcount], fun j' hj' => ?_⟩
  have hold := h.lanes j' hj'
  simp only [FillLocals.load]
  rcases Nat.lt_trichotomy j' j with hlt | rfl | hgt
  · rw [lane_or_ne _ _ (by omega), hold, List.getElem?_append_left (by omega)]
  · rw [List.getElem?_eq_none (by omega)] at hold
    rw [lane_or_self _ _ hj, hold, ← hcnt, ← hcount]
    simp
  · rw [lane_or_ne _ _ (by omega), hold, List.getElem?_eq_none (by omega),
      List.getElem?_eq_none (by simp; omega)]

section Words

variable {bytes : List (BitVec 8)} {base i : Nat} {mapped : Nat → Bool}

/-- **The inner loop** fills the word, or takes what is left. -/
theorem loadWord_spec (hmapped : ∀ k, mapped k = true) (hbase : base ≠ 1) {n : Nat} (hn : n ≤ 4) :
    ∀ {f : FillLocals} {s : I2cMessage}, f.cnt + n = 4 * i + 4 → f.Packed i →
    Filling bytes base f s → (f.cnt = 0 → base < bytes.length) →
    (s.loadWord mapped n f).1.Packed i
      ∧ Filling bytes base (s.loadWord mapped n f).1 (s.loadWord mapped n f).2
      ∧ (s.loadWord mapped n f).1.cnt = min (4 * i + 4) (bytes.length - base) := by
  induction n with
  | zero =>
    intro f s hcnt hpacked hfilling hfirst
    have hle := hfilling.le
    rw [I2cMessage.loadWord]
    exact ⟨hpacked, hfilling, by dsimp only; omega⟩
  | succ n ih =>
    intro f s hcnt hpacked hfilling hfirst
    rw [I2cMessage.loadWord]
    split
    · rename_i hend
      have hall := hfilling.all hend.2 hend.1
      exact ⟨hpacked, hfilling, by dsimp only; omega⟩
    · rename_i hgo
      have hmore := hfilling.more hfirst hgo
      refine ih (by omega) ?_ ?_ (hfilling.load hmapped hbase hmore (3 - n)) ?_
      · simp only [FillLocals.load]
        omega
      · exact hpacked.load (by omega) (by omega) _
      · exact fun hzero => absurd hzero (Nat.succ_ne_zero f.cnt)

/-- The body of the outer loop. -/
theorem writeWord_spec (hmapped : ∀ k, mapped k = true) (hbase : base ≠ 1) {f : FillLocals}
    {s : I2cMessage} (hcnt : f.cnt = 4 * i) (hfilling : Filling bytes base f s)
    (hmore : base + f.cnt < bytes.length) (hfifo : InFifo i f s) :
    Filling bytes base (s.writeWord mapped i f).1 (s.writeWord mapped i f).2
      ∧ (s.writeWord mapped i f).1.cnt = min (4 * i + 4) (bytes.length - base)
      ∧ InFifo (i + 1) (s.writeWord mapped i f).1 (s.writeWord mapped i f).2
      ∧ (s.writeWord mapped i f).2.fills = s.fills := by
  have hlen : f.loaded.length = f.cnt := by
    rw [hfilling.loaded]
    simp
    omega
  have hclear : FillLocals.Packed i { f with val := 0 } := by
    refine ⟨hlen, fun j _ => ?_⟩
    rw [List.getElem?_eq_none (by dsimp only; omega)]
    simp
  have hstart : Filling bytes base { f with val := 0 } s :=
    ⟨hfilling.sending, hfilling.loaded, hfilling.processed, hfilling.le⟩
  obtain ⟨hpacked, hword, hcount⟩ := loadWord_spec hmapped hbase (Nat.le_refl 4)
    (by dsimp only; omega) hclear hstart fun _ => by omega
  obtain ⟨-, hdevice⟩ := loadWord_eq mapped 4 { f with val := 0 } s
  unfold I2cMessage.writeWord
  generalize s.loadWord mapped 4 { f with val := 0 } = word at hpacked hword hcount hdevice ⊢
  have htx : word.2.txBuffer = s.txBuffer := by rw [hdevice]
  have hfills : word.2.fills = s.fills := by rw [hdevice]
  have hsending := hword.sending
  refine ⟨⟨⟨hsending.bytes, hsending.enough, hsending.short, hsending.status, hsending.state⟩,
    hword.loaded, hword.processed, hword.le⟩, hcount, fun k hk => ?_, hfills⟩
  dsimp only
  by_cases hlast : k / 4 = i
  · have hk4 : 4 * i + k % 4 = k := by omega
    rw [hlast, Function.update_self, hpacked.lanes (k % 4) (Nat.mod_lt _ (by decide)), hk4]
  · have hlt : k < 4 * i := by omega
    rw [Function.update_of_ne hlast, htx, hfifo k hlt, hword.loaded, hfilling.loaded,
      List.getElem?_take_of_lt (by omega), List.getElem?_take_of_lt (by omega)]

/-- **The outer loop** takes 32 bytes, or what is left. -/
theorem loadWords_spec (hmapped : ∀ k, mapped k = true) (hbase : base ≠ 1) (n : Nat) :
    ∀ {i : Nat} {f : FillLocals} {s : I2cMessage}, n + i = 8 → f.cnt = 4 * i →
    Filling bytes base f s → (n ≠ 0 → base + f.cnt < bytes.length) → InFifo i f s →
    Filling bytes base (s.loadWords mapped n f).1 (s.loadWords mapped n f).2
      ∧ (s.loadWords mapped n f).1.cnt = min 32 (bytes.length - base)
      ∧ (∀ k < (s.loadWords mapped n f).1.cnt,
        lane ((s.loadWords mapped n f).2.txBuffer (k / 4)) (k % 4)
          = ((s.loadWords mapped n f).1.loaded[k]?).getD 0)
      ∧ (s.loadWords mapped n f).2.fills = s.fills := by
  induction n with
  | zero =>
    intro i f s hi hcnt hfilling _ hfifo
    have hle := hfilling.le
    rw [I2cMessage.loadWords]
    exact ⟨hfilling, by dsimp only; omega, fun k hk => hfifo k (by dsimp only at hk; omega), rfl⟩
  | succ n ih =>
    intro i f s hi hcnt hfilling hmore hfifo
    have hgo := hmore (Nat.succ_ne_zero n)
    have hindex : 7 - n = i := by omega
    obtain ⟨hword, hcount, hin, hfills⟩ :=
      writeWord_spec hmapped hbase hcnt hfilling hgo hfifo
    have hle := hword.le
    rw [I2cMessage.loadWords, hindex]
    split
    · rename_i hend
      have hall := hword.all (by omega) hend
      exact ⟨hword, by omega, fun k hk => hin k (by omega), hfills⟩
    · rename_i hend
      have hnext := hword.more (fun _ => by omega) fun hstop => hend hstop.1
      obtain ⟨hrest, hcount', hin', hfills'⟩ :=
        ih (by omega) (by omega) hword (fun _ => hnext) hin
      exact ⟨hrest, hcount', hin', hfills'.trans hfills⟩

end Words

/-! ## 4. A fill

What one call of `fillTransmitBuf` does to the message, which is all that the interrupt routine
needs to know of it.  `processed` does not count the address byte, so it stays one behind the bytes
sent; this is why a fill may not begin at byte 1. -/

/-- **A fill is exact**: it takes the next 32 bytes of the message, or what is left, and `processed`
counts them. -/
theorem fillTransmitBuf_spec {bytes : List (BitVec 8)} {base : Nat} {e : Interrupt}
    {s : I2cMessage} (hmapped : ∀ k, e.mapped k = true) (hbase : base ≠ 1)
    (hmore : base < bytes.length) (h : Sending bytes s) (hprocessed : s.processed.toNat = base - 1) :
    Sending bytes (fillTransmitBuf e s)
      ∧ (fillTransmitBuf e s).processed.toNat = min (base + 32) bytes.length - 1
      ∧ ∃ fill : TxFill, fill.Exact ∧ fill.loaded = (bytes.drop base).take 32
        ∧ (fillTransmitBuf e s).fills = s.fills ++ [fill] := by
  have hstart : Filling bytes base (.start e.byte) s :=
    ⟨h, by simp [FillLocals.start], hprocessed, hmore.le⟩
  obtain ⟨hfilling, hcount, hlanes, hfills⟩ := loadWords_spec (i := 0) hmapped hbase 8 rfl rfl
    hstart (fun _ => hmore) fun k hk => absurd hk (Nat.not_lt_zero k)
  unfold fillTransmitBuf
  generalize s.loadWords e.mapped 8 (.start e.byte) = r at hfilling hcount hlanes hfills ⊢
  have hsending := hfilling.sending
  have hall : r.1.loaded = (bytes.drop base).take 32 := by
    rw [hfilling.loaded, hcount, ← List.length_drop, ← List.take_eq_take_min]
  have hlength : r.1.loaded.length = r.1.cnt := by
    rw [hall, hcount]
    simp
  have hcnt : (BitVec.ofNat 32 r.1.cnt).toNat = r.1.cnt := by
    rw [BitVec.toNat_ofNat]
    exact Nat.mod_eq_of_lt (by omega)
  refine ⟨⟨hsending.bytes, hsending.enough, hsending.short, hsending.status, hsending.state⟩, ?_,
    ⟨r.1.loaded, BitVec.ofNat 32 r.1.cnt, r.2.txBuffer⟩, ⟨?_, ?_, ?_, ?_⟩, hall, ?_⟩
  · rw [I2cMessage.writeMtxcnt, hfilling.processed, hcount]
    omega
  · rw [hlength]
    omega
  · rw [hlength]
    omega
  · rw [hlength]
    exact hcnt
  · rw [TxFill.bytes, hcnt, ← hlength]
    exact lanes_eq fun k hk => hlanes k (by omega)
  · rw [I2cMessage.writeMtxcnt, hfills]

/-! ## 5. The fills of a message

The START interrupt loads the first fill, and each MBTF interrupt either loads the next one or ends
the message.  `Sent bytes k` is what holds after `k` of them, and a message of any length that fits
into `processed` is an induction on `k`: it ends with the transmission that sends the last byte,
and before that no interrupt ends it. -/

/-- **After `k` transmissions** the fill `k` is in the FIFO. -/
structure Sent (bytes : List (BitVec 8)) (k : Nat) (s : I2cMessage) : Prop where
  sending : Sending bytes s
  processed : s.processed.toNat = min (32 * (k + 1)) bytes.length - 1
  exact : ∀ fill ∈ s.fills, fill.Exact
  loaded : s.fills.map TxFill.loaded = (List.range (k + 1)).map (block 32 bytes)

section Run

variable {bytes : List (BitVec 8)} {k : Nat} {e : Interrupt} {s : I2cMessage}

/-- One more fill. -/
theorem Sent.fill (hmapped : ∀ k, e.mapped k = true) (hmore : 32 * k < bytes.length)
    (hsending : Sending bytes s) (hprocessed : s.processed.toNat = 32 * k - 1)
    (hexact : ∀ fill ∈ s.fills, fill.Exact)
    (hloaded : s.fills.map TxFill.loaded = (List.range k).map (block 32 bytes)) :
    Sent bytes k (fillTransmitBuf e s) := by
  obtain ⟨hafter, hcount, fill, hfill, hnext, hfills⟩ :=
    fillTransmitBuf_spec hmapped (by omega) hmore hsending hprocessed
  refine ⟨hafter, hcount, ?_, ?_⟩
  · rw [hfills]
    intro other hother
    rcases List.mem_append.mp hother with hold | hnew
    · exact hexact other hold
    · rw [List.mem_singleton.mp hnew]
      exact hfill
  · rw [hfills, List.map_append, hloaded, List.range_succ, List.map_append]
    simp [hnext, block]

/-- **The START** is followed by the first fill. -/
theorem Sent.first {address : BitVec 16} {length : Nat} {mdlChain : List Nat}
    {memory : Nat → Nat → BitVec 8} {index : Nat} (he : e.Answers regIntStart)
    (henough : length ≤ mdlChain.sum) (hshort : length < 2 ^ 32) :
    Sent (writeBytes address length mdlChain memory) 0 (i2cMessageIrq e
      (i2cMessageSetUp address ⟨.toDevice, length, mdlChain⟩ memory index s)) := by
  have hstate : (i2cMessageSetUp address ⟨.toDevice, length, mdlChain⟩ memory index s).state
      = .start := rfl
  obtain ⟨hpending, hirq⟩ := he.irq_start hstate
  rw [hirq, handleStart_write hpending rfl]
  refine Sent.fill he.mapped ?_ ⟨?_, henough, hshort, rfl, rfl⟩ rfl (fun _ h => nomatch h) rfl
  · simp [writeBytes]
  · rw [writeBytes, addressByte_eq]
    rfl

/-- **A transmission** is followed by the next fill. -/
theorem Sent.next (h : Sent bytes k s) (he : e.Answers regIntMbtf)
    (hmore : 32 * (k + 1) < bytes.length) : Sent bytes (k + 1) (i2cMessageIrq e s) := by
  have hsending := h.sending
  obtain ⟨hpending, hirq⟩ := he.irq_write hsending.state
  have hprocessed := h.processed
  have hlength := hsending.length
  rw [hirq, handleWrite_more hpending (by omega)]
  refine Sent.fill he.mapped hmore ?_ ?_ h.exact h.loaded
  · exact ⟨hsending.bytes, hsending.enough, hsending.short, hsending.status, hsending.state⟩
  · exact hprocessed.trans (by rw [Nat.min_eq_left hmore.le])

/-- **The last transmission** ends the message. -/
theorem Sent.last (h : Sent bytes k s) (he : e.Answers regIntMbtf)
    (hend : bytes.length ≤ 32 * (k + 1)) :
    (i2cMessageIrq e s).state = .stop ∧ (i2cMessageIrq e s).transactionStatus = .success
      ∧ (i2cMessageIrq e s).fills = s.fills := by
  have hsending := h.sending
  obtain ⟨hpending, hirq⟩ := he.irq_write hsending.state
  have hprocessed := h.processed
  have hlength := hsending.length
  rw [hirq, handleWrite_end hpending (by omega)]
  exact ⟨rfl, hsending.status, rfl⟩

/-- **The fills of a message**, one for each transmission. -/
theorem Sent.run {start : Interrupt} {finished : Nat → Interrupt}
    (hfirst : Sent bytes 0 (i2cMessageIrq start s))
    (hfinished : ∀ k, (finished k).Answers regIntMbtf) :
    ∀ k, 32 * k < bytes.length → Sent bytes k (messageRun start finished s k)
  | 0, _ => hfirst
  | k + 1, hmore => by
    have hbefore := Sent.run hfirst hfinished k (by omega)
    rw [messageRun_succ]
    exact hbefore.next (hfinished k) hmore

/-- **A short message is sent.** -/
theorem SentIn.of_first {start : Interrupt} {finished : Nat → Interrupt}
    (hfirst : Sent bytes 0 (i2cMessageIrq start s)) (hpos : 0 < bytes.length)
    (hfinished : ∀ k, (finished k).Answers regIntMbtf) :
    SentIn bytes (messageRun start finished s) ((bytes.length + 31) / 32) := by
  obtain ⟨n, hn⟩ : ∃ n, (bytes.length + 31) / 32 = n + 1 := ⟨(bytes.length + 31) / 32 - 1, by omega⟩
  have hlast := Sent.run hfirst hfinished n (by omega)
  have hcount : ∀ k, Sent bytes k (messageRun start finished s k) →
      (messageRun start finished s k).fills.length = k + 1 := by
    intro k hk
    simpa using congrArg List.length hk.loaded
  obtain ⟨hstate, hstatus, hfills⟩ := hlast.last (hfinished n) (by omega)
  rw [hn]
  refine ⟨fun k hk => ?_, ?_, ?_, ?_, ?_⟩
  · have hsent := Sent.run hfirst hfinished k (by omega)
    exact ⟨hsent.sending.state, hcount k hsent⟩
  · rw [messageRun_succ]
    exact ⟨hstate, hstatus⟩
  · rw [messageRun_succ, hfills]
    exact hcount n hlast
  · rw [messageRun_succ, hfills]
    exact hlast.exact
  · rw [messageRun_succ, hfills, List.flatMap_def, hlast.loaded, ← List.flatMap_def, flatMap_block]
    exact List.take_of_length_le (by omega)

/-! ## 6. A message that is too long

`processed` has 32 bits and the length of a message has 64.  From 2 ^ 32 bytes on the comparison
that ends the message never succeeds, so it goes on for ever; the property and the condition on the
length are therefore the same. -/

theorem Endless.fill (h : Endless .write s) : Endless .write (fillTransmitBuf e s) := by
  have hsame : SameControl s.toRk3xI2c (fillTransmitBuf e s).toRk3xI2c := by
    rw [fillTransmitBuf_toRk3xI2c]
    exact fillWords_sameControl e.mapped 8 0 s.toRk3xI2c
  exact ⟨hsame.transferLength ▸ h.long, hsame.state.trans h.state⟩

/-- A transmission does not end it. -/
theorem Endless.transmission (h : Endless .write s) (he : e.Answers regIntMbtf) :
    Endless .write (i2cMessageIrq e s) := by
  obtain ⟨hpending, hirq⟩ := he.irq_write h.state
  rw [hirq, handleWrite_more hpending (s.processed.isLt.trans_le h.long)]
  exact Endless.fill ⟨h.long, h.state⟩

end Run

section Message

variable (address : BitVec 16) {length : Nat} (mdlChain : List Nat) (memory : Nat → Nat → BitVec 8)
  (index : Nat) (s : I2cMessage)

theorem Endless.firstFill {e : Interrupt} (he : e.Answers regIntStart) (hlong : 2 ^ 32 ≤ length) :
    Endless .write (i2cMessageIrq e
      (i2cMessageSetUp address ⟨.toDevice, length, mdlChain⟩ memory index s)) := by
  have hstate : (i2cMessageSetUp address ⟨.toDevice, length, mdlChain⟩ memory index s).state
      = .start := rfl
  obtain ⟨hpending, hirq⟩ := he.irq_start hstate
  rw [hirq, handleStart_write hpending rfl]
  exact Endless.fill ⟨hlong, rfl⟩

theorem not_writeExact (hlong : 2 ^ 32 ≤ length) :
    ¬ WriteExact address length mdlChain memory index s := by
  intro h
  have hstart := interrupt_answers regIntStart (by decide) (by decide)
  have hfinished := fun _ : Nat => interrupt_answers regIntMbtf (by decide) (by decide)
  obtain ⟨hstop, -⟩ := (h _ _ hstart hfinished).ended
  have hendless := (Endless.firstFill address mdlChain memory index s hstart hlong).run
    (fun k _ hbefore => hbefore.transmission (hfinished k)) ((length + 1 + 31) / 32)
  exact absurd (hstop.symm.trans hendless.state) (by decide)

/-- **A write message is right just where its length fits into `processed`.** Every fill takes the
next bytes of the message, so a length that `processed` can reach is sent as a whole; one that it
cannot reach is followed by another fill for ever. -/
theorem writeExact_iff (henough : length ≤ mdlChain.sum) :
    WriteExact address length mdlChain memory index s ↔ length < 2 ^ 32 := by
  refine ⟨fun h => ?_, fun hshort start finished hstart hfinished => ?_⟩
  · by_contra hlong
    exact not_writeExact address mdlChain memory index s (Nat.not_lt.mp hlong) h
  · have hlength : (writeBytes address length mdlChain memory).length = length + 1 := by
      simp [writeBytes, henough]
    rw [← hlength]
    exact SentIn.of_first (Sent.first hstart henough hshort) (by omega) hfinished

end Message

/-- A message of three bytes in two MDLs. -/
theorem writeExact_iff_of_three :
    WriteExact 0x50 3 [1, 2] (fun _ j => BitVec.ofNat 8 j) 0 idleMessage :=
  (writeExact_iff 0x50 [1, 2] (fun _ j => BitVec.ofNat 8 j) 0 idleMessage (by decide)).mpr
    (by decide)

/-- **A message of 4 GiB never ends**, in two MDLs of half of it. -/
theorem long_write_endless :
    2 ^ 32 ≤ [2 ^ 31, 2 ^ 31].sum
      ∧ ¬ WriteExact 0x50 (2 ^ 32) [2 ^ 31, 2 ^ 31] (fun _ _ => 0) 0 idleMessage :=
  ⟨by decide, not_writeExact 0x50 [2 ^ 31, 2 ^ 31] (fun _ _ => 0) 0 idleMessage (Nat.le_refl _)⟩

end WoaRk3576.I2c
