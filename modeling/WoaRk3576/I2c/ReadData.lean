/-
# What a read message of rk3xi2c stores

The controller is asked for chunks of at most 32 bytes: for the first by `rk3x_i2c_handle_start`,
for the next one by `rk3x_i2c_handle_read` when a chunk was stored.  All that is written to the
controller follows from `processed`, which is the number of bytes that were stored
(`Stored.processed`).  `readExact_iff` says that the message is right just where its length fits
into `processed`, as for a write.

`Stored xs` is the invariant: the bytes `xs` are at the beginning of the chain, what is behind them
and what lies outside of the chain is as it was, and `processed` is their number.  A byte that is
taken out of the FIFO is put at the place of byte `processed` (`gather_put`), which keeps it.  From
it everything about a request follows: it asks for 32 bytes or for what is left, and sets the bit
for the NAK exactly if nothing is left behind it.

The chunks are an induction over the requests, the first of which the START makes.  For a length
that does not fit, `processed` wraps before it gets there, every chunk is followed by another one,
and the message never ends; this is proved of the state machine alone, whatever is stored.
-/
import WoaRk3576.I2c.Completion
import WoaRk3576.I2c.MessageData

namespace WoaRk3576.I2c

open WoaRk3576.Lib

/-! ## 1. The property

The number of chunks is fixed by the length, and what each request asks for is stated as well as
what is stored. -/

/-- The bytes that the controller receives, 32 with every chunk. -/
def receivedByte (received : Nat → Interrupt) (i : Nat) : BitVec 8 :=
  lane ((received (i / 32)).rxBuffer (i % 32 / 4)) (i % 4)

/-- The first `n` of them. -/
def receivedBytes (received : Nat → Interrupt) (n : Nat) : List (BitVec 8) :=
  (List.range n).map (receivedByte received)

/-- **Request `k` is exact**: it asks for 32 bytes, or for what is left; its last byte gets a NAK
just where it is the last of the message; and it only receives, but for the first one. -/
structure RxRequest.Exact (length k : Nat) (request : RxRequest) : Prop where
  mrxcnt : request.mrxcnt.toNat = min 32 (length - 32 * k)
  lastack : request.regCon &&& regConLastack ≠ 0 ↔ k + 1 = (length + 31) / 32
  mode : request.regCon &&& regConModMask = regConMod (if k = 0 then .registerTx else .rx)

/-- **The message is received in `n` chunks**; `run k` is the device after `k` of them.  The bytes
are stored in order, each once, and nothing else is changed. -/
structure ReceivedIn (length : Nat) (mdlChain : List Nat) (memory : Nat → Nat → BitVec 8)
    (received : Nat → Interrupt) (run : Nat → I2cMessage) (n : Nat) : Prop where
  reading : ∀ k < n, (run k).state = .read ∧ (run k).requests.length = k + 1
  ended : (run n).state = .stop ∧ (run n).transactionStatus = .success
  requests : (run n).requests.length = n
  exact : ∀ k (request : RxRequest), (run n).requests[k]? = some request → request.Exact length k
  moved : (run n).moved = List.range length
  stored : gather (run n).memory 0 mdlChain
    = receivedBytes received length ++ (gather memory 0 mdlChain).drop length
  kept : ∀ k j, (∀ i, locate 0 mdlChain i ≠ some (k, j)) → (run n).memory k j = memory k j

/-- **A read message is right**, whatever the device has done before: with every request answered,
its bytes are received in `⌈length / 32⌉` chunks. -/
def ReadExact (address : BitVec 16) (length : Nat) (mdlChain : List Nat)
    (memory : Nat → Nat → BitVec 8) (index : Nat) (s : I2cMessage) : Prop :=
  ∀ (start : Interrupt) (received : Nat → Interrupt), start.Answers regIntStart →
    (∀ k, (received k).Answers regIntMbrf) →
    ReceivedIn length mdlChain memory received
      (messageRun start received
        (i2cMessageSetUp address ⟨.fromDevice, length, mdlChain⟩ memory index s))
      ((length + 31) / 32)

/-! ## 2. The bytes that were stored

What was stored is a prefix of what was received, in the order of the chain; each byte goes behind
it. -/

/-- The bytes `xs` were stored, in a message that is short enough for `processed`. -/
structure Stored (mdlChain : List Nat) (memory : Nat → Nat → BitVec 8) (xs : List (BitVec 8))
    (s : I2cMessage) : Prop where
  chain : s.currentMdlChain = mdlChain
  enough : s.transferLength ≤ mdlChain.sum
  short : s.transferLength < 2 ^ 32
  status : s.transactionStatus = .success
  state : s.state = .read
  processed : s.processed.toNat = xs.length
  moved : s.moved = List.range xs.length
  stored : gather s.memory 0 mdlChain = xs ++ (gather memory 0 mdlChain).drop xs.length
  kept : ∀ k j, (∀ i, locate 0 mdlChain i ≠ some (k, j)) → s.memory k j = memory k j

section Stored

variable {mdlChain : List Nat} {memory : Nat → Nat → BitVec 8} {xs : List (BitVec 8)}
  {s : I2cMessage} {mapped : Nat → Bool} {rxBuffer : Nat → BitVec 32}

/-- **A byte is stored** behind the others. -/
theorem Stored.storeByte (h : Stored mdlChain memory xs s) (hmapped : ∀ k, mapped k = true)
    (hmore : xs.length < s.transferLength) (byte : BitVec 8) :
    Stored mdlChain memory (xs ++ [byte]) (s.storeByte mapped byte)
      ∧ (s.storeByte mapped byte).transferLength = s.transferLength
      ∧ (s.storeByte mapped byte).requests = s.requests := by
  have hlt : s.processed.toNat < s.transferLength := h.processed ▸ hmore
  obtain ⟨p, hfind, hlocate⟩ := mdlFind_eq hmapped (h.chain ▸ h.enough) hlt
  rw [h.chain, h.processed] at hlocate
  have hset : s.mdlChainSetByte mapped byte = { s with memory := put s.memory p.1 p.2 byte } := by
    rw [I2cMessage.mdlChainSetByte, hfind]
  have hnext := processed_succ s.toRk3xI2c h.short fun _ => hlt
  have hlength : (gather memory 0 mdlChain).length = mdlChain.sum := length_gather ..
  unfold I2cMessage.storeByte
  rw [hset]
  refine ⟨⟨h.chain, h.enough, h.short, h.status, h.state, ?_, ?_, ?_, ?_⟩, rfl, rfl⟩
  · rw [List.length_append]
    exact hnext.trans (by rw [h.processed]; rfl)
  · have hmoved : s.moved ++ [s.processed.toNat] = List.range (xs.length + 1) := by
      rw [h.moved, h.processed, List.range_succ]
    simpa using hmoved
  · have hdrop := List.drop_eq_getElem_cons (l := gather memory 0 mdlChain) (i := xs.length)
      (by have := h.enough; omega)
    simp only [control_memory]
    rw [gather_put _ _ _ hlocate, h.stored, List.set_append_right _ _ (Nat.le_refl _), hdrop,
      Nat.sub_self, List.set_cons_zero, List.append_assoc, List.length_append]
    rfl
  · intro k j hfree
    have hne : ¬ (k = p.1 ∧ j = p.2) := by
      rintro ⟨rfl, rfl⟩
      exact hfree _ hlocate
    rw [control_memory]
    exact (if_neg hne).trans (h.kept k j hfree)

/-- **The loop over the receive FIFO** stores its bytes. -/
theorem Stored.receiveBytes (hmapped : ∀ k, mapped k = true) (n : Nat) : ∀ {i : Nat}
    {v : BitVec 32} {s : I2cMessage}, Stored mdlChain memory (xs ++ lanes rxBuffer i) s →
    (i % 4 ≠ 0 → v = rxBuffer (i / 4)) → xs.length + (i + n) ≤ s.transferLength →
    Stored mdlChain memory (xs ++ lanes rxBuffer (i + n)) (s.receiveBytes mapped rxBuffer n i v)
      ∧ (s.receiveBytes mapped rxBuffer n i v).transferLength = s.transferLength
      ∧ (s.receiveBytes mapped rxBuffer n i v).requests = s.requests := by
  induction n with
  | zero => exact fun h _ _ => ⟨h, rfl, rfl⟩
  | succ n ih =>
    intro i val s h hval hroom
    have hlength : (xs ++ lanes rxBuffer i).length = xs.length + i := by simp
    have hlt : s.processed.toNat < s.transferLength := by
      have := h.processed
      omega
    have hnext : nextVal rxBuffer i val = rxBuffer (i / 4) := by
      unfold nextVal
      split
      · rfl
      · rename_i hsame
        exact hval hsame
    obtain ⟨hstored, htransfer, hrequests⟩ := h.storeByte hmapped (by omega)
      (lane (nextVal rxBuffer i val) (i % 4))
    rw [List.append_assoc, hnext, ← lanes_succ] at hstored
    have hword : (i + 1) % 4 ≠ 0 → rxBuffer (i / 4) = rxBuffer ((i + 1) / 4) := by
      intro hinner
      congr 1
      omega
    rw [hnext] at htransfer hrequests
    obtain ⟨hrest, htransfer', hrequests'⟩ := ih hstored hword (by omega)
    rw [I2cMessage.receiveBytes, if_pos (mdlStatus_success hmapped (h.chain ▸ h.enough) hlt), hnext,
      Nat.add_comm n 1, ← Nat.add_assoc]
    exact ⟨hrest, htransfer'.trans htransfer, hrequests'.trans hrequests⟩

end Stored

/-! ## 3. The requests

After each chunk the routine asks for the next one or ends the message.  `Requested` is the state
in between, and the run is an induction over the chunks. -/

/-- The NAK of a request depends on what is left. -/
theorem prepareRead_lastack (d : Rk3xI2c) :
    (rk3xI2cPrepareRead d).regCon &&& regConLastack ≠ 0
      ↔ d.transferLength - d.processed.toNat ≤ 32 := by
  have hmode : ∀ con : BitVec 32, (if d.processed ≠ 0 then
      con &&& ~~~regConModMask ||| regConMod .rx else con) &&& regConLastack
        = con &&& regConLastack := by
    intro con
    split
    · rw [or_and_of_apart _ (by decide), and_not_and_of_apart con (by decide)]
    · rfl
  have hregCon : (rk3xI2cPrepareRead d).regCon &&& regConLastack
      = (if 32 < d.transferLength - d.processed.toNat then d.regCon &&& ~~~regConLastack
        else d.regCon ||| regConLastack) &&& regConLastack := hmode _
  rw [hregCon]
  split
  · rename_i hmore
    exact iff_of_false (not_not.mpr (not_and_and _ _)) (Nat.not_le.mpr hmore)
  · rename_i hlast
    refine iff_of_true ?_ (Nat.not_lt.mp hlast)
    rw [or_and_self]
    decide

/-- The mode of a request depends on what was processed. -/
theorem prepareRead_mode (d : Rk3xI2c) :
    (rk3xI2cPrepareRead d).regCon &&& regConModMask
      = if d.processed ≠ 0 then regConMod .rx else d.regCon &&& regConModMask := by
  have hlastack : (if 32 < d.transferLength - d.processed.toNat then
      d.regCon &&& ~~~regConLastack else d.regCon ||| regConLastack) &&& regConModMask
        = d.regCon &&& regConModMask := by
    split
    · exact and_not_and_of_apart _ (by decide)
    · exact or_and_of_apart _ (by decide)
  unfold rk3xI2cPrepareRead Rk3xI2c.writeCon
  dsimp only
  split
  · exact replaced_and _ (by decide)
  · exact hlastack

/-- The mode that `rk3x_i2c_start` has set, until the first request. -/
theorem setUp_mode (con : BitVec 32) (mode : ConMode) :
    (con &&& regConTuningMask ||| (regConEn ||| regConMod mode ||| regConStart)
      ||| regConActack) &&& ~~~regConStart &&& regConModMask = regConMod mode := by
  have hmode : regConMod mode &&& regConModMask = regConMod mode := by
    cases mode <;> decide
  have htuning : con &&& regConTuningMask &&& regConModMask = 0 := and_apart_right con (by decide)
  have hen : regConEn &&& regConModMask = 0 := by decide
  rw [and_not_and_of_apart _ (by decide), or_and_of_apart _ (by decide),
    BitVec.and_or_distrib_right, htuning, or_and_of_apart _ (by decide),
    BitVec.and_or_distrib_right, hen, hmode]
  exact BitVec.zero_or.trans BitVec.zero_or

/-- **After `k` chunks** the chunk `k` was asked for. -/
structure Requested (length : Nat) (mdlChain : List Nat) (memory : Nat → Nat → BitVec 8)
    (received : Nat → Interrupt) (k : Nat) (s : I2cMessage) : Prop where
  stored : Stored mdlChain memory (receivedBytes received (32 * k)) s
  transferLength : s.transferLength = length
  count : s.requests.length = k + 1
  exact : ∀ i (request : RxRequest), s.requests[i]? = some request → request.Exact length i

@[simp]
theorem length_receivedBytes (received : Nat → Interrupt) (n : Nat) :
    (receivedBytes received n).length = n := by
  simp [receivedBytes]

/-- A chunk is 32 bytes of those received, or less. -/
theorem receivedBytes_add (received : Nat → Interrupt) (k : Nat) {n : Nat} (hn : n ≤ 32) :
    receivedBytes received (32 * k + n)
      = receivedBytes received (32 * k) ++ lanes (received k).rxBuffer n := by
  unfold receivedBytes lanes
  rw [List.range_add, List.map_append, List.map_map]
  congr 1
  refine List.map_congr_left fun t ht => ?_
  rw [List.mem_range] at ht
  have hchunk : (32 * k + t) / 32 = k := by omega
  have hword : (32 * k + t) % 32 / 4 = t / 4 := by omega
  have hlane : (32 * k + t) % 4 = t % 4 := by omega
  rw [Function.comp_apply, receivedByte, hchunk, hword, hlane]

section Run

variable {length : Nat} {mdlChain : List Nat} {memory : Nat → Nat → BitVec 8}
  {received : Nat → Interrupt} {k : Nat} {s : I2cMessage}

/-- One more request. -/
theorem Requested.ask (hstored : Stored mdlChain memory (receivedBytes received (32 * k)) s)
    (htransfer : s.transferLength = length) (hmore : 32 * k < length)
    (hmode : k = 0 → s.regCon &&& regConModMask = regConMod .registerTx)
    (hcount : s.requests.length = k)
    (hexact : ∀ i (request : RxRequest), s.requests[i]? = some request → request.Exact length i) :
    Requested length mdlChain memory received k (prepareRead s) := by
  have hprocessed := hstored.processed
  rw [length_receivedBytes] at hprocessed
  refine ⟨⟨hstored.chain, hstored.enough, hstored.short, hstored.status, hstored.state,
    hstored.processed, hstored.moved, hstored.stored, hstored.kept⟩, htransfer, ?_, ?_⟩
  · simp [prepareRead, hcount]
  · intro i request hrequest
    rcases Nat.lt_trichotomy i k with hlt | rfl | hgt
    · refine hexact i request ?_
      rw [prepareRead, List.getElem?_append_left (by omega)] at hrequest
      exact hrequest
    · rw [prepareRead, List.getElem?_append_right (by omega), hcount, Nat.sub_self] at hrequest
      cases hrequest
      refine ⟨?_, ?_, ?_⟩
      · rw [htransfer, hprocessed, BitVec.toNat_ofNat]
        omega
      · rw [prepareRead_lastack, htransfer, hprocessed]
        omega
      · rw [prepareRead_mode]
        by_cases hfirst : i = 0
        · have hnone : s.processed = 0 := BitVec.eq_of_toNat_eq (by rw [hprocessed, hfirst]; rfl)
          rw [if_neg (not_not.mpr hnone), if_pos hfirst]
          exact hmode hfirst
        · have hsome : s.processed ≠ 0 := by
            intro hnone
            have hzero : (0 : BitVec 32).toNat = 0 := rfl
            rw [hnone, hzero] at hprocessed
            omega
          rw [if_pos hsome, if_neg hfirst]
    · rw [prepareRead, List.getElem?_eq_none (by simp; omega)] at hrequest
      cases hrequest

/-- **The START** is followed by the first request. -/
theorem Requested.first {address : BitVec 16} {index : Nat} {e : Interrupt}
    (he : e.Answers regIntStart) (henough : length ≤ mdlChain.sum) (hshort : length < 2 ^ 32)
    (hpos : 0 < length) :
    Requested length mdlChain memory received 0 (i2cMessageIrq e
      (i2cMessageSetUp address ⟨.fromDevice, length, mdlChain⟩ memory index s)) := by
  have hstate : (i2cMessageSetUp address ⟨.fromDevice, length, mdlChain⟩ memory index s).state
      = .start := rfl
  obtain ⟨hpending, hirq⟩ := he.irq_start hstate
  have hread : ConMode.registerTx ≠ .tx := by decide
  rw [hirq, handleStart_read hpending hread]
  refine Requested.ask ⟨rfl, henough, hshort, rfl, rfl, rfl, rfl, rfl, fun _ _ _ => rfl⟩ rfl hpos
    (fun _ => setUp_mode s.regCon .registerTx) rfl (fun _ _ h => nomatch h)

/-- What is taken out of the FIFO. -/
theorem Requested.receive {e : Interrupt} (h : Requested length mdlChain memory received k s)
    (hrx : e.rxBuffer = (received k).rxBuffer) (hmapped : ∀ k, e.mapped k = true)
    (hmore : 32 * k < length) :
    Stored mdlChain memory (receivedBytes received (min (32 * (k + 1)) length)) (s.receive e)
      ∧ (s.receive e).transferLength = length
      ∧ (s.receive e).requests = s.requests := by
  have hprocessed := h.stored.processed
  rw [length_receivedBytes] at hprocessed
  have hstored : Stored mdlChain memory
      (receivedBytes received (32 * k) ++ lanes e.rxBuffer 0) s := by
    simpa [lanes] using h.stored
  have hchunk : min (32 * (k + 1)) length = 32 * k + min (length - 32 * k) 32 := by omega
  obtain ⟨hall, htransfer, hrequests⟩ := hstored.receiveBytes hmapped (v := 0)
    (min (length - 32 * k) 32) (fun hinner => absurd rfl hinner)
    (by rw [length_receivedBytes, h.transferLength]; omega)
  unfold I2cMessage.receive
  rw [h.transferLength, hprocessed, hchunk, receivedBytes_add received k (by omega), ← hrx]
  rw [Nat.zero_add] at hall
  exact ⟨hall, htransfer.trans h.transferLength, hrequests⟩

/-- **A chunk** is followed by the next request. -/
theorem Requested.next (h : Requested length mdlChain memory received k s)
    (he : (received k).Answers regIntMbrf) (hmore : 32 * (k + 1) < length) :
    Requested length mdlChain memory received (k + 1) (i2cMessageIrq (received k) s) := by
  obtain ⟨hpending, hirq⟩ := he.irq_read h.stored.state
  obtain ⟨hstored, htransfer, hrequests⟩ := h.receive (e := (received k).left) rfl
    he.mapped (by omega)
  have hprocessed := hstored.processed
  rw [length_receivedBytes] at hprocessed
  rw [Nat.min_eq_left hmore.le] at hstored
  rw [hirq, handleRead_more hpending (by omega)]
  refine Requested.ask hstored htransfer hmore (fun hzero => absurd hzero (Nat.succ_ne_zero k))
    ?_ ?_
  · rw [hrequests, h.count]
  · rw [hrequests]
    exact h.exact

/-- **The last chunk** ends the message. -/
theorem Requested.last (h : Requested length mdlChain memory received k s)
    (he : (received k).Answers regIntMbrf) (hmore : 32 * k < length)
    (hend : length ≤ 32 * (k + 1)) :
    (i2cMessageIrq (received k) s).state = .stop
      ∧ (i2cMessageIrq (received k) s).transactionStatus = .success
      ∧ (i2cMessageIrq (received k) s).requests = s.requests
      ∧ (i2cMessageIrq (received k) s).moved = List.range length
      ∧ gather (i2cMessageIrq (received k) s).memory 0 mdlChain
        = receivedBytes received length ++ (gather memory 0 mdlChain).drop length
      ∧ ∀ m j, (∀ i, locate 0 mdlChain i ≠ some (m, j)) →
        (i2cMessageIrq (received k) s).memory m j = memory m j := by
  obtain ⟨hpending, hirq⟩ := he.irq_read h.stored.state
  obtain ⟨hstored, htransfer, hrequests⟩ := h.receive (e := (received k).left) rfl
    he.mapped hmore
  rw [Nat.min_eq_right hend] at hstored
  have hprocessed := hstored.processed
  have hmoved := hstored.moved
  have hgather := hstored.stored
  rw [length_receivedBytes] at hprocessed hmoved hgather
  rw [hirq, handleRead_end hpending (by omega)]
  exact ⟨rfl, hstored.status, hrequests, hmoved, hgather, hstored.kept⟩

/-- **The requests of a message**, one for each chunk. -/
theorem Requested.run {start : Interrupt}
    (hfirst : Requested length mdlChain memory received 0 (i2cMessageIrq start s))
    (hreceived : ∀ k, (received k).Answers regIntMbrf) :
    ∀ k, 32 * k < length →
      Requested length mdlChain memory received k (messageRun start received s k)
  | 0, _ => hfirst
  | k + 1, hmore => by
    have hbefore := Requested.run hfirst hreceived k (by omega)
    rw [messageRun_succ]
    exact hbefore.next (hreceived k) hmore

/-- **A short message is received.** -/
theorem ReceivedIn.of_first {start : Interrupt} (hpos : 0 < length)
    (hfirst : Requested length mdlChain memory received 0 (i2cMessageIrq start s))
    (hreceived : ∀ k, (received k).Answers regIntMbrf) :
    ReceivedIn length mdlChain memory received (messageRun start received s)
      ((length + 31) / 32) := by
  obtain ⟨n, hn⟩ : ∃ n, (length + 31) / 32 = n + 1 := ⟨(length + 31) / 32 - 1, by omega⟩
  have hasked := Requested.run hfirst hreceived n (by omega)
  obtain ⟨hstate, hstatus, hrequests, hmoved, hstored, hkept⟩ :=
    hasked.last (hreceived n) (by omega) (by omega)
  rw [hn]
  refine ⟨fun k hk => ?_, ?_, ?_, ?_, ?_, ?_, ?_⟩
  · have hrun := Requested.run hfirst hreceived k (by omega)
    exact ⟨hrun.stored.state, hrun.count⟩
  · rw [messageRun_succ]
    exact ⟨hstate, hstatus⟩
  · rw [messageRun_succ, hrequests]
    exact hasked.count
  · rw [messageRun_succ, hrequests]
    exact hasked.exact
  · rw [messageRun_succ]
    exact hmoved
  · rw [messageRun_succ]
    exact hstored
  · rw [messageRun_succ]
    exact hkept

/-! ## 4. A message that is too long

The same routine never comes to an end here, however many chunks it receives, so the property fails
for these lengths. -/

/-- A chunk does not end it. -/
theorem Endless.chunk {e : Interrupt} (h : Endless .read s) (he : e.Answers regIntMbrf) :
    Endless .read (i2cMessageIrq e s) := by
  obtain ⟨hpending, hirq⟩ := he.irq_read h.state
  have hsame : SameControl s.toRk3xI2c (s.receive e.left).toRk3xI2c := by
    rw [I2cMessage.receive, receiveBytes_toRk3xI2c]
    exact readBytes_sameControl _ _ s.toRk3xI2c
  have hlong : 2 ^ 32 ≤ (s.receive e.left).transferLength := hsame.transferLength ▸ h.long
  rw [hirq, handleRead_more hpending ((s.receive e.left).processed.isLt.trans_le hlong)]
  exact ⟨hlong, hsame.state.trans h.state⟩

end Run

section Message

variable (address : BitVec 16) {length : Nat} (mdlChain : List Nat) (memory : Nat → Nat → BitVec 8)
  (index : Nat) (s : I2cMessage)

theorem Endless.firstRequest {e : Interrupt} (he : e.Answers regIntStart)
    (hlong : 2 ^ 32 ≤ length) :
    Endless .read (i2cMessageIrq e
      (i2cMessageSetUp address ⟨.fromDevice, length, mdlChain⟩ memory index s)) := by
  have hstate : (i2cMessageSetUp address ⟨.fromDevice, length, mdlChain⟩ memory index s).state
      = .start := rfl
  have hread : ConMode.registerTx ≠ .tx := by decide
  obtain ⟨hpending, hirq⟩ := he.irq_start hstate
  rw [hirq, handleStart_read hpending hread]
  exact ⟨hlong, rfl⟩

theorem not_readExact (hlong : 2 ^ 32 ≤ length) :
    ¬ ReadExact address length mdlChain memory index s := by
  intro h
  have hstart := interrupt_answers regIntStart (by decide) (by decide)
  have hreceived := fun _ : Nat => interrupt_answers regIntMbrf (by decide) (by decide)
  obtain ⟨hstop, -⟩ := (h _ _ hstart hreceived).ended
  have hendless := (Endless.firstRequest address mdlChain memory index s hstart hlong).run
    (fun k _ hbefore => hbefore.chunk (hreceived k)) ((length + 31) / 32)
  exact absurd (hstop.symm.trans hendless.state) (by decide)

/-- **A read message is right just where its length fits into `processed`.** Every chunk is stored
behind the bytes that were stored before, and what is asked for next follows from their number; if
that wraps before the length is reached, chunk follows chunk for ever. -/
theorem readExact_iff (hpos : 1 ≤ length) (henough : length ≤ mdlChain.sum) :
    ReadExact address length mdlChain memory index s ↔ length < 2 ^ 32 := by
  refine ⟨fun h => ?_, fun hshort start received hstart hreceived => ?_⟩
  · by_contra hlong
    exact not_readExact address mdlChain memory index s (Nat.not_lt.mp hlong) h
  · exact ReceivedIn.of_first hpos (Requested.first hstart henough hshort hpos) hreceived

end Message

/-- A message of three bytes in two MDLs. -/
theorem readExact_iff_of_three : ReadExact 0x50 3 [1, 2] (fun _ _ => 0) 0 idleMessage :=
  (readExact_iff 0x50 [1, 2] (fun _ _ => 0) 0 idleMessage (by decide) (by decide)).mpr (by decide)

/-- **A message of 4 GiB never ends**, in two MDLs of half of it. -/
theorem long_read_endless :
    2 ^ 32 ≤ [2 ^ 31, 2 ^ 31].sum
      ∧ ¬ ReadExact 0x50 (2 ^ 32) [2 ^ 31, 2 ^ 31] (fun _ _ => 0) 0 idleMessage :=
  ⟨by decide, not_readExact 0x50 [2 ^ 31, 2 ^ 31] (fun _ _ => 0) 0 idleMessage (Nat.le_refl _)⟩

end WoaRk3576.I2c
