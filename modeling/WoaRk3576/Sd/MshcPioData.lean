/-
# The data of a PIO transfer of dwcmshc

`MshcStartPioTransfer` is called once for every data request of the FIFO.  Each call moves as many
words as the threshold that `MshcBuildPioTransfer` chose, and takes them off what is left.  There
is no call for less than that: `movesExactly_iff` says that the transfer is right just where the
threshold divides it, which is where half the FIFO does or the whole transfer fits into that half.

`Progress` is where a transfer is after `i` calls of `size` bytes: `i * size` bytes were moved, in
order and once, the pointer is behind them, and the rest is what remains.  A call keeps it if it
fits into what is left (`Progress.step`).  In whole rounds each call does, and the last one finds
nothing left behind it and says so.  In the other direction the calls take the same off every time,
so a transfer that is exact and ends is a whole number of calls (`MovesExactly.remaining`): the
last call of any other one moves more than what is left, and what remains wraps below zero.

The events themselves, and what they do to the request, are in the other modules of this driver.
-/
import WoaRk3576.Lib.Extents
import WoaRk3576.Lib.Memory
import WoaRk3576.Sd.Port

namespace WoaRk3576.Sd.PioData

open WoaRk3576.Lib

/-! ## 1. The routines

`MshcBuildPioTransfer` chooses the threshold once, as the number of words that every call moves.  A
word is four bytes of the buffer, in the order of the bus. -/

/-- `DataBuffer` and `Status` of the request, the fields of the extension that its transfer
depends on, and the memory.  The observer's part: how many bytes were read from the FIFO, what was
written to it, and the accesses to the buffer. -/
structure PioTransfer where
  transferDirection : TransferDirection
  dataBuffer : Nat
  status : NtStatus
  currentTransferRemainingLength : BitVec 32
  fifoThreshold : Nat
  memory : Memory
  received : Nat
  sent : List (BitVec 8)
  accesses : List (Extent Nat)

/-- `MSHC_OPTIMAL_FIFO_THRESHOLD`. -/
def mshcOptimalFifoThreshold (fifoDepth : BitVec 32) : Nat := fifoDepth.toNat / 2

/-- `MshcBuildTransfer` and `MshcBuildPioTransfer`, for a request that was not worked on yet. -/
def mshcBuildTransfer (fifoDepth : BitVec 32) (direction : TransferDirection) (dataBuffer : Nat)
    (length : BitVec 32) (memory : Memory) : PioTransfer where
  transferDirection := direction
  dataBuffer := dataBuffer
  status := .success
  currentTransferRemainingLength := length
  fifoThreshold := min (length.toNat / 4) (mshcOptimalFifoThreshold fifoDepth)
  memory := memory
  received := 0
  sent := []
  accesses := []

/-- The bytes of the FIFO from `i` on. -/
def streamBytes (stream : Nat → BitVec 8) (i n : Nat) : List (BitVec 8) :=
  (List.range n).map fun k => stream (i + k)

/-- `MshcReadDataPort` of `length` words. -/
def mshcReadDataPort (stream : Nat → BitVec 8) (length : Nat) (s : PioTransfer) : PioTransfer :=
  { s with
    memory := store s.memory s.dataBuffer (streamBytes stream s.received (length * 4))
    received := s.received + length * 4
    accesses := s.accesses ++ [⟨s.dataBuffer, length * 4⟩] }

/-- `MshcWriteDataPort` of `length` words. -/
def mshcWriteDataPort (length : Nat) (s : PioTransfer) : PioTransfer :=
  { s with
    sent := s.sent ++ load s.memory s.dataBuffer (length * 4)
    accesses := s.accesses ++ [⟨s.dataBuffer, length * 4⟩] }

/-- `SubTransferLength`. -/
def PioTransfer.subTransferLength (s : PioTransfer) : Nat := s.fifoThreshold * 4

/-- The words of one call. -/
def PioTransfer.movePort (stream : Nat → BitVec 8) (s : PioTransfer) : PioTransfer :=
  if s.transferDirection = .read then mshcReadDataPort stream s.fifoThreshold s
  else mshcWriteDataPort s.fifoThreshold s

/-- `CurrentTransferRemainingLength` after a call. -/
def PioTransfer.remainingAfter (s : PioTransfer) : BitVec 32 :=
  s.currentTransferRemainingLength - BitVec.ofNat 32 s.subTransferLength

/-- What is left is counted, and the buffer moves on where it is not 0. -/
def PioTransfer.advance (s : PioTransfer) : PioTransfer :=
  if s.remainingAfter ≠ 0 then
    { s with
      currentTransferRemainingLength := s.remainingAfter
      dataBuffer := s.dataBuffer + s.subTransferLength
      status := .moreProcessingRequired }
  else { s with currentTransferRemainingLength := s.remainingAfter, status := .success }

/-- **`MshcStartPioTransfer`**. -/
def mshcStartPioTransfer (stream : Nat → BitVec 8) (s : PioTransfer) : PioTransfer :=
  (s.movePort stream).advance

/-- The transfer after `n` calls. -/
def startCalls (stream : Nat → BitVec 8) (n : Nat) (s : PioTransfer) : PioTransfer :=
  (mshcStartPioTransfer stream)^[n] s

/-! ## 2. What a transfer is to do

All of it is about a sequence of calls: each but the last asks for more, the last says that it is
done, and together they move the bytes of the buffer once. -/

/-- **The first `n` bytes were moved**, and nothing else was changed. -/
def Moved (stream : Nat → BitVec 8) (start s : PioTransfer) (n : Nat) : Prop :=
  if start.transferDirection = .read then
    s.memory = store start.memory start.dataBuffer (streamBytes stream 0 n) ∧ s.received = n
      ∧ s.sent = []
  else s.memory = start.memory ∧ s.received = 0 ∧ s.sent = load start.memory start.dataBuffer n

/-- **The transfer is exact**: call follows call while there is more, and then the last one says
success; what is left never underflows and is 0 in the end; and the accesses are the bytes of the
buffer in order, each once, with the data of the FIFO. -/
structure MovesExactly (stream : Nat → BitVec 8) (start : PioTransfer) (length : Nat) (n : Nat) :
    Prop where
  pos : 0 < n
  more : ∀ i, 0 < i → i < n → (startCalls stream i start).status = .moreProcessingRequired
  last : (startCalls stream n start).status = .success
  noUnderflow : ∀ i < n, (startCalls stream i start).subTransferLength
    ≤ (startCalls stream i start).currentTransferRemainingLength.toNat
  atZero : (startCalls stream n start).currentTransferRemainingLength = 0
  inBounds : ∀ a ∈ (startCalls stream n start).accesses,
    a.bytes ⊆ (⟨start.dataBuffer, length⟩ : Extent Nat).bytes
  inOrder : (startCalls stream n start).accesses.flatMap Extent.bytes
    = (⟨start.dataBuffer, length⟩ : Extent Nat).bytes
  moved : Moved stream start (startCalls stream n start) length

/-- **The condition**: the transfer fits into half the FIFO, or is a multiple of that half. -/
def WholeRounds (fifoDepth length : BitVec 32) : Prop :=
  length.toNat ≤ 4 * (fifoDepth.toNat / 2) ∨ 4 * (fifoDepth.toNat / 2) ∣ length.toNat

instance (fifoDepth length : BitVec 32) : Decidable (WholeRounds fifoDepth length) :=
  inferInstanceAs (Decidable (_ ∨ _))

/-- The condition is that the bytes of a call divide the transfer. -/
theorem wholeRounds_iff (fifoDepth length : BitVec 32) (hmul : 4 ∣ length.toNat) :
    WholeRounds fifoDepth length
      ↔ min (length.toNat / 4) (mshcOptimalFifoThreshold fifoDepth) * 4 ∣ length.toNat := by
  unfold WholeRounds mshcOptimalFifoThreshold
  rcases Nat.le_total (length.toNat / 4) (fifoDepth.toNat / 2) with hle | hle
  · have hwhole : length.toNat / 4 * 4 = length.toNat := Nat.div_mul_cancel hmul
    rw [Nat.min_eq_left hle, hwhole]
    exact iff_of_true (Or.inl (by omega)) (Nat.dvd_refl _)
  · rw [Nat.min_eq_right hle, Nat.mul_comm]
    constructor
    · rintro (hfits | hdvd)
      · have heq : fifoDepth.toNat / 2 * 4 = length.toNat := by omega
        exact heq ▸ Nat.dvd_refl _
      · exact hdvd
    · exact Or.inr

/-! ## 3. One call

A call does the same whatever is left: it moves a threshold's worth and takes that off.  So it is
one equation, without cases. -/

@[simp]
theorem startCalls_zero (stream : Nat → BitVec 8) (s : PioTransfer) :
    startCalls stream 0 s = s := rfl

theorem startCalls_succ (stream : Nat → BitVec 8) (n : Nat) (s : PioTransfer) :
    startCalls stream (n + 1) s = mshcStartPioTransfer stream (startCalls stream n s) :=
  Function.iterate_succ_apply' ..

section Call

variable (stream : Nat → BitVec 8) (s : PioTransfer)

/-- **One call**, field by field. -/
theorem startPio_eq :
    mshcStartPioTransfer stream s = { s with
      memory := (s.movePort stream).memory
      received := (s.movePort stream).received
      sent := (s.movePort stream).sent
      accesses := s.accesses ++ [⟨s.dataBuffer, s.subTransferLength⟩]
      currentTransferRemainingLength := s.remainingAfter
      dataBuffer := if s.remainingAfter ≠ 0 then s.dataBuffer + s.subTransferLength
        else s.dataBuffer
      status := if s.remainingAfter ≠ 0 then .moreProcessingRequired else .success } := by
  have hafter : (s.movePort stream).remainingAfter = s.remainingAfter := by
    unfold PioTransfer.movePort
    split <;> rfl
  unfold mshcStartPioTransfer PioTransfer.advance
  rw [hafter]
  unfold PioTransfer.movePort
  by_cases hmore : s.remainingAfter ≠ 0 <;> by_cases hread : s.transferDirection = .read
  · simp only [if_pos hmore, if_pos hread]
    rfl
  · simp only [if_pos hmore, if_neg hread]
    rfl
  · simp only [if_neg hmore, if_pos hread]
    rfl
  · simp only [if_neg hmore, if_neg hread]
    rfl

theorem startCalls_threshold (n : Nat) :
    (startCalls stream n s).fifoThreshold = s.fifoThreshold := by
  induction n with
  | zero => rfl
  | succ n ih => rw [startCalls_succ, startPio_eq, ih]

/-- The next bytes of the transfer. -/
theorem movePort_moved {start : PioTransfer} {n : Nat}
    (hdirection : s.transferDirection = start.transferDirection)
    (hbuffer : s.dataBuffer = start.dataBuffer + n) (h : Moved stream start s n) :
    Moved stream start (s.movePort stream) (n + s.subTransferLength) := by
  unfold Moved PioTransfer.movePort at *
  rw [hdirection]
  split
  · rename_i hread
    rw [if_pos hread] at h
    obtain ⟨hmemory, hreceived, hsent⟩ := h
    refine ⟨?_, ?_, hsent⟩
    · have happend : streamBytes stream 0 (n + s.subTransferLength)
          = streamBytes stream 0 n ++ streamBytes stream s.received s.subTransferLength := by
        unfold streamBytes
        rw [List.range_add, List.map_append, List.map_map, hreceived]
        congr 1
        refine List.map_congr_left fun k _ => ?_
        simp
      have hlength : (streamBytes stream 0 n).length = n := by simp [streamBytes]
      rw [happend, store_append, hlength, ← hmemory, ← hbuffer]
      rfl
    · exact congrArg (· + s.subTransferLength) hreceived
  · rename_i hwrite
    rw [if_neg hwrite] at h
    obtain ⟨hmemory, hreceived, hsent⟩ := h
    refine ⟨hmemory, hreceived, ?_⟩
    rw [load_add, ← hsent, ← hbuffer, ← hmemory]
    rfl

end Call

/-! ## 4. All calls

Both directions of the result are about how often a threshold goes into the length.  If it does so
exactly, the calls keep `Progress`; if the calls are exact, what is left goes down by a threshold
each time and comes to zero. -/

section Calls

variable {stream : Nat → BitVec 8} {start : PioTransfer} {length : Nat}

/-- **Where a transfer is after `i` calls**, `size` bytes each. -/
structure Progress (stream : Nat → BitVec 8) (start : PioTransfer) (length size i : Nat)
    (s : PioTransfer) : Prop where
  direction : s.transferDirection = start.transferDirection
  call : s.subTransferLength = size
  remaining : s.currentTransferRemainingLength.toNat + i * size = length
  dataBuffer : i * size < length → s.dataBuffer = start.dataBuffer + i * size
  status : 0 < i → s.status = if i * size < length then .moreProcessingRequired else .success
  inOrder : s.accesses.flatMap Extent.bytes
    = (⟨start.dataBuffer, i * size⟩ : Extent Nat).bytes
  moved : Moved stream start s (i * size)

theorem toNat_sub_ofNat {x : BitVec 32} {n : Nat} (hle : n ≤ x.toNat) :
    (x - BitVec.ofNat 32 n).toNat = x.toNat - n := by
  have hx := x.isLt
  rw [BitVec.toNat_sub_of_le, BitVec.toNat_ofNat, Nat.mod_eq_of_lt (by omega)]
  rw [BitVec.le_def, BitVec.toNat_ofNat, Nat.mod_eq_of_lt (by omega)]
  exact hle

/-- **A call that fits into what is left** makes progress. -/
theorem Progress.step {size i : Nat} {s : PioTransfer}
    (h : Progress stream start length size i s) (hpos : 0 < size)
    (hfits : (i + 1) * size ≤ length) :
    Progress stream start length size (i + 1) (mshcStartPioTransfer stream s) := by
  have hsucc : (i + 1) * size = i * size + size := Nat.succ_mul i size
  have hbuffer := h.dataBuffer (by omega)
  have hremaining := h.remaining
  have hafter : s.remainingAfter.toNat + (i + 1) * size = length := by
    unfold PioTransfer.remainingAfter
    rw [toNat_sub_ofNat (by rw [h.call]; omega), h.call]
    omega
  have hmore : s.remainingAfter ≠ 0 ↔ (i + 1) * size < length := by
    rw [Ne, ← BitVec.toNat_inj]
    simp only [BitVec.ofNat_eq_ofNat, BitVec.toNat_zero]
    omega
  have hmoved := movePort_moved stream s h.direction hbuffer h.moved
  rw [h.call, ← hsucc] at hmoved
  rw [startPio_eq]
  refine ⟨h.direction, h.call, hafter, ?_, ?_, ?_, hmoved⟩
  · intro hlt
    dsimp only
    rw [if_pos (hmore.mpr hlt), hbuffer, h.call, hsucc, Nat.add_assoc]
  · intro _
    simp only [hmore]
  · dsimp only
    rw [List.flatMap_append, h.inOrder, hsucc, Extent.bytes_add, h.call, hbuffer]
    simp

theorem Progress.startCalls {size : Nat} (h : Progress stream start length size 0 start)
    (hpos : 0 < size) : ∀ i, i * size ≤ length →
      Progress stream start length size i (startCalls stream i start) := by
  intro i
  induction i with
  | zero => exact fun _ => h
  | succ i ih =>
    intro hfits
    rw [startCalls_succ]
    exact (ih (Nat.le_trans (Nat.mul_le_mul_right size (Nat.le_succ i)) hfits)).step hpos hfits

/-- **Whole rounds are enough.** -/
theorem Progress.movesExactly {size n : Nat} (h : Progress stream start length size 0 start)
    (hpos : 0 < size) (hn : 0 < n) (hwhole : n * size = length) :
    MovesExactly stream start length n := by
  have hlt : ∀ i < n, (i + 1) * size ≤ length := fun i hi =>
    hwhole ▸ Nat.mul_le_mul_right size hi
  have hmore : ∀ i < n, i * size < length := fun i hi => by
    have hnext := hlt i hi
    rw [Nat.succ_mul] at hnext
    omega
  have hall := fun i (hi : i < n) => h.startCalls hpos i (Nat.le_of_lt (hmore i hi))
  have hend := h.startCalls hpos n (Nat.le_of_eq hwhole)
  have horder := hend.inOrder
  rw [hwhole] at horder
  refine ⟨hn, ?_, ?_, ?_, ?_, ?_, horder, hwhole ▸ hend.moved⟩
  · intro i hpos hi
    rw [(hall i hi).status hpos, if_pos (hmore i hi)]
  · rw [hend.status hn, if_neg (by omega)]
  · intro i hi
    have hremaining := (hall i hi).remaining
    have hnext := hlt i hi
    rw [Nat.succ_mul] at hnext
    rw [(hall i hi).call]
    omega
  · have hremaining := hend.remaining
    refine BitVec.eq_of_toNat_eq ?_
    simp only [BitVec.ofNat_eq_ofNat, BitVec.toNat_zero]
    omega
  · intro a ha b hb
    rw [← horder]
    exact List.mem_flatMap.mpr ⟨a, ha, hb⟩

/-- **Whole rounds are needed**: without an underflow the calls take the same off every time. -/
theorem MovesExactly.remaining {n : Nat} (h : MovesExactly stream start length n) :
    ∀ i ≤ n, (PioData.startCalls stream i start).currentTransferRemainingLength.toNat
      + i * start.subTransferLength = start.currentTransferRemainingLength.toNat := by
  intro i
  induction i with
  | zero => exact fun _ => by simp
  | succ i ih =>
    intro hi
    have hprev := ih (by omega)
    have hle := h.noUnderflow i hi
    have hsize : (PioData.startCalls stream i start).subTransferLength
        = start.subTransferLength :=
      congrArg (· * 4) (startCalls_threshold stream start i)
    have hafter := toNat_sub_ofNat hle
    rw [startCalls_succ, startPio_eq]
    unfold PioTransfer.remainingAfter
    dsimp only
    rw [Nat.succ_mul, hafter]
    omega

end Calls

/-- The call with half the FIFO or the whole transfer is not an empty one. -/
theorem progress_start (stream : Nat → BitVec 8) (fifoDepth : BitVec 32)
    (direction : TransferDirection) (dataBuffer : Nat) (length : BitVec 32) (memory : Memory) :
    Progress stream (mshcBuildTransfer fifoDepth direction dataBuffer length memory) length.toNat
      (min (length.toNat / 4) (mshcOptimalFifoThreshold fifoDepth) * 4) 0
      (mshcBuildTransfer fifoDepth direction dataBuffer length memory) where
  direction := rfl
  call := rfl
  remaining := by simp [mshcBuildTransfer]
  dataBuffer := by simp
  status hpos := absurd hpos (Nat.lt_irrefl 0)
  inOrder := by simp [mshcBuildTransfer]
  moved := by
    unfold Moved
    rw [Nat.zero_mul]
    split
    · refine ⟨?_, rfl, rfl⟩
      funext j
      rw [store_of_apart _ (by simp [streamBytes]; omega)]
    · exact ⟨rfl, rfl, rfl⟩

/-- **A PIO transfer moves the buffer exactly just where its rounds are whole**: half the FIFO
divides it, or it fits into that half.  Every call moves a whole threshold, so the calls come out
even just there; the last call of any other transfer moves more than what is left. -/
theorem movesExactly_iff (stream : Nat → BitVec 8) (fifoDepth : BitVec 32)
    (direction : TransferDirection) (dataBuffer : Nat) (length : BitVec 32) (memory : Memory)
    (hdepth : 2 ≤ fifoDepth.toNat) (hpos : 0 < length.toNat) (hmul : 4 ∣ length.toNat) :
    (∃ n, MovesExactly stream (mshcBuildTransfer fifoDepth direction dataBuffer length memory)
        length.toNat n)
      ↔ WholeRounds fifoDepth length := by
  rw [wholeRounds_iff fifoDepth length hmul]
  constructor
  · rintro ⟨n, h⟩
    have hend := h.remaining n (Nat.le_refl n)
    rw [h.atZero] at hend
    simp only [BitVec.ofNat_eq_ofNat, BitVec.toNat_zero, Nat.zero_add] at hend
    exact ⟨n, by rw [Nat.mul_comm]; exact hend.symm⟩
  · rintro ⟨n, hn⟩
    have hsize : 0 < min (length.toNat / 4) (mshcOptimalFifoThreshold fifoDepth) * 4 := by
      unfold mshcOptimalFifoThreshold
      omega
    refine ⟨n, (progress_start stream fifoDepth direction dataBuffer length memory).movesExactly
      hsize ?_ (by rw [Nat.mul_comm]; exact hn.symm)⟩
    rcases Nat.eq_zero_or_pos n with rfl | hn'
    · omega
    · exact hn'

theorem movesExactly_sector :
    (∃ n, MovesExactly (fun _ => 0) (mshcBuildTransfer 256 .read 4096 512 fun _ => 0) 512 n)
      ↔ WholeRounds 256 512 :=
  movesExactly_iff (fun _ => 0) 256 .read 4096 512 (fun _ => 0) (by decide) (by decide) (by decide)

/-- 516 bytes through a FIFO of 256 words: the second call moves 512 bytes for the 4 that are left.
-/
theorem shortRound_incorrect :
    ¬ ∃ n, MovesExactly (fun _ => 0) (mshcBuildTransfer 256 .read 4096 516 fun _ => 0) 516 n := by
  rintro ⟨n, h⟩
  have hend := h.remaining n (Nat.le_refl n)
  have hcall : (mshcBuildTransfer 256 .read 4096 516 fun _ => 0).subTransferLength = 512 := by
    decide
  rw [h.atZero, hcall] at hend
  simp [mshcBuildTransfer] at hend
  omega

end WoaRk3576.Sd.PioData
