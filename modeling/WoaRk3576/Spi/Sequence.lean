/-
# Sequences: `Rk3xSpiEvtIoSequence`

A sequence is coalesced into one full-duplex transfer.  Two walks go over its segments: one copies
the bytes of the write segments to where their window in `txBuf` begins, the other copies the
windows of the read segments in `rxBuf` back.  Both count the offset of a window for themselves,
from the lengths alone, so that a segment's window is the same in both.

`sequence_exact` is the result, for segments whose lengths together are positive and fit into a
`ULONG`.

  * A transfer is run if and only if both buffers are there and each segment is mapped
    (`SequenceStarts`).  Then the request ends as the transfer does, with its frames; otherwise
    nothing is clocked.  `sequence_begins` and `sequence_refused` say so of the code.
  * The frames carry the bytes of the write segments and zeros for the read segments.  `txBuf`
    comes zeroed, and by induction on the segments the first walk has filled one window behind the
    other with what the segments send (`load_copySegments`), so that it holds `sequenceBytes`.
  * Each read segment gets what came in during its window.  A transfer that succeeds has put its
    frames into `rxBuf` one by one (`load_rxBuf`), and the second walk comes to a segment with the
    offset that the first one had there, the sum of the lengths before it
    (`scatterSegments_append`).
  * No other byte of the memory changes, and a request that fails changes nothing, reports no bytes
    and frees what it allocated.

The offsets are `ULONG`s.  They are the sums of the lengths because all lengths together fit; that
is the only use of the bound.
-/
import WoaRk3576.Lib.Memory
import WoaRk3576.Spi.ChipSelect

namespace WoaRk3576.Spi

open WoaRk3576.Lib

/-! ## 1. The routine

The routine gathers the segments into one buffer, runs a single transfer and scatters what came
back.  How the transfer ends is a parameter of the routine here; the next definition takes it from
the runs of the transfer. -/

/-- A transfer of a sequence: where its memory is mapped, if it can be. -/
structure SequenceSegment where
  address : Option Nat
  transferLength : Nat
  toDevice : Bool
  deriving DecidableEq, Repr

/-- `*Length` of `Rk3xSpiMapTransfer`. -/
def SequenceSegment.length (seg : SequenceSegment) : Nat := ulong seg.transferLength

/-- A segment, with the bytes that the memory holds for it. -/
def SequenceSegment.view (m : Memory) (seg : SequenceSegment) : SpbSegment :=
  ⟨seg.address.map fun a k => m (a + k), seg.transferLength, seg.toDevice⟩

@[simp]
theorem SequenceSegment.length_view (m : Memory) (seg : SequenceSegment) :
    (seg.view m).length = seg.length := rfl

/-- The request, as `Rk3xSpiEvtIoSequence` finds it in memory. -/
def sequenceRequest (m : Memory) (segs : List SequenceSegment) (txAllocated rxAllocated : Bool) :
    SpbRequest :=
  .sequence (segs.map (·.view m)) txAllocated rxAllocated

/-- The loop behind the transfer: the received bytes are copied into the read segments. -/
def scatterSegments : List SequenceSegment → Nat → Memory → Memory → Memory
  | [], _, _, m => m
  | seg :: segs, offset, rxBuf, m =>
    scatterSegments segs (ulong (offset + seg.length)) rxBuf
      (match seg.address with
        | none => m
        | some a => if seg.toDevice then m else store m a (load rxBuf offset seg.length))

/-- The two buffers of the request. -/
inductive SequenceBuffer
  | txBuf
  | rxBuf
  deriving DecidableEq, Repr

/-- What the request leaves behind: the memory, its status and information, the buffers in the
order they were freed, and the frames that were clocked. -/
structure SequenceDone where
  memory : Memory
  status : Except SpbStatus SpiStatus
  information : Nat
  freed : List SequenceBuffer
  clocked : List (BitVec 8 × BitVec 8)

/-- What is freed at `Cleanup`: each buffer that is not NULL. -/
def sequenceCleanup (txAllocated rxAllocated : Bool) : List SequenceBuffer :=
  (if txAllocated then [.txBuf] else []) ++ (if rxAllocated then [.rxBuf] else [])

/-- `rxBuf` after the transfer: zero where nothing was stored. -/
def SpiWorld.rxBuf (w : SpiWorld) : Memory := fun k => (w.rx k).getD 0

/-- `Rk3xSpiEvtIoSequence`; `w` is how the transfer ends, if there is one. -/
def evtIoSequence (target : SpiTarget) (segs : List SequenceSegment)
    (txAllocated rxAllocated : Bool) (w : SpiWorld) (m : Memory) : SequenceDone :=
  let freed := sequenceCleanup txAllocated rxAllocated
  if sequenceTotal (segs.map (·.view m)) = 0 then ⟨m, .error .invalidParameter, 0, [], []⟩
  else
    match (sequenceRequest m segs txAllocated rxAllocated).begin target with
    | .error status => ⟨m, .error status, 0, freed, []⟩
    | .ok t =>
      if w.pc = .returned .success then
        ⟨scatterSegments segs 0 w.rxBuf m, .ok .success, t.length, freed, w.clocked⟩
      else ⟨m, .ok .ioTimeout, 0, freed, w.clocked⟩

/-- **How the transfer ends**: the transfer that the request leads to is run until it returns. -/
def SequenceEnds (target : SpiTarget) (segs : List SequenceSegment)
    (txAllocated rxAllocated : Bool) (m : Memory) (w : SpiWorld) : Prop :=
  ∀ t, (sequenceRequest m segs txAllocated rxAllocated).begin target = .ok t →
    Reach t.Begun spiStep w ∧ ∃ status, w.pc = .returned status

/-! ## 2. What a sequence is for

On the bus the segments are to follow each other without a break: a write segment sends its bytes
and a read segment sends zeros and receives.  The property says when a sequence succeeds as well as
what it then has done, and that a sequence that does not succeed leaves the memory alone and frees
its buffers all the same. -/

/-- The lengths of the segments together. -/
def totalLength (segs : List SequenceSegment) : Nat :=
  (segs.map SequenceSegment.transferLength).sum

/-- What a segment puts on the bus: the bytes of its memory, or zeros for a read. -/
def SequenceSegment.sends (m : Memory) (seg : SequenceSegment) : List (BitVec 8) :=
  match seg.toDevice, seg.address with
  | true, some a => load m a seg.transferLength
  | _, _ => List.replicate seg.transferLength 0

/-- **What a sequence puts on the bus**: one segment behind the other. -/
def sequenceBytes (m : Memory) (segs : List SequenceSegment) : List (BitVec 8) :=
  segs.flatMap (SequenceSegment.sends m)

/-- An address that a read segment covers. -/
def SequenceSegment.Receives (seg : SequenceSegment) (x : Nat) : Prop :=
  seg.toDevice = false ∧ ∃ a, seg.address = some a ∧ a ≤ x ∧ x < a + seg.transferLength

/-- **A transfer is run**: both buffers are there and each segment is mapped. -/
def SequenceStarts (segs : List SequenceSegment) (txAllocated rxAllocated : Bool) : Prop :=
  txAllocated = true ∧ rxAllocated = true ∧ ∀ seg ∈ segs, ∃ a, seg.address = some a

/-- **The sequence is exact**, where `w` is how its transfer ends.  A read segment keeps its bytes
unless a later one receives in the same memory. -/
structure SequenceExact (m : Memory) (segs : List SequenceSegment)
    (txAllocated rxAllocated : Bool) (w : SpiWorld) (d : SequenceDone) : Prop where
  started : SequenceStarts segs txAllocated rxAllocated → d.clocked = w.clocked
    ∧ ∀ status, w.pc = .returned status → d.status = .ok status
  refused : ¬ SequenceStarts segs txAllocated rxAllocated →
    d.clocked = [] ∧ d.status = .error .insufficientResources
  succeeds : d.status = .ok .success
    ↔ SequenceStarts segs txAllocated rxAllocated ∧ w.pc = .returned .success
  sent : d.clocked.map Prod.fst <+: sequenceBytes m segs
  complete : d.status = .ok .success → d.clocked.map Prod.fst = sequenceBytes m segs
  delivered : d.status = .ok .success → ∀ before seg after, segs = before ++ seg :: after →
    seg.toDevice = false → ∃ a, seg.address = some a
      ∧ ((∀ later ∈ after, ∀ x, later.Receives x → ¬ seg.Receives x) →
        load d.memory a seg.transferLength
          = ((d.clocked.map Prod.snd).drop (totalLength before)).take seg.transferLength)
  untouched : ∀ x, (∀ seg ∈ segs, ¬ seg.Receives x) → d.memory x = m x
  success : d.status = .ok .success → d.information = totalLength segs
  failure : d.status ≠ .ok .success → d.memory = m ∧ d.information = 0
  freed : d.freed.Nodup ∧ (SequenceBuffer.txBuf ∈ d.freed ↔ txAllocated = true)
    ∧ (SequenceBuffer.rxBuf ∈ d.freed ↔ rxAllocated = true)

/-! ## 3. The two walks

Both walks over the segments count the same offset, so a segment gets its window of `txBuf` in the
first and of `rxBuf` in the second one.  While the lengths together fit into a `ULONG` the windows
lie behind one another and none is overwritten. -/

variable {m : Memory} {segs : List SequenceSegment}

@[simp]
theorem totalLength_nil : totalLength [] = 0 := rfl

@[simp]
theorem totalLength_cons (seg : SequenceSegment) (segs : List SequenceSegment) :
    totalLength (seg :: segs) = seg.transferLength + totalLength segs := by
  simp [totalLength]

/-- A length that fits is not cut. -/
theorem SequenceSegment.length_eq {seg : SequenceSegment} (h : seg.transferLength < 4294967296) :
    seg.length = seg.transferLength :=
  Nat.mod_eq_of_lt h

/-- The offset of the next window, as long as it fits. -/
theorem SequenceSegment.offset_next (seg : SequenceSegment) (offset : Nat)
    (h : offset + seg.transferLength < 4294967296) :
    ulong (offset + seg.length) = offset + seg.transferLength := by
  rw [seg.length_eq (by omega)]
  exact Nat.mod_eq_of_lt h

/-- The sum of the lengths, as long as it fits. -/
theorem addLengths_eq : ∀ (segs : List SequenceSegment) (total : Nat),
    total + totalLength segs < 4294967296 →
      addLengths total (segs.map (·.view m)) = total + totalLength segs
  | [], _, _ => rfl
  | seg :: segs, total, h => by
    rw [totalLength_cons] at h ⊢
    have hstep := seg.offset_next total (by omega)
    have ih := addLengths_eq segs (total + seg.transferLength) (by omega)
    calc addLengths total ((seg :: segs).map (·.view m))
        = addLengths (ulong (total + seg.length)) (segs.map (·.view m)) := rfl
      _ = total + (seg.transferLength + totalLength segs) := by rw [hstep, ih]; omega

theorem SequenceSegment.length_sends (m : Memory) (seg : SequenceSegment) :
    (seg.sends m).length = seg.transferLength := by
  unfold SequenceSegment.sends
  split <;> simp

@[simp]
theorem sequenceBytes_cons (m : Memory) (seg : SequenceSegment) (segs : List SequenceSegment) :
    sequenceBytes m (seg :: segs) = seg.sends m ++ sequenceBytes m segs :=
  List.flatMap_cons ..

theorem length_sequenceBytes (m : Memory) : ∀ segs : List SequenceSegment,
    (sequenceBytes m segs).length = totalLength segs
  | [] => rfl
  | seg :: segs => by
    rw [sequenceBytes_cons, List.length_append, seg.length_sends, totalLength_cons,
      length_sequenceBytes m segs]

/-- One segment of the copy loop: its window of `txBuf` holds what it sends. -/
theorem copySegment_window {seg : SequenceSegment} {a offset : Nat} {txBuf : Memory}
    (haddress : seg.address = some a) (hlength : seg.length = seg.transferLength)
    (hzero : ∀ k, offset ≤ k → txBuf k = 0) :
    let copied : Memory := if seg.toDevice then
        fun k => if offset ≤ k ∧ k < offset + seg.length then m (a + (k - offset)) else txBuf k
      else txBuf
    load copied 0 (offset + seg.transferLength) = load txBuf 0 offset ++ seg.sends m
      ∧ ∀ k, offset + seg.transferLength ≤ k → copied k = 0 := by
  intro copied
  cases hdevice : seg.toDevice with
  | false =>
    have hcopied : copied = txBuf := by simp [copied, hdevice]
    have hsends : seg.sends m = List.replicate seg.transferLength 0 := by
      simp [SequenceSegment.sends, hdevice]
    rw [hcopied, load_add, Nat.zero_add, hsends, load_zeros fun k hk _ => hzero k hk]
    exact ⟨rfl, fun k hk => hzero k (by omega)⟩
  | true =>
    have hcopied : ∀ k, copied k = if offset ≤ k ∧ k < offset + seg.transferLength
        then m (a + (k - offset)) else txBuf k := by
      intro k
      simp [copied, hdevice, hlength]
    have hsends : seg.sends m = load m a seg.transferLength := by
      simp [SequenceSegment.sends, hdevice, haddress]
    refine ⟨?_, fun k hk => ?_⟩
    · rw [load_add, Nat.zero_add, hsends]
      congr 1
      · refine load_congr fun k _ hk => ?_
        rw [hcopied, if_neg (by omega)]
      · refine List.map_congr_left fun k hk => ?_
        rw [List.mem_range] at hk
        rw [hcopied, if_pos (by omega), Nat.add_sub_cancel_left]
    · rw [hcopied, if_neg (by omega)]
      exact hzero k (by omega)

/-- **The first walk**: the windows of `txBuf` hold what the segments send, one behind the
other. -/
theorem load_copySegments : ∀ (segs : List SequenceSegment) (offset : Nat)
    (txBuf txBuf' : Memory), offset + totalLength segs < 4294967296 →
    (∀ k, offset ≤ k → txBuf k = 0) →
    copySegments (segs.map (·.view m)) offset txBuf = some txBuf' →
      load txBuf' 0 (offset + totalLength segs) = load txBuf 0 offset ++ sequenceBytes m segs
  | [], _, _, _, _, _, h => by
    cases h
    simp [sequenceBytes]
  | seg :: segs, offset, txBuf, txBuf', hlt, hzero, h => by
    rw [totalLength_cons] at hlt ⊢
    have hlength : seg.length = seg.transferLength := seg.length_eq (by omega)
    have hnext := seg.offset_next offset (by omega)
    cases haddress : seg.address with
    | none =>
      rw [List.map_cons, copySegments, SequenceSegment.view, haddress] at h
      cases h
    | some a =>
      obtain ⟨hwindow, hrest⟩ := copySegment_window (m := m) haddress hlength hzero
      have hstep : copySegments (segs.map (·.view m)) (offset + seg.transferLength)
          (if seg.toDevice then
            fun k => if offset ≤ k ∧ k < offset + seg.length then m (a + (k - offset)) else txBuf k
          else txBuf) = some txBuf' := by
        rw [← hnext, ← h, List.map_cons, copySegments]
        simp only [SequenceSegment.view, haddress, Option.map_some]
        rfl
      have ih := load_copySegments segs _ _ _ (by omega) hrest hstep
      rw [hwindow] at ih
      rw [← Nat.add_assoc, ih, sequenceBytes_cons, List.append_assoc]

/-- The first walk gets through only if each segment is mapped. -/
theorem mapped_of_copySegments {offset : Nat} {txBuf txBuf' : Memory}
    (hcopy : copySegments (segs.map (·.view m)) offset txBuf = some txBuf') :
    ∀ seg ∈ segs, ∃ a, seg.address = some a := by
  intro seg hseg
  cases haddress : seg.address with
  | some a => exact ⟨a, rfl⟩
  | none =>
    have hnone := (copySegments_eq_none (segs.map (·.view m)) offset txBuf).2
      ⟨seg.view m, List.mem_map_of_mem hseg, by rw [SequenceSegment.view, haddress]; rfl⟩
    rw [hcopy] at hnone
    cases hnone

/-- What the second walk does for one segment. -/
def scatterSegment (seg : SequenceSegment) (offset : Nat) (rxBuf m : Memory) : Memory :=
  match seg.address with
  | none => m
  | some a => if seg.toDevice then m else store m a (load rxBuf offset seg.length)

theorem scatterSegments_cons (seg : SequenceSegment) (segs : List SequenceSegment)
    (offset : Nat) (rxBuf m : Memory) :
    scatterSegments (seg :: segs) offset rxBuf m
      = scatterSegments segs (ulong (offset + seg.length)) rxBuf
        (scatterSegment seg offset rxBuf m) := rfl

/-- A segment changes no byte that it does not receive. -/
theorem scatterSegment_untouched {seg : SequenceSegment} (offset : Nat) (rxBuf : Memory) {x : Nat}
    (hlength : seg.length = seg.transferLength) (hx : ¬ seg.Receives x) :
    scatterSegment seg offset rxBuf m x = m x := by
  unfold scatterSegment
  cases haddress : seg.address with
  | none => rfl
  | some a =>
    cases hdevice : seg.toDevice with
    | true => rfl
    | false =>
      refine store_of_apart m ?_
      rw [length_load, hlength]
      by_contra hin
      exact hx ⟨hdevice, a, haddress, by omega, by omega⟩

/-- **The second walk changes nothing but the memory of read segments.** -/
theorem scatterSegments_untouched (rxBuf : Memory) (x : Nat) :
    ∀ (segs : List SequenceSegment) (offset : Nat) (m : Memory),
      offset + totalLength segs < 4294967296 → (∀ seg ∈ segs, ¬ seg.Receives x) →
        scatterSegments segs offset rxBuf m x = m x
  | [], _, _, _, _ => rfl
  | seg :: segs, offset, m, hlt, hx => by
    rw [totalLength_cons] at hlt
    have hlength : seg.length = seg.transferLength := seg.length_eq (by omega)
    have hnext := seg.offset_next offset (by omega)
    rw [scatterSegments_cons, hnext,
      scatterSegments_untouched rxBuf x segs _ _ (by omega)
        fun seg' hseg' => hx seg' (List.mem_cons_of_mem _ hseg'),
      scatterSegment_untouched offset rxBuf hlength (hx seg List.mem_cons_self)]

/-- The second walk comes to a segment with the offset of its window. -/
theorem scatterSegments_append (rxBuf : Memory) (after : List SequenceSegment) :
    ∀ (before : List SequenceSegment) (offset : Nat) (m : Memory),
      offset + totalLength before < 4294967296 →
        scatterSegments (before ++ after) offset rxBuf m
          = scatterSegments after (offset + totalLength before) rxBuf
            (scatterSegments before offset rxBuf m)
  | [], _, _, _ => rfl
  | seg :: before, offset, m, hlt => by
    rw [totalLength_cons] at hlt ⊢
    have hnext := seg.offset_next offset (by omega)
    rw [List.cons_append, scatterSegments_cons, scatterSegments_cons, hnext,
      scatterSegments_append rxBuf after before _ _ (by omega), Nat.add_assoc]

/-- **A read segment gets its window of `rxBuf`**, unless a later one receives in its memory. -/
theorem scatterSegments_delivered (rxBuf : Memory) {before after : List SequenceSegment}
    {seg : SequenceSegment} {a : Nat}
    (hlt : totalLength (before ++ seg :: after) < 4294967296) (haddress : seg.address = some a)
    (hread : seg.toDevice = false)
    (hapart : ∀ later ∈ after, ∀ x, later.Receives x → ¬ seg.Receives x) :
    load (scatterSegments (before ++ seg :: after) 0 rxBuf m) a seg.transferLength
      = load rxBuf (totalLength before) seg.transferLength := by
  have htotal : totalLength (before ++ seg :: after)
      = totalLength before + (seg.transferLength + totalLength after) := by
    simp [totalLength]
  rw [htotal] at hlt
  have hlength : seg.length = seg.transferLength := seg.length_eq (by omega)
  have hnext := seg.offset_next (totalLength before) (by omega)
  rw [scatterSegments_append rxBuf _ before 0 m (by omega), Nat.zero_add, scatterSegments_cons,
    hnext]
  have hwindow : ∀ m₀ : Memory, load (scatterSegment seg (totalLength before) rxBuf m₀) a
      seg.transferLength = load rxBuf (totalLength before) seg.transferLength := by
    intro m₀
    have hself := load_store_self m₀ a (load rxBuf (totalLength before) seg.transferLength)
    rw [length_load] at hself
    simp only [scatterSegment, haddress, hread, hlength]
    exact hself
  rw [← hwindow]
  refine load_congr fun x hge hx => ?_
  refine scatterSegments_untouched rxBuf x after _ _ (by omega) fun later hlater hreceives => ?_
  exact hapart later hlater x hreceives ⟨hread, a, haddress, hge, hx⟩

/-! ## 4. The transfer of a sequence

What is known of every run of the transfer is put in terms of the sequence: the bytes it sends are
those of the segments, and if it succeeds the buffer holds one answer for each. -/

variable {w w' : SpiWorld} {t : SpiTransfer}

/-- What is clocked or waits in the TX FIFO belongs to the transfer. -/
def SpiWorld.Within (w : SpiWorld) : Prop :=
  w.clocked.length + w.txFifo.length ≤ w.transfer.length

theorem SpiWorld.Within.shift (h : w.Within) {received : BitVec 8}
    (hs : spiShift w received = some w') : w'.Within := by
  unfold SpiWorld.Within at h ⊢
  obtain ⟨-, b, txFifo, htx, rfl⟩ := spiShift_cases hs
  rw [htx, List.length_cons] at h
  simp only [List.length_append, List.length_singleton]
  omega

theorem SpiWorld.Within.disable (h : w.Within) (pc : SpiPc) :
    SpiWorld.Within { w.writeSsienr false with pc := pc } := by
  unfold SpiWorld.Within at h ⊢
  simp only [SpiWorld.writeSsienr, Bool.false_eq_true, if_false, List.length_nil]
  omega

/-- **The driver pushes no byte behind the end of the transfer.** -/
theorem SpiWorld.Within.driver (h : w.Within) (hinv : SpiInv w) {flag : Bool}
    (hs : spiDriver w flag = some w') : w'.Within := by
  have hpcInv := hinv.pcInv
  unfold SpiWorld.PcInv at hpcInv
  unfold spiDriver at hs
  cases hpc : w.pc with
  | entry =>
    simp only [hpc] at hs
    split at hs <;> cases hs
    · exact h
    · exact SpiWorld.Within.disable h _
  | chunks done =>
    simp only [hpc] at hs
    split at hs <;> cases hs
    · exact SpiWorld.Within.disable h _
    · exact h
  | txdr c =>
    simp only [hpc] at hs hpcInv
    cases hs
    obtain ⟨hflow, hchunk, htxi, -⟩ := hpcInv
    have hpushed := hflow.pushed
    have hle := hchunk.chunk_le
    unfold SpiWorld.Within
    simp only [SpiWorld.writeTxdr, List.length_append, List.length_singleton]
    omega
  | disable status =>
    simp only [hpc] at hs
    cases hs
    exact SpiWorld.Within.disable h _
  | drain c =>
    simp only [hpc] at hs
    split at hs
    · cases hs
    · split at hs <;> cases hs <;> exact h
  | chunkLoop | push | budget | busy | busyBudget =>
    simp only [hpc] at hs
    split at hs <;> cases hs <;> exact h
  | configure | baudr | frames | enable | select | rxdr | release =>
    simp only [hpc] at hs
    cases hs
    exact h
  | returned status =>
    simp only [hpc] at hs
    cases hs

/-- What every run of a transfer keeps. -/
theorem transfer_facts (h : Reach t.Begun spiStep w) :
    w.transfer = t ∧ TransferExact w ∧ w.Within := by
  have hinv : SpiInv w ∧ w.transfer = t ∧ w.Within := by
    refine Reach.invariant (I := fun w => SpiInv w ∧ w.transfer = t ∧ w.Within) ?_ ?_ h
    · intro w hw
      refine ⟨begun_spiInv hw, ?_⟩
      obtain ⟨rxDepth, -, rfl⟩ := hw
      exact ⟨rfl, Nat.zero_le _⟩
    · rintro w a w' ⟨hspi, htransfer, hwithin⟩ hs
      refine ⟨hspi.step hs, (transfer_of_step hs).trans htransfer, ?_⟩
      cases a with
      | shift received => exact SpiWorld.Within.shift hwithin hs
      | driver flag => exact SpiWorld.Within.driver hwithin hspi hs
  exact ⟨hinv.2.1, hinv.1.transferExact, hinv.2.2⟩

/-- The transfer that a sequence leads to. -/
structure SequenceTransfer (m : Memory) (segs : List SequenceSegment) (t : SpiTransfer) :
    Prop where
  sends : (List.range t.length).map t.txByte = sequenceBytes m segs
  receives : t.rxNull = false
  length : t.length = totalLength segs
  mapped : ∀ seg ∈ segs, ∃ a, seg.address = some a

theorem sequenceTotal_eq (hlt : totalLength segs < 4294967296) :
    sequenceTotal (segs.map (·.view m)) = totalLength segs := by
  have htotal := addLengths_eq (m := m) segs 0 (by omega)
  rwa [Nat.zero_add] at htotal

/-- **Every sequence that leads to a transfer leads to that of its bytes.** -/
theorem sequenceTransfer_of_begin {target : SpiTarget} {txAllocated rxAllocated : Bool}
    (hlt : totalLength segs < 4294967296)
    (hbegin : (sequenceRequest m segs txAllocated rxAllocated).begin target = .ok t) :
    SequenceTransfer m segs t := by
  have htotal := sequenceTotal_eq (m := m) hlt
  unfold sequenceRequest SpbRequest.begin at hbegin
  simp only at hbegin
  split at hbegin
  · cases hbegin
  · split at hbegin
    · cases hcopy : copySegments (segs.map (·.view m)) 0 fun _ => 0 with
      | none =>
        simp only [hcopy] at hbegin
        cases hbegin
      | some txBuf =>
        simp only [hcopy] at hbegin
        cases hbegin
        have hload := load_copySegments segs 0 _ txBuf (by omega) (fun _ _ => rfl) hcopy
        refine ⟨?_, rfl, htotal, mapped_of_copySegments hcopy⟩
        rw [Nat.zero_add] at hload
        have hbytes : load txBuf 0 (totalLength segs) = sequenceBytes m segs := by
          rw [hload]
          rfl
        rw [← hbytes]
        simp only [htotal, load, Nat.zero_add]
        rfl
    · cases hbegin

/-- Both buffers and each segment: the request leads to a transfer. -/
theorem sequence_begins (target : SpiTarget) {txAllocated rxAllocated : Bool}
    (htotal : sequenceTotal (segs.map (·.view m)) ≠ 0)
    (hstarts : SequenceStarts segs txAllocated rxAllocated) :
    ∃ t, (sequenceRequest m segs txAllocated rxAllocated).begin target = .ok t := by
  obtain ⟨rfl, rfl, hmapped⟩ := hstarts
  unfold sequenceRequest SpbRequest.begin
  dsimp only
  rw [if_neg htotal, Bool.and_self, if_pos rfl]
  cases hcopy : copySegments (segs.map (·.view m)) 0 fun _ => 0 with
  | some txBuf => exact ⟨_, rfl⟩
  | none =>
    obtain ⟨seg, hseg, hnone⟩ := (copySegments_eq_none _ _ _).1 hcopy
    obtain ⟨seg, hseg', rfl⟩ := List.mem_map.1 hseg
    obtain ⟨a, haddress⟩ := hmapped seg hseg'
    rw [SequenceSegment.view, haddress] at hnone
    cases hnone

/-- A buffer or a segment is missing: the request is refused, whatever the target. -/
theorem sequence_refused (target : SpiTarget) {txAllocated rxAllocated : Bool}
    (htotal : sequenceTotal (segs.map (·.view m)) ≠ 0)
    (hstarts : ¬ SequenceStarts segs txAllocated rxAllocated) :
    (sequenceRequest m segs txAllocated rxAllocated).begin target
      = .error .insufficientResources := by
  unfold sequenceRequest SpbRequest.begin
  dsimp only
  rw [if_neg htotal]
  split
  · rename_i hboth
    rw [Bool.and_eq_true] at hboth
    cases hcopy : copySegments (segs.map (·.view m)) 0 fun _ => 0 with
    | none => rfl
    | some txBuf => exact absurd ⟨hboth.1, hboth.2, mapped_of_copySegments hcopy⟩ hstarts
  · rfl

/-- The frames of the transfer begin with what the sequence sends. -/
theorem SequenceTransfer.sent (h : SequenceTransfer m segs t)
    (hreach : Reach t.Begun spiStep w) :
    w.clocked.map Prod.fst = (sequenceBytes m segs).take w.clocked.length := by
  obtain ⟨htransfer, hexact, hwithin⟩ := transfer_facts hreach
  have hle : w.clocked.length ≤ t.length := by
    have := hwithin
    rw [SpiWorld.Within, htransfer] at this
    omega
  rw [hexact.sent, htransfer, ← h.sends, ← List.map_take, List.take_range, Nat.min_eq_left hle]

/-- **When the transfer has succeeded `rxBuf` holds what came in.** -/
theorem load_rxBuf (hreach : Reach t.Begun spiStep w) (hrx : t.rxNull = false)
    (hsuccess : w.pc = .returned .success) :
    w.clocked.length = t.length ∧ load w.rxBuf 0 t.length = w.clocked.map Prod.snd := by
  obtain ⟨htransfer, hexact, -⟩ := transfer_facts hreach
  obtain ⟨hlength, hall⟩ := hexact.success hsuccess
  rw [htransfer] at hlength hall
  refine ⟨hlength, List.ext_getElem ?_ fun k hk hk' => ?_⟩
  · rw [length_load, List.length_map, hlength]
  · rw [length_load] at hk
    obtain ⟨b, hb⟩ := Option.isSome_iff_exists.1 (hall hrx k hk)
    have hstored := (hexact.stored k b hb).2
    rw [List.getElem?_eq_getElem hk'] at hstored
    rw [getElem_load, Option.some.inj hstored, Nat.zero_add, SpiWorld.rxBuf, hb]
    rfl

/-! ## 5. The request

The three ways in which a sequence can go are treated one by one: refused before a frame is
clocked, timed out, and successful.  Which one it is depends on the buffers, the mappings and the
status of the transfer, and on nothing else. -/

theorem cleanup_once (txAllocated rxAllocated : Bool) :
    (sequenceCleanup txAllocated rxAllocated).Nodup
      ∧ (SequenceBuffer.txBuf ∈ sequenceCleanup txAllocated rxAllocated ↔ txAllocated = true)
      ∧ (SequenceBuffer.rxBuf ∈ sequenceCleanup txAllocated rxAllocated ↔ rxAllocated = true) := by
  cases txAllocated <;> cases rxAllocated <;> decide

/-- A sequence that is refused. -/
theorem sequenceExact_refused {txAllocated rxAllocated : Bool}
    (hstarts : ¬ SequenceStarts segs txAllocated rxAllocated) :
    SequenceExact m segs txAllocated rxAllocated w
      ⟨m, .error .insufficientResources, 0, sequenceCleanup txAllocated rxAllocated, []⟩ where
  started h := absurd h hstarts
  refused _ := ⟨rfl, rfl⟩
  succeeds := ⟨nofun, fun h => absurd h.1 hstarts⟩
  sent := List.nil_prefix
  complete := nofun
  delivered := nofun
  untouched _ _ := rfl
  success := nofun
  failure _ := ⟨rfl, rfl⟩
  freed := cleanup_once txAllocated rxAllocated

/-- A sequence whose transfer has timed out. -/
theorem sequenceExact_timeout {txAllocated rxAllocated : Bool}
    (hstarts : SequenceStarts segs txAllocated rxAllocated) (htransfer : SequenceTransfer m segs t)
    (hreach : Reach t.Begun spiStep w) (htimeout : w.pc = .returned .ioTimeout) :
    SequenceExact m segs txAllocated rxAllocated w
      ⟨m, .ok .ioTimeout, 0, sequenceCleanup txAllocated rxAllocated, w.clocked⟩ where
  started _ := ⟨rfl, fun status hstatus => by rw [htimeout] at hstatus; cases hstatus; rfl⟩
  refused h := absurd hstarts h
  succeeds := ⟨nofun, fun h => absurd (htimeout.symm.trans h.2) nofun⟩
  sent := htransfer.sent hreach ▸ List.take_prefix ..
  complete := nofun
  delivered := nofun
  untouched _ _ := rfl
  success := nofun
  failure _ := ⟨rfl, rfl⟩
  freed := cleanup_once txAllocated rxAllocated

/-- A sequence whose transfer has succeeded: the frames are as many as the bytes, and each read
segment has its window of them. -/
theorem sequenceExact_success {txAllocated rxAllocated : Bool}
    (hlt : totalLength segs < 4294967296) (hstarts : SequenceStarts segs txAllocated rxAllocated)
    (htransfer : SequenceTransfer m segs t) (hreach : Reach t.Begun spiStep w)
    (hsuccess : w.pc = .returned .success) :
    SequenceExact m segs txAllocated rxAllocated w
      ⟨scatterSegments segs 0 w.rxBuf m, .ok .success, t.length,
        sequenceCleanup txAllocated rxAllocated, w.clocked⟩ := by
  have hsent := htransfer.sent hreach
  obtain ⟨hlength, hrxBuf⟩ := load_rxBuf hreach htransfer.receives hsuccess
  rw [htransfer.length] at hlength hrxBuf
  refine ⟨fun _ => ⟨rfl, fun status hstatus => ?_⟩, fun h => absurd hstarts h,
    ⟨fun _ => ⟨hstarts, hsuccess⟩, fun _ => rfl⟩, hsent ▸ List.take_prefix .., fun _ => ?_,
    fun _ before seg after hsegs hread => ?_, fun x hx => ?_, fun _ => htransfer.length,
    fun hne => absurd rfl hne, cleanup_once txAllocated rxAllocated⟩
  · rw [hsuccess] at hstatus
    cases hstatus
    rfl
  · rw [hsent, hlength, List.take_of_length_le (length_sequenceBytes m segs).le]
  · subst hsegs
    obtain ⟨a, haddress⟩ := htransfer.mapped seg (by simp)
    refine ⟨a, haddress, fun hapart => ?_⟩
    have hwindow : totalLength before + seg.transferLength
        ≤ totalLength (before ++ seg :: after) := by
      simp only [totalLength, List.map_append, List.map_cons, List.sum_append, List.sum_cons]
      omega
    have hload := load_window w.rxBuf 0 hwindow
    rw [Nat.zero_add, hrxBuf] at hload
    rw [scatterSegments_delivered _ hlt haddress hread hapart, hload]
  · exact scatterSegments_untouched _ x segs 0 m (by omega) hx

/-- **Every sequence is exact**, whatever its segments, when their lengths together are positive
and fit into a `ULONG`, and however the transfer ends.  Whether there is a transfer is decided by
the buffers and the mappings alone, and what it sends and receives is known of every run of one. -/
theorem sequence_exact (target : SpiTarget) (segs : List SequenceSegment)
    (txAllocated rxAllocated : Bool) (m : Memory) (w : SpiWorld)
    (hpos : 0 < totalLength segs) (hlt : totalLength segs < 4294967296)
    (hends : SequenceEnds target segs txAllocated rxAllocated m w) :
    SequenceExact m segs txAllocated rxAllocated w
      (evtIoSequence target segs txAllocated rxAllocated w m) := by
  have htotal : sequenceTotal (segs.map (·.view m)) ≠ 0 := by
    rw [sequenceTotal_eq hlt]
    exact Nat.ne_of_gt hpos
  unfold evtIoSequence
  rw [if_neg htotal]
  by_cases hstarts : SequenceStarts segs txAllocated rxAllocated
  · obtain ⟨t, hbegin⟩ := sequence_begins target htotal hstarts
    obtain ⟨hreach, status, hreturned⟩ := hends t hbegin
    have htransfer := sequenceTransfer_of_begin hlt hbegin
    rw [hbegin]
    dsimp only
    cases status with
    | success =>
      rw [if_pos hreturned]
      exact sequenceExact_success hlt hstarts htransfer hreach hreturned
    | ioTimeout =>
      have hne : w.pc ≠ .returned .success := by
        rw [hreturned]
        nofun
      rw [if_neg hne]
      exact sequenceExact_timeout hstarts htransfer hreach hreturned
  · rw [sequence_refused target htotal hstarts]
    exact sequenceExact_refused hstarts

/-- One byte is written, then one is read: the request succeeds. -/
theorem sequence_exact_of_run : ∃ w : SpiWorld,
    SequenceExact (fun x => BitVec.ofNat 8 x) [⟨some 7, 1, true⟩, ⟨some 300, 1, false⟩] true true w
      (evtIoSequence ⟨0, false, false, 20⟩ [⟨some 7, 1, true⟩, ⟨some 300, 1, false⟩] true true w
        fun x => BitVec.ofNat 8 x)
    ∧ (evtIoSequence ⟨0, false, false, 20⟩ [⟨some 7, 1, true⟩, ⟨some 300, 1, false⟩] true true w
        fun x => BitVec.ofNat 8 x).status = .ok .success := by
  let segs : List SequenceSegment := [⟨some 7, 1, true⟩, ⟨some 300, 1, false⟩]
  let m : Memory := fun x => BitVec.ofNat 8 x
  let txBuf : Memory := fun k => if 0 ≤ k ∧ k < 0 + 1 then m (7 + (k - 0)) else 0
  let t : SpiTransfer := ⟨⟨0, false, false, 20⟩, some txBuf, false, 2, by decide⟩
  have hbegin : (sequenceRequest m segs true true).begin ⟨0, false, false, 20⟩ = .ok t := rfl
  have hbegun : t.Begun (t.begin 32) := ⟨32, by decide, rfl⟩
  obtain ⟨w, hreach, hw⟩ := exists_reach_of_run spiStep hbegun twoFrames
    (fun w => w.pc == .returned .success) (by decide +kernel)
  have hends : SequenceEnds ⟨0, false, false, 20⟩ segs true true m w := by
    intro t' ht'
    rw [hbegin] at ht'
    cases ht'
    exact ⟨hreach, .success, eq_of_beq hw⟩
  have hexact := sequence_exact ⟨0, false, false, 20⟩ segs true true m w (by decide) (by decide)
    hends
  have hmapped : ∀ seg ∈ segs, ∃ a, seg.address = some a :=
    List.forall_mem_cons.2 ⟨⟨7, rfl⟩, List.forall_mem_singleton.2 ⟨300, rfl⟩⟩
  exact ⟨w, hexact, hexact.succeeds.2 ⟨⟨rfl, rfl, hmapped⟩, eq_of_beq hw⟩⟩

end WoaRk3576.Spi
