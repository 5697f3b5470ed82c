/-
# Chip select over a whole request: `Rk3xSpiEvtIoRead`, `...Write`, `...Sequence`, `...Other`

Every request becomes one call of `Rk3xSpiTransfer`, so that the chip select is held from its first
frame to its last; a sequence is copied into one buffer for that.  `Rk3xSpiTransfer` disables the
controller before every chunk, and a disabled controller drops the chip select.

`select_held_iff` is the result: the chip select is held through a request exactly when the request
fits into one chunk (or is completed without a transfer).  A longer request has a run in which the
select is dropped between its frames, which `select_dropped` shows for a read.

* For one chunk it is enough to know where the driver is.  It disables the controller before the
  first frame and after the last one, and `OneChunk` says so of each of its accesses, with the
  number of frames that were clocked by then; the device cannot drop the select.
* For more than one chunk a run is built that drops it.  The device shifts as soon as it can and
  the polling budget never runs out, so the driver goes through the first chunk frame by frame, an
  induction over the frames, and begins the second one with frames behind it and frames to come.
* `fits_iff` takes the requests to their transfers: what a request is completed without a transfer
  for, and how long the transfer of each kind is.

What a copy writes behind a buffer when the lengths of a sequence overflow `ULONG` is not followed:
only the bytes that the transfer reads are modelled.
-/
import WoaRk3576.Spi.Transfer

namespace WoaRk3576.Spi

open WoaRk3576.Lib

/-! ## 1. Requests

A read, a write and a sequence differ in how their transfer is found, not in how it is run.  The
model maps each request to the transfer it leads to, or to the status it is completed with when
there is none. -/

/-- A transfer of a request, as `Rk3xSpiMapTransfer` finds it: the mapped buffer, NULL when
there is no MDL or it cannot be mapped. -/
structure SpbSegment where
  buffer : Option (Nat → BitVec 8)
  transferLength : Nat
  toDevice : Bool

/-- A length cut to `ULONG`. -/
def ulong (n : Nat) : Nat := n % 4294967296

theorem ulong_lt (n : Nat) : ulong n < 4294967296 := Nat.mod_lt _ (by decide)

/-- `*Length` of `Rk3xSpiMapTransfer`. -/
def SpbSegment.length (seg : SpbSegment) : Nat := ulong seg.transferLength

/-- A request, with what the allocations of a sequence return. -/
inductive SpbRequest
  | read (seg : SpbSegment)
  | write (seg : SpbSegment)
  | sequence (segs : List SpbSegment) (txAllocated rxAllocated : Bool)
  | other (fullDuplex : Bool) (tx rx : SpbSegment)

/-- How a request is completed when there is no transfer. -/
inductive SpbStatus
  | insufficientResources
  | invalidParameter
  | notSupported
  deriving DecidableEq, Repr

/-- The loop that sums the segment lengths into `total`. -/
def addLengths (total : Nat) (segs : List SpbSegment) : Nat :=
  segs.foldl (fun total seg => ulong (total + seg.length)) total

def sequenceTotal (segs : List SpbSegment) : Nat := addLengths 0 segs

theorem addLengths_lt : ∀ (segs : List SpbSegment) (total : Nat), total < 4294967296 →
    addLengths total segs < 4294967296
  | [], _, h => h
  | _ :: segs, _, _ => addLengths_lt segs _ (ulong_lt _)

theorem sequenceTotal_lt (segs : List SpbSegment) : sequenceTotal segs < 4294967296 :=
  addLengths_lt segs 0 (by decide)

/-- The copy loop: write segments contribute their bytes to `txBuf`. -/
def copySegments : List SpbSegment → Nat → (Nat → BitVec 8) → Option (Nat → BitVec 8)
  | [], _, txBuf => some txBuf
  | seg :: segs, offset, txBuf =>
    match seg.buffer with
    | none => none
    | some bytes =>
      copySegments segs (ulong (offset + seg.length))
        (if seg.toDevice then
          fun k => if offset ≤ k ∧ k < offset + seg.length then bytes (k - offset) else txBuf k
        else txBuf)

/-- The call of `Rk3xSpiTransfer` that a request leads to. -/
def SpbRequest.begin (target : SpiTarget) : SpbRequest → Except SpbStatus SpiTransfer
  | .read seg =>
    match seg.buffer with
    | none => .error .insufficientResources
    | some _ => .ok ⟨target, none, false, seg.length, ulong_lt _⟩
  | .write seg =>
    match seg.buffer with
    | none => .error .insufficientResources
    | some bytes => .ok ⟨target, some bytes, true, seg.length, ulong_lt _⟩
  | .sequence segs txAllocated rxAllocated =>
    if sequenceTotal segs = 0 then .error .invalidParameter
    else if txAllocated && rxAllocated then
      match copySegments segs 0 fun _ => 0 with
      | none => .error .insufficientResources
      | some txBuf =>
        .ok ⟨target, some txBuf, false, sequenceTotal segs, sequenceTotal_lt segs⟩
    else .error .insufficientResources
  | .other fullDuplex tx rx =>
    if fullDuplex then
      match tx.buffer, rx.buffer with
      | some bytes, some _ =>
        if tx.length = rx.length then .ok ⟨target, some bytes, false, tx.length, ulong_lt _⟩
        else .error .invalidParameter
      | _, _ => .error .invalidParameter
    else .error .notSupported

/-! ## 2. What is promised, and when it holds

Between the first and the last frame of a request the slave may be neither released nor cut off by
disabling the controller.  The observer records the number of frames clocked at each such moment,
and the promise is that none of these numbers lies strictly between 0 and the number clocked so
far.  A request fits if the transfer it leads to, if any, has at most 65535 bytes. -/

/-- **The chip select is held**: no release of the slave and no disable of the controller lies
between two frames. -/
def SpiWorld.SelectHeld (w : SpiWorld) : Prop :=
  ∀ g ∈ w.dropped, g = 0 ∨ w.clocked.length ≤ g

/-- The chip select is held through every run of the transfer that the request leads to. -/
def SpbRequest.SelectHeld (target : SpiTarget) (r : SpbRequest) : Prop :=
  ∀ t, r.begin target = .ok t → ∀ w, Reach t.Begun spiStep w → w.SelectHeld

/-- **The request fits into one chunk**, or something is missing for a transfer. -/
def SpbRequest.Fits : SpbRequest → Prop
  | .read seg => seg.buffer = none ∨ seg.length ≤ rkspiMaxFrames
  | .write seg => seg.buffer = none ∨ seg.length ≤ rkspiMaxFrames
  | .sequence segs txAllocated rxAllocated =>
    txAllocated = false ∨ rxAllocated = false ∨ (∃ seg ∈ segs, seg.buffer = none)
      ∨ sequenceTotal segs ≤ rkspiMaxFrames
  | .other fullDuplex tx rx =>
    fullDuplex = false ∨ tx.buffer = none ∨ rx.buffer = none ∨ tx.length ≠ rx.length
      ∨ tx.length ≤ rkspiMaxFrames

/-- The copy loop fails exactly at a segment that is not mapped. -/
theorem copySegments_eq_none : ∀ (segs : List SpbSegment) (offset : Nat)
    (txBuf : Nat → BitVec 8),
    copySegments segs offset txBuf = none ↔ ∃ seg ∈ segs, seg.buffer = none
  | [], _, _ => by
    rw [copySegments]
    exact ⟨nofun, nofun⟩
  | seg :: segs, offset, txBuf => by
    rw [copySegments]
    cases hseg : seg.buffer with
    | none => exact ⟨fun _ => ⟨seg, List.mem_cons_self, hseg⟩, fun _ => rfl⟩
    | some bytes =>
      dsimp only
      rw [copySegments_eq_none segs]
      constructor
      · rintro ⟨seg', hmem, hnone⟩
        exact ⟨seg', List.mem_cons_of_mem _ hmem, hnone⟩
      · rintro ⟨seg', hmem, hnone⟩
        rcases List.mem_cons.1 hmem with rfl | hmem
        · rw [hseg] at hnone
          cases hnone
        · exact ⟨seg', hmem, hnone⟩

/-- **A request fits exactly when the transfer it leads to is at most one chunk long.** -/
theorem fits_iff (target : SpiTarget) (r : SpbRequest) :
    r.Fits ↔ ∀ t, r.begin target = .ok t → t.length ≤ rkspiMaxFrames := by
  cases r with
  | read seg =>
    cases hbuf : seg.buffer with
    | none => simp [SpbRequest.Fits, SpbRequest.begin, hbuf]
    | some bytes => simp [SpbRequest.Fits, SpbRequest.begin, hbuf]
  | write seg =>
    cases hbuf : seg.buffer with
    | none => simp [SpbRequest.Fits, SpbRequest.begin, hbuf]
    | some bytes => simp [SpbRequest.Fits, SpbRequest.begin, hbuf]
  | sequence segs txAllocated rxAllocated =>
    simp only [SpbRequest.Fits, SpbRequest.begin, ← copySegments_eq_none segs 0 fun _ => 0]
    by_cases hzero : sequenceTotal segs = 0
    · simp [hzero]
    · cases hcopy : copySegments segs 0 fun _ => 0 with
      | none => cases txAllocated <;> cases rxAllocated <;> simp [hzero]
      | some txBuf => cases txAllocated <;> cases rxAllocated <;> simp [hzero]
  | other fullDuplex tx rx =>
    cases fullDuplex with
    | false => simp [SpbRequest.Fits, SpbRequest.begin]
    | true =>
      cases htx : tx.buffer with
      | none => simp [SpbRequest.Fits, SpbRequest.begin, htx]
      | some bytes =>
        cases hrx : rx.buffer with
        | none => simp [SpbRequest.Fits, SpbRequest.begin, htx, hrx]
        | some _ =>
          by_cases hlength : tx.length = rx.length
          · simp [SpbRequest.Fits, SpbRequest.begin, htx, hrx, hlength]
          · simp [SpbRequest.Fits, SpbRequest.begin, htx, hrx, hlength]

/-! ## 3. A transfer of one chunk

With one chunk the controller is disabled before the first frame and after the last, and at no
other time.  The invariant says of each access of the driver which of the two the recorded moments
are; the device alone adds frames, and only inside the chunk. -/

variable {w w' : SpiWorld} {t : SpiTransfer}

/-- What is known of the drops at each access of the driver, when there is one chunk. -/
def SpiWorld.OneChunk (w : SpiWorld) : Prop :=
  match w.pc with
  | .entry | .configure | .baudr => ∀ g ∈ w.dropped, g = 0
  | .chunks done => (∀ g ∈ w.dropped, g = 0) ∧ (done = 0 ∨ done = w.transfer.length)
  | .frames done chunk | .enable done chunk | .select done chunk | .busy done chunk
  | .busyBudget done chunk =>
    (∀ g ∈ w.dropped, g = 0) ∧ done + chunk = w.transfer.length
  | .chunkLoop c | .push c | .drain c | .budget c | .txdr c | .rxdr c =>
    (∀ g ∈ w.dropped, g = 0) ∧ c.done + c.chunk = w.transfer.length
  | .release _ => ∀ g ∈ w.dropped, g = 0
  | .disable _ | .returned _ => w.SelectHeld

/-- A drop before the first frame. -/
theorem zero_of_mem_append {dropped : List Nat} {n : Nat} (h : ∀ g ∈ dropped, g = 0)
    (hn : n = 0) : ∀ g ∈ dropped ++ [n], g = 0 := by
  intro g hg
  rcases List.mem_append.1 hg with hg | hg
  · exact h g hg
  · rw [List.mem_singleton.1 hg, hn]

/-- A drop after the last frame. -/
theorem held_of_mem_append {dropped : List Nat} {n : Nat} (h : ∀ g ∈ dropped, g = 0 ∨ n ≤ g) :
    ∀ g ∈ dropped ++ [n], g = 0 ∨ n ≤ g := by
  intro g hg
  rcases List.mem_append.1 hg with hg | hg
  · exact h g hg
  · exact .inr (List.mem_singleton.1 hg ▸ Nat.le_refl n)

/-- A frame comes only while the driver is in a chunk or gives up, so all drops were before. -/
theorem SpiWorld.OneChunk.shift (h : w.OneChunk) (hinv : SpiInv w) {received : BitVec 8}
    (hs : spiShift w received = some w') : w'.OneChunk := by
  have hpcInv := hinv.pcInv
  unfold SpiWorld.PcInv at hpcInv
  unfold SpiWorld.OneChunk at h ⊢
  obtain ⟨hon, b, txFifo, htx, rfl⟩ := spiShift_cases hs
  cases hpc : w.pc <;> simp only [hpc] at h hpcInv ⊢
  case disable => exact absurd hpcInv.2 hon.2
  case returned =>
    rw [htx] at hpcInv
    cases hpcInv.2
  all_goals exact h

/-- **The driver disables the controller before the first frame and after the last.** -/
theorem SpiWorld.OneChunk.driver (h : w.OneChunk) (hinv : SpiInv w)
    (hlength : w.transfer.length ≤ rkspiMaxFrames) {flag : Bool}
    (hs : spiDriver w flag = some w') : w'.OneChunk := by
  have hpcInv := hinv.pcInv
  unfold SpiWorld.PcInv at hpcInv
  unfold SpiWorld.OneChunk at h
  unfold spiDriver at hs
  cases hpc : w.pc with
  | entry =>
    simp only [hpc] at hs h hpcInv
    split at hs <;> cases hs
    · exact fun g hg => .inl (h g hg)
    · exact zero_of_mem_append h hpcInv.empty.2.2
  | configure =>
    simp only [hpc] at hs h
    cases hs
    exact h
  | baudr =>
    simp only [hpc] at hs h
    cases hs
    exact ⟨h, .inl rfl⟩
  | chunks done =>
    simp only [hpc] at hs h hpcInv
    split at hs <;> cases hs
    · rename_i hlt
      have hdone : done = 0 := h.2.resolve_right (Nat.ne_of_lt hlt)
      subst hdone
      refine ⟨zero_of_mem_append h.1 hpcInv.1.empty.2.2, ?_⟩
      show 0 + min (w.transfer.length - 0) rkspiMaxFrames = w.transfer.length
      rw [Nat.sub_zero, Nat.min_eq_left hlength, Nat.zero_add]
    · exact h.1
  | frames | enable | select =>
    simp only [hpc] at hs h
    cases hs
    exact h
  | chunkLoop c =>
    simp only [hpc] at hs h
    split at hs <;> cases hs <;> exact h
  | push c =>
    simp only [hpc] at hs h
    split at hs <;> cases hs <;> exact h
  | txdr c =>
    simp only [hpc] at hs h
    cases hs
    exact h
  | drain c =>
    simp only [hpc] at hs h
    split at hs
    · cases hs
    · split at hs <;> cases hs <;> exact h
  | rxdr c =>
    simp only [hpc] at hs h
    cases hs
    exact h
  | budget c =>
    simp only [hpc] at hs h
    split at hs <;> cases hs
    · exact h.1
    · exact h
  | busy done chunk =>
    simp only [hpc] at hs h
    split at hs <;> cases hs
    · exact h
    · exact ⟨h.1, .inr h.2⟩
  | busyBudget done chunk =>
    simp only [hpc] at hs h
    split at hs <;> cases hs
    · exact h.1
    · exact h
  | release status =>
    simp only [hpc] at hs h
    cases hs
    exact held_of_mem_append fun g hg => .inl (h g hg)
  | disable status =>
    simp only [hpc] at hs h
    cases hs
    exact held_of_mem_append h
  | returned status =>
    simp only [hpc] at hs
    cases hs

/-- At every access the drops that are known are no gaps. -/
theorem SpiWorld.OneChunk.selectHeld (h : w.OneChunk) : w.SelectHeld := by
  unfold SpiWorld.OneChunk at h
  cases hpc : w.pc <;> simp only [hpc] at h
  case disable | returned => exact h
  case entry | configure | baudr | release => exact fun g hg => .inl (h g hg)
  all_goals exact fun g hg => .inl (h.1 g hg)

/-- The transfer of a call never changes. -/
theorem transfer_of_step {a : SpiAction} (hs : spiStep w a = some w') :
    w'.transfer = w.transfer := by
  cases a with
  | shift received =>
    obtain ⟨-, b, txFifo, -, rfl⟩ := spiShift_cases hs
    rfl
  | driver flag =>
    simp only [spiStep, spiDriver] at hs
    cases hpc : w.pc <;> simp only [hpc] at hs <;> (try split at hs) <;> (try split at hs) <;>
      cases hs <;> rfl

/-- **The chip select is held through a transfer of one chunk.** -/
theorem selectHeld_of_le (hlength : t.length ≤ rkspiMaxFrames)
    (h : Reach t.Begun spiStep w) : w.SelectHeld := by
  have hinv : SpiInv w ∧ w.transfer = t ∧ w.OneChunk := by
    refine Reach.invariant (I := fun w => SpiInv w ∧ w.transfer = t ∧ w.OneChunk) ?_ ?_ h
    · intro w hw
      refine ⟨begun_spiInv hw, ?_⟩
      obtain ⟨rxDepth, -, rfl⟩ := hw
      exact ⟨rfl, nofun⟩
    · rintro w a w' ⟨hspi, htransfer, hone⟩ hs
      refine ⟨hspi.step hs, (transfer_of_step hs).trans htransfer, ?_⟩
      cases a with
      | shift received => exact SpiWorld.OneChunk.shift hone hspi hs
      | driver flag => exact SpiWorld.OneChunk.driver hone hspi (htransfer ▸ hlength) hs
  exact SpiWorld.OneChunk.selectHeld hinv.2.2

/-! ## 4. A transfer of more than one chunk

The converse needs a run.  The device of this run answers every frame before the driver pushes the
next one.  The driver and the device are led through the first chunk, frame by frame, by an
induction on the number of frames; at the beginning of the second chunk the controller is disabled
with all of the first behind it and frames still to come.  One more frame makes that moment a gap.
-/

/-- The driver is at the loop of a chunk, `k` frames are exchanged and nothing is in flight. -/
structure SpiWorld.Ready (w : SpiWorld) (t : SpiTransfer) (done chunk k : Nat) : Prop where
  reach : Reach t.Begun spiStep w
  pc : w.pc = .chunkLoop ⟨done, chunk, k, k⟩
  txFifo : w.txFifo = []
  rxFifo : w.rxFifo = []
  depth : 0 < w.rxDepth
  selected : w.ssienr = true ∧ w.ser ≠ 0
  clocked : w.clocked.length = done + k

theorem rkspiSerCs_ne_zero (n : Nat) : rkspiSerCs n ≠ 0 := by
  intro hzero
  have hbit := congrArg (fun v => v.getLsbD (n % 32)) hzero
  have hlt : n % 32 < 32 := Nat.mod_lt n (by decide)
  simp [rkspiSerCs, hlt] at hbit

/-- **A chunk begins**: the controller is disabled once more. -/
theorem chunk_begins {done : Nat} (h : Reach t.Begun spiStep w) (hpc : w.pc = .chunks done)
    (hlt : done < w.transfer.length) (hdepth : 0 < w.rxDepth)
    (hclocked : w.clocked.length = done) :
    ∃ w' : SpiWorld, w'.Ready t done (min (w.transfer.length - done) rkspiMaxFrames) 0
      ∧ w'.dropped = w.dropped ++ [done] ∧ w'.transfer = w.transfer := by
  let chunk := min (w.transfer.length - done) rkspiMaxFrames
  let w₁ := { w.writeSsienr false with pc := .frames done chunk }
  let w₂ := { w₁ with ctrlr1 := BitVec.ofNat 32 (chunk - 1), pc := .enable done chunk }
  let w₃ := { w₂.writeSsienr true with pc := .select done chunk }
  let w₄ := { w₃ with
    ser := rkspiSerCs w.transfer.target.chipSelect
    pc := .chunkLoop ⟨done, chunk, 0, 0⟩ }
  have h₁ := h.after (.driver false) (t := w₁) (by
    simp only [spiStep, spiDriver, hpc, if_pos hlt]
    rfl) trivial
  have h₂ := h₁.after (.driver false) (t := w₂) rfl trivial
  have h₃ := h₂.after (.driver false) (t := w₃) rfl trivial
  have h₄ := h₃.after (.driver false) (t := w₄) rfl trivial
  refine ⟨w₄, ⟨h₄, rfl, rfl, rfl, hdepth, ⟨rfl, ?_⟩, hclocked⟩, ?_, rfl⟩
  · exact rkspiSerCs_ne_zero _
  · show w.dropped ++ [w.clocked.length] = w.dropped ++ [done]
    rw [hclocked]

theorem push_room {c : Cursor} (hpc : w.pc = .push c) (htxi : c.txi < c.chunk)
    (hroom : ulongSub c.txi c.rxi < rkspiFifoDepth) :
    spiStep w (.driver false) = some { w with pc := .txdr c } := by
  simp only [spiStep, spiDriver, hpc]
  exact if_pos ⟨htxi, hroom, trivial⟩

theorem push_full {c : Cursor} (hpc : w.pc = .push c) :
    spiStep w (.driver true) = some { w with pc := .drain c } := by
  simp only [spiStep, spiDriver, hpc]
  exact if_neg fun hand => Bool.noConfusion hand.2.2

theorem drain_read {c : Cursor} (hpc : w.pc = .drain c) (hrx : w.rxFifo ≠ [])
    (hrxi : c.rxi < c.chunk) : spiStep w (.driver false) = some { w with pc := .rxdr c } := by
  simp only [spiStep, spiDriver, hpc]
  rw [if_neg fun hand => hrx hand.2]
  exact if_pos ⟨hrxi, trivial⟩

theorem drain_empty {c : Cursor} (hpc : w.pc = .drain c) :
    spiStep w (.driver true) = some { w with pc := .budget c } := by
  simp only [spiStep, spiDriver, hpc]
  rw [if_neg fun hand => Bool.noConfusion hand.1]
  exact if_neg fun hand => Bool.noConfusion hand.2

/-- **One frame is exchanged.** -/
theorem SpiWorld.Ready.frame {done chunk k : Nat} (h : w.Ready t done chunk k) (hk : k < chunk) :
    ∃ w' : SpiWorld, w'.Ready t done chunk (k + 1) ∧ w'.dropped = w.dropped
      ∧ w'.transfer = w.transfer := by
  have hsub : ulongSub k k = 0 := by
    rw [ulongSub, Nat.add_sub_cancel_left]
  let pushed : Cursor := ⟨done, chunk, k + 1, k⟩
  let w₁ := { w with pc := .push ⟨done, chunk, k, k⟩ }
  let w₂ := { w₁ with pc := .txdr ⟨done, chunk, k, k⟩ }
  let w₃ := w₂.writeTxdr ⟨done, chunk, k, k⟩
  let w₄ := { w₃ with
    txFifo := []
    rxFifo := [0]
    clocked := w.clocked ++ [(w.transfer.txByte (done + k), 0)] }
  let w₅ := { w₄ with pc := .drain pushed }
  let w₆ := { w₅ with pc := .rxdr pushed }
  let w₇ := w₆.readRxdr pushed
  let w₈ := { w₇ with pc := .budget ⟨done, chunk, k + 1, k + 1⟩ }
  let w₉ := { w₈ with pc := .chunkLoop ⟨done, chunk, k + 1, k + 1⟩ }
  have h₁ := h.reach.after (.driver false) (t := w₁) (by
    simp only [spiStep, spiDriver, h.pc, if_pos hk]
    rfl) trivial
  have h₂ := h₁.after (.driver false) (t := w₂)
    (push_room rfl hk (hsub ▸ (by decide : 0 < rkspiFifoDepth))) trivial
  have h₃ := h₂.after (.driver false) (t := w₃) rfl trivial
  have h₄ := h₃.after (.shift 0) (t := w₄) (by
    have htx : w₃.txFifo = [w.transfer.txByte (done + k)] := by
      show w.txFifo ++ [_] = _
      rw [h.txFifo, List.nil_append]
    have hrx : w₃.rxFifo = [] := h.rxFifo
    simp only [spiStep, spiShift, htx, hrx, List.length_nil, List.nil_append]
    rw [if_pos (show w₃.ssienr = true ∧ w₃.ser ≠ 0 from h.selected),
      if_pos (show 0 < w₃.rxDepth from h.depth)]
    rfl) trivial
  have h₅ := h₄.after (.driver true) (t := w₅) (push_full rfl) trivial
  have h₆ := h₅.after (.driver false) (t := w₆) (drain_read rfl (List.cons_ne_nil _ _) hk) trivial
  have h₇ := h₆.after (.driver false) (t := w₇) rfl trivial
  have h₈ := h₇.after (.driver true) (t := w₈) (drain_empty rfl) trivial
  have h₉ := h₈.after (.driver false) (t := w₉) rfl trivial
  refine ⟨w₉, ⟨h₉, rfl, rfl, rfl, h.depth, h.selected, ?_⟩, rfl, rfl⟩
  show (w.clocked ++ [_]).length = done + (k + 1)
  rw [List.length_append, h.clocked]
  rfl

/-- All frames of a chunk are exchanged. -/
theorem SpiWorld.Ready.frames {done chunk : Nat} (h : w.Ready t done chunk 0) :
    ∀ k ≤ chunk, ∃ w' : SpiWorld, w'.Ready t done chunk k ∧ w'.dropped = w.dropped
      ∧ w'.transfer = w.transfer
  | 0, _ => ⟨w, h, rfl, rfl⟩
  | k + 1, hk => by
    obtain ⟨w₁, h₁, hdropped₁, htransfer₁⟩ := h.frames k (Nat.le_of_succ_le hk)
    obtain ⟨w₂, h₂, hdropped₂, htransfer₂⟩ := h₁.frame hk
    exact ⟨w₂, h₂, hdropped₂.trans hdropped₁, htransfer₂.trans htransfer₁⟩

/-- **A longer transfer drops the chip select between its first two chunks.** -/
theorem not_selectHeld_of_lt (hlength : rkspiMaxFrames < t.length) :
    ∃ w, Reach t.Begun spiStep w ∧ ¬ w.SelectHeld := by
  let w₀ := t.begin rkspiFifoDepth
  have hne : t.length ≠ 0 := Nat.ne_of_gt (Nat.zero_lt_of_lt hlength)
  let w₁ := { w₀.writeSsienr false with pc := .configure }
  let w₂ := { w₁ with ctrlr0 := rkspiCr0 t.target, pc := .baudr }
  let w₃ := { w₂ with baudr := t.target.baudr, pc := .chunks 0 }
  have h₀ : Reach t.Begun spiStep w₀ := .start ⟨rkspiFifoDepth, Nat.le_refl _, rfl⟩
  have h₁ := h₀.after (.driver false) (t := w₁) (if_neg hne) trivial
  have h₂ := h₁.after (.driver false) (t := w₂) rfl trivial
  have h₃ := h₂.after (.driver false) (t := w₃) rfl trivial
  have hdepth : 0 < w₃.rxDepth := (by decide : 0 < rkspiFifoDepth)
  obtain ⟨w₄, h₄, -, htransfer₄⟩ := chunk_begins h₃ rfl (Nat.pos_of_ne_zero hne) hdepth rfl
  have hchunk : min (w₃.transfer.length - 0) rkspiMaxFrames = rkspiMaxFrames :=
    Nat.min_eq_right (Nat.le_of_lt hlength)
  rw [hchunk] at h₄
  obtain ⟨w₅, h₅, -, htransfer₅⟩ := h₄.frames rkspiMaxFrames (Nat.le_refl _)
  -- the first chunk is over and the second begins
  let w₆ := { w₅ with pc := .busy 0 rkspiMaxFrames }
  let w₇ := { w₆ with pc := .chunks (0 + rkspiMaxFrames) }
  have h₆ := h₅.reach.after (.driver false) (t := w₆) (by
    simp only [spiStep, spiDriver, h₅.pc, if_neg (Nat.lt_irrefl _)]
    rfl) trivial
  have h₇ := h₆.after (.driver false) (t := w₇) rfl trivial
  have htransfer : w₇.transfer = t := (htransfer₅.trans htransfer₄ : w₅.transfer = _)
  have hlt : 0 + rkspiMaxFrames < w₇.transfer.length := by
    rw [htransfer, Nat.zero_add]
    exact hlength
  obtain ⟨w₈, h₈, hdropped₈, -⟩ := chunk_begins h₇ rfl hlt h₅.depth h₅.clocked
  obtain ⟨w₉, h₉, hdropped₉, -⟩ := h₈.frame (by
    refine Nat.lt_min.2 ⟨?_, by decide⟩
    exact Nat.sub_pos_of_lt hlt)
  refine ⟨w₉, h₉.reach, fun hheld => ?_⟩
  have hmem : 0 + rkspiMaxFrames ∈ w₉.dropped := by
    rw [hdropped₉, hdropped₈]
    exact List.mem_append_right _ (List.mem_singleton_self _)
  rcases hheld _ hmem with hzero | hle
  · cases hzero
  · rw [h₉.clocked] at hle
    omega

/-! ## 5. Every request

Both directions are about transfers of any length, so for a request only its length has to be
compared with a chunk. -/

/-- **The chip select is held through a request exactly when the request fits into one chunk.**
With one chunk the controller is disabled before the first frame and after the last only; a longer
transfer has a run that comes to the second chunk, where it is disabled in between. -/
theorem select_held_iff (target : SpiTarget) (r : SpbRequest) :
    r.SelectHeld target ↔ r.Fits := by
  rw [fits_iff target]
  constructor
  · intro h t ht
    by_contra hnot
    obtain ⟨w, hreach, hdropped⟩ := not_selectHeld_of_lt (Nat.lt_of_not_le hnot)
    exact hdropped (h t ht w hreach)
  · intro h t ht w hreach
    exact selectHeld_of_le (h t ht) hreach

/-- **A read of one frame more than a chunk.** -/
theorem select_dropped :
    ¬ (SpbRequest.read ⟨some fun _ => 0, 65536, false⟩).SelectHeld ⟨0, false, false, 20⟩ := by
  intro h
  obtain ⟨w, hreach, hdropped⟩ := not_selectHeld_of_lt
    (t := ⟨⟨0, false, false, 20⟩, none, false, 65536, by decide⟩) (by decide)
  exact hdropped (h _ rfl w hreach)

end WoaRk3576.Spi
