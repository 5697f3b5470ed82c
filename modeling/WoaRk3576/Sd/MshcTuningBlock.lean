/-
# The tuning block of dwcmshc

`MshcSendTuningCommand` with the data of its block: what the FIFO hands out goes to `DataBuffer`,
the pointer in the request moves on, and in the end the bytes at that pointer are compared with the
pattern.  The requests and the recovery are those of the bus operations; each reset that the
recovery asks for is kept with what was left of the transfer.

A part of the transfer that is not the last one ends with `STATUS_MORE_PROCESSING_REQUIRED`, which
`MshcIssueRequestSynchronously` takes for an error.  `mshcSendTuningCommand_iff` says that the
command does what it should exactly where the block is one part.

Half the FIFO is the threshold, so the block is one part if half the FIFO holds it.  Then the
command is two requests, a correct block with every request answered succeeds without a reset
(`succeeds_of_fits`), and a success is one of the correct block, since the comparison is with the
bytes that were moved (`success_of_fits`).  Otherwise the first part leaves something behind it,
and its status asks for a reset in the middle of the transfer, so with every request answered a
success comes with such a reset (`reset_of_not_fits`).

The stack that the caller's buffer lies on is any memory, and the block may be anywhere in it.
-/
import WoaRk3576.Sd.MshcPioData
import WoaRk3576.Sd.MshcRecovery

namespace WoaRk3576.Sd.Tuning

open WoaRk3576.Lib WoaRk3576.Sd.Bus WoaRk3576.Sd.PioData

/-! ## 1. The routines

The bus operations with the data: the request moves bytes from the FIFO to the place its pointer
says, and the comparison reads that place.  The resets that the recovery asks for are kept by the
observer. -/

/-- `TuningBlock4BitPattern`. -/
def tuningBlock4BitPattern : List (BitVec 8) := [
  0xff, 0x0f, 0xff, 0x00, 0xff, 0xcc, 0xc3, 0xcc,
  0xc3, 0x3c, 0xcc, 0xff, 0xfe, 0xff, 0xfe, 0xef,
  0xff, 0xdf, 0xff, 0xdd, 0xff, 0xfb, 0xff, 0xfb,
  0xbf, 0xff, 0x7f, 0xff, 0x77, 0xf7, 0xbd, 0xef,
  0xff, 0xf0, 0xff, 0xf0, 0x0f, 0xfc, 0xcc, 0x3c,
  0xcc, 0x33, 0xcc, 0xcf, 0xff, 0xef, 0xff, 0xee,
  0xff, 0xfd, 0xff, 0xfd, 0xdf, 0xff, 0xbf, 0xff,
  0xbb, 0xff, 0xf7, 0xff, 0xf7, 0x7f, 0x7b, 0xde]

/-- `TuningBlock8BitPattern`. -/
def tuningBlock8BitPattern : List (BitVec 8) := [
  0xff, 0xff, 0x00, 0xff, 0xff, 0xff, 0x00, 0x00,
  0xff, 0xff, 0xcc, 0xcc, 0xcc, 0x33, 0xcc, 0xcc,
  0xcc, 0x33, 0x33, 0xcc, 0xcc, 0xcc, 0xff, 0xff,
  0xff, 0xee, 0xff, 0xff, 0xff, 0xee, 0xee, 0xff,
  0xff, 0xff, 0xdd, 0xff, 0xff, 0xff, 0xdd, 0xdd,
  0xff, 0xff, 0xff, 0xbb, 0xff, 0xff, 0xff, 0xbb,
  0xbb, 0xff, 0xff, 0xff, 0x77, 0xff, 0xff, 0xff,
  0x77, 0x77, 0xff, 0x77, 0xbb, 0xdd, 0xee, 0xff,
  0xff, 0xff, 0xff, 0x00, 0xff, 0xff, 0xff, 0x00,
  0x00, 0xff, 0xff, 0xcc, 0xcc, 0xcc, 0x33, 0xcc,
  0xcc, 0xcc, 0x33, 0x33, 0xcc, 0xcc, 0xcc, 0xff,
  0xff, 0xff, 0xee, 0xff, 0xff, 0xff, 0xee, 0xee,
  0xff, 0xff, 0xff, 0xdd, 0xff, 0xff, 0xff, 0xdd,
  0xdd, 0xff, 0xff, 0xff, 0xbb, 0xff, 0xff, 0xff,
  0xbb, 0xbb, 0xff, 0xff, 0xff, 0x77, 0xff, 0xff,
  0xff, 0x77, 0x77, 0xff, 0x77, 0xbb, 0xdd, 0xee]

/-- `TuningBlockPattern`. -/
def tuningBlockPattern (width : BusWidth) : List (BitVec 8) :=
  if width = .width8Bit then tuningBlock8BitPattern else tuningBlock4BitPattern

/-- The extension and the registers, `Request.Command.DataBuffer` and the memory, how many bytes
were read from the FIFO, and the resets that were asked for. -/
structure TuningWorld extends MshcBus where
  dataBuffer : Nat
  memory : Memory
  received : Nat
  resets : List (ResetType × BitVec 32)

/-- A routine that returns a status. -/
abbrev TuningResult := Except BusFault (NtStatus × TuningWorld)

/-- The transfer as `MshcStartPioTransfer` finds it. -/
def TuningWorld.transfer (w : TuningWorld) : PioTransfer where
  transferDirection := .read
  dataBuffer := w.dataBuffer
  status := .success
  currentTransferRemainingLength := w.currentTransferRemainingLength
  fifoThreshold := w.fifoThreshold
  memory := w.memory
  received := w.received
  sent := []
  accesses := []

/-- The data that a request moves. -/
def TuningWorld.move (stream : Nat → BitVec 8) (request : LocalRequest) (w : TuningWorld) :
    TuningWorld :=
  match request with
  | .command _ => w
  | .transfer =>
    let moved := PioData.mshcStartPioTransfer stream w.transfer
    { w with dataBuffer := moved.dataBuffer, memory := moved.memory, received := moved.received }

/-- A reset is asked for; one of a slot that is not initialised does nothing. -/
def TuningWorld.noteReset (resetType : ResetType) (w : TuningWorld) : TuningWorld :=
  if w.initialized then
    { w with resets := (resetType, w.currentTransferRemainingLength) :: w.resets }
  else w

/-- One reset of the recovery. -/
def resetHost (p : MshcSlot) (hw : Nat → HwAnswer) (depth : Nat) (resetType : ResetType)
    (w : TuningWorld) : Except BusFault TuningWorld :=
  match Bus.mshcSlotIssueBusOperation p hw depth (.resetHost resetType) w.toMshcBus with
  | .error fault => .error fault
  | .ok (_, s) => .ok { w.noteReset resetType with toMshcBus := s }

/-- `MshcIssueRequestSynchronously` for the tuning request, up to the recovery. -/
def issueAndWait (p : MshcSlot) (hw : Nat → HwAnswer) (stream : Nat → BitVec 8)
    (request : LocalRequest) (w : TuningWorld) : NtStatus × TuningWorld :=
  let ended := runLocal p hw request w.toMshcBus
  (ended.1, { w.move stream request with toMshcBus := ended.2 })

/-- `MshcIssueRequestSynchronously` for the tuning request. -/
def mshcIssueRequestSynchronously (p : MshcSlot) (hw : Nat → HwAnswer) (stream : Nat → BitVec 8)
    (depth : Nat) (request : LocalRequest) (errorRecovery : Bool) (w : TuningWorld) :
    TuningResult :=
  let ended := issueAndWait p hw stream request w
  if errorRecovery && !ended.1.ntSuccess then
    match resetHost p hw depth .cmd ended.2 with
    | .error fault => .error fault
    | .ok w =>
      if request.isData then
        match resetHost p hw depth .dat w with
        | .error fault => .error fault
        | .ok w => .ok (ended.1, w)
      else .ok (ended.1, w)
  else .ok ended

/-- The loop of `MshcSendTuningCommand` over the transfer. -/
def blockLoop (issue : TuningWorld → TuningResult) : Nat → TuningWorld → TuningResult
  | 0, _ => .error .endless
  | fuel + 1, w =>
    match issue w with
    | .error fault => .error fault
    | .ok (status, w) =>
      if status = .moreProcessingRequired then blockLoop issue fuel w else .ok (status, w)

/-- The stack with `DataBuffer` at `buffer`, filled with zeros. -/
def TuningWorld.start (stack : Memory) (buffer : Nat) (s : MshcBus) : TuningWorld :=
  { s with
    dataBuffer := buffer
    memory := store stack buffer (List.replicate 128 0)
    received := 0
    resets := [] }

/-- The comparison with the pattern. -/
def TuningWorld.blockMatches (w : TuningWorld) (length : Nat) (width : BusWidth) : Bool :=
  load w.memory w.dataBuffer length == tuningBlockPattern width

/-- **`MshcSendTuningCommand`**, where the FIFO hands out `stream`. -/
def mshcSendTuningCommand (p : MshcSlot) (hw : Nat → HwAnswer) (stream : Nat → BitVec 8)
    (depth : Nat) (stack : Memory) (buffer : Nat) (s : MshcBus) : TuningResult :=
  let w := TuningWorld.start stack buffer s
  if hasTuningCommand s.busSpeed = false then .ok (.invalidParameter, w)
  else
    match mshcIssueRequestSynchronously p hw stream depth (.command .tuning) true w with
    | .error fault => .error fault
    | .ok (status, w) =>
      if status.ntSuccess = false then .ok (status, w)
      else
        match blockLoop (mshcIssueRequestSynchronously p hw stream depth .transfer true) (2 ^ 32) w
          with
        | .error fault => .error fault
        | .ok (status, w) =>
          if status.ntSuccess = false then .ok (status, w)
          else
            .ok (if w.blockMatches s.tuningLength s.busWidth then .success else .ioDeviceError, w)

/-! ## 2. What the command is to do

`Sound` asks two things: the command succeeds with a correct block, without a reset in the middle
of its transfer, and it succeeds with no other one.  The first is about hardware that answers every
request; the second is about all answers. -/

/-- Every request is answered, and no error is reported. -/
def Answered (hw : Nat → HwAnswer) : Prop := ∀ i, (hw i).wait = .completed ∅ false false

/-- The block that is received is the pattern. -/
def CorrectBlock (stream : Nat → BitVec 8) (s : MshcBus) : Prop :=
  streamBytes stream 0 s.tuningLength = tuningBlockPattern s.busWidth

/-- **The tuning command is sound**: with a correct block and no error it succeeds, and nothing is
reset while a part of the transfer is left; and it succeeds with no other block. -/
structure Sound (p : MshcSlot) (s : MshcBus) : Prop where
  succeeds : ∀ hw stream stack buffer, Answered hw → CorrectBlock stream s →
    ∃ enough, ∀ depth ≥ enough, ∃ w,
      mshcSendTuningCommand p hw stream depth stack buffer s = .ok (.success, w)
        ∧ ∀ reset ∈ w.resets, reset.2 = 0
  detects : ∀ hw stream stack buffer depth w, ¬ CorrectBlock stream s →
    mshcSendTuningCommand p hw stream depth stack buffer s ≠ .ok (.success, w)

/-- **The condition**: half the FIFO holds the block. -/
def BlockFits (p : MshcSlot) (s : MshcBus) : Prop := s.tuningLength / 4 ≤ p.fifoDepth / 2

instance (p : MshcSlot) (s : MshcBus) : Decidable (BlockFits p s) :=
  inferInstanceAs (Decidable (_ ≤ _))

/-! ## 3. The resets that were asked for

The recovery is that of the bus model; only the resets it asks for are noted, with the length that
was left of the transfer. -/

theorem noteReset_resets (resetType : ResetType) (w : TuningWorld) :
    w.resets ⊆ (w.noteReset resetType).resets := by
  unfold TuningWorld.noteReset
  split
  · exact List.subset_cons_self _ _
  · exact List.Subset.refl _

theorem resetHost_resets {p : MshcSlot} {hw : Nat → HwAnswer} {depth : Nat}
    {resetType : ResetType} {w w' : TuningWorld}
    (h : resetHost p hw depth resetType w = .ok w') :
    (w.noteReset resetType).resets ⊆ w'.resets := by
  unfold resetHost at h
  split at h
  · exact nomatch h
  · cases h
    exact List.Subset.refl _

theorem issueAndWait_resets (p : MshcSlot) (hw : Nat → HwAnswer) (stream : Nat → BitVec 8)
    (request : LocalRequest) (w : TuningWorld) :
    (issueAndWait p hw stream request w).2.resets = w.resets := by
  cases request <;> rfl

/-- A request forgets no reset. -/
theorem sync_resets {p : MshcSlot} {hw : Nat → HwAnswer} {stream : Nat → BitVec 8} {depth : Nat}
    {request : LocalRequest} {errorRecovery : Bool} {w w' : TuningWorld} {status : NtStatus}
    (h : mshcIssueRequestSynchronously p hw stream depth request errorRecovery w
      = .ok (status, w')) : w.resets ⊆ w'.resets := by
  unfold mshcIssueRequestSynchronously at h
  dsimp only at h
  split at h
  · split at h
    · exact nomatch h
    · rename_i w₁ hcmd
      have hfirst := List.Subset.trans (noteReset_resets .cmd _) (resetHost_resets hcmd)
      rw [issueAndWait_resets] at hfirst
      split at h
      · split at h
        · exact nomatch h
        · rename_i w₂ hdat
          cases h
          exact List.Subset.trans hfirst
            (List.Subset.trans (noteReset_resets .dat _) (resetHost_resets hdat))
      · cases h
        exact hfirst
  · have hended := congrArg (fun r => r.2.resets) (Except.ok.inj h)
    dsimp only at hended
    rw [← hended, issueAndWait_resets]
    exact List.Subset.refl _

/-- A request that fails asks for a reset at once. -/
theorem sync_logs {p : MshcSlot} {hw : Nat → HwAnswer} {stream : Nat → BitVec 8} {depth : Nat}
    {request : LocalRequest} {w w' : TuningWorld} {status : NtStatus}
    (hfailed : (issueAndWait p hw stream request w).1.ntSuccess = false)
    (hinitialized : (issueAndWait p hw stream request w).2.initialized = true)
    (h : mshcIssueRequestSynchronously p hw stream depth request true w = .ok (status, w')) :
    (ResetType.cmd, (issueAndWait p hw stream request w).2.currentTransferRemainingLength)
      ∈ w'.resets := by
  have hnoted : (ResetType.cmd,
      (issueAndWait p hw stream request w).2.currentTransferRemainingLength)
      ∈ ((issueAndWait p hw stream request w).2.noteReset .cmd).resets := by
    unfold TuningWorld.noteReset
    rw [if_pos hinitialized]
    exact List.mem_cons_self
  unfold mshcIssueRequestSynchronously at h
  dsimp only at h
  rw [if_pos (by rw [hfailed]; rfl)] at h
  split at h
  · exact nomatch h
  · rename_i w₁ hcmd
    have hfirst := resetHost_resets hcmd hnoted
    split at h
    · split at h
      · exact nomatch h
      · rename_i w₂ hdat
        cases h
        exact resetHost_resets hdat (noteReset_resets .dat _ hfirst)
    · cases h
      exact hfirst

/-- Nor does the loop. -/
theorem blockLoop_resets {issue : TuningWorld → TuningResult}
    (hissue : ∀ w status w', issue w = .ok (status, w') → w.resets ⊆ w'.resets) (fuel : Nat) :
    ∀ w status w', blockLoop issue fuel w = .ok (status, w') → w.resets ⊆ w'.resets := by
  induction fuel with
  | zero => exact fun _ _ _ h => nomatch h
  | succ fuel ih =>
    intro w status w' h
    rw [blockLoop] at h
    split at h
    · exact nomatch h
    · rename_i status₁ w₁ hfirst
      have hsub := hissue _ _ _ hfirst
      split at h
      · exact List.Subset.trans hsub (ih w₁ status w' h)
      · cases h
        exact hsub

/-! ## 4. The parts of the command

The data of a part go to the buffer, and neither a wait nor a reset touches the buffer.  So the
bytes at the pointer are what the FIFO has handed out since. -/

section Parts

variable (p : MshcSlot) (hw : Nat → HwAnswer) (stream : Nat → BitVec 8)

/-- A request that ends well is not followed by a recovery. -/
theorem sync_of_success (depth : Nat) (request : LocalRequest) (w : TuningWorld)
    (hsuccess : (issueAndWait p hw stream request w).1.ntSuccess = true) :
    mshcIssueRequestSynchronously p hw stream depth request true w
      = .ok (issueAndWait p hw stream request w) := by
  unfold mshcIssueRequestSynchronously
  dsimp only
  rw [if_neg (by simp [hsuccess])]

/-- The status of a request is that of its wait, whatever the recovery does. -/
theorem sync_status {depth : Nat} {request : LocalRequest} {w w' : TuningWorld}
    {status : NtStatus}
    (h : mshcIssueRequestSynchronously p hw stream depth request true w = .ok (status, w')) :
    status = (issueAndWait p hw stream request w).1 := by
  unfold mshcIssueRequestSynchronously at h
  dsimp only at h
  split at h
  · split at h
    · exact nomatch h
    · split at h
      · split at h
        · exact nomatch h
        · cases h
          rfl
      · cases h
        rfl
  · exact congrArg Prod.fst (Except.ok.inj h).symm

/-- What is asked of the slot when the transfer starts. -/
structure Starts (s : MshcBus) (buffer : Nat) (w : TuningWorld) : Prop where
  initialized : w.initialized = s.initialized
  dataBuffer : w.dataBuffer = buffer
  received : w.received = 0
  resets : w.resets = []
  fifoThreshold : w.fifoThreshold = min (s.tuningLength / 4) (p.fifoDepth / 2)
  remaining : w.currentTransferRemainingLength = BitVec.ofNat 32 s.tuningLength

/-- The command phase. -/
theorem starts_of_command (stack : Memory) (buffer : Nat) (s : MshcBus) :
    Starts p s buffer
      (issueAndWait p hw stream (.command .tuning) (TuningWorld.start stack buffer s)).2 := by
  obtain ⟨hkeeps, hthreshold, hremaining⟩ := runLocal_tuning p hw s
  exact ⟨congrArg BusSettings.initialized hkeeps.settings, rfl, rfl, rfl, hthreshold, hremaining⟩

/-- The whole block in one part. -/
theorem move_whole {s : MshcBus} {buffer : Nat} {w : TuningWorld} (h : Starts p s buffer w)
    (hfits : BlockFits p s) :
    (w.move stream .transfer).dataBuffer = buffer
      ∧ load (w.move stream .transfer).memory buffer s.tuningLength
        = streamBytes stream 0 s.tuningLength := by
  have hthreshold : w.transfer.subTransferLength = s.tuningLength := by
    obtain ⟨exponent, -, hlength⟩ := tuningLength_eq s
    unfold BlockFits at hfits
    have hcall : w.transfer.subTransferLength = w.fifoThreshold * 4 := rfl
    rw [hcall, h.fifoThreshold]
    omega
  have hafter : w.transfer.remainingAfter = 0 := by
    have hremaining : w.transfer.currentTransferRemainingLength
        = BitVec.ofNat 32 s.tuningLength := h.remaining
    unfold PioTransfer.remainingAfter
    rw [hthreshold, hremaining, BitVec.sub_self]
    rfl
  unfold TuningWorld.move
  dsimp only
  rw [startPio_eq]
  dsimp only
  refine ⟨?_, ?_⟩
  · rw [if_neg (by simp [hafter])]
    exact h.dataBuffer
  · have hmove : (w.transfer.movePort stream).memory
        = store w.memory buffer (streamBytes stream 0 s.tuningLength) := by
      have hread : w.transfer.movePort stream
          = mshcReadDataPort stream w.transfer.fifoThreshold w.transfer := if_pos rfl
      rw [hread, ← hthreshold, ← h.dataBuffer, ← h.received]
      rfl
    have hlength : (streamBytes stream 0 s.tuningLength).length = s.tuningLength := by
      simp [streamBytes]
    rw [hmove]
    have hload := load_store_self w.memory buffer (streamBytes stream 0 s.tuningLength)
    rwa [hlength] at hload

/-- The part of the block that is not the last one. -/
theorem transfer_more {s : MshcBus} {buffer : Nat} {w : TuningWorld} (h : Starts p s buffer w)
    (hfits : ¬ BlockFits p s) (hanswered : Answered hw) :
    (issueAndWait p hw stream .transfer w).1 = .moreProcessingRequired
      ∧ (issueAndWait p hw stream .transfer w).2.currentTransferRemainingLength ≠ 0 := by
  obtain ⟨-, -, hremaining, -⟩ := runLocal_transfer p hw w.toMshcBus
  have hne : w.currentTransferRemainingLength - BitVec.ofNat 32 (w.fifoThreshold * 4) ≠ 0 := by
    have hlength : s.tuningLength = 64 ∨ s.tuningLength = 128 := by
      unfold MshcBus.tuningLength
      split
      · exact Or.inr rfl
      · exact Or.inl rfl
    unfold BlockFits at hfits
    rw [h.remaining, h.fifoThreshold, Ne, ← BitVec.toNat_inj]
    rw [toNat_sub_ofNat (by rw [BitVec.toNat_ofNat]; omega), BitVec.toNat_ofNat]
    simp only [BitVec.ofNat_eq_ofNat, BitVec.toNat_zero]
    omega
  refine ⟨?_, hremaining ▸ hne⟩
  unfold issueAndWait runLocal issueTransfer waitLocal
  dsimp only
  rw [hanswered]
  dsimp only
  rw [if_pos hne]
  rfl

end Parts

/-! ## 5. The whole command

One part: issue, wait, compare.  More than one: the first is not the last, and that alone decides.
-/

section Whole

variable {p : MshcSlot} {s : MshcBus}

/-- The whole block is one part. -/
theorem Starts.whole {buffer : Nat} {w : TuningWorld} (h : Starts p s buffer w)
    (hfits : BlockFits p s) :
    w.currentTransferRemainingLength = BitVec.ofNat 32 (w.fifoThreshold * 4) := by
  obtain ⟨exponent, -, hlength⟩ := tuningLength_eq s
  unfold BlockFits at hfits
  rw [h.remaining, h.fifoThreshold]
  congr 1
  omega

/-- With a block that fits, the loop ends after its first part. -/
theorem blockLoop_fits (hw : Nat → HwAnswer) (stream : Nat → BitVec 8) (depth : Nat) {fuel : Nat}
    (hfuel : 0 < fuel) {buffer : Nat} {w : TuningWorld} (h : Starts p s buffer w)
    (hfits : BlockFits p s) :
    blockLoop (mshcIssueRequestSynchronously p hw stream depth .transfer true) fuel w
      = mshcIssueRequestSynchronously p hw stream depth .transfer true w := by
  obtain ⟨fuel, rfl⟩ := Nat.exists_eq_succ_of_ne_zero (Nat.ne_of_gt hfuel)
  have hlast := (runLocal_transfer p hw w.toMshcBus).2.2.2 (h.whole hfits)
  rw [blockLoop]
  cases hsync : mshcIssueRequestSynchronously p hw stream depth .transfer true w with
  | error fault => rfl
  | ok result =>
    obtain ⟨status, w'⟩ := result
    have hstatus := sync_status p hw stream hsync
    exact if_neg (by rw [hstatus]; exact hlast)

/-- The comparison finds the block that was received. -/
theorem blockMatches_iff (hw : Nat → HwAnswer) {stream : Nat → BitVec 8} {buffer : Nat}
    {w : TuningWorld} (h : Starts p s buffer w) (hfits : BlockFits p s) :
    (issueAndWait p hw stream .transfer w).2.blockMatches s.tuningLength s.busWidth = true
      ↔ CorrectBlock stream s := by
  obtain ⟨hmoved, hload⟩ := move_whole p stream h hfits
  have hloaded : load (issueAndWait p hw stream .transfer w).2.memory
      (issueAndWait p hw stream .transfer w).2.dataBuffer s.tuningLength
      = streamBytes stream 0 s.tuningLength := by
    rw [← hload, ← hmoved]
    rfl
  unfold TuningWorld.blockMatches CorrectBlock
  rw [hloaded, beq_iff_eq]

/-- **A block that fits**: a success is one of the correct block. -/
theorem success_of_fits (hfits : BlockFits p s) {hw : Nat → HwAnswer} {stream : Nat → BitVec 8}
    {depth : Nat} {stack : Memory} {buffer : Nat} {w : TuningWorld}
    (h : mshcSendTuningCommand p hw stream depth stack buffer s = .ok (.success, w)) :
    CorrectBlock stream s := by
  have hstart := starts_of_command p hw stream stack buffer s
  unfold mshcSendTuningCommand at h
  dsimp only at h
  split at h
  · exact nomatch h
  split at h
  · exact nomatch h
  rename_i status₁ w₁ hcommand
  split at h
  · rename_i hfailed
    cases h
    exact nomatch hfailed
  rename_i hsuccess₁
  have hrun₁ := sync_status p hw stream hcommand
  rw [sync_of_success p hw stream depth _ _ (by rw [← hrun₁]; simpa using hsuccess₁)] at hcommand
  obtain rfl := congrArg Prod.snd (Except.ok.inj hcommand)
  split at h
  · exact nomatch h
  rename_i status₂ w₂ htransfer
  rw [blockLoop_fits hw stream depth (Nat.two_pow_pos 32) hstart hfits] at htransfer
  split at h
  · rename_i hfailed
    cases h
    exact nomatch hfailed
  rename_i hsuccess₂
  have hrun₂ := sync_status p hw stream htransfer
  rw [sync_of_success p hw stream depth _ _ (by rw [← hrun₂]; simpa using hsuccess₂)] at htransfer
  obtain rfl := congrArg Prod.snd (Except.ok.inj htransfer)
  split at h
  · rename_i hmatches
    exact (blockMatches_iff hw hstart hfits).mp hmatches
  · exact nomatch h

/-- A request that is answered without an error ends well, but for a part that is not the last. -/
theorem issueAndWait_answered {hw : Nat → HwAnswer} (hanswered : Answered hw)
    (stream : Nat → BitVec 8) (w : TuningWorld) :
    (issueAndWait p hw stream (.command .tuning) w).1 = .success
      ∧ (w.currentTransferRemainingLength = BitVec.ofNat 32 (w.fifoThreshold * 4) →
        (issueAndWait p hw stream .transfer w).1 = .success) := by
  constructor
  · unfold issueAndWait runLocal waitLocal
    dsimp only
    rw [hanswered]
    rfl
  · intro hlast
    unfold issueAndWait runLocal issueTransfer waitLocal
    dsimp only
    rw [hanswered, hlast, BitVec.sub_self]
    rfl

/-- **A block that fits**, with every request answered: the command succeeds without a reset. -/
theorem succeeds_of_fits (hspeed : hasTuningCommand s.busSpeed = true) (hfits : BlockFits p s)
    {hw : Nat → HwAnswer} {stream : Nat → BitVec 8} (hanswered : Answered hw)
    (hcorrect : CorrectBlock stream s) (depth : Nat) (stack : Memory) (buffer : Nat) :
    ∃ w, mshcSendTuningCommand p hw stream depth stack buffer s = .ok (.success, w)
      ∧ w.resets = [] := by
  have hstart := starts_of_command p hw stream stack buffer s
  have hcommand := (issueAndWait_answered (p := p) hanswered stream
    (TuningWorld.start stack buffer s)).1
  have htransfer := (issueAndWait_answered (p := p) hanswered stream _).2 (hstart.whole hfits)
  unfold mshcSendTuningCommand
  dsimp only
  rw [if_neg (by rw [hspeed]; exact Bool.noConfusion),
    sync_of_success p hw stream depth _ _ (by rw [hcommand]; rfl)]
  dsimp only
  rw [if_neg (by rw [hcommand]; exact Bool.noConfusion),
    blockLoop_fits hw stream depth (Nat.two_pow_pos 32) hstart hfits,
    sync_of_success p hw stream depth _ _ (by rw [htransfer]; rfl)]
  dsimp only
  rw [if_neg (by rw [htransfer]; exact Bool.noConfusion),
    if_pos ((blockMatches_iff hw hstart hfits).mpr hcorrect)]
  refine ⟨_, rfl, ?_⟩
  rw [issueAndWait_resets, hstart.resets]

/-- **A block that does not fit**: the first part of it is followed by a reset. -/
theorem reset_of_not_fits (hspeed : hasTuningCommand s.busSpeed = true)
    (hinitialized : s.initialized = true) (hfits : ¬ BlockFits p s) {hw : Nat → HwAnswer}
    {stream : Nat → BitVec 8} (hanswered : Answered hw) {depth : Nat} {stack : Memory}
    {buffer : Nat} {w : TuningWorld}
    (h : mshcSendTuningCommand p hw stream depth stack buffer s = .ok (.success, w)) :
    ∃ reset ∈ w.resets, reset.2 ≠ 0 := by
  have hstart := starts_of_command p hw stream stack buffer s
  have hcommand := (issueAndWait_answered (p := p) hanswered stream
    (TuningWorld.start stack buffer s)).1
  obtain ⟨hmore, hleft⟩ := transfer_more p hw stream hstart hfits hanswered
  have hkeeps := (runLocal_transfer p hw (issueAndWait p hw stream (.command .tuning)
    (TuningWorld.start stack buffer s)).2.toMshcBus).1
  have hinit : (issueAndWait p hw stream .transfer (issueAndWait p hw stream (.command .tuning)
      (TuningWorld.start stack buffer s)).2).2.initialized = true :=
    (congrArg BusSettings.initialized hkeeps.settings).trans (hstart.initialized.trans hinitialized)
  unfold mshcSendTuningCommand at h
  dsimp only at h
  rw [if_neg (by rw [hspeed]; exact Bool.noConfusion),
    sync_of_success p hw stream depth _ _ (by rw [hcommand]; rfl)] at h
  dsimp only at h
  rw [if_neg (by rw [hcommand]; exact Bool.noConfusion)] at h
  obtain ⟨fuel, hfuel⟩ := Nat.exists_eq_succ_of_ne_zero (Nat.two_pow_pos 32).ne'
  rw [hfuel, blockLoop] at h
  cases hsync : mshcIssueRequestSynchronously p hw stream depth .transfer true
      (issueAndWait p hw stream (.command .tuning) (TuningWorld.start stack buffer s)).2 with
  | error fault =>
    rw [hsync] at h
    exact nomatch h
  | ok result =>
    obtain ⟨status, w₁⟩ := result
    have hlogged := sync_logs (by rw [hmore]; rfl) hinit hsync
    have hstatus := sync_status p hw stream hsync
    rw [hsync] at h
    dsimp only at h
    rw [if_pos (hstatus.trans hmore)] at h
    split at h
    · exact nomatch h
    · rename_i hloop
      have hsub := blockLoop_resets (fun _ _ _ => sync_resets) fuel _ _ _ hloop
      split at h
      · obtain rfl := congrArg Prod.snd (Except.ok.inj h)
        exact ⟨_, hsub hlogged, hleft⟩
      · obtain rfl := congrArg Prod.snd (Except.ok.inj h)
        exact ⟨_, hsub hlogged, hleft⟩

end Whole

theorem length_tuningBlockPattern (s : MshcBus) :
    (tuningBlockPattern s.busWidth).length = s.tuningLength := by
  unfold tuningBlockPattern MshcBus.tuningLength
  split <;> rfl

/-- The FIFO hands out the pattern. -/
theorem correctBlock_pattern (s : MshcBus) :
    CorrectBlock (fun i => (tuningBlockPattern s.busWidth).getD i 0) s := by
  unfold CorrectBlock streamBytes
  refine List.ext_getElem ?_ fun i hi hi' => ?_
  · simp [length_tuningBlockPattern]
  · simp [List.getD_eq_getElem?_getD, List.getElem?_eq_getElem hi']

/-- **The tuning command is sound exactly where half the FIFO holds its block.** A block in one
part is moved by one call and compared; the first part of a longer one ends with a status that is
taken for an error, so the reset that follows comes in the middle of the transfer. -/
theorem mshcSendTuningCommand_iff (p : MshcSlot) (s : MshcBus)
    (hspeed : hasTuningCommand s.busSpeed = true) (hinitialized : s.initialized = true) :
    Sound p s ↔ BlockFits p s := by
  constructor
  · intro h
    by_contra hfits
    have hanswered : Answered fun _ => ⟨true, true, 0, .completed ∅ false false, true⟩ :=
      fun _ => rfl
    obtain ⟨enough, hsuccess⟩ := h.succeeds _ _ (fun _ => 0) 0 hanswered (correctBlock_pattern s)
    obtain ⟨w, hw, hquiet⟩ := hsuccess enough (Nat.le_refl _)
    obtain ⟨reset, hmem, hleft⟩ := reset_of_not_fits hspeed hinitialized hfits hanswered hw
    exact hleft (hquiet reset hmem)
  · intro hfits
    refine ⟨fun hw stream stack buffer hanswered hcorrect => ⟨0, fun depth _ => ?_⟩,
      fun hw stream stack buffer depth w hwrong h => hwrong (success_of_fits hfits h)⟩
    obtain ⟨w, hw, hresets⟩ := succeeds_of_fits hspeed hfits hanswered hcorrect depth stack buffer
    exact ⟨w, hw, by simp [hresets]⟩

theorem mshcSendTuningCommand_iff_of_256 :
    Sound ⟨⟨0, 0, false, some 0⟩, true, 256⟩ tunedBus
      ↔ BlockFits ⟨⟨0, 0, false, some 0⟩, true, 256⟩ tunedBus :=
  mshcSendTuningCommand_iff _ tunedBus (by decide) (by decide)

/-- A FIFO of 16 words: its half has 8 of the 16 words of a tuning block. -/
theorem smallFifo_incorrect : ¬ Sound ⟨⟨0, 0, false, some 0⟩, true, 16⟩ tunedBus := by
  intro h
  have hanswered : Answered fun _ => ⟨true, true, 0, .completed ∅ false false, true⟩ :=
    fun _ => rfl
  obtain ⟨enough, hsuccess⟩ := h.succeeds _ _ (fun _ => 0) 0 hanswered (correctBlock_pattern _)
  obtain ⟨w, hw, hquiet⟩ := hsuccess enough (Nat.le_refl _)
  obtain ⟨reset, hmem, hleft⟩ :=
    reset_of_not_fits (by decide) (by decide) (by decide) hanswered hw
  exact hleft (hquiet reset hmem)

end WoaRk3576.Sd.Tuning
