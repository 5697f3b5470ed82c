/-
# The position of a wave stream: `GetPosition`

`GetPosition` hands `rk3x_current_position` a variable that it did not set, and does not look at
the status; `rk3x_current_position` leaves the variable as it was where the stream is not active,
and succeeds.  While it is active the position is the address of the DMA channel, less the
buffer's.

`position_reported_iff` says in which states and for which addresses both offsets are positions of
the buffer.  A value that was never set is a parameter of `getPosition`, so that not depending on
it can be said (`PositionReported.determined`).

* An active stream holds a channel (`ActiveHolds`), which every call keeps, so an active stream is
  always answered from the channel (`getPosition_active`).
* One that is not active is answered with the variable (`getPosition_inactive`), and two values of
  it give two positions.
* The write offset is the play offset and one more (`FIFO_SIZE`), without the end of the buffer
  being looked at.  So the last byte is no position that can be reported, nor is what lies behind
  it, where the address of the channel is between two passes over the buffer.
-/
import WoaRk3576.Audio.Stream

namespace WoaRk3576.Audio

open WoaRk3576.Lib

/-! ## 1. The function

The local variable of `GetPosition` is set on one path of `rk3x_current_position` only, and used on
all.  What the variable held before is an argument of the model, so a position that depends on it
can be told from one that does not. -/

/-- `KSAUDIO_POSITION`. -/
@[ext]
structure KsAudioPosition where
  playOffset : BitVec 64
  writeOffset : BitVec 64
  deriving DecidableEq, Repr

/-- `FIFO_SIZE`. -/
def fifoSize : BitVec 64 := 1

/-- **`GetPosition`**; `linearPos` is what the local variable holds before it is set. -/
def AudioWorld.getPosition (w : AudioWorld) (answers : DmaAnswers) (linearPos : BitVec 64) :
    KsAudioPosition :=
  let position := (rk3xCurrentPosition w.hw w.deviceType answers).2
  let linearPos := (position.map (·.setWidth 64)).getD linearPos
  { playOffset := linearPos
    writeOffset := linearPos + fifoSize }

/-- How far the DMA channel is in the buffer. -/
def RkStream.offset (s : RkStream) (answers : DmaAnswers) : Nat :=
  ((if s.recording then answers.dstAddr else answers.sourceAddr) - s.bufferBaseAddress).toNat

/-- **A position is reported**: it does not depend on what the variable held, and both offsets lie
in the buffer. -/
structure PositionReported (w : AudioWorld) (answers : DmaAnswers) : Prop where
  determined : ∀ g g', w.getPosition answers g = w.getPosition answers g'
  inBuffer : ∀ s ∈ w.rk, ∀ g, (w.getPosition answers g).playOffset.toNat < s.bufferBytes
    ∧ (w.getPosition answers g).writeOffset.toNat < s.bufferBytes

/-! ## 2. An active stream holds a channel

If a stream is active its channel has been allocated, so the DMA driver is asked about a channel
that is there.  It is an invariant of the calls of the port driver: the stream becomes active
behind the allocation, and inactive before the channel is freed. -/

/-- An active stream holds a DMA channel. -/
def ActiveHolds (hw : CsAudioHw) (deviceType : DeviceType) : Prop :=
  ∀ s ∈ hw.rkGetStream deviceType, s.isActive = true → s.dmaThread ≠ none

section Holds

variable {hw : CsAudioHw} {deviceType : DeviceType} {s : RkStream}

theorem ActiveHolds.of_rk (hget : hw.rkGetStream deviceType = some s)
    (h : s.isActive = true → s.dmaThread ≠ none) : ActiveHolds hw deviceType := by
  intro t ht
  rw [hget] at ht
  rwa [← Option.mem_some_iff.mp ht]

theorem ActiveHolds.programDma (h : ActiveHolds hw deviceType) (answers : DmaAnswers)
    (byteCount : Nat) : ActiveHolds (rk3xProgramDma hw deviceType answers byteCount).2.1 deviceType := by
  cases hget : hw.rkGetStream deviceType with
  | none =>
    unfold rk3xProgramDma
    rw [hget]
    exact h
  | some s =>
    by_cases hheld : s.dmaThread = none
    · have hactive : s.isActive ≠ true := fun hactive => h s hget hactive hheld
      by_cases hnone : answers.pageCount < 1 ∨ answers.channel = none
      · obtain ⟨-, t, ht, -, hsame⟩ := rk3xProgramDma_none hget hheld byteCount hnone
        exact .of_rk ht fun hact => absurd (hsame ▸ hact) hactive
      · obtain ⟨hpages, hchannel⟩ := not_or.mp hnone
        obtain ⟨handle, hhandle⟩ := Option.ne_none_iff_exists'.mp hchannel
        rw [rk3xProgramDma_takes hget hheld byteCount hpages hhandle]
        exact .of_rk (CsAudioHw.rkGetStream_setStream hget) fun hact => absurd hact hactive
    · rw [rk3xProgramDma_held hget (Option.isSome_iff_ne_none.mpr hheld)]
      exact h

theorem ActiveHolds.play (h : ActiveHolds hw deviceType) :
    ActiveHolds (rk3xPlay hw deviceType).2 deviceType := by
  cases hget : hw.rkGetStream deviceType with
  | none =>
    unfold rk3xPlay
    rw [hget]
    exact h
  | some s =>
    by_cases hheld : s.dmaThread = none
    · unfold rk3xPlay
      rw [hget]
      dsimp only
      rw [if_pos (by simp [hheld])]
      exact h
    · cases hactive : s.isActive with
      | true =>
        rw [rk3xPlay_active hget hheld hactive]
        exact h
      | false => exact .of_rk (rk3xPlay_starts hget hheld hactive).1 fun _ => hheld

theorem ActiveHolds.stop (h : ActiveHolds hw deviceType) (answers : DmaAnswers) :
    ActiveHolds (rk3xStop hw deviceType answers).2.1 deviceType := by
  cases hget : hw.rkGetStream deviceType with
  | none =>
    unfold rk3xStop
    rw [hget]
    exact h
  | some s =>
    cases hactive : s.isActive with
    | false =>
      rw [rk3xStop_inactive hget hactive]
      exact h
    | true =>
      obtain ⟨t, ht, -, hidle⟩ := rk3xStop_active hget hactive (h s hget hactive) answers
      refine .of_rk ht fun hact => ?_
      rw [hidle] at hact
      exact nomatch hact

end Holds

section Step

variable {w w' : AudioWorld}

/-- **Every call keeps it.** -/
theorem ActiveHolds.step (h : ActiveHolds w.hw w.deviceType) {a : AudioAction}
    (hstep : audioStep w a = some w') : ActiveHolds w'.hw w'.deviceType := by
  obtain ⟨state, answers, -, -, rfl⟩ | ⟨_, _, -, -, rfl⟩ | ⟨_, -, rfl⟩ := audioStep_cases hstep
  · cases state with
    | acquire => exact h
    | stop => exact h.stop answers
    | pause => exact h.stop answers
    | run =>
      by_cases hstatus : (rk3xProgramDma w.hw w.deviceType answers w.stream.dmaBufferSize).1
          = .success
      · rw [setState_run_success hstatus]
        exact (h.programDma answers w.stream.dmaBufferSize).play
      · rw [setState_run_failed hstatus]
        exact h.programDma answers w.stream.dmaBufferSize
  · exact h
  · exact h

theorem activeHolds_of_reach (h : Reach AudioWorld.Started audioStep w) :
    ActiveHolds w.hw w.deviceType := by
  refine Reach.invariant (I := fun w => ActiveHolds w.hw w.deviceType) ?_ ?_ h
  · intro w hstarted s hs hactive
    rw [(hstarted.1 s hs).2] at hactive
    exact nomatch hactive
  · exact fun w a w' hw hstep => hw.step hstep

end Step

/-! ## 3. When a position is reported

There are two ways of missing a position: without an active stream the variable stays as it was,
and with the channel at the last byte or behind it the write offset is no longer in the buffer.
Otherwise both offsets lie inside. -/

section Reported

variable {w : AudioWorld} {s : RkStream} {answers : DmaAnswers}

variable (answers) in
/-- **The position of an active stream** is the offset of its DMA channel. -/
theorem getPosition_active (hrk : w.rk = some s) (hactive : s.isActive = true)
    (hheld : s.dmaThread ≠ none) (g : BitVec 64) :
    (w.getPosition answers g).playOffset.toNat = s.offset answers
      ∧ (w.getPosition answers g).writeOffset.toNat = s.offset answers + 1 := by
  have hposition : (rk3xCurrentPosition w.hw w.deviceType answers).2
      = some ((if s.recording then answers.dstAddr else answers.sourceAddr)
        - s.bufferBaseAddress) := by
    have hget : w.hw.rkGetStream w.deviceType = some s := hrk
    unfold rk3xCurrentPosition
    rw [hget]
    dsimp only
    rw [if_neg (by simp [hactive]), if_neg (by simpa using hheld)]
    cases s.recording with
    | true => rfl
    | false => rfl
  unfold AudioWorld.getPosition RkStream.offset
  rw [hposition]
  generalize (if s.recording then answers.dstAddr else answers.sourceAddr)
    - s.bufferBaseAddress = offset
  have hlt := offset.isLt
  have hplay : (offset.setWidth 64).toNat = offset.toNat := by
    rw [BitVec.toNat_setWidth]
    exact Nat.mod_eq_of_lt (by omega)
  refine ⟨hplay, ?_⟩
  have hfifo : fifoSize.toNat = 1 := rfl
  have hsum := BitVec.toNat_add (offset.setWidth 64) fifoSize
  rw [hplay, hfifo, Nat.mod_eq_of_lt (by omega)] at hsum
  exact hsum

/-- **The position of a stream that is not active** is what the variable held. -/
theorem getPosition_inactive (h : ∀ s ∈ w.rk, s.isActive = false) (g : BitVec 64) :
    (w.getPosition answers g).playOffset = g := by
  have hposition : (rk3xCurrentPosition w.hw w.deviceType answers).2 = none := by
    unfold rk3xCurrentPosition
    cases hget : w.hw.rkGetStream w.deviceType with
    | none => rfl
    | some s =>
      dsimp only
      rw [if_pos (by rw [h s hget]; rfl)]
  unfold AudioWorld.getPosition
  rw [hposition]
  rfl

/-- **A position is reported exactly if the stream is active and its channel is not at the last
byte of the buffer, or behind it.** An active stream holds a channel, so the answer is the
channel's and depends on nothing else; the write offset is one more, and has to be in the buffer
too. -/
theorem position_reported_iff (h : Reach AudioWorld.Started audioStep w) (answers : DmaAnswers) :
    PositionReported w answers
      ↔ ∃ s ∈ w.rk, s.isActive = true ∧ s.offset answers + 1 < s.bufferBytes := by
  have hholds := activeHolds_of_reach h
  constructor
  · intro hreported
    by_cases hnone : ∀ s ∈ w.rk, s.isActive = false
    · have hplay := congrArg KsAudioPosition.playOffset (hreported.determined 0 1)
      rw [getPosition_inactive hnone, getPosition_inactive hnone] at hplay
      exact absurd hplay (by decide)
    · obtain ⟨s, hs, hactive⟩ : ∃ s ∈ w.rk, s.isActive = true := by
        simpa using hnone
      have hin := (hreported.inBuffer s hs 0).2
      rw [(getPosition_active answers hs hactive (hholds s hs hactive) 0).2] at hin
      exact ⟨s, hs, hactive, hin⟩
  · rintro ⟨s, hs, hactive, hlt⟩
    have hposition := getPosition_active answers hs hactive (hholds s hs hactive)
    constructor
    · intro g g'
      have hplay := (hposition g).1.trans (hposition g').1.symm
      have hwrite := (hposition g).2.trans (hposition g').2.symm
      exact KsAudioPosition.ext (BitVec.eq_of_toNat_eq hplay) (BitVec.eq_of_toNat_eq hwrite)
    · intro t ht g
      rw [hs] at ht
      rw [← Option.mem_some_iff.mp ht, (hposition g).1, (hposition g).2]
      omega

end Reported

/-- The DMA channel at the end of the buffer, or `n` bytes before it. -/
def answersBeforeEnd (n : BitVec 32) : DmaAnswers :=
  { renderAnswers true with sourceAddr := 0x10000000 + 4096 - n }

/-- A running stream, in the middle of its buffer. -/
theorem position_reported_iff_of_run : ∃ w, Reach AudioWorld.Started audioStep w
    ∧ w.stream.ksState = .run
    ∧ (PositionReported w (answersBeforeEnd 2048)
      ↔ ∃ s ∈ w.rk, s.isActive = true ∧ s.offset (answersBeforeEnd 2048) + 1 < s.bufferBytes) := by
  obtain ⟨w, hw, hends⟩ := exists_reach_of_run audioStep renderWorld_started
    [.allocate 4096 (some 0x10000000), .setState .run (renderAnswers true)]
    (fun w => w.stream.ksState == .run) (by decide +kernel)
  exact ⟨w, hw, beq_iff_eq.mp hends, position_reported_iff hw _⟩

/-- **A stopped stream reports what the variable held**, and a running one, between two passes, the
end of the buffer. -/
theorem position_not_reported :
    (∃ w, Reach AudioWorld.Started audioStep w ∧ w.stream.ksState = .stop
      ∧ ¬ PositionReported w (answersBeforeEnd 0))
    ∧ ∃ w, Reach AudioWorld.Started audioStep w ∧ w.stream.ksState = .run
      ∧ ¬ PositionReported w (answersBeforeEnd 0) := by
  constructor
  · refine ⟨renderWorld, .start renderWorld_started, rfl, fun hreported => ?_⟩
    have hidle : ∀ s ∈ renderWorld.rk, s.isActive = false :=
      fun s hs => (renderWorld_started.1 s hs).2
    have hplay := congrArg KsAudioPosition.playOffset (hreported.determined 0 1)
    rw [getPosition_inactive hidle, getPosition_inactive hidle] at hplay
    exact absurd hplay (by decide)
  · obtain ⟨w, hw, hends⟩ := exists_reach_of_run audioStep renderWorld_started
      [.allocate 4096 (some 0x10000000), .setState .run (renderAnswers true)]
      (fun w => w.stream.ksState == .run && w.rk.any fun s : RkStream => s.isActive
        && decide (s.bufferBytes ≤ s.offset (answersBeforeEnd 0))) (by decide +kernel)
    rw [Bool.and_eq_true, beq_iff_eq] at hends
    obtain ⟨s, hs, hend⟩ := Option.any_eq_true _ _ |>.mp hends.2
    rw [Bool.and_eq_true, decide_eq_true_eq] at hend
    refine ⟨w, hw, hends.1, fun hreported => ?_⟩
    have hin := (hreported.inBuffer s hs 0).1
    rw [(getPosition_active _ hs hend.1 (activeHolds_of_reach hw s hs hend.1) 0).1] at hin
    omega

end WoaRk3576.Audio
