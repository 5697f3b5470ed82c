/-
# What csaudiork3x submits, and what pl330dma makes of it

`AllocateAudioBuffer` takes a size from user mode and rounds it down to the block alignment;
`rk3x_program_dma` submits the buffer in two periods, each half of it; `SubmitAudioDMA` encodes
them.  None of the three compares a size with what the next one can do:

* half of an aligned buffer need not be a whole number of beats, nor a burst;
* the bursts of a period are unrolled 256 to a copy, five bytes each, and the jump back over all of
  them has 8 bits.

`submit_safe_iff` says which sizes are encoded, all others being submitted just the same.

Nothing is ever refused, as the first instruction is written for any arguments (`not_refused`), so
the question is when the encoding is right.  A buffer whose half has two bytes or more is two
periods (`len_div_half`), a counted loop over one body: the unrolled bursts, then a remainder loop
and the dregs, each there or not.  The longest jump is the one for ever, back over all of this.
Put in bytes of the period (`periodCyc_eq`, `periodRemainder_ne_iff`) its distance is the sum in
`AudioEncodable`, and 231 is what the other instructions leave of 255 (`jumpsFit_code_iff'`).  A
program whose jumps fit is short, so it is inside the slice of its channel too (`submit_inside`).
-/
import WoaRk3576.Audio.Stream
import WoaRk3576.Dma.Microcode

namespace WoaRk3576.Audio

open WoaRk3576.Dma

/-! ## 1. Encodable buffers

What is asked of a submit is either of two things: the program is the one that was meant, encoded
in its own slice of the microcode memory, or an error is returned and nothing written.  The second
never happens, since the first instruction is written in any case; so the condition, which is on
the length of the buffer alone, is one for the first. -/

/-- The microcode buffer after `SubmitAudioDMA`, and whether the status is success. -/
def submit (mCodeCpu : Nat → BitVec 8) (id : BitVec 8) (args : AudioSubmit) (started : Bool) :
    (Nat → BitVec 8) × Bool :=
  submitMicrocode mCodeCpu id args.fromDevice args.srcAddr args.dstAddr args.len args.periodLen
    started

/-- The program for these arguments. -/
def AudioSubmit.code (id : BitVec 8) (args : AudioSubmit) : List Insn :=
  submitCode id args.fromDevice args.srcAddr args.dstAddr args.len args.periodLen

/-- **The buffer is encoded as it is meant to be.** -/
structure Encodable (id : BitVec 8) (args : AudioSubmit) (started : Bool) : Prop where
  /-- A period is a whole number of beats ... -/
  beats : brstSize (submitCcr args.fromDevice) ∣ args.periodLen
  /-- ... and at least one burst. -/
  burst : brstSize (submitCcr args.fromDevice) * brstLen (submitCcr args.fromDevice)
    ≤ args.periodLen
  /-- The divisors of `SubmitAudioDMA`, of `BYTE_TO_BURST` and of the split of the periods. -/
  divisors : args.periodLen ≠ 0 ∧ brstSize (submitCcr args.fromDevice) ≠ 0
    ∧ brstLen (submitCcr args.fromDevice) ≠ 0
    ∧ (splitPeriods (args.len / args.periodLen)).1 ≠ 0
  /-- Only the slice of the thread is written. -/
  inside : ∀ mem i, i < mcCpu id ∨ mcCpu id + mcBufSz ≤ i →
    (submit mem id args started).1 i = mem i
  jumps : JumpsFit (args.code id)

/-- **The submit is refused**: an error, and nothing is written. -/
def Refused (id : BitVec 8) (args : AudioSubmit) (started : Bool) : Prop :=
  ∀ mem, submit mem id args started = (mem, false)

/-- A buffer is encoded, or refused. -/
def SubmitSafe (id : BitVec 8) (args : AudioSubmit) (started : Bool) : Prop :=
  Encodable id args started ∨ Refused id args started

/-- **The condition**: half of the buffer is a whole number of beats of 4 bytes and at least a
burst of 32; and the unrolled bursts (256 of them are 8192 bytes), the remainder and the dregs
leave room in the jump. -/
def AudioEncodable (len : Nat) : Prop :=
  len / 2 % 4 = 0 ∧ 32 ≤ len / 2
    ∧ 5 * max 1 (len / 2 / 8192)
        + (if 8192 < len / 2 / 32 * 32 ∧ 32 ≤ len / 2 % 8192 then 11 else 0)
        + (if len / 2 % 32 ≠ 0 then 19 else 0) ≤ 231

instance (len : Nat) : Decidable (AudioEncodable len) :=
  inferInstanceAs (Decidable (_ ∧ _ ∧ _))

theorem submit_fst (mem : Nat → BitVec 8) (id : BitVec 8) (args : AudioSubmit) (started : Bool) :
    (submit mem id args started).1 = writeBytes mem (mcCpu id) (encode (args.code id)) := by
  rw [submit, submitMicrocode, AudioSubmit.code]

@[simp] theorem brstSize_submitCcr (fromDevice : Bool) : brstSize (submitCcr fromDevice) = 4 := by
  cases fromDevice <;> rfl

@[simp] theorem brstLen_submitCcr (fromDevice : Bool) : brstLen (submitCcr fromDevice) = 8 := by
  cases fromDevice <;> rfl

/-! ## 2. Two periods

The stream submits its buffer as two halves, and the size of the program depends on how many bursts
of a half are unrolled.  The jump at the end goes back over both, and has eight bits for it; the
arithmetic below brings the condition on this field into bytes of the buffer. -/

section Submit

variable {id : BitVec 8} {hw : CsAudioHw} {recording started : Bool} {buffer : BitVec 32}
  {len : Nat}

@[simp] theorem submitArgs_len : (hw.submitArgs recording buffer len).len = len := rfl

@[simp] theorem submitArgs_periodLen :
    (hw.submitArgs recording buffer len).periodLen = len / 2 := rfl

@[simp] theorem submitArgs_fromDevice :
    (hw.submitArgs recording buffer len).fromDevice = recording := rfl

/-- What `rk3x_program_dma` submits is the buffer it was asked to. -/
theorem rk3xProgramDma_submits {deviceType : DeviceType} {answers : DmaAnswers}
    {byteCount handle : Nat} {args : AudioSubmit}
    (hcall : .submitAudioDMA handle args started
      ∈ (rk3xProgramDma hw deviceType answers byteCount).2.2) :
    args = hw.submitArgs (deviceType == .input) answers.pageAddress byteCount := by
  cases hget : hw.rkGetStream deviceType with
  | none =>
    unfold rk3xProgramDma at hcall
    rw [hget] at hcall
    exact absurd hcall List.not_mem_nil
  | some s =>
    by_cases hheld : s.dmaThread = none
    · by_cases hpages : answers.pageCount < 1
      · unfold rk3xProgramDma at hcall
        rw [hget] at hcall
        dsimp only at hcall
        rw [if_neg (by simp [hheld]), if_pos hpages] at hcall
        exact absurd hcall List.not_mem_nil
      · cases hchannel : answers.channel with
        | none =>
          unfold rk3xProgramDma at hcall
          rw [hget] at hcall
          dsimp only at hcall
          rw [if_neg (by simp [hheld]), if_neg hpages, hchannel] at hcall
          simp at hcall
        | some dmaThread =>
          rw [rk3xProgramDma_takes hget hheld byteCount hpages hchannel] at hcall
          simp only [List.mem_cons, reduceCtorEq, DmaCall.submitAudioDMA.injEq,
            List.not_mem_nil, or_false, false_or] at hcall
          exact hcall.2.1
    · rw [rk3xProgramDma_held hget (Option.isSome_iff_ne_none.mpr hheld)] at hcall
      exact absurd hcall List.not_mem_nil

/-- Nothing is ever refused: the first instruction is always written. -/
theorem not_refused (args : AudioSubmit) : ¬ Refused id args started := by
  intro h
  obtain ⟨bs, hbs⟩ : ∃ bs, encode (args.code id) = 0xbc :: bs := ⟨_, rfl⟩
  have hmem := congrArg Prod.fst (h fun _ => 0)
  rw [submit_fst, hbs] at hmem
  replace hmem := congrFun hmem (mcCpu id)
  rw [writeBytes_self] at hmem
  exact absurd hmem (by simp)

/-- A buffer of two bytes or more, in whole bursts, is two periods. -/
theorem len_div_half (h : 2 ≤ len / 2) : len / (len / 2) = 2 := by
  refine Nat.div_eq_of_lt_le ?_ ?_
  · omega
  · omega

theorem numPeriods_submitSpec_le (srcAddr dstAddr : BitVec 32) (hhalf : 2 ≤ len / 2) :
    (submitSpec id recording srcAddr dstAddr len (len / 2)).numPeriods ≤ 256 := by
  have htwo : (submitSpec id recording srcAddr dstAddr len (len / 2)).numPeriods = 2 :=
    len_div_half hhalf
  omega

/-- **The jump for ever**, over a program of two periods. -/
theorem jumpsFit_code_iff (hhalf : 2 ≤ len / 2) :
    JumpsFit ((hw.submitArgs recording buffer len).code id)
      ↔ 16 + (8 + 5 * periodCyc (len / 2 / 4 / 8)
          + (if periodRemainder (len / 2 / 4 / 8) ≠ 0 then 11 else 0)
          + (if len / 2 / 4 % 8 ≠ 0 then 19 else 0)) ≤ 255 := by
  unfold AudioSubmit.code submitCode
  rw [jumpsFit_cons]
  simp only [Insn.JumpFits, true_and, submitArgs_len, submitArgs_periodLen, submitArgs_fromDevice]
  rw [jumpsFit_loopCyclic rfl (numPeriods_submitSpec_le _ _ hhalf), codeSize_emitPeriod rfl]
  simp only [submitSpec, byteToBurst, byteModBurstLen, brstSize_submitCcr, brstLen_submitCcr]

/-- Unrolled copies, in bytes of the period. -/
theorem periodCyc_eq (p : Nat) : 5 * periodCyc (p / 4 / 8) = 5 * max 1 (p / 8192) := by
  unfold periodCyc
  split
  · omega
  · omega

/-- The remainder, in bytes of the period. -/
theorem periodRemainder_ne_iff (p : Nat) :
    periodRemainder (p / 4 / 8) ≠ 0 ↔ 8192 < p / 32 * 32 ∧ 32 ≤ p % 8192 := by
  unfold periodRemainder periodCount periodCyc
  split
  · omega
  · omega

/-- What the jump needs is what the condition says. -/
theorem jumpsFit_code_iff' (hhalf : 2 ≤ len / 2) (hbeats : len / 2 % 4 = 0) :
    JumpsFit ((hw.submitArgs recording buffer len).code id)
      ↔ 5 * max 1 (len / 2 / 8192)
        + (if 8192 < len / 2 / 32 * 32 ∧ 32 ≤ len / 2 % 8192 then 11 else 0)
        + (if len / 2 % 32 ≠ 0 then 19 else 0) ≤ 231 := by
  have hdregs : len / 2 / 4 % 8 ≠ 0 ↔ len / 2 % 32 ≠ 0 := by omega
  rw [jumpsFit_code_iff hhalf, periodCyc_eq]
  simp only [periodRemainder_ne_iff, hdregs]
  omega

/-- **A program whose jumps fit is inside its slice.** -/
theorem submit_inside (hhalf : 2 ≤ len / 2)
    (hjumps : JumpsFit ((hw.submitArgs recording buffer len).code id)) (mem : Nat → BitVec 8)
    (i : Nat) (hi : i < mcCpu id ∨ mcCpu id + mcBufSz ≤ i) :
    (submit mem id (hw.submitArgs recording buffer len) started).1 i = mem i := by
  have hsize : codeSize ((hw.submitArgs recording buffer len).code id) ≤ 263 := by
    have hle := (jumpsFit_code_iff hhalf).mp hjumps
    unfold AudioSubmit.code submitCode
    simp only [codeSize_cons, Insn.size, submitArgs_len, submitArgs_periodLen,
      submitArgs_fromDevice]
    rw [codeSize_loopCyclic (numPeriods_submitSpec_le _ _ hhalf), codeSize_emitPeriod rfl]
    simp only [submitSpec, byteToBurst, byteModBurstLen, brstSize_submitCcr, brstLen_submitCcr]
    omega
  have hslice : mcBufSz = 512 := rfl
  have hlength : (encode ((hw.submitArgs recording buffer len).code id)).length ≤ mcBufSz := by
    rw [length_encode]
    omega
  rw [submit_fst]
  exact writeBytes_of_outside _ _ _ (by omega)

end Submit

/-- **Which buffers can be submitted**: whatever size `m_ulDmaBufferSize` has when
`rk3x_program_dma` submits it, in both directions.  A submit is never refused, so it has to be
encodable, and what limits it is that half of it is whole bursts and that the jump over both halves
fits into eight bits. -/
theorem submit_safe_iff (hw : CsAudioHw) (deviceType : DeviceType) (answers : DmaAnswers)
    (byteCount handle : Nat) (args : AudioSubmit) (started : Bool) (id : BitVec 8)
    (hcall : .submitAudioDMA handle args started
      ∈ (rk3xProgramDma hw deviceType answers byteCount).2.2) :
    SubmitSafe id args started ↔ AudioEncodable byteCount := by
  obtain rfl := rk3xProgramDma_submits hcall
  constructor
  · rintro (h | h)
    · have hbeats := h.beats
      have hburst := h.burst
      simp only [brstSize_submitCcr, brstLen_submitCcr, submitArgs_periodLen] at hbeats hburst
      have hmod := Nat.mod_eq_zero_of_dvd hbeats
      exact ⟨hmod, hburst, (jumpsFit_code_iff' (by omega) hmod).mp h.jumps⟩
    · exact absurd h (not_refused _)
  · rintro ⟨hbeats, hburst, hroom⟩
    have hjumps : JumpsFit ((hw.submitArgs (deviceType == .input) answers.pageAddress
        byteCount).code id) := (jumpsFit_code_iff' (by omega) hbeats).mpr hroom
    refine .inl ⟨?_, ?_, ⟨?_, ?_, ?_, ?_⟩, submit_inside (by omega) hjumps, hjumps⟩
    · simpa using Nat.dvd_of_mod_eq_zero hbeats
    · simpa using hburst
    · simp only [submitArgs_periodLen]
      omega
    · simp
    · simp
    · simp only [submitArgs_len, submitArgs_periodLen]
      rw [len_div_half (by omega), splitPeriods_of_le (by omega)]
      simp

/-- A page, played. -/
theorem submit_safe_page : SubmitSafe 7
    (renderWorld.hw.submitArgs false 0x10000000 4096) true :=
  (submit_safe_iff renderWorld.hw .output (renderAnswers true) 4096 7 _ true 7
    (List.mem_cons_of_mem _ List.mem_cons_self)).mpr (by decide)

/-- **A megabyte**: `AllocateAudioBuffer` gives it, and each of its two periods unrolls 64
bursts.  The jump for ever goes back 344 bytes, and is written as 88. -/
theorem megabyte_not_encodable : bufferSize 4 0x100000 = some 0x100000
    ∧ ¬ SubmitSafe 7 (renderWorld.hw.submitArgs false 0x10000000 0x100000) true := by
  refine ⟨by decide, ?_⟩
  rintro (h | h)
  · have hjumps := (jumpsFit_code_iff' (by decide) (by decide)).mp h.jumps
    exact absurd hjumps (by decide)
  · exact absurd h (not_refused _)

end WoaRk3576.Audio
