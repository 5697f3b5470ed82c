/-
# csaudiork3x: from the intersection of data ranges to the stream

A client that has only a range of formats asks the wave miniport which format it comes to.  The
microphone array answers with the one format of its table, whatever the range; a device that plays
leaves the answer to the class driver, unless the ranges differ in their channels.

`dataRangeIntersection_opens`: the answer stays inside the output buffer, and the format of an
answer is one that opens a stream.

Of the ways in which the routine ends just one writes, behind the test of the buffer's length
(`dataRangeIntersection_cases`).  What it writes there is the format of the table
(`pcmFormat`), byte for byte, so that it is read back whole, is supported by the pin it comes from,
and has no attributes: the mode is then the default.  A free instance of the pin and the memory of a
stream are assumed, as for a format that was proposed.
-/
import WoaRk3576.Audio.FormatAgreement

namespace WoaRk3576.Audio

open WoaRk3576.Lib
open WoaRk3576.Acpi (NTSTATUS statusSuccess statusBufferOverflow statusBufferTooSmall)

/-! ## 1. The query

The routine is given two ranges and a buffer with its length.  A data range is read field by field
where the source reads it, and what it answers is the buffer behind the call, so that an answer can
be told from one that leaves the buffer alone. -/

def statusNotImplemented : NTSTATUS := 0xC0000002

/-- What `DataRangeIntersection` is given, the pin apart, at which it does not look.  A
`KSDATARANGE_AUDIO` has its `MaximumChannels` behind 64 bytes. -/
structure RangeQuery where
  clientDataRange : Memory
  myDataRange : Memory
  outputBufferLength : BitVec 32
  resultantFormat : Memory

/-- The status, the buffer behind the call, and `ResultantFormatLength` where it is written. -/
structure RangeAnswer where
  status : NTSTATUS
  resultantFormat : Memory
  resultantFormatLength : Option (BitVec 32)

/-- An answer that leaves the buffer as it is. -/
def RangeQuery.ends (q : RangeQuery) (status : NTSTATUS) (length : Option (BitVec 32)) :
    RangeAnswer :=
  ⟨status, q.resultantFormat, length⟩

/-- **`CMiniportWaveRT::DataRangeIntersection`**; `input` is whether the device is the microphone
array. -/
def dataRangeIntersection (ids : KsIds) (input : Bool) (q : RangeQuery) : RangeAnswer :=
  if loadLe q.clientDataRange 48 16 ≠ ids.specifierWaveFormatEx.toNat then
    q.ends statusNotImplemented none
  else if input then
    if q.outputBufferLength = 0 then q.ends statusBufferOverflow (some 104)
    else if q.outputBufferLength < 104 then q.ends statusBufferTooSmall none
    else ⟨statusSuccess, store q.resultantFormat 0 (pcmFormat ids).bytes, some 104⟩
  else if q.outputBufferLength = 0 then
    q.ends statusBufferOverflow (some ksDataFormatWaveFormatExSize)
  else if q.outputBufferLength < ksDataFormatWaveFormatExSize then
    q.ends statusBufferTooSmall none
  else if loadLe q.myDataRange 64 4 ≠ loadLe q.clientDataRange 64 4 then
    q.ends statusNoMatch none
  else q.ends statusNotImplemented none

/-! ## 2. What is answered

All paths of the routine but one end with a status that is no success and write nothing.  The tests
on the remaining path are just those of the microphone array, the specifier and the length, so an
answer with a format is characterised in both directions. -/

section Answer

variable {ids : KsIds} {input : Bool} {q : RangeQuery}

/-- **What a call can do**: end without a format, or answer the microphone array with its format. -/
theorem dataRangeIntersection_cases (ids : KsIds) (input : Bool) (q : RangeQuery) :
    (∃ status length, status ≠ statusSuccess
        ∧ dataRangeIntersection ids input q = q.ends status length)
      ∨ (input = true ∧ loadLe q.clientDataRange 48 16 = ids.specifierWaveFormatEx.toNat
        ∧ 104 ≤ q.outputBufferLength
        ∧ dataRangeIntersection ids input q
          = ⟨statusSuccess, store q.resultantFormat 0 (pcmFormat ids).bytes, some 104⟩) := by
  unfold dataRangeIntersection
  split
  · exact Or.inl ⟨statusNotImplemented, none, by decide, rfl⟩
  rename_i hspecifier
  split
  · rename_i hinput
    split
    · exact Or.inl ⟨statusBufferOverflow, _, by decide, rfl⟩
    split
    · exact Or.inl ⟨statusBufferTooSmall, none, by decide, rfl⟩
    · rename_i hroom
      exact Or.inr ⟨hinput, not_not.mp hspecifier, BitVec.not_lt.mp hroom, rfl⟩
  · split
    · exact Or.inl ⟨statusBufferOverflow, _, by decide, rfl⟩
    split
    · exact Or.inl ⟨statusBufferTooSmall, none, by decide, rfl⟩
    split
    · exact Or.inl ⟨statusNoMatch, none, by decide, rfl⟩
    · exact Or.inl ⟨statusNotImplemented, none, by decide, rfl⟩

/-- What an answer with a format needs, and what it is. -/
theorem dataRangeIntersection_success
    (h : (dataRangeIntersection ids input q).status = statusSuccess) :
    input = true ∧ loadLe q.clientDataRange 48 16 = ids.specifierWaveFormatEx.toNat
      ∧ 104 ≤ q.outputBufferLength
      ∧ dataRangeIntersection ids input q
        = ⟨statusSuccess, store q.resultantFormat 0 (pcmFormat ids).bytes, some 104⟩ := by
  obtain ⟨status, length, hstatus, hanswer⟩ | hanswer := dataRangeIntersection_cases ids input q
  · rw [hanswer] at h
    exact absurd h hstatus
  · exact hanswer

/-- A format is answered to every query of the microphone array that has room for it. -/
theorem dataRangeIntersection_of_room
    (hspecifier : loadLe q.clientDataRange 48 16 = ids.specifierWaveFormatEx.toNat)
    (hroom : 104 ≤ q.outputBufferLength) :
    (dataRangeIntersection ids true q).status = statusSuccess := by
  have hzero : ¬ q.outputBufferLength = 0 := by
    intro h
    rw [h] at hroom
    exact absurd hroom (by decide)
  rw [dataRangeIntersection, if_neg (not_not.mpr hspecifier), if_pos rfl, if_neg hzero,
    if_neg (BitVec.not_lt.mpr hroom)]

/-- Only an answer with a format writes. -/
theorem dataRangeIntersection_untouched
    (h : (dataRangeIntersection ids input q).status ≠ statusSuccess) :
    (dataRangeIntersection ids input q).resultantFormat = q.resultantFormat := by
  obtain ⟨status, length, -, hanswer⟩ | ⟨-, -, -, hanswer⟩ :=
    dataRangeIntersection_cases ids input q
  · rw [hanswer, RangeQuery.ends]
  · rw [hanswer] at h
    exact absurd rfl h

end Answer

/-! ## 3. The stream

The format that was answered lies at the start of the buffer.  Opening a stream with it goes
through the same lemmas as with a format that was proposed, with the difference that it carries no
attributes. -/

/-- **A format that is answered opens a stream**: it is answered to exactly the queries that the
microphone array gets for a `WAVEFORMATEX` with room for it, no byte behind the output buffer is
touched, and a stream is opened with it in the default mode where an instance of its pin is free
and the pool has the two blocks that a stream needs.  The answer is the one format of the pin's
table, so the pin supports it. -/
theorem dataRangeIntersection_opens (ids : KsIds) (input : Bool) (q : RangeQuery) :
    ((dataRangeIntersection ids input q).status = statusSuccess
        ↔ input = true ∧ loadLe q.clientDataRange 48 16 = ids.specifierWaveFormatEx.toNat
          ∧ 104 ≤ q.outputBufferLength)
      ∧ (∀ i, q.outputBufferLength.toNat ≤ i →
        (dataRangeIntersection ids input q).resultantFormat i = q.resultantFormat i)
      ∧ ((dataRangeIntersection ids input q).status = statusSuccess →
        (streamMode ids (dataRangeIntersection ids input q).resultantFormat).result
            = .ok ids.modeDefault
          ∧ ∀ (w : WaveMiniport) (answers : DrmAnswers) (memory : StreamMemory), memory.Given →
            w.pinTypes = (micArrayFilter ids).pins.map PinFormats.pinType →
            w.systemAllocated < w.maxSystemStreams →
            (newStream answers ((micArrayFilter ids).opening ids 1
              (dataRangeIntersection ids input q).resultantFormat memory) w).1
                = statusSuccess) := by
  refine ⟨⟨fun h => ?_, ?_⟩, fun i hi => ?_, fun h => ?_⟩
  · obtain ⟨hinput, hspecifier, hroom, -⟩ := dataRangeIntersection_success h
    exact ⟨hinput, hspecifier, hroom⟩
  · rintro ⟨rfl, hspecifier, hroom⟩
    exact dataRangeIntersection_of_room hspecifier hroom
  · by_cases h : (dataRangeIntersection ids input q).status = statusSuccess
    · obtain ⟨-, -, hroom, hanswer⟩ := dataRangeIntersection_success h
      have hlength : 104 ≤ q.outputBufferLength.toNat := hroom
      rw [hanswer]
      exact store_of_apart _ (Or.inr (by rw [WaveFormat.length_bytes]; omega))
    · rw [dataRangeIntersection_untouched h]
  · obtain ⟨-, -, -, hanswer⟩ := dataRangeIntersection_success h
    rw [hanswer]
    dsimp only
    have hself := load_store_self q.resultantFormat 0 (pcmFormat ids).bytes
    rw [WaveFormat.length_bytes] at hself
    generalize store q.resultantFormat 0 (pcmFormat ids).bytes = m at hself ⊢
    have hformat : (pcmFormat ids).At m := WaveFormat.at_of_load hself
    have husable := pcmFormat_usable ids
    have hmode : (streamMode ids m).result = .ok ids.modeDefault := by
      have hnone : hasAttributes m = false := by
        rw [hasAttributes, hformat.flags]
        exact (by decide : (BitVec.ofNat 32 (0 : BitVec 32).toNat).getLsbD 1 = false)
      rw [streamMode, hnone, if_neg Bool.false_ne_true]
      rfl
    refine ⟨hmode, fun w answers memory hmemory hw hfree => ?_⟩
    have htype : w.pinType 1 = .systemCapture :=
      WaveFilter.pinType_of_types hw (Nat.lt_succ_self 1 : 1 < (micArrayFilter ids).pins.length)
    refine newStream_success answers ?_ ?_ ?_ hmemory.1 ?_ hmemory.2
    · simp only [WaveFilter.opening, statusOf, hmode]
    · have hvalid := validateStreamCreate_free (Or.inr htype) hfree
      rw [htype] at hvalid
      exact hvalid
    · exact WaveFilter.isFormatSupported_success_iff.mpr
        ⟨(Nat.lt_succ_self 1 : 1 < (micArrayFilter ids).pins.length), pcmFormat ids,
          List.mem_singleton_self _, hformat.supports husable⟩
    · have hmajor : loadLe m 16 16 = ids.typeAudio.toNat := hformat.majorFormat
      have hspecifier : loadLe m 48 16 = ids.specifierWaveFormatEx.toNat := hformat.specifier
      simp [WaveFilter.opening, getWaveFormatEx, hmajor, hspecifier]

/-- A range whose specifier is that of a `WAVEFORMATEX`. -/
theorem dataRangeIntersection_opens_room :
    let ids : KsIds := ⟨1, 2, 3, 4, 5, 6, 7⟩
    let q : RangeQuery :=
      ⟨fun i => if i = 48 then (ids.specifierWaveFormatEx.setWidth 8) else 0, fun _ => 0, 104,
        fun _ => 0⟩
    (streamMode ids (dataRangeIntersection ids true q).resultantFormat).result
        = .ok ids.modeDefault
      ∧ ∀ (w : WaveMiniport) (answers : DrmAnswers) (memory : StreamMemory), memory.Given →
        w.pinTypes = (micArrayFilter ids).pins.map PinFormats.pinType →
        w.systemAllocated < w.maxSystemStreams →
        (newStream answers ((micArrayFilter ids).opening ids 1
          (dataRangeIntersection ids true q).resultantFormat memory) w).1 = statusSuccess :=
  (dataRangeIntersection_opens _ _ _).2.2 (by decide)

end WoaRk3576.Audio
