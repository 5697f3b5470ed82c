/-
# csaudiork3x: from the proposed format to the stream

A client asks a pin for the format of a mode, proposes that format to the pin in turn, and opens
the pin with it.  `proposedFormat_opens` is the agreement of the three.

  * The answer to the first request is a format of the pin's table with the client's attribute list
    behind it, which `Proposed` says of the bytes that are left in the value
    (`proposed_of_success`).  What was written of a format is read back from there
    (`WaveFormat.at_of_load`), and so are the attributes, which were copied (`ListCopied`).
  * The second request compares the bytes with the table again, field by field, and the format is
    in the table because it comes from there (`Proposed.isFormatSupported`).
  * `NewStream` takes the mode from the list as it lies behind the format.  It reads the size of
    the list from the list itself, so the mode is that of the request only where the client has
    given a list that states its own size (`Proposed.streamMode_eq`).
  * Nothing but the count of instances and the pool can then stop the stream (`newStream_success`),
    and both are assumptions of the theorem.
-/
import WoaRk3576.Audio.ProposedFormat

namespace WoaRk3576.Audio

open WoaRk3576.Lib
open WoaRk3576.Acpi (NTSTATUS ntSuccess statusSuccess statusBufferOverflow statusBufferTooSmall
  statusNotSupported ntSuccess_statusSuccess)

/-! ## 1. What the answer leaves in the value

The answer about a format is three writes to the value: the format, one of its fields again with
the flag that attributes follow, and the attributes.  What a reader finds there are the numbers of
the format, the flag and a copy of the list, and a copy of a list of modes gives the same mode. -/

/-- The value after an answer. -/
def PropertyAnswer.apply (a : PropertyAnswer) (value : Memory) : Memory :=
  a.writes.foldl (fun m w => store m w.1 w.2) value

/-- The numbers of a format at the start of `m`. -/
structure WaveFormat.At (f : WaveFormat) (m : Memory) : Prop where
  formatSize : loadLe m 0 4 = f.formatSize.toNat
  flags : loadLe m 4 4 = f.flags.toNat
  majorFormat : loadLe m 16 16 = f.majorFormat.toNat
  subFormat : loadLe m 32 16 = f.subFormat.toNat
  specifier : loadLe m 48 16 = f.specifier.toNat
  formatTag : loadLe m 64 2 = f.formatTag.toNat
  channels : loadLe m 66 2 = f.channels.toNat
  samplesPerSec : loadLe m 68 4 = f.samplesPerSec.toNat
  blockAlign : loadLe m 76 2 = f.blockAlign.toNat
  bitsPerSample : loadLe m 78 2 = f.bitsPerSample.toNat
  cbSize : loadLe m 80 2 = f.cbSize.toNat
  validBitsPerSample : loadLe m 82 2 = f.validBitsPerSample.toNat
  channelMask : loadLe m 84 4 = f.channelMask.toNat
  extSubFormat : loadLe m 88 16 = f.extSubFormat.toNat

/-- **What was written of a format is read back.** -/
theorem WaveFormat.at_of_load {f : WaveFormat} {m : Memory} (h : load m 0 104 = f.bytes) :
    f.At m := by
  rw [← f.recordSize_fields] at h
  have hfields := hasFields_of_load f.fields h
  have hmod : ∀ {w : Nat} (x : BitVec w) (k : Nat), 256 ^ k = 2 ^ w →
      x.toNat % 256 ^ k = x.toNat := by
    intro w x k hk
    rw [hk]
    exact Nat.mod_eq_of_lt x.isLt
  have hmod2 := fun x : BitVec 16 => hmod x 2 (by decide)
  have hmod4 := fun x : BitVec 32 => hmod x 4 (by decide)
  have hmod16 := fun x : BitVec 128 => hmod x 16 (by decide)
  simp only [WaveFormat.fields, HasFields, Nat.reduceAdd, hmod2, hmod4, hmod16] at hfields
  obtain ⟨h0, h1, -, -, h4, h5, h6, h7, h8, h9, -, h11, h12, h13, h14, h15, h16, -⟩ := hfields
  exact ⟨h0, h1, h4, h5, h6, h7, h8, h9, h11, h12, h13, h14, h15, h16⟩

/-- **A format of the table supports itself.** -/
theorem WaveFormat.At.supports {ids : KsIds} {f : WaveFormat} {m : Memory} (h : f.At m)
    (hf : f.Usable ids) : f.supports m = true := by
  have hsize : ksDataFormatWaveFormatExSize ≤ f.formatSize := by
    rw [hf.size]
    decide
  have hdata : f.dataFormatMatches m = true := by
    simp [dataFormatMatches, h.majorFormat, h.subFormat, h.specifier, hsize]
  have hext : f.extensibleMatches m = true := by
    simp [extensibleMatches, h.validBitsPerSample, h.channelMask, h.extSubFormat]
  rcases hf.tag with ⟨htag, hcb⟩ | ⟨htag, hid⟩
  · have hextensible : IsExtensible m := h.formatTag.trans htag
    have hwave : f.waveFormatMatches m = true := by
      simp [waveFormatMatches, hextensible, h.channels, h.samplesPerSec, h.blockAlign,
        h.bitsPerSample]
    simp [WaveFormat.supports, hdata, hwave, hext, h.cbSize, hcb]
  · have hextensible : ¬ IsExtensible m := fun hx => htag (h.formatTag.symm.trans hx)
    have hwave : f.waveFormatMatches m = true := by
      simp [waveFormatMatches, h.formatTag, hid, h.channels, h.samplesPerSec, h.blockAlign,
        h.bitsPerSample]
    simp [WaveFormat.supports, hdata, hwave, hextensible]

/-- The format as it is handed out: attributes follow. -/
def WaveFormat.withAttributes (f : WaveFormat) : WaveFormat := { f with flags := 2 }

theorem WaveFormat.withAttributes_usable {ids : KsIds} {f : WaveFormat} (h : f.Usable ids) :
    f.withAttributes.Usable ids := ⟨h.size, h.audio, h.specifier, h.tag⟩

/-- The filter looks at no flags. -/
@[simp]
theorem WaveFormat.withAttributes_supports (f : WaveFormat) (m : Memory) :
    f.withAttributes.supports m = f.supports m := rfl

/-- **The three writes of the answer**: the format with its flag, and the list behind it. -/
theorem apply_proposedFormat (f : WaveFormat) (items : List (BitVec 8)) (value : Memory) :
    store (store (store value 0 f.bytes) 4 (leBytes 4 2)) 104 items
      = store (store value 0 f.withAttributes.bytes) 104 items := by
  have hbytes : ∀ g : WaveFormat, g.bytes = leBytes 4 g.formatSize.toNat ++ leBytes 4 g.flags.toNat
      ++ recordBytes (g.fields.drop 2) := fun g => List.append_assoc .. ▸ rfl
  have hlen : 4 = 0 + (leBytes 4 f.formatSize.toNat).length := by rw [length_leBytes]
  have hoverlay := store_overlay value 0 (leBytes 4 f.formatSize.toNat)
    (recordBytes (f.fields.drop 2))
    (show (leBytes 4 f.flags.toNat).length = (leBytes 4 2).length by simp)
  rw [← hlen] at hoverlay
  rw [hbytes f, hoverlay, hbytes f.withAttributes]
  rfl

/-- Two lists of attributes that are alike. -/
structure ListCopied (m : Memory) (a : Nat) (m' : Memory) (b size : Nat) : Prop where
  bytes : load m a size = load m' b size

namespace ListCopied

variable {ids : KsIds} {m m' : Memory} {a b size : Nat}

theorem loadLe_eq (h : ListCopied m a m' b size) {i k : Nat} (hik : i + k ≤ size) :
    loadLe m (a + i) k = loadLe m' (b + i) k := by
  rw [loadLe, loadLe, load_shift h.bytes hik]

theorem attributeCount_eq (h : ListCopied m a m' b size) (hsize : 8 ≤ size) :
    attributeCount m a = attributeCount m' b := h.loadLe_eq hsize

/-- A copy of a list of modes is one, and gives the same mode. -/
theorem isModeList (h : ListCopied m a m' b size) (hlist : IsModeList ids m' b size) :
    IsModeList ids m a size ∧ listMode ids m a = listMode ids m' b := by
  obtain ⟨hroom, hall⟩ := hlist
  have hcount := h.attributeCount_eq (by omega)
  refine ⟨⟨by rw [hcount]; exact hroom, fun i hi => ?_⟩, ?_⟩
  · rw [hcount] at hi
    obtain ⟨hsize, hid⟩ := hall i hi
    have hfirst := h.loadLe_eq (i := 8 + 40 * i) (k := 4) (by omega)
    have hsecond := h.loadLe_eq (i := 8 + 40 * i + 8) (k := 16) (by omega)
    simp only [← Nat.add_assoc] at hfirst hsecond
    exact ⟨hfirst.trans hsize, hsecond.trans hid⟩
  · unfold listMode
    rw [hcount]
    split
    · rfl
    · have hmode := h.loadLe_eq (i := 8 + 40 * (attributeCount m' b - 1) + 24) (k := 16) (by omega)
      simp only [← Nat.add_assoc] at hmode
      rw [attributeMode, attributeMode, hmode]

end ListCopied

/-! ## 2. The request that is answered with a format

When a request is answered with a format, the table of the pin had one for the mode of its list.
This is read off the handler from the end: a success with a size means that each of its tests has
gone well. -/

theorem propertyHandlerProposedFormat2_success {ids : KsIds} {filter : WaveFilter}
    (hfilter : filter.WellFormed ids) {r : PropertyRequest}
    (hbasic : r.asks kspropertyTypeBasicSupport = false)
    (h : (propertyHandlerProposedFormat2 ids filter r).status = statusSuccess) :
    ∃ f, ¬ r.instanceSize < 8 ∧ loadLe r.instanceData 0 4 < filter.pins.length
      ∧ proposedFormat ids filter r = .ok f
      ∧ (propertyHandlerProposedFormat2 ids filter r).writes = [(0, f.bytes), (4, leBytes 4 2),
          (104, load r.instanceData 8 (r.instanceSize - 8).toNat)]
      ∧ (propertyHandlerProposedFormat2 ids filter r).valueSize.toNat
        = 104 + (r.instanceSize - 8).toNat := by
  by_cases hinstance : r.instanceSize < 8
  · rw [propertyHandlerProposedFormat2, if_pos hinstance] at h
    exact absurd h (by decide : ¬ statusInvalidParameter = statusSuccess)
  by_cases hpin : filter.pins.length ≤ loadLe r.instanceData 0 4
  · rw [propertyHandlerProposedFormat2, if_neg hinstance] at h
    simp only [if_pos hpin] at h
    exact absurd h (by decide : ¬ statusInvalidParameter = statusSuccess)
  by_cases hmodes : (filter.pin (loadLe r.instanceData 0 4)).modes.any
    (fun mode => mode.2.isSome) = false
  · rw [propertyHandlerProposedFormat2, if_neg hinstance] at h
    simp only [if_neg hpin, if_pos hmodes] at h
    exact absurd h (by decide : ¬ statusNotSupported = statusSuccess)
  rw [propertyHandlerProposedFormat2_eq ids hinstance hpin hmodes hbasic] at h ⊢
  cases hformat : proposedFormat ids filter r with
  | error status =>
    rw [hformat] at h
    rcases proposedFormat_error hformat with rfl | rfl
    · exact absurd h (by decide : ¬ statusInvalidParameter = statusSuccess)
    · exact absurd h (by decide : ¬ statusNotSupported = statusSuccess)
  | ok f =>
    rw [hformat] at h
    have hf := hfilter.default_size (Nat.not_le.mp hpin) (proposedFormat_ok hformat).2
    refine ⟨f, hinstance, Nat.not_le.mp hpin, rfl, ?_⟩
    by_cases hwrap : 2 ^ 32 ≤ (104 : BitVec 32).toNat + (r.instanceSize - 8).toNat
    · simp only [proposeFormat, hf, quadAlign_size, if_pos hwrap] at h
      exact absurd h (by decide : ¬ statusInvalidParameter = statusSuccess)
    · simp only [proposeFormat_eq hf hwrap, PropertyAnswer.after, sized] at h ⊢
      split at h
      · exact absurd h (by decide : ¬ statusBufferOverflow = statusSuccess)
      · split at h
        · exact absurd h (by decide : ¬ statusBufferTooSmall = statusSuccess)
        · split at h
          · exact absurd h (by decide : ¬ statusInvalidDeviceRequest = statusSuccess)
          · rename_i hzero hroom hget
            rw [if_neg hzero, if_neg hroom, if_neg hget]
            exact ⟨rfl, proposeFormat_size hwrap⟩

/-! ## 3. The stream

`NewStream` asks four things before it allocates: that the attributes are well-formed, that the pin
is one for streams, that an instance is free, and that the format is one of the pin.  Each is a
lemma, so it is seen which of them the proposal has to answer for. -/

/-- A stream is opened where the format and the attributes are accepted and an instance is free. -/
theorem newStream_success {a : NewStreamArgs} {w : WaveMiniport} (answers : DrmAnswers)
    (hattributes : a.attributes = statusSuccess)
    (hpin : validateStreamCreate w a.pin a.capture = statusSuccess)
    (hformat : a.formatSupported = statusSuccess) (hobject : a.object ≠ none)
    (hwave : a.waveFormat = true) (hext : a.wfExt = true) :
    (newStream answers a w).1 = statusSuccess := by
  have hsuccess : ¬ ntSuccess statusSuccess = false := by decide
  obtain ⟨s, hs⟩ := Option.ne_none_iff_exists'.mp hobject
  unfold newStream
  rw [hattributes, hpin, hformat, if_neg hsuccess, if_neg hsuccess, if_neg hsuccess, hs]
  dsimp only
  rw [streamInit_success hwave hext]
  exact congrArg Prod.fst (if_pos ntSuccess_statusSuccess)

/-- An instance of a stream's pin that is free. -/
theorem validateStreamCreate_free {w : WaveMiniport} {pin : Nat}
    (htype : w.pinType pin = .systemRender ∨ w.pinType pin = .systemCapture)
    (hfree : w.systemAllocated < w.maxSystemStreams) :
    validateStreamCreate w pin (decide (w.pinType pin = .systemCapture)) = statusSuccess := by
  unfold validateStreamCreate
  rcases htype with htype | htype
  · simp [htype, hfree]
  · simp [htype, hfree]

theorem WaveFilter.pinType_of_types {filter : WaveFilter} {w : WaveMiniport} {pinId : Nat}
    (h : w.pinTypes = filter.pins.map PinFormats.pinType) (hpin : pinId < filter.pins.length) :
    w.pinType pinId = (filter.pin pinId).pinType := by
  rw [WaveMiniport.pinType, h, WaveFilter.pin, List.getElem?_map, List.getElem?_eq_getElem hpin]
  rfl

/-! ## 4. The agreement

The three readers of the value, the handler of a proposal, the parser of the attributes and
`NewStream`, look at different bytes of it.  `Proposed` is what the value is after the answer, and
each reader accepts it for a reason of its own: the format is in the table of the pin, the list was
accepted once, and the pin with modes is one for streams. -/

/-- What a client has after a format was proposed to it: the format of the mode, with the list of
the request behind it. -/
structure Proposed (ids : KsIds) (filter : WaveFilter) (r : PropertyRequest) (f : WaveFormat)
    (m : Memory) : Prop where
  pin : loadLe r.instanceData 0 4 < filter.pins.length
  mode : (listMode ids r.instanceData 8, some f)
    ∈ (filter.pin (loadLe r.instanceData 0 4)).modes
  list : IsModeList ids r.instanceData 8 (r.instanceSize - 8).toNat
  format : f.withAttributes.At m
  copied : ListCopied m 104 r.instanceData 8 (r.instanceSize - 8).toNat

/-- The value of a request that is answered with a format. -/
theorem proposed_of_success {ids : KsIds} {filter : WaveFilter} (hfilter : filter.WellFormed ids)
    {r : PropertyRequest} (hbasic : r.asks kspropertyTypeBasicSupport = false)
    (h : (propertyHandlerProposedFormat2 ids filter r).status = statusSuccess) :
    ∃ f, Proposed ids filter r f ((propertyHandlerProposedFormat2 ids filter r).apply r.value) := by
  obtain ⟨f, -, hpin, hformat, hwrites, -⟩ :=
    propertyHandlerProposedFormat2_success hfilter hbasic h
  obtain ⟨hlist, hmode⟩ := proposedFormat_ok hformat
  have happly : (propertyHandlerProposedFormat2 ids filter r).apply r.value
      = store (store r.value 0 f.withAttributes.bytes) 104
        (load r.instanceData 8 (r.instanceSize - 8).toNat) := by
    rw [PropertyAnswer.apply, hwrites, ← apply_proposedFormat]
    rfl
  rw [happly]
  refine ⟨f, hpin, hmode, hlist, WaveFormat.at_of_load ?_, ⟨?_⟩⟩
  · rw [load_store_of_apart _ (by omega)]
    have hself := load_store_self r.value 0 f.withAttributes.bytes
    rwa [WaveFormat.length_bytes] at hself
  · have hself := load_store_self (store r.value 0 f.withAttributes.bytes) 104
      (load r.instanceData 8 (r.instanceSize - 8).toNat)
    rwa [length_load] at hself

namespace Proposed

variable {ids : KsIds} {filter : WaveFilter} {r : PropertyRequest} {f : WaveFormat} {m : Memory}

/-- The format is one of the pin. -/
theorem format_mem (h : Proposed ids filter r f m) (hfilter : filter.WellFormed ids) :
    f ∈ (filter.pin (loadLe r.instanceData 0 4)).waveFormats :=
  hfilter.default _ (WaveFilter.pin_mem h.pin) _ h.mode f rfl

theorem usable (h : Proposed ids filter r f m) (hfilter : filter.WellFormed ids) : f.Usable ids :=
  hfilter.usable _ (WaveFilter.pin_mem h.pin) f (h.format_mem hfilter)

/-- The pin is one for streams. -/
theorem pin_streaming (h : Proposed ids filter r f m) (hfilter : filter.WellFormed ids) :
    (filter.pin (loadLe r.instanceData 0 4)).pinType = .systemRender
      ∨ (filter.pin (loadLe r.instanceData 0 4)).pinType = .systemCapture :=
  hfilter.streaming _ (WaveFilter.pin_mem h.pin) (List.ne_nil_of_mem h.mode)

/-- **The pin takes the format that was proposed.** -/
theorem isFormatSupported (h : Proposed ids filter r f m) (hfilter : filter.WellFormed ids)
    (within : List (Extent Nat)) :
    (filter.isFormatSupported (loadLe r.instanceData 0 4) m within).1 = statusSuccess := by
  refine WaveFilter.isFormatSupported_success_iff.mpr ⟨h.pin, f, h.format_mem hfilter, ?_⟩
  rw [← WaveFormat.withAttributes_supports]
  exact h.format.supports (WaveFormat.withAttributes_usable (h.usable hfilter))

/-- **The mode of the format is that of the request**, where the list gives its own size. -/
theorem streamMode_eq (h : Proposed ids filter r f m) (hfilter : filter.WellFormed ids)
    (hheader : loadLe r.instanceData 8 4 = (r.instanceSize - 8).toNat) :
    (streamMode ids m).result = .ok (listMode ids r.instanceData 8) := by
  have hflags : loadLe m 4 4 = 2 := h.format.flags
  have hbase : attributesBase m = 104 := by
    rw [attributesBase, h.format.formatSize]
    have hsize : f.withAttributes.formatSize = 104 := (h.usable hfilter).size
    rw [hsize]
    decide
  have hroom : 8 ≤ (r.instanceSize - 8).toNat := by
    have hlist := h.list.1
    omega
  have hsize : loadLe m 104 4 = (r.instanceSize - 8).toNat :=
    (h.copied.loadLe_eq (i := 0) (by omega)).trans hheader
  obtain ⟨hlist, hmode⟩ := h.copied.isModeList h.list
  have hattributes : hasAttributes m = true := by
    rw [hasAttributes, hflags]
    decide
  rw [streamMode, if_pos hattributes, hbase, hsize]
  exact getAttributesFromAttributeList_ok_iff.mpr ⟨hlist, hmode.symm⟩

/-- The proposal of the format to the pin is accepted. -/
theorem accepted (h : Proposed ids filter r f m) (hfilter : filter.WellFormed ids)
    (hinstance : ¬ r.instanceSize < 8) {valueSize : BitVec 32} (hsize : 104 ≤ valueSize.toNat)
    (id : PropertyId) :
    (propertyHandlerProposedFormat filter
      { r with id, verb := kspropertyTypeSet, valueSize, value := m }).status = statusSuccess := by
  let r' : PropertyRequest := { r with id, verb := kspropertyTypeSet, valueSize, value := m }
  have hbasic : ¬ r'.asks kspropertyTypeBasicSupport = true :=
    (by decide : ¬ decide (kspropertyTypeSet &&& kspropertyTypeBasicSupport ≠ 0) = true)
  have hget : ¬ r'.asks kspropertyTypeGet = true :=
    (by decide : ¬ decide (kspropertyTypeSet &&& kspropertyTypeGet ≠ 0) = true)
  have hset : r'.asks kspropertyTypeSet = true :=
    (by decide : decide (kspropertyTypeSet &&& kspropertyTypeSet ≠ 0) = true)
  have hroom : (104 : BitVec 32) ≤ r'.valueSize := hsize
  have hanswer := propertyHandlerProposedFormat_streaming filter (r := r') hinstance
    (h.pin_streaming hfilter)
  rw [if_neg hbasic, sized_of_room _ (by decide) hroom, proposedFormatAnswer, if_neg hget,
    if_pos hset] at hanswer
  refine (congrArg PropertyAnswer.status hanswer).trans ?_
  exact h.isFormatSupported hfilter _

/-- A stream is opened with the format, where an instance of the pin is free and the pool has the
memory of a stream. -/
theorem opens (h : Proposed ids filter r f m) (hfilter : filter.WellFormed ids)
    (hheader : loadLe r.instanceData 8 4 = (r.instanceSize - 8).toNat) {w : WaveMiniport}
    (hw : w.pinTypes = filter.pins.map PinFormats.pinType)
    (hfree : w.systemAllocated < w.maxSystemStreams) (answers : DrmAnswers)
    {memory : StreamMemory} (hmemory : memory.Given) :
    (newStream answers (filter.opening ids (loadLe r.instanceData 0 4) m memory) w).1
      = statusSuccess := by
  have htype := WaveFilter.pinType_of_types hw h.pin
  refine newStream_success answers ?_ ?_ (h.isFormatSupported hfilter []) hmemory.1 ?_ hmemory.2
  · have hmode := h.streamMode_eq hfilter hheader
    simp only [WaveFilter.opening, statusOf, hmode]
  · have hvalid := validateStreamCreate_free (by rw [htype]; exact h.pin_streaming hfilter) hfree
    rwa [htype] at hvalid
  · have hmajor : loadLe m 16 16 = ids.typeAudio.toNat := by
      rw [h.format.majorFormat]
      exact congrArg BitVec.toNat (h.usable hfilter).audio
    have hspecifier : loadLe m 48 16 = ids.specifierWaveFormatEx.toNat := by
      rw [h.format.specifier]
      exact congrArg BitVec.toNat (h.usable hfilter).specifier
    simp [WaveFilter.opening, getWaveFormatEx, hmajor, hspecifier]

end Proposed

/-- **A format that the filter proposes is a format to open the pin with**: the pin takes it when it
is proposed to it in turn, its attributes give the mode that was asked for, and a stream is opened
where an instance of the pin is free and the pool has the two blocks that a stream needs.  All three
read the same bytes, a format of the pin's table with the client's own list behind it. -/
theorem proposedFormat_opens {ids : KsIds} {filter : WaveFilter} (hfilter : filter.WellFormed ids)
    {r : PropertyRequest} (hid : r.id = .pinProposeDataFormat2)
    (hbasic : r.asks kspropertyTypeBasicSupport = false)
    (hheader : loadLe r.instanceData 8 4 = (r.instanceSize - 8).toNat)
    (hsuccess : (waveRequest ids filter r).status = statusSuccess) :
    (streamMode ids ((waveRequest ids filter r).apply r.value)).result
        = .ok (listMode ids r.instanceData 8)
      ∧ (waveRequest ids filter { r with
          id := .pinProposeDataFormat
          verb := kspropertyTypeSet
          valueSize := (waveRequest ids filter r).valueSize
          value := (waveRequest ids filter r).apply r.value }).status = statusSuccess
      ∧ ∀ (w : WaveMiniport) (answers : DrmAnswers) (memory : StreamMemory), memory.Given →
        w.pinTypes = filter.pins.map PinFormats.pinType →
        w.systemAllocated < w.maxSystemStreams →
        (newStream answers (filter.opening ids (loadLe r.instanceData 0 4)
          ((waveRequest ids filter r).apply r.value) memory) w).1 = statusSuccess := by
  have hrequest : waveRequest ids filter r = propertyHandlerProposedFormat2 ids filter r := by
    rw [waveRequest, hid]
  rw [hrequest] at hsuccess ⊢
  obtain ⟨f, hproposed⟩ := proposed_of_success hfilter hbasic hsuccess
  obtain ⟨-, hinstance, -, -, -, hsize⟩ :=
    propertyHandlerProposedFormat2_success hfilter hbasic hsuccess
  refine ⟨hproposed.streamMode_eq hfilter hheader, ?_,
    fun w answers _ hmemory hw hfree =>
      hproposed.opens hfilter hheader hw hfree answers hmemory⟩
  exact hproposed.accepted hfilter hinstance (by omega) _

/-- The raw mode of the microphone array. -/
theorem proposedFormat_opens_micArray :
    let ids : KsIds := ⟨1, 2, 3, 4, 5, 6, 7⟩
    let r : PropertyRequest := ⟨kspropertyTypeGet, .pinProposeDataFormat2, 0, 56,
      fun i => ([1, 0, 0, 0, 0, 0, 0, 0, 48, 0, 0, 0, 1, 0, 0, 0, 40, 0, 0, 0, 0, 0, 0, 0, 4] ++
        List.replicate 15 0 ++ [7] ++ List.replicate 15 0).getD i 0, 152, fun _ => 0, false⟩
    (streamMode ids ((waveRequest ids (micArrayFilter ids) r).apply r.value)).result
        = .ok (listMode ids r.instanceData 8)
      ∧ (waveRequest ids (micArrayFilter ids) { r with
          id := .pinProposeDataFormat
          verb := kspropertyTypeSet
          valueSize := (waveRequest ids (micArrayFilter ids) r).valueSize
          value := (waveRequest ids (micArrayFilter ids) r).apply r.value }).status = statusSuccess
      ∧ ∀ (w : WaveMiniport) (answers : DrmAnswers) (memory : StreamMemory), memory.Given →
        w.pinTypes = (micArrayFilter ids).pins.map PinFormats.pinType →
        w.systemAllocated < w.maxSystemStreams →
        (newStream answers ((micArrayFilter ids).opening ids (loadLe r.instanceData 0 4)
          ((waveRequest ids (micArrayFilter ids) r).apply r.value) memory) w).1 = statusSuccess :=
  proposedFormat_opens (micArrayFilter_wellFormed _) rfl (by decide) (by decide) (by decide)

end WoaRk3576.Audio
