/-
# csaudiork3x: how a client and a wave filter agree on a format

A client may ask a pin whether it takes a format (`KSPROPERTY_PIN_PROPOSEDATAFORMAT`), and which
format the pin would like for a signal processing mode (`KSPROPERTY_PIN_PROPOSEDATAFORMAT2`): the
mode stands in a list of attributes behind the pin, and the answer is the format with that list
behind it.  With such a format the client opens the pin.

* `attributeList_exact`: the loop over the list tests the size that is left before each attribute
  and subtracts it afterwards, so it never reads past the list, whatever the list says.  It takes
  exactly the lists that have room for as many attributes as they count, all of them modes; the
  last one counts, as each overwrites the one before it.
* `waveRequest_sound_iff`: all requests of a wave filter touch nothing outside of their buffers, up
  to one.  `PropertyHandlerProposedFormat` takes the entry of the pin in the device's table before
  it looks at anything else, and the number of the pin is the client's.
* `waveRequest_sized`: the size that an empty value is answered with is the size that is filled in.
  The answer with a format is the format and the quad-aligned list, and the sum of the two is
  computed once, for the test and for the answer (`proposeFormat_size`).

`WaveFilter.WellFormed` is what the tables of the source have in common: the pins with modes are
those of streams, and a default format is one of its pin's formats.  It is shown of both tables
(`speakerFilter_wellFormed`, `micArrayFilter_wellFormed`).
-/
import WoaRk3576.Audio.PropertyRequest
import WoaRk3576.Lib.Record
import WoaRk3576.Lib.Traced

namespace WoaRk3576.Audio

open WoaRk3576.Lib
open WoaRk3576.Acpi (NTSTATUS ntSuccess statusSuccess statusBufferOverflow statusBufferTooSmall
  statusNotSupported ntSuccess_statusSuccess)

/-! ## 1. Formats

A format is a record of numbers with its layout in memory.  The comparison of `IsFormatSupported`
goes from one structure to the one inside it, and reads no more of the format than the field it has
come to. -/

def statusNoMatch : NTSTATUS := 0xC0000272

/-- A `GUID`, as the number that its bytes are. -/
abbrev Guid := BitVec 128

/-- The identifiers of the platform that the driver compares with. -/
structure KsIds where
  typeAudio : Guid
  specifierWaveFormatEx : Guid
  specifierDsound : Guid
  processingModeAttribute : Guid
  subTypePcm : Guid
  modeDefault : Guid
  modeRaw : Guid

/-- `KSDATAFORMAT_WAVEFORMATEXTENSIBLE`. -/
structure WaveFormat where
  formatSize : BitVec 32
  flags : BitVec 32
  sampleSize : BitVec 32
  majorFormat : Guid
  subFormat : Guid
  specifier : Guid
  formatTag : BitVec 16
  channels : BitVec 16
  samplesPerSec : BitVec 32
  avgBytesPerSec : BitVec 32
  blockAlign : BitVec 16
  bitsPerSample : BitVec 16
  cbSize : BitVec 16
  validBitsPerSample : BitVec 16
  channelMask : BitVec 32
  extSubFormat : Guid
  deriving DecidableEq, Repr

/-- The fields, as they lie in memory; one is reserved. -/
def WaveFormat.fields (f : WaveFormat) : List (Nat × Nat) :=
  [(4, f.formatSize.toNat), (4, f.flags.toNat), (4, f.sampleSize.toNat), (4, 0),
    (16, f.majorFormat.toNat), (16, f.subFormat.toNat), (16, f.specifier.toNat),
    (2, f.formatTag.toNat), (2, f.channels.toNat), (4, f.samplesPerSec.toNat),
    (4, f.avgBytesPerSec.toNat), (2, f.blockAlign.toNat), (2, f.bitsPerSample.toNat),
    (2, f.cbSize.toNat), (2, f.validBitsPerSample.toNat), (4, f.channelMask.toNat),
    (16, f.extSubFormat.toNat)]

def WaveFormat.bytes (f : WaveFormat) : List (BitVec 8) := recordBytes f.fields

def waveFormatExtensible : Nat := 0xFFFE

/-- `sizeof(KSDATAFORMAT_WAVEFORMATEX)`: 82 bytes, and what aligns the next one. -/
def ksDataFormatWaveFormatExSize : BitVec 32 := 88

/-- `WAVEFORMATEX` says that more follows, and that is what `WAVEFORMATEXTENSIBLE` has. -/
def IsExtensible (m : Memory) : Prop :=
  loadLe m 64 2 = waveFormatExtensible

instance (m : Memory) : Decidable (IsExtensible m) := Nat.decEq _ _

namespace WaveFormat

variable (f : WaveFormat)

/-- The `KSDATAFORMAT` at the start of `m` is that of the format. -/
def dataFormatMatches (m : Memory) : Bool :=
  decide (f.majorFormat.toNat = loadLe m 16 16) && decide (f.subFormat.toNat = loadLe m 32 16)
    && decide (f.specifier.toNat = loadLe m 48 16)
    && decide (ksDataFormatWaveFormatExSize ≤ f.formatSize)

/-- The `WAVEFORMATEX` behind it.  `EXTRACT_WAVEFORMATEX_ID` are the two low bytes. -/
def waveFormatMatches (m : Memory) : Bool :=
  (decide (IsExtensible m) || decide (loadLe m 64 2 = f.extSubFormat.toNat % 2 ^ 16))
    && decide (loadLe m 66 2 = f.channels.toNat) && decide (loadLe m 68 4 = f.samplesPerSec.toNat)
    && decide (loadLe m 76 2 = f.blockAlign.toNat) && decide (loadLe m 78 2 = f.bitsPerSample.toNat)

/-- What `WAVEFORMATEXTENSIBLE` has besides. -/
def extensibleMatches (m : Memory) : Bool :=
  decide (loadLe m 82 2 = f.validBitsPerSample.toNat) && decide (loadLe m 84 4 = f.channelMask.toNat)
    && decide (loadLe m 88 16 = f.extSubFormat.toNat)

/-- One round of the loop of `IsFormatSupported`. -/
def supports (m : Memory) : Bool :=
  f.dataFormatMatches m && f.waveFormatMatches m
    && (!decide (IsExtensible m) || (decide (22 ≤ loadLe m 80 2) && f.extensibleMatches m))

/-- What such a round reads of the format, that is to be inside of `within`. -/
def reads (m : Memory) (within : List (Extent Nat)) : List Access :=
  ⟨⟨0, 64⟩, within⟩ :: if f.dataFormatMatches m then
    ⟨⟨64, 18⟩, within⟩ ::
      if f.waveFormatMatches m && decide (IsExtensible m) && decide (22 ≤ loadLe m 80 2) then
        [⟨⟨64, 40⟩, within⟩]
      else []
  else []

end WaveFormat

/-- The loop of `IsFormatSupported`: whether one of the formats is that of `m`, and the reads. -/
def anySupports (m : Memory) (within : List (Extent Nat)) : List WaveFormat → Bool × List Access
  | [] => (false, [])
  | f :: formats =>
    if f.supports m then (true, f.reads m within)
    else
      let others := anySupports m within formats
      (others.1, f.reads m within ++ others.2)

/-! ## 2. Attributes

A list of attributes is a head with a size and a count, and then attributes that are each rounded
up to eight bytes.  The loop keeps count of the bytes that are left, so a list that counts more
attributes than it has room for is refused and not read past. -/

/-- `(cb + FILE_QUAD_ALIGNMENT) & ~FILE_QUAD_ALIGNMENT`. -/
def quadAlign (cb : BitVec 32) : BitVec 32 := (cb + 7) &&& ~~~7

/-- The loop of `GetAttributesFromAttributeList`: `count` attributes from `a` on. -/
def attributeLoop (ids : KsIds) (m : Memory) (list : Extent Nat) :
    Nat → Nat → Nat → Guid → Traced NTSTATUS Guid
  | 0, _, _, mode => pure mode
  | count + 1, a, cbRemaining, _ =>
    if cbRemaining < 24 then .throw statusInvalidParameter
    else do
      .read ⟨⟨a, 24⟩, [list]⟩
      if loadLe m (a + 8) 16 ≠ ids.processingModeAttribute.toNat then .throw statusNotSupported
      else if cbRemaining < 40 then .throw statusInvalidParameter
      else if loadLe m a 4 ≠ 40 then .throw statusInvalidParameter
      else do
        .read ⟨⟨a, 40⟩, [list]⟩
        let cbAttribute := (quadAlign (BitVec.ofNat 32 (loadLe m a 4))).toNat
        attributeLoop ids m list count (a + cbAttribute) (cbRemaining - cbAttribute)
          (BitVec.ofNat 128 (loadLe m (a + 24) 16))

/-- **`GetAttributesFromAttributeList`**: the mode of the list of `size` bytes at `base`. -/
def getAttributesFromAttributeList (ids : KsIds) (m : Memory) (base size : Nat) :
    Traced NTSTATUS Guid :=
  if size < 8 then .throw statusInvalidParameter
  else do
    .read ⟨⟨base + 4, 4⟩, [⟨base, size⟩]⟩
    attributeLoop ids m ⟨base, size⟩ (loadLe m (base + 4) 4) (base + 8) (size - 8) ids.modeDefault

/-- The status that a computation ends with. -/
def statusOf {α : Type} (x : Traced NTSTATUS α) : NTSTATUS :=
  match x.result with
  | .ok _ => statusSuccess
  | .error status => status

/-! ## 3. The wave filter

The filter is its table of pins, with the formats and the modes of each.  The handlers look into
the table by the number of the pin in the request, and one of them does so without having compared
that number with anything. -/

/-- `PIN_DEVICE_FORMATS_AND_MODES`: with each mode its default format, where it has one. -/
structure PinFormats where
  pinType : PinType
  waveFormats : List WaveFormat
  modes : List (Guid × Option WaveFormat)
  deriving DecidableEq, Repr

/-- A wave filter: its pins, in the order of its descriptor. -/
structure WaveFilter where
  pins : List PinFormats
  deriving DecidableEq, Repr

namespace WaveFilter

variable (filter : WaveFilter)

/-- The entry of a pin in the table. -/
def pin (pinId : Nat) : PinFormats := (filter.pins[pinId]?).getD ⟨.noPin, [], []⟩

/-- The use of the entry of a pin. -/
def readPin (pinId : Nat) : Access := ⟨⟨pinId, 1⟩, [⟨0, filter.pins.length⟩]⟩

/-- `IsFormatSupported`, and what it reads. -/
def isFormatSupported (pinId : Nat) (m : Memory) (within : List (Extent Nat)) :
    NTSTATUS × List Access :=
  if filter.pins.length ≤ pinId then (statusInvalidParameter, [])
  else
    let search := anySupports m within (filter.pin pinId).waveFormats
    (if search.1 then statusSuccess else statusNoMatch, search.2)

end WaveFilter

/-- **`PropertyHandlerProposedFormat`**. -/
def propertyHandlerProposedFormat (filter : WaveFilter) (r : PropertyRequest) : PropertyAnswer :=
  if r.instanceSize < 8 then r.ends statusInvalidParameter
  else
    let pinId := loadLe r.instanceData 0 4
    PropertyAnswer.after
      (match (filter.pin pinId).pinType with
      | .noPin => r.ends statusInvalidParameter
      | .bridge => r.ends statusNotSupported
      | _ =>
        if r.asks kspropertyTypeBasicSupport then basicSupport r r.itemFlags vtIllegal
        else
          sized r 104
            (if r.asks kspropertyTypeGet then r.ends statusInvalidDeviceRequest
            else if r.asks kspropertyTypeSet then
              let supported := filter.isFormatSupported pinId r.value [⟨0, r.valueSize.toNat⟩]
              (r.ends supported.1).after supported.2
            else r.ends statusSuccess))
      [r.readInstance 0 4, filter.readPin pinId]

/-- The rest of `PropertyHandlerProposedFormat2`, with the default format of the mode: the copy of
the format, the flag that attributes follow, and the list behind the format. -/
def proposeFormat (r : PropertyRequest) (f : WaveFormat) : PropertyAnswer :=
  let cbItemsList := r.instanceSize - 8
  let cbFormat := quadAlign f.formatSize
  if 2 ^ 32 ≤ cbFormat.toNat + cbItemsList.toNat then r.ends statusInvalidParameter
  else
    let cbMinSize := cbFormat + cbItemsList
    if cbMinSize = 0 then r.ends statusNotSupported
    else
      sized r cbMinSize
        (if r.asks kspropertyTypeGet = false then r.ends statusInvalidDeviceRequest
        else
          ⟨statusSuccess, cbMinSize,
            [(0, f.bytes.take f.formatSize.toNat), (4, leBytes 4 2),
              (cbFormat.toNat, load r.instanceData 8 cbItemsList.toNat)],
            [r.readInstance 8 cbItemsList.toNat]⟩)

/-- **`PropertyHandlerProposedFormat2`**. -/
def propertyHandlerProposedFormat2 (ids : KsIds) (filter : WaveFilter) (r : PropertyRequest) :
    PropertyAnswer :=
  if r.instanceSize < 8 then r.ends statusInvalidParameter
  else
    let pinId := loadLe r.instanceData 0 4
    PropertyAnswer.after
      (if filter.pins.length ≤ pinId then r.ends statusInvalidParameter
      else
        let modes := (filter.pin pinId).modes
        if modes.any (fun mode => mode.2.isSome) = false then r.ends statusNotSupported
        else if r.asks kspropertyTypeBasicSupport then basicSupport r r.itemFlags vtIllegal
        else
          let list := getAttributesFromAttributeList ids r.instanceData 8
            (r.instanceSize - 8).toNat
          PropertyAnswer.after
            (match list.result with
            | .error status => r.ends status
            | .ok signalProcessingMode =>
              match modes.find? fun mode => decide (mode.1 = signalProcessingMode) with
              | some (_, some f) => proposeFormat r f
              | _ => r.ends statusNotSupported)
            list.accesses)
      [r.readInstance 0 4]

/-- **`PropertyHandler_WaveFilter`**. -/
def waveRequest (ids : KsIds) (filter : WaveFilter) (r : PropertyRequest) : PropertyAnswer :=
  match r.id with
  | .pinProposeDataFormat => propertyHandlerProposedFormat filter r
  | .pinProposeDataFormat2 => propertyHandlerProposedFormat2 ids filter r
  | _ => r.ends statusInvalidDeviceRequest

/-! ## 4. Opening a pin with a format

What `NewStream` does with the format that a client passes: it reads the mode from the attributes
behind it, if there are any, and asks the pin for the rest.  The memory of the pool is an argument.
-/

/-- `KSDATAFORMAT_ATTRIBUTES`: a list of attributes follows the format. -/
def hasAttributes (m : Memory) : Bool := (BitVec.ofNat 32 (loadLe m 4 4)).getLsbD 1

/-- The attributes behind a format: where they begin, and their size as they give it. -/
def attributesBase (m : Memory) : Nat := (quadAlign (BitVec.ofNat 32 (loadLe m 0 4))).toNat

/-- The mode that `NewStream` takes from a format. -/
def streamMode (ids : KsIds) (m : Memory) : Traced NTSTATUS Guid :=
  if hasAttributes m then
    getAttributesFromAttributeList ids m (attributesBase m) (loadLe m (attributesBase m) 4)
  else pure ids.modeDefault

/-- `GetWaveFormatEx` knows the format. -/
def getWaveFormatEx (ids : KsIds) (m : Memory) : Bool :=
  decide (loadLe m 16 16 = ids.typeAudio.toNat)
    && (decide (loadLe m 48 16 = ids.specifierWaveFormatEx.toNat)
      || decide (loadLe m 48 16 = ids.specifierDsound.toNat))

/-- What the pool answers to `NewStream`: the address of an object, and whether there is a block for
the copy of the format. -/
structure StreamMemory where
  object : Option StreamId
  wfExt : Bool

/-- The pool has both blocks. -/
def StreamMemory.Given (memory : StreamMemory) : Prop :=
  memory.object ≠ none ∧ memory.wfExt = true

/-- The call of `NewStream` for a pin with the format at the start of `m`. -/
def WaveFilter.opening (ids : KsIds) (filter : WaveFilter) (pinId : Nat) (m : Memory)
    (memory : StreamMemory) : NewStreamArgs where
  pin := pinId
  capture := decide ((filter.pin pinId).pinType = .systemCapture)
  attributes := statusOf (streamMode ids m)
  formatSupported := (filter.isFormatSupported pinId m []).1
  object := memory.object
  waveFormat := getWaveFormatEx ids m
  wfExt := memory.wfExt

/-! ## 5. The lists of attributes that are accepted

The loop is an induction over the count.  That it accepts a list, what it returns then and that it
stays inside the list are three statements about the same rounds, and the theorem keeps them
together. -/

section Attributes

variable {ids : KsIds} {m : Memory}

/-- The attribute at `a` gives a mode. -/
def IsModeAttribute (ids : KsIds) (m : Memory) (a : Nat) : Prop :=
  loadLe m a 4 = 40 ∧ loadLe m (a + 8) 16 = ids.processingModeAttribute.toNat

/-- The mode of an attribute. -/
def attributeMode (m : Memory) (a : Nat) : Guid := BitVec.ofNat 128 (loadLe m (a + 24) 16)

theorem quadAlign_forty : (quadAlign (BitVec.ofNat 32 40)).toNat = 40 := by
  decide

/-- One round of the loop. -/
theorem attributeLoop_succ_ok_iff {list : Extent Nat} {count a cbRemaining : Nat}
    {mode mode' : Guid} :
    (attributeLoop ids m list (count + 1) a cbRemaining mode).result = .ok mode'
      ↔ (40 ≤ cbRemaining ∧ IsModeAttribute ids m a)
        ∧ (attributeLoop ids m list count (a + 40) (cbRemaining - 40) (attributeMode m a)).result
          = .ok mode' := by
  rw [attributeLoop]
  simp only [Traced.result_guard_eq_ok_iff, Traced.result_read_bind]
  constructor
  · rintro ⟨-, hid, hroom, hsize, h⟩
    have hsize : loadLe m a 4 = 40 := not_not.mp hsize
    rw [hsize, quadAlign_forty] at h
    exact ⟨⟨Nat.not_lt.mp hroom, hsize, not_not.mp hid⟩, h⟩
  · rintro ⟨⟨hroom, hsize, hid⟩, h⟩
    refine ⟨by omega, not_not.mpr hid, Nat.not_lt.mpr hroom, not_not.mpr hsize, ?_⟩
    rw [hsize, quadAlign_forty]
    exact h

/-- **The loop goes through `count` attributes of a mode**, and the last one counts. -/
theorem attributeLoop_ok_iff {list : Extent Nat} {count : Nat} :
    ∀ {a cbRemaining : Nat} {mode mode' : Guid},
    (attributeLoop ids m list count a cbRemaining mode).result = .ok mode'
      ↔ 40 * count ≤ cbRemaining ∧ (∀ i < count, IsModeAttribute ids m (a + 40 * i))
        ∧ mode' = if count = 0 then mode else attributeMode m (a + 40 * (count - 1)) := by
  induction count with
  | zero =>
    intro a cbRemaining mode mode'
    unfold attributeLoop
    rw [Traced.result_pure, if_pos rfl]
    constructor
    · intro h
      exact ⟨Nat.zero_le _, fun i hi => absurd hi (Nat.not_lt_zero i), (Except.ok.inj h).symm⟩
    · rintro ⟨-, -, rfl⟩
      rfl
  | succ count ih =>
    intro a cbRemaining mode mode'
    rw [attributeLoop_succ_ok_iff, ih, if_neg (Nat.succ_ne_zero count), Nat.add_sub_cancel]
    constructor
    · rintro ⟨⟨hroom, hfirst⟩, hrest, hall, hmode⟩
      refine ⟨by omega, ?_, ?_⟩
      · intro i hi
        cases i with
        | zero => exact hfirst
        | succ i =>
          have hnext := hall i (by omega)
          rwa [Nat.add_assoc, ← Nat.mul_succ 40 i |>.trans (Nat.add_comm _ _)] at hnext
      · rw [hmode]
        cases count with
        | zero => rfl
        | succ count =>
          rw [if_neg (Nat.succ_ne_zero count), Nat.add_sub_cancel, Nat.add_assoc,
            ← Nat.mul_succ 40 count |>.trans (Nat.add_comm _ _)]
    · rintro ⟨hroom, hall, hmode⟩
      refine ⟨⟨by omega, hall 0 (Nat.succ_pos count)⟩, by omega, ?_, ?_⟩
      · intro i hi
        have hnext := hall (i + 1) (by omega)
        rwa [Nat.mul_succ, Nat.add_comm (40 * i), ← Nat.add_assoc] at hnext
      · rw [hmode]
        cases count with
        | zero => rfl
        | succ count =>
          rw [if_neg (Nat.succ_ne_zero count), Nat.add_sub_cancel, Nat.mul_succ,
            Nat.add_comm (40 * count), ← Nat.add_assoc]

theorem attributeLoop_inBounds {list : Extent Nat} {count : Nat} :
    ∀ {a cbRemaining : Nat} {mode : Guid}, list.address ≤ a →
      a + cbRemaining ≤ list.address + list.length →
      (attributeLoop ids m list count a cbRemaining mode).InBounds := by
  induction count with
  | zero => exact fun _ _ => Traced.inBounds_pure _
  | succ count ih =>
    intro a cbRemaining mode hge hle
    rw [attributeLoop]
    simp only [Traced.inBounds_guard, Traced.inBounds_read_bind, inBounds_one,
      Extent.bytes_subset_iff]
    intro hroom
    refine ⟨Or.inr ⟨hge, by omega⟩, fun _ hforty hsize => ⟨Or.inr ⟨hge, by omega⟩, ?_⟩⟩
    have hsize : loadLe m a 4 = 40 := not_not.mp hsize
    rw [hsize, quadAlign_forty]
    exact ih (by omega) (by omega)

/-- How many attributes a list says it has. -/
def attributeCount (m : Memory) (base : Nat) : Nat := loadLe m (base + 4) 4

/-- The mode of a list: that of its last attribute, and the default where there is none. -/
def listMode (ids : KsIds) (m : Memory) (base : Nat) : Guid :=
  if attributeCount m base = 0 then ids.modeDefault
  else attributeMode m (base + 8 + 40 * (attributeCount m base - 1))

/-- A list of `size` bytes at `base` has its attributes, and each of them gives a mode. -/
def IsModeList (ids : KsIds) (m : Memory) (base size : Nat) : Prop :=
  8 + 40 * attributeCount m base ≤ size
    ∧ ∀ i < attributeCount m base, IsModeAttribute ids m (base + 8 + 40 * i)

theorem getAttributesFromAttributeList_ok_iff {base size : Nat} {mode : Guid} :
    (getAttributesFromAttributeList ids m base size).result = .ok mode
      ↔ IsModeList ids m base size ∧ mode = listMode ids m base := by
  unfold getAttributesFromAttributeList IsModeList
  rw [Traced.result_guard_eq_ok_iff, Traced.result_read_bind, attributeLoop_ok_iff]
  constructor
  · rintro ⟨hsize, hroom, hall, hmode⟩
    exact ⟨⟨by unfold attributeCount; omega, hall⟩, hmode⟩
  · rintro ⟨⟨hroom, hall⟩, hmode⟩
    unfold attributeCount at hroom
    exact ⟨by omega, by omega, hall, hmode⟩

theorem getAttributesFromAttributeList_inBounds (ids : KsIds) (m : Memory) (base size : Nat) :
    (getAttributesFromAttributeList ids m base size).InBounds := by
  unfold getAttributesFromAttributeList
  rw [Traced.inBounds_guard, Traced.inBounds_read_bind, inBounds_one, Extent.bytes_subset_iff]
  intro hsize
  exact ⟨Or.inr ⟨Nat.le_add_right _ _, by simp only; omega⟩,
    attributeLoop_inBounds (Nat.le_add_right _ _) (by simp only; omega)⟩

/-- **What `GetAttributesFromAttributeList` accepts, and what it reads for it**: it stays inside of
the list whatever the list says, it takes the lists that have room for as many attributes as they
count, all of them modes, and it returns the mode of the last one.  The size that is left is tested
before each attribute and reduced by what the attribute takes. -/
theorem attributeList_exact (ids : KsIds) (m : Memory) (base size : Nat) :
    (getAttributesFromAttributeList ids m base size).InBounds
      ∧ ∀ mode, (getAttributesFromAttributeList ids m base size).result = .ok mode
        ↔ IsModeList ids m base size ∧ mode = listMode ids m base :=
  ⟨getAttributesFromAttributeList_inBounds ids m base size,
    fun _ => getAttributesFromAttributeList_ok_iff⟩

end Attributes

/-! ## 6. The requests of a wave filter

The forms of `PropertyRequest.lean` cover the handlers except for two things: the table is read
with a number from the request, which is inside exactly if the filter has such a pin, and the size
of an answer about a format is a sum that may wrap.  Both become conditions on the request or
refusals of the handler. -/

section Requests

variable {m : Memory}

@[simp]
theorem anySupports_fst (m : Memory) (within : List (Extent Nat)) (formats : List WaveFormat) :
    (anySupports m within formats).1 = formats.any fun f => f.supports m := by
  induction formats with
  | nil => rfl
  | cons f formats ih =>
    rw [anySupports, List.any_cons]
    cases hsupports : f.supports m with
    | true => rfl
    | false => exact ih

theorem WaveFormat.reads_inBounds (f : WaveFormat) (m : Memory) {n : Nat} (h : 104 ≤ n) :
    AllInBounds (f.reads m [⟨0, n⟩]) := by
  have hin : ∀ i k, i + k ≤ 104 → (⟨⟨i, k⟩, [⟨0, n⟩]⟩ : Access).InBounds := by
    intro i k hik
    rw [inBounds_one, Extent.bytes_subset_iff]
    exact Or.inr ⟨Nat.zero_le _, by simp only; omega⟩
  unfold WaveFormat.reads
  refine allInBounds_cons.mpr ⟨hin 0 64 (by decide), ?_⟩
  split
  · refine allInBounds_cons.mpr ⟨hin 64 18 (by decide), ?_⟩
    split
    · exact allInBounds_cons.mpr ⟨hin 64 40 (by decide), allInBounds_nil⟩
    · exact allInBounds_nil
  · exact allInBounds_nil

theorem anySupports_inBounds (m : Memory) {n : Nat} (h : 104 ≤ n) (formats : List WaveFormat) :
    AllInBounds (anySupports m [⟨0, n⟩] formats).2 := by
  induction formats with
  | nil => exact allInBounds_nil
  | cons f formats ih =>
    rw [anySupports]
    split
    · exact f.reads_inBounds m h
    · exact allInBounds_append.mpr ⟨f.reads_inBounds m h, ih⟩

/-- A pin of the filter takes a format of `m`. -/
theorem WaveFilter.isFormatSupported_success_iff {filter : WaveFilter} {pinId : Nat}
    {within : List (Extent Nat)} :
    (filter.isFormatSupported pinId m within).1 = statusSuccess
      ↔ pinId < filter.pins.length ∧ ∃ f ∈ (filter.pin pinId).waveFormats, f.supports m = true := by
  unfold WaveFilter.isFormatSupported
  split
  · rename_i hpin
    exact ⟨fun h => absurd h (by decide), fun h => absurd h.1 (Nat.not_lt.mpr hpin)⟩
  · rename_i hpin
    simp only [anySupports_fst]
    rw [← List.any_eq_true]
    split
    · rename_i hany
      exact ⟨fun _ => ⟨Nat.not_le.mp hpin, hany⟩, fun _ => rfl⟩
    · rename_i hany
      exact ⟨fun h => absurd h (by decide), fun h => absurd h.2 hany⟩

theorem WaveFilter.isFormatSupported_inBounds (filter : WaveFilter) (pinId : Nat) (m : Memory)
    {n : Nat} (h : 104 ≤ n) : AllInBounds (filter.isFormatSupported pinId m [⟨0, n⟩]).2 := by
  unfold WaveFilter.isFormatSupported
  split
  · exact allInBounds_nil
  · exact anySupports_inBounds m h _

/-- The use of the entry of a pin that the filter has. -/
theorem WaveFilter.readPin_inBounds {filter : WaveFilter} {pinId : Nat} :
    (filter.readPin pinId).InBounds ↔ pinId < filter.pins.length := by
  rw [readPin, inBounds_one, Extent.bytes_subset_iff]
  simp only
  omega

/-- A format that the table may have: audio, of the full size, and one that names itself. -/
structure WaveFormat.Usable (ids : KsIds) (f : WaveFormat) : Prop where
  size : f.formatSize = 104
  audio : f.majorFormat = ids.typeAudio
  specifier : f.specifier = ids.specifierWaveFormatEx
  tag : f.formatTag.toNat = waveFormatExtensible ∧ 22 ≤ f.cbSize.toNat
    ∨ f.formatTag.toNat ≠ waveFormatExtensible ∧ f.formatTag.toNat = f.extSubFormat.toNat % 2 ^ 16

/-- **A filter whose tables agree with each other**: the pins with modes are for streams, and the
default format of a mode is one of the pin's formats. -/
structure WaveFilter.WellFormed (ids : KsIds) (filter : WaveFilter) : Prop where
  usable : ∀ p ∈ filter.pins, ∀ f ∈ p.waveFormats, f.Usable ids
  streaming : ∀ p ∈ filter.pins, p.modes ≠ [] →
    p.pinType = .systemRender ∨ p.pinType = .systemCapture
  default : ∀ p ∈ filter.pins, ∀ mode ∈ p.modes, ∀ f, mode.2 = some f → f ∈ p.waveFormats

theorem WaveFilter.pin_mem {filter : WaveFilter} {pinId : Nat} (h : pinId < filter.pins.length) :
    filter.pin pinId ∈ filter.pins := by
  rw [WaveFilter.pin, List.getElem?_eq_getElem h]
  exact List.getElem_mem h

theorem WaveFormat.recordSize_fields (f : WaveFormat) : recordSize f.fields = 104 := by
  simp [WaveFormat.fields, recordSize]

@[simp]
theorem WaveFormat.length_bytes (f : WaveFormat) : f.bytes.length = 104 := by
  rw [WaveFormat.bytes, length_recordBytes, recordSize_fields]

theorem quadAlign_size : quadAlign 104 = 104 := by
  decide

/-- The size of the answer about a format, where it does not wrap. -/
theorem proposeFormat_size {cbItemsList : BitVec 32}
    (h : ¬ 2 ^ 32 ≤ (104 : BitVec 32).toNat + cbItemsList.toNat) :
    (104 + cbItemsList).toNat = 104 + cbItemsList.toNat := by
  rw [BitVec.toNat_add, Nat.mod_eq_of_lt (Nat.not_le.mp h)]
  rfl

theorem instanceSize_sub {r : PropertyRequest} (h : ¬ r.instanceSize < 8) :
    (r.instanceSize - 8).toNat = r.instanceSize.toNat - 8 :=
  BitVec.toNat_sub_of_le (BitVec.not_lt.mp h)

variable {r : PropertyRequest}

/-- The answer with a format is sound, where there is a list to send back. -/
theorem proposeFormat_sound {f : WaveFormat} (hf : f.formatSize = 104)
    (hinstance : ¬ r.instanceSize < 8) (hlist : 8 ≤ (r.instanceSize - 8).toNat) :
    Sound r (proposeFormat r f) := by
  unfold proposeFormat
  simp only [hf, quadAlign_size]
  split
  · exact sound_ends r _
  · rename_i hwrap
    have hsize := proposeFormat_size hwrap
    split
    · exact sound_ends r _
    · refine sized_sound fun hroom => ?_
      have hroom : (104 + (r.instanceSize - 8)).toNat ≤ r.valueSize.toNat := hroom
      rw [hsize] at hroom
      split
      · exact sound_ends r _
      · constructor
        · refine allInBounds_cons.mpr ⟨PropertyRequest.readInstance_inBounds.mpr (Or.inr ?_),
            allInBounds_nil⟩
          have hsub := instanceSize_sub hinstance
          omega
        · intro w hw
          simp only [List.mem_cons, List.not_mem_nil, or_false] at hw
          rcases hw with rfl | rfl | rfl
          · simp only [List.length_take, WaveFormat.length_bytes]
            omega
          · simp only [length_leBytes]
            omega
          · simp only [length_load]
            exact hroom
        · intro _
          exact hsize.trans_le hroom

/-- **`PropertyHandlerProposedFormat`** is sound for the pins of the filter. -/
theorem propertyHandlerProposedFormat_sound (filter : WaveFilter)
    (hpin : ¬ r.instanceSize < 8 → loadLe r.instanceData 0 4 < filter.pins.length) :
    Sound r (propertyHandlerProposedFormat filter r) := by
  unfold propertyHandlerProposedFormat
  split
  · exact sound_ends r _
  · rename_i hinstance
    have hreads : AllInBounds [r.readInstance 0 4,
        filter.readPin (loadLe r.instanceData 0 4)] := by
      have height : (8#32).toNat ≤ r.instanceSize.toNat := BitVec.not_lt.mp hinstance
      have height' : (8#32).toNat = 8 := rfl
      refine allInBounds_cons.mpr ⟨PropertyRequest.readInstance_inBounds.mpr (Or.inr (by omega)),
        allInBounds_cons.mpr ⟨WaveFilter.readPin_inBounds.mpr (hpin hinstance), allInBounds_nil⟩⟩
    refine sound_after ?_ hreads
    split
    · exact sound_ends r _
    · exact sound_ends r _
    · split
      · exact basicSupport_sound r _ _
      · refine sized_sound fun hroom => ?_
        split
        · exact sound_ends r _
        · split
          · exact sound_after (sound_ends r _)
              (filter.isFormatSupported_inBounds _ _ hroom)
          · exact sound_ends r _

/-- The list that a mode was taken from has at least its head. -/
theorem list_size {ids : KsIds} {m : Memory} {base size : Nat} {mode : Guid}
    (h : (getAttributesFromAttributeList ids m base size).result = .ok mode) : 8 ≤ size := by
  have hlist := (getAttributesFromAttributeList_ok_iff.mp h).1.1
  omega

/-- The default formats have the size of the formats. -/
theorem WaveFilter.WellFormed.default_size {ids : KsIds} {filter : WaveFilter}
    (h : filter.WellFormed ids) {pinId : Nat} (hpin : pinId < filter.pins.length) {mode : Guid}
    {f : WaveFormat} (hmode : (mode, some f) ∈ (filter.pin pinId).modes) : f.formatSize = 104 :=
  (h.usable _ (WaveFilter.pin_mem hpin) f
    (h.default _ (WaveFilter.pin_mem hpin) _ hmode f rfl)).size

/-- **`PropertyHandlerProposedFormat2`** is sound. -/
theorem propertyHandlerProposedFormat2_sound {ids : KsIds} {filter : WaveFilter}
    (hfilter : filter.WellFormed ids) :
    Sound r (propertyHandlerProposedFormat2 ids filter r) := by
  unfold propertyHandlerProposedFormat2
  split
  · exact sound_ends r _
  · rename_i hinstance
    have height : (8#32).toNat ≤ r.instanceSize.toNat := BitVec.not_lt.mp hinstance
    have height' : (8#32).toNat = 8 := rfl
    refine sound_after ?_ (allInBounds_cons.mpr
      ⟨PropertyRequest.readInstance_inBounds.mpr (Or.inr (by omega)), allInBounds_nil⟩)
    split
    · exact sound_ends r _
    · rename_i hpin
      dsimp only
      split
      · exact sound_ends r _
      · split
        · exact basicSupport_sound r _ _
        · refine sound_after ?_ (getAttributesFromAttributeList_inBounds _ _ _ _)
          split
          · exact sound_ends r _
          · rename_i hresult
            split
            · rename_i hfind
              exact proposeFormat_sound
                (hfilter.default_size (Nat.not_le.mp hpin) (List.mem_of_find?_eq_some hfind))
                hinstance (list_size hresult)
            · exact sound_ends r _

/-- The one format of both tables: 48 kHz, two channels of 16 bits. -/
def pcmFormat (ids : KsIds) : WaveFormat where
  formatSize := 104
  flags := 0
  sampleSize := 0
  majorFormat := ids.typeAudio
  subFormat := ids.subTypePcm
  specifier := ids.specifierWaveFormatEx
  formatTag := 0xFFFE
  channels := 2
  samplesPerSec := 48000
  avgBytesPerSec := 192000
  blockAlign := 4
  bitsPerSample := 16
  cbSize := 22
  validBitsPerSample := 16
  channelMask := 3
  extSubFormat := ids.subTypePcm

/-- `SpeakerPinDeviceFormatsAndModes`. -/
def speakerFilter (ids : KsIds) : WaveFilter where
  pins := [⟨.systemRender, [pcmFormat ids], [(ids.modeDefault, some (pcmFormat ids))]⟩,
    ⟨.bridge, [], []⟩]

/-- `MicArrayPinDeviceFormatsAndModes`. -/
def micArrayFilter (ids : KsIds) : WaveFilter where
  pins := [⟨.bridge, [], []⟩,
    ⟨.systemCapture, [pcmFormat ids], [(ids.modeRaw, some (pcmFormat ids))]⟩]

theorem pcmFormat_usable (ids : KsIds) : (pcmFormat ids).Usable ids :=
  ⟨rfl, rfl, rfl, Or.inl ⟨rfl, Nat.le_refl 22⟩⟩

/-- **The tables of the speaker agree with each other.** -/
theorem speakerFilter_wellFormed (ids : KsIds) : (speakerFilter ids).WellFormed ids := by
  constructor
  · simp [speakerFilter, pcmFormat_usable]
  · simp [speakerFilter]
  · simp [speakerFilter]

/-- **Those of the microphone array too.** -/
theorem micArrayFilter_wellFormed (ids : KsIds) : (micArrayFilter ids).WellFormed ids := by
  constructor
  · simp [micArrayFilter, pcmFormat_usable]
  · simp [micArrayFilter]
  · simp [micArrayFilter]

/-- The entry of the pin that a request names is one of the table. -/
def NamesPin (filter : WaveFilter) (r : PropertyRequest) : Prop :=
  r.id = .pinProposeDataFormat → 8 ≤ r.instanceSize →
    loadLe r.instanceData 0 4 < filter.pins.length

/-- **Every request to a wave filter is answered soundly**, except that a proposed format for a pin
that the filter does not have is looked up behind the end of the table. -/
theorem waveRequest_sound_iff {ids : KsIds} {filter : WaveFilter}
    (hfilter : filter.WellFormed ids) :
    Sound r (waveRequest ids filter r) ↔ NamesPin filter r := by
  constructor
  · intro hsound hid hinstance
    have hreads := hsound.reads
    have hsize : ¬ r.instanceSize < 8 := BitVec.not_lt.mpr hinstance
    simp only [waveRequest, hid, propertyHandlerProposedFormat, if_neg hsize,
      PropertyAnswer.after] at hreads
    have hpin := hreads (filter.readPin (loadLe r.instanceData 0 4))
      (List.mem_append_left _ (List.mem_cons_of_mem _ (List.mem_singleton_self _)))
    exact WaveFilter.readPin_inBounds.mp hpin
  · intro hpin
    unfold waveRequest
    split
    · rename_i hid
      exact propertyHandlerProposedFormat_sound filter fun hsize =>
        hpin hid (BitVec.not_lt.mp hsize)
    · exact propertyHandlerProposedFormat2_sound hfilter
    · exact sound_ends r _

theorem WaveFilter.isFormatSupported_status (filter : WaveFilter) (pinId : Nat) (m : Memory)
    (within : List (Extent Nat)) :
    (filter.isFormatSupported pinId m within).1 ≠ statusBufferOverflow
      ∧ (filter.isFormatSupported pinId m within).1 ≠ statusBufferTooSmall := by
  unfold WaveFilter.isFormatSupported
  split
  · exact ⟨(by decide : statusInvalidParameter ≠ statusBufferOverflow),
      (by decide : statusInvalidParameter ≠ statusBufferTooSmall)⟩
  · dsimp only
    split
    · exact ⟨(by decide : statusSuccess ≠ statusBufferOverflow),
        (by decide : statusSuccess ≠ statusBufferTooSmall)⟩
    · exact ⟨(by decide : statusNoMatch ≠ statusBufferOverflow),
        (by decide : statusNoMatch ≠ statusBufferTooSmall)⟩

/-- What `PropertyHandlerProposedFormat` does with a format of the full size. -/
def proposedFormatAnswer (filter : WaveFilter) (r : PropertyRequest) : PropertyAnswer :=
  if r.asks kspropertyTypeGet then r.ends statusInvalidDeviceRequest
  else if r.asks kspropertyTypeSet then
    let supported := filter.isFormatSupported (loadLe r.instanceData 0 4) r.value
      [⟨0, r.valueSize.toNat⟩]
    (r.ends supported.1).after supported.2
  else r.ends statusSuccess

theorem proposedFormatAnswer_status (filter : WaveFilter) (r : PropertyRequest) :
    (proposedFormatAnswer filter r).status ≠ statusBufferOverflow
      ∧ (proposedFormatAnswer filter r).status ≠ statusBufferTooSmall := by
  unfold proposedFormatAnswer
  split
  · exact ⟨(by decide : statusInvalidDeviceRequest ≠ statusBufferOverflow),
      (by decide : statusInvalidDeviceRequest ≠ statusBufferTooSmall)⟩
  · split
    · exact filter.isFormatSupported_status _ _ _
    · exact ⟨(by decide : statusSuccess ≠ statusBufferOverflow),
        (by decide : statusSuccess ≠ statusBufferTooSmall)⟩

/-- A stream's pin takes proposals. -/
theorem propertyHandlerProposedFormat_streaming (filter : WaveFilter) {r : PropertyRequest}
    (hinstance : ¬ r.instanceSize < 8)
    (hpin : (filter.pin (loadLe r.instanceData 0 4)).pinType = .systemRender
      ∨ (filter.pin (loadLe r.instanceData 0 4)).pinType = .systemCapture) :
    propertyHandlerProposedFormat filter r = PropertyAnswer.after
      (if r.asks kspropertyTypeBasicSupport then basicSupport r r.itemFlags vtIllegal
      else sized r 104 (proposedFormatAnswer filter r))
      [r.readInstance 0 4, filter.readPin (loadLe r.instanceData 0 4)] := by
  unfold propertyHandlerProposedFormat
  rw [if_neg hinstance]
  rcases hpin with hpin | hpin
  · simp only [hpin]
    rfl
  · simp only [hpin]
    rfl

theorem propertyHandlerProposedFormat_sized (filter : WaveFilter) (r : PropertyRequest) :
    SizedOrNot (propertyHandlerProposedFormat filter) r False := by
  by_cases hinstance : r.instanceSize < 8
  · refine Or.inl fun n v isNull => ?_
    have hsize : (r.retry n v isNull).instanceSize < 8 := hinstance
    rw [propertyHandlerProposedFormat, if_pos hsize]
    exact (by decide : statusInvalidParameter ≠ statusBufferOverflow)
  · have hsize : ∀ n v isNull, ¬ (r.retry n v isNull).instanceSize < 8 := fun _ _ _ => hinstance
    by_cases hpin : (filter.pin (loadLe r.instanceData 0 4)).pinType = .systemRender
      ∨ (filter.pin (loadLe r.instanceData 0 4)).pinType = .systemCapture
    · have hanswer := fun n v isNull =>
        propertyHandlerProposedFormat_streaming filter (hsize n v isNull) hpin
      cases hbasic : r.asks kspropertyTypeBasicSupport with
      | true =>
        refine Or.inl fun n v isNull => ?_
        have hsupport : (r.retry n v isNull).asks kspropertyTypeBasicSupport = true := hbasic
        rw [hanswer, if_pos hsupport]
        exact basicSupport_status _ _ _
      | false =>
        refine Or.inr ⟨104, sizedAt_of_answer
          [r.readInstance 0 4, filter.readPin (loadLe r.instanceData 0 4)]
          (fun n v isNull => proposedFormatAnswer filter (r.retry n v isNull)) (by decide) ?_ ?_ ?_⟩
        · intro n v isNull
          have hsupport : ¬ (r.retry n v isNull).asks kspropertyTypeBasicSupport = true := by
            rw [PropertyRequest.asks_retry, hbasic]
            exact Bool.false_ne_true
          rw [hanswer, if_neg hsupport]
          rfl
        · exact fun n v isNull => proposedFormatAnswer_status filter _
        · exact fun _ hfalse => absurd hfalse not_false
    · refine Or.inl fun n v isNull => ?_
      rw [propertyHandlerProposedFormat, if_neg (hsize n v isNull)]
      have hother : (filter.pin (loadLe r.instanceData 0 4)).pinType = .noPin
          ∨ (filter.pin (loadLe r.instanceData 0 4)).pinType = .bridge := by
        cases htype : (filter.pin (loadLe r.instanceData 0 4)).pinType with
        | noPin => exact Or.inl rfl
        | bridge => exact Or.inr rfl
        | systemRender => exact absurd (Or.inl htype) hpin
        | systemCapture => exact absurd (Or.inr htype) hpin
      rcases hother with htype | htype
      · have htype' : (filter.pin (loadLe (r.retry n v isNull).instanceData 0 4)).pinType
            = .noPin := htype
        simp only [htype']
        exact (by decide : statusInvalidParameter ≠ statusBufferOverflow)
      · have htype' : (filter.pin (loadLe (r.retry n v isNull).instanceData 0 4)).pinType
            = .bridge := htype
        simp only [htype']
        exact (by decide : statusNotSupported ≠ statusBufferOverflow)

/-- The format that a request is answered with: that of the mode in its list. -/
def proposedFormat (ids : KsIds) (filter : WaveFilter) (r : PropertyRequest) :
    Except NTSTATUS WaveFormat :=
  match (getAttributesFromAttributeList ids r.instanceData 8 (r.instanceSize - 8).toNat).result with
  | .error status => .error status
  | .ok signalProcessingMode =>
    match (filter.pin (loadLe r.instanceData 0 4)).modes.find?
      fun mode => decide (mode.1 = signalProcessingMode) with
    | some (_, some f) => .ok f
    | _ => .error statusNotSupported

/-- A pin with default formats answers with one, or with a status about the list. -/
theorem propertyHandlerProposedFormat2_eq (ids : KsIds) {filter : WaveFilter} {r : PropertyRequest}
    (hinstance : ¬ r.instanceSize < 8)
    (hpin : ¬ filter.pins.length ≤ loadLe r.instanceData 0 4)
    (hmodes : ¬ (filter.pin (loadLe r.instanceData 0 4)).modes.any
      (fun mode => mode.2.isSome) = false)
    (hbasic : r.asks kspropertyTypeBasicSupport = false) :
    propertyHandlerProposedFormat2 ids filter r
      = ((match proposedFormat ids filter r with
        | .error status => r.ends status
        | .ok f => proposeFormat r f).after
          (getAttributesFromAttributeList ids r.instanceData 8
            (r.instanceSize - 8).toNat).accesses).after [r.readInstance 0 4] := by
  unfold propertyHandlerProposedFormat2 proposedFormat
  simp only [if_neg hinstance, if_neg hpin, if_neg hmodes, hbasic, Bool.false_eq_true, if_false]
  cases (getAttributesFromAttributeList ids r.instanceData 8 (r.instanceSize - 8).toNat).result with
  | error status => rfl
  | ok mode =>
    dsimp only
    split
    · rfl
    · rfl

/-- The statuses of the lists that are not accepted. -/
theorem attributeLoop_error {ids : KsIds} {m : Memory} {list : Extent Nat} {count : Nat}
    {status : NTSTATUS} : ∀ {a cbRemaining : Nat} {mode : Guid},
    (attributeLoop ids m list count a cbRemaining mode).result = .error status →
      status = statusInvalidParameter ∨ status = statusNotSupported := by
  induction count with
  | zero =>
    intro a cbRemaining mode h
    cases h
  | succ count ih =>
    intro a cbRemaining mode h
    rw [attributeLoop] at h
    split at h
    · exact Or.inl (Except.error.inj h).symm
    · rw [Traced.result_read_bind] at h
      split at h
      · exact Or.inr (Except.error.inj h).symm
      · split at h
        · exact Or.inl (Except.error.inj h).symm
        · split at h
          · exact Or.inl (Except.error.inj h).symm
          · rw [Traced.result_read_bind] at h
            exact ih h

theorem getAttributesFromAttributeList_error {ids : KsIds} {m : Memory} {base size : Nat}
    {status : NTSTATUS} (h : (getAttributesFromAttributeList ids m base size).result
      = .error status) : status = statusInvalidParameter ∨ status = statusNotSupported := by
  unfold getAttributesFromAttributeList at h
  split at h
  · exact Or.inl (Except.error.inj h).symm
  · rw [Traced.result_read_bind] at h
    exact attributeLoop_error h

theorem proposedFormat_error {ids : KsIds} {filter : WaveFilter} {r : PropertyRequest}
    {status : NTSTATUS} (h : proposedFormat ids filter r = .error status) :
    status = statusInvalidParameter ∨ status = statusNotSupported := by
  unfold proposedFormat at h
  split at h
  · rename_i hresult
    rw [← Except.error.inj h]
    exact getAttributesFromAttributeList_error hresult
  · split at h
    · cases h
    · exact Or.inr (Except.error.inj h).symm

/-- The format is the default of one of the pin's modes, and the list is one of modes. -/
theorem proposedFormat_ok {ids : KsIds} {filter : WaveFilter} {r : PropertyRequest} {f : WaveFormat}
    (h : proposedFormat ids filter r = .ok f) :
    IsModeList ids r.instanceData 8 (r.instanceSize - 8).toNat
      ∧ (listMode ids r.instanceData 8, some f)
        ∈ (filter.pin (loadLe r.instanceData 0 4)).modes := by
  unfold proposedFormat at h
  split at h
  · cases h
  · rename_i mode hresult
    obtain ⟨hlist, hmode⟩ := getAttributesFromAttributeList_ok_iff.mp hresult
    split at h
    · rename_i mode' f' hfind
      have hname := List.find?_some hfind
      rw [decide_eq_true_eq] at hname
      rw [← hmode, ← hname, ← Except.ok.inj h]
      exact ⟨hlist, List.mem_of_find?_eq_some hfind⟩
    · cases h

/-- The answer with a format of the full size, where its size does not wrap. -/
theorem proposeFormat_eq {f : WaveFormat} {r : PropertyRequest} (hf : f.formatSize = 104)
    (hwrap : ¬ 2 ^ 32 ≤ (104 : BitVec 32).toNat + (r.instanceSize - 8).toNat) :
    proposeFormat r f = sized r (104 + (r.instanceSize - 8))
      (if r.asks kspropertyTypeGet = false then r.ends statusInvalidDeviceRequest
      else ⟨statusSuccess, 104 + (r.instanceSize - 8),
        [(0, f.bytes), (4, leBytes 4 2), (104, load r.instanceData 8 (r.instanceSize - 8).toNat)],
        [r.readInstance 8 (r.instanceSize - 8).toNat]⟩) := by
  have hzero : ¬ (104 : BitVec 32) + (r.instanceSize - 8) = 0 := by
    intro hzero
    have hsize := proposeFormat_size hwrap
    have hnone : (0 : BitVec 32).toNat = 0 := rfl
    rw [hzero] at hsize
    omega
  have htake : f.bytes.take (104 : BitVec 32).toNat = f.bytes :=
    List.take_of_length_le f.length_bytes.le
  unfold proposeFormat
  simp only [hf, quadAlign_size, if_neg hwrap, if_neg hzero, htake]
  rfl

/-- The format and the list behind it fill the value. -/
theorem fills_proposedFormat (f : WaveFormat) (items : List (BitVec 8)) :
    Fills [(0, f.bytes), (4, leBytes 4 2), (104, items)] (104 + items.length) := by
  intro k hk
  by_cases hformat : k < 104
  · exact ⟨(0, f.bytes), by simp, Nat.zero_le k, by simpa using hformat⟩
  · exact ⟨(104, items), by simp, Nat.not_lt.mp hformat, hk⟩

/-- A handler that answers with a format is sized. -/
theorem proposeFormat_sizedAt {handler : PropertyRequest → PropertyAnswer} {f : WaveFormat}
    {r : PropertyRequest} (reads : List Access) (hf : f.formatSize = 104)
    (hwrap : ¬ 2 ^ 32 ≤ (104 : BitVec 32).toNat + (r.instanceSize - 8).toNat)
    (hhandler : ∀ n v isNull, handler (r.retry n v isNull)
      = (proposeFormat (r.retry n v isNull) f).after reads) :
    SizedAt handler r (104 + (r.instanceSize - 8)) True := by
  have hsize := proposeFormat_size hwrap
  refine sizedAt_of_answer reads (fun n _ _ =>
    if r.asks kspropertyTypeGet = false then ⟨statusInvalidDeviceRequest, n, [], []⟩
    else ⟨statusSuccess, 104 + (r.instanceSize - 8),
      [(0, f.bytes), (4, leBytes 4 2), (104, load r.instanceData 8 (r.instanceSize - 8).toNat)],
      [r.readInstance 8 (r.instanceSize - 8).toNat]⟩) ?_ ?_ ?_ ?_
  · refine BitVec.lt_def.mpr ?_
    rw [hsize]
    exact Nat.lt_of_lt_of_le (by decide : (0 : BitVec 32).toNat < 104) (Nat.le_add_right _ _)
  · intro n v isNull
    have hwrap' : ¬ 2 ^ 32 ≤ (104 : BitVec 32).toNat
      + ((r.retry n v isNull).instanceSize - 8).toNat := hwrap
    rw [hhandler, proposeFormat_eq hf hwrap']
    rfl
  · intro n v isNull
    split
    · exact ⟨(by decide : statusInvalidDeviceRequest ≠ statusBufferOverflow),
        (by decide : statusInvalidDeviceRequest ≠ statusBufferTooSmall)⟩
    · exact ⟨(by decide : statusSuccess ≠ statusBufferOverflow),
        (by decide : statusSuccess ≠ statusBufferTooSmall)⟩
  · intro hget _ v
    have hasks : ¬ r.asks kspropertyTypeGet = false := by
      rw [hget]
      exact Bool.noConfusion
    rw [if_neg hasks, hsize]
    refine ⟨rfl, rfl, ?_⟩
    have hfills := fills_proposedFormat f (load r.instanceData 8 (r.instanceSize - 8).toNat)
    rwa [length_load] at hfills

theorem propertyHandlerProposedFormat2_sized {ids : KsIds} {filter : WaveFilter}
    (hfilter : filter.WellFormed ids) (r : PropertyRequest) :
    SizedOrNot (propertyHandlerProposedFormat2 ids filter) r True := by
  by_cases hinstance : r.instanceSize < 8
  · refine Or.inl fun n v isNull => ?_
    have hsize : (r.retry n v isNull).instanceSize < 8 := hinstance
    rw [propertyHandlerProposedFormat2, if_pos hsize]
    exact (by decide : statusInvalidParameter ≠ statusBufferOverflow)
  · have hsize : ∀ n v isNull, ¬ (r.retry n v isNull).instanceSize < 8 := fun _ _ _ => hinstance
    by_cases hpin : filter.pins.length ≤ loadLe r.instanceData 0 4
    · refine Or.inl fun n v isNull => ?_
      have hpin' : filter.pins.length ≤ loadLe (r.retry n v isNull).instanceData 0 4 := hpin
      rw [propertyHandlerProposedFormat2, if_neg (hsize n v isNull)]
      simp only [if_pos hpin']
      exact (by decide : statusInvalidParameter ≠ statusBufferOverflow)
    · by_cases hmodes : (filter.pin (loadLe r.instanceData 0 4)).modes.any
        (fun mode => mode.2.isSome) = false
      · refine Or.inl fun n v isNull => ?_
        have hpin' : ¬ filter.pins.length ≤ loadLe (r.retry n v isNull).instanceData 0 4 := hpin
        have hmodes' : (filter.pin (loadLe (r.retry n v isNull).instanceData 0 4)).modes.any
          (fun mode => mode.2.isSome) = false := hmodes
        rw [propertyHandlerProposedFormat2, if_neg (hsize n v isNull)]
        simp only [if_neg hpin', if_pos hmodes']
        exact (by decide : statusNotSupported ≠ statusBufferOverflow)
      · cases hbasic : r.asks kspropertyTypeBasicSupport with
        | true =>
          refine Or.inl fun n v isNull => ?_
          have hpin' : ¬ filter.pins.length ≤ loadLe (r.retry n v isNull).instanceData 0 4 := hpin
          have hmodes' : ¬ (filter.pin (loadLe (r.retry n v isNull).instanceData 0 4)).modes.any
            (fun mode => mode.2.isSome) = false := hmodes
          have hsupport : (r.retry n v isNull).asks kspropertyTypeBasicSupport = true := hbasic
          rw [propertyHandlerProposedFormat2, if_neg (hsize n v isNull)]
          simp only [if_neg hpin', if_neg hmodes', if_pos hsupport]
          exact basicSupport_status _ _ _
        | false =>
          have hanswer := fun n v isNull => propertyHandlerProposedFormat2_eq ids
            (r := r.retry n v isNull) (hsize n v isNull) hpin hmodes hbasic
          cases hformat : proposedFormat ids filter r with
          | error status =>
            refine Or.inl fun n v isNull => ?_
            have hformat' : proposedFormat ids filter (r.retry n v isNull) = .error status :=
              hformat
            rw [hanswer, hformat']
            rcases proposedFormat_error hformat with rfl | rfl
            · exact (by decide : statusInvalidParameter ≠ statusBufferOverflow)
            · exact (by decide : statusNotSupported ≠ statusBufferOverflow)
          | ok f =>
            have hformat' : ∀ n v isNull, proposedFormat ids filter (r.retry n v isNull) = .ok f :=
              fun _ _ _ => hformat
            have hf := hfilter.default_size (Nat.not_le.mp hpin) (proposedFormat_ok hformat).2
            by_cases hwrap : 2 ^ 32 ≤ (104 : BitVec 32).toNat + (r.instanceSize - 8).toNat
            · refine Or.inl fun n v isNull => ?_
              have hwrap' : 2 ^ 32 ≤ (104 : BitVec 32).toNat
                + ((r.retry n v isNull).instanceSize - 8).toNat := hwrap
              rw [hanswer, hformat']
              simp only [proposeFormat, hf, quadAlign_size, if_pos hwrap']
              exact (by decide : statusInvalidParameter ≠ statusBufferOverflow)
            · refine Or.inr ⟨_, proposeFormat_sizedAt ([r.readInstance 0 4]
                ++ (getAttributesFromAttributeList ids r.instanceData 8
                  (r.instanceSize - 8).toNat).accesses) hf hwrap (fun n v isNull => ?_)⟩
              rw [hanswer, hformat', PropertyAnswer.after_after]
              rfl

/-- **The size that a wave filter answers is the size that the property takes**, and a format that
it proposes fills the value. -/
theorem waveRequest_sized {ids : KsIds} {filter : WaveFilter} (hfilter : filter.WellFormed ids)
    (r : PropertyRequest) :
    SizedOrNot (waveRequest ids filter) r (r.id = .pinProposeDataFormat2) := by
  cases hid : r.id with
  | pinProposeDataFormat =>
    refine ((propertyHandlerProposedFormat_sized filter r).congr fun n v isNull => ?_).mono ?_
    · simp [waveRequest, PropertyRequest.retry, hid]
    · exact fun h => by cases h
  | pinProposeDataFormat2 =>
    refine ((propertyHandlerProposedFormat2_sized hfilter r).congr fun n v isNull => ?_).mono ?_
    · simp [waveRequest, PropertyRequest.retry, hid]
    · exact fun _ => trivial
  | _ =>
    refine Or.inl fun n v isNull => ?_
    simp only [waveRequest, PropertyRequest.retry, hid]
    exact (by decide : statusInvalidDeviceRequest ≠ statusBufferOverflow)

/-- **The requests of a wave filter**: each one is answered soundly unless it proposes a format for
a pin that the filter does not have, and with the size that its values have to have.  That one is
looked up in the table before the number of the pin is compared with anything; what else is read or
written stands behind a comparison with the size of its buffer. -/
theorem waveRequest_answered {ids : KsIds} {filter : WaveFilter} (hfilter : filter.WellFormed ids)
    (r : PropertyRequest) :
    (Sound r (waveRequest ids filter r) ↔ NamesPin filter r)
      ∧ SizedOrNot (waveRequest ids filter) r (r.id = .pinProposeDataFormat2) :=
  ⟨waveRequest_sound_iff hfilter, waveRequest_sized hfilter r⟩

/-- The speaker and the proposal of a format for its pin 7. -/
theorem waveRequest_answered_speaker :
    let ids : KsIds := ⟨1, 2, 3, 4, 5, 6, 7⟩
    let r : PropertyRequest := ⟨kspropertyTypeSet, .pinProposeDataFormat, 0, 8,
      fun i => if i = 0 then 7 else 0, 104, fun _ => 0, false⟩
    (Sound r (waveRequest ids (speakerFilter ids) r) ↔ NamesPin (speakerFilter ids) r)
      ∧ SizedOrNot (waveRequest ids (speakerFilter ids)) r (r.id = .pinProposeDataFormat2) :=
  waveRequest_answered (speakerFilter_wellFormed _) _

end Requests

end WoaRk3576.Audio
