/-
# csaudiork3x: the property requests of the topology filters

A client asks a filter for a property with two buffers: the instance data that select the pin, and
the value.  With an empty value it asks for the size; with a value that is too small it is turned
down; else the handler fills the value in.  The jack descriptions of the render filters and of the
microphone jack, and the geometry, the sensitivity and the jack descriptions of the microphone
array are answered here.

  * `Sound`: what a handler touches is inside of what the request brings along.  A handler reads
    the pin number behind a test of `InstanceSize`, and each write stands behind a comparison of
    `ValueSize` with the size of what is written (`topologyRequest_sound`).
  * `SizedAt`: one number is the size in the answer to an empty value, the bound under which a
    value is turned down, and the number of bytes that a second `GET` fills in.  The three are
    tests of one constant of the handler, so for each handler there is just the constant to name
    (`topologyRequest_sized`).

Two things are not promised.  From that size on no value is turned down for its size, but it may be
for its verb: a `SET` gets `STATUS_INVALID_DEVICE_REQUEST`.  And the levels of the microphones are
written under a saved floating point state; where `KeSaveFloatingPointState` fails the second `GET`
still succeeds and reports four bytes, and writes none.  `TopologyFilter.Ready` is the assumption
that it does not fail.
-/
import WoaRk3576.Audio.StreamSlots
import WoaRk3576.Lib.Access
import WoaRk3576.Lib.Memory

namespace WoaRk3576.Audio

open WoaRk3576.Lib
open WoaRk3576.Acpi (NTSTATUS ntSuccess statusSuccess statusBufferOverflow statusBufferTooSmall
  ntSuccess_statusSuccess)

/-! ## 1. Requests and answers

An answer does not change memory by itself; it lists its writes and reads, each relative to the
buffer it is meant for.  So it can be asked of the answer alone whether it stays inside the buffers
of the request. -/

def statusInvalidDeviceRequest : NTSTATUS := 0xC0000010
def statusInvalidParameter : NTSTATUS := 0xC000000D

/-- The properties of the filters' tables: `Set` and `Id` of the item. -/
inductive PropertyId
  | jackDescription
  | jackDescription2
  | micArrayGeometry
  | micSensitivity2
  | micSnr
  | pinProposeDataFormat
  | pinProposeDataFormat2
  | other
  deriving DecidableEq, Repr

/-- `PCPROPERTY_REQUEST`, with the memory that it points to. -/
structure PropertyRequest where
  verb : BitVec 32
  id : PropertyId
  itemFlags : BitVec 32
  instanceSize : BitVec 32
  instanceData : Memory
  valueSize : BitVec 32
  value : Memory
  /-- `Value` is `NULL`. -/
  valueIsNull : Bool

/-- What a handler answers: the status, `ValueSize` as it leaves it, what it writes to the value,
and what it reads. -/
structure PropertyAnswer where
  status : NTSTATUS
  valueSize : BitVec 32
  writes : List (Nat × List (BitVec 8))
  reads : List Access

def kspropertyTypeGet : BitVec 32 := 0x1
def kspropertyTypeSet : BitVec 32 := 0x2
def kspropertyTypeBasicSupport : BitVec 32 := 0x200

namespace PropertyRequest

variable (r : PropertyRequest)

/-- `Verb & flag`. -/
def asks (flag : BitVec 32) : Bool := decide (r.verb &&& flag ≠ 0)

/-- A read of the instance data. -/
def readInstance (i n : Nat) : Access := ⟨⟨i, n⟩, [⟨0, r.instanceSize.toNat⟩]⟩

/-- A status, and nothing else. -/
def ends (status : NTSTATUS) : PropertyAnswer := ⟨status, r.valueSize, [], []⟩

/-- The same request with another value. -/
def retry (valueSize : BitVec 32) (value : Memory) (valueIsNull : Bool) : PropertyRequest :=
  { r with valueSize, value, valueIsNull }

end PropertyRequest

/-- The answer, after these reads. -/
def PropertyAnswer.after (a : PropertyAnswer) (reads : List Access) : PropertyAnswer :=
  { a with reads := reads ++ a.reads }

theorem PropertyAnswer.after_after (a : PropertyAnswer) (reads others : List Access) :
    (a.after reads).after others = a.after (others ++ reads) := by
  simp [PropertyAnswer.after]

/-! ## 2. What the handlers share

Nearly every handler goes through one of two forms: the support of a property is asked for, or a
value of a known size.  Both are written once, with the size and the bytes as parameters, and the
handlers below are instances of them. -/

/-- `VT_ILLEGAL`. -/
def vtIllegal : BitVec 32 := 0xFFFF

/-- `KSPROPTYPESETID_General`, as it lies in memory. -/
def propTypeSetIdGeneral : List (BitVec 8) :=
  [0xA0, 0x9B, 0xE9, 0x97, 0xEA, 0xBD, 0xCF, 0x11, 0xA5, 0xD6, 0x28, 0xDB, 0x04, 0xC1, 0x00, 0x00]

/-- `KSPROPERTY_DESCRIPTION`. -/
def propertyDescription (flags propTypeSetId : BitVec 32) : List (BitVec 8) :=
  leBytes 4 flags.toNat ++ leBytes 4 40
    ++ (if propTypeSetId ≠ vtIllegal then propTypeSetIdGeneral ++ leBytes 4 propTypeSetId.toNat
      else List.replicate 16 0 ++ leBytes 4 0)
    ++ leBytes 4 0 ++ leBytes 4 0 ++ leBytes 4 0

/-- **`PropertyHandler_BasicSupport`**. -/
def basicSupport (r : PropertyRequest) (flags propTypeSetId : BitVec 32) : PropertyAnswer :=
  if 40 ≤ r.valueSize then
    ⟨statusSuccess, 40, [(0, propertyDescription flags propTypeSetId)], []⟩
  else if 4 ≤ r.valueSize then ⟨statusSuccess, 4, [(0, leBytes 4 flags.toNat)], []⟩
  else ⟨statusBufferTooSmall, 0, [], []⟩

/-- **`ValidatePropertyParams`**: the status, and `ValueSize` as it leaves it. -/
def validatePropertyParams (r : PropertyRequest) (cbValueSize cbInstanceSize : BitVec 32) :
    NTSTATUS × BitVec 32 :=
  if cbValueSize = 0 then (statusInvalidParameter, 0)
  else if r.valueSize = 0 then (statusBufferOverflow, cbValueSize)
  else if r.valueSize < cbValueSize then (statusBufferTooSmall, 0)
  else if r.instanceSize < cbInstanceSize then (statusBufferTooSmall, 0)
  else if r.valueIsNull then (statusUnsuccessful, 0)
  else (statusSuccess, r.valueSize)

/-- The three cases of a value of `cbNeeded` bytes. -/
def sized (r : PropertyRequest) (cbNeeded : BitVec 32) (a : PropertyAnswer) : PropertyAnswer :=
  if r.valueSize = 0 then ⟨statusBufferOverflow, cbNeeded, [], []⟩
  else if r.valueSize < cbNeeded then r.ends statusBufferTooSmall
  else a

/-- What the handlers of a pin's property share: a value of `cbNeeded` bytes for the pins that have
it. -/
def pinProperty (r : PropertyRequest) (cbNeeded : BitVec 32)
    (data : Nat → Option (List (BitVec 8))) : PropertyAnswer :=
  if r.instanceSize < 4 then r.ends statusInvalidDeviceRequest
  else
    PropertyAnswer.after
      (match data (loadLe r.instanceData 0 4) with
      | none => r.ends statusInvalidDeviceRequest
      | some bytes =>
        if r.asks kspropertyTypeBasicSupport then
          basicSupport r (kspropertyTypeBasicSupport ||| kspropertyTypeGet) vtIllegal
        else
          sized r cbNeeded
            (if r.asks kspropertyTypeGet then ⟨statusSuccess, r.valueSize, [(0, bytes)], []⟩
            else r.ends statusInvalidDeviceRequest))
      [r.readInstance 0 4]

/-! ## 3. The properties of the topology filters

The handlers with their values, as the source has them.  The filters with jacks differ in their
tables only; the microphone array has handlers of its own, and its levels need the floating point
state of the processor. -/

/-- `KSJACK_DESCRIPTION`. -/
structure JackDescription where
  channelMapping : BitVec 32
  color : BitVec 32
  connectionType : BitVec 32
  geoLocation : BitVec 32
  genLocation : BitVec 32
  portConnection : BitVec 32
  isConnected : BitVec 32
  deriving DecidableEq, Repr

def JackDescription.bytes (j : JackDescription) : List (BitVec 8) :=
  leBytes 4 j.channelMapping.toNat ++ leBytes 4 j.color.toNat ++ leBytes 4 j.connectionType.toNat
    ++ leBytes 4 j.geoLocation.toNat ++ leBytes 4 j.genLocation.toNat
    ++ leBytes 4 j.portConnection.toNat ++ leBytes 4 j.isConnected.toNat

/-- `KSMULTIPLE_ITEM`. -/
def multipleItem (size count : Nat) : List (BitVec 8) := leBytes 4 size ++ leBytes 4 count

/-- `CMiniportTopology::PropertyHandlerJackDescription`. -/
def jackDescription (descriptions : List (Option JackDescription)) (r : PropertyRequest) :
    PropertyAnswer :=
  pinProperty r 36 fun nPinId =>
    (descriptions[nPinId]?).join.map fun j => multipleItem 36 1 ++ j.bytes

/-- `CMiniportTopology::PropertyHandlerJackDescription2`. -/
def jackDescription2 (descriptions : List (Option JackDescription)) (jackCapabilities : BitVec 32)
    (r : PropertyRequest) : PropertyAnswer :=
  pinProperty r 16 fun nPinId =>
    (descriptions[nPinId]?).join.map fun _ =>
      multipleItem 16 1 ++ leBytes 4 0 ++ leBytes 4 jackCapabilities.toNat

def kspinTopoMicElements : Nat := 0

/-- The geometry: two cardioid microphones in a line, 20 cm apart. -/
def micArrayGeometry : List (BitVec 8) :=
  [0x0100, 0, 0x10000 - 7854, 7854, 0, 0, 100, 8000, 2].flatMap (leBytes 2)
    ++ [2, 0, 100, 0, 0, 0].flatMap (leBytes 2) ++ [2, 0, 0x10000 - 100, 0, 0, 0].flatMap (leBytes 2)

/-- `PropertyHandlerMicArrayGeometry`. -/
def propertyHandlerMicArrayGeometry (r : PropertyRequest) : PropertyAnswer :=
  pinProperty r 42 fun nPinId =>
    if nPinId = kspinTopoMicElements then some micArrayGeometry else none

/-- The jack of the microphones: integrated, in front. -/
def micArrayJack : JackDescription := ⟨0, 0, 0, 2, 0, 1, 1⟩

/-- `CMicArrayMiniportTopology::PropertyHandlerJackDescription`. -/
def micArrayJackDescription (r : PropertyRequest) : PropertyAnswer :=
  pinProperty r 36 fun nPinId =>
    if nPinId = kspinTopoMicElements then some (multipleItem 36 1 ++ micArrayJack.bytes) else none

/-- `CMicArrayMiniportTopology::PropertyHandlerJackDescription2`. -/
def micArrayJackDescription2 (r : PropertyRequest) : PropertyAnswer :=
  pinProperty r 16 fun nPinId =>
    if nPinId = kspinTopoMicElements then some (multipleItem 16 1 ++ leBytes 4 0 ++ leBytes 4 0)
    else none

/-- The microphones, and whether the floating point state can be saved. -/
structure MicArray where
  /-- `FloatToFixedPoint16_16(MICARRAY_SNR)`. -/
  snr : BitVec 32
  /-- `FloatToFixedPoint16_16(MICARRAY_SENSITIVITY2)`. -/
  sensitivity2 : BitVec 32
  floatingPointSaved : Bool
  deriving DecidableEq, Repr

/-- **`PropertyHandlerMicProperties`**: without the floating point state it succeeds too, and leaves
the value as it is. -/
def propertyHandlerMicProperties (mic : MicArray) (r : PropertyRequest) : PropertyAnswer :=
  if r.instanceSize < 4 then r.ends statusInvalidDeviceRequest
  else
    PropertyAnswer.after
      (if loadLe r.instanceData 0 4 ≠ kspinTopoMicElements then r.ends statusInvalidDeviceRequest
      else if r.asks kspropertyTypeBasicSupport then
        basicSupport r (kspropertyTypeBasicSupport ||| kspropertyTypeGet) vtIllegal
      else
        let (status, valueSize) := validatePropertyParams r 4 0
        if ntSuccess status = false then ⟨status, valueSize, [], []⟩
        else if r.asks kspropertyTypeGet then
          let writes (level : BitVec 32) :=
            if mic.floatingPointSaved then [(0, leBytes 4 level.toNat)] else []
          if r.id = .micSnr then ⟨statusSuccess, valueSize, writes mic.snr, []⟩
          else if r.id = .micSensitivity2 then ⟨statusSuccess, valueSize, writes mic.sensitivity2, []⟩
          else ⟨status, valueSize, [], []⟩
        else ⟨statusInvalidDeviceRequest, valueSize, [], []⟩)
      [r.readInstance 0 4]

/-- A topology filter: one with a table of jacks (`CMiniportTopology`), or that of the microphone
array. -/
inductive TopologyFilter
  | jacks (descriptions : List (Option JackDescription))
  | micArray (mic : MicArray)

/-- **The handler of a topology filter**: `PropertyHandler_SpeakerTopoFilter` and its siblings, and
`PropertyHandler_MicArrayTopoFilter`. -/
def topologyRequest (filter : TopologyFilter) (r : PropertyRequest) : PropertyAnswer :=
  match filter, r.id with
  | .jacks descriptions, .jackDescription => jackDescription descriptions r
  | .jacks descriptions, .jackDescription2 => jackDescription2 descriptions 0 r
  | .micArray _, .micArrayGeometry => propertyHandlerMicArrayGeometry r
  | .micArray mic, .micSensitivity2 => propertyHandlerMicProperties mic r
  | .micArray mic, .micSnr => propertyHandlerMicProperties mic r
  | .micArray _, .jackDescription => micArrayJackDescription r
  | .micArray _, .jackDescription2 => micArrayJackDescription2 r
  | _, _ => r.ends statusInvalidDeviceRequest

/-! ## 4. Sound answers

Soundness is proved for the two common forms and for one write at the start of the value; the
handlers follow from these, each by the size of its own bytes. -/

/-- What a handler reads and writes is inside of the request's buffers, and with success it never
answers a size beyond the value. -/
structure Sound (r : PropertyRequest) (a : PropertyAnswer) : Prop where
  reads : AllInBounds a.reads
  writes : ∀ w ∈ a.writes, w.1 + w.2.length ≤ r.valueSize.toNat
  size : a.status = statusSuccess → a.valueSize ≤ r.valueSize

@[simp]
theorem PropertyRequest.asks_retry (r : PropertyRequest) (flag n : BitVec 32) (v : Memory)
    (isNull : Bool) : (r.retry n v isNull).asks flag = r.asks flag := rfl

theorem sound_ends (r : PropertyRequest) (status : NTSTATUS) : Sound r (r.ends status) where
  reads := allInBounds_nil
  writes _ hw := absurd hw List.not_mem_nil
  size _ := BitVec.le_refl _

/-- A status other than success, with any size. -/
theorem sound_failed (r : PropertyRequest) {status : NTSTATUS} (valueSize : BitVec 32)
    (h : status ≠ statusSuccess) : Sound r ⟨status, valueSize, [], []⟩ where
  reads := allInBounds_nil
  writes _ hw := absurd hw List.not_mem_nil
  size hsuccess := absurd hsuccess h

/-- One write from the start of the value. -/
theorem sound_write {r : PropertyRequest} {valueSize : BitVec 32} {bytes : List (BitVec 8)}
    (hsize : valueSize ≤ r.valueSize) (hlen : bytes.length ≤ r.valueSize.toNat) :
    Sound r ⟨statusSuccess, valueSize, [(0, bytes)], []⟩ where
  reads := allInBounds_nil
  writes w hw := by
    rw [List.mem_singleton.mp hw, Nat.zero_add]
    exact hlen
  size _ := hsize

theorem sound_after {r : PropertyRequest} {a : PropertyAnswer} {reads : List Access}
    (h : Sound r a) (hreads : AllInBounds reads) : Sound r (a.after reads) where
  reads := allInBounds_append.mpr ⟨hreads, h.reads⟩
  writes := h.writes
  size := h.size

@[simp]
theorem PropertyRequest.readInstance_inBounds {r : PropertyRequest} {i n : Nat} :
    (r.readInstance i n).InBounds ↔ n = 0 ∨ i + n ≤ r.instanceSize.toNat := by
  rw [readInstance, inBounds_one, Extent.bytes_subset_iff]
  simp

@[simp]
theorem length_propertyDescription (flags propTypeSetId : BitVec 32) :
    (propertyDescription flags propTypeSetId).length = 40 := by
  unfold propertyDescription
  split <;> simp [propTypeSetIdGeneral]

/-- `PropertyHandler_BasicSupport` is sound. -/
theorem basicSupport_sound (r : PropertyRequest) (flags propTypeSetId : BitVec 32) :
    Sound r (basicSupport r flags propTypeSetId) := by
  unfold basicSupport
  split
  · rename_i hroom
    exact sound_write hroom (by rw [length_propertyDescription]; exact hroom)
  · split
    · rename_i hroom
      exact sound_write hroom (by rw [length_leBytes]; exact hroom)
    · exact sound_failed r 0 (by decide)

/-- Where the answer is sound for a value that is large enough. -/
theorem sized_sound {r : PropertyRequest} {cbNeeded : BitVec 32} {a : PropertyAnswer}
    (h : cbNeeded ≤ r.valueSize → Sound r a) : Sound r (sized r cbNeeded a) := by
  unfold sized
  split
  · exact sound_failed r cbNeeded (by decide)
  · split
    · exact sound_ends r _
    · rename_i hroom
      exact h (BitVec.not_lt.mp hroom)

theorem instance_read_inBounds {r : PropertyRequest} (h : ¬ r.instanceSize < 4) :
    AllInBounds [r.readInstance 0 4] := by
  have hfour : (4#32).toNat ≤ r.instanceSize.toNat := BitVec.not_lt.mp h
  refine allInBounds_cons.mpr ⟨PropertyRequest.readInstance_inBounds.mpr (Or.inr ?_),
    allInBounds_nil⟩
  simpa using hfour

/-- The properties of a pin, where the bytes are as many as are asked for. -/
theorem pinProperty_sound (r : PropertyRequest) {cbNeeded : BitVec 32}
    {data : Nat → Option (List (BitVec 8))}
    (hdata : ∀ n bytes, data n = some bytes → bytes.length = cbNeeded.toNat) :
    Sound r (pinProperty r cbNeeded data) := by
  unfold pinProperty
  split
  · exact sound_ends r _
  · rename_i hinstance
    refine sound_after ?_ (instance_read_inBounds hinstance)
    split
    · exact sound_ends r _
    · rename_i bytes hbytes
      split
      · exact basicSupport_sound r _ _
      · refine sized_sound fun hroom => ?_
        split
        · refine sound_write (BitVec.le_refl _) ?_
          rw [hdata _ _ hbytes]
          exact hroom
        · exact sound_ends r _

theorem jackBytes_length (j : JackDescription) : (multipleItem 36 1 ++ j.bytes).length = 36 := by
  simp [multipleItem, JackDescription.bytes]

theorem jackDescription_length (descriptions : List (Option JackDescription)) (n : Nat)
    (bytes : List (BitVec 8))
    (h : ((descriptions[n]?).join.map fun j => multipleItem 36 1 ++ j.bytes) = some bytes) :
    bytes.length = (36#32).toNat := by
  obtain ⟨j, -, rfl⟩ := Option.map_eq_some_iff.mp h
  exact jackBytes_length j

theorem jackDescription2_length (descriptions : List (Option JackDescription))
    (capabilities : BitVec 32) (n : Nat) (bytes : List (BitVec 8))
    (h : ((descriptions[n]?).join.map fun _ =>
      multipleItem 16 1 ++ leBytes 4 0 ++ leBytes 4 capabilities.toNat) = some bytes) :
    bytes.length = (16#32).toNat := by
  obtain ⟨j, -, rfl⟩ := Option.map_eq_some_iff.mp h
  simp [multipleItem]

theorem onMicElements_length {all : List (BitVec 8)} {len : Nat} (h : all.length = len) (n : Nat)
    (bytes : List (BitVec 8)) (hsome : (if n = kspinTopoMicElements then some all else none)
      = some bytes) : bytes.length = len := by
  rw [Option.ite_none_right_eq_some] at hsome
  rw [← Option.some.inj hsome.2, h]

/-- The cases of `ValidatePropertyParams` where no instance data are asked for. -/
theorem validatePropertyParams_cases (r : PropertyRequest) {cb : BitVec 32} (hcb : cb ≠ 0) :
    (r.valueSize = 0 ∧ validatePropertyParams r cb 0 = (statusBufferOverflow, cb))
      ∨ (r.valueSize ≠ 0 ∧ r.valueSize < cb
        ∧ validatePropertyParams r cb 0 = (statusBufferTooSmall, 0))
      ∨ (cb ≤ r.valueSize ∧ r.valueIsNull = true
        ∧ validatePropertyParams r cb 0 = (statusUnsuccessful, 0))
      ∨ (cb ≤ r.valueSize ∧ r.valueIsNull = false
        ∧ validatePropertyParams r cb 0 = (statusSuccess, r.valueSize)) := by
  have hinstance : ¬ r.instanceSize < 0 := Nat.not_lt_zero _
  unfold validatePropertyParams
  rw [if_neg hcb, if_neg hinstance]
  by_cases hzero : r.valueSize = 0
  · exact Or.inl ⟨hzero, if_pos hzero⟩
  · rw [if_neg hzero]
    by_cases hshort : r.valueSize < cb
    · exact Or.inr (Or.inl ⟨hzero, hshort, if_pos hshort⟩)
    · rw [if_neg hshort]
      have hroom : cb ≤ r.valueSize := BitVec.not_lt.mp hshort
      cases hnull : r.valueIsNull with
      | true => exact Or.inr (Or.inr (Or.inl ⟨hroom, rfl, rfl⟩))
      | false => exact Or.inr (Or.inr (Or.inr ⟨hroom, rfl, rfl⟩))

/-- A level that is written where the floating point state is saved. -/
theorem sound_level {r : PropertyRequest} (hroom : 4 ≤ r.valueSize) (saved : Bool)
    (level : BitVec 32) : Sound r ⟨statusSuccess, r.valueSize,
      if saved then [(0, leBytes 4 level.toNat)] else [], []⟩ := by
  cases saved with
  | true => exact sound_write (BitVec.le_refl _) (by rw [length_leBytes]; exact hroom)
  | false => exact sound_ends r _

/-- The levels of the microphones. -/
theorem propertyHandlerMicProperties_sound (mic : MicArray) (r : PropertyRequest) :
    Sound r (propertyHandlerMicProperties mic r) := by
  unfold propertyHandlerMicProperties
  split
  · exact sound_ends r _
  · rename_i hinstance
    refine sound_after ?_ (instance_read_inBounds hinstance)
    split
    · exact sound_ends r _
    · split
      · exact basicSupport_sound r _ _
      · rcases validatePropertyParams_cases r (by decide : (4 : BitVec 32) ≠ 0) with
          ⟨-, heq⟩ | ⟨-, -, heq⟩ | ⟨-, -, heq⟩ | ⟨hroom, -, heq⟩
        · rw [heq]
          exact sound_failed r 4 (by decide)
        · rw [heq]
          exact sound_failed r 0 (by decide)
        · rw [heq]
          exact sound_failed r 0 (by decide)
        · rw [heq]
          have hlevel := sound_level hroom mic.floatingPointSaved
          simp only [ntSuccess_statusSuccess, Bool.true_eq_false, if_false]
          split
          · split
            · exact hlevel mic.snr
            · split
              · exact hlevel mic.sensitivity2
              · exact sound_ends r _
          · exact sound_ends r _

/-- **Every request to a topology filter is answered soundly.** -/
theorem topologyRequest_sound (filter : TopologyFilter) (r : PropertyRequest) :
    Sound r (topologyRequest filter r) := by
  unfold topologyRequest
  split
  · exact pinProperty_sound r (jackDescription_length _)
  · exact pinProperty_sound r (jackDescription2_length _ _)
  · exact pinProperty_sound r (onMicElements_length (by decide))
  · exact propertyHandlerMicProperties_sound _ r
  · exact propertyHandlerMicProperties_sound _ r
  · exact pinProperty_sound r (onMicElements_length (by decide))
  · exact pinProperty_sound r (onMicElements_length (by decide))
  · exact sound_ends r _

/-! ## 5. Asking for the size first

A client asks with an empty value, allocates what it is told and asks again.  Whether that works is
a property of all answers to one request, with every size of the value, and it is again proved for
the common forms.  What a handler still needs besides the size, as the microphones do, is the
condition `Ready`. -/

/-- Each of the first `len` bytes is written. -/
def Fills (writes : List (Nat × List (BitVec 8))) (len : Nat) : Prop :=
  ∀ k, k < len → ∃ w ∈ writes, w.1 ≤ k ∧ k < w.1 + w.2.length

theorem fills_one {bytes : List (BitVec 8)} {len : Nat} (h : bytes.length = len) :
    Fills [(0, bytes)] len :=
  fun k hk => ⟨_, List.mem_singleton_self _, Nat.zero_le k, by rw [h, Nat.zero_add]; exact hk⟩

/-- What the values of a request may be: `need` bytes at least.  An empty one is answered with that
size, a smaller one is turned down, a larger one is not turned down for its size, and one of that
size is filled in by a `GET` of a handler that is ready. -/
structure SizedAt (handler : PropertyRequest → PropertyAnswer) (r : PropertyRequest)
    (need : BitVec 32) (ready : Prop) : Prop where
  pos : 0 < need
  asked : ∀ v isNull, (handler (r.retry 0 v isNull)).status = statusBufferOverflow
    ∧ (handler (r.retry 0 v isNull)).valueSize = need
  short : ∀ n v isNull, n ≠ 0 → n < need →
    (handler (r.retry n v isNull)).status = statusBufferTooSmall
  enough : ∀ n v isNull, need ≤ n →
    (handler (r.retry n v isNull)).status ≠ statusBufferOverflow
      ∧ (handler (r.retry n v isNull)).status ≠ statusBufferTooSmall
  filled : r.asks kspropertyTypeGet = true → ready → ∀ v,
    (handler (r.retry need v false)).status = statusSuccess
      ∧ (handler (r.retry need v false)).valueSize = need
      ∧ Fills (handler (r.retry need v false)).writes need.toNat

/-- No value of the request is answered with a size. -/
def Unsized (handler : PropertyRequest → PropertyAnswer) (r : PropertyRequest) : Prop :=
  ∀ n v isNull, (handler (r.retry n v isNull)).status ≠ statusBufferOverflow

/-- One size for the values of a request, or none. -/
def SizedOrNot (handler : PropertyRequest → PropertyAnswer) (r : PropertyRequest) (ready : Prop) :
    Prop := Unsized handler r ∨ ∃ need, SizedAt handler r need ready

/-- It is about the answers to the request only. -/
theorem SizedOrNot.congr {handler h : PropertyRequest → PropertyAnswer} {r : PropertyRequest}
    {ready : Prop} (hs : SizedOrNot h r ready)
    (heq : ∀ n v isNull, handler (r.retry n v isNull) = h (r.retry n v isNull)) :
    SizedOrNot handler r ready := by
  rcases hs with hunsized | ⟨need, hsized⟩
  · refine Or.inl fun n v isNull => ?_
    rw [heq]
    exact hunsized n v isNull
  · refine Or.inr ⟨need, hsized.pos, ?_, ?_, ?_, ?_⟩
    · intro v isNull
      rw [heq]
      exact hsized.asked v isNull
    · intro n v isNull
      rw [heq]
      exact hsized.short n v isNull
    · intro n v isNull
      rw [heq]
      exact hsized.enough n v isNull
    · intro hget hready v
      rw [heq]
      exact hsized.filled hget hready v

/-- A stronger condition on the handler. -/
theorem SizedOrNot.mono {handler : PropertyRequest → PropertyAnswer} {r : PropertyRequest}
    {ready ready' : Prop} (hs : SizedOrNot handler r ready) (h : ready' → ready) :
    SizedOrNot handler r ready' := by
  rcases hs with hunsized | ⟨need, hsized⟩
  · exact Or.inl hunsized
  · exact Or.inr ⟨need, hsized.pos, hsized.asked, hsized.short, hsized.enough,
      fun hget hready => hsized.filled hget (h hready)⟩

theorem basicSupport_status (r : PropertyRequest) (flags propTypeSetId : BitVec 32) :
    (basicSupport r flags propTypeSetId).status ≠ statusBufferOverflow := by
  unfold basicSupport
  split
  · exact (by decide : statusSuccess ≠ statusBufferOverflow)
  · split
    · exact (by decide : statusSuccess ≠ statusBufferOverflow)
    · exact (by decide : statusBufferTooSmall ≠ statusBufferOverflow)

theorem sized_of_zero {r : PropertyRequest} (cbNeeded : BitVec 32) (a : PropertyAnswer)
    (h : r.valueSize = 0) : sized r cbNeeded a = ⟨statusBufferOverflow, cbNeeded, [], []⟩ :=
  if_pos h

theorem sized_of_short {r : PropertyRequest} {cbNeeded : BitVec 32} (a : PropertyAnswer)
    (hzero : r.valueSize ≠ 0) (h : r.valueSize < cbNeeded) :
    sized r cbNeeded a = r.ends statusBufferTooSmall := by
  rw [sized, if_neg hzero, if_pos h]

theorem sized_of_room {r : PropertyRequest} {cbNeeded : BitVec 32} (a : PropertyAnswer)
    (hpos : 0 < cbNeeded) (h : cbNeeded ≤ r.valueSize) : sized r cbNeeded a = a := by
  have hzero : r.valueSize ≠ 0 := by
    intro hzero
    rw [hzero] at h
    exact absurd hpos (BitVec.not_lt.mpr h)
  rw [sized, if_neg hzero, if_neg (BitVec.not_lt.mpr h)]

/-- **A handler that answers by the size of the value**, and what it does with a value that is
large enough. -/
theorem sizedAt_of_answer {handler : PropertyRequest → PropertyAnswer} {r : PropertyRequest}
    {need : BitVec 32} {ready : Prop} (reads : List Access)
    (answer : BitVec 32 → Memory → Bool → PropertyAnswer) (hpos : 0 < need)
    (hhandler : ∀ n v isNull, handler (r.retry n v isNull)
      = (sized (r.retry n v isNull) need (answer n v isNull)).after reads)
    (hstatus : ∀ n v isNull, (answer n v isNull).status ≠ statusBufferOverflow
      ∧ (answer n v isNull).status ≠ statusBufferTooSmall)
    (hfilled : r.asks kspropertyTypeGet = true → ready → ∀ v,
      (answer need v false).status = statusSuccess ∧ (answer need v false).valueSize = need
        ∧ Fills (answer need v false).writes need.toNat) :
    SizedAt handler r need ready := by
  constructor
  · exact hpos
  · intro v isNull
    rw [hhandler, sized_of_zero _ _ rfl]
    exact ⟨rfl, rfl⟩
  · intro n v isNull hzero hshort
    rw [hhandler, sized_of_short _ hzero hshort]
    rfl
  · intro n v isNull hroom
    rw [hhandler, sized_of_room _ hpos hroom]
    exact hstatus n v isNull
  · intro hget hready v
    rw [hhandler, sized_of_room _ hpos (BitVec.le_refl _)]
    exact hfilled hget hready v

/-- A property of a pin that has it. -/
theorem pinProperty_sizedAt {r : PropertyRequest} {cbNeeded : BitVec 32}
    {data : Nat → Option (List (BitVec 8))} {bytes : List (BitVec 8)} (ready : Prop)
    (hpos : 0 < cbNeeded) (hinstance : ¬ r.instanceSize < 4)
    (hbytes : data (loadLe r.instanceData 0 4) = some bytes)
    (hlen : bytes.length = cbNeeded.toNat)
    (hbasic : r.asks kspropertyTypeBasicSupport = false) :
    SizedAt (fun r => pinProperty r cbNeeded data) r cbNeeded ready := by
  refine sizedAt_of_answer [r.readInstance 0 4] (fun n _ _ =>
    if r.asks kspropertyTypeGet then ⟨statusSuccess, n, [(0, bytes)], []⟩
    else ⟨statusInvalidDeviceRequest, n, [], []⟩) hpos ?_ ?_ ?_
  · intro n v isNull
    have hdata : data (loadLe (r.retry n v isNull).instanceData 0 4) = some bytes := hbytes
    have hsupport : (r.retry n v isNull).asks kspropertyTypeBasicSupport = false := hbasic
    have hsize : ¬ (r.retry n v isNull).instanceSize < 4 := hinstance
    rw [pinProperty, if_neg hsize, hdata]
    simp only [hsupport, Bool.false_eq_true, if_false]
    rfl
  · intro n v isNull
    split
    · exact ⟨(by decide : statusSuccess ≠ statusBufferOverflow),
        (by decide : statusSuccess ≠ statusBufferTooSmall)⟩
    · exact ⟨(by decide : statusInvalidDeviceRequest ≠ statusBufferOverflow),
        (by decide : statusInvalidDeviceRequest ≠ statusBufferTooSmall)⟩
  · intro hget _ v
    rw [if_pos hget]
    exact ⟨rfl, rfl, fills_one hlen⟩

/-- **A property of a pin** is sized, or no value of it is. -/
theorem pinProperty_sized (r : PropertyRequest) {cbNeeded : BitVec 32}
    {data : Nat → Option (List (BitVec 8))} (ready : Prop) (hpos : 0 < cbNeeded)
    (hdata : ∀ n bytes, data n = some bytes → bytes.length = cbNeeded.toNat) :
    SizedOrNot (fun r => pinProperty r cbNeeded data) r ready := by
  have hother : statusInvalidDeviceRequest ≠ statusBufferOverflow := by decide
  by_cases hinstance : r.instanceSize < 4
  · refine Or.inl fun n v isNull => ?_
    have hsize : (r.retry n v isNull).instanceSize < 4 := hinstance
    simp only [pinProperty, if_pos hsize]
    exact hother
  · have hsize : ∀ n v isNull, ¬ (r.retry n v isNull).instanceSize < 4 := fun _ _ _ => hinstance
    cases hbytes : data (loadLe r.instanceData 0 4) with
    | none =>
      refine Or.inl fun n v isNull => ?_
      have hnone : data (loadLe (r.retry n v isNull).instanceData 0 4) = none := hbytes
      simp only [pinProperty, if_neg (hsize n v isNull), hnone]
      exact hother
    | some bytes =>
      cases hbasic : r.asks kspropertyTypeBasicSupport with
      | false =>
        exact Or.inr ⟨cbNeeded, pinProperty_sizedAt ready hpos hinstance hbytes
          (hdata _ _ hbytes) hbasic⟩
      | true =>
        refine Or.inl fun n v isNull => ?_
        have hsome : data (loadLe (r.retry n v isNull).instanceData 0 4) = some bytes := hbytes
        have hsupport : (r.retry n v isNull).asks kspropertyTypeBasicSupport = true := hbasic
        simp only [pinProperty, if_neg (hsize n v isNull), hsome, if_pos hsupport]
        exact basicSupport_status _ _ _

/-- The level that a request is for. -/
def MicArray.level (mic : MicArray) (r : PropertyRequest) : BitVec 32 :=
  if r.id = .micSnr then mic.snr else mic.sensitivity2

/-- The answer about a level, with a value that has room for it. -/
def MicArray.answer (mic : MicArray) (r : PropertyRequest) : PropertyAnswer :=
  if r.asks kspropertyTypeGet then ⟨statusSuccess, r.valueSize,
    if mic.floatingPointSaved then [(0, leBytes 4 (mic.level r).toNat)] else [],
    [r.readInstance 0 4]⟩
  else ⟨statusInvalidDeviceRequest, r.valueSize, [], [r.readInstance 0 4]⟩

section Levels

variable {mic : MicArray} {r : PropertyRequest}

/-- For the pin of the microphones the value counts: a value that is not there is turned down. -/
theorem propertyHandlerMicProperties_cases (mic : MicArray)
    (hid : r.id = .micSnr ∨ r.id = .micSensitivity2) (hinstance : ¬ r.instanceSize < 4)
    (hpin : loadLe r.instanceData 0 4 = kspinTopoMicElements)
    (hbasic : r.asks kspropertyTypeBasicSupport = false) :
    (r.valueSize = 0 ∧ propertyHandlerMicProperties mic r
        = ⟨statusBufferOverflow, 4, [], [r.readInstance 0 4]⟩)
      ∨ (r.valueSize ≠ 0 ∧ r.valueSize < 4 ∧ propertyHandlerMicProperties mic r
        = ⟨statusBufferTooSmall, 0, [], [r.readInstance 0 4]⟩)
      ∨ (4 ≤ r.valueSize ∧ r.valueIsNull = true ∧ propertyHandlerMicProperties mic r
        = ⟨statusUnsuccessful, 0, [], [r.readInstance 0 4]⟩)
      ∨ (4 ≤ r.valueSize ∧ r.valueIsNull = false
        ∧ propertyHandlerMicProperties mic r = mic.answer r) := by
  have hsupport : ¬ r.asks kspropertyTypeBasicSupport = true := by
    rw [hbasic]
    exact Bool.false_ne_true
  unfold propertyHandlerMicProperties
  rw [if_neg hinstance, if_neg (not_not.mpr hpin), if_neg hsupport]
  rcases validatePropertyParams_cases r (by decide : (4 : BitVec 32) ≠ 0) with
    ⟨hzero, heq⟩ | ⟨hzero, hshort, heq⟩ | ⟨hroom, hnull, heq⟩ | ⟨hroom, hnull, heq⟩
  · rw [heq]
    exact Or.inl ⟨hzero, rfl⟩
  · rw [heq]
    exact Or.inr (Or.inl ⟨hzero, hshort, rfl⟩)
  · rw [heq]
    exact Or.inr (Or.inr (Or.inl ⟨hroom, hnull, rfl⟩))
  · rw [heq]
    refine Or.inr (Or.inr (Or.inr ⟨hroom, hnull, ?_⟩))
    have hsuccess : ¬ ntSuccess statusSuccess = false := by decide
    simp only [if_neg hsuccess]
    unfold MicArray.answer
    split
    · rcases hid with hid | hid
      · simp [hid, MicArray.level, PropertyAnswer.after]
      · simp [hid, MicArray.level, PropertyAnswer.after]
    · rfl

theorem MicArray.answer_status : (mic.answer r).status ≠ statusBufferOverflow
    ∧ (mic.answer r).status ≠ statusBufferTooSmall := by
  unfold MicArray.answer
  split
  · exact ⟨(by decide : statusSuccess ≠ statusBufferOverflow),
      (by decide : statusSuccess ≠ statusBufferTooSmall)⟩
  · exact ⟨(by decide : statusInvalidDeviceRequest ≠ statusBufferOverflow),
      (by decide : statusInvalidDeviceRequest ≠ statusBufferTooSmall)⟩

/-- A level needs four bytes. -/
theorem propertyHandlerMicProperties_sizedAt (hid : r.id = .micSnr ∨ r.id = .micSensitivity2)
    (hinstance : ¬ r.instanceSize < 4)
    (hpin : loadLe r.instanceData 0 4 = kspinTopoMicElements)
    (hbasic : r.asks kspropertyTypeBasicSupport = false) :
    SizedAt (propertyHandlerMicProperties mic) r 4 (mic.floatingPointSaved = true) := by
  have hcases := fun n v isNull =>
    propertyHandlerMicProperties_cases mic (r := r.retry n v isNull) hid hinstance hpin hbasic
  have hzero : ¬ (4#32) ≤ 0 := by decide
  constructor
  · decide
  · intro v isNull
    rcases hcases 0 v isNull with ⟨-, heq⟩ | ⟨hne, -, -⟩ | ⟨hroom, -, -⟩ | ⟨hroom, -, -⟩
    · rw [heq]
      exact ⟨rfl, rfl⟩
    · exact absurd rfl hne
    · exact absurd hroom hzero
    · exact absurd hroom hzero
  · intro n v isNull hn hshort
    rcases hcases n v isNull with ⟨hz, -⟩ | ⟨-, -, heq⟩ | ⟨hroom, -, -⟩ | ⟨hroom, -, -⟩
    · exact absurd hz hn
    · rw [heq]
    · exact absurd hroom (BitVec.not_le.mpr hshort)
    · exact absurd hroom (BitVec.not_le.mpr hshort)
  · intro n v isNull hroom
    rcases hcases n v isNull with ⟨hz, -⟩ | ⟨-, hshort, -⟩ | ⟨-, -, heq⟩ | ⟨-, -, heq⟩
    · have hz : n = 0 := hz
      rw [hz] at hroom
      exact absurd hroom hzero
    · exact absurd hroom (BitVec.not_le.mpr hshort)
    · rw [heq]
      exact ⟨(by decide : statusUnsuccessful ≠ statusBufferOverflow),
        (by decide : statusUnsuccessful ≠ statusBufferTooSmall)⟩
    · rw [heq]
      exact MicArray.answer_status
  · intro hget hsaved v
    rcases hcases 4 v false with ⟨hz, -⟩ | ⟨-, hshort, -⟩ | ⟨-, hnull, -⟩ | ⟨-, -, heq⟩
    · exact absurd hz (by decide : ¬ (4#32) = 0)
    · exact absurd hshort (by decide : ¬ (4#32) < 4)
    · cases hnull
    · have hasks : (r.retry 4 v false).asks kspropertyTypeGet = true := hget
      rw [heq, MicArray.answer, if_pos hasks, if_pos hsaved]
      exact ⟨rfl, rfl, fills_one (length_leBytes ..)⟩

/-- **A level of the microphones** is sized, or no value of it is. -/
theorem propertyHandlerMicProperties_sized (hid : r.id = .micSnr ∨ r.id = .micSensitivity2) :
    SizedOrNot (propertyHandlerMicProperties mic) r (mic.floatingPointSaved = true) := by
  have hother : statusInvalidDeviceRequest ≠ statusBufferOverflow := by decide
  by_cases hinstance : r.instanceSize < 4
  · refine Or.inl fun n v isNull => ?_
    have hsize : (r.retry n v isNull).instanceSize < 4 := hinstance
    rw [propertyHandlerMicProperties, if_pos hsize]
    exact hother
  · have hsize : ∀ n v isNull, ¬ (r.retry n v isNull).instanceSize < 4 := fun _ _ _ => hinstance
    by_cases hpin : loadLe r.instanceData 0 4 = kspinTopoMicElements
    · cases hbasic : r.asks kspropertyTypeBasicSupport with
      | true =>
        refine Or.inl fun n v isNull => ?_
        have hpin' : ¬ loadLe (r.retry n v isNull).instanceData 0 4 ≠ kspinTopoMicElements :=
          not_not.mpr hpin
        have hsupport : (r.retry n v isNull).asks kspropertyTypeBasicSupport = true := hbasic
        rw [propertyHandlerMicProperties, if_neg (hsize n v isNull), if_neg hpin', if_pos hsupport]
        exact basicSupport_status _ _ _
      | false =>
        exact Or.inr ⟨4, propertyHandlerMicProperties_sizedAt hid hinstance hpin hbasic⟩
    · refine Or.inl fun n v isNull => ?_
      have hpin' : loadLe (r.retry n v isNull).instanceData 0 4 ≠ kspinTopoMicElements := hpin
      rw [propertyHandlerMicProperties, if_neg (hsize n v isNull), if_pos hpin']
      exact hother

end Levels

/-- Whether the filter can fill its values in: the microphones need the floating point state. -/
def TopologyFilter.Ready : TopologyFilter → Prop
  | .jacks _ => True
  | .micArray mic => mic.floatingPointSaved = true

/-- **The size that a topology filter answers is the size that the property takes**: for every
request, either no value of it is answered with a size, or there is one size for all of them. -/
theorem topologyRequest_sized (filter : TopologyFilter) (r : PropertyRequest) :
    SizedOrNot (topologyRequest filter) r filter.Ready := by
  have hnone : (∀ r', r'.id = r.id → topologyRequest filter r' = r'.ends statusInvalidDeviceRequest)
      → SizedOrNot (topologyRequest filter) r filter.Ready := by
    refine fun h => Or.inl fun n v isNull => ?_
    rw [h (r.retry n v isNull) rfl]
    exact (by decide : statusInvalidDeviceRequest ≠ statusBufferOverflow)
  cases filter with
  | jacks descriptions =>
    cases hid : r.id with
    | jackDescription =>
      refine (pinProperty_sized r _ (by decide) (jackDescription_length descriptions)).congr ?_
      simp [topologyRequest, PropertyRequest.retry, hid, jackDescription]
    | jackDescription2 =>
      refine (pinProperty_sized r _ (by decide) (jackDescription2_length descriptions 0)).congr ?_
      simp [topologyRequest, PropertyRequest.retry, hid, jackDescription2]
    | _ => exact hnone fun r' hid' => by simp [topologyRequest, hid', hid]
  | micArray mic =>
    cases hid : r.id with
    | jackDescription =>
      have hlen : (multipleItem 36 1 ++ micArrayJack.bytes).length = (36#32).toNat := by decide
      refine (pinProperty_sized r _ (by decide) (onMicElements_length hlen)).congr ?_
      simp [topologyRequest, PropertyRequest.retry, hid, micArrayJackDescription]
    | jackDescription2 =>
      have hlen : (multipleItem 16 1 ++ leBytes 4 0 ++ leBytes 4 0).length = (16#32).toNat := by
        decide
      refine (pinProperty_sized r _ (by decide) (onMicElements_length hlen)).congr ?_
      simp [topologyRequest, PropertyRequest.retry, hid, micArrayJackDescription2]
    | micArrayGeometry =>
      have hlen : micArrayGeometry.length = (42#32).toNat := by decide
      refine (pinProperty_sized r _ (by decide) (onMicElements_length hlen)).congr ?_
      simp [topologyRequest, PropertyRequest.retry, hid, propertyHandlerMicArrayGeometry]
    | micSensitivity2 =>
      refine (propertyHandlerMicProperties_sized (Or.inr hid)).congr ?_
      simp [topologyRequest, PropertyRequest.retry, hid]
    | micSnr =>
      refine (propertyHandlerMicProperties_sized (Or.inl hid)).congr ?_
      simp [topologyRequest, PropertyRequest.retry, hid]
    | _ => exact hnone fun r' hid' => by simp [topologyRequest, hid', hid]

/-- **The requests of the topology filters**: each one is answered soundly, and with the size that
its values have to have.  That the second `GET` fills its value is said for a filter that is ready:
the microphone array fills in its levels only if the floating point state could be saved.  Other
verbs than `GET` are refused for themselves, whatever the size. -/
theorem topologyRequest_answered (filter : TopologyFilter) (r : PropertyRequest) :
    Sound r (topologyRequest filter r)
      ∧ SizedOrNot (topologyRequest filter) r filter.Ready :=
  ⟨topologyRequest_sound filter r, topologyRequest_sized filter r⟩

end WoaRk3576.Audio
