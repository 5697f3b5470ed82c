/-
# csaudiork3x: the streams of a wave miniport

`NewStream` makes a stream, lets it register itself (`StreamCreated`), and drops it where a step
fails; the last `Release` runs its destructor, which takes it back (`StreamClosed`).  The miniport
counts its streams against the instances that its pin allows, keeps those that play in a table, and
mixes a DRM content of their contents whenever one is closed or given another content.

`MiniportInv` says that the count, the table, what the pool and the references hold, and the mixed
contents agree with the streams that are open; `streams_accounted` is that of every run, whatever
the pool and the DRM port answer.

* The count is tested by `ValidateStreamCreate` before anything is made, and the table has as many
  slots as the count allows.  A stream that comes to register itself therefore finds an empty slot
  (`MiniportInv.none_mem`): the loop of `StreamCreated`, which says nothing if it finds none, always
  does.
* `NewStream` comes to one of two things (`newStream_cases`): nothing, with what was taken on the
  way given back, or a stream that has registered itself.  The destructor runs on both, so the
  proof follows the flags by which it tells how far the constructor has come.
* The mixed content is replaced by a new one before the old one is destroyed, and is left as it is
  where an answer is a failure (`DrmUpdated`), so there is one at any time.
-/
import WoaRk3576.Acpi.Evaluation
import WoaRk3576.Lib.Ledger
import WoaRk3576.Lib.Slots
import WoaRk3576.Lib.Transition

namespace WoaRk3576.Audio

open WoaRk3576.Lib
open WoaRk3576.Acpi (NTSTATUS ntSuccess statusSuccess statusInsufficientResources
  statusNotSupported)

/-! ## 1. The miniport

The miniport with its streams, and two ledgers: one for what the streams take, and one for the
mixed contents, which the DRM port makes and destroys. -/

def statusUnsuccessful : NTSTATUS := 0xC0000001

/-- `PINTYPE`. -/
inductive PinType
  | noPin
  | bridge
  | systemRender
  | systemCapture
  deriving DecidableEq, Repr

/-- `DRMRIGHTS`. -/
structure DrmRights where
  copyProtect : Bool
  reserved : BitVec 32
  digitalOutputDisable : Bool
  deriving DecidableEq, Repr

/-- The address of a stream object. -/
abbrev StreamId := Nat

/-- What a stream takes: its object, its copy of the format, its reference of the miniport, and the
array of contents while they are mixed. -/
inductive StreamResource
  | object (s : StreamId)
  | wfExt (s : StreamId)
  | miniport (s : StreamId)
  | contentIds
  deriving DecidableEq, Repr

/-- `CMiniportWaveRTStream`, as far as its destructor looks. -/
structure StreamObject where
  pin : Nat
  /-- `m_pMiniport` is set. -/
  hasMiniport : Bool
  /-- `m_pWfExt` is set. -/
  hasWfExt : Bool
  unregisterStream : Bool
  deriving DecidableEq, Repr

/-- `CMiniportWaveRT`, the streams that are open, and what was taken and given back. -/
structure WaveMiniport where
  pinTypes : List PinType
  maxSystemStreams : BitVec 32
  systemAllocated : BitVec 32
  /-- `m_SystemStreams`, of a device that plays. -/
  systemStreams : Option (List (Option StreamId))
  hasDrmPort : Bool
  mixDrmContentId : Nat
  mixDrmRights : DrmRights
  /-- `m_ulContentId` of each stream. -/
  contentId : StreamId → Nat
  opened : List (StreamId × StreamObject)
  ledger : List (Entry StreamResource)
  drm : List (Entry Nat)

def WaveMiniport.pinType (m : WaveMiniport) (pin : Nat) : PinType :=
  (m.pinTypes[pin]?).getD .noPin

/-- One more entry of the ledger. -/
def WaveMiniport.log (e : Entry StreamResource) (m : WaveMiniport) : WaveMiniport :=
  { m with ledger := m.ledger ++ [e] }

/-! ## 2. `UpdateDrmRights`

The contents of the streams that play are gathered in an array and mixed into one.  The routine can
fail at the allocation, at the mixing and at the rights, and leaves the content it had in each of
these cases. -/

/-- What the pool and the DRM port answer. -/
structure DrmAnswers where
  contentIds : Bool
  /-- `CreateContentMixed`, and the new content. -/
  mixed : NTSTATUS × Nat
  /-- `GetContentRights`, and the rights. -/
  rights : NTSTATUS × DrmRights

/-- **`UpdateDrmRights`**. -/
def updateDrmRights (answers : DrmAnswers) (m : WaveMiniport) : NTSTATUS × WaveMiniport :=
  if m.hasDrmPort = false then (statusUnsuccessful, m)
  else if answers.contentIds = false then (statusInsufficientResources, m)
  else
    let m := m.log (.take .contentIds)
    let contentIds := ((m.systemStreams.getD []).reduceOption).map m.contentId
    if contentIds = [] then (statusUnsuccessful, m.log (.drop .contentIds))
    else if ntSuccess answers.mixed.1 = false then (answers.mixed.1, m.log (.drop .contentIds))
    else if ntSuccess answers.rights.1 = false then
      let m : WaveMiniport :=
        { m with drm := m.drm ++ [.take answers.mixed.2, .drop answers.mixed.2] }
      (answers.rights.1, m.log (.drop .contentIds))
    else
      let m : WaveMiniport :=
        { m with
          drm := m.drm ++ [.take answers.mixed.2, .drop m.mixDrmContentId]
          mixDrmContentId := answers.mixed.2
          mixDrmRights := answers.rights.2 }
      (answers.rights.1, m.log (.drop .contentIds))

/-! ## 3. Streams

A stream is made in two steps, the object and its `Init`, and the destructor has to cope with an
object whose `Init` has failed anywhere.  The flags of the object are what it goes by. -/

/-- `ValidateStreamCreate`. -/
def validateStreamCreate (m : WaveMiniport) (pin : Nat) (capture : Bool) : NTSTATUS :=
  let available :=
    if m.systemAllocated < m.maxSystemStreams then statusSuccess else statusInsufficientResources
  if capture then
    if m.pinType pin = .systemCapture then available else statusNotSupported
  else if m.pinType pin = .systemRender then available
  else statusNotSupported

/-- `StreamCreated`. -/
def streamCreated (pin : Nat) (s : StreamId) (m : WaveMiniport) : WaveMiniport :=
  let m := { m with systemAllocated := m.systemAllocated + 1 }
  if m.pinType pin = .systemCapture then m
  else if m.pinType pin = .systemRender then
    { m with systemStreams := m.systemStreams.map (fillSlot s) }
  else m

/-- `StreamClosed`. -/
def streamClosed (answers : DrmAnswers) (pin : Nat) (s : StreamId) (m : WaveMiniport) :
    WaveMiniport :=
  if m.pinType pin = .systemCapture then { m with systemAllocated := m.systemAllocated - 1 }
  else if m.pinType pin = .systemRender then
    (updateDrmRights answers { m with
      systemAllocated := m.systemAllocated - 1
      systemStreams := m.systemStreams.map (clearSlot s) }).2
  else m

/-- What `NewStream` is given, and what the functions it calls answer. -/
structure NewStreamArgs where
  pin : Nat
  capture : Bool
  /-- `GetAttributesFromAttributeList`. -/
  attributes : NTSTATUS
  /-- `IsFormatSupported`. -/
  formatSupported : NTSTATUS
  /-- The address of the object, where the pool has one. -/
  object : Option StreamId
  /-- `GetWaveFormatEx` finds a format. -/
  waveFormat : Bool
  /-- The pool has a block for the copy of the format. -/
  wfExt : Bool

/-- `CMiniportWaveRTStream::Init`. -/
def streamInit (a : NewStreamArgs) (s : StreamId) (m : WaveMiniport) :
    NTSTATUS × StreamObject × WaveMiniport :=
  let o : StreamObject :=
    { pin := 0, hasMiniport := false, hasWfExt := false, unregisterStream := false }
  let m : WaveMiniport := { m with contentId := Function.update m.contentId s 0 }
  if a.waveFormat = false then (statusUnsuccessful, o, m)
  else
    let o := { o with hasMiniport := true, pin := a.pin }
    let m := m.log (.take (.miniport s))
    if a.wfExt = false then (statusInsufficientResources, o, m)
    else
      let o := { o with hasWfExt := true }
      let m := m.log (.take (.wfExt s))
      (statusSuccess, { o with unregisterStream := true }, streamCreated a.pin s m)

/-- `~CMiniportWaveRTStream`, and the block of the object. -/
def streamDestructor (answers : DrmAnswers) (s : StreamId) (o : StreamObject) (m : WaveMiniport) :
    WaveMiniport :=
  let m :=
    if o.hasMiniport then
      (if o.unregisterStream then streamClosed answers o.pin s m else m).log (.drop (.miniport s))
    else m
  let m := if o.hasWfExt then m.log (.drop (.wfExt s)) else m
  m.log (.drop (.object s))

/-- **`NewStream`**. -/
def newStream (answers : DrmAnswers) (a : NewStreamArgs) (m : WaveMiniport) :
    NTSTATUS × WaveMiniport :=
  if ntSuccess a.attributes = false then (a.attributes, m)
  else if ntSuccess (validateStreamCreate m a.pin a.capture) = false then
    (validateStreamCreate m a.pin a.capture, m)
  else if ntSuccess a.formatSupported = false then (a.formatSupported, m)
  else
    match a.object with
    | none => (statusInsufficientResources, m)
    | some s =>
      match streamInit a s (m.log (.take (.object s))) with
      | (status, o, m) =>
        if ntSuccess status then (status, { m with opened := (s, o) :: m.opened })
        else (status, streamDestructor answers s o m)

/-- `SetContentId`.  What it restores after a failure is the content it was given. -/
def setContentId (answers : DrmAnswers) (s : StreamId) (contentId : Nat) (m : WaveMiniport) :
    NTSTATUS × WaveMiniport :=
  let ulOldContentId := contentId
  match updateDrmRights answers
      { m with contentId := Function.update m.contentId s contentId } with
  | (status, m) =>
    if ntSuccess status then (status, m)
    else (status, { m with contentId := Function.update m.contentId s ulOldContentId })

/-! ## 4. Runs

The port driver opens streams, sets their contents and closes them, in any order and with any
answers of the pool and the DRM port. -/

/-- The calls of the port driver. -/
inductive WaveCall
  | newStream (a : NewStreamArgs)
  | setContentId (s : StreamId) (contentId : Nat)
  | close (s : StreamId)

/-- One call.  The pool hands out no address that is in use, and the port closes a stream once. -/
def waveStep (m : WaveMiniport) : WaveCall × DrmAnswers → Option WaveMiniport
  | (.newStream a, answers) =>
    if ∀ s ∈ a.object, s ∉ m.opened.map Prod.fst then some (newStream answers a m).2 else none
  | (.setContentId s contentId, answers) =>
    (m.opened.lookup s).map fun _ => (setContentId answers s contentId m).2
  | (.close s, answers) =>
    (m.opened.lookup s).map fun o =>
      streamDestructor answers s o { m with opened := m.opened.erase (s, o) }

/-- A miniport after `Init`: a device that plays has a table for its streams. -/
structure WaveStart (m : WaveMiniport) : Prop where
  allocated : m.systemAllocated = 0
  streams : m.systemStreams = none
    ∨ m.systemStreams = some (List.replicate m.maxSystemStreams.toNat none)
  content : m.mixDrmContentId = 0
  noStream : m.opened = []
  noEntry : m.ledger = []
  noContent : m.drm = []

/-! ## 5. What the parts do

Each routine is reduced to what it changes of the books: what it has put into the ledgers settles,
and the streams and the table change in one of few ways. -/

section Parts

variable {m m' : WaveMiniport} {s : StreamId}

@[simp]
theorem log_opened (e : Entry StreamResource) : (m.log e).opened = m.opened := rfl

@[simp]
theorem log_ledger (e : Entry StreamResource) : (m.log e).ledger = m.ledger ++ [e] := rfl

/-- A resource that is taken and given back. -/
theorem settle_take_drop {t : Multiset StreamResource} {es : List (Entry StreamResource)}
    (h : settle 0 es = some t) (r : StreamResource) :
    settle 0 (es ++ [.take r] ++ [.drop r]) = some t :=
  settle_concat_drop (settle_concat_take h r)

/-- **What an update of the mixed content leaves as it was**, and that it keeps the books. -/
structure DrmUpdated (m m' : WaveMiniport) : Prop where
  same : m' = { m with
    ledger := m'.ledger
    drm := m'.drm
    mixDrmContentId := m'.mixDrmContentId
    mixDrmRights := m'.mixDrmRights }
  ledger : ∀ t, settle 0 m.ledger = some t → settle 0 m'.ledger = some t
  drm : settle {0} m.drm = some {m.mixDrmContentId} →
    settle {0} m'.drm = some {m'.mixDrmContentId}

theorem updateDrmRights_updated (answers : DrmAnswers) (m : WaveMiniport) :
    DrmUpdated m (updateDrmRights answers m).2 := by
  unfold updateDrmRights
  split
  · exact ⟨rfl, fun _ h => h, fun h => h⟩
  split
  · exact ⟨rfl, fun _ h => h, fun h => h⟩
  dsimp only
  split
  · exact ⟨rfl, fun _ h => settle_take_drop h _, fun h => h⟩
  split
  · exact ⟨rfl, fun _ h => settle_take_drop h _, fun h => h⟩
  split
  · refine ⟨rfl, fun _ h => settle_take_drop h _, fun h => settle_trans h ?_⟩
    exact settle_drop_cons _ answers.mixed.2 []
  · -- The new content is taken before the old one is given back.
    refine ⟨rfl, fun _ h => settle_take_drop h _, fun h => settle_trans h ?_⟩
    have hswap : answers.mixed.2 ::ₘ ({m.mixDrmContentId} : Multiset Nat)
        = m.mixDrmContentId ::ₘ {answers.mixed.2} :=
      Multiset.cons_swap answers.mixed.2 m.mixDrmContentId 0
    rw [settle_take]
    refine (congrArg (settle · _) hswap).trans ?_
    exact settle_drop_cons _ _ []

@[simp]
theorem streamCreated_opened (pin : Nat) : (streamCreated pin s m).opened = m.opened := by
  unfold streamCreated
  dsimp only
  split
  · rfl
  · split
    · rfl
    · rfl

theorem not_ntSuccess_unsuccessful : ntSuccess statusUnsuccessful = false := by
  decide

theorem not_ntSuccess_insufficientResources : ntSuccess statusInsufficientResources = false := by
  decide

section Init

variable {a : NewStreamArgs}

theorem streamInit_noFormat (h : a.waveFormat = false) :
    streamInit a s m = (statusUnsuccessful, ⟨0, false, false, false⟩,
      { m with contentId := Function.update m.contentId s 0 }) := by
  rw [streamInit, if_pos h]

theorem streamInit_noWfExt (h : a.waveFormat = true) (h' : a.wfExt = false) :
    streamInit a s m = (statusInsufficientResources, ⟨a.pin, true, false, false⟩,
      { m with
        contentId := Function.update m.contentId s 0
        ledger := m.ledger ++ [.take (.miniport s)] }) := by
  rw [streamInit, if_neg (by rw [h]; decide), if_pos h']
  rfl

theorem streamInit_success (h : a.waveFormat = true) (h' : a.wfExt = true) :
    streamInit a s m = (statusSuccess, ⟨a.pin, true, true, true⟩, streamCreated a.pin s { m with
      contentId := Function.update m.contentId s 0
      ledger := m.ledger ++ [.take (.miniport s)] ++ [.take (.wfExt s)] }) := by
  rw [streamInit, if_neg (by rw [h]; decide), if_neg (by rw [h']; decide)]
  rfl

end Init

/-- **What `NewStream` comes to**: nothing, with what was taken on the way given back, or a stream
that has registered itself. -/
theorem newStream_cases (answers : DrmAnswers) (a : NewStreamArgs) (m : WaveMiniport) :
    (∃ es contentId, (∀ t, settle 0 m.ledger = some t → settle 0 es = some t)
      ∧ (newStream answers a m).2 = { m with ledger := es, contentId })
    ∨ ∃ s, a.object = some s
      ∧ ntSuccess (validateStreamCreate m a.pin a.capture) = true
      ∧ (newStream answers a m).2 = { streamCreated a.pin s { m with
          ledger := m.ledger ++ [.take (.object s)] ++ [.take (.miniport s)] ++ [.take (.wfExt s)]
          contentId := Function.update m.contentId s 0 } with
        opened := (s, ⟨a.pin, true, true, true⟩) :: m.opened } := by
  unfold newStream
  split
  · exact Or.inl ⟨m.ledger, m.contentId, fun _ h => h, rfl⟩
  split
  · exact Or.inl ⟨m.ledger, m.contentId, fun _ h => h, rfl⟩
  rename_i hvalid
  split
  · exact Or.inl ⟨m.ledger, m.contentId, fun _ h => h, rfl⟩
  cases hobject : a.object with
  | none => exact Or.inl ⟨m.ledger, m.contentId, fun _ h => h, rfl⟩
  | some s =>
    dsimp only
    cases hformat : a.waveFormat with
    | false =>
      refine Or.inl ⟨_, Function.update m.contentId s 0,
        fun _ h => settle_take_drop h (.object s), ?_⟩
      rw [streamInit_noFormat hformat]
      dsimp only
      rw [if_neg (by rw [not_ntSuccess_unsuccessful]; decide)]
      rfl
    | true =>
      cases hwfExt : a.wfExt with
      | false =>
        refine Or.inl ⟨_, Function.update m.contentId s 0, fun t h => settle_concat_drop
          (settle_take_drop (settle_concat_take h (.object s)) (.miniport s)), ?_⟩
        rw [streamInit_noWfExt hformat hwfExt]
        dsimp only
        rw [if_neg (by rw [not_ntSuccess_insufficientResources]; decide)]
        rfl
      | true =>
        refine Or.inr ⟨s, rfl, (Bool.not_eq_false _).mp hvalid, ?_⟩
        rw [streamInit_success hformat hwfExt]
        dsimp only
        rw [if_pos Acpi.ntSuccess_statusSuccess, streamCreated_opened]
        rfl

end Parts

/-! ## 6. The invariant

The invariant has one field for each of the books.  A stream that is opened or closed changes all
of them at once, which is why the two lemmas about these are the long ones; an update of the mixed
content changes one. -/

/-- What the streams hold while they are open. -/
def held (opened : List (StreamId × StreamObject)) : Multiset StreamResource :=
  (opened.map fun x => {.wfExt x.1, .miniport x.1, .object x.1}).sum

/-- The streams that play. -/
def renderStreams (pinType : Nat → PinType) (opened : List (StreamId × StreamObject)) :
    List StreamId :=
  (opened.filter fun x => pinType x.2.pin = .systemRender).map Prod.fst

/-- **The books of the miniport agree with the streams that are open.** -/
structure MiniportInv (m : WaveMiniport) : Prop where
  /-- No two streams share an address. -/
  nodup : (m.opened.map Prod.fst).Nodup
  /-- Every stream has registered itself, for a pin that has streams. -/
  registered : ∀ x ∈ m.opened, (x.2.hasMiniport && x.2.hasWfExt && x.2.unregisterStream) = true
    ∧ (m.pinType x.2.pin = .systemRender ∨ m.pinType x.2.pin = .systemCapture)
  /-- The count is that of the streams, and within the instances of the pin. -/
  allocated : m.systemAllocated.toNat = m.opened.length
  bound : m.opened.length ≤ m.maxSystemStreams.toNat
  /-- The table has the streams that play, each once, and nothing else. -/
  slots : ∀ slots, m.systemStreams = some slots → slots.length = m.maxSystemStreams.toNat
    ∧ slotValues slots = ↑(renderStreams m.pinType m.opened)
  /-- Nothing is given back twice, and what is not given back belongs to a stream. -/
  ledger : settle 0 m.ledger = some (held m.opened)
  /-- One mixed content is there, the present one. -/
  drm : settle {0} m.drm = some {m.mixDrmContentId}

theorem held_cons (s : StreamId) (o : StreamObject) (opened : List (StreamId × StreamObject)) :
    held ((s, o) :: opened) = .wfExt s ::ₘ .miniport s ::ₘ .object s ::ₘ held opened := by
  simp [held]

section Render

variable {pinType : Nat → PinType} {s : StreamId} {o : StreamObject}
  {opened opened' : List (StreamId × StreamObject)}

theorem renderStreams_cons_render (h : pinType o.pin = .systemRender) :
    renderStreams pinType ((s, o) :: opened) = s :: renderStreams pinType opened := by
  simp [renderStreams, h]

theorem renderStreams_cons_of_ne (h : pinType o.pin ≠ .systemRender) :
    renderStreams pinType ((s, o) :: opened) = renderStreams pinType opened := by
  simp [renderStreams, h]

theorem renderStreams_perm (h : opened.Perm opened') :
    (renderStreams pinType opened : Multiset StreamId) = ↑(renderStreams pinType opened') :=
  Multiset.coe_eq_coe.mpr ((h.filter _).map _)

theorem renderStreams_length_le :
    (renderStreams pinType opened).length ≤ opened.length := by
  rw [renderStreams, List.length_map]
  exact List.length_filter_le _ _

end Render

theorem held_perm {opened opened' : List (StreamId × StreamObject)}
    (h : opened.Perm opened') : held opened = held opened' :=
  (h.map _).sum_eq

/-- An update of the mixed content keeps the books. -/
theorem MiniportInv.updated {m m' : WaveMiniport} (h : MiniportInv m) (hu : DrmUpdated m m') :
    MiniportInv m' := by
  rw [hu.same]
  exact ⟨h.nodup, h.registered, h.allocated, h.bound, h.slots, hu.ledger _ h.ledger, hu.drm h.drm⟩

/-- What a stream that may be created needs. -/
theorem validateStreamCreate_success {m : WaveMiniport} {pin : Nat} {capture : Bool}
    (h : ntSuccess (validateStreamCreate m pin capture) = true) :
    m.systemAllocated < m.maxSystemStreams
      ∧ (m.pinType pin = .systemRender ∨ m.pinType pin = .systemCapture) := by
  have hnot : ntSuccess statusNotSupported = false := by decide
  have havailable : ∀ {status}, status = (if m.systemAllocated < m.maxSystemStreams then
      statusSuccess else statusInsufficientResources) → ntSuccess status = true →
      m.systemAllocated < m.maxSystemStreams := by
    rintro status rfl hsuccess
    split at hsuccess
    · assumption
    · rw [not_ntSuccess_insufficientResources] at hsuccess
      cases hsuccess
  unfold validateStreamCreate at h
  dsimp only at h
  split at h
  · split at h
    · exact ⟨havailable rfl h, Or.inr ‹_›⟩
    · rw [hnot] at h
      cases h
  · split at h
    · exact ⟨havailable rfl h, Or.inl ‹_›⟩
    · rw [hnot] at h
      cases h

/-- **A stream that registers itself finds an empty slot.** -/
theorem MiniportInv.none_mem {m : WaveMiniport} (h : MiniportInv m)
    (hlt : m.systemAllocated < m.maxSystemStreams) {slots : List (Option StreamId)}
    (hslots : m.systemStreams = some slots) : none ∈ slots := by
  obtain ⟨hlength, hvalues⟩ := h.slots slots hslots
  rw [none_mem_iff, hvalues, Multiset.coe_card, hlength]
  rw [BitVec.lt_def, h.allocated] at hlt
  exact Nat.lt_of_le_of_lt renderStreams_length_le hlt

/-- The stream that was created. -/
theorem MiniportInv.created {m : WaveMiniport} (h : MiniportInv m) {a : NewStreamArgs}
    {s : StreamId} (hfresh : s ∉ m.opened.map Prod.fst)
    (hvalid : ntSuccess (validateStreamCreate m a.pin a.capture) = true)
    (contentId : StreamId → Nat) :
    MiniportInv { streamCreated a.pin s { m with
        ledger := m.ledger ++ [.take (.object s)] ++ [.take (.miniport s)] ++ [.take (.wfExt s)]
        contentId } with
      opened := (s, ⟨a.pin, true, true, true⟩) :: m.opened } := by
  obtain ⟨hlt, hpin⟩ := validateStreamCreate_success hvalid
  have hnodup : (((s, (⟨a.pin, true, true, true⟩ : StreamObject)) :: m.opened).map
      Prod.fst).Nodup := List.nodup_cons.mpr ⟨hfresh, h.nodup⟩
  have hregistered : ∀ x ∈ (s, (⟨a.pin, true, true, true⟩ : StreamObject)) :: m.opened,
      (x.2.hasMiniport && x.2.hasWfExt && x.2.unregisterStream) = true
        ∧ (m.pinType x.2.pin = .systemRender ∨ m.pinType x.2.pin = .systemCapture) := by
    intro x hx
    rcases List.mem_cons.mp hx with rfl | hx
    · exact ⟨rfl, hpin⟩
    · exact h.registered x hx
  have hbound : m.opened.length + 1 ≤ m.maxSystemStreams.toNat := by
    rw [BitVec.lt_def, h.allocated] at hlt
    exact hlt
  have hallocated : (m.systemAllocated + 1).toNat = m.opened.length + 1 := by
    have hmax := m.maxSystemStreams.isLt
    rw [BitVec.toNat_add, h.allocated]
    exact Nat.mod_eq_of_lt (Nat.lt_of_le_of_lt hbound hmax)
  have hledger : settle 0 (m.ledger ++ [.take (.object s)] ++ [.take (.miniport s)]
      ++ [.take (.wfExt s)]) = some (held ((s, ⟨a.pin, true, true, true⟩) :: m.opened)) := by
    rw [held_cons]
    exact settle_concat_take (settle_concat_take (settle_concat_take h.ledger _) _) _
  by_cases hrender : m.pinType a.pin = .systemRender
  · have hcapture : ¬ m.pinType a.pin = .systemCapture := by
      rw [hrender]
      decide
    have hcreated : streamCreated a.pin s { m with
        ledger := m.ledger ++ [.take (.object s)] ++ [.take (.miniport s)] ++ [.take (.wfExt s)]
        contentId } = { m with
        ledger := m.ledger ++ [.take (.object s)] ++ [.take (.miniport s)] ++ [.take (.wfExt s)]
        contentId
        systemAllocated := m.systemAllocated + 1
        systemStreams := m.systemStreams.map (fillSlot s) } :=
      (if_neg hcapture).trans (if_pos hrender)
    rw [hcreated]
    refine ⟨hnodup, hregistered, hallocated, hbound, fun slots' hslots' => ?_, hledger, h.drm⟩
    obtain ⟨slots, hslots, rfl⟩ := Option.map_eq_some_iff.mp hslots'
    obtain ⟨hlength, hvalues⟩ := h.slots slots hslots
    refine ⟨(length_fillSlot s slots).trans hlength, ?_⟩
    rw [slotValues_fillSlot s (h.none_mem hlt hslots), hvalues, Multiset.cons_coe]
    exact congrArg _ (renderStreams_cons_render hrender).symm
  · have hcapture := hpin.resolve_left hrender
    have hcreated : streamCreated a.pin s { m with
        ledger := m.ledger ++ [.take (.object s)] ++ [.take (.miniport s)] ++ [.take (.wfExt s)]
        contentId } = { m with
        ledger := m.ledger ++ [.take (.object s)] ++ [.take (.miniport s)] ++ [.take (.wfExt s)]
        contentId
        systemAllocated := m.systemAllocated + 1 } := if_pos hcapture
    rw [hcreated]
    refine ⟨hnodup, hregistered, hallocated, hbound, fun slots hslots => ?_, hledger, h.drm⟩
    obtain ⟨hlength, hvalues⟩ := h.slots slots hslots
    exact ⟨hlength, hvalues.trans (congrArg _ (renderStreams_cons_of_ne hrender).symm)⟩

/-- What `StreamClosed` does to a stream of a pin that has streams. -/
theorem streamClosed_updated (answers : DrmAnswers) {pin : Nat} (s : StreamId) {m : WaveMiniport}
    (hpin : m.pinType pin = .systemRender ∨ m.pinType pin = .systemCapture) :
    DrmUpdated { m with
        systemAllocated := m.systemAllocated - 1
        systemStreams := if m.pinType pin = .systemRender then m.systemStreams.map (clearSlot s)
          else m.systemStreams }
      (streamClosed answers pin s m) := by
  unfold streamClosed
  rcases hpin with hpin | hpin
  · have hnot : ¬ m.pinType pin = .systemCapture := by
      rw [hpin]
      decide
    rw [if_neg hnot, if_pos hpin, if_pos hpin]
    exact updateDrmRights_updated answers _
  · have hnot : ¬ m.pinType pin = .systemRender := by
      rw [hpin]
      decide
    rw [if_pos hpin, if_neg hnot]
    exact ⟨rfl, fun _ h => h, fun h => h⟩

/-- The stream that is closed. -/
theorem MiniportInv.close {m : WaveMiniport} (h : MiniportInv m) (answers : DrmAnswers)
    {s : StreamId} {o : StreamObject} (hmem : (s, o) ∈ m.opened) :
    MiniportInv (streamDestructor answers s o { m with opened := m.opened.erase (s, o) }) := by
  obtain ⟨hflags, hpin⟩ := h.registered _ hmem
  simp only [Bool.and_eq_true] at hflags
  obtain ⟨⟨hminiport, hwfExt⟩, hunregister⟩ := hflags
  have hperm := List.perm_cons_erase hmem
  have hlength : m.opened.length = (m.opened.erase (s, o)).length + 1 := hperm.length_eq
  have hu := streamClosed_updated answers s
    (m := { m with opened := m.opened.erase (s, o) }) hpin
  have hnodup : ((m.opened.erase (s, o)).map Prod.fst).Nodup :=
    (List.nodup_cons.mp ((hperm.map Prod.fst).nodup_iff.mp h.nodup)).2
  have hallocated : (m.systemAllocated - 1).toNat = (m.opened.erase (s, o)).length := by
    have hcount := h.allocated
    have hlt := m.systemAllocated.isLt
    rw [hlength] at hcount
    bv_omega
  have hslots : ∀ slots, (if m.pinType o.pin = .systemRender then
      m.systemStreams.map (clearSlot s) else m.systemStreams) = some slots →
      slots.length = m.maxSystemStreams.toNat
        ∧ slotValues slots = ↑(renderStreams m.pinType (m.opened.erase (s, o))) := by
    intro slots' hslots'
    have hrenders : (renderStreams m.pinType m.opened : Multiset StreamId) = _ :=
      renderStreams_perm hperm
    by_cases hrender : m.pinType o.pin = .systemRender
    · rw [if_pos hrender] at hslots'
      obtain ⟨slots, hslots, rfl⟩ := Option.map_eq_some_iff.mp hslots'
      obtain ⟨hsize, hvalues⟩ := h.slots slots hslots
      rw [renderStreams_cons_render hrender, ← Multiset.cons_coe] at hrenders
      refine ⟨(length_clearSlot s slots).trans hsize, ?_⟩
      rw [slotValues_clearSlot, hvalues, hrenders, Multiset.erase_cons_head]
    · rw [if_neg hrender] at hslots'
      obtain ⟨hsize, hvalues⟩ := h.slots slots' hslots'
      rw [renderStreams_cons_of_ne hrender] at hrenders
      exact ⟨hsize, hvalues.trans hrenders⟩
  rw [streamDestructor, hminiport, hwfExt, hunregister]
  simp only [if_true]
  generalize streamClosed answers o.pin s { m with opened := m.opened.erase (s, o) } = m' at hu ⊢
  have hledger : settle 0 (m'.ledger ++ [.drop (.miniport s)] ++ [.drop (.wfExt s)]
      ++ [.drop (.object s)]) = some (held (m.opened.erase (s, o))) := by
    have hheld := hu.ledger _ h.ledger
    rw [held_perm hperm, held_cons, Multiset.cons_swap] at hheld
    exact settle_concat_drop (settle_concat_drop (settle_concat_drop hheld))
  have hdrm := hu.drm h.drm
  rw [hu.same]
  exact ⟨hnodup, fun x hx => h.registered x (List.mem_of_mem_erase hx), hallocated,
    Nat.le_of_succ_le (hlength.symm.trans_le h.bound), hslots, hledger, hdrm⟩

/-- One call. -/
theorem waveStep_inv {m m' : WaveMiniport} {a : WaveCall × DrmAnswers} (h : MiniportInv m)
    (hstep : waveStep m a = some m') : MiniportInv m' := by
  obtain ⟨call, answers⟩ := a
  cases call with
  | newStream a =>
    rw [waveStep, Option.ite_none_right_eq_some] at hstep
    obtain ⟨hfresh, heq⟩ := hstep
    rw [← Option.some.inj heq]
    rcases newStream_cases answers a m with ⟨es, contentId, hes, hnew⟩ | ⟨s, hs, hvalid, hnew⟩
    · rw [hnew]
      exact ⟨h.nodup, h.registered, h.allocated, h.bound, h.slots, hes _ h.ledger, h.drm⟩
    · rw [hnew]
      exact h.created (hfresh s hs) hvalid _
  | setContentId s contentId =>
    obtain ⟨o, -, heq⟩ := Option.map_eq_some_iff.mp hstep
    have hset : MiniportInv { m with contentId := Function.update m.contentId s contentId } :=
      ⟨h.nodup, h.registered, h.allocated, h.bound, h.slots, h.ledger, h.drm⟩
    have hupdated := hset.updated (updateDrmRights_updated answers _)
    rw [← heq]
    unfold setContentId
    dsimp only
    split
    · exact hupdated
    · exact ⟨hupdated.nodup, hupdated.registered, hupdated.allocated, hupdated.bound,
        hupdated.slots, hupdated.ledger, hupdated.drm⟩
  | close s =>
    obtain ⟨o, hlookup, heq⟩ := Option.map_eq_some_iff.mp hstep
    obtain ⟨before, after, hopened, -⟩ := List.lookup_eq_some_iff.mp hlookup
    rw [← heq]
    exact h.close answers (by rw [hopened]; simp)

/-- **In every state of every run the books of the miniport agree with the streams that are open.**
A call opens a stream, closes one or replaces the mixed content, and does to the count, the table
and the ledgers the same; what fails on the way gives back what it has taken. -/
theorem streams_accounted {m : WaveMiniport} (h : Reach WaveStart waveStep m) : MiniportInv m := by
  refine h.invariant (fun m hm => ?_) fun m a m' hinv hstep => waveStep_inv hinv hstep
  refine ⟨?_, ?_, ?_, ?_, fun slots hslots => ?_, ?_, ?_⟩
  · rw [hm.noStream]
    exact List.nodup_nil
  · rw [hm.noStream]
    exact nofun
  · rw [hm.noStream, hm.allocated]
    rfl
  · rw [hm.noStream]
    exact Nat.zero_le _
  · rcases hm.streams with hnone | hsome
    · rw [hnone] at hslots
      cases hslots
    · rw [hsome] at hslots
      rw [← Option.some.inj hslots, hm.noStream]
      exact ⟨List.length_replicate, slotValues_replicate _⟩
  · rw [hm.noStream, hm.noEntry]
    rfl
  · rw [hm.noContent, hm.content]
    rfl

/-- A device that plays up to two streams. -/
def twoStreams : WaveMiniport where
  pinTypes := [.systemRender, .bridge]
  maxSystemStreams := 2
  systemAllocated := 0
  systemStreams := some [none, none]
  hasDrmPort := true
  mixDrmContentId := 0
  mixDrmRights := ⟨false, 0, false⟩
  contentId := fun _ => 0
  opened := []
  ledger := []
  drm := []

theorem twoStreams_start : WaveStart twoStreams :=
  ⟨rfl, Or.inr rfl, rfl, rfl, rfl, rfl⟩

/-- A request to play at the address `s`. -/
def playAt (s : StreamId) : NewStreamArgs where
  pin := 0
  capture := false
  attributes := statusSuccess
  formatSupported := statusSuccess
  object := some s
  waveFormat := true
  wfExt := true

/-- Two streams are opened and given contents, and the first of them is closed. -/
theorem streams_accounted_twoStreams : ∃ m : WaveMiniport,
    m.systemStreams = some [none, some 0x2000] ∧ m.systemAllocated.toNat = m.opened.length
      ∧ settle {0} m.drm = some {9} := by
  obtain ⟨m, hm, htest⟩ := exists_reach_of_run waveStep twoStreams_start
    [(.newStream (playAt 0x1000), ⟨true, (statusSuccess, 7), (statusSuccess, ⟨true, 0, false⟩)⟩),
      (.newStream (playAt 0x2000), ⟨true, (statusSuccess, 7), (statusSuccess, ⟨true, 0, false⟩)⟩),
      (.setContentId 0x2000 5, ⟨true, (statusSuccess, 8), (statusSuccess, ⟨true, 0, false⟩)⟩),
      (.close 0x1000, ⟨true, (statusSuccess, 9), (statusSuccess, ⟨true, 0, false⟩)⟩)]
    (fun m => m.systemStreams == some [none, some 0x2000] && m.mixDrmContentId == 9) (by decide)
  rw [Bool.and_eq_true, beq_iff_eq, beq_iff_eq] at htest
  have hinv := streams_accounted hm
  refine ⟨m, htest.1, hinv.allocated, ?_⟩
  rw [hinv.drm, htest.2]

end WoaRk3576.Audio
