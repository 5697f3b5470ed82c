/-
# Channel indices of pl330dma: `ReadDmacConfiguration`, `AllocThreads`, `GetHandle`, `pl330_dma_dpc`

The controller reports in `CR0` how many channels and how many events it has, and in `CRD` the
width and the depth of its data path.  `ReadDmacConfiguration` takes both apart into the bit fields
of `PL330DMA_CONFIG`; `AllocThreads` allocates one entry of `Channels` a channel and one for the
manager, and what comes after indexes the array by a channel number, or by an event number, without
a test.

Each function here gives, beside its result, the indices into `Channels` it has used.
`indexing_exact` is the result: the channel count is taken from `CRD`, so the indices are right
exactly when that field of `CRD` happens to say what `CR0` says and no event above the channels is
raised.

Both directions come from two lists of indices.  Those of `GetHandle` are below the count that was
read, so they are in the array whatever the count is; but they are channels of the hardware only if
the count is that of `CR0`.  Those of the DPC are the bits of the event status: the loop goes up to
the number of events, which may be 32, and what keeps an index inside is only that no bit above the
last channel is set.  The entry behind the channels is the manager's, so that one bit too many is
inside the array and still wrong.
-/
import Mathlib.Data.List.Basic
import Mathlib.Data.List.Range

namespace WoaRk3576.Dma

/-! ## 1. `ReadDmacConfiguration`

The configuration is read out of two registers, a shift and a mask for each field, and stored to
bit fields, which cut off what does not fit.  The number of channels is taken from `CRD` with the
shift and the mask that belong to `CR0`. -/

/-- `PL330DMA_CONFIG`.  A bit field keeps the low bits of what is stored to it. -/
structure Pl330Config where
  mode : BitVec 32
  dataBusWidth : BitVec 10
  dataBufDepth : BitVec 11
  numChan : BitVec 4
  numPeripherals : BitVec 6
  peripheralNS : BitVec 32
  numEvents : BitVec 6
  irqNS : BitVec 32
  deriving DecidableEq, Repr

/-- The registers that `ReadDmacConfiguration` reads. -/
structure Pl330Registers where
  cr0 : BitVec 32
  cr3 : BitVec 32
  cr4 : BitVec 32
  crd : BitVec 32
  deriving DecidableEq, Repr

/-- A shift and a mask, as the source writes the fields of a register. -/
def registerField (reg : BitVec 32) (shift : Nat) (mask : BitVec 32) : BitVec 32 :=
  (reg >>> shift) &&& mask

def crdDataWidth (crd : BitVec 32) : BitVec 32 := registerField crd 0 0x7

def crdDataBuff (crd : BitVec 32) : BitVec 32 := registerField crd 20 0x3ff

/-- `CR0_NUM_CHANS_SHIFT` and `CR0_NUM_CHANS_MASK`, of whichever register. -/
def cr0NumChans (reg : BitVec 32) : BitVec 32 := registerField reg 4 0x7

def cr0NumPeriph (cr0 : BitVec 32) : BitVec 32 := registerField cr0 12 0x1f

def cr0NumEvents (cr0 : BitVec 32) : BitVec 32 := registerField cr0 17 0x1f

def cr0PeriphReqSet : BitVec 32 := 1#32 <<< 0

def cr0BootManNs : BitVec 32 := 1#32 <<< 2

def dmacModeNs : BitVec 32 := 1#32 <<< 0

/-- `ReadDmacConfiguration`.  The channel count comes from `crd`. -/
def readDmacConfiguration (config : Pl330Config) (regs : Pl330Registers) : Pl330Config where
  dataBusWidth := (8#32 * (1#32 <<< (crdDataWidth regs.crd).toNat)).setWidth 10
  dataBufDepth := (crdDataBuff regs.crd + 1#32).setWidth 11
  numChan := (cr0NumChans regs.crd + 1#32).setWidth 4
  numPeripherals :=
    if regs.cr0 &&& cr0PeriphReqSet ≠ 0 then (cr0NumPeriph regs.cr0 + 1#32).setWidth 6 else 0
  peripheralNS := if regs.cr0 &&& cr0PeriphReqSet ≠ 0 then regs.cr4 else config.peripheralNS
  mode :=
    if regs.cr0 &&& cr0BootManNs ≠ 0 then config.mode ||| dmacModeNs
    else config.mode &&& ~~~dmacModeNs
  numEvents := (cr0NumEvents regs.cr0 + 1#32).setWidth 6
  irqNS := regs.cr3

/-- A field is not above its mask. -/
theorem registerField_le (reg : BitVec 32) (shift : Nat) (mask : BitVec 32) :
    (registerField reg shift mask).toNat ≤ mask.toNat := by
  unfold registerField
  rw [BitVec.toNat_and]
  exact Nat.and_le_right

theorem cr0NumChans_lt (reg : BitVec 32) : (cr0NumChans reg).toNat < 8 :=
  Nat.lt_succ_of_le (registerField_le reg 4 0x7)

theorem cr0NumEvents_lt (reg : BitVec 32) : (cr0NumEvents reg).toNat < 32 :=
  Nat.lt_succ_of_le (registerField_le reg 17 0x1f)

/-- The bit field holds the whole count. -/
theorem numChan_toNat (config : Pl330Config) (regs : Pl330Registers) :
    (readDmacConfiguration config regs).numChan.toNat = (cr0NumChans regs.crd).toNat + 1 := by
  have hlt := cr0NumChans_lt regs.crd
  simp only [readDmacConfiguration, BitVec.toNat_setWidth, BitVec.toNat_add, BitVec.toNat_ofNat]
  omega

theorem numEvents_toNat (config : Pl330Config) (regs : Pl330Registers) :
    (readDmacConfiguration config regs).numEvents.toNat = (cr0NumEvents regs.cr0).toNat + 1 := by
  have hlt := cr0NumEvents_lt regs.cr0
  simp only [readDmacConfiguration, BitVec.toNat_setWidth, BitVec.toNat_add, BitVec.toNat_ofNat]
  omega

/-! ## 2. The array `Channels`

The array has an entry for each channel and one for the manager.  Every function that goes through
it gives the list of the subscripts it has used, along with its result, so that a subscript out of
bounds can be told from a right one. -/

/-- `PL330DMA_THREAD`: the fields that `AllocThreads` and `GetHandle` touch. -/
structure Pl330Thread where
  id : BitVec 8
  ev : BitVec 32
  free : Bool
  deriving DecidableEq, Repr

/-- What a function leaves: its result and the indices into `Channels` it has used. -/
structure Indexed (α : Type) where
  result : α
  indices : List Nat
  deriving Repr

/-- `&pDevice->Channels[i]`, written to. -/
def Indexed.write (r : Indexed (List Pl330Thread)) (i : Nat) (thread : Pl330Thread) :
    Indexed (List Pl330Thread) where
  result := r.result.set i thread
  indices := r.indices ++ [i]

/-- The loop of `AllocThreads` over the channels. -/
def initThreads (r : Indexed (List Pl330Thread)) (is : List Nat) : Indexed (List Pl330Thread) :=
  is.foldl (fun r i => r.write i ⟨BitVec.ofNat 8 i, BitVec.ofNat 32 i, true⟩) r

/-- `AllocThreads`: `1 + chans` zeroed entries, the channels and then the manager. -/
def allocThreads (numChan : BitVec 4) : Indexed (List Pl330Thread) :=
  let chans := (numChan.setWidth 8).toNat
  let channels := List.replicate (1 + chans) (⟨0, 0, false⟩ : Pl330Thread)
  (initThreads ⟨channels, []⟩ (List.range chans)).write chans ⟨BitVec.ofNat 8 chans, 0, false⟩

/-- `FreeResources` stops the first entry once a channel. -/
def freeResources (numChan : BitVec 4) : List Nat := (List.range numChan.toNat).map fun _ => 0

/-- The loop of `GetHandle` from the indices that are left. -/
def getHandleFrom (channels : List Pl330Thread) (idx : BitVec 32) : List Nat → Indexed (Option Nat)
  | [] => ⟨none, []⟩
  | i :: is =>
    if (channels[i]?.map (·.free)).getD false = true ∧ (BitVec.ofNat 32 i = idx ∨ idx = -1) then
      ⟨some i, [i, i]⟩
    else
      let r := getHandleFrom channels idx is
      ⟨r.result, i :: r.indices⟩

/-- `GetHandle`: the handle is the index of the entry. -/
def getHandleIndexed (channels : List Pl330Thread) (numChan : BitVec 4) (idx : BitVec 32) :
    Indexed (Option Nat) :=
  getHandleFrom channels idx (List.range numChan.toNat)

/-- The entries that `pl330_dma_dpc` dispatches to. -/
def pl330_dma_dpc (numEvents : BitVec 6) (irqLastEvents : BitVec 32) : List Nat :=
  (List.range numEvents.toNat).filter fun ev => irqLastEvents.getLsbD ev

@[simp] theorem Indexed.write_indices (r : Indexed (List Pl330Thread)) (i : Nat)
    (thread : Pl330Thread) : (r.write i thread).indices = r.indices ++ [i] := rfl

@[simp] theorem Indexed.write_length (r : Indexed (List Pl330Thread)) (i : Nat)
    (thread : Pl330Thread) : (r.write i thread).result.length = r.result.length := by
  simp [Indexed.write]

/-- The loop uses the indices it is given, in order, and keeps the length. -/
theorem initThreads_indices (is : List Nat) : ∀ r : Indexed (List Pl330Thread),
    (initThreads r is).indices = r.indices ++ is
      ∧ (initThreads r is).result.length = r.result.length := by
  induction is with
  | nil => intro r; simp [initThreads]
  | cons i is ih =>
    intro r
    obtain ⟨hindices, hlength⟩ := ih (r.write i ⟨BitVec.ofNat 8 i, BitVec.ofNat 32 i, true⟩)
    constructor
    · rw [show initThreads r (i :: is) = initThreads (r.write i _) is from rfl, hindices]
      simp
    · rw [show initThreads r (i :: is) = initThreads (r.write i _) is from rfl, hlength]
      simp

theorem chans_toNat (numChan : BitVec 4) : (numChan.setWidth 8).toNat = numChan.toNat := by
  rw [BitVec.toNat_setWidth]
  have := numChan.isLt
  omega

/-- **What is allocated**: an entry a channel and one for the manager. -/
theorem allocThreads_length (numChan : BitVec 4) :
    (allocThreads numChan).result.length = numChan.toNat + 1 := by
  unfold allocThreads
  dsimp only
  rw [Indexed.write_length, (initThreads_indices _ _).2, List.length_replicate, chans_toNat]
  omega

theorem allocThreads_indices (numChan : BitVec 4) :
    (allocThreads numChan).indices = List.range (numChan.toNat + 1) := by
  unfold allocThreads
  dsimp only
  rw [Indexed.write_indices, (initThreads_indices _ _).1, chans_toNat, List.range_succ]
  rfl

/-- `GetHandle` looks at entries of the list only, and gives one of them. -/
theorem getHandleFrom_mem (channels : List Pl330Thread) (idx : BitVec 32) (is : List Nat) :
    (∀ i ∈ (getHandleFrom channels idx is).indices, i ∈ is)
      ∧ ∀ i, (getHandleFrom channels idx is).result = some i → i ∈ is := by
  induction is with
  | nil => simp [getHandleFrom]
  | cons j is ih =>
    obtain ⟨hindices, hresult⟩ := ih
    unfold getHandleFrom
    split
    · constructor
      · intro i hi
        simp at hi
        simp [hi]
      · intro i hi
        simp at hi
        simp [hi]
    · constructor
      · intro i hi
        rcases List.mem_cons.mp hi with rfl | hi
        · simp
        · exact List.mem_cons_of_mem j (hindices i hi)
      · intro i hi
        exact List.mem_cons_of_mem j (hresult i hi)

theorem getHandleIndexed_lt (channels : List Pl330Thread) (numChan : BitVec 4) (idx : BitVec 32) :
    (∀ i ∈ (getHandleIndexed channels numChan idx).indices, i < numChan.toNat)
      ∧ ∀ i, (getHandleIndexed channels numChan idx).result = some i → i < numChan.toNat := by
  obtain ⟨hindices, hresult⟩ := getHandleFrom_mem channels idx (List.range numChan.toNat)
  constructor
  · intro i hi
    exact List.mem_range.mp (hindices i hi)
  · intro i hi
    exact List.mem_range.mp (hresult i hi)

theorem mem_pl330_dma_dpc {numEvents : BitVec 6} {irqLastEvents : BitVec 32} {ev : Nat} :
    ev ∈ pl330_dma_dpc numEvents irqLastEvents
      ↔ ev < numEvents.toNat ∧ irqLastEvents.getLsbD ev = true := by
  simp [pl330_dma_dpc]

/-! ## 3. The indices are right

The array and the loops over it use the same count, so among themselves they are always right.
What may be wrong is the count itself, and the dispatch of events, which goes by the number of
events. -/

/-- **What a configuration has to give**: the count the hardware reports, every index in the
array, and a channel wherever an event is dispatched. -/
structure IndexingRight (config : Pl330Config) (cr0 es : BitVec 32) : Prop where
  numChan : config.numChan.toNat = (cr0NumChans cr0).toNat + 1
  allocThreads : ∀ i ∈ (allocThreads config.numChan).indices,
    i < (allocThreads config.numChan).result.length
  freeResources : ∀ i ∈ freeResources config.numChan,
    i < (Dma.allocThreads config.numChan).result.length
  getHandle : ∀ channels idx, ∀ i ∈ (getHandleIndexed channels config.numChan idx).indices,
    i < (Dma.allocThreads config.numChan).result.length
  dpc : ∀ ev ∈ pl330_dma_dpc config.numEvents es,
    ev < (Dma.allocThreads config.numChan).result.length
  dispatched : ∀ ev ∈ pl330_dma_dpc config.numEvents es, ev ≠ config.numChan.toNat

/-- Whatever the count, the allocation and the calls on channels stay in the array. -/
theorem allocThreads_lt (numChan : BitVec 4) :
    ∀ i ∈ (allocThreads numChan).indices, i < (allocThreads numChan).result.length := by
  intro i hi
  rw [allocThreads_indices] at hi
  rw [allocThreads_length]
  exact List.mem_range.mp hi

theorem freeResources_lt (numChan : BitVec 4) :
    ∀ i ∈ freeResources numChan, i < (allocThreads numChan).result.length := by
  intro i hi
  obtain ⟨j, _, rfl⟩ := List.mem_map.mp hi
  rw [allocThreads_length]
  omega

theorem getHandle_lt (channels : List Pl330Thread) (numChan : BitVec 4) (idx : BitVec 32) :
    ∀ i ∈ (getHandleIndexed channels numChan idx).indices,
      i < (allocThreads numChan).result.length := by
  intro i hi
  have hlt := (getHandleIndexed_lt channels numChan idx).1 i hi
  rw [allocThreads_length]
  omega

/-- **The indices are right exactly when `CRD` repeats `CR0`**: the two registers agree in the
field of the channel count, and no event from there on is raised.  `GetHandle` uses all indices
below the count that was read, and the DPC those of the events that are raised, so both lists are
known. -/
theorem indexing_exact (config : Pl330Config) (regs : Pl330Registers) (es : BitVec 32) :
    IndexingRight (readDmacConfiguration config regs) regs.cr0 es
      ↔ cr0NumChans regs.crd = cr0NumChans regs.cr0
        ∧ ∀ ev < (cr0NumEvents regs.cr0).toNat + 1, es.getLsbD ev = true →
          ev < (cr0NumChans regs.cr0).toNat + 1 := by
  constructor
  · intro h
    have hfields : (cr0NumChans regs.crd).toNat = (cr0NumChans regs.cr0).toNat := by
      have hcount := h.numChan
      rw [numChan_toNat] at hcount
      omega
    refine ⟨BitVec.eq_of_toNat_eq hfields, ?_⟩
    intro ev hev hbit
    have hmem : ev ∈ pl330_dma_dpc (readDmacConfiguration config regs).numEvents es :=
      mem_pl330_dma_dpc.mpr ⟨by rw [numEvents_toNat]; exact hev, hbit⟩
    have hin := h.dpc ev hmem
    have hchannel := h.dispatched ev hmem
    rw [allocThreads_length, numChan_toNat] at hin
    rw [numChan_toNat] at hchannel
    omega
  · rintro ⟨hfields, hevents⟩
    have hchannel : ∀ ev ∈ pl330_dma_dpc (readDmacConfiguration config regs).numEvents es,
        ev < (readDmacConfiguration config regs).numChan.toNat := by
      intro ev hev
      obtain ⟨hlt, hbit⟩ := mem_pl330_dma_dpc.mp hev
      rw [numEvents_toNat] at hlt
      rw [numChan_toNat, hfields]
      exact hevents ev hlt hbit
    constructor
    · rw [numChan_toNat, hfields]
    · exact allocThreads_lt _
    · exact freeResources_lt _
    · exact fun channels idx => getHandle_lt channels _ idx
    · intro ev hev
      have hlt := hchannel ev hev
      rw [allocThreads_length]
      omega
    · intro ev hev
      exact (hchannel ev hev).ne

/-- The controller reports eight channels and eight events, the write capability in `CRD` is
four: `NumChan` is four, and event 5 is dispatched behind the five entries. -/
theorem numChan_from_crd :
    (let config := readDmacConfiguration ⟨0, 0, 0, 0, 0, 0, 0, 0⟩ ⟨0x000e0070, 0, 0, 0x03f73033⟩
     (cr0NumChans 0x000e0070).toNat + 1 = 8 ∧ config.numChan = 4
       ∧ (allocThreads config.numChan).result.length = 5
       ∧ pl330_dma_dpc config.numEvents 0x20 = [5])
      ∧ ¬ IndexingRight (readDmacConfiguration ⟨0, 0, 0, 0, 0, 0, 0, 0⟩
          ⟨0x000e0070, 0, 0, 0x03f73033⟩) 0x000e0070 0x20 := by
  refine ⟨by decide, ?_⟩
  intro h
  have hcount := h.numChan
  revert hcount
  decide

end WoaRk3576.Dma
