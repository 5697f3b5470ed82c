/-
# The ADMA2 descriptor table of dwcsdhc

`SdhcCreateAdmaDescriptorTable` writes an entry for each piece of at most 0xF000 bytes of a
scatter-gather list: a word of attributes, action and length, and an address of 4 or of 8 bytes,
one behind the other at a byte cursor.  Behind the last element it reaches back to the word of the
last entry, to end the table there.

The table is kept here as the bytes it is.  `adma_exact` reads it as the controller does, entry by
entry in the layout of its format: the entries are the bytes of the list.

An entry that was written is read back (`readEntry_writeEntry`), and the entries behind it lie
apart from it, so a table of pieces is read as their entries, by induction over the pieces with the
cursor in step (`writeAll_adma`).  What is written last is the word of the last entry once more,
with one bit set: the other fields of that entry and all other entries are kept.  A length of
0xF000 fits the 16 bits of its field, and an address the width of the format, as the list was built
for it.
-/
import WoaRk3576.Lib.Memory
import WoaRk3576.Sd.Sglist

namespace WoaRk3576.Sd

open WoaRk3576.Lib

/-! ## 1. Entries

The table is bytes in memory, and the driver writes it through a pointer to bit fields.  A word of
an entry is therefore written and read back through its fields, and the address behind it has four
or eight bytes. -/

/-- `SDHC_ADMA2_DESCRIPTOR_TABLE_ENTRY`, by its bit fields. -/
structure AdmaEntry where
  attributes : BitVec 3
  reserved1 : BitVec 1
  action : BitVec 2
  reserved2 : BitVec 10
  length : BitVec 16
  deriving DecidableEq

/-- `AsUlong`. -/
def AdmaEntry.asUlong (e : AdmaEntry) : BitVec 32 :=
  (e.length ++ (e.reserved2 ++ (e.action ++ (e.reserved1 ++ e.attributes)))).cast rfl

/-- The bit fields of `AsUlong`. -/
def AdmaEntry.ofUlong (asUlong : BitVec 32) : AdmaEntry where
  attributes := asUlong.extractLsb' 0 3
  reserved1 := asUlong.extractLsb' 3 1
  action := asUlong.extractLsb' 4 2
  reserved2 := asUlong.extractLsb' 6 10
  length := asUlong.extractLsb' 16 16

/-- `SDHC_ADMA2_ATTRIBUTE_VALID`. -/
def sdhcAdma2AttributeValid : BitVec 3 := 1

/-- `SDHC_ADMA2_ATTRIBUTE_END`. -/
def sdhcAdma2AttributeEnd : BitVec 3 := 2

/-- `SDHC_ADMA2_ACTION_TRAN`. -/
def sdhcAdma2ActionTran : BitVec 2 := 2

/-- `SDHC_ADMA2_MAX_LENGTH_PER_ENTRY`. -/
def sdhcAdma2MaxLengthPerEntry : Nat := 0xF000

/-- The word at `i`. -/
def readEntry (m : Memory) (i : Nat) : AdmaEntry :=
  AdmaEntry.ofUlong (BitVec.ofNat 32 (loadLe m i 4))

def writeEntry (m : Memory) (i : Nat) (e : AdmaEntry) : Memory :=
  storeLe m i 4 e.asUlong.toNat

/-- Bit fields of the word at `i` are assigned. -/
def modifyEntry (m : Memory) (i : Nat) (f : AdmaEntry → AdmaEntry) : Memory :=
  writeEntry m i (f (readEntry m i))

/-- The memory from `DmaVirtualAddress` on, `Buffer` and `Descriptor` in it, and
`*TotalTransferLength`. -/
structure AdmaTable where
  memory : Memory
  buffer : Nat
  descriptor : Nat
  totalTransferLength : BitVec 32

/-- The body of the inner loop. -/
def writeAdma (use64BitDescriptor : Bool) (t : AdmaTable) (nextAddress : BitVec 64)
    (nextLength : Nat) : AdmaTable :=
  let descriptor := t.buffer
  let buffer := t.buffer + 4
  let memory := writeEntry t.memory descriptor (AdmaEntry.ofUlong 0)
  let memory := modifyEntry memory descriptor ({ · with action := sdhcAdma2ActionTran })
  let memory := modifyEntry memory descriptor ({ · with attributes := sdhcAdma2AttributeValid })
  let memory := modifyEntry memory descriptor ({ · with length := BitVec.ofNat 16 nextLength })
  let totalTransferLength := t.totalTransferLength + BitVec.ofNat 32 nextLength
  if use64BitDescriptor then
    { memory := storeLe memory buffer 8 nextAddress.toNat
      buffer := buffer + 8
      descriptor, totalTransferLength }
  else
    { memory := storeLe memory buffer 4 (nextAddress.setWidth 32).toNat
      buffer := buffer + 4
      descriptor, totalTransferLength }

/-- Behind an element: the last one ends the table. -/
def endAdma (numberOfElements : Nat) (t : AdmaTable) : AdmaTable :=
  if numberOfElements = 0 then
    { t with memory := modifyEntry t.memory t.descriptor fun e =>
        { e with attributes := e.attributes ||| sdhcAdma2AttributeEnd } }
  else t

/-- **`SdhcCreateAdmaDescriptorTable`.** -/
def sdhcCreateAdmaDescriptorTable (memory : Memory) (use64BitDescriptor : Bool)
    (elements : List SglistElement) : AdmaTable :=
  writeElements sdhcAdma2MaxLengthPerEntry (writeAdma use64BitDescriptor) endAdma ⟨memory, 0, 0, 0⟩
    elements

/-! ## 2. Reading entries back

Five fields that do not overlap make up the 32 bits, so what was assigned is read, and a change of
some fields leaves the others. -/

/-- The fields of `AsUlong`, bit by bit. -/
theorem AdmaEntry.getLsbD_asUlong (e : AdmaEntry) (i : Nat) :
    e.asUlong.getLsbD i
      = if i < 3 then e.attributes.getLsbD i
        else if i < 4 then e.reserved1.getLsbD (i - 3)
        else if i < 6 then e.action.getLsbD (i - 4)
        else if i < 16 then e.reserved2.getLsbD (i - 6)
        else e.length.getLsbD (i - 16) := by
  unfold AdmaEntry.asUlong
  rw [BitVec.getLsbD_cast, BitVec.getLsbD_append, BitVec.getLsbD_append, BitVec.getLsbD_append,
    BitVec.getLsbD_append]
  by_cases h16 : i < 16
  · by_cases h6 : i < 6
    · by_cases h4 : i < 4
      · simp [h4, h6, h16]
      · have h3 : ¬ i < 3 := by omega
        simp [h3, h4, h6, h16]
    · have h4 : ¬ i < 4 := by omega
      have h3 : ¬ i < 3 := by omega
      simp [h3, h4, h6, h16]
  · have h6 : ¬ i < 6 := by omega
    have h4 : ¬ i < 4 := by omega
    have h3 : ¬ i < 3 := by omega
    simp [h3, h4, h6, h16]

@[simp]
theorem AdmaEntry.ofUlong_asUlong (e : AdmaEntry) : AdmaEntry.ofUlong e.asUlong = e := by
  obtain ⟨attributes, reserved1, action, reserved2, length⟩ := e
  unfold AdmaEntry.ofUlong
  rw [AdmaEntry.mk.injEq]
  refine ⟨?_, ?_, ?_, ?_, ?_⟩
  · refine BitVec.eq_of_getLsbD_eq fun i hi => ?_
    rw [BitVec.getLsbD_extractLsb', AdmaEntry.getLsbD_asUlong]
    simp [hi]
  · refine BitVec.eq_of_getLsbD_eq fun i hi => ?_
    rw [BitVec.getLsbD_extractLsb', AdmaEntry.getLsbD_asUlong, if_neg (by omega),
      if_pos (by omega), Nat.add_sub_cancel_left]
    simp [hi]
  · refine BitVec.eq_of_getLsbD_eq fun i hi => ?_
    rw [BitVec.getLsbD_extractLsb', AdmaEntry.getLsbD_asUlong, if_neg (by omega),
      if_neg (by omega), if_pos (by omega), Nat.add_sub_cancel_left]
    simp [hi]
  · refine BitVec.eq_of_getLsbD_eq fun i hi => ?_
    rw [BitVec.getLsbD_extractLsb', AdmaEntry.getLsbD_asUlong, if_neg (by omega),
      if_neg (by omega), if_neg (by omega), if_pos (by omega), Nat.add_sub_cancel_left]
    simp [hi]
  · refine BitVec.eq_of_getLsbD_eq fun i hi => ?_
    rw [BitVec.getLsbD_extractLsb', AdmaEntry.getLsbD_asUlong, if_neg (by omega),
      if_neg (by omega), if_neg (by omega), if_neg (by omega), Nat.add_sub_cancel_left]
    simp [hi]

section Memory

variable (m : Memory) (i : Nat)

/-- **An entry that was written is read.** -/
theorem readEntry_writeEntry (e : AdmaEntry) : readEntry (writeEntry m i e) i = e := by
  have hfits : e.asUlong.toNat % 256 ^ 4 = e.asUlong.toNat := Nat.mod_eq_of_lt e.asUlong.isLt
  unfold readEntry writeEntry
  rw [loadLe_storeLe_self, hfits, BitVec.ofNat_toNat, BitVec.setWidth_eq,
    AdmaEntry.ofUlong_asUlong]

/-- Bit fields of an entry that was written. -/
theorem modifyEntry_writeEntry (e : AdmaEntry) (f : AdmaEntry → AdmaEntry) :
    modifyEntry (writeEntry m i e) i f = writeEntry m i (f e) := by
  unfold modifyEntry
  rw [readEntry_writeEntry]
  exact storeLe_storeLe_self ..

theorem readEntry_storeLe_of_apart {j n x : Nat} (h : i + 4 ≤ j ∨ j + n ≤ i) :
    readEntry (storeLe m j n x) i = readEntry m i := by
  unfold readEntry
  rw [loadLe_storeLe_of_apart m h]

end Memory

/-! ## 3. The table

Each iteration writes behind what was written before, so what is below the cursor stays.  The end
of the table is put into the last entry by going back one entry, which works for both sizes because
the cursor is moved by the size. -/

/-- The bytes of an address. -/
def addressBytes (use64BitDescriptor : Bool) : Nat := if use64BitDescriptor then 8 else 4

/-- The bytes of an entry with its address: 12 or 8. -/
def entryBytes (use64BitDescriptor : Bool) : Nat := 4 + addressBytes use64BitDescriptor

/-- The address of the entry at `i`. -/
def readAddress (use64BitDescriptor : Bool) (m : Memory) (i : Nat) : BitVec 64 :=
  BitVec.ofNat 64 (loadLe m (i + 4) (addressBytes use64BitDescriptor))

/-- The word of a piece, before the end of the table is known. -/
def pieceEntry (nextLength : Nat) : AdmaEntry where
  attributes := sdhcAdma2AttributeValid
  reserved1 := 0
  action := sdhcAdma2ActionTran
  reserved2 := 0
  length := BitVec.ofNat 16 nextLength

/-- **What is written for a piece.** -/
theorem writeAdma_eq (use64BitDescriptor : Bool) (t : AdmaTable) (nextAddress : BitVec 64)
    (nextLength : Nat) :
    writeAdma use64BitDescriptor t nextAddress nextLength = {
      memory := storeLe (writeEntry t.memory t.buffer (pieceEntry nextLength)) (t.buffer + 4)
        (addressBytes use64BitDescriptor)
        (if use64BitDescriptor then nextAddress.toNat else (nextAddress.setWidth 32).toNat)
      buffer := t.buffer + entryBytes use64BitDescriptor
      descriptor := t.buffer
      totalTransferLength := t.totalTransferLength + BitVec.ofNat 32 nextLength } := by
  unfold writeAdma
  dsimp only
  rw [modifyEntry_writeEntry, modifyEntry_writeEntry, modifyEntry_writeEntry]
  cases use64BitDescriptor with
  | true => rfl
  | false => rfl

theorem readEntry_congr {m m' : Memory} {i : Nat} (h : ∀ j, i ≤ j → j < i + 4 → m j = m' j) :
    readEntry m i = readEntry m' i := by
  unfold readEntry loadLe
  rw [load_congr h]

theorem readAddress_congr {use64BitDescriptor : Bool} {m m' : Memory} {i : Nat}
    (h : ∀ j, i + 4 ≤ j → j < i + entryBytes use64BitDescriptor → m j = m' j) :
    readAddress use64BitDescriptor m i = readAddress use64BitDescriptor m' i := by
  unfold readAddress loadLe
  rw [load_congr fun j hge hlt => h j hge (by rw [entryBytes]; omega)]

/-- The address that an entry can hold. -/
def entryAddress (use64BitDescriptor : Bool) (nextAddress : BitVec 64) : BitVec 64 :=
  if use64BitDescriptor then nextAddress else (nextAddress.setWidth 32).setWidth 64

section Table

variable (use64BitDescriptor : Bool)

/-- An iteration: the entry at the cursor, what is below it, and the cursor behind it. -/
theorem writeAdma_spec (t : AdmaTable) (nextAddress : BitVec 64) (nextLength : Nat) :
    let t' := writeAdma use64BitDescriptor t nextAddress nextLength
    readEntry t'.memory t.buffer = pieceEntry nextLength
      ∧ readAddress use64BitDescriptor t'.memory t.buffer
        = entryAddress use64BitDescriptor nextAddress
      ∧ ∀ j < t.buffer, t'.memory j = t.memory j := by
  dsimp only
  rw [writeAdma_eq]
  refine ⟨?_, ?_, ?_⟩
  · dsimp only
    rw [readEntry_storeLe_of_apart _ _ (.inl (Nat.le_refl _)), readEntry_writeEntry]
  · unfold readAddress entryAddress addressBytes
    dsimp only
    rw [loadLe_storeLe_self]
    refine BitVec.eq_of_toNat_eq ?_
    cases use64BitDescriptor with
    | true =>
      have hlt : nextAddress.toNat < 2 ^ 64 := nextAddress.isLt
      rw [if_pos rfl, if_pos rfl, if_pos rfl, BitVec.toNat_ofNat]
      omega
    | false =>
      have hlt : (nextAddress.setWidth 32).toNat < 2 ^ 32 := (nextAddress.setWidth 32).isLt
      have hwide : ((nextAddress.setWidth 32).setWidth 64).toNat
          = (nextAddress.setWidth 32).toNat % 2 ^ 64 := BitVec.toNat_setWidth ..
      rw [if_neg Bool.false_ne_true, if_neg Bool.false_ne_true, if_neg Bool.false_ne_true,
        BitVec.toNat_ofNat, hwide]
      omega
  · intro j hj
    dsimp only
    rw [storeLe_of_apart _ (.inl (by omega))]
    exact storeLe_of_apart _ (.inl hj)

/-- **The table of a list of pieces**, as it is read. -/
theorem writeAll_adma (cs : List (Extent (BitVec 64))) : ∀ t : AdmaTable,
    let t' := writeAll (writeAdma use64BitDescriptor) t cs
    t'.buffer = t.buffer + cs.length * entryBytes use64BitDescriptor
      ∧ t'.totalTransferLength
        = t.totalTransferLength + BitVec.ofNat 32 (cs.map Extent.length).sum
      ∧ (cs ≠ [] → t'.descriptor + entryBytes use64BitDescriptor = t'.buffer)
      ∧ (∀ j < t.buffer, t'.memory j = t.memory j)
      ∧ ∀ i (h : i < cs.length),
        readEntry t'.memory (t.buffer + i * entryBytes use64BitDescriptor)
            = pieceEntry cs[i].length
          ∧ readAddress use64BitDescriptor t'.memory
              (t.buffer + i * entryBytes use64BitDescriptor)
            = entryAddress use64BitDescriptor cs[i].address := by
  induction cs with
  | nil =>
    intro t
    refine ⟨?_, ?_, ?_, fun _ _ => rfl, fun i h => absurd h (Nat.not_lt_zero i)⟩
    · simp [writeAll]
    · simp [writeAll]
    · exact fun hne => absurd rfl hne
  | cons c cs ih =>
    intro t
    obtain ⟨hentry, haddress, hbelow⟩ := writeAdma_spec use64BitDescriptor t c.address c.length
    have hstep := writeAdma_eq use64BitDescriptor t c.address c.length
    obtain ⟨hbuffer, htotal, hdescriptor, hkept, hrest⟩ :=
      ih (writeAdma use64BitDescriptor t c.address c.length)
    have hnext : (writeAdma use64BitDescriptor t c.address c.length).buffer
        = t.buffer + entryBytes use64BitDescriptor := congrArg AdmaTable.buffer hstep
    have hsum : (writeAdma use64BitDescriptor t c.address c.length).totalTransferLength
        = t.totalTransferLength + BitVec.ofNat 32 c.length :=
      congrArg AdmaTable.totalTransferLength hstep
    have hdone : (writeAdma use64BitDescriptor t c.address c.length).descriptor = t.buffer :=
      congrArg AdmaTable.descriptor hstep
    have hsize : 4 ≤ entryBytes use64BitDescriptor := Nat.le_add_right ..
    dsimp only at hentry haddress hbelow hbuffer htotal hdescriptor hkept hrest ⊢
    rw [hnext] at hbuffer hkept hrest
    have hall : writeAll (writeAdma use64BitDescriptor) t (c :: cs)
        = writeAll (writeAdma use64BitDescriptor)
            (writeAdma use64BitDescriptor t c.address c.length) cs := rfl
    rw [hall]
    refine ⟨?_, ?_, ?_, ?_, ?_⟩
    · rw [hbuffer, List.length_cons, Nat.succ_mul]
      omega
    · rw [htotal, hsum, List.map_cons, List.sum_cons, BitVec.ofNat_add, add_assoc]
    · intro _
      cases cs with
      | nil => exact (congrArg (· + entryBytes use64BitDescriptor) hdone).trans hnext.symm
      | cons c' cs => exact hdescriptor (List.cons_ne_nil c' cs)
    · intro j hj
      rw [hkept j (by omega)]
      exact hbelow j hj
    · intro i h
      cases i with
      | zero =>
        rw [Nat.zero_mul, Nat.add_zero, List.getElem_cons_zero, ← hentry, ← haddress]
        exact ⟨readEntry_congr fun j _ hlt => hkept j (by omega),
          readAddress_congr fun j _ hlt => hkept j hlt⟩
      | succ i =>
        have hplace : t.buffer + (i + 1) * entryBytes use64BitDescriptor
            = t.buffer + entryBytes use64BitDescriptor + i * entryBytes use64BitDescriptor := by
          rw [Nat.succ_mul]
          omega
        rw [hplace]
        exact hrest i (Nat.lt_of_succ_lt_succ h)

/-- The last entry is changed, and nothing else. -/
theorem endAdma_spec (t : AdmaTable) :
    (endAdma 0 t).buffer = t.buffer
      ∧ (endAdma 0 t).totalTransferLength = t.totalTransferLength
      ∧ readEntry (endAdma 0 t).memory t.descriptor
        = { readEntry t.memory t.descriptor with
            attributes := (readEntry t.memory t.descriptor).attributes
              ||| sdhcAdma2AttributeEnd }
      ∧ ∀ j, j < t.descriptor ∨ t.descriptor + 4 ≤ j →
        (endAdma 0 t).memory j = t.memory j := by
  refine ⟨rfl, rfl, ?_, fun j hj => ?_⟩
  · exact readEntry_writeEntry ..
  · exact storeLe_of_apart _ hj

end Table

/-! ## 4. What the controller reads

The controller goes through the entries until one says that it is the last, and takes the bytes of
each.  These are the pieces of the list in order, each no longer than 0xF000, and a length of 16
bits holds that. -/

section Controller

variable (use64BitDescriptor : Bool)

/-- The word of the entry `i`. -/
def AdmaTable.entry (t : AdmaTable) (i : Nat) : AdmaEntry :=
  readEntry t.memory (i * entryBytes use64BitDescriptor)

/-- The bytes that the entry `i` stands for. -/
def AdmaTable.extent (t : AdmaTable) (i : Nat) : Extent (BitVec 64) where
  address := readAddress use64BitDescriptor t.memory (i * entryBytes use64BitDescriptor)
  length := (t.entry use64BitDescriptor i).length.toNat

/-- The entries below the cursor. -/
def AdmaTable.count (t : AdmaTable) : Nat := t.buffer / entryBytes use64BitDescriptor

/-- An element that the table can be given: in the 32-bit format, one below 4 GiB. -/
structure AdmaElement (e : SglistElement) : Prop where
  nonempty : e.length ≠ 0
  below : use64BitDescriptor = false → e.address.toNat + e.length.toNat ≤ 2 ^ 32

/-- **What a descriptor table is to be**: the bytes of the list in pieces, in valid entries that
transfer, the last of which ends the table. -/
structure AdmaExact (elements : List SglistElement) (t : AdmaTable) : Prop where
  whole : t.count use64BitDescriptor * entryBytes use64BitDescriptor = t.buffer
  nonempty : 0 < t.count use64BitDescriptor
  bytes : ((List.range (t.count use64BitDescriptor)).map
      (t.extent use64BitDescriptor)).flatMap Extent.bytes
    = (elements.map SglistElement.extent).flatMap Extent.bytes
  length : ∀ i < t.count use64BitDescriptor, 1 ≤ (t.extent use64BitDescriptor i).length
    ∧ (t.extent use64BitDescriptor i).length ≤ 0xF000
  valid : ∀ i < t.count use64BitDescriptor,
    (t.entry use64BitDescriptor i).attributes &&& sdhcAdma2AttributeValid ≠ 0
  action : ∀ i < t.count use64BitDescriptor,
    (t.entry use64BitDescriptor i).action = sdhcAdma2ActionTran
  last : ∀ i < t.count use64BitDescriptor,
    (t.entry use64BitDescriptor i).attributes &&& sdhcAdma2AttributeEnd ≠ 0
      ↔ i + 1 = t.count use64BitDescriptor
  total : t.totalTransferLength.toNat = (elements.map fun e => e.length.toNat).sum

/-- The pieces of a list. -/
def admaPieces (elements : List SglistElement) : List (Extent (BitVec 64)) :=
  pieces sdhcAdma2MaxLengthPerEntry elements

/-- The attributes of an entry, by whether it is the last. -/
def tableAttributes (last : Bool) : BitVec 3 :=
  if last then sdhcAdma2AttributeValid ||| sdhcAdma2AttributeEnd else sdhcAdma2AttributeValid

theorem tableAttributes_spec : ∀ last : Bool,
    tableAttributes last &&& sdhcAdma2AttributeValid ≠ 0
      ∧ (tableAttributes last &&& sdhcAdma2AttributeEnd ≠ 0 ↔ last = true) := by decide

/-- The word of a piece, by whether it is the last. -/
def tableEntry (last : Bool) (nextLength : Nat) : AdmaEntry :=
  { pieceEntry nextLength with attributes := tableAttributes last }

/-- **The table**: the entries of the pieces, with the end in the last. -/
theorem sdhcCreateAdmaDescriptorTable_eq (memory : Memory) {elements : List SglistElement}
    (hne : elements ≠ []) (hpieces : admaPieces elements ≠ []) :
    let t := sdhcCreateAdmaDescriptorTable memory use64BitDescriptor elements
    t.buffer = (admaPieces elements).length * entryBytes use64BitDescriptor
      ∧ t.totalTransferLength
        = BitVec.ofNat 32 ((admaPieces elements).map Extent.length).sum
      ∧ ∀ i (h : i < (admaPieces elements).length),
        t.entry use64BitDescriptor i
            = tableEntry (decide (i + 1 = (admaPieces elements).length))
                (admaPieces elements)[i].length
          ∧ (t.extent use64BitDescriptor i).address
            = entryAddress use64BitDescriptor (admaPieces elements)[i].address := by
  obtain ⟨e, es, rfl⟩ := List.exists_cons_of_ne_nil hne
  have hlimit : 0 < sdhcAdma2MaxLengthPerEntry := by decide
  have hloops : sdhcCreateAdmaDescriptorTable memory use64BitDescriptor (e :: es)
      = endAdma 0 (writeAll (writeAdma use64BitDescriptor) ⟨memory, 0, 0, 0⟩
          (admaPieces (e :: es))) := by
    have hafter : ∀ n t, endAdma (n + 1) t = t := fun n _ => if_neg n.succ_ne_zero
    exact writeElements_eq hlimit (writeAdma use64BitDescriptor) hafter es e ⟨memory, 0, 0, 0⟩
  obtain ⟨hbuffer, htotal, hdescriptor, -, hentries⟩ :=
    writeAll_adma use64BitDescriptor (admaPieces (e :: es)) ⟨memory, 0, 0, 0⟩
  rw [hloops]
  generalize writeAll (writeAdma use64BitDescriptor) ⟨memory, 0, 0, 0⟩ (admaPieces (e :: es)) = t
    at hbuffer htotal hdescriptor hentries
  generalize admaPieces (e :: es) = cs at hpieces hbuffer htotal hdescriptor hentries
  obtain ⟨hbuffer', htotal', hlast, hothers⟩ := endAdma_spec t
  dsimp only at hbuffer htotal hdescriptor hentries ⊢
  rw [Nat.zero_add] at hbuffer
  rw [zero_add] at htotal
  refine ⟨hbuffer'.trans hbuffer, htotal'.trans htotal, fun i h => ?_⟩
  have hplace := hdescriptor hpieces
  have hsize : 4 ≤ entryBytes use64BitDescriptor := Nat.le_add_right ..
  obtain ⟨hentry, haddress⟩ := hentries i h
  rw [Nat.zero_add] at hentry haddress
  unfold AdmaTable.extent AdmaTable.entry
  dsimp only
  rw [← haddress]
  by_cases hi : i + 1 = cs.length
  · have hthere : t.descriptor = i * entryBytes use64BitDescriptor := by
      rw [hbuffer, ← hi, Nat.succ_mul] at hplace
      omega
    rw [hthere, hentry] at hlast
    rw [hthere] at hothers
    refine ⟨?_, readAddress_congr fun j hge _ => hothers j (.inr hge)⟩
    rw [hlast, decide_eq_true hi]
    rfl
  · have hapart : i * entryBytes use64BitDescriptor + entryBytes use64BitDescriptor
        ≤ t.descriptor := by
      have hle : (i + 1) * entryBytes use64BitDescriptor + entryBytes use64BitDescriptor
          ≤ cs.length * entryBytes use64BitDescriptor := by
        rw [← Nat.succ_mul]
        exact Nat.mul_le_mul_right _ (by omega)
      rw [Nat.succ_mul] at hle
      omega
    refine ⟨?_, readAddress_congr fun j _ hlt => hothers j (.inl (by omega))⟩
    rw [readEntry_congr fun j _ hlt => hothers j (.inl (by omega)), hentry,
      decide_eq_false hi]
    rfl

/-- **The ADMA2 table is exact.** Each entry that was written is read back from the bytes, as the
entries behind it lie apart from it; the end of the table is one more bit in the word of the last
entry. -/
theorem adma_exact (memory : Memory) {elements : List SglistElement} (hne : elements ≠ [])
    (helements : ∀ e ∈ elements, AdmaElement use64BitDescriptor e)
    (htotal : (elements.map fun e => e.length.toNat).sum < 2 ^ 32) :
    AdmaExact use64BitDescriptor elements
      (sdhcCreateAdmaDescriptorTable memory use64BitDescriptor elements) := by
  have hlimit : 0 < sdhcAdma2MaxLengthPerEntry := by decide
  have hpieces : admaPieces elements ≠ [] :=
    pieces_ne_nil hlimit hne fun e he => (helements e he).nonempty
  have hpiece : ∀ c ∈ admaPieces elements, 1 ≤ c.length ∧ c.length ≤ 0xF000
      ∧ entryAddress use64BitDescriptor c.address = c.address := by
    intro c hc
    obtain ⟨e, he, hc⟩ := mem_pieces.mp hc
    obtain ⟨hpos, hle⟩ := chunks_length hlimit hc
    refine ⟨hpos, hle, ?_⟩
    cases use64BitDescriptor with
    | true => rfl
    | false =>
      have hbelow := chunks_below (by decide) ((helements e he).below rfl) hc
      exact lowPart_address (by omega)
  obtain ⟨hbuffer, hsum, hentries⟩ :=
    sdhcCreateAdmaDescriptorTable_eq use64BitDescriptor memory hne hpieces
  generalize sdhcCreateAdmaDescriptorTable memory use64BitDescriptor elements = t
    at hbuffer hsum hentries
  have hsize : 0 < entryBytes use64BitDescriptor := Nat.lt_add_right _ (by decide)
  have hcount : t.count use64BitDescriptor = (admaPieces elements).length := by
    unfold AdmaTable.count
    rw [hbuffer, Nat.mul_div_cancel _ hsize]
  have hextent : ∀ i (h : i < (admaPieces elements).length),
      t.extent use64BitDescriptor i = (admaPieces elements)[i] := by
    intro i h
    obtain ⟨hentry, haddress⟩ := hentries i h
    obtain ⟨-, hle, hwhole⟩ := hpiece _ (List.getElem_mem h)
    have hlength : (t.extent use64BitDescriptor i).length
        = (BitVec.ofNat 16 (admaPieces elements)[i].length).toNat := by
      unfold AdmaTable.extent
      dsimp only
      rw [hentry]
      rfl
    rw [BitVec.toNat_ofNat, Nat.mod_eq_of_lt (by omega)] at hlength
    rw [hwhole] at haddress
    exact Extent.ext haddress hlength
  refine ⟨?_, ?_, ?_, ?_, ?_, ?_, ?_, ?_⟩
  · rw [hcount, hbuffer]
  · rw [hcount]
    exact List.length_pos_iff.mpr hpieces
  · rw [map_range_eq hcount hextent]
    exact bytes_pieces hlimit elements
  · intro i h
    rw [hcount] at h
    obtain ⟨hge, hle, -⟩ := hpiece _ (List.getElem_mem h)
    rw [hextent i h]
    exact ⟨hge, hle⟩
  · intro i h
    rw [hcount] at h
    rw [(hentries i h).1]
    exact (tableAttributes_spec _).1
  · intro i h
    rw [hcount] at h
    rw [(hentries i h).1]
    rfl
  · intro i h
    rw [hcount] at h ⊢
    rw [(hentries i h).1, tableEntry, (tableAttributes_spec _).2, decide_eq_true_eq]
  · rw [hsum, admaPieces, sum_length_pieces hlimit, BitVec.toNat_ofNat,
      Nat.mod_eq_of_lt htotal]

/-- Two elements in the 32-bit format, the first of them longer than an entry. -/
theorem adma_exact_of_two :
    AdmaExact false [⟨0x10000, 0xF200⟩, ⟨0x80000, 0x200⟩]
      (sdhcCreateAdmaDescriptorTable (fun _ => 0) false
        [⟨0x10000, 0xF200⟩, ⟨0x80000, 0x200⟩]) := by
  refine adma_exact false _ (by decide) (fun e he => ?_) (by decide)
  have hcases : e = ⟨0x10000, 0xF200⟩ ∨ e = ⟨0x80000, 0x200⟩ := by simpa using he
  rcases hcases with rfl | rfl
  · exact ⟨by decide, fun _ => by decide⟩
  · exact ⟨by decide, fun _ => by decide⟩

end Controller

end WoaRk3576.Sd
