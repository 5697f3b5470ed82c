/-
# The IDMAC descriptor table of dwcmshc

`MshcCreateIdmacDescriptorTable` writes a descriptor for each piece of at most 0x1000 bytes of a
scatter-gather list, and puts the flags of the first and the last descriptor in place afterwards.
Both may be the same descriptor.

`idmac_exact` is the result: read as the controller reads them, the descriptors are the bytes of
the list, and their flags say where the transfer starts and ends.

The loops write the pieces of the list one after another (`Sglist.lean`), so the table is the list
of their descriptors (`writeAll_idmac`), and the bytes of the descriptors are those of the pieces.
The flags are three marks behind the loops: the first descriptor gets `FS`, then the last one gets
`ER` and `LD`, and then it loses `DIC`.  Each mark leaves the other bits of its descriptor, so the
table of one descriptor, where all three fall on the same one, is no exception (`idmacFlags`).  A
piece is no longer than its field, as 0x1000 fits the 13 bits of a size.
-/
import WoaRk3576.Sd.Sglist

namespace WoaRk3576.Sd

open WoaRk3576.Lib

/-! ## 1. Descriptors

Four words, of which the driver writes the flags, the size and the address.  The address has 32
bits, and the size is that of the first buffer; the second one is not used. -/

/-- `MSHC_IDMAC_DES0_OWN`. -/
def mshcIdmacDes0Own : BitVec 32 := 1 <<< 31

/-- `MSHC_IDMAC_DES0_ER`. -/
def mshcIdmacDes0Er : BitVec 32 := 1 <<< 5

/-- `MSHC_IDMAC_DES0_FS`. -/
def mshcIdmacDes0Fs : BitVec 32 := 1 <<< 3

/-- `MSHC_IDMAC_DES0_LD`. -/
def mshcIdmacDes0Ld : BitVec 32 := 1 <<< 2

/-- `MSHC_IDMAC_DES0_DIC`: no interrupt on completion. -/
def mshcIdmacDes0Dic : BitVec 32 := 1 <<< 1

/-- `MSHC_IDMAC_DES1_BS1_SHIFT`. -/
def mshcIdmacDes1Bs1Shift : Nat := 0

/-- `MSHC_IDMAC_DES1_BS1_MASK`. -/
def mshcIdmacDes1Bs1Mask : BitVec 32 := 0x1fff <<< 0

/-- `MSHC_IDMAC_MAX_LENGTH_PER_ENTRY`. -/
def mshcIdmacMaxLengthPerEntry : Nat := 0x1000

/-- `MSHC_IDMAC_DESCRIPTOR`. -/
structure IdmacDescriptor where
  des0 : BitVec 32
  des1 : BitVec 32
  des2 : BitVec 32
  des3 : BitVec 32
  deriving DecidableEq

/-- The bytes that a descriptor stands for. -/
def IdmacDescriptor.extent (d : IdmacDescriptor) : Extent (BitVec 64) where
  address := d.des2.setWidth 64
  length := ((d.des1 &&& mshcIdmacDes1Bs1Mask) >>> mshcIdmacDes1Bs1Shift).toNat

/-- `Descriptor`, at `DmaVirtualAddress`, and `Count`. -/
structure IdmacTable where
  descriptor : Nat → IdmacDescriptor
  count : Nat

/-- The descriptor of a piece, before it is marked. -/
def idmacDescriptor (nextAddress : BitVec 64) (nextLength : Nat) : IdmacDescriptor where
  des0 := mshcIdmacDes0Own ||| mshcIdmacDes0Dic
  des1 := (BitVec.ofNat 32 nextLength <<< mshcIdmacDes1Bs1Shift) &&& mshcIdmacDes1Bs1Mask
  des2 := nextAddress.setWidth 32
  des3 := 0

/-- The body of the inner loop. -/
def writeIdmac (t : IdmacTable) (nextAddress : BitVec 64) (nextLength : Nat) : IdmacTable where
  descriptor := Function.update t.descriptor t.count (idmacDescriptor nextAddress nextLength)
  count := t.count + 1

/-- `Des0` is changed. -/
def IdmacDescriptor.mark (f : BitVec 32 → BitVec 32) (d : IdmacDescriptor) : IdmacDescriptor :=
  { d with des0 := f d.des0 }

/-- `Des0` of the descriptor `i` is changed. -/
def IdmacTable.mark (i : Nat) (f : BitVec 32 → BitVec 32) (t : IdmacTable) : IdmacTable :=
  { t with descriptor := Function.update t.descriptor i ((t.descriptor i).mark f) }

/-- **`MshcCreateIdmacDescriptorTable`.** -/
def mshcCreateIdmacDescriptorTable (memory : Nat → IdmacDescriptor)
    (elements : List SglistElement) : IdmacTable :=
  let t := writeElements mshcIdmacMaxLengthPerEntry writeIdmac (fun _ t => t) ⟨memory, 0⟩ elements
  let t := t.mark 0 (· ||| mshcIdmacDes0Fs)
  let t := t.mark (t.count - 1) (· ||| (mshcIdmacDes0Er ||| mshcIdmacDes0Ld))
  t.mark (t.count - 1) (· &&& ~~~mshcIdmacDes0Dic)

/-! ## 2. What is written

The loops append descriptors to a table, so the table is the image of the list of pieces.  Behind
the loops only flags are changed, and only of the first and the last descriptor. -/

/-- **The table of a list of pieces**: one descriptor each, and nothing else. -/
theorem writeAll_idmac (cs : List (Extent (BitVec 64))) : ∀ t : IdmacTable,
    (writeAll writeIdmac t cs).count = t.count + cs.length
      ∧ (∀ i (h : i < cs.length),
        (writeAll writeIdmac t cs).descriptor (t.count + i)
          = idmacDescriptor cs[i].address cs[i].length)
      ∧ ∀ i, i < t.count ∨ t.count + cs.length ≤ i →
        (writeAll writeIdmac t cs).descriptor i = t.descriptor i := by
  induction cs with
  | nil => exact fun t => ⟨rfl, fun i h => absurd h (Nat.not_lt_zero i), fun _ _ => rfl⟩
  | cons c cs ih =>
    intro t
    obtain ⟨hcount, hin, hout⟩ := ih (writeIdmac t c.address c.length)
    have hnext : (writeIdmac t c.address c.length).count = t.count + 1 := rfl
    rw [hnext] at hcount hin hout
    refine ⟨?_, ?_, ?_⟩
    · rw [List.length_cons, Nat.add_comm cs.length 1, ← Nat.add_assoc]
      exact hcount
    · intro i h
      cases i with
      | zero =>
        have hfirst := hout t.count (.inl (Nat.lt_succ_self _))
        exact hfirst.trans (Function.update_self ..)
      | succ i =>
        rw [List.length_cons, Nat.succ_lt_succ_iff] at h
        have hrest := hin i h
        rw [Nat.add_assoc, Nat.add_comm 1 i] at hrest
        exact hrest
    · intro i hi
      rw [List.length_cons] at hi
      exact (hout i (by omega)).trans (Function.update_of_ne (by omega) ..)

/-- The flags of a descriptor, by whether it is the first and the last. -/
def idmacFlags (first last : Bool) : BitVec 32 :=
  let des0 := mshcIdmacDes0Own ||| mshcIdmacDes0Dic
  let des0 := if first then des0 ||| mshcIdmacDes0Fs else des0
  if last then (des0 ||| (mshcIdmacDes0Er ||| mshcIdmacDes0Ld)) &&& ~~~mshcIdmacDes0Dic else des0

theorem idmacFlags_spec : ∀ first last : Bool,
    idmacFlags first last &&& mshcIdmacDes0Own ≠ 0
      ∧ (idmacFlags first last &&& mshcIdmacDes0Fs ≠ 0 ↔ first = true)
      ∧ (idmacFlags first last &&& mshcIdmacDes0Ld ≠ 0 ↔ last = true)
      ∧ (idmacFlags first last &&& mshcIdmacDes0Er ≠ 0 ↔ last = true)
      ∧ (idmacFlags first last &&& mshcIdmacDes0Dic = 0 ↔ last = true) := by decide

section Table

variable (memory : Nat → IdmacDescriptor) {elements : List SglistElement}

/-- The pieces of a list. -/
def idmacPieces (elements : List SglistElement) : List (Extent (BitVec 64)) :=
  pieces mshcIdmacMaxLengthPerEntry elements

theorem mark_descriptor (t : IdmacTable) (i j : Nat) (f : BitVec 32 → BitVec 32) :
    (t.mark i f).descriptor j
      = (t.descriptor j).mark fun des0 => if j = i then f des0 else des0 := by
  unfold IdmacTable.mark
  dsimp only
  rw [Function.update_apply]
  split
  · rename_i heq
    rw [heq]
  · rfl

/-- **The table**: the descriptors of the pieces, with the flags of the first and the last. -/
theorem mshcCreateIdmacDescriptorTable_eq (hne : elements ≠ []) :
    (mshcCreateIdmacDescriptorTable memory elements).count = (idmacPieces elements).length
      ∧ ∀ i (h : i < (idmacPieces elements).length),
        (mshcCreateIdmacDescriptorTable memory elements).descriptor i
          = { idmacDescriptor (idmacPieces elements)[i].address (idmacPieces elements)[i].length with
              des0 := idmacFlags (decide (i = 0))
                (decide (i + 1 = (idmacPieces elements).length)) } := by
  obtain ⟨e, es, rfl⟩ := List.exists_cons_of_ne_nil hne
  have hlimit : 0 < mshcIdmacMaxLengthPerEntry := by decide
  have hloops : writeElements mshcIdmacMaxLengthPerEntry writeIdmac (fun _ t => t) ⟨memory, 0⟩
      (e :: es) = writeAll writeIdmac ⟨memory, 0⟩ (idmacPieces (e :: es)) :=
    writeElements_eq hlimit writeIdmac (fun _ _ => rfl) es e ⟨memory, 0⟩
  obtain ⟨hcount, hin, -⟩ := writeAll_idmac (idmacPieces (e :: es)) ⟨memory, 0⟩
  unfold mshcCreateIdmacDescriptorTable
  rw [hloops]
  generalize writeAll writeIdmac ⟨memory, 0⟩ (idmacPieces (e :: es)) = t at hcount hin
  rw [Nat.zero_add] at hcount
  refine ⟨hcount, fun i h => ?_⟩
  have hdescriptor := hin i h
  rw [Nat.zero_add] at hdescriptor
  have hlast : (i = t.count - 1) ↔ i + 1 = (idmacPieces (e :: es)).length := by omega
  have hcount' : ∀ j f, (t.mark j f).count = t.count := fun _ _ => rfl
  have hcount'' : ∀ j k f g, ((t.mark j f).mark k g).count = t.count := fun _ _ _ _ => rfl
  rw [mark_descriptor, mark_descriptor, mark_descriptor, hcount'', hcount', hdescriptor]
  simp only [hlast, idmacFlags, decide_eq_true_eq]
  unfold IdmacDescriptor.mark idmacDescriptor
  dsimp only
  split
  · rfl
  · rfl

end Table

/-! ## 3. What the controller reads

Size and address of a descriptor are those of its piece if they fit their fields: a piece has at
most 0x1000 bytes, and an element below 4 GiB has its pieces there.  An element of a multiple of
four bytes has pieces of such multiples, as the limit is one. -/

/-- An element that the IDMAC can be given. -/
structure IdmacElement (e : SglistElement) : Prop where
  nonempty : e.length ≠ 0
  aligned : 4 ∣ e.length.toNat
  below : e.address.toNat + e.length.toNat ≤ 2 ^ 32

/-- **What a descriptor table is to be**: the bytes of the list in pieces, and flags that say where
the transfer starts and ends. -/
structure IdmacExact (elements : List SglistElement) (t : IdmacTable) : Prop where
  nonempty : 0 < t.count
  bytes : ((List.range t.count).map fun i => (t.descriptor i).extent).flatMap Extent.bytes
    = (elements.map SglistElement.extent).flatMap Extent.bytes
  length : ∀ i < t.count, 4 ≤ (t.descriptor i).extent.length
    ∧ (t.descriptor i).extent.length ≤ 0x1000
  own : ∀ i < t.count, (t.descriptor i).des0 &&& mshcIdmacDes0Own ≠ 0
  first : ∀ i < t.count, ((t.descriptor i).des0 &&& mshcIdmacDes0Fs ≠ 0 ↔ i = 0)
  last : ∀ i < t.count, ((t.descriptor i).des0 &&& mshcIdmacDes0Ld ≠ 0 ↔ i + 1 = t.count)
  ring : ∀ i < t.count, ((t.descriptor i).des0 &&& mshcIdmacDes0Er ≠ 0 ↔ i + 1 = t.count)
  interrupt : ∀ i < t.count, ((t.descriptor i).des0 &&& mshcIdmacDes0Dic = 0 ↔ i + 1 = t.count)

/-- A descriptor is read back as its piece. -/
theorem idmacDescriptor_extent {c : Extent (BitVec 64)} (hlength : c.length ≤ 0x1000)
    (hbelow : c.address.toNat < 2 ^ 32) (des0 : BitVec 32) :
    ({ idmacDescriptor c.address c.length with des0 } : IdmacDescriptor).extent = c := by
  have hmask : (BitVec.ofNat 32 c.length &&& mshcIdmacDes1Bs1Mask).toNat = c.length := by
    have hbits : mshcIdmacDes1Bs1Mask.toNat = 2 ^ 13 - 1 := by decide
    rw [BitVec.toNat_and, hbits, Nat.and_two_pow_sub_one_eq_mod, BitVec.toNat_ofNat]
    omega
  unfold IdmacDescriptor.extent idmacDescriptor mshcIdmacDes1Bs1Shift
  dsimp only
  rw [lowPart_address hbelow, BitVec.shiftLeft_zero, BitVec.ushiftRight_zero, BitVec.and_assoc,
    BitVec.and_self, hmask]

/-- **The IDMAC table is exact.** The descriptors are those of the pieces of the list, in order,
and each piece fits the field of its size.  The marks that are put in place afterwards change one
bit each, also where the first and the last descriptor are the same. -/
theorem idmac_exact (memory : Nat → IdmacDescriptor) {elements : List SglistElement}
    (hne : elements ≠ []) (helements : ∀ e ∈ elements, IdmacElement e) :
    IdmacExact elements (mshcCreateIdmacDescriptorTable memory elements) := by
  have hlimit : 0 < mshcIdmacMaxLengthPerEntry := by decide
  have hpiece : ∀ c ∈ idmacPieces elements,
      4 ≤ c.length ∧ c.length ≤ 0x1000 ∧ c.address.toNat < 2 ^ 32 := by
    intro c hc
    obtain ⟨e, he, hc⟩ := mem_pieces.mp hc
    obtain ⟨hpos, hle⟩ := chunks_length hlimit hc
    have haligned := chunks_dvd (by decide) (helements e he).aligned hc
    have hbelow := chunks_below (by decide) (helements e he).below hc
    exact ⟨Nat.le_of_dvd hpos haligned, hle, by omega⟩
  have hpieces : idmacPieces elements ≠ [] :=
    pieces_ne_nil hlimit hne fun e he => (helements e he).nonempty
  obtain ⟨hcount, htable⟩ := mshcCreateIdmacDescriptorTable_eq memory hne
  generalize mshcCreateIdmacDescriptorTable memory elements = t at hcount htable
  have hextent : ∀ i (h : i < (idmacPieces elements).length),
      (t.descriptor i).extent = (idmacPieces elements)[i] := by
    intro i h
    obtain ⟨-, hle, hbelow⟩ := hpiece _ (List.getElem_mem h)
    rw [htable i h]
    exact idmacDescriptor_extent hle hbelow _
  have hflags : ∀ i, i < t.count → (t.descriptor i).des0
      = idmacFlags (decide (i = 0)) (decide (i + 1 = t.count)) := by
    intro i h
    rw [hcount] at h ⊢
    rw [htable i h]
  refine ⟨?_, ?_, ?_, ?_, ?_, ?_, ?_, ?_⟩
  · rw [hcount]
    exact List.length_pos_iff.mpr hpieces
  · rw [map_range_eq hcount hextent]
    exact bytes_pieces hlimit elements
  · intro i h
    rw [hcount] at h
    obtain ⟨hge, hle, -⟩ := hpiece _ (List.getElem_mem h)
    rw [hextent i h]
    exact ⟨hge, hle⟩
  · intro i h
    rw [hflags i h]
    exact (idmacFlags_spec _ _).1
  · intro i h
    rw [hflags i h, (idmacFlags_spec _ _).2.1, decide_eq_true_eq]
  · intro i h
    rw [hflags i h, (idmacFlags_spec _ _).2.2.1, decide_eq_true_eq]
  · intro i h
    rw [hflags i h, (idmacFlags_spec _ _).2.2.2.1, decide_eq_true_eq]
  · intro i h
    rw [hflags i h, (idmacFlags_spec _ _).2.2.2.2, decide_eq_true_eq]

/-- Two elements, the first of them two limits long. -/
theorem idmac_exact_of_two :
    IdmacExact [⟨0x10000, 0x2000⟩, ⟨0x80000, 0x200⟩]
      (mshcCreateIdmacDescriptorTable (fun _ => ⟨0, 0, 0, 0⟩)
        [⟨0x10000, 0x2000⟩, ⟨0x80000, 0x200⟩]) := by
  refine idmac_exact _ (by decide) fun e he => ?_
  have hcases : e = ⟨0x10000, 0x2000⟩ ∨ e = ⟨0x80000, 0x200⟩ := by simpa using he
  rcases hcases with rfl | rfl
  · exact ⟨by decide, by decide, by decide⟩
  · exact ⟨by decide, by decide, by decide⟩

end WoaRk3576.Sd
