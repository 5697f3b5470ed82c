/-
# The bytes of a transmit descriptor chain

What the device reads from the descriptors of one packet.  A descriptor that is not a context
descriptor stands for the bytes of its buffer, and the first of the descriptors of a packet with
segmentation for the header.  `packetDescs_exact` says that these bytes are the fragments of the
packet, once and in order, whichever way the header and the 14-bit limit cut them.

`txQueueAdvance_chain` is the same of `TxQueueAdvance`: for each packet that its second loop
queues, in the descriptors that the loop writes, with the test of `EMPTY_DESC_REMAINING` before
them.

* Within a fragment, the buffers from a position on are the bytes from there on
  (`gsoBuffers_bytes`), by the rule of the loop over them: a buffer takes what is left or the
  limit, and the next one begins where it ends.  The first fragment begins behind the header.
* The flags are said by position: the first descriptor that is not a context descriptor, and no
  other, begins the packet, and the last one, and no other, ends it and asks for the interrupt.
* Between the loop and the end of the call the ring is written on.  The descriptors of a packet are
  kept there because later ones go into cells that are still empty (`FillAt.between_eq`), which the
  test before each packet has made sure of.

What is assumed of a packet is what the driver asserts of it (`ChainFits`).
-/
import WoaRk3576.Net.TxContext
import WoaRk3576.Net.TxCapacity
import WoaRk3576.Lib.Extents
import Mathlib.Data.BitVec

namespace WoaRk3576.Net

open WoaRk3576.Lib

/-! ## 1. What the device reads

The device gathers the bytes of the descriptors one after another, from the one with
`FirstDescriptor` to the one with `LastDescriptor`.  `ChainExact` says what these must be.  An
assertion of the driver stands for what the capabilities promise (`ChainFits`); in a release build
nothing checks it. -/

/-- `Buf2Ap` and `Buf1Ap`. -/
def bufAddress (buf1Ap buf2Ap : Nat) : BitVec 64 := BitVec.ofNat 64 (buf1Ap + 2 ^ 32 * buf2Ap)

namespace TxDescriptor

/-- The buffer of a descriptor; a context descriptor has none. -/
def extent : TxDescriptor → Extent (BitVec 64)
  | .read d => ⟨bufAddress d.buf1Ap d.buf2Ap, d.buf1Length⟩
  | .readTso d => ⟨bufAddress d.buf1Ap d.buf2Ap, d.buf1Length⟩
  | .context _ => ⟨0, 0⟩

/-- Bit 29 of TDES3. -/
def firstDescriptor : TxDescriptor → Bool
  | .read d => d.firstDescriptor
  | .readTso d => d.firstDescriptor
  | .context _ => false

/-- Bit 31 of TDES2; the driver never sets it in a header descriptor. -/
def interruptOnCompletion : TxDescriptor → Bool
  | .read d => d.interruptOnCompletion
  | _ => false

end TxDescriptor

/-- The descriptors that are not context descriptors. -/
def dataDescs (ds : List TxDescriptor) : List TxDescriptor := ds.filter fun d => !d.contextType

/-- The bytes of a fragment. -/
def NetFragment.extent (f : NetFragment) : Extent (BitVec 64) :=
  ⟨BitVec.ofNat 64 f.logicalAddress, f.validLength.val⟩

/-- **What the driver asserts of the fragments it queues.**  A header that is there at least has
a layer 4. -/
structure ChainFits (pkt : NetPacket) (frags : List NetFragment) : Prop where
  nonempty : ∀ f ∈ frags, f.validLength.val ≠ 0
  plain : pkt.gsoMss16 = 0 → ∀ f ∈ frags, f.validLength.val ≤ queueDescriptorLengthMax
  header_pos : pkt.gsoMss16 ≠ 0 → 0 < pkt.headerLength
  header_le : pkt.gsoMss16 ≠ 0 → pkt.headerLength ≤ txLayer4HeaderOffsetLimit
  payload_le : pkt.gsoMss16 ≠ 0 →
    (frags.map fun f => f.validLength.val).sum ≤ txMaximumOffloadSize + pkt.headerLength

/-- **What the descriptors of a packet are to be**: the bytes of its fragments, with flags that
say where the packet starts and ends. -/
structure ChainExact (pkt : NetPacket) (frags : List NetFragment) (ds : List TxDescriptor) :
    Prop where
  nonempty : dataDescs ds ≠ []
  bytes : ((dataDescs ds).map TxDescriptor.extent).flatMap Extent.bytes
    = (frags.map NetFragment.extent).flatMap Extent.bytes
  length : ∀ d ∈ dataDescs ds, 1 ≤ d.extent.length ∧ d.extent.length ≤ 0x3FFF
  first : ∀ i (h : i < (dataDescs ds).length), (dataDescs ds)[i].firstDescriptor = true ↔ i = 0
  last : ∀ i (h : i < (dataDescs ds).length),
    (dataDescs ds)[i].lastDescriptor = true ↔ i + 1 = (dataDescs ds).length
  interrupt : ∀ i (h : i < (dataDescs ds).length),
    (dataDescs ds)[i].interruptOnCompletion = true ↔ i + 1 = (dataDescs ds).length
  payload : pkt.gsoMss16 ≠ 0 → ∃ d, (dataDescs ds).head? = some (.readTso d)
    ∧ d.tcpPayloadLength = (frags.map fun f => f.validLength.val).sum - pkt.headerLength

/-! ## 2. Buffers

The loop goes through a fragment from front to back, and each buffer starts where the one before it
ended.  So the bytes of the buffers, put one behind the other, are the bytes of the fragment. -/

/-- An address is read back from its two halves. -/
theorem bufAddress_eq (address : Nat) :
    bufAddress (addressLow address) (addressHigh address) = BitVec.ofNat 64 address := by
  refine BitVec.eq_of_toNat_eq ?_
  unfold bufAddress addressLow addressHigh
  rw [BitVec.toNat_ofNat, BitVec.toNat_ofNat]
  omega

section Buffers

variable (pktIndex vlanTag : Nat) (lastFrag : Bool) (frag : Nat × NetFragment)

theorem gsoBuffer_extent (fragPos : Nat) :
    (gsoBuffer pktIndex vlanTag lastFrag frag fragPos).extent
      = ⟨BitVec.ofNat 64 frag.2.logicalAddress + (fragPos : BitVec 64),
          bufLengthAt frag.2.validLength.val fragPos⟩ := by
  unfold gsoBuffer TxDescriptor.extent
  dsimp only
  rw [bufAddress_eq, BitVec.ofNat_add, BitVec.natCast_eq_ofNat]

/-- **The buffers of a fragment from `fragPos` on** are its bytes from there on. -/
theorem gsoBuffers_bytes (fuel fragPos : Nat) (hle : fragPos ≤ frag.2.validLength.val)
    (hfuel : frag.2.validLength.val - fragPos ≤ fuel) :
    ((gsoBuffers pktIndex vlanTag lastFrag frag fuel fragPos).map
        TxDescriptor.extent).flatMap Extent.bytes
      = (⟨BitVec.ofNat 64 frag.2.logicalAddress + (fragPos : BitVec 64),
          frag.2.validLength.val - fragPos⟩ : Extent (BitVec 64)).bytes := by
  refine gsoBuffers_rule pktIndex vlanTag lastFrag frag
    (P := fun fragPos buffers => (buffers.map TxDescriptor.extent).flatMap Extent.bytes
      = (⟨BitVec.ofNat 64 frag.2.logicalAddress + (fragPos : BitVec 64),
          frag.2.validLength.val - fragPos⟩ : Extent (BitVec 64)).bytes)
    ?_ ?_ fuel fragPos hle hfuel
  · rw [Nat.sub_self]
    rfl
  · intro fragPos buffers hlt hrest
    have hnext := bufLengthAt_le (Nat.le_of_lt hlt)
    have hsplit := Extent.bytes_add (BitVec.ofNat 64 frag.2.logicalAddress + (fragPos : BitVec 64))
      (bufLengthAt frag.2.validLength.val fragPos)
      (frag.2.validLength.val - (fragPos + bufLengthAt frag.2.validLength.val fragPos))
    have hlength : bufLengthAt frag.2.validLength.val fragPos
        + (frag.2.validLength.val - (fragPos + bufLengthAt frag.2.validLength.val fragPos))
        = frag.2.validLength.val - fragPos := by omega
    rw [hlength, add_assoc, ← Nat.cast_add] at hsplit
    rw [List.map_cons, List.flatMap_cons, hrest, hsplit, gsoBuffer_extent]

theorem gsoBuffer_length {fragPos : Nat} (hlt : fragPos < frag.2.validLength.val) :
    1 ≤ (gsoBuffer pktIndex vlanTag lastFrag frag fragPos).extent.length
      ∧ (gsoBuffer pktIndex vlanTag lastFrag frag fragPos).extent.length ≤ 0x3FFF := by
  rw [gsoBuffer_extent]
  exact ⟨bufLengthAt_pos hlt, Nat.min_le_right _ _⟩

end Buffers

/-! ## 3. Fragments

The header is sent by the header descriptor, out of the first fragment, and the fragment loop
begins behind it.  Put together they are the first fragment again. -/

section Fragments

variable (pktIndex vlanTag : Nat)

/-- The bytes of the fragments but for the first `start`. -/
theorem gsoFragments_bytes (frags : List (Nat × NetFragment)) : ∀ start,
    (∀ f ∈ frags.head?, start ≤ f.2.validLength.val) →
    (⟨BitVec.ofNat 64 ((frags.head?.map fun f => f.2.logicalAddress).getD 0),
        if frags = [] then 0 else start⟩ : Extent (BitVec 64)).bytes
      ++ ((gsoFragments pktIndex vlanTag frags start).map
        TxDescriptor.extent).flatMap Extent.bytes
      = (frags.map fun f => f.2.extent).flatMap Extent.bytes := by
  induction frags with
  | nil => exact fun _ _ => rfl
  | cons frag frags ih =>
    intro start hstart
    have hle : start ≤ frag.2.validLength.val := hstart frag rfl
    have hrest := ih 0 fun _ _ => Nat.zero_le _
    rw [ite_self, Extent.bytes_zero, List.nil_append] at hrest
    have hsplit := Extent.bytes_add (BitVec.ofNat 64 frag.2.logicalAddress) start
      (frag.2.validLength.val - start)
    rw [Nat.add_sub_cancel' hle] at hsplit
    rw [if_neg (List.cons_ne_nil _ _), gsoFragments, List.map_append, List.flatMap_append, hrest,
      gsoBuffers_bytes _ _ _ _ _ start hle (Nat.sub_le _ _), ← List.append_assoc]
    exact congrArg (· ++ _) hsplit.symm

theorem plainFragments_bytes (pkt : NetPacket) (frameLength : Nat)
    (frags : List (Nat × NetFragment)) : ∀ first : Bool,
    (∀ f ∈ frags, f.2.validLength.val ≤ queueDescriptorLengthMax) →
    ((plainFragments pkt pktIndex vlanTag frameLength frags first).map
        TxDescriptor.extent)
      = frags.map fun f => f.2.extent := by
  induction frags with
  | nil => exact fun _ _ => rfl
  | cons frag frags ih =>
    intro first hlength
    have hle : frag.2.validLength.val ≤ 0x3FFF := hlength frag List.mem_cons_self
    have hfits : frag.2.validLength.val % 2 ^ 14 = frag.2.validLength.val :=
      Nat.mod_eq_of_lt (by omega)
    rw [plainFragments, List.map_cons, List.map_cons,
      ih false fun f hf => hlength f (List.mem_cons_of_mem _ hf)]
    unfold TxDescriptor.extent NetFragment.extent
    dsimp only
    rw [bufAddress_eq, hfits]

/-- Only the first descriptor is marked as the first. -/
theorem plainFragments_first (pkt : NetPacket) (frameLength : Nat)
    (frags : List (Nat × NetFragment)) :
    ∀ d ∈ plainFragments pkt pktIndex vlanTag frameLength frags false,
      d.firstDescriptor = false := by
  induction frags with
  | nil => exact fun d hd => absurd hd List.not_mem_nil
  | cons frag frags ih =>
    intro d hd
    rcases List.mem_cons.mp hd with rfl | hd
    · rfl
    · exact ih d hd

theorem plainFragments_interrupt (pkt : NetPacket) (frameLength : Nat)
    (frags : List (Nat × NetFragment)) : ∀ first : Bool,
    ∀ d ∈ plainFragments pkt pktIndex vlanTag frameLength frags first,
      d.interruptOnCompletion = d.lastDescriptor := by
  induction frags with
  | nil => exact fun _ d hd => absurd hd List.not_mem_nil
  | cons frag frags ih =>
    intro first d hd
    rcases List.mem_cons.mp hd with rfl | hd
    · rfl
    · exact ih false d hd

end Fragments

/-! ## 4. The packet

The context descriptor has no bytes and is dropped.  Of the others, the first is the header
descriptor, or the first fragment's where there is no segmentation. -/

section Packet

variable {vlanId pktIndex : Nat} {last : TxLast} {pkt : NetPacket}
  {frags : List (Nat × NetFragment)}

/-- Without the context descriptor, the body is left. -/
theorem dataDescs_packetDescs (h : PacketFits pkt (frags.map Prod.snd)) :
    dataDescs (packetDescs vlanId last pktIndex pkt frags).1
      = bodyDescs vlanId pktIndex pkt frags := by
  have hbody : dataDescs (bodyDescs vlanId pktIndex pkt frags)
      = bodyDescs vlanId pktIndex pkt frags := by
    refine List.filter_eq_self.mpr fun d hd => ?_
    rw [(bodyDescs_forall h d hd).2.2.1]
    rfl
  have hcontext : dataDescs [contextDesc vlanId last pktIndex pkt] = [] := by
    simp [dataDescs, (contextDesc_spec vlanId last pktIndex pkt).2.2]
  have happend : ∀ ds es, dataDescs (ds ++ es) = dataDescs ds ++ dataDescs es :=
    fun _ _ => List.filter_append ..
  rw [packetDescs_fst, happend, hbody]
  split
  · rw [hcontext, List.nil_append]
  · rfl

theorem bodyDescs_bytes (hfits : PacketFits pkt (frags.map Prod.snd))
    (h : ChainFits pkt (frags.map Prod.snd)) :
    ((bodyDescs vlanId pktIndex pkt frags).map TxDescriptor.extent).flatMap Extent.bytes
      = ((frags.map Prod.snd).map NetFragment.extent).flatMap Extent.bytes := by
  rw [List.map_map, bodyDescs]
  split
  · rename_i hgso
    have hheader : pkt.headerLength ≤ 0x3FF := h.header_le hgso
    have hlength : pkt.headerLength % 2 ^ 14 = pkt.headerLength :=
      Nat.mod_eq_of_lt (by omega)
    have hbytes := gsoFragments_bytes pktIndex (txVlanTag vlanId pkt) frags pkt.headerLength
      (hfits.header_le hgso)
    rw [if_neg hfits.frags_ne_nil] at hbytes
    rw [List.map_cons, List.flatMap_cons]
    unfold gsoHeader TxDescriptor.extent
    dsimp only
    rw [bufAddress_eq, hlength]
    exact hbytes
  · rename_i hplain
    have hle := h.plain (not_ne_iff.mp hplain)
    rw [plainFragments_bytes _ _ _ _ _ _ fun f hf => hle f.2 (List.mem_map_of_mem hf)]
    rfl

theorem bodyDescs_length (hfits : PacketFits pkt (frags.map Prod.snd))
    (h : ChainFits pkt (frags.map Prod.snd)) :
    ∀ d ∈ bodyDescs vlanId pktIndex pkt frags,
      1 ≤ d.extent.length ∧ d.extent.length ≤ 0x3FFF := by
  intro d hd
  rw [bodyDescs] at hd
  split at hd
  · rename_i hgso
    have hpos := h.header_pos hgso
    have hheader : pkt.headerLength ≤ 0x3FF := h.header_le hgso
    rcases List.mem_cons.mp hd with rfl | hd
    · have hlength : pkt.headerLength % 2 ^ 14 = pkt.headerLength :=
        Nat.mod_eq_of_lt (by omega)
      unfold gsoHeader TxDescriptor.extent
      dsimp only
      omega
    · exact gsoFragments_forall pktIndex (txVlanTag vlanId pkt)
        (P := fun d => 1 ≤ d.extent.length ∧ d.extent.length ≤ 0x3FFF)
        (fun _ _ _ hlt => gsoBuffer_length _ _ _ _ hlt) _ _ (hfits.header_le hgso) d hd
  · rename_i hplain
    have hle := h.plain (not_ne_iff.mp hplain)
    have hextent : d.extent ∈ frags.map fun f => f.2.extent := by
      rw [← plainFragments_bytes pktIndex (txVlanTag vlanId pkt) pkt _ frags true
        fun f hf => hle f.2 (List.mem_map_of_mem hf)]
      exact List.mem_map_of_mem hd
    obtain ⟨f, hf, heq⟩ := List.mem_map.mp hextent
    have hmem : f.2 ∈ frags.map Prod.snd := List.mem_map_of_mem hf
    rw [← heq]
    exact ⟨Nat.pos_of_ne_zero (h.nonempty f.2 hmem), hle f.2 hmem⟩

/-- The first descriptor of the body, and no other, is marked as the first. -/
theorem bodyDescs_first (hfits : PacketFits pkt (frags.map Prod.snd)) :
    ∃ d ds, bodyDescs vlanId pktIndex pkt frags = d :: ds ∧ d.firstDescriptor = true
      ∧ ∀ e ∈ ds, e.firstDescriptor = false := by
  rw [bodyDescs]
  split
  · rename_i hgso
    refine ⟨_, _, rfl, rfl, ?_⟩
    exact gsoFragments_forall pktIndex (txVlanTag vlanId pkt)
      (P := fun d => d.firstDescriptor = false) (fun _ _ _ _ => rfl) _ _ (hfits.header_le hgso)
  · obtain ⟨f, fs, hfrags⟩ := List.exists_cons_of_ne_nil hfits.frags_ne_nil
    rw [hfrags, plainFragments]
    exact ⟨_, _, rfl, rfl, plainFragments_first _ _ _ _ _⟩

/-- An interrupt is asked for where the packet ends. -/
theorem bodyDescs_interrupt (hfits : PacketFits pkt (frags.map Prod.snd)) :
    ∀ d ∈ bodyDescs vlanId pktIndex pkt frags, d.interruptOnCompletion = d.lastDescriptor := by
  intro d hd
  rw [bodyDescs] at hd
  split at hd
  · rename_i hgso
    rcases List.mem_cons.mp hd with rfl | hd
    · rfl
    · exact gsoFragments_forall pktIndex (txVlanTag vlanId pkt)
        (P := fun d => d.interruptOnCompletion = d.lastDescriptor) (fun _ _ _ _ => rfl) _ _
        (hfits.header_le hgso) d hd
  · exact plainFragments_interrupt _ _ _ _ _ _ d hd

/-- The header descriptor says how much payload follows. -/
theorem gsoHeader_payload (h : ChainFits pkt (frags.map Prod.snd))
    (hfits : PacketFits pkt (frags.map Prod.snd)) (hgso : pkt.gsoMss16 ≠ 0) :
    sub32 (fragmentsLength frags) pkt.headerLength % 2 ^ 18
      = ((frags.map Prod.snd).map fun f => f.validLength.val).sum - pkt.headerLength := by
  have hheader : pkt.headerLength ≤ 0x3FF := h.header_le hgso
  have hpayload := h.payload_le hgso
  have hmore := (hfits.gso hgso).payload
  have hsum : ((frags.map Prod.snd).map fun f => f.validLength.val).sum
      = (frags.map fun f => f.2.validLength.val).sum := by
    rw [List.map_map]
    rfl
  unfold fragmentsLength sub32 txMaximumOffloadSize at *
  rw [hsum] at hpayload hmore ⊢
  generalize (frags.map fun f => f.2.validLength.val).sum = total at *
  omega

/-- **The descriptors of a packet are exact.** Each field of `ChainExact` is one of the lemmas
above; a packet with segmentation and one without differ in the loop and in the first descriptor
only. -/
theorem packetDescs_exact (hfits : PacketFits pkt (frags.map Prod.snd))
    (h : ChainFits pkt (frags.map Prod.snd)) :
    ChainExact pkt (frags.map Prod.snd) (packetDescs vlanId last pktIndex pkt frags).1 := by
  have hdata := @dataDescs_packetDescs vlanId pktIndex last pkt frags hfits
  have hends := @bodyDescs_endsAtLast vlanId pktIndex pkt frags hfits
  have hlast : ∀ i (hi : i < (bodyDescs vlanId pktIndex pkt frags).length),
      (bodyDescs vlanId pktIndex pkt frags)[i].lastDescriptor = true
        ↔ i + 1 = (bodyDescs vlanId pktIndex pkt frags).length := by
    intro i hi
    have hcontext := (bodyDescs_forall hfits _ (List.getElem_mem hi)).2.2.1
    rw [← hends.getElem_iff hi, TxDescriptor.endsPacket, hcontext]
    rfl
  constructor
  · rw [hdata]
    exact hends.ne_nil
  · rw [hdata]
    exact bodyDescs_bytes hfits h
  · rw [hdata]
    exact bodyDescs_length hfits h
  · simp only [hdata]
    intro i hi
    obtain ⟨d, ds, hbody, hfirst, hrest⟩ := @bodyDescs_first vlanId pktIndex pkt frags hfits
    simp only [hbody]
    cases i with
    | zero => simp [hfirst]
    | succ i =>
      rw [hbody, List.length_cons] at hi
      simp [hrest _ (List.getElem_mem (Nat.lt_of_succ_lt_succ hi))]
  · simp only [hdata]
    exact hlast
  · simp only [hdata]
    intro i hi
    rw [bodyDescs_interrupt hfits _ (List.getElem_mem hi)]
    exact hlast i hi
  · intro hgso
    rw [hdata, bodyDescs, if_pos hgso]
    exact ⟨_, rfl, gsoHeader_payload h hfits hgso⟩

end Packet

/-! ## 5. `TxQueueAdvance`

A chain is written in one iteration and must be what the device finds after the call.  In between
the loop may write further chains, and the ring may wrap; that these go elsewhere is
`FillAt.keeps`. -/

/-- An iteration of the second loop in the call for `q`. -/
def TxQueue.fillStep (q : TxQueue) : FillState → Option FillState :=
  Net.fillStep (txQueueReap q).packetRing (txQueueReap q).fragmentRing
    (txQueueReap q).context.descBegin

/-- The second loop in the call for `q`, after `n` iterations. -/
def TxQueue.fillState (q : TxQueue) (n : Nat) : FillState :=
  loop q.fillStep n ⟨(txQueueReap q).context, (txQueueReap q).context.descEnd,
    (txQueueReap q).packetRing.nextIndex⟩

/-- The packet that the loop has come to. -/
def TxQueue.fillPacket (q : TxQueue) (n : Nat) : NetPacket :=
  (txQueueReap q).packetRing.buffer (q.fillState n).pktIndex

/-- Its fragments. -/
def TxQueue.fillFragments (q : TxQueue) (n : Nat) : List (Nat × NetFragment) :=
  packetFragments (txQueueReap q).fragmentRing (q.fillPacket n).fragmentCount
    (q.fillPacket n).fragmentIndex

/-- The descriptors of the ring from the index `i` to the index `j`. -/
def TxQueueContext.between (context : TxQueueContext) (i j : Nat) : List TxDescriptor :=
  slice context.descCount i context.descVirtual 0 (context.distance i j)

/-- **A packet that the loop queues between `s` and `s'`**: its descriptors, as they are in
`context` after the call, the test before they were written, and the assertion at each of them. -/
structure QueuedExact (descBegin : Nat) (pkt : NetPacket) (frags : List (Nat × NetFragment))
    (s s' : FillState) (context : TxQueueContext) : Prop where
  chain : ChainExact pkt (frags.map Prod.snd) (context.between s.descIndex s'.descIndex)
  written_le : (context.between s.descIndex s'.descIndex).length
    ≤ descriptorsNeeded s.context.vlanId s.context.toTxLast pkt frags
  checked : descriptorsNeeded s.context.vlanId s.context.toTxLast pkt frags
    ≤ emptyDescRemaining s.context descBegin s.descIndex
  room : ∀ k < (context.between s.descIndex s'.descIndex).length,
    emptyDescRemaining s.context descBegin ((s.descIndex + k) &&& context.descMask) ≠ 0

section Advance

variable {o : TxOrigin} {posted : List Posting} {p : TxPositions} {q : TxQueue} {j : Nat}
  {s s' : FillState}

/-- A queued packet takes as many descriptors as its indices are apart. -/
theorem FillAt.distance_eq (h : TxQueueAt o posted p q) (hs : FillAt o posted p q j s)
    (hs' : FillAt o posted p q (j + 1) s') {context : TxQueueContext}
    (hcount : context.descCount = q.context.descCount) :
    context.distance s.descIndex s'.descIndex
      = offset (q.context.chains posted) (j + 1) - offset (q.context.chains posted) j := by
  have hmono := offset_le_succ (q.context.chains posted) j
  have hlt := hs'.lt_reaped_add
  have hreap := h.reaped_le
  have hrel := hs.released_le h
  rw [hs.descIndex_eq, hs'.descIndex_eq, ← hcount]
  exact context.distance_wrap hmono (by omega)

/-- **The descriptors of a queued packet stay in the ring** until the loop has ended. -/
theorem FillAt.between_eq (h : TxQueueAt o posted p q) (hs : FillAt o posted p q j s)
    (hs' : FillAt o posted p q (j + 1) s') (hj : j < (q.context.chains posted).length)
    {j' : Nat} {final : FillState} (hfinal : FillAt o posted p q j' final) (hle : j + 1 ≤ j')
    {context : TxQueueContext} (hcount : context.descCount = q.context.descCount)
    (hdesc : context.descVirtual = final.context.descVirtual) :
    context.between s.descIndex s'.descIndex = (q.context.chains posted)[j] := by
  have hsucc := offset_succ hj
  have hdistance := hs.distance_eq h hs' hcount
  have hreap := h.reaped_le
  have hrel := hs.released_le h
  unfold TxQueueContext.between slice
  refine List.ext_getElem ?_ fun k hk hk' => ?_
  · rw [List.length_map, List.length_range, hdistance]
    omega
  · have htake : offset (q.context.chains posted) j + k
        < ((q.context.chains posted).take j').flatten.length := by
      have hmono := offset_mono (q.context.chains posted) hle
      change _ < offset (q.context.chains posted) j'
      omega
    have hwindow := hfinal.window.holds (offset (q.context.chains posted) j + k)
      (by rwa [length_markReleased]) (by omega)
    rw [markReleased_getElem_ge _ htake (by omega)] at hwindow
    obtain ⟨hlt, hentry⟩ := flatten_take_getElem hle hj (Nat.le_add_right _ k) (by omega) htake
    have hplace : wrap q.context.descCount (wrap q.context.descCount 0
        (offset (q.context.chains posted) j)) (0 + k)
        = wrap q.context.descCount 0 (offset (q.context.chains posted) j + k) := by
      rw [Nat.zero_add]
      exact wrap_add_mod ..
    rw [List.getElem_map, List.getElem_range, hdesc, hcount, hs.descIndex_eq, hplace, hwindow,
      hentry]
    simp only [Nat.add_sub_cancel_left]

/-- What the loop tested before it queued a packet. -/
theorem fillStep_checked {packetRing : NetRing NetPacket} {fragmentRing : NetRing NetFragment}
    {descBegin : Nat} (hig : (packetRing.buffer s.pktIndex).ignore = false)
    (hstep : fillStep packetRing fragmentRing descBegin s = some s') :
    descriptorsNeeded s.context.vlanId s.context.toTxLast (packetRing.buffer s.pktIndex)
        (packetFragments fragmentRing (packetRing.buffer s.pktIndex).fragmentCount
          (packetRing.buffer s.pktIndex).fragmentIndex)
      ≤ emptyDescRemaining s.context descBegin s.descIndex := by
  rw [fillStep] at hstep
  split at hstep
  · exact absurd hstep (by simp)
  · split at hstep
    · exact absurd hstep (by simp)
    · rw [if_neg (by simp [hig])] at hstep
      obtain ⟨next, hnext, -⟩ := Option.map_eq_some_iff.mp hstep
      rw [fillPacket] at hnext
      split at hnext
      · exact absurd hnext (by simp)
      · omega

/-- **A packet that the loop queues.** -/
theorem FillAt.queued (h : TxQueueAt o posted p q) (hs : FillAt o posted p q j s)
    (hstep : fillStep q.packetRing q.fragmentRing q.context.descBegin s = some s')
    (hig : (q.packetRing.buffer s.pktIndex).ignore = false)
    (hfits : ChainFits (q.packetRing.buffer s.pktIndex)
      ((packetFragments q.fragmentRing (q.packetRing.buffer s.pktIndex).fragmentCount
        (q.packetRing.buffer s.pktIndex).fragmentIndex).map Prod.snd))
    {j' : Nat} {final : FillState} (hfinal : FillAt o posted p q j' final) (hle : j + 1 ≤ j')
    {context : TxQueueContext} (hcount : context.descCount = q.context.descCount)
    (hdesc : context.descVirtual = final.context.descVirtual) :
    QueuedExact q.context.descBegin (q.packetRing.buffer s.pktIndex)
      (packetFragments q.fragmentRing (q.packetRing.buffer s.pktIndex).fragmentCount
        (q.packetRing.buffer s.pktIndex).fragmentIndex) s s' context := by
  have hchecked := fillStep_checked hig hstep
  obtain ⟨s'', hstep', hj, hs'⟩ := (hs.step h).resolve_left (by simp [hstep])
  obtain rfl : s' = s'' := Option.some.inj (hstep.symm.trans hstep')
  have hjc := chains_length_lt (q := q) hj
  have hpacket : q.packetRing.buffer s.pktIndex = posted[j].packet := by
    rw [hs.pktIndex_eq]
    exact h.packet_eq hj (Nat.le_trans h.passed_le hs.queued_le)
  rw [hpacket] at hig hfits hchecked ⊢
  rw [h.packetFragments_eq hj (Nat.le_trans h.passed_le hs.queued_le) hig] at hfits hchecked ⊢
  have hposted := (h.wellPosted j hj).fits hig
  have hbetween := hs.between_eq h hs' hjc hfinal hle hcount hdesc
  have hchain : (q.context.chains posted)[j] = (packetDescs s.context.vlanId s.context.toTxLast
      posted[j].pktIndex posted[j].packet posted[j].fragments).1 := by
    rw [hs.context_eq]
    simp only [TxQueueContext.chains]
    rw [chains_getElem _ _ hj, Posting.descs, if_neg (by simp [hig])]
  have hsucc := offset_succ hjc
  have hlt := hs'.lt_reaped_add
  have hreap := h.reaped_le
  have hrel := hs.released_le h
  refine ⟨?_, ?_, hchecked, fun k hk => ?_⟩
  · rw [hbetween, hchain]
    exact packetDescs_exact hposted hfits
  · rw [hbetween, hchain]
    exact packetDescs_length_le hposted
  · rw [hbetween] at hk
    obtain ⟨b, hb31, hb⟩ := q.context.descCount_pow2
    have hmask : s.context.descMask = q.context.descCount - 1 := by
      rw [hs.context_eq]
      rfl
    have hindex : (s.descIndex + k) &&& context.descMask
        = wrap q.context.descCount 0 (offset (q.context.chains posted) j + k) := by
      rw [context.and_descMask, hcount, hs.descIndex_eq, wrap_add_mod]
    have hroom := @room_wrap _ b 0 p.reaped (offset (q.context.chains posted) j + k) hb
      (by omega) (by omega) (by omega)
    rw [hindex, emptyDescRemaining, hmask, h.descBegin_eq, hroom]
    omega

/-- The context that filling leaves. -/
theorem txQueueFill_context (q : TxQueue) :
    (txQueueFill q).context.descVirtual
        = (fillDescs q.packetRing q.fragmentRing q.context.descBegin
            ⟨q.context, q.context.descEnd, q.packetRing.nextIndex⟩).context.descVirtual
      ∧ (txQueueFill q).context.descCount
        = (fillDescs q.packetRing q.fragmentRing q.context.descBegin
            ⟨q.context, q.context.descEnd, q.packetRing.nextIndex⟩).context.descCount := by
  unfold txQueueFill
  dsimp only
  split
  · exact ⟨rfl, rfl⟩
  · exact ⟨rfl, rfl⟩

/-- **`TxQueueAdvance` writes exact chains**: for every packet that is not ignored and that its
second loop queues, in every call of every run.  The loop's state after `n` iterations is one of
the filling invariant, so the packet is one of the log, with its own fragments. -/
theorem txQueueAdvance_chain (w : TxWorld) (h : Reach TxWorld.Started txStep w) (n : Nat)
    {s' : FillState} (hstep : w.queue.fillStep (w.queue.fillState n) = some s')
    (hig : (w.queue.fillPacket n).ignore = false)
    (hfits : ChainFits (w.queue.fillPacket n) ((w.queue.fillFragments n).map Prod.snd)) :
    QueuedExact (txQueueReap w.queue).context.descBegin (w.queue.fillPacket n)
      (w.queue.fillFragments n) (w.queue.fillState n) s' (txQueueAdvance w.queue).context := by
  obtain ⟨p, hreap⟩ : ∃ p, TxQueueAt w.origin w.posted p (txQueueReap w.queue) := by
    obtain ⟨_, _, hreap, -, -⟩ := txQueueReap_spec (txInv_of_reach h).queueAt
    exact ⟨_, hreap⟩
  obtain ⟨i, hs⟩ : ∃ i, FillAt w.origin w.posted p (txQueueReap w.queue) i
      (w.queue.fillState n) := by
    refine loop_invariant (I := fun s => ∃ i, FillAt w.origin w.posted p (txQueueReap w.queue) i s)
      (fun s s' hI hsome => ?_) n _ ⟨_, FillAt.start hreap⟩
    obtain ⟨i, hs⟩ := hI
    obtain ⟨s'', hstep', -, hs'⟩ := (hs.step hreap).resolve_left (by
      intro hnone
      rw [TxQueue.fillStep, hnone] at hsome
      exact absurd hsome (by simp))
    obtain rfl : s' = s'' := Option.some.inj (hsome.symm.trans hstep')
    exact ⟨i + 1, hs'⟩
  obtain ⟨s'', hstep', -, hs'⟩ := (hs.step hreap).resolve_left (by
    intro hnone
    rw [TxQueue.fillStep, hnone] at hstep
    exact absurd hstep (by simp))
  obtain rfl : s' = s'' := Option.some.inj (hstep.symm.trans hstep')
  -- the call goes on from `s'` to where the loop ends
  obtain ⟨hdone, -, -, -⟩ := fillDescs_spec hreap (.start hreap)
  have hend : fillDescs (txQueueReap w.queue).packetRing (txQueueReap w.queue).fragmentRing
      (txQueueReap w.queue).context.descBegin s'
      = w.queue.fillState (txQueueReap w.queue).packetRing.numberOfElements := by
    have hnext : s' = w.queue.fillState (n + 1) := by
      unfold TxQueue.fillState
      rw [loop_add]
      exact (loop_some hstep 0).symm
    rw [hnext]
    exact loop_of_done hdone (n + 1)
  obtain ⟨-, j', hfinal, hle⟩ := fillDescs_spec hreap hs'
  rw [hend] at hfinal
  obtain ⟨hdescs, hcount⟩ := txQueueFill_context (txQueueReap w.queue)
  have hsame := congrArg TxQueueContext.descCount hfinal.context_eq
  exact hs.queued hreap hstep' hig hfits hfinal hle (hcount.trans hsame) hdescs

end Advance

/-- A packet with segmentation of 3000 bytes, queued in a call. -/
theorem txQueueAdvance_chain_of_run : ∃ w s', Reach TxWorld.Started txStep w
    ∧ QueuedExact (txQueueReap w.queue).context.descBegin gsoPacket [(0, ⟨0, 3000, 0x8000⟩)]
      (w.queue.fillState 0) s' (txQueueAdvance w.queue).context := by
  have hstart : (TxWorld.start plainContext (emptyRing gsoPacket) (emptyRing ⟨0, 0, 0⟩)
      ⟨7, 7⟩).Started :=
    ⟨_, _, _, _, ⟨by decide, rfl, rfl⟩, ⟨by decide, rfl, rfl⟩, rfl⟩
  obtain ⟨w, hw, hqueued⟩ := exists_reach_of_run txStep hstart
    [.post gsoPacket [⟨0, 3000, 0x8000⟩]]
    (fun w => (w.queue.fillStep (w.queue.fillState 0)).isSome
      && decide (w.queue.fillPacket 0 = gsoPacket)
      && decide (w.queue.fillFragments 0 = [(0, ⟨0, 3000, 0x8000⟩)])) (by decide +kernel)
  simp only [Bool.and_eq_true, decide_eq_true_eq] at hqueued
  obtain ⟨⟨hsome, hpacket⟩, hfragments⟩ := hqueued
  obtain ⟨s', hstep⟩ := Option.isSome_iff_exists.mp hsome
  have hfits : ChainFits gsoPacket [⟨0, 3000, 0x8000⟩] := by
    constructor
    · decide
    · decide
    · decide
    · decide
    · decide
  have hchain := txQueueAdvance_chain w hw 0 hstep (by rw [hpacket]; rfl)
    (by rw [hpacket, hfragments]; exact hfits)
  rw [hpacket, hfragments] at hchain
  exact ⟨w, s', hw, hchain⟩

end WoaRk3576.Net
