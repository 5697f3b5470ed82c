/-
# The descriptors of one packet

What `packetDescs` writes for a packet that is not ignored, whatever `lastMss` and `lastVlanTag`
are: at most as many descriptors as the test before it asked for (`packetDescs_length_le`), all
owned by the DMA engine, and exactly the last of them ends the packet (`packetDescs_chain`).

A packet with segmentation needs three things for this, which NetAdapterCx promises and the driver
asserts (`GsoFits`): the header lies in the first fragment, no fragment is empty, and there is
payload.  With an empty last buffer no descriptor would carry `LastDescriptor`.

The loop over the buffers of a fragment has one rule (`gsoBuffers_rule`), an induction on the bytes
that are left, from which the number of the descriptors and the place of the last one both follow;
and so has the loop over the fragments, where what holds of every buffer holds of every descriptor
(`gsoFragments_forall`).  A packet is a context descriptor, if one is needed, and a body
(`packetDescs_fst`).  The test asks for a context descriptor in any case, which is why it may ask
for one more than is written.
-/
import WoaRk3576.Net.TxQueue
import Mathlib.Tactic.Ring

namespace WoaRk3576.Net

open WoaRk3576.Lib

/-! ## 1. Chains

The driver recognizes a completed packet by the one descriptor that ends it, so a packet must have
exactly one, and it must be the last.  Lists with this property are built from the back: anything
that ends no packet may be put in front of one. -/

/-- Exactly the last descriptor of the list ends the packet. -/
def EndsAtLast (ds : List TxDescriptor) : Prop :=
  ∃ init last, ds = init ++ [last] ∧ (∀ d ∈ init, d.endsPacket = false) ∧ last.endsPacket = true

theorem EndsAtLast.append {ds es : List TxDescriptor} (hd : ∀ d ∈ ds, d.endsPacket = false)
    (he : EndsAtLast es) : EndsAtLast (ds ++ es) := by
  obtain ⟨init, last, rfl, hinit, hlast⟩ := he
  refine ⟨ds ++ init, last, by rw [List.append_assoc], ?_, hlast⟩
  intro d hmem
  rcases List.mem_append.mp hmem with h | h
  · exact hd d h
  · exact hinit d h

theorem EndsAtLast.cons {d : TxDescriptor} {es : List TxDescriptor} (hd : d.endsPacket = false)
    (he : EndsAtLast es) : EndsAtLast (d :: es) := by
  have hsingle : ∀ e ∈ [d], e.endsPacket = false := by
    intro e hmem
    rw [List.mem_singleton] at hmem
    exact hmem ▸ hd
  exact EndsAtLast.append hsingle he

theorem EndsAtLast.singleton {d : TxDescriptor} (hd : d.endsPacket = true) : EndsAtLast [d] :=
  ⟨[], d, rfl, by simp, hd⟩

theorem EndsAtLast.ne_nil {ds : List TxDescriptor} (h : EndsAtLast ds) : ds ≠ [] := by
  obtain ⟨init, last, rfl, -⟩ := h
  simp

/-- By position: descriptor `j` ends the packet if and only if it is the last. -/
theorem EndsAtLast.getElem_iff {ds : List TxDescriptor} (h : EndsAtLast ds) {j : Nat}
    (hj : j < ds.length) : ds[j].endsPacket = true ↔ j + 1 = ds.length := by
  obtain ⟨init, last, rfl, hinit, hlast⟩ := h
  rw [List.length_append, List.length_singleton] at hj ⊢
  rcases Nat.lt_or_ge j init.length with hlt | hge
  · rw [List.getElem_append_left hlt]
    have hfalse := hinit _ (List.getElem_mem hlt)
    constructor
    · intro htrue
      rw [hfalse] at htrue
      exact absurd htrue (by simp)
    · intro heq
      omega
  · obtain rfl : j = init.length := by omega
    simp [hlast]

/-- **The descriptors of one packet**: all owned by the DMA engine, all marked with the
packet's index, the last one and no other ending the packet. -/
structure IsChain (pktIndex : Nat) (ds : List TxDescriptor) : Prop where
  own : ∀ d ∈ ds, d.own = true
  packetIndex : ∀ d ∈ ds, d.packetIndex = pktIndex
  endsAtLast : EndsAtLast ds

/-! ## 2. The data of one fragment

A long fragment is cut into buffers of at most 0x3FFF bytes.  The arithmetic of the loop is modulo
2^32 and does not wrap, because a `validLength` has 26 bits.  Every fact about the buffers is an
induction over the same loop; `gsoBuffers_rule` is that induction, once, and the facts below are
instances of it. -/

/-- **What NetAdapterCx promises about a packet with segmentation.** -/
structure GsoFits (headerLength : Nat) (frags : List NetFragment) : Prop where
  header_le : ∀ f ∈ frags.head?, headerLength ≤ f.validLength.val
  nonempty : ∀ f ∈ frags, f.validLength.val ≠ 0
  payload : headerLength < (frags.map fun f => f.validLength.val).sum

instance (headerLength : Nat) (frags : List NetFragment) : Decidable (GsoFits headerLength frags) :=
  decidable_of_iff ((∀ f ∈ frags.head?, headerLength ≤ f.validLength.val)
      ∧ (∀ f ∈ frags, f.validLength.val ≠ 0)
      ∧ headerLength < (frags.map fun f => f.validLength.val).sum)
    ⟨fun h => ⟨h.1, h.2.1, h.2.2⟩, fun h => ⟨h.1, h.2, h.3⟩⟩

/-- The length of the next buffer, without the 32-bit arithmetic. -/
def bufLengthAt (fragLength fragPos : Nat) : Nat :=
  min (fragLength - fragPos) queueDescriptorLengthMax

theorem bufLength_eq {fragLength fragPos : Nat} (hlt : fragLength < 2 ^ 26)
    (hle : fragPos ≤ fragLength) :
    (if sub32 fragLength fragPos < queueDescriptorLengthMax
      then sub32 fragLength fragPos else queueDescriptorLengthMax)
      = bufLengthAt fragLength fragPos := by
  have hsub : sub32 fragLength fragPos = fragLength - fragPos := by
    rw [sub32]
    have hge : fragLength + 2 ^ 32 - fragPos = fragLength - fragPos + 2 ^ 32 := by omega
    rw [hge, Nat.add_mod_right]
    omega
  rw [hsub, bufLengthAt]
  split
  · rw [Nat.min_eq_left (by omega)]
  · rw [Nat.min_eq_right (by omega)]

section Buffers

variable (pktIndex vlanTag : Nat) (lastFrag : Bool) (frag : Nat × NetFragment)

/-- One buffer of a fragment. -/
def gsoBuffer (fragPos : Nat) : TxDescriptor :=
  let bufLength := bufLengthAt frag.2.validLength.val fragPos
  let lastDesc := fragPos + bufLength == frag.2.validLength.val && lastFrag
  .read {
    buf1Ap := addressLow (frag.2.logicalAddress + fragPos)
    buf2Ap := addressHigh (frag.2.logicalAddress + fragPos)
    buf1Length := bufLength
    vlanTagControl := txVlanTagControl vlanTag
    interruptOnCompletion := lastDesc
    frameLength := 0
    checksumInsertion := .disabled
    lastDescriptor := lastDesc
    firstDescriptor := false
    own := true
    fragmentIndex := frag.1
    packetIndex := pktIndex }

theorem gsoBuffers_end (fuel : Nat) :
    gsoBuffers pktIndex vlanTag lastFrag frag fuel frag.2.validLength.val = [] := by
  cases fuel <;> simp [gsoBuffers]

/-- One iteration of the loop over a fragment's buffers. -/
theorem gsoBuffers_succ (fuel : Nat) {fragPos : Nat} (hlt : fragPos < frag.2.validLength.val) :
    gsoBuffers pktIndex vlanTag lastFrag frag (fuel + 1) fragPos
      = gsoBuffer pktIndex vlanTag lastFrag frag fragPos
        :: gsoBuffers pktIndex vlanTag lastFrag frag fuel
            (fragPos + bufLengthAt frag.2.validLength.val fragPos) := by
  have hwidth : frag.2.validLength.val < 2 ^ 26 := frag.2.validLength.isLt
  have hpos : (fragPos + bufLengthAt frag.2.validLength.val fragPos) % 2 ^ 32
      = fragPos + bufLengthAt frag.2.validLength.val fragPos := by
    refine Nat.mod_eq_of_lt ?_
    rw [bufLengthAt]
    omega
  rw [gsoBuffers]
  simp only [if_neg (Nat.ne_of_lt hlt), bufLength_eq hwidth (Nat.le_of_lt hlt), hpos]
  rfl

theorem bufLengthAt_pos {fragLength fragPos : Nat} (hlt : fragPos < fragLength) :
    0 < bufLengthAt fragLength fragPos := by
  rw [bufLengthAt, queueDescriptorLengthMax]
  omega

theorem bufLengthAt_le {fragLength fragPos : Nat} (hle : fragPos ≤ fragLength) :
    fragPos + bufLengthAt fragLength fragPos ≤ fragLength := by
  rw [bufLengthAt]
  omega

/-- **The rule of the loop over a fragment's buffers**: what holds of no buffers at the end of the
fragment, and is kept by a buffer in front, holds of the buffers from each position on. -/
theorem gsoBuffers_rule {P : Nat → List TxDescriptor → Prop}
    (hend : P frag.2.validLength.val [])
    (hstep : ∀ fragPos buffers, fragPos < frag.2.validLength.val →
      P (fragPos + bufLengthAt frag.2.validLength.val fragPos) buffers →
      P fragPos (gsoBuffer pktIndex vlanTag lastFrag frag fragPos :: buffers)) (fuel : Nat) :
    ∀ fragPos, fragPos ≤ frag.2.validLength.val → frag.2.validLength.val - fragPos ≤ fuel →
      P fragPos (gsoBuffers pktIndex vlanTag lastFrag frag fuel fragPos) := by
  induction fuel with
  | zero =>
    intro fragPos hle hfuel
    obtain rfl : fragPos = frag.2.validLength.val := by omega
    rwa [gsoBuffers_end]
  | succ fuel ih =>
    intro fragPos hle hfuel
    rcases Nat.eq_or_lt_of_le hle with rfl | hlt
    · rwa [gsoBuffers_end]
    · have hpos := bufLengthAt_pos hlt
      rw [gsoBuffers_succ _ _ _ _ fuel hlt]
      exact hstep fragPos _ hlt (ih _ (bufLengthAt_le hle) (by omega))

theorem gsoBuffers_forall {P : TxDescriptor → Prop}
    (hP : ∀ fragPos, fragPos < frag.2.validLength.val →
      P (gsoBuffer pktIndex vlanTag lastFrag frag fragPos)) (fuel fragPos : Nat)
    (hle : fragPos ≤ frag.2.validLength.val) (hfuel : frag.2.validLength.val - fragPos ≤ fuel) :
    ∀ d ∈ gsoBuffers pktIndex vlanTag lastFrag frag fuel fragPos, P d := by
  refine gsoBuffers_rule pktIndex vlanTag lastFrag frag (P := fun _ buffers => ∀ d ∈ buffers, P d)
    (by simp) (fun fragPos buffers hlt h => ?_) fuel fragPos hle hfuel
  exact List.forall_mem_cons.mpr ⟨hP fragPos hlt, h⟩

/-- A fragment of `n` bytes left takes `descriptorsFor n` descriptors. -/
theorem gsoBuffers_length (fuel fragPos : Nat) (hle : fragPos ≤ frag.2.validLength.val)
    (hfuel : frag.2.validLength.val - fragPos ≤ fuel) :
    (gsoBuffers pktIndex vlanTag lastFrag frag fuel fragPos).length
      = descriptorsFor (frag.2.validLength.val - fragPos) := by
  refine gsoBuffers_rule pktIndex vlanTag lastFrag frag
    (P := fun fragPos buffers => buffers.length = descriptorsFor (frag.2.validLength.val - fragPos))
    (by simp [descriptorsFor, queueDescriptorLengthMax]) (fun fragPos buffers hlt h => ?_) fuel
    fragPos hle hfuel
  have hlen : bufLengthAt frag.2.validLength.val fragPos
      = min (frag.2.validLength.val - fragPos) queueDescriptorLengthMax := rfl
  rw [List.length_cons, h]
  unfold descriptorsFor queueDescriptorLengthMax at *
  omega

/-- In the last fragment, exactly the buffer that reaches the end of the fragment ends the
packet. -/
theorem gsoBuffers_endsAtLast (fuel fragPos : Nat) (hlt : fragPos < frag.2.validLength.val)
    (hfuel : frag.2.validLength.val - fragPos ≤ fuel) :
    EndsAtLast (gsoBuffers pktIndex vlanTag true frag fuel fragPos) := by
  have hall := gsoBuffers_rule pktIndex vlanTag true frag
    (P := fun fragPos buffers => (fragPos = frag.2.validLength.val → buffers = [])
      ∧ (fragPos < frag.2.validLength.val → EndsAtLast buffers))
    ⟨fun _ => rfl, fun hlt => absurd hlt (Nat.lt_irrefl _)⟩ ?_ fuel fragPos (Nat.le_of_lt hlt) hfuel
  · exact hall.2 hlt
  · rintro fragPos buffers hlt ⟨hnil, hends⟩
    refine ⟨fun heq => absurd heq (Nat.ne_of_lt hlt), fun _ => ?_⟩
    rcases Nat.eq_or_lt_of_le (bufLengthAt_le (Nat.le_of_lt hlt)) with heq | hnext
    · rw [hnil heq]
      refine EndsAtLast.singleton ?_
      simp [gsoBuffer, TxDescriptor.endsPacket, TxDescriptor.contextType,
        TxDescriptor.lastDescriptor, heq]
    · refine EndsAtLast.cons ?_ (hends hnext)
      simp [gsoBuffer, TxDescriptor.endsPacket, TxDescriptor.lastDescriptor, Nat.ne_of_lt hnext]

end Buffers

/-! ## 3. The fragments of one packet

The header of a packet with segmentation has a descriptor of its own, so its bytes are left out of
the first fragment and of no other one.  If the first fragment is nothing but the header, no buffer
of it is written; the packet still ends, as the payload is not empty and its last fragment has
bytes (`GsoFits`). -/

section Fragments

variable (pktIndex vlanTag : Nat)

/-- What holds of every buffer holds of every descriptor of the fragment loop. -/
theorem gsoFragments_forall {P : TxDescriptor → Prop}
    (hP : ∀ lastFrag frag fragPos, fragPos < frag.2.validLength.val →
      P (gsoBuffer pktIndex vlanTag lastFrag frag fragPos)) :
    ∀ (frags : List (Nat × NetFragment)) (start : Nat),
      (∀ f ∈ frags.head?, start ≤ f.2.validLength.val) →
      ∀ d ∈ gsoFragments pktIndex vlanTag frags start, P d
  | [], _, _, d, hd => by simp [gsoFragments] at hd
  | frag :: frags, start, hstart, d, hd => by
    rw [gsoFragments, List.mem_append] at hd
    rcases hd with hd | hd
    · exact gsoBuffers_forall _ _ _ _ (hP _ _) _ _ (hstart frag rfl) (Nat.sub_le _ _) d hd
    · exact gsoFragments_forall hP frags 0 (fun f _ => Nat.zero_le _) d hd

theorem descriptorsFor_sub_le (n m : Nat) : descriptorsFor (n - m) ≤ descriptorsFor n :=
  Nat.div_le_div_right (by omega)

theorem gsoFragments_length_le : ∀ (frags : List (Nat × NetFragment)) (start : Nat),
    (∀ f ∈ frags.head?, start ≤ f.2.validLength.val) →
    (gsoFragments pktIndex vlanTag frags start).length ≤ userDescriptorsNeeded frags
  | [], _, _ => by simp [gsoFragments]
  | frag :: frags, start, hstart => by
    rw [gsoFragments, List.length_append]
    have hfrag := gsoBuffers_length pktIndex vlanTag frags.isEmpty frag
      frag.2.validLength.val start (hstart frag rfl) (Nat.sub_le _ _)
    have hsub := descriptorsFor_sub_le frag.2.validLength.val start
    have hrest := gsoFragments_length_le frags 0 fun f _ => Nat.zero_le _
    have hsum : userDescriptorsNeeded (frag :: frags)
        = descriptorsFor frag.2.validLength.val + userDescriptorsNeeded frags := by
      simp [userDescriptorsNeeded]
    omega

/-- With payload in the last fragment, the fragment loop ends the packet exactly once. -/
theorem gsoFragments_endsAtLast : ∀ (frags : List (Nat × NetFragment)) (start : Nat),
    frags ≠ [] → GsoFits start (frags.map Prod.snd) →
    EndsAtLast (gsoFragments pktIndex vlanTag frags start)
  | [], _, hne, _ => absurd rfl hne
  | [frag], start, _, hfits => by
    have hpayload : start < frag.2.validLength.val := by simpa using hfits.payload
    rw [gsoFragments, gsoFragments, List.append_nil]
    exact gsoBuffers_endsAtLast _ _ _ _ _ hpayload (Nat.sub_le _ _)
  | frag :: frag' :: frags, start, _, hfits => by
    rw [gsoFragments]
    refine EndsAtLast.append ?_ (gsoFragments_endsAtLast (frag' :: frags) 0 (by simp) ?_)
    · refine gsoBuffers_forall _ _ _ _ (fun fragPos _ => ?_) _ _ (hfits.header_le frag.2 rfl)
        (Nat.sub_le _ _)
      simp [gsoBuffer, TxDescriptor.endsPacket, TxDescriptor.lastDescriptor]
    · have hnonempty : ∀ f ∈ (frag' :: frags).map Prod.snd, f.validLength.val ≠ 0 :=
        fun f hf => hfits.nonempty f (List.mem_cons_of_mem _ hf)
      refine ⟨fun f _ => Nat.zero_le _, hnonempty, ?_⟩
      have hfirst := hnonempty frag'.2 (by simp)
      simp only [List.map_cons, List.sum_cons]
      omega

theorem plainFragments_length (pkt : NetPacket) (frameLength : Nat) :
    ∀ (frags : List (Nat × NetFragment)) (first : Bool),
      (plainFragments pkt pktIndex vlanTag frameLength frags first).length = frags.length
  | [], _ => rfl
  | frag :: frags, first => by
    rw [plainFragments, List.length_cons, plainFragments_length pkt frameLength frags false,
      List.length_cons]

theorem plainFragments_endsAtLast (pkt : NetPacket) (frameLength : Nat) :
    ∀ (frags : List (Nat × NetFragment)) (first : Bool), frags ≠ [] →
      EndsAtLast (plainFragments pkt pktIndex vlanTag frameLength frags first)
  | [], _, hne => absurd rfl hne
  | [frag], first, _ => by
    rw [plainFragments, plainFragments]
    exact EndsAtLast.singleton rfl
  | frag :: frag' :: frags, first, _ => by
    rw [plainFragments]
    exact EndsAtLast.cons rfl
      (plainFragments_endsAtLast pkt frameLength (frag' :: frags) false (by simp))

/-- What the fragment loop of a packet without segmentation writes: no context descriptor,
owned by the DMA engine, marked with the packet's index and its tag control. -/
theorem plainFragments_forall (pkt : NetPacket) (frameLength : Nat) :
    ∀ (frags : List (Nat × NetFragment)) (first : Bool),
      ∀ d ∈ plainFragments pkt pktIndex vlanTag frameLength frags first,
        d.own = true ∧ d.packetIndex = pktIndex ∧ d.contextType = false
          ∧ d.vlanTagControl = txVlanTagControl vlanTag
  | [], _, d, hd => by simp [plainFragments] at hd
  | frag :: frags, first, d, hd => by
    rw [plainFragments, List.mem_cons] at hd
    rcases hd with rfl | hd
    · exact ⟨rfl, rfl, rfl, rfl⟩
    · exact plainFragments_forall pkt frameLength frags false d hd

end Fragments

/-! ## 4. The packet

A context descriptor, where one is needed, comes in front of everything else.  It ends no packet,
so the chain behind it stays one. -/

/-- The part of a packet's descriptors after the context descriptor. -/
def bodyDescs (vlanId pktIndex : Nat) (pkt : NetPacket) (frags : List (Nat × NetFragment)) :
    List TxDescriptor :=
  let vlanTag := txVlanTag vlanId pkt
  if pkt.gsoMss16 ≠ 0 then
    gsoHeader pkt pktIndex pkt.fragmentIndex vlanTag
      ((frags.head?.map fun f => f.2.logicalAddress).getD 0) (fragmentsLength frags)
      :: gsoFragments pktIndex vlanTag frags pkt.headerLength
  else plainFragments pkt pktIndex vlanTag (fragmentsLength frags) frags true

/-- Whether a context descriptor precedes the packet. -/
def contextBefore (vlanId : Nat) (last : TxLast) (pkt : NetPacket) : Bool :=
  if pkt.gsoMss16 ≠ 0 then contextNeeded last (txVlanTag vlanId pkt) pkt.gsoMss16
  else contextTagNeeded last (txVlanTag vlanId pkt)

/-- The context descriptor that precedes the packet, if one does. -/
def contextDesc (vlanId : Nat) (last : TxLast) (pktIndex : Nat) (pkt : NetPacket) :
    TxDescriptor :=
  if pkt.gsoMss16 ≠ 0 then
    gsoContext last pktIndex pkt.fragmentIndex (txVlanTag vlanId pkt) pkt.gsoMss16
  else tagContext pktIndex pkt.fragmentIndex (txVlanTag vlanId pkt)

/-- **A packet's descriptors: a context descriptor if one is needed, then the body.** -/
theorem packetDescs_fst (vlanId : Nat) (last : TxLast) (pktIndex : Nat) (pkt : NetPacket)
    (frags : List (Nat × NetFragment)) :
    (packetDescs vlanId last pktIndex pkt frags).1
      = (if contextBefore vlanId last pkt then [contextDesc vlanId last pktIndex pkt] else [])
        ++ bodyDescs vlanId pktIndex pkt frags := by
  simp only [packetDescs, contextBefore, contextDesc, bodyDescs]
  split
  · split <;> rfl
  · split <;> rfl

/-- What is promised about the packet and its fragments: at least one fragment, and
`GsoFits` for segmentation. -/
structure PacketFits (pkt : NetPacket) (frags : List NetFragment) : Prop where
  ne_nil : frags ≠ []
  count : pkt.fragmentCount = frags.length
  gso : pkt.gsoMss16 ≠ 0 → GsoFits pkt.headerLength frags

instance (pkt : NetPacket) (frags : List NetFragment) : Decidable (PacketFits pkt frags) :=
  decidable_of_iff (frags ≠ [] ∧ pkt.fragmentCount = frags.length
      ∧ (pkt.gsoMss16 ≠ 0 → GsoFits pkt.headerLength frags))
    ⟨fun h => ⟨h.1, h.2.1, h.2.2⟩, fun h => ⟨h.1, h.2, h.3⟩⟩

section Packet

variable {vlanId pktIndex : Nat} {last : TxLast} {pkt : NetPacket}
  {frags : List (Nat × NetFragment)}

theorem PacketFits.frags_ne_nil (h : PacketFits pkt (frags.map Prod.snd)) : frags ≠ [] := by
  intro hnil
  exact h.ne_nil (by rw [hnil, List.map_nil])

theorem PacketFits.header_le (h : PacketFits pkt (frags.map Prod.snd)) (hgso : pkt.gsoMss16 ≠ 0) :
    ∀ f ∈ frags.head?, pkt.headerLength ≤ f.2.validLength.val := by
  intro f hf
  refine (h.gso hgso).header_le f.2 ?_
  rw [List.head?_map, Option.mem_def.mp hf]
  rfl

/-- The body holds no context descriptor; its descriptors carry the packet's index and tag
control and belong to the DMA engine. -/
theorem bodyDescs_forall (h : PacketFits pkt (frags.map Prod.snd)) :
    ∀ d ∈ bodyDescs vlanId pktIndex pkt frags,
      d.own = true ∧ d.packetIndex = pktIndex ∧ d.contextType = false
        ∧ d.vlanTagControl = txVlanTagControl (txVlanTag vlanId pkt) := by
  intro d hd
  rw [bodyDescs] at hd
  split at hd
  · rename_i hgso
    rcases List.mem_cons.mp hd with rfl | hd
    · exact ⟨rfl, rfl, rfl, rfl⟩
    · exact gsoFragments_forall pktIndex (txVlanTag vlanId pkt)
        (P := fun d => d.own = true ∧ d.packetIndex = pktIndex ∧ d.contextType = false
          ∧ d.vlanTagControl = txVlanTagControl (txVlanTag vlanId pkt))
        (fun _ _ _ _ => ⟨rfl, rfl, rfl, rfl⟩) _ _ (h.header_le hgso) d hd
  · exact plainFragments_forall _ _ _ _ _ _ d hd

theorem bodyDescs_endsAtLast (h : PacketFits pkt (frags.map Prod.snd)) :
    EndsAtLast (bodyDescs vlanId pktIndex pkt frags) := by
  rw [bodyDescs]
  split
  · rename_i hgso
    exact EndsAtLast.cons rfl (gsoFragments_endsAtLast _ _ _ _ h.frags_ne_nil (h.gso hgso))
  · exact plainFragments_endsAtLast _ _ _ _ _ _ h.frags_ne_nil

theorem contextDesc_spec (vlanId : Nat) (last : TxLast) (pktIndex : Nat) (pkt : NetPacket) :
    (contextDesc vlanId last pktIndex pkt).own = true
      ∧ (contextDesc vlanId last pktIndex pkt).packetIndex = pktIndex
      ∧ (contextDesc vlanId last pktIndex pkt).contextType = true := by
  rw [contextDesc]
  split
  · exact ⟨rfl, rfl, rfl⟩
  · exact ⟨rfl, rfl, rfl⟩

/-- **What is written for a packet is a chain.** The context descriptor and the header descriptor
never have the `LastDescriptor` bit; the fragment loop sets it where the last fragment is used up,
which happens once. -/
theorem packetDescs_chain (h : PacketFits pkt (frags.map Prod.snd)) :
    IsChain pktIndex (packetDescs vlanId last pktIndex pkt frags).1 := by
  obtain ⟨hown, hindex, hctx⟩ := contextDesc_spec vlanId last pktIndex pkt
  have hctxEnds : (contextDesc vlanId last pktIndex pkt).endsPacket = false := by
    simp [TxDescriptor.endsPacket, hctx]
  have hbody := @bodyDescs_forall vlanId pktIndex pkt frags h
  rw [packetDescs_fst]
  split
  · refine ⟨?_, ?_, EndsAtLast.cons hctxEnds (bodyDescs_endsAtLast h)⟩
    · intro d hd
      rcases List.mem_cons.mp hd with rfl | hd
      · exact hown
      · exact (hbody d hd).1
    · intro d hd
      rcases List.mem_cons.mp hd with rfl | hd
      · exact hindex
      · exact (hbody d hd).2.1
  · exact ⟨fun d hd => (hbody d hd).1, fun d hd => (hbody d hd).2.1, bodyDescs_endsAtLast h⟩

/-- **The test before the writes asked for enough room.** It counts the buffers of every whole
fragment, and the fragment loop writes no more than that: the header only shortens the first one
(`descriptorsFor_sub_le`). -/
theorem packetDescs_length_le (h : PacketFits pkt (frags.map Prod.snd)) :
    (packetDescs vlanId last pktIndex pkt frags).1.length
      ≤ descriptorsNeeded vlanId last pkt frags := by
  have hctx : ∀ b : Bool, (if b then [contextDesc vlanId last pktIndex pkt]
      else ([] : List TxDescriptor)).length = b.toNat := by
    intro b
    cases b <;> rfl
  rw [packetDescs_fst, List.length_append, hctx, descriptorsNeeded, bodyDescs, contextBefore]
  split
  · rename_i hgso
    have hlen := gsoFragments_length_le pktIndex (txVlanTag vlanId pkt) frags pkt.headerLength
      (h.header_le hgso)
    rw [List.length_cons]
    omega
  · have hcount : pkt.fragmentCount = frags.length := by
      rw [h.count, List.length_map]
    rw [plainFragments_length]
    omega

end Packet

end WoaRk3576.Net
