/-
# When `TxQueueAdvance` makes progress

The second loop of `TxQueueAdvance` passes the new packets one by one; an ignored packet takes no
descriptor.  What it passed is published behind the loop, and only when a descriptor was written.
So new packets that are all ignored are never published, and the loop ends, with ignored packets
before it, when the others have taken the last descriptor.

`txQueueAdvance_progress` says when neither happens: for any new packets with enough descriptors
for them, `NextIndex` comes to `EndIndex`, and, once all descriptors are completed, `BeginIndex`
does so in the next call, exactly under the condition `AllPublished`.

The invariant of the loop is that there are enough descriptors for what is left (`FillEnough`): a
packet takes no more than it was tested for, and what the others need was counted from the rest.
So the test never ends the loop at a packet that is not ignored, and it ends behind the last packet
or at ignored ones with no descriptor empty (`FillEnough.done`).  Whether a descriptor was written
at all is whether one of the packets is not ignored, as each of those takes one at least.

The second half goes over a run in which the device hands everything back and nothing is posted
(`Completing`); it leaves the packet ring and the log as they are (`completing_keeps`), so the next
call finds all that was published released, and returns it.
-/
import WoaRk3576.Net.TxCancel
import WoaRk3576.Net.TxContext

namespace WoaRk3576.Net

open WoaRk3576.Lib

/-! ## 1. Descriptors and new packets

How many descriptors a packet takes depends on the packets before it, as a context descriptor may
be left out.  `EnoughDescs` goes through the new packets as the loop does, with what each of them
leaves; it is the test of the loop and not what is written, since the loop ends where the test
fails. -/

/-- The descriptors for the fragments of a packet with segmentation, from the byte `start` of the
first on. -/
def payloadDescriptors : List (Nat × NetFragment) → Nat → Nat
  | [], _ => 0
  | frag :: frags, start =>
    descriptorsFor (frag.2.validLength.val - start) + payloadDescriptors frags 0

/-- The descriptors that a packet takes. -/
def descriptorsTaken (vlanId : Nat) (last : TxLast) (pkt : NetPacket)
    (frags : List (Nat × NetFragment)) : Nat :=
  (contextBefore vlanId last pkt).toNat
    + if pkt.gsoMss16 ≠ 0 then payloadDescriptors frags pkt.headerLength + 1 else frags.length

/-- What it leaves in `lastMss` and `lastVlanTag`. -/
def lastTaken (vlanId : Nat) (last : TxLast) (pkt : NetPacket) : TxLast :=
  if contextBefore vlanId last pkt then
    { lastMss := if pkt.gsoMss16 ≠ 0 then pkt.gsoMss16 else last.lastMss
      lastVlanTag :=
        if contextTagNeeded last (txVlanTag vlanId pkt) then txVlanTag vlanId pkt
        else last.lastVlanTag }
  else last

section Packets

variable (vlanId : Nat) (frags : NetPacket → List (Nat × NetFragment))

/-- **Enough descriptors for all packets**: each passes the test of the loop at its turn. -/
def EnoughDescs : TxLast → Nat → List NetPacket → Prop
  | _, _, [] => True
  | last, empty, pkt :: pkts =>
    if pkt.ignore then EnoughDescs last empty pkts
    else descriptorsNeeded vlanId last pkt (frags pkt) ≤ empty
      ∧ EnoughDescs (lastTaken vlanId last pkt)
          (empty - descriptorsTaken vlanId last pkt (frags pkt)) pkts

instance decidableEnoughDescs : ∀ last empty pkts,
    Decidable (EnoughDescs vlanId frags last empty pkts)
  | _, _, [] => inferInstanceAs (Decidable True)
  | last, empty, pkt :: pkts =>
    have := decidableEnoughDescs last empty pkts
    have := decidableEnoughDescs (lastTaken vlanId last pkt)
      (empty - descriptorsTaken vlanId last pkt (frags pkt)) pkts
    inferInstanceAs (Decidable (if pkt.ignore = true then EnoughDescs vlanId frags last empty pkts
      else descriptorsNeeded vlanId last pkt (frags pkt) ≤ empty
        ∧ EnoughDescs vlanId frags (lastTaken vlanId last pkt)
            (empty - descriptorsTaken vlanId last pkt (frags pkt)) pkts))

/-- The descriptors that the packets take. -/
def allTaken : TxLast → List NetPacket → Nat
  | _, [] => 0
  | last, pkt :: pkts =>
    if pkt.ignore then allTaken last pkts
    else descriptorsTaken vlanId last pkt (frags pkt)
      + allTaken (lastTaken vlanId last pkt) pkts

end Packets

/-- The new packets, between `NextIndex` and `EndIndex`. -/
def TxQueue.newPackets (q : TxQueue) : List NetPacket :=
  (List.range (q.packetRing.distance q.packetRing.nextIndex q.packetRing.endIndex)).map q.waiting

def TxQueue.fragmentsOf (q : TxQueue) (pkt : NetPacket) : List (Nat × NetFragment) :=
  packetFragments q.fragmentRing pkt.fragmentCount pkt.fragmentIndex

/-- The descriptors that the device does not own; the ring has a hole. -/
def TxQueueContext.emptyDescs (context : TxQueueContext) : Nat :=
  context.descCount - 1 - context.region.countP TxDescriptor.own

/-- Enough descriptors are empty for all new packets. -/
def TxQueue.EnoughDescs (q : TxQueue) : Prop :=
  Net.EnoughDescs q.context.vlanId q.fragmentsOf q.context.toTxLast q.context.emptyDescs
    q.newPackets

instance (q : TxQueue) : Decidable q.EnoughDescs :=
  inferInstanceAs (Decidable (Net.EnoughDescs _ _ _ _ _))

/-- **The condition**: there is no new packet; or one of them is not ignored, and they end with
such a packet or leave a descriptor empty. -/
def TxQueue.AllPublished (q : TxQueue) : Prop :=
  q.newPackets = []
    ∨ (∃ pkt ∈ q.newPackets, pkt.ignore = false)
      ∧ ((∀ pkt ∈ q.newPackets.getLast?, pkt.ignore = false)
        ∨ allTaken q.context.vlanId q.fragmentsOf q.context.toTxLast q.newPackets
          < q.context.emptyDescs)

/-! ## 2. What a packet takes

The test counts whole fragments and the chain leaves the header out, so a packet may take less than
it was tested for.  What it leaves is room for the packets behind it. -/

section Taken

variable (pktIndex vlanTag : Nat)

theorem gsoFragments_length (frags : List (Nat × NetFragment)) : ∀ start,
    (∀ f ∈ frags.head?, start ≤ f.2.validLength.val) →
      (gsoFragments pktIndex vlanTag frags start).length = payloadDescriptors frags start := by
  induction frags with
  | nil => exact fun _ _ => rfl
  | cons frag frags ih =>
    intro start hstart
    rw [gsoFragments, List.length_append,
      gsoBuffers_length _ _ _ _ _ _ (hstart frag rfl) (Nat.sub_le _ _),
      ih 0 fun _ _ => Nat.zero_le _]
    rfl

/-- **As many descriptors are written as the packet takes.** -/
theorem packetDescs_length {vlanId : Nat} {last : TxLast} {pkt : NetPacket}
    {frags : List (Nat × NetFragment)} (h : PacketFits pkt (frags.map Prod.snd)) :
    (packetDescs vlanId last pktIndex pkt frags).1.length
      = descriptorsTaken vlanId last pkt frags := by
  have hcontext : ∀ b : Bool, (if b then [contextDesc vlanId last pktIndex pkt]
      else ([] : List TxDescriptor)).length = b.toNat := by
    intro b
    cases b with
    | true => rfl
    | false => rfl
  rw [packetDescs_fst, List.length_append, hcontext, descriptorsTaken, bodyDescs]
  split
  · rename_i hgso
    rw [List.length_cons, gsoFragments_length _ _ _ _ (h.header_le hgso)]
  · rw [plainFragments_length]

end Taken

/-! ## 3. The new packets in the log

The loop's view of the rings is turned into the log: the new packets are the entries behind the
queued ones, and the descriptors that are free are counted by their offsets. -/

section Log

variable {o : TxOrigin} {posted : List Posting} {p : TxPositions} {q : TxQueue}

/-- The descriptors of a packet of the log. -/
theorem TxQueueAt.chain_length (h : TxQueueAt o posted p q) {j : Nat} (hj : j < posted.length)
    (hig : posted[j].packet.ignore = false) :
    offset (q.context.chains posted) (j + 1) = offset (q.context.chains posted) j
      + descriptorsTaken q.context.vlanId (lastAfter q.context.vlanId startLast (posted.take j))
          posted[j].packet posted[j].fragments := by
  have hjc := chains_length_lt (q := q) hj
  rw [offset_succ hjc]
  simp only [TxQueueContext.chains]
  rw [chains_getElem _ _ hj, Posting.descs, if_neg (by simp [hig]),
    packetDescs_length _ ((h.wellPosted j hj).fits hig)]

theorem offset_ignored {j : Nat} (hj : j < posted.length)
    (hig : posted[j].packet.ignore = true) :
    offset (q.context.chains posted) (j + 1) = offset (q.context.chains posted) j :=
  offset_chains_ignored (Nat.le_succ j) hj fun k _ hjk hkj => by
    obtain rfl : k = j := by omega
    exact hig

/-- A packet that is queued takes no more than it was tested for, and at least one descriptor. -/
theorem TxQueueAt.taken_le (h : TxQueueAt o posted p q) {j : Nat} (hj : j < posted.length)
    (hig : posted[j].packet.ignore = false) (last : TxLast) :
    1 ≤ descriptorsTaken q.context.vlanId last posted[j].packet posted[j].fragments
      ∧ descriptorsTaken q.context.vlanId last posted[j].packet posted[j].fragments
        ≤ descriptorsNeeded q.context.vlanId last posted[j].packet posted[j].fragments := by
  have hfits := (h.wellPosted j hj).fits hig
  have hlength := @packetDescs_length 0 q.context.vlanId last posted[j].packet
    posted[j].fragments hfits
  have hneeded := @packetDescs_length_le q.context.vlanId 0 last posted[j].packet
    posted[j].fragments hfits
  have hchain := @packetDescs_chain q.context.vlanId 0 last posted[j].packet
    posted[j].fragments hfits
  have hpos := List.length_pos_iff.mpr hchain.endsAtLast.ne_nil
  omega

theorem lastAfter_succ (vlanId : Nat) {j : Nat} (hj : j < posted.length)
    (hig : posted[j].packet.ignore = false) :
    lastAfter vlanId startLast (posted.take (j + 1))
      = lastTaken vlanId (lastAfter vlanId startLast (posted.take j)) posted[j].packet := by
  rw [lastAfter_take_succ _ _ hj, Posting.descs, if_neg (by simp [hig]), packetDescs_snd]
  rfl

/-- **Enough descriptors for the packets of the log from `j` on.** -/
def EnoughAt (posted : List Posting) (p : TxPositions) (context : TxQueueContext)
    (frags : NetPacket → List (Nat × NetFragment)) (j : Nat) : Prop :=
  EnoughDescs context.vlanId frags (lastAfter context.vlanId startLast (posted.take j))
    (context.descCount - 1 - (offset (context.chains posted) j - p.reaped))
    ((posted.drop j).map Posting.packet)

/-- What the fragments of the new packets are. -/
def FragmentsAt (posted : List Posting) (p : TxPositions)
    (frags : NetPacket → List (Nat × NetFragment)) : Prop :=
  ∀ j (hj : j < posted.length), p.queued ≤ j → posted[j].packet.ignore = false →
    frags posted[j].packet = posted[j].fragments

variable {frags : NetPacket → List (Nat × NetFragment)} {j : Nat}

theorem EnoughAt.ignored (h : EnoughAt posted p q.context frags j) (hj : j < posted.length)
    (hig : posted[j].packet.ignore = true) : EnoughAt posted p q.context frags (j + 1) := by
  unfold EnoughAt at h ⊢
  rw [List.drop_eq_getElem_cons hj, List.map_cons, EnoughDescs, if_pos hig] at h
  rw [offset_ignored hj hig, lastAfter_ignored (Nat.le_succ j) hj fun k _ hjk hkj => by
    obtain rfl : k = j := by omega
    exact hig]
  exact h

theorem EnoughAt.queued (hq : TxQueueAt o posted p q) (h : EnoughAt posted p q.context frags j)
    (hfrags : FragmentsAt posted p frags) (hj : j < posted.length) (hqj : p.queued ≤ j)
    (hig : posted[j].packet.ignore = false) :
    descriptorsNeeded q.context.vlanId
        (lastAfter q.context.vlanId startLast (posted.take j)) posted[j].packet
        posted[j].fragments
      ≤ q.context.descCount - 1 - (offset (q.context.chains posted) j - p.reaped)
      ∧ EnoughAt posted p q.context frags (j + 1) := by
  unfold EnoughAt at h ⊢
  rw [List.drop_eq_getElem_cons hj, List.map_cons, EnoughDescs, if_neg (by simp [hig]),
    hfrags j hj hqj hig] at h
  refine ⟨h.1, ?_⟩
  have hreap := hq.reaped_le
  have hrel := hq.released_le
  have hmono := offset_mono (q.context.chains posted) hqj
  have hempty : q.context.descCount - 1 - (offset (q.context.chains posted) (j + 1) - p.reaped)
      = q.context.descCount - 1 - (offset (q.context.chains posted) j - p.reaped)
        - descriptorsTaken q.context.vlanId
            (lastAfter q.context.vlanId startLast (posted.take j)) posted[j].packet
            posted[j].fragments := by
    rw [hq.chain_length hj hig]
    omega
  rw [hempty, lastAfter_succ _ hj hig]
  exact h.2

/-- Without an empty descriptor, only ignored packets are left. -/
theorem EnoughAt.all_ignored (hq : TxQueueAt o posted p q)
    (hfrags : FragmentsAt posted p frags) (n : Nat) : ∀ j, j + n = posted.length →
    p.queued ≤ j → EnoughAt posted p q.context frags j →
    q.context.descCount - 1 ≤ offset (q.context.chains posted) j - p.reaped →
    ∀ i (hi : i < posted.length), j ≤ i → posted[i].packet.ignore = true := by
  induction n with
  | zero => exact fun j hn _ _ _ i hi hji => absurd hi (by omega)
  | succ n ih =>
    intro j hn hqj h hfull i hi hji
    have hj : j < posted.length := by omega
    cases hig : posted[j].packet.ignore with
    | true =>
      rcases Nat.eq_or_lt_of_le hji with rfl | hlt
      · exact hig
      · exact ih (j + 1) (by omega) (by omega) (h.ignored hj hig)
          (by rwa [offset_ignored hj hig]) i hi hlt
    | false =>
      have hneeded := (h.queued hq hfrags hj hqj hig).1
      have htaken := hq.taken_le hj hig
        (lastAfter q.context.vlanId startLast (posted.take j))
      omega

/-- The descriptors that the packets of the log from `j` on take. -/
theorem allTaken_eq (hq : TxQueueAt o posted p q) (hfrags : FragmentsAt posted p frags)
    (n : Nat) : ∀ j, j + n = posted.length → p.queued ≤ j →
    offset (q.context.chains posted) j
        + allTaken q.context.vlanId frags (lastAfter q.context.vlanId startLast (posted.take j))
          ((posted.drop j).map Posting.packet)
      = offset (q.context.chains posted) posted.length := by
  induction n with
  | zero =>
    intro j hn _
    rw [Nat.add_zero] at hn
    rw [hn, List.drop_length]
    rfl
  | succ n ih =>
    intro j hn hqj
    have hj : j < posted.length := by omega
    have hrest := ih (j + 1) (by omega) (by omega)
    rw [List.drop_eq_getElem_cons hj, List.map_cons, allTaken]
    cases hig : posted[j].packet.ignore with
    | true =>
      rw [offset_ignored hj hig, lastAfter_ignored (Nat.le_succ j) hj fun k _ hjk hkj => by
        obtain rfl : k = j := by omega
        exact hig] at hrest
      rw [if_pos rfl]
      exact hrest
    | false =>
      rw [hq.chain_length hj hig, lastAfter_succ _ hj hig] at hrest
      rw [if_neg (by simp), hfrags j hj hqj hig, ← Nat.add_assoc]
      exact hrest

end Log

/-! ## 4. The filling loop

Two things end the loop, apart from a packet that does not fit: there is no new packet left, or no
descriptor is free.  The second one comes before a packet to ignore is looked at, so such a packet
stays behind if the ring is full.  And `NextIndex` is written only if descriptors were, so the loop
may pass ignored packets and publish nothing.  The condition is these two cases. -/

section Fill

variable {o : TxOrigin} {posted : List Posting} {p : TxPositions} {q : TxQueue}
  {frags : NetPacket → List (Nat × NetFragment)} {j : Nat} {s s' : FillState}

/-- **The invariant of the loop** when there are enough descriptors: there are for what is left,
and an ignored packet is only passed when a descriptor is empty. -/
structure FillEnough (o : TxOrigin) (posted : List Posting) (p : TxPositions) (q : TxQueue)
    (frags : NetPacket → List (Nat × NetFragment)) (j : Nat) (s : FillState) : Prop where
  at_j : FillAt o posted p q j s
  enough : EnoughAt posted p q.context frags j
  ignored_room : ∀ i (hi : i < posted.length), p.queued ≤ i → i + 1 = j →
    posted[i].packet.ignore = true →
    offset (q.context.chains posted) j < p.reaped + (q.context.descCount - 1)

theorem FillEnough.step (h : TxQueueAt o posted p q) (hfrags : FragmentsAt posted p frags)
    (hs : FillEnough o posted p q frags j s)
    (hstep : fillStep q.packetRing q.fragmentRing q.context.descBegin s = some s') :
    FillEnough o posted p q frags (j + 1) s' := by
  obtain ⟨s'', hstep', hj, hs'⟩ := (hs.at_j.step h).resolve_left (by simp [hstep])
  obtain rfl : s' = s'' := Option.some.inj (hstep.symm.trans hstep')
  have hroom : emptyDescRemaining s.context q.context.descBegin s.descIndex ≠ 0 := by
    intro hzero
    rw [fillStep, if_pos hzero] at hstep
    exact absurd hstep (by simp)
  rw [hs.at_j.emptyDescRemaining_eq h] at hroom
  cases hig : posted[j].packet.ignore with
  | true =>
    refine ⟨hs', hs.enough.ignored hj hig, fun _ _ _ _ _ => ?_⟩
    rw [offset_ignored hj hig]
    omega
  | false =>
    refine ⟨hs', (hs.enough.queued h hfrags hj hs.at_j.queued_le hig).2, fun i hi _ hij higi => ?_⟩
    obtain rfl : i = j := by omega
    rw [hig] at higi
    exact absurd higi (by decide)

/-- **The loop ends** behind the last packet, or at ignored packets with no descriptor empty. -/
theorem FillEnough.done (h : TxQueueAt o posted p q) (hfrags : FragmentsAt posted p frags)
    (hs : FillEnough o posted p q frags j s)
    (hnone : fillStep q.packetRing q.fragmentRing q.context.descBegin s = none) :
    j = posted.length
      ∨ offset (q.context.chains posted) j = p.reaped + (q.context.descCount - 1) := by
  have hpj := Nat.le_trans h.passed_le hs.at_j.queued_le
  have hlt := hs.at_j.lt_reaped_add
  have hreap := h.reaped_le
  have hrel := hs.at_j.released_le h
  have hempty := hs.at_j.emptyDescRemaining_eq h
  rw [fillStep] at hnone
  split at hnone
  · right
    omega
  · split at hnone
    · rename_i hindex
      left
      rw [hs.at_j.pktIndex_eq, h.endIndex_eq] at hindex
      exact (h.packet_wrap_eq_iff hpj hs.at_j.le_length (Nat.le_refl _)).mp hindex
    · rename_i hne
      have hj : j < posted.length := by
        refine Nat.lt_of_le_of_ne hs.at_j.le_length fun heq => hne ?_
        rw [hs.at_j.pktIndex_eq, heq, h.endIndex_eq]
      rw [hs.at_j.pktIndex_eq, h.packet_eq hj hpj] at hnone
      cases hig : posted[j].packet.ignore with
      | true =>
        rw [hig, if_pos rfl] at hnone
        exact absurd hnone (by simp)
      | false =>
        have hneeded := (hs.enough.queued h hfrags hj hs.at_j.queued_le hig).1
        have hvlan : s.context.vlanId = q.context.vlanId := by rw [hs.at_j.context_eq]
        have hlast : s.context.toTxLast
            = lastAfter q.context.vlanId startLast (posted.take j) := by
          rw [hs.at_j.context_eq]
        rw [hig, if_neg (by simp), Option.map_eq_none_iff, fillPacket,
          h.packetFragments_eq hj hpj hig, hvlan, hlast, hempty] at hnone
        dsimp only at hnone
        rw [if_neg (by omega)] at hnone
        exact absurd hnone (by simp)

/-- **When filling publishes all new packets.** -/
theorem txQueueFill_next_iff (h : TxQueueAt o posted p q) (hfrags : FragmentsAt posted p frags)
    (henough : EnoughAt posted p q.context frags p.queued) :
    (txQueueFill q).packetRing.nextIndex = q.packetRing.endIndex
      ↔ p.queued = posted.length
        ∨ (∃ i, ∃ hi : i < posted.length, p.queued ≤ i ∧ posted[i].packet.ignore = false)
          ∧ ((∀ i (hi : i < posted.length), p.queued ≤ i → i + 1 = posted.length →
              posted[i].packet.ignore = false)
            ∨ offset (q.context.chains posted) posted.length
              < p.reaped + (q.context.descCount - 1)) := by
  obtain ⟨hnone, -⟩ := fillDescs_spec h (.start h)
  obtain ⟨j, hs⟩ : ∃ j, FillEnough o posted p q frags j (fillDescs q.packetRing q.fragmentRing
      q.context.descBegin ⟨q.context, q.context.descEnd, q.packetRing.nextIndex⟩) := by
    refine loop_invariant (I := fun s => ∃ j, FillEnough o posted p q frags j s)
      (fun s s' hI hsome => ?_) q.packetRing.numberOfElements _
      ⟨p.queued, .start h, henough, fun _ _ _ _ _ => by omega⟩
    obtain ⟨j, hs⟩ := hI
    exact ⟨j + 1, hs.step h hfrags hsome⟩
  have hdone := hs.done h hfrags hnone
  obtain ⟨hat, henoughj, hignored⟩ := hs
  have hle := hat.le_length
  have hqj := hat.queued_le
  have hpj := Nat.le_trans h.passed_le hqj
  have hend := h.endIndex_eq
  -- what the loop has not passed is ignored
  have hrest : ∀ i (hi : i < posted.length), j ≤ i → posted[i].packet.ignore = true := by
    rcases hdone with heq | hfull
    · exact fun i hi hji => absurd hi (by omega)
    · exact EnoughAt.all_ignored h hfrags (posted.length - j) j (by omega) hqj henoughj (by omega)
  have hindex : (fillDescs q.packetRing q.fragmentRing q.context.descBegin
      ⟨q.context, q.context.descEnd, q.packetRing.nextIndex⟩).descIndex = q.context.descEnd
      ↔ offset (q.context.chains posted) j = offset (q.context.chains posted) p.queued := by
    have hlt := hat.lt_reaped_add
    have hreap := h.reaped_le
    have hrel := h.released_le
    rw [hat.descIndex_eq, h.descEnd_eq]
    refine ⟨fun heq => ?_, fun heq => by rw [heq]⟩
    exact (wrap_inj (offset_mono _ hqj) (by omega) heq.symm).symm
  unfold txQueueFill
  dsimp only
  by_cases hoff : offset (q.context.chains posted) j = offset (q.context.chains posted) p.queued
  · rw [if_neg (not_not.mpr (hindex.mpr hoff)), h.nextIndex_eq, hend,
      h.packet_wrap_eq_iff h.passed_le h.queued_le (Nat.le_refl _)]
    refine ⟨.inl, ?_⟩
    rintro (heq | ⟨⟨i, hi, hqi, hig⟩, -⟩)
    · exact heq
    · have hig' : posted[i].packet.ignore = true := by
        rcases Nat.lt_or_ge i j with hij | hji
        · exact h.ignored_of_offset_eq hoff i hi hqi hij
        · exact hrest i hi hji
      rw [hig] at hig'
      exact absurd hig' (by decide)
  · have hne : p.queued < j := Nat.lt_of_le_of_ne hqj fun heq => hoff (by rw [heq])
    have hsome : ∃ i, ∃ hi : i < posted.length, p.queued ≤ i
        ∧ posted[i].packet.ignore = false := by
      by_contra hnot
      refine hoff (offset_chains_ignored hqj hle fun k hk hqk _ => ?_)
      cases hig : posted[k].packet.ignore with
      | true => rfl
      | false => exact absurd ⟨k, hk, hqk, hig⟩ hnot
    rw [if_pos (mt hindex.mp hoff), hat.pktIndex_eq, hend,
      h.packet_wrap_eq_iff hpj hle (Nat.le_refl _)]
    constructor
    · intro heq
      refine .inr ⟨hsome, ?_⟩
      subst heq
      cases hig : posted[posted.length - 1].packet.ignore with
      | true => exact .inr (hignored (posted.length - 1) (by omega) (by omega) (by omega) hig)
      | false =>
        refine .inl fun i hi _ hlast => ?_
        obtain rfl : i = posted.length - 1 := by omega
        exact hig
    · rintro (heq | ⟨-, hlast⟩)
      · omega
      · rcases hdone with heq | hfull
        · exact heq
        · by_contra hnot
          rcases hlast with hlast | hroom
          · have hig := hrest (posted.length - 1) (by omega) (by omega)
            rw [hlast (posted.length - 1) (by omega) (by omega) (by omega)] at hig
            exact absurd hig (by decide)
          · have hmono := offset_mono (q.context.chains posted) hle
            omega

end Fill

/-! ## 5. The condition on the rings

The condition is stated of the rings as they are before the call, with the descriptors that the
device owns counted in the ring.  Reaping does not change what is asked: what is free after it is
what the device does not own before it. -/

section Rings

variable {o : TxOrigin} {posted : List Posting} {p : TxPositions} {q : TxQueue}

theorem TxQueueAt.newPackets_eq (h : TxQueueAt o posted p q) :
    q.newPackets = (posted.drop p.queued).map Posting.packet := by
  unfold TxQueue.newPackets
  rw [h.distance_new]
  refine List.ext_getElem (by simp) fun n hn hn' => ?_
  rw [List.length_map, List.length_range] at hn
  rw [List.getElem_map, List.getElem_range, List.getElem_map, List.getElem_drop]
  exact h.waiting_eq (by omega)

/-- The descriptors in flight that the device owns are those it has not released. -/
theorem TxQueueAt.emptyDescs_eq (h : TxQueueAt o posted p q) :
    q.context.emptyDescs
      = q.context.descCount - 1 - (offset (q.context.chains posted) p.queued - p.released) := by
  have hreap := h.reaped_le
  have hrel := h.released_le
  have hlength : ((q.context.chains posted).take p.queued).flatten.length
      = offset (q.context.chains posted) p.queued := rfl
  unfold TxQueueContext.emptyDescs
  rw [h.region_eq, markReleased_drop hreap, markReleased, List.countP_append]
  have hreleased : (((((q.context.chains posted).take p.queued).flatten.drop p.reaped).take
      (p.released - p.reaped)).map TxDescriptor.release).countP TxDescriptor.own = 0 := by
    rw [List.countP_eq_zero]
    intro d hd
    obtain ⟨d', -, rfl⟩ := List.mem_map.mp hd
    simp
  have howned : ((((q.context.chains posted).take p.queued).flatten.drop p.reaped).drop
      (p.released - p.reaped)).countP TxDescriptor.own
      = offset (q.context.chains posted) p.queued - p.released := by
    rw [List.countP_eq_length.mpr fun d hd =>
      h.own_descs d (List.mem_of_mem_drop (List.mem_of_mem_drop hd)), List.length_drop,
      List.length_drop, hlength]
    omega
  rw [hreleased, howned, Nat.zero_add]

theorem TxQueueAt.fragmentsAt (h : TxQueueAt o posted p q) :
    FragmentsAt posted p q.fragmentsOf := fun _ hj hqj hig =>
  h.packetFragments_eq hj (Nat.le_trans h.passed_le hqj) hig

theorem TxQueueAt.enoughDescs_iff (h : TxQueueAt o posted p q) :
    q.EnoughDescs
      ↔ EnoughAt posted { p with reaped := p.released } q.context q.fragmentsOf p.queued := by
  unfold TxQueue.EnoughDescs EnoughAt
  rw [h.newPackets_eq, h.emptyDescs_eq, h.last_eq]

theorem TxQueueAt.allPublished_iff (h : TxQueueAt o posted p q) :
    q.AllPublished
      ↔ p.queued = posted.length
        ∨ (∃ i, ∃ hi : i < posted.length, p.queued ≤ i ∧ posted[i].packet.ignore = false)
          ∧ ((∀ i (hi : i < posted.length), p.queued ≤ i → i + 1 = posted.length →
              posted[i].packet.ignore = false)
            ∨ offset (q.context.chains posted) posted.length
              < p.released + (q.context.descCount - 1)) := by
  have hqueued := h.queued_le
  have hrel := h.released_le
  have htaken := allTaken_eq h h.fragmentsAt (posted.length - p.queued) p.queued (by omega)
    (Nat.le_refl _)
  have hempty : (posted.drop p.queued).map Posting.packet = [] ↔ p.queued = posted.length := by
    rw [List.map_eq_nil_iff, List.drop_eq_nil_iff]
    omega
  have hsome : (∃ pkt ∈ (posted.drop p.queued).map Posting.packet, pkt.ignore = false)
      ↔ ∃ i, ∃ hi : i < posted.length, p.queued ≤ i ∧ posted[i].packet.ignore = false := by
    constructor
    · rintro ⟨pkt, hpkt, hig⟩
      obtain ⟨posting, hposting, rfl⟩ := List.mem_map.mp hpkt
      obtain ⟨n, hn, rfl⟩ := List.getElem_of_mem hposting
      rw [List.length_drop] at hn
      rw [List.getElem_drop] at hig
      exact ⟨p.queued + n, by omega, Nat.le_add_right _ _, hig⟩
    · rintro ⟨i, hi, hqi, hig⟩
      refine ⟨_, List.mem_map_of_mem ?_, hig⟩
      exact List.mem_drop_iff_getElem.mpr ⟨i - p.queued, by omega, by simp [Nat.add_sub_cancel' hqi]⟩
  have hlast : (∀ pkt ∈ ((posted.drop p.queued).map Posting.packet).getLast?, pkt.ignore = false)
      ↔ ∀ i (hi : i < posted.length), p.queued ≤ i → i + 1 = posted.length →
        posted[i].packet.ignore = false := by
    rw [List.getLast?_map, List.getLast?_drop]
    constructor
    · intro hall i hi hqi hend
      have hget : posted.getLast? = some posted[i] := by
        have hi' : posted.length - 1 = i := by omega
        rw [List.getLast?_eq_getElem?, hi', List.getElem?_eq_getElem hi]
      rw [if_neg (by omega), hget] at hall
      exact hall _ rfl
    · intro hall pkt hpkt
      split at hpkt
      · exact absurd hpkt (by simp)
      · rename_i hlt
        have hin : posted.length - 1 < posted.length := by omega
        have hget : posted.getLast? = some posted[posted.length - 1] := by
          rw [List.getLast?_eq_getElem?, List.getElem?_eq_getElem]
        rw [hget, Option.map_some, Option.mem_some_iff] at hpkt
        rw [← hpkt]
        exact hall (posted.length - 1) (by omega) (by omega) (by omega)
  unfold TxQueue.AllPublished
  rw [h.newPackets_eq, h.emptyDescs_eq, h.last_eq, hempty, hsome, hlast]
  refine or_congr_right (and_congr_right fun _ => or_congr_right ?_)
  omega

end Rings

/-! ## 6. Progress

The first call publishes, and the second gives back what was published.  Between them the device
completes what it was given and touches nothing else. -/

section Progress

variable {o : TxOrigin} {posted : List Posting} {p : TxPositions} {q : TxQueue}

/-- **A call publishes all new packets** exactly under the condition. -/
theorem txQueueAdvance_next_iff (h : TxQueueAt o posted p q) (henough : q.EnoughDescs) :
    (txQueueAdvance q).packetRing.nextIndex = q.packetRing.endIndex ↔ q.AllPublished := by
  obtain ⟨j, f, hreap, -, -⟩ := txQueueReap_spec h
  have hfragments : FragmentsAt posted p q.fragmentsOf := h.fragmentsAt
  rw [h.allPublished_iff]
  exact txQueueFill_next_iff hreap hfragments (h.enoughDescs_iff.mp henough)

/-- **A call returns what was published**, once everything was released. -/
theorem txQueueAdvance_begin_iff (h : TxQueueAt o posted p q) (hreleased : q.context.AllReleased) :
    (txQueueAdvance q).packetRing.beginIndex = q.packetRing.endIndex
      ↔ q.packetRing.nextIndex = q.packetRing.endIndex := by
  rw [h.allReleased_iff] at hreleased
  obtain ⟨j, f, hstart⟩ := ReapAt.start h
  obtain ⟨j', f', hend⟩ := reapDescs_spec h hstart
  have hj' : j' = p.queued := by
    rcases Nat.eq_or_lt_of_le hend.le_queued with heq | hlt
    · exact heq
    · have hoffset := hend.lt_offset hlt
      have hmono : offset (q.context.chains posted) (j' + 1)
          ≤ offset (q.context.chains posted) p.queued := offset_mono _ hlt
      omega
  have hbegin : (txQueueAdvance q).packetRing.beginIndex = (txQueueReap q).packetRing.beginIndex := by
    unfold txQueueAdvance txQueueFill
    dsimp only
    split
    · rfl
    · rfl
  have hreaped : (txQueueReap q).packetRing.beginIndex = wrap o.packets o.packetStart j' :=
    hend.pktIndex_eq
  rw [hbegin, hreaped, hj', h.nextIndex_eq]

/-- The device works on what it was given; nothing is posted, and the driver is not called. -/
def Completing (_ : TxWorld) (a : TxAction) : Prop := a = .fetch ∨ a = .complete

/-- What the device does leaves the packet ring and the log as they are. -/
theorem completing_keeps {w w' : TxWorld} (h : TxInv w)
    (hrun : ReachIf (fun v => v = w) txStep Completing w') :
    TxInv w' ∧ w'.queue.packetRing = w.queue.packetRing := by
  refine hrun.invariant (I := fun v => TxInv v ∧ v.queue.packetRing = w.queue.packetRing)
    (fun v hv => ?_) fun v a v' hI hG hstep => ?_
  · subst hv
    exact ⟨h, rfl⟩
  · refine ⟨txStep_inv v a v' hI.1 hstep, ?_⟩
    rcases hG with rfl | rfl
    · simp only [txStep] at hstep
      split at hstep
      · exact absurd hstep (by simp)
      · rw [← Option.some.inj hstep]
        exact hI.2
    · simp only [txStep] at hstep
      split at hstep
      · exact absurd hstep (by simp)
      · rw [← Option.some.inj hstep]
        exact hI.2

/-- **Progress of the transmit queue**, in every run: with enough descriptors for all new packets,
a call of `TxQueueAdvance` moves `NextIndex` to `EndIndex`, and the next one, when all descriptors
are completed and nothing is posted in between, `BeginIndex`, exactly under the condition. -/
theorem txQueueAdvance_progress (w : TxWorld) (h : Reach TxWorld.Started txStep w)
    (henough : w.queue.EnoughDescs) :
    ((txAdvance w).queue.packetRing.nextIndex = (txAdvance w).queue.packetRing.endIndex
        ↔ w.queue.AllPublished)
      ∧ ∀ w', ReachIf (fun v => v = txAdvance w) txStep Completing w' →
        w'.queue.context.AllReleased →
        ((txAdvance w').queue.packetRing.beginIndex = (txAdvance w').queue.packetRing.endIndex
          ↔ w.queue.AllPublished) := by
  have hinv := txInv_of_reach h
  have hend : ∀ q : TxQueue, (txQueueAdvance q).packetRing.endIndex = q.packetRing.endIndex := by
    intro q
    unfold txQueueAdvance txQueueFill
    dsimp only
    split
    · rfl
    · rfl
  have hnext : (txAdvance w).queue.packetRing.nextIndex = (txAdvance w).queue.packetRing.endIndex
      ↔ w.queue.AllPublished := by
    rw [txAdvance_queue, hend]
    exact txQueueAdvance_next_iff hinv.queueAt henough
  refine ⟨hnext, fun w' hrun hreleased => ?_⟩
  obtain ⟨hinv', hring⟩ := completing_keeps (txAdvance_spec hinv).1 hrun
  rw [txAdvance_queue, hend, txQueueAdvance_begin_iff hinv'.queueAt hreleased, hring]
  exact hnext

/-- A packet that is ignored is passed by the loop and not published: `NextIndex` stays where it
is, and so does `BeginIndex` in the next call. -/
theorem ignored_not_returned : ∃ w, Reach TxWorld.Started txStep w ∧ w.queue.EnoughDescs
    ∧ (txAdvance w).queue.packetRing.nextIndex ≠ (txAdvance w).queue.packetRing.endIndex
    ∧ (txAdvance w).queue.context.AllReleased
    ∧ (txAdvance (txAdvance w)).queue.packetRing.beginIndex
      ≠ (txAdvance (txAdvance w)).queue.packetRing.endIndex := by
  have hstart : (TxWorld.start plainContext (emptyRing plainPacket) (emptyRing ⟨0, 0, 0⟩)
      ⟨7, 7⟩).Started :=
    ⟨_, _, _, _, ⟨by decide, rfl, rfl⟩, ⟨by decide, rfl, rfl⟩, rfl⟩
  obtain ⟨w, hw, hends⟩ := exists_reach_of_run txStep hstart
    [.post { plainPacket with ignore := true } []]
    (fun w => decide (w.queue.EnoughDescs
      ∧ (txAdvance w).queue.packetRing.nextIndex ≠ (txAdvance w).queue.packetRing.endIndex
      ∧ (txAdvance w).queue.context.AllReleased
      ∧ (txAdvance (txAdvance w)).queue.packetRing.beginIndex
        ≠ (txAdvance (txAdvance w)).queue.packetRing.endIndex)) (by decide +kernel)
  exact ⟨w, hw, of_decide_eq_true hends⟩

/-- A packet in front of an ignored one: both are published. -/
theorem txQueueAdvance_progress_of_run : ∃ w, Reach TxWorld.Started txStep w
    ∧ w.queue.newPackets.length = 2
    ∧ (txAdvance w).queue.packetRing.nextIndex = (txAdvance w).queue.packetRing.endIndex := by
  have hstart : (TxWorld.start plainContext (emptyRing plainPacket) (emptyRing ⟨0, 0, 0⟩)
      ⟨7, 7⟩).Started :=
    ⟨_, _, _, _, ⟨by decide, rfl, rfl⟩, ⟨by decide, rfl, rfl⟩, rfl⟩
  obtain ⟨w, hw, hready⟩ := exists_reach_of_run txStep hstart
    [.post plainPacket [⟨0, 60, 0x8000⟩], .post { plainPacket with ignore := true } []]
    (fun w => decide (w.queue.newPackets = [plainPacket, { plainPacket with ignore := true }]
      ∧ w.queue.EnoughDescs
      ∧ allTaken w.queue.context.vlanId w.queue.fragmentsOf w.queue.context.toTxLast
          w.queue.newPackets < w.queue.context.emptyDescs)) (by decide +kernel)
  obtain ⟨hnew, henough, hroom⟩ := of_decide_eq_true hready
  have hpublished : w.queue.AllPublished := by
    refine .inr ⟨⟨plainPacket, ?_, rfl⟩, .inr hroom⟩
    rw [hnew]
    exact List.mem_cons_self
  exact ⟨w, hw, by rw [hnew]; rfl, (txQueueAdvance_progress w hw henough).1.mpr hpublished⟩

end Progress

end WoaRk3576.Net
