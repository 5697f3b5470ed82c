/-
# `TxQueueAdvance` moves positions of the log

`TxQueueAt o posted p q` ties the driver's state `q` -- three rings of indices that wrap -- to
the log `posted` and the positions `p` in it.  The two halves of `TxQueueAdvance` are then
statements about positions:

* `txQueueReap_spec`: reaping takes `reaped` to `released`, and moves `passed` to the first
  packet whose last descriptor is not released;
* `txQueueFill_spec`: filling only moves `queued` forward, and leaves every descriptor between
  `reaped` and the old end as it was.

The alignment of the three rings is one field of the loop invariant each (`ReapAt`): the packet
position `j` is the packet of the descriptor position `t`, and the fragment position `f` agrees
with `j`.  `pktFragIndex` is set twice for each completed packet, by `NetRingAdvanceIndex` and
again by `SkipIgnorePackets`; both values agree with the new packet position
(`PassedAt.of_offset`).
-/
import WoaRk3576.Net.TxLog

namespace WoaRk3576.Net

open WoaRk3576.Lib

/-! ## 1. The queue and the log

`TxQueueAt` is what a call finds and what it leaves: each index of the queue is a position of the
log modulo the length of its ring, and each ring holds the part of the log that is in use.  The
lemmas turn a read at an index into an entry of the log, which is the only way in which the loops
are looked at from here on. -/

/-- The positions of a transmit queue in its log. -/
structure TxPositions where
  passed : Nat
  queued : Nat
  fragsPassed : Nat
  reaped : Nat
  released : Nat
  deriving DecidableEq, Repr

/-- The descriptors of the posted packets, from `TxQueueStart` on. -/
def TxQueueContext.chains (context : TxQueueContext) (posted : List Posting) :
    List (List TxDescriptor) :=
  Net.chains context.vlanId startLast posted

/-- **The queue `q` is at the positions `p` of the log `posted`.** The rings hold the entries that
were posted and not returned, the descriptor ring the blocks that were queued and not reaped; the
released ones among these are handed back, and the others are not. -/
structure TxQueueAt (o : TxOrigin) (posted : List Posting) (p : TxPositions) (q : TxQueue) :
    Prop where
  wellPosted : WellPosted o posted
  packetSize : q.packetRing.numberOfElements = o.packets
  fragmentSize : q.fragmentRing.numberOfElements = o.fragments
  packets : q.packetRing.Holds o.packetStart (posted.map Posting.packet) p.passed
  nextIndex_eq : q.packetRing.nextIndex = wrap o.packets o.packetStart p.queued
  passed_le : p.passed ≤ p.queued
  queued_le : p.queued ≤ posted.length
  fragments : q.fragmentRing.Holds o.fragmentStart (fragBlocks posted).flatten p.fragsPassed
  passedAt : PassedAt posted p.passed p.fragsPassed
  descs : Window q.context.descCount 0 q.context.descVirtual
    (markReleased p.released ((q.context.chains posted).take p.queued).flatten) p.reaped
  descBegin_eq : q.context.descBegin = wrap q.context.descCount 0 p.reaped
  descEnd_eq : q.context.descEnd
    = wrap q.context.descCount 0 (offset (q.context.chains posted) p.queued)
  tail_eq : q.context.txDescTailPointer
    = q.context.descPhysical + q.context.descEnd * queueDescriptorSize
  last_eq : q.context.toTxLast
    = lastAfter q.context.vlanId startLast (posted.take p.queued)
  reaped_ge : offset (q.context.chains posted) p.passed ≤ p.reaped
  reaped_lt : ∀ i (h : i < posted.length), p.passed ≤ i → i < p.queued →
    posted[i].packet.ignore = false → p.reaped < offset (q.context.chains posted) (i + 1)
  reaped_le : p.reaped ≤ p.released
  released_le : p.released ≤ offset (q.context.chains posted) p.queued

/-- The mask of the descriptor ring. -/
theorem TxQueueContext.and_descMask (context : TxQueueContext) (i : Nat) :
    i &&& context.descMask = i % context.descCount := by
  obtain ⟨k, -, hk⟩ := context.descCount_pow2
  exact and_mask hk i

section Queue

variable {o : TxOrigin} {posted : List Posting} {p : TxPositions} {q : TxQueue}

/-- The number of descriptors ever queued. -/
theorem TxQueueAt.length_descs (_ : TxQueueAt o posted p q) :
    (markReleased p.released ((q.context.chains posted).take p.queued).flatten).length
      = offset (q.context.chains posted) p.queued := by
  rw [length_markReleased]
  rfl

theorem TxQueueAt.lt_reaped_add (h : TxQueueAt o posted p q) :
    offset (q.context.chains posted) p.queued < p.reaped + q.context.descCount := by
  have hlt := h.descs.lt_lo_add
  rwa [h.length_descs] at hlt

theorem TxQueueAt.descCount_pos (h : TxQueueAt o posted p q) : 0 < q.context.descCount :=
  h.descs.pos

theorem chains_length_lt {i : Nat} (hi : i < posted.length) :
    i < (q.context.chains posted).length := by
  rwa [TxQueueContext.chains, length_chains]

/-- The descriptors of a packet that is not ignored. -/
theorem TxQueueAt.chain (h : TxQueueAt o posted p q) {i : Nat} (hi : i < posted.length)
    (hic : i < (q.context.chains posted).length) (hig : posted[i].packet.ignore = false) :
    IsChain posted[i].pktIndex (q.context.chains posted)[i] :=
  h.wellPosted.chain hi _ hig

theorem TxQueueAt.offset_lt (h : TxQueueAt o posted p q) {i : Nat} (hi : i < posted.length)
    (hig : posted[i].packet.ignore = false) :
    offset (q.context.chains posted) i < offset (q.context.chains posted) (i + 1) :=
  h.wellPosted.offset_lt hi hig

/-- The packet of a counter that was posted and not yet returned. -/
theorem TxQueueAt.packet_eq (h : TxQueueAt o posted p q) {i : Nat} (hi : i < posted.length)
    (hpi : p.passed ≤ i) :
    q.packetRing.buffer (wrap o.packets o.packetStart i) = posted[i].packet := by
  have hbuf := h.packets.buffer_eq (by rwa [List.length_map]) hpi
  rwa [h.packetSize, List.getElem_map] at hbuf

theorem TxQueueAt.increment (h : TxQueueAt o posted p q) (i : Nat) :
    netRingIncrementIndex q.packetRing (wrap o.packets o.packetStart i)
      = wrap o.packets o.packetStart (i + 1) := by
  have hinc := netRingIncrementIndex_wrap q.packetRing o.packetStart i
  rwa [h.packetSize] at hinc

/-- Two packet positions in use have one index only if they are one position. -/
theorem TxQueueAt.packet_wrap_eq_iff (h : TxQueueAt o posted p q) {i j : Nat}
    (hi : p.passed ≤ i) (hij : i ≤ j) (hj : j ≤ posted.length) :
    wrap o.packets o.packetStart i = wrap o.packets o.packetStart j ↔ i = j := by
  have hiff := h.packets.wrap_eq_iff hi hij (by rwa [List.length_map])
  rwa [h.packetSize] at hiff

theorem TxQueueAt.posted_lt (h : TxQueueAt o posted p q) :
    posted.length < p.passed + o.packets := by
  have hlt := h.packets.window.lt_lo_add
  rwa [List.length_map, h.packetSize] at hlt

theorem TxQueueAt.beginIndex_eq (h : TxQueueAt o posted p q) :
    q.packetRing.beginIndex = wrap o.packets o.packetStart p.passed := by
  have heq := h.packets.beginIndex_eq
  rwa [h.packetSize] at heq

theorem TxQueueAt.endIndex_eq (h : TxQueueAt o posted p q) :
    q.packetRing.endIndex = wrap o.packets o.packetStart posted.length := by
  have heq := h.packets.endIndex_eq
  rwa [h.packetSize, List.length_map] at heq

/-- The elements between `NextIndex` and `EndIndex`. -/
theorem TxQueueAt.distance_new (h : TxQueueAt o posted p q) :
    q.packetRing.distance q.packetRing.nextIndex q.packetRing.endIndex
      = posted.length - p.queued := by
  have hlt := h.posted_lt
  have hpq := h.passed_le
  have hwrap := q.packetRing.distance_wrap o.packetStart h.queued_le
    (by rw [h.packetSize]; omega)
  rw [h.packetSize] at hwrap
  rw [h.nextIndex_eq, h.endIndex_eq, hwrap]

/-- The descriptor of a queued position that was not yet reaped. -/
theorem TxQueueAt.desc_eq (h : TxQueueAt o posted p q) {t : Nat}
    (ht : t < (markReleased p.released ((q.context.chains posted).take p.queued).flatten).length)
    (hpt : p.reaped ≤ t) :
    q.context.descVirtual (wrap q.context.descCount 0 t)
      = (markReleased p.released ((q.context.chains posted).take p.queued).flatten)[t] :=
  h.descs.holds t ht hpt

/-! ## 2. `SkipIgnorePackets`

A packet to ignore has no descriptors, and so nothing that the reaping loop could see.  Such
packets are passed over where the loop comes to them, and only then are given back. -/

/-- `j` is the first packet from `i` on, before `n`, that is not ignored; `n` if there is none. -/
structure FirstPending (posted : List Posting) (n i j : Nat) : Prop where
  le : i ≤ j
  le_end : j ≤ n
  skipped : ∀ k (h : k < posted.length), i ≤ k → k < j → posted[k].packet.ignore = true
  pending : ∀ (h : j < posted.length), j < n → posted[j].packet.ignore = false

/-- **`SkipIgnorePackets` finds the first packet that is not ignored**, and a fragment position
that agrees with it. -/
theorem skipIgnorePackets_spec (h : TxQueueAt o posted p q) : ∀ (fuel i f : Nat),
    p.passed ≤ i → i ≤ p.queued → p.queued - i ≤ fuel → PassedAt posted i f →
    ∃ j g, skipIgnorePackets q.packetRing fuel (wrap o.packets o.packetStart i)
          (wrap o.fragments o.fragmentStart f)
        = (wrap o.packets o.packetStart j, wrap o.fragments o.fragmentStart g)
      ∧ FirstPending posted p.queued i j ∧ PassedAt posted j g ∧ f ≤ g
  | fuel, i, f, hpi, hiq, hfuel, hpass => by
    have hstop : ∀ n, i = p.queued → skipIgnorePackets q.packetRing n
        (wrap o.packets o.packetStart i) (wrap o.fragments o.fragmentStart f)
        = (wrap o.packets o.packetStart i, wrap o.fragments o.fragmentStart f) := by
      rintro n rfl
      cases n with
      | zero => rfl
      | succ n => rw [skipIgnorePackets, h.nextIndex_eq, if_pos rfl]
    rcases Nat.eq_or_lt_of_le hiq with heq | hlt
    · exact ⟨i, f, hstop fuel heq, ⟨Nat.le_refl _, hiq, fun k _ h1 h2 => by omega,
        fun _ h2 => by omega⟩, hpass, Nat.le_refl _⟩
    · have hi : i < posted.length := Nat.lt_of_lt_of_le hlt h.queued_le
      obtain ⟨fuel, rfl⟩ : ∃ n, fuel = n + 1 := ⟨fuel - 1, by omega⟩
      have hne : wrap o.packets o.packetStart i ≠ q.packetRing.nextIndex := by
        rw [h.nextIndex_eq, Ne, h.packet_wrap_eq_iff hpi hiq h.queued_le]
        omega
      rw [skipIgnorePackets, if_neg hne, h.packet_eq hi hpi]
      cases hig : posted[i].packet.ignore with
      | true =>
        have hskip : ∀ k (hk : k < posted.length), i ≤ k → k < i + 1 →
            posted[k].packet.ignore = true := by
          intro k hk h1 h2
          obtain rfl : k = i := by omega
          exact hig
        obtain ⟨j, g, hrun, hfirst, hpass', hle⟩ := skipIgnorePackets_spec h fuel (i + 1) f
          (by omega) hlt (by omega) (hpass.skip (Nat.le_succ i) hskip)
        rw [if_pos rfl, h.increment]
        refine ⟨j, g, hrun, ⟨?_, hfirst.le_end, ?_, hfirst.pending⟩, hpass', hle⟩
        · exact Nat.le_of_succ_le hfirst.le
        · intro k hk h1 h2
          rcases Nat.lt_or_ge k (i + 1) with h3 | h3
          · exact hskip k hk h1 h3
          · exact hfirst.skipped k hk h3 h2
      | false =>
        rw [if_neg (by simp), (h.wellPosted i hi).fragmentIndex_eq hig]
        refine ⟨i, _, rfl, ⟨Nat.le_refl _, hiq, fun k _ h1 h2 => by omega, fun _ _ => hig⟩,
          PassedAt.of_offset, hpass.after i hi (Nat.le_refl _) hig⟩

/-! ## 3. Reaping

In the log the loop is simple: the positions of the descriptors go up by one, and the packet moves
on where its block ends.  `ReapAt` says that the variables are at such a place, and `released_desc`
that the descriptor read there says what the log says; the step and the end of the loop follow. -/

/-- **The invariant of the reaping loop.**  At descriptor position `t` the loop has come to
packet `j`, the one that descriptor belongs to, and to the fragment position `f`. -/
structure ReapAt (o : TxOrigin) (posted : List Posting) (p : TxPositions) (q : TxQueue)
    (t j f : Nat) (s : ReapState) : Prop where
  descIndex_eq : s.descIndex = wrap q.context.descCount 0 t
  pktIndex_eq : s.pktIndex = wrap o.packets o.packetStart j
  pktFragIndex_eq : s.pktFragIndex = wrap o.fragments o.fragmentStart f
  passed_le : p.passed ≤ j
  le_queued : j ≤ p.queued
  pending : ∀ (h : j < posted.length), j < p.queued → posted[j].packet.ignore = false
  offset_le : offset (q.context.chains posted) j ≤ t
  lt_offset : j < p.queued → t < offset (q.context.chains posted) (j + 1)
  passedAt : PassedAt posted j f
  fragsPassed_le : p.fragsPassed ≤ f

/-- The loop has reached the packet of the descriptor, when there is one. -/
theorem ReapAt.lt_queued {t j f : Nat} {s : ReapState} (hs : ReapAt o posted p q t j f s)
    (ht : t < offset (q.context.chains posted) p.queued) : j < p.queued := by
  rcases Nat.eq_or_lt_of_le hs.le_queued with heq | hlt
  · have := hs.offset_le
    rw [heq] at this
    omega
  · exact hlt

/-- The entry at a queued position is the descriptor of the block it lies in. -/
theorem flatten_take_getElem {j t n : Nat} (hj : j < n)
    (hjc : j < (q.context.chains posted).length)
    (h1 : offset (q.context.chains posted) j ≤ t)
    (h2 : t < offset (q.context.chains posted) (j + 1))
    (ht : t < ((q.context.chains posted).take n).flatten.length) :
    ∃ hlt : t - offset (q.context.chains posted) j < (q.context.chains posted)[j].length,
      ((q.context.chains posted).take n).flatten[t]
        = (q.context.chains posted)[j][t - offset (q.context.chains posted) j] := by
  have hjt : j < ((q.context.chains posted).take n).length := by
    rw [List.length_take]
    omega
  have hoff : offset ((q.context.chains posted).take n) j = offset (q.context.chains posted) j := by
    rw [offset, offset, List.take_take, Nat.min_eq_left (Nat.le_of_lt hj)]
  have hget : ((q.context.chains posted).take n)[j] = (q.context.chains posted)[j] :=
    List.getElem_take
  rw [offset_succ hjc] at h2
  have hlt : t - offset (q.context.chains posted) j < (q.context.chains posted)[j].length := by
    omega
  refine ⟨hlt, ?_⟩
  have hentry := @getElem_offset _ ((q.context.chains posted).take n) j
    (t - offset (q.context.chains posted) j) hjt (by rw [hget]; exact hlt)
    (by rw [hoff, Nat.add_sub_cancel' h1]; exact ht)
  simp only [hoff, Nat.add_sub_cancel' h1, hget] at hentry
  exact hentry

/-- **What a released descriptor says**: it is handed back, marked with the index of its
packet, and ends the packet if and only if the next position is the next packet's. -/
theorem TxQueueAt.released_desc (h : TxQueueAt o posted p q) {t j f : Nat} {s : ReapState}
    (hs : ReapAt o posted p q t j f s) (hpt : p.reaped ≤ t) (ht : t < p.released) :
    (q.context.descVirtual s.descIndex).own = false
      ∧ (q.context.descVirtual s.descIndex).packetIndex = s.pktIndex
      ∧ ((q.context.descVirtual s.descIndex).endsPacket = true
        ↔ t + 1 = offset (q.context.chains posted) (j + 1)) := by
  have htq : t < offset (q.context.chains posted) p.queued :=
    Nat.lt_of_lt_of_le ht h.released_le
  have hjq := hs.lt_queued htq
  have hjp : j < posted.length := Nat.lt_of_lt_of_le hjq h.queued_le
  have hjc := chains_length_lt (q := q) hjp
  have htlen : t < ((q.context.chains posted).take p.queued).flatten.length := htq
  obtain ⟨hlt, hentry⟩ := flatten_take_getElem hjq hjc hs.offset_le (hs.lt_offset hjq) htlen
  have hchain := h.chain hjp hjc (hs.pending hjp hjq)
  have hread : q.context.descVirtual s.descIndex
      = (((q.context.chains posted).take p.queued).flatten[t]).release := by
    rw [hs.descIndex_eq, h.desc_eq (by rwa [length_markReleased]) hpt,
      markReleased_getElem_lt _ htlen ht]
  rw [hread, hentry]
  refine ⟨by simp, ?_, ?_⟩
  · rw [TxDescriptor.packetIndex_release, hs.pktIndex_eq, ← (h.wellPosted j hjp).pktIndex_eq]
    exact hchain.packetIndex _ (List.getElem_mem hlt)
  · rw [TxDescriptor.endsPacket_release, offset_succ hjc]
    have hiff := hchain.endsAtLast.getElem_iff hlt
    have hle := hs.offset_le
    constructor
    · intro hend
      have := hiff.mp hend
      omega
    · intro heq
      exact hiff.mpr (by omega)

/-- The first packet from `i` on that is not ignored is where the loop stands after reaching
descriptor position `offset i`. -/
theorem ReapAt.of_firstPending (h : TxQueueAt o posted p q) {t i j g : Nat}
    (hfirst : FirstPending posted p.queued i j) (hpass : PassedAt posted j g)
    (hpi : p.passed ≤ i) (hfg : p.fragsPassed ≤ g)
    (hge : offset (q.context.chains posted) i ≤ t)
    (hlt : ∀ (hj : j < posted.length), j < p.queued → posted[j].packet.ignore = false →
      t < offset (q.context.chains posted) (j + 1)) :
    ReapAt o posted p q t j g ⟨wrap q.context.descCount 0 t,
      wrap o.packets o.packetStart j, wrap o.fragments o.fragmentStart g⟩ := by
  have hoff : offset (q.context.chains posted) j = offset (q.context.chains posted) i :=
    offset_chains_ignored hfirst.le (Nat.le_trans hfirst.le_end h.queued_le) hfirst.skipped
  refine ⟨rfl, rfl, rfl, Nat.le_trans hpi hfirst.le, hfirst.le_end, hfirst.pending, ?_, ?_,
    hpass, hfg⟩
  · rw [hoff]
    exact hge
  · intro hjq
    have hjp : j < posted.length := Nat.lt_of_lt_of_le hjq h.queued_le
    exact hlt hjp hjq (hfirst.pending hjp hjq)

/-- The loop variables at the start of the loop. -/
theorem ReapAt.start (h : TxQueueAt o posted p q) :
    ∃ j f, ReapAt o posted p q p.reaped j f ⟨q.context.descBegin,
      (skipIgnorePackets q.packetRing q.packetRing.numberOfElements q.packetRing.beginIndex
        q.fragmentRing.beginIndex).1,
      (skipIgnorePackets q.packetRing q.packetRing.numberOfElements q.packetRing.beginIndex
        q.fragmentRing.beginIndex).2⟩ := by
  have hlen := h.posted_lt
  have hq := h.queued_le
  obtain ⟨j, g, hrun, hfirst, hpass, hle⟩ := skipIgnorePackets_spec h
    q.packetRing.numberOfElements p.passed p.fragsPassed (Nat.le_refl _) h.passed_le
    (by rw [h.packetSize]; omega) h.passedAt
  refine ⟨j, g, ?_⟩
  rw [h.packets.beginIndex_eq, h.fragments.beginIndex_eq, h.packetSize, h.fragmentSize]
  rw [h.packetSize] at hrun
  rw [hrun, h.descBegin_eq]
  exact ReapAt.of_firstPending h hfirst hpass (Nat.le_refl _) hle h.reaped_ge
    fun hj hjq hig => h.reaped_lt j hj hfirst.le hjq hig

/-- **One descriptor is reaped.** If it ends its packet, the packet is passed, with its fragments,
and the loop is at the next one that is not ignored; otherwise only the descriptor moves on. -/
theorem ReapAt.step (h : TxQueueAt o posted p q) {t j f : Nat} {s : ReapState}
    (hs : ReapAt o posted p q t j f s) (hpt : p.reaped ≤ t) (ht : t < p.released) :
    ∃ j' f', ReapAt o posted p q (t + 1) j' f' ⟨(s.descIndex + 1) &&& q.context.descMask,
      (reapDesc q.packetRing q.fragmentRing (q.context.descVirtual s.descIndex)
        s.pktIndex s.pktFragIndex).1,
      (reapDesc q.packetRing q.fragmentRing (q.context.descVirtual s.descIndex)
        s.pktIndex s.pktFragIndex).2⟩ := by
  obtain ⟨-, -, hends⟩ := h.released_desc hs hpt ht
  have hjq := hs.lt_queued (Nat.lt_of_lt_of_le ht h.released_le)
  have hjp : j < posted.length := Nat.lt_of_lt_of_le hjq h.queued_le
  have hlt := hs.lt_offset hjq
  have hdesc : (s.descIndex + 1) &&& q.context.descMask = wrap q.context.descCount 0 (t + 1) := by
    rw [hs.descIndex_eq, TxQueueContext.and_descMask, wrap_add_mod]
  rw [hdesc]
  cases hctx : (q.context.descVirtual s.descIndex).contextType with
  | true =>
    -- a context descriptor is followed by the rest of its packet
    have hnot : t + 1 ≠ offset (q.context.chains posted) (j + 1) := fun heq => by
      have := hends.mpr heq
      simp [TxDescriptor.endsPacket, hctx] at this
    refine ⟨j, f, ?_⟩
    rw [reapDesc, if_pos hctx]
    exact ⟨rfl, hs.pktIndex_eq, hs.pktFragIndex_eq, hs.passed_le, hs.le_queued, hs.pending,
      Nat.le_succ_of_le hs.offset_le, fun _ => by omega, hs.passedAt, hs.fragsPassed_le⟩
  | false =>
    cases hlast : (q.context.descVirtual s.descIndex).lastDescriptor with
    | false =>
      have hnot : t + 1 ≠ offset (q.context.chains posted) (j + 1) := fun heq => by
        have := hends.mpr heq
        simp [TxDescriptor.endsPacket, hlast] at this
      refine ⟨j, f, ?_⟩
      rw [reapDesc, if_neg (by simp [hctx]), if_neg (by simp [hlast])]
      exact ⟨rfl, hs.pktIndex_eq, hs.pktFragIndex_eq, hs.passed_le, hs.le_queued, hs.pending,
        Nat.le_succ_of_le hs.offset_le, fun _ => by omega, hs.passedAt, hs.fragsPassed_le⟩
    | true =>
      have hnext : t + 1 = offset (q.context.chains posted) (j + 1) :=
        hends.mp (by simp [TxDescriptor.endsPacket, hctx, hlast])
      have hig := hs.pending hjp hjq
      have hfit := (h.wellPosted j hjp).fits hig
      have hcount : posted[j].packet.fragmentCount = posted[j].fragments.length := by
        rw [hfit.count, List.length_map]
      have hfrag : netRingAdvanceIndex q.fragmentRing posted[j].packet.fragmentIndex
          posted[j].packet.fragmentCount
          = wrap o.fragments o.fragmentStart (offset (fragBlocks posted) (j + 1)) := by
        have hadv := netRingAdvanceIndex_wrap q.fragmentRing o.fragmentStart
          (offset (fragBlocks posted) j) posted[j].packet.fragmentCount
        rw [h.fragmentSize] at hadv
        rw [(h.wellPosted j hjp).fragmentIndex_eq hig, hadv, hcount,
          offset_fragBlocks_succ hjp]
      have hlen := h.posted_lt
      have hq := h.queued_le
      have hge := hs.passed_le
      obtain ⟨j', g, hrun, hfirst, hpass, hle⟩ := skipIgnorePackets_spec h
        q.packetRing.numberOfElements (j + 1) (offset (fragBlocks posted) (j + 1))
        (by omega) hjq (by rw [h.packetSize]; omega) PassedAt.of_offset
      refine ⟨j', g, ?_⟩
      rw [reapDesc, if_neg (by simp [hctx]), if_pos hlast, hs.pktIndex_eq,
        h.packet_eq hjp hge, h.increment, hfrag, hrun]
      refine ReapAt.of_firstPending h hfirst hpass (by omega) ?_ (Nat.le_of_eq hnext.symm) ?_
      · have hf := hs.fragsPassed_le
        have hj := hs.passedAt.after j hjp (Nat.le_refl _) hig
        have hsucc := offset_le_succ (fragBlocks posted) j
        omega
      · intro hj' hj'q hig'
        have hpos := h.offset_lt hj' hig'
        have hmono := offset_mono (q.context.chains posted) hfirst.le
        exact Nat.lt_of_le_of_lt (Nat.le_trans (Nat.le_of_eq hnext) hmono) hpos

/-- **The loop ends at the first descriptor that is not released.** -/
theorem reapStep_released (h : TxQueueAt o posted p q) {j f : Nat} {s : ReapState}
    (hs : ReapAt o posted p q p.released j f s) :
    reapStep q.context q.packetRing q.fragmentRing s = none := by
  have hrel := h.released_le
  rw [reapStep]
  split
  · rfl
  · rename_i hne
    have htq : p.released < offset (q.context.chains posted) p.queued := by
      rcases Nat.eq_or_lt_of_le hrel with heq | hlt
      · rw [hs.descIndex_eq, h.descEnd_eq, heq] at hne
        exact absurd rfl hne
      · exact hlt
    -- the next descriptor is still owned by the DMA engine
    have hjq := hs.lt_queued htq
    have hjp : j < posted.length := Nat.lt_of_lt_of_le hjq h.queued_le
    have hjc := chains_length_lt (q := q) hjp
    have htlen : p.released < ((q.context.chains posted).take p.queued).flatten.length := htq
    obtain ⟨hin, hentry⟩ := flatten_take_getElem hjq hjc hs.offset_le (hs.lt_offset hjq) htlen
    have hchain := h.chain hjp hjc (hs.pending hjp hjq)
    have hown : (q.context.descVirtual s.descIndex).own = true := by
      rw [hs.descIndex_eq, h.desc_eq (by rwa [length_markReleased]) h.reaped_le,
        markReleased_getElem_ge _ htlen (Nat.le_refl _), hentry]
      exact hchain.own _ (List.getElem_mem hin)
    rw [if_pos hown]

/-- **The reaping loop stops exactly at the first descriptor that is not released.** -/
theorem reapDescs_spec (h : TxQueueAt o posted p q) {j f : Nat} {s : ReapState}
    (hs : ReapAt o posted p q p.reaped j f s) :
    ∃ j' f', ReapAt o posted p q p.released j' f'
      (reapDescs q.context q.packetRing q.fragmentRing s) := by
  have htotal := h.lt_reaped_add
  have hrel := h.released_le
  have hreap := h.reaped_le
  refine (loop_spec (reapStep q.context q.packetRing q.fragmentRing)
    (fun n s => ∃ t j f, ReapAt o posted p q t j f s ∧ p.reaped ≤ t ∧ t + n = p.released)
    (fun s => ∃ j' f', ReapAt o posted p q p.released j' f' s) ?_ q.context.descCount
    (p.released - p.reaped) s ⟨p.reaped, j, f, hs, Nat.le_refl _, by omega⟩ (by omega)).2
  rintro n s ⟨t, j, f, hs, hpt, htn⟩
  rcases Nat.eq_zero_or_pos n with rfl | hn
  · obtain rfl : t = p.released := by omega
    exact .inl ⟨reapStep_released h hs, j, f, hs⟩
  · right
    have hlt : t < p.released := by omega
    have hne : s.descIndex ≠ q.context.descEnd := by
      rw [hs.descIndex_eq, h.descEnd_eq]
      exact wrap_ne (Nat.lt_of_lt_of_le hlt hrel) (by omega)
    obtain ⟨hown, -, -⟩ := h.released_desc hs hpt hlt
    obtain ⟨j', f', hs'⟩ := ReapAt.step h hs hpt hlt
    refine ⟨_, n - 1, ?_, by omega, t + 1, j', f', hs', by omega, by omega⟩
    rw [reapStep, if_neg hne, if_neg (by simp [hown])]

/-- **Reaping moves `reaped` to `released`**, and `passed` with it. -/
theorem txQueueReap_spec (h : TxQueueAt o posted p q) :
    ∃ j f, TxQueueAt o posted { p with passed := j, fragsPassed := f, reaped := p.released }
        (txQueueReap q)
      ∧ p.passed ≤ j ∧ p.fragsPassed ≤ f := by
  obtain ⟨j, f, hstart⟩ := ReapAt.start h
  have hrel := h.released_le
  have hreap := h.reaped_le
  obtain ⟨j', f', hend⟩ := reapDescs_spec h hstart
  have hj : p.passed ≤ j' := hend.passed_le
  have hjlen : j' ≤ posted.length := Nat.le_trans hend.le_queued h.queued_le
  refine ⟨j', f', ?_, hj, hend.fragsPassed_le⟩
  have hpackets : (txQueueReap q).packetRing.Holds o.packetStart
      (posted.map Posting.packet) j' := by
    have hret := h.packets.return_to hj (by rwa [List.length_map]) q.packetRing.nextIndex
    have heq : (txQueueReap q).packetRing = { q.packetRing with
        beginIndex := wrap q.packetRing.numberOfElements o.packetStart j' } := by
      rw [h.packetSize, ← hend.pktIndex_eq]
      rfl
    rw [heq]
    exact hret
  have hfragments : (txQueueReap q).fragmentRing.Holds o.fragmentStart
      (fragBlocks posted).flatten f' := by
    have hret := h.fragments.return_to hend.fragsPassed_le hend.passedAt.le
      q.fragmentRing.nextIndex
    have heq : (txQueueReap q).fragmentRing = { q.fragmentRing with
        beginIndex := wrap q.fragmentRing.numberOfElements o.fragmentStart f' } := by
      rw [h.fragmentSize, ← hend.pktFragIndex_eq]
      rfl
    rw [heq]
    exact hret
  refine ⟨h.wellPosted, h.packetSize, h.fragmentSize, hpackets, h.nextIndex_eq, hend.le_queued,
    h.queued_le, hfragments, hend.passedAt, ?_, hend.descIndex_eq, h.descEnd_eq, h.tail_eq,
    h.last_eq, hend.offset_le, ?_, Nat.le_refl _, hrel⟩
  · exact h.descs.advance hreap (by rw [h.length_descs]; exact hrel)
  · intro i hi hji hiq _
    exact Nat.lt_of_lt_of_le (hend.lt_offset (Nat.lt_of_le_of_lt hji hiq))
      (offset_mono _ (Nat.succ_le_succ hji))

/-! ## 4. Filling

The loop adds blocks behind the queued ones.  `FillAt` is its invariant, with the descriptors
behind the old end as the only ones that changed: the test for room compares with the free part of
the ring, which is as large as the counts say (`emptyDescRemaining_eq`), so a block that passes it
reaches no descriptor in use. -/

/-- **The descriptors go behind the window.** -/
theorem writeDescs_spec {N k lo : Nat} (hN : N = 2 ^ k) : ∀ (ds : List TxDescriptor)
    (mem : Nat → TxDescriptor) (log : List TxDescriptor), Window N 0 mem log lo →
    log.length + ds.length < lo + N →
    Window N 0 (writeDescs (N - 1) mem (wrap N 0 log.length) ds).1 (log ++ ds) lo
      ∧ (writeDescs (N - 1) mem (wrap N 0 log.length) ds).2 = wrap N 0 (log.length + ds.length)
  | [], mem, log, h, _ => by
    rw [List.append_nil]
    exact ⟨h, rfl⟩
  | d :: ds, mem, log, h, hroom => by
    rw [List.length_cons] at hroom
    have hlen : (log ++ [d]).length = log.length + 1 := by
      rw [List.length_append, List.length_singleton]
    have hnext : (wrap N 0 log.length + 1) &&& (N - 1) = wrap N 0 (log ++ [d]).length := by
      rw [and_mask hN, wrap_add_mod, hlen]
    obtain ⟨hwin, hidx⟩ := writeDescs_spec hN ds _ (log ++ [d]) (h.push (by omega) d)
      (by rw [hlen]; omega)
    rw [writeDescs, hnext]
    refine ⟨by simpa using hwin, ?_⟩
    rw [hidx, hlen, List.length_cons]
    congr 1
    omega

/-- The fragments a loop reads are those that were posted. -/
theorem packetFragments_spec {r : NetRing NetFragment} {start lo : Nat} {log : List NetFragment}
    (h : r.Holds start log lo) : ∀ (fs : List NetFragment) (a : Nat), lo ≤ a →
    (∀ k (hk : k < fs.length), ∃ hlt : a + k < log.length, log[a + k] = fs[k]) →
    packetFragments r fs.length (wrap r.numberOfElements start a)
      = indexFragments r.numberOfElements (wrap r.numberOfElements start a) fs
  | [], _, _, _ => rfl
  | f :: fs, a, hle, hlog => by
    obtain ⟨hlt, hfirst⟩ := hlog 0 (by simp)
    have hread : r.buffer (wrap r.numberOfElements start a) = f :=
      (h.buffer_eq hlt hle).trans hfirst
    have hstep := wrap_add_mod r.numberOfElements start a 1
    rw [List.length_cons, packetFragments, indexFragments, hread, netRingIncrementIndex_wrap,
      hstep]
    congr 1
    refine packetFragments_spec h fs (a + 1) (by omega) fun k hk => ?_
    obtain ⟨hlt', hnext⟩ := hlog (k + 1) (by simpa using hk)
    have hcomm : a + 1 + k = a + (k + 1) := by omega
    simp only [hcomm]
    exact ⟨hlt', hnext⟩

/-- The fragments of a posted packet, as the second loop reads them. -/
theorem TxQueueAt.packetFragments_eq (h : TxQueueAt o posted p q) {j : Nat}
    (hj : j < posted.length) (hpj : p.passed ≤ j) (hig : posted[j].packet.ignore = false) :
    packetFragments q.fragmentRing posted[j].packet.fragmentCount
      posted[j].packet.fragmentIndex = posted[j].fragments := by
  have hpost := h.wellPosted j hj
  have hblk : j < (fragBlocks posted).length := by
    rw [fragBlocks, List.length_map]
    exact hj
  have hbj : (fragBlocks posted)[j] = posted[j].fragments.map Prod.snd := by
    simp [fragBlocks]
  have hread := packetFragments_spec h.fragments (posted[j].fragments.map Prod.snd)
    (offset (fragBlocks posted) j) (h.passedAt.after j hj hpj hig) (fun k hk => by
      have hsucc := offset_succ hblk
      have hle := offset_le_length (fragBlocks posted) (j + 1)
      rw [hbj] at hsucc
      have hlt : offset (fragBlocks posted) j + k < (fragBlocks posted).flatten.length := by
        omega
      refine ⟨hlt, ?_⟩
      have hentry := getElem_offset hblk (by rw [hbj]; exact hk) hlt
      simp only [hbj] at hentry
      exact hentry)
  rw [h.fragmentSize] at hread
  rw [(hpost.fits hig).count, hpost.fragmentIndex_eq hig, hread, ← hpost.fragments_eq hig]

/-- **The invariant of the filling loop**: the descriptors of the packets before `j` are
written, and nothing else of the context has changed but what they left in `lastMss` and
`lastVlanTag`. -/
structure FillAt (o : TxOrigin) (posted : List Posting) (p : TxPositions) (q : TxQueue)
    (j : Nat) (s : FillState) : Prop where
  context_eq : s.context = { q.context with
    toTxLast := lastAfter q.context.vlanId startLast (posted.take j)
    descVirtual := s.context.descVirtual }
  window : Window q.context.descCount 0 s.context.descVirtual
    (markReleased p.released ((q.context.chains posted).take j).flatten) p.reaped
  descIndex_eq : s.descIndex
    = wrap q.context.descCount 0 (offset (q.context.chains posted) j)
  pktIndex_eq : s.pktIndex = wrap o.packets o.packetStart j
  queued_le : p.queued ≤ j
  le_length : j ≤ posted.length

theorem FillAt.start (h : TxQueueAt o posted p q) :
    FillAt o posted p q p.queued ⟨q.context, q.context.descEnd, q.packetRing.nextIndex⟩ := by
  refine ⟨?_, h.descs, h.descEnd_eq, h.nextIndex_eq, Nat.le_refl _, h.queued_le⟩
  rw [← h.last_eq]

section Fill

variable {j : Nat} {s : FillState}

theorem FillAt.lt_reaped_add (hs : FillAt o posted p q j s) :
    offset (q.context.chains posted) j < p.reaped + q.context.descCount := by
  have hlt := hs.window.lt_lo_add
  rwa [length_markReleased] at hlt

theorem FillAt.released_le (h : TxQueueAt o posted p q) (hs : FillAt o posted p q j s) :
    p.released ≤ offset (q.context.chains posted) j :=
  Nat.le_trans h.released_le (offset_mono _ hs.queued_le)

/-- `EMPTY_DESC_REMAINING` is the number of descriptors that are free. -/
theorem FillAt.emptyDescRemaining_eq (h : TxQueueAt o posted p q)
    (hs : FillAt o posted p q j s) :
    emptyDescRemaining s.context q.context.descBegin s.descIndex
      = q.context.descCount - 1 - (offset (q.context.chains posted) j - p.reaped) := by
  obtain ⟨k, hk31, hk⟩ := q.context.descCount_pow2
  have hmask : s.context.descMask = q.context.descCount - 1 := by
    rw [hs.context_eq]
    rfl
  have hle := Nat.le_trans h.reaped_le (hs.released_le h)
  rw [emptyDescRemaining, hmask, h.descBegin_eq, hs.descIndex_eq]
  exact room_wrap hk (by omega) hle hs.lt_reaped_add

/-- An ignored packet is passed over. -/
theorem FillAt.ignored (h : TxQueueAt o posted p q) (hs : FillAt o posted p q j s)
    (hj : j < posted.length) (hig : posted[j].packet.ignore = true) :
    FillAt o posted p q (j + 1)
      { s with pktIndex := netRingIncrementIndex q.packetRing s.pktIndex } := by
  have hskip : ∀ k (hk : k < posted.length), j ≤ k → k < j + 1 →
      posted[k].packet.ignore = true := by
    intro k hk h1 h2
    obtain rfl : k = j := by omega
    exact hig
  have hjc := chains_length_lt (q := q) hj
  have hempty : (q.context.chains posted)[j] = [] := chains_getElem_ignored hj hjc hig
  have hflat : ((q.context.chains posted).take (j + 1)).flatten
      = ((q.context.chains posted).take j).flatten := by
    rw [List.take_add_one, List.getElem?_eq_getElem hjc, hempty, List.flatten_append]
    exact List.append_nil _
  refine ⟨?_, ?_, ?_, ?_, Nat.le_succ_of_le hs.queued_le, hj⟩
  · rw [lastAfter_ignored (Nat.le_succ j) hj hskip]
    exact hs.context_eq
  · rw [hflat]
    exact hs.window
  · rw [hs.descIndex_eq, TxQueueContext.chains, offset_chains_ignored (Nat.le_succ j) hj hskip]
  · rw [hs.pktIndex_eq, h.increment]

/-- **A packet is queued whole or not at all.** Where the loop does not end, the packet's block is
written behind the others, and `TxLast` is what it is after the packet. -/
theorem fillPacket_spec (h : TxQueueAt o posted p q) (hs : FillAt o posted p q j s)
    (hj : j < posted.length) (hig : posted[j].packet.ignore = false) :
    fillPacket q.fragmentRing q.context.descBegin s posted[j].packet = none
      ∨ ∃ context descIndex,
        fillPacket q.fragmentRing q.context.descBegin s posted[j].packet
          = some (context, descIndex)
        ∧ FillAt o posted p q (j + 1)
            ⟨context, descIndex, netRingIncrementIndex q.packetRing s.pktIndex⟩ := by
  have hpost := h.wellPosted j hj
  have hfrags := h.packetFragments_eq hj (Nat.le_trans h.passed_le hs.queued_le) hig
  have hvlan : s.context.vlanId = q.context.vlanId := by rw [hs.context_eq]
  have hlast : s.context.toTxLast
      = lastAfter q.context.vlanId startLast (posted.take j) := by rw [hs.context_eq]
  have hmask : s.context.descMask = q.context.descCount - 1 := by
    rw [hs.context_eq]
    rfl
  have hindex : s.pktIndex = posted[j].pktIndex := by rw [hs.pktIndex_eq, hpost.pktIndex_eq]
  rw [fillPacket, hfrags, hs.emptyDescRemaining_eq h, hvlan, hlast, hindex, hmask]
  split
  · exact .inl rfl
  · rename_i hroom
    right
    have hjc := chains_length_lt (q := q) hj
    have hchain : (q.context.chains posted)[j] = (packetDescs q.context.vlanId
        (lastAfter q.context.vlanId startLast (posted.take j)) posted[j].pktIndex
        posted[j].packet posted[j].fragments).1 := by
      simp only [TxQueueContext.chains]
      rw [chains_getElem _ _ hj, Posting.descs, if_neg (by simp [hig])]
    have hneeded := @packetDescs_length_le q.context.vlanId posted[j].pktIndex
      (lastAfter q.context.vlanId startLast (posted.take j)) _ _ (hpost.fits hig)
    have hlog : (markReleased p.released ((q.context.chains posted).take j).flatten).length
        = offset (q.context.chains posted) j := by
      rw [length_markReleased]
      rfl
    have hsucc := offset_succ hjc
    have hlt := hs.lt_reaped_add
    have hreap := h.reaped_le
    have hrel := hs.released_le h
    obtain ⟨k, -, hk⟩ := q.context.descCount_pow2
    obtain ⟨hwin, hidx⟩ := writeDescs_spec hk (q.context.chains posted)[j] _ _ hs.window (by
      rw [hlog, hchain]
      omega)
    rw [hlog, ← hs.descIndex_eq, ← hsucc] at hidx
    rw [hlog, ← hs.descIndex_eq] at hwin
    have hflat : markReleased p.released ((q.context.chains posted).take (j + 1)).flatten
        = markReleased p.released ((q.context.chains posted).take j).flatten
          ++ (q.context.chains posted)[j] := by
      rw [List.take_add_one, List.getElem?_eq_getElem hjc, List.flatten_append,
        markReleased_append hrel]
      simp
    refine ⟨_, _, rfl, ?_, ?_, ?_, ?_, Nat.le_succ_of_le hs.queued_le, hj⟩
    · rw [lastAfter_take_succ _ _ hj, Posting.descs, if_neg (by simp [hig])]
      conv_lhs => rw [hs.context_eq]
    · rw [hflat, ← hchain]
      exact hwin
    · rw [← hchain]
      exact hidx
    · rw [← hindex, hs.pktIndex_eq, h.increment]

/-- **An iteration of the filling loop** passes one packet, if it does not end the loop. -/
theorem FillAt.step (h : TxQueueAt o posted p q) (hs : FillAt o posted p q j s) :
    fillStep q.packetRing q.fragmentRing q.context.descBegin s = none
      ∨ ∃ s', fillStep q.packetRing q.fragmentRing q.context.descBegin s = some s'
        ∧ j < posted.length ∧ FillAt o posted p q (j + 1) s' := by
  have hpj := Nat.le_trans h.passed_le hs.queued_le
  have hend := h.endIndex_eq
  rw [fillStep]
  split
  · exact .inl rfl
  · split
    · exact .inl rfl
    · rename_i hne
      have hj : j < posted.length := by
        rcases Nat.eq_or_lt_of_le hs.le_length with heq | hlt
        · rw [hs.pktIndex_eq, hend, heq] at hne
          exact absurd rfl hne
        · exact hlt
      rw [hs.pktIndex_eq, h.packet_eq hj hpj, ← hs.pktIndex_eq]
      cases hig : posted[j].packet.ignore with
      | true =>
        rw [if_pos rfl]
        exact .inr ⟨_, rfl, hj, hs.ignored h hj hig⟩
      | false =>
        rw [if_neg (by simp)]
        rcases fillPacket_spec h hs hj hig with hnone | ⟨context, descIndex, hsome, hs'⟩
        · rw [hnone]
          exact .inl rfl
        · rw [hsome]
          exact .inr ⟨_, rfl, hj, hs'⟩

/-- **The filling loop moves forward in the log**, and ends by itself. -/
theorem fillDescs_spec (h : TxQueueAt o posted p q) (hs : FillAt o posted p q j s) :
    fillStep q.packetRing q.fragmentRing q.context.descBegin
        (fillDescs q.packetRing q.fragmentRing q.context.descBegin s) = none
      ∧ ∃ j', FillAt o posted p q j'
          (fillDescs q.packetRing q.fragmentRing q.context.descBegin s) ∧ j ≤ j' := by
  have hlen := h.posted_lt
  have hle := hs.le_length
  have hpq := Nat.le_trans h.passed_le hs.queued_le
  refine loop_spec (fillStep q.packetRing q.fragmentRing q.context.descBegin)
    (fun n s => ∃ j', FillAt o posted p q j' s ∧ j ≤ j' ∧ j' + n = posted.length)
    (fun s => ∃ j', FillAt o posted p q j' s ∧ j ≤ j') ?_ q.packetRing.numberOfElements
    (posted.length - j) s ⟨j, hs, Nat.le_refl _, by omega⟩ (by rw [h.packetSize]; omega)
  rintro n s ⟨j', hs, hjj', hn⟩
  rcases hs.step h with hnone | ⟨s', hsome, hj, hs'⟩
  · exact .inl ⟨hnone, j', hs, hjj'⟩
  · exact .inr ⟨s', n - 1, hsome, by omega, j' + 1, hs', by omega, by omega⟩

/-- **The loop does not touch what is in the ring**: the descriptors of an earlier iteration are
there in a later one. -/
theorem FillAt.keeps (h : TxQueueAt o posted p q) (hs : FillAt o posted p q j s) {j' : Nat}
    {s' : FillState} (hs' : FillAt o posted p q j' s') (hjj' : j ≤ j') {t : Nat}
    (hpt : p.reaped ≤ t) (ht : t < offset (q.context.chains posted) j) :
    s'.context.descVirtual (wrap q.context.descCount 0 t)
      = s.context.descVirtual (wrap q.context.descCount 0 t) := by
  have hold : t < (markReleased p.released
      ((q.context.chains posted).take j).flatten).length := by
    rwa [length_markReleased]
  have hnew : t < (markReleased p.released
      ((q.context.chains posted).take j').flatten).length := by
    rw [length_markReleased]
    exact Nat.lt_of_lt_of_le ht (offset_mono _ hjj')
  rw [hs'.window.holds t hnew hpt, hs.window.holds t hold hpt]
  have hsplit : (q.context.chains posted).take j'
      = (q.context.chains posted).take j ++ ((q.context.chains posted).take j').drop j := by
    have htake : (q.context.chains posted).take j
        = ((q.context.chains posted).take j').take j := by
      rw [List.take_take, Nat.min_eq_left hjj']
    rw [htake, List.take_append_drop]
  have happ : markReleased p.released ((q.context.chains posted).take j').flatten
      = markReleased p.released ((q.context.chains posted).take j).flatten
        ++ (((q.context.chains posted).take j').drop j).flatten := by
    conv_lhs => rw [hsplit, List.flatten_append]
    exact markReleased_append (hs.released_le h) _
  simp only [happ]
  exact List.getElem_append_left hold

end Fill

/-- When no descriptor was written, the loop only passed over ignored packets. -/
theorem TxQueueAt.ignored_of_offset_eq (h : TxQueueAt o posted p q) {j : Nat}
    (heq : offset (q.context.chains posted) j = offset (q.context.chains posted) p.queued) :
    ∀ k (hk : k < posted.length), p.queued ≤ k → k < j → posted[k].packet.ignore = true := by
  intro k hk hqk hkj
  cases hig : posted[k].packet.ignore with
  | true => rfl
  | false =>
    have hlt := h.offset_lt hk hig
    have h1 := offset_mono (q.context.chains posted) hqk
    have h2 : offset (q.context.chains posted) (k + 1) ≤ offset (q.context.chains posted) j :=
      offset_mono _ hkj
    omega

/-- **What `context'` may differ in from `context`** when the descriptors at the positions from
`lo` to `hi` are still in use: the ring's size and the queue's VLAN are the same, and these
descriptors are as they were. -/
structure KeepsDescs (lo hi : Nat) (context context' : TxQueueContext) : Prop where
  descCount_eq : context'.descCount = context.descCount
  vlanId_eq : context'.vlanId = context.vlanId
  desc_eq : ∀ t, lo ≤ t → t < hi → context'.descVirtual (wrap context.descCount 0 t)
    = context.descVirtual (wrap context.descCount 0 t)

/-- **Filling moves `queued` forward**, and leaves the descriptors that were not reaped as they
were. -/
theorem txQueueFill_spec (h : TxQueueAt o posted p q) :
    ∃ n, TxQueueAt o posted { p with queued := n } (txQueueFill q) ∧ p.queued ≤ n
      ∧ KeepsDescs p.reaped (offset (q.context.chains posted) p.queued) q.context
          (txQueueFill q).context := by
  obtain ⟨-, j, hs, hqj⟩ := fillDescs_spec h (.start h)
  have hrel := hs.released_le h
  have hmono := offset_mono (q.context.chains posted) hqj
  have hlt := hs.lt_reaped_add
  have hreap := h.reaped_le
  have hrelq := h.released_le
  have hkeep : ∀ t, p.reaped ≤ t → t < offset (q.context.chains posted) p.queued →
      (fillDescs q.packetRing q.fragmentRing q.context.descBegin
        ⟨q.context, q.context.descEnd, q.packetRing.nextIndex⟩).context.descVirtual
          (wrap q.context.descCount 0 t)
        = q.context.descVirtual (wrap q.context.descCount 0 t) :=
    fun _ hpt ht => (FillAt.start h).keeps h hs hqj hpt ht
  rw [txQueueFill]
  generalize fillDescs q.packetRing q.fragmentRing q.context.descBegin
    ⟨q.context, q.context.descEnd, q.packetRing.nextIndex⟩ = s at hs hkeep ⊢
  obtain ⟨context, descIndex, pktIndex⟩ := s
  obtain ⟨hctx, hwin, hdi, hpi, -, hjl⟩ := hs
  dsimp only at hctx hwin hdi hpi hkeep ⊢
  rw [hctx] at hwin hkeep ⊢
  dsimp only at hwin hkeep ⊢
  split
  · rename_i hne
    refine ⟨j, ⟨h.wellPosted, h.packetSize, h.fragmentSize, ?_, hpi, Nat.le_trans h.passed_le hqj,
      hjl, h.fragments, h.passedAt, hwin, h.descBegin_eq, hdi, rfl, rfl, h.reaped_ge, ?_,
      h.reaped_le, hrel⟩, hqj, rfl, rfl, hkeep⟩
    · exact ⟨h.packets.window, h.packets.beginIndex_eq, h.packets.endIndex_eq⟩
    · intro i hi hpi' hij hig
      rcases Nat.lt_or_ge i p.queued with hiq | hqi
      · exact h.reaped_lt i hi hpi' hiq hig
      · have hpos := h.offset_lt hi hig
        have hle := offset_mono (q.context.chains posted) hqi
        show p.reaped < offset (q.context.chains posted) (i + 1)
        omega
  · rename_i heq
    have hoff : offset (q.context.chains posted) j
        = offset (q.context.chains posted) p.queued := by
      have hidx := not_ne_iff.mp heq
      rw [hdi, h.descEnd_eq] at hidx
      exact (wrap_inj hmono (by omega) hidx.symm).symm
    have hig := h.ignored_of_offset_eq hoff
    have hlast := @lastAfter_ignored posted q.context.vlanId startLast _ _ hqj hjl hig
    have hflat : ((q.context.chains posted).take j).flatten
        = ((q.context.chains posted).take p.queued).flatten := by
      have hpre : ((q.context.chains posted).take p.queued).flatten
          <+: ((q.context.chains posted).take j).flatten := by
        refine ⟨(((q.context.chains posted).take j).drop p.queued).flatten, ?_⟩
        rw [← List.flatten_append]
        congr 1
        have htake : (q.context.chains posted).take p.queued
            = ((q.context.chains posted).take j).take p.queued := by
          rw [List.take_take, Nat.min_eq_left hqj]
        rw [htake, List.take_append_drop]
      exact (hpre.eq_of_length hoff.symm).symm
    rw [hflat] at hwin
    refine ⟨p.queued, ⟨h.wellPosted, h.packetSize, h.fragmentSize, h.packets, h.nextIndex_eq,
      h.passed_le, h.queued_le, h.fragments, h.passedAt, hwin, h.descBegin_eq, h.descEnd_eq,
      h.tail_eq, hlast, h.reaped_ge, h.reaped_lt, h.reaped_le, h.released_le⟩,
      Nat.le_refl _, rfl, rfl, hkeep⟩

/-- **`TxQueueAdvance`**: `reaped` catches up with `released`, `passed` follows, `queued` moves on;
and no descriptor that was not reaped is written.  The two halves meet in the state between them,
which is one of the log, too. -/
theorem txQueueAdvance_spec (h : TxQueueAt o posted p q) :
    ∃ j n f, TxQueueAt o posted ⟨j, n, f, p.released, p.released⟩ (txQueueAdvance q)
      ∧ p.passed ≤ j ∧ p.queued ≤ n ∧ p.fragsPassed ≤ f
      ∧ KeepsDescs p.released (offset (q.context.chains posted) p.queued) q.context
          (txQueueAdvance q).context := by
  obtain ⟨j, f, hreap, hj, hf⟩ := txQueueReap_spec h
  obtain ⟨n, hfill, hn, hkeep⟩ := txQueueFill_spec hreap
  exact ⟨j, n, f, hfill, hj, hn, hf, hkeep.descCount_eq, hkeep.vlanId_eq, hkeep.desc_eq⟩

end Queue

end WoaRk3576.Net
