/-
# A call of `RxQueueAdvance`

The receive queue has one counter for three rings.  Descriptor `i` is always filled with
fragment `i`, and indicated in packet `i`: so the descriptor region `[descBegin, descEnd)` and
the fragments `[BeginIndex, NextIndex)` are the same interval of counters, and the packet ring
follows.  `RxQueueAt o packets fragments descs b q` says this: `b` descriptors were reaped,
`descs.length` were filled, and each index of the three rings is one of these two counters.

Each of the two loops has its invariant (`RxReapAt`, `RxFillAt`) and its spec.  The one subtle
point is the test `descIndex != descNext` before the tail pointer is written, which compares an
index of the empty region with a position sampled earlier.  Counters settle it:
`b ≤ descNext ≤ descEnd ≤ descIndex < b + descCount`, so equal indices are equal counters and
then `descEnd = descIndex`, nothing was filled (`RxFillAt.eq_of_descIndex_eq`).
-/
import WoaRk3576.Net.RxQueue

namespace WoaRk3576.Net

open WoaRk3576.Lib

/-! ## 1. Counters

Packet, fragment and descriptor with one counter belong together for as long as the queue runs: a
descriptor is filled with the next fragment, and reaped into the next packet.  So one counter
serves the three rings, and an index is that counter modulo the length of the ring, from where the
ring's counter started. -/

/-- The indices at which the counters of the two NetAdapterCx rings start. -/
structure RxOrigin where
  packetStart : Nat
  fragmentStart : Nat
  deriving DecidableEq, Repr

/-- **The queue `q` after `b` descriptors were reaped and `descs` were filled**, when `packets`
and `fragments` were posted. -/
structure RxQueueAt (o : RxOrigin) (packets : List NetPacket) (fragments : List NetFragment)
    (descs : List RxDescriptor) (b : Nat) (q : RxQueue) : Prop where
  packetsHeld : q.packetRing.Holds o.packetStart packets b
  fragmentsHeld : q.fragmentRing.Holds o.fragmentStart fragments b
  window : Window q.context.descCount 0 q.context.descVirtual descs b
  nextIndex_eq : q.fragmentRing.nextIndex
    = wrap q.fragmentRing.numberOfElements o.fragmentStart descs.length
  descBegin_eq : q.context.descBegin = wrap q.context.descCount 0 b
  descEnd_eq : q.context.descEnd = wrap q.context.descCount 0 descs.length
  tail_eq : q.context.rxDescTailPointer = q.context.descAddress q.context.descEnd
  filled_le : descs.length ≤ fragments.length
  fragmentIndex_eq : ∀ i (h : i < descs.length), descs[i].fragmentIndex
    = wrap q.fragmentRing.numberOfElements o.fragmentStart i

theorem RxQueueContext.and_descMask (context : RxQueueContext) (i : Nat) :
    i &&& context.descMask = i % context.descCount := by
  obtain ⟨k, -, hk⟩ := context.descCount_pow2
  exact and_mask hk i

/-- The descriptors from index `i` to index `j`. -/
def RxQueueContext.distance (context : RxQueueContext) (i j : Nat) : Nat :=
  sub32 j i &&& context.descMask

theorem RxQueueContext.distance_wrap (context : RxQueueContext) {i j : Nat} (hij : i ≤ j)
    (hlt : j < i + context.descCount) :
    context.distance (wrap context.descCount 0 i) (wrap context.descCount 0 j) = j - i := by
  obtain ⟨k, hk10, hk⟩ := context.descCount_pow2
  exact sub32_wrap hk (by omega) hij hlt

section Queue

variable {o : RxOrigin} {packets : List NetPacket} {fragments : List NetFragment}
  {descs : List RxDescriptor} {b : Nat} {q : RxQueue}

theorem RxQueueAt.reaped_le (h : RxQueueAt o packets fragments descs b q) : b ≤ descs.length :=
  h.window.lo_le

theorem RxQueueAt.filled_lt (h : RxQueueAt o packets fragments descs b q) :
    descs.length < b + q.context.descCount :=
  h.window.lt_lo_add

/-! ## 2. The first loop

The loop ends at a descriptor that the device still owns, at the sampled position, or where there
is no packet left.  Each round is one counter: what the descriptor says goes into the packet and
the fragment of that counter, and everything else stays.  As the counters of one turn are different
indices, what an earlier round wrote is not written again. -/

/-- **The invariant of the first loop**, when it has come from counter `b` to counter `t`: the
packets and fragments before `t` carry what was received, the others are as they were. -/
structure RxReapAt (o : RxOrigin) (packets : List NetPacket) (descs : List RxDescriptor)
    (b c : Nat) (q : RxQueue) (t : Nat) (s : RxReapState) : Prop where
  descIndex_eq : s.descIndex = wrap q.context.descCount 0 t
  pktIndex_eq : s.pktIndex = wrap q.packetRing.numberOfElements o.packetStart t
  fragIndex_eq : s.fragIndex = wrap q.fragmentRing.numberOfElements o.fragmentStart t
  reaped_le : b ≤ t
  le_next : t ≤ c
  le_packets : t ≤ packets.length
  released : ∀ i (h : i < descs.length), b ≤ i → i < t → descs[i].own = false
  packet_done : ∀ i (h : i < descs.length), b ≤ i → i < t →
    s.packets (wrap q.packetRing.numberOfElements o.packetStart i)
      = rxPacket descs[i] (wrap q.fragmentRing.numberOfElements o.fragmentStart i)
          (q.packetRing.buffer (wrap q.packetRing.numberOfElements o.packetStart i))
  packet_other : ∀ j,
    (∀ i, b ≤ i → i < t → j ≠ wrap q.packetRing.numberOfElements o.packetStart i) →
    s.packets j = q.packetRing.buffer j
  fragment_done : ∀ i (h : i < descs.length), b ≤ i → i < t →
    s.fragments (wrap q.fragmentRing.numberOfElements o.fragmentStart i)
      = rxFragment descs[i]
          (q.fragmentRing.buffer (wrap q.fragmentRing.numberOfElements o.fragmentStart i))
  fragment_other : ∀ j,
    (∀ i, b ≤ i → i < t → j ≠ wrap q.fragmentRing.numberOfElements o.fragmentStart i) →
    s.fragments j = q.fragmentRing.buffer j

/-- The packets from counter `t` on, less than one turn behind `b`, are as they were. -/
theorem RxReapAt.packet_rest {c t : Nat} {s : RxReapState}
    (hs : RxReapAt o packets descs b c q t s) {i : Nat} (hti : t ≤ i)
    (hi : i < b + q.packetRing.numberOfElements) :
    s.packets (wrap q.packetRing.numberOfElements o.packetStart i)
      = q.packetRing.buffer (wrap q.packetRing.numberOfElements o.packetStart i) :=
  hs.packet_other _ fun k _ _ => (wrap_ne (by omega) (by omega)).symm

/-- And so are the fragments. -/
theorem RxReapAt.fragment_rest {c t : Nat} {s : RxReapState}
    (hs : RxReapAt o packets descs b c q t s) {i : Nat} (hti : t ≤ i)
    (hi : i < b + q.fragmentRing.numberOfElements) :
    s.fragments (wrap q.fragmentRing.numberOfElements o.fragmentStart i)
      = q.fragmentRing.buffer (wrap q.fragmentRing.numberOfElements o.fragmentStart i) :=
  hs.fragment_other _ fun k _ _ => (wrap_ne (by omega) (by omega)).symm

theorem RxReapAt.start (h : RxQueueAt o packets fragments descs b q) {c : Nat} (hc : b ≤ c) :
    RxReapAt o packets descs b c q b ⟨q.context.descBegin, q.packetRing.beginIndex,
      q.fragmentRing.beginIndex, q.packetRing.buffer, q.fragmentRing.buffer⟩ :=
  ⟨h.descBegin_eq, h.packetsHeld.beginIndex_eq, h.fragmentsHeld.beginIndex_eq, Nat.le_refl _, hc,
    h.packetsHeld.lo_le, fun _ _ _ _ => by omega, fun _ _ _ _ => by omega, fun _ _ => rfl,
    fun _ _ _ _ => by omega, fun _ _ => rfl⟩

/-- **One packet is indicated.** The descriptor at the counter was handed back, so its four words
are what the device wrote; the packet and the fragment of the same counter take them. -/
theorem RxReapAt.step (h : RxQueueAt o packets fragments descs b q) {c t : Nat}
    (hc : c ≤ descs.length) {s : RxReapState} (hs : RxReapAt o packets descs b c q t s)
    (htc : t < c) (htp : t < packets.length)
    (hown : (q.context.descVirtual s.descIndex).own = false) :
    RxReapAt o packets descs b c q (t + 1) {
      descIndex := (s.descIndex + 1) &&& q.context.descMask
      pktIndex := netRingIncrementIndex q.packetRing s.pktIndex
      fragIndex := netRingIncrementIndex q.fragmentRing s.fragIndex
      packets := Function.update s.packets s.pktIndex
        (rxPacket (q.context.descVirtual s.descIndex) s.fragIndex (s.packets s.pktIndex))
      fragments := Function.update s.fragments s.fragIndex
        (rxFragment (q.context.descVirtual s.descIndex) (s.fragments s.fragIndex)) } := by
  have htd : t < descs.length := Nat.lt_of_lt_of_le htc hc
  have hbt := hs.reaped_le
  have hfilled := h.filled_le
  have hplt := h.packetsHeld.window.lt_lo_add
  have hflt := h.fragmentsHeld.window.lt_lo_add
  have hdesc : q.context.descVirtual s.descIndex = descs[t] := by
    rw [hs.descIndex_eq]
    exact h.window.holds t htd hbt
  rw [hdesc] at hown ⊢
  rw [hs.descIndex_eq, hs.pktIndex_eq, hs.fragIndex_eq, RxQueueContext.and_descMask, wrap_add_mod,
    netRingIncrementIndex_wrap, netRingIncrementIndex_wrap]
  refine ⟨rfl, rfl, rfl, Nat.le_succ_of_le hbt, htc, htp, ?_, ?_, ?_, ?_, ?_⟩
  · intro i hi hbi hit
    rcases Nat.lt_succ_iff_lt_or_eq.mp hit with hlt | rfl
    · exact hs.released i hi hbi hlt
    · exact hown
  · intro i hi hbi hit
    rcases Nat.lt_succ_iff_lt_or_eq.mp hit with hlt | rfl
    · exact (update_wrap_of_lt hlt (by omega) _).trans (hs.packet_done i hi hbi hlt)
    · refine (Function.update_self _ _ _).trans ?_
      rw [hs.packet_rest (Nat.le_refl _) (by omega)]
  · intro j hj
    exact (Function.update_of_ne (hj t hbt (Nat.lt_succ_self t)) _ _).trans
      (hs.packet_other j fun i hbi hit => hj i hbi (Nat.lt_succ_of_lt hit))
  · intro i hi hbi hit
    rcases Nat.lt_succ_iff_lt_or_eq.mp hit with hlt | rfl
    · exact (update_wrap_of_lt hlt (by omega) _).trans (hs.fragment_done i hi hbi hlt)
    · refine (Function.update_self _ _ _).trans ?_
      rw [hs.fragment_rest (Nat.le_refl _) (by omega)]
  · intro j hj
    exact (Function.update_of_ne (hj t hbt (Nat.lt_succ_self t)) _ _).trans
      (hs.fragment_other j fun i hbi hit => hj i hbi (Nat.lt_succ_of_lt hit))

/-- **The first loop indicates the descriptors from `b` up to some `t`**, none past the sampled
position `c`. -/
theorem rxReapDescs_spec (h : RxQueueAt o packets fragments descs b q) {c : Nat} (hbc : b ≤ c)
    (hc : c ≤ descs.length) :
    ∃ t, RxReapAt o packets descs b c q t (rxReapDescs (wrap q.context.descCount 0 c) q) := by
  have hlt := h.filled_lt
  refine (loop_spec (rxReapStep q (wrap q.context.descCount 0 c))
    (fun n s => ∃ t, RxReapAt o packets descs b c q t s ∧ t + n = c)
    (fun s => ∃ t, RxReapAt o packets descs b c q t s) ?_ q.context.descCount (c - b) _
    ⟨b, RxReapAt.start h hbc, by omega⟩ (by omega)).2
  rintro n s ⟨t, hs, htn⟩
  rw [rxReapStep]
  split
  · exact .inl ⟨rfl, t, hs⟩
  · rename_i hne
    have htc : t < c := by
      rcases Nat.eq_or_lt_of_le hs.le_next with rfl | hlt
      · exact absurd hs.descIndex_eq hne
      · exact hlt
    split
    · exact .inl ⟨rfl, t, hs⟩
    · rename_i hroom
      have htp : t < packets.length := by
        rcases Nat.eq_or_lt_of_le hs.le_packets with heq | hlt
        · exact absurd (.inl (by rw [hs.pktIndex_eq, h.packetsHeld.endIndex_eq, heq])) hroom
        · exact hlt
      split
      · exact .inl ⟨rfl, t, hs⟩
      · rename_i hown
        refine .inr ⟨_, n - 1, rfl, by omega, t + 1, ?_, by omega⟩
        exact hs.step h hc htc htp (by simpa using hown)

/-- **Indicating received packets.**  The descriptors from `b` to `t` were handed back; packet
and fragment `i` carry what descriptor `i` says; no other packet and no other fragment of the
rings is written. -/
structure RxReaped (o : RxOrigin) (descs : List RxDescriptor) (b t : Nat) (q q' : RxQueue) :
    Prop where
  context_eq : q'.context = { q.context with descBegin := wrap q.context.descCount 0 t }
  packetSize : q'.packetRing.numberOfElements = q.packetRing.numberOfElements
  fragmentSize : q'.fragmentRing.numberOfElements = q.fragmentRing.numberOfElements
  nextIndex_eq : q'.fragmentRing.nextIndex = q.fragmentRing.nextIndex
  released : ∀ i (h : i < descs.length), b ≤ i → i < t → descs[i].own = false
  packet_done : ∀ i (h : i < descs.length), b ≤ i → i < t →
    q'.packetRing.buffer (wrap q.packetRing.numberOfElements o.packetStart i)
      = rxPacket descs[i] (wrap q.fragmentRing.numberOfElements o.fragmentStart i)
          (q.packetRing.buffer (wrap q.packetRing.numberOfElements o.packetStart i))
  fragment_done : ∀ i (h : i < descs.length), b ≤ i → i < t →
    q'.fragmentRing.buffer (wrap q.fragmentRing.numberOfElements o.fragmentStart i)
      = rxFragment descs[i]
          (q.fragmentRing.buffer (wrap q.fragmentRing.numberOfElements o.fragmentStart i))
  packet_other : ∀ j,
    (∀ i, b ≤ i → i < t → j ≠ wrap q.packetRing.numberOfElements o.packetStart i) →
    q'.packetRing.buffer j = q.packetRing.buffer j
  fragment_other : ∀ j,
    (∀ i, b ≤ i → i < t → j ≠ wrap q.fragmentRing.numberOfElements o.fragmentStart i) →
    q'.fragmentRing.buffer j = q.fragmentRing.buffer j

theorem rxQueueReap_spec (h : RxQueueAt o packets fragments descs b q) {c : Nat} (hbc : b ≤ c)
    (hc : c ≤ descs.length) :
    ∃ t, b ≤ t ∧ t ≤ c ∧ RxReaped o descs b t q (rxQueueReap (wrap q.context.descCount 0 c) q)
      ∧ RxQueueAt o packets fragments descs t (rxQueueReap (wrap q.context.descCount 0 c) q) := by
  obtain ⟨t, hs⟩ := rxReapDescs_spec h hbc hc
  have hplt := h.packetsHeld.window.lt_lo_add
  have hflt := h.fragmentsHeld.window.lt_lo_add
  have hfilled := h.filled_le
  have hle := hs.le_next
  refine ⟨t, hs.reaped_le, hle, ⟨?_, rfl, rfl, rfl, hs.released, hs.packet_done,
    hs.fragment_done, hs.packet_other, hs.fragment_other⟩, ⟨?_, hs.pktIndex_eq, h.packetsHeld.endIndex_eq⟩,
    ⟨?_, hs.fragIndex_eq, h.fragmentsHeld.endIndex_eq⟩, ?_, h.nextIndex_eq, hs.descIndex_eq,
    h.descEnd_eq, h.tail_eq, hfilled, h.fragmentIndex_eq⟩
  · rw [← hs.descIndex_eq]
    rfl
  · exact h.packetsHeld.window.of_agree hs.reaped_le hs.le_packets
      fun i hti hi => hs.packet_rest hti (by omega)
  · exact h.fragmentsHeld.window.of_agree hs.reaped_le (by omega)
      fun i hti hi => hs.fragment_rest hti (by omega)
  · exact h.window.advance hs.reaped_le (Nat.le_trans hle hc)

/-! ## 3. The second loop

The loop fills descriptors with the fragments behind `NextIndex`, up to one hole in front of
`descBegin`.  It starts where the filled ones end, and what it writes is behind them in the log; so
the descriptors that the device is using are not touched. -/

/-- **The invariant of the second loop**: the descriptors from `descs.length` on are filled with
the fragments of the same counters. -/
structure RxFillAt (o : RxOrigin) (fragments : List NetFragment) (descs : List RxDescriptor)
    (b : Nat) (q : RxQueue) (log : List RxDescriptor) (s : RxFillState) : Prop where
  descIndex_eq : s.descIndex = wrap q.context.descCount 0 log.length
  fragIndex_eq : s.fragIndex
    = wrap q.fragmentRing.numberOfElements o.fragmentStart log.length
  window : Window q.context.descCount 0 s.descVirtual log b
  prefix_eq : descs <+: log
  le_fragments : log.length ≤ fragments.length
  filled : ∀ i (h : i < log.length), descs.length ≤ i → ∃ hf : i < fragments.length,
    log[i] = rxDescriptorRead fragments[i].logicalAddress
      (wrap q.fragmentRing.numberOfElements o.fragmentStart i)
  rest : ∀ j, (∀ i, descs.length ≤ i → i < log.length → j ≠ wrap q.context.descCount 0 i) →
    s.descVirtual j = q.context.descVirtual j

theorem RxQueueAt.descFull_eq (h : RxQueueAt o packets fragments descs b q) :
    q.context.descFull = wrap q.context.descCount 0 (b + q.context.descCount - 1) := by
  obtain ⟨k, hk10, hk⟩ := q.context.descCount_pow2
  have hpos := h.window.pos
  have hdvd : q.context.descCount ∣ 2 ^ 32 := hk ▸ Nat.pow_dvd_pow 2 (by omega)
  rw [RxQueueContext.descFull, RxQueueContext.and_descMask, h.descBegin_eq]
  refine sub32_mod_eq hdvd (by norm_num) (wrap_lt hpos _ _) ?_
  rw [Nat.add_comm, wrap_add_mod, wrap, wrap, Nat.mod_mod]
  have hsum : 0 + (b + q.context.descCount - 1 + 1) = 0 + b + q.context.descCount := by omega
  rw [hsum, Nat.add_mod_right]

/-- **One descriptor is filled.** -/
theorem RxFillAt.step (h : RxQueueAt o packets fragments descs b q) {log : List RxDescriptor}
    {s : RxFillState} (hs : RxFillAt o fragments descs b q log s)
    (hfull : s.descIndex ≠ q.context.descFull) (hend : s.fragIndex ≠ q.fragmentRing.endIndex) :
    ∃ d, RxFillAt o fragments descs b q (log ++ [d]) {
      descIndex := (s.descIndex + 1) &&& q.context.descMask
      fragIndex := netRingIncrementIndex q.fragmentRing s.fragIndex
      descVirtual := Function.update s.descVirtual s.descIndex
        (rxDescriptorRead (q.fragmentRing.buffer s.fragIndex).logicalAddress s.fragIndex) } := by
  have hbl := hs.window.lo_le
  have hlt := hs.window.lt_lo_add
  have hlen : log.length < fragments.length := by
    rcases Nat.eq_or_lt_of_le hs.le_fragments with heq | hlt
    · exact absurd (by rw [hs.fragIndex_eq, h.fragmentsHeld.endIndex_eq, heq]) hend
    · exact hlt
  have hroom : log.length + 1 < b + q.context.descCount := by
    rcases Nat.lt_or_ge (log.length + 1) (b + q.context.descCount) with hlt' | hge
    · exact hlt'
    · rw [hs.descIndex_eq, h.descFull_eq] at hfull
      exact absurd (by congr 1; omega) hfull
  have hfrag : q.fragmentRing.buffer
      (wrap q.fragmentRing.numberOfElements o.fragmentStart log.length) = fragments[log.length] :=
    h.fragmentsHeld.buffer_eq hlen hbl
  rw [hs.descIndex_eq, hs.fragIndex_eq, RxQueueContext.and_descMask, wrap_add_mod,
    netRingIncrementIndex_wrap, hfrag]
  refine ⟨_, ?_, ?_, hs.window.push hroom _, hs.prefix_eq.trans (List.prefix_append _ _), ?_, ?_,
    ?_⟩
  · rw [List.length_append, List.length_singleton]
  · rw [List.length_append, List.length_singleton]
  · rw [List.length_append, List.length_singleton]
    exact hlen
  · intro i hi hdi
    rw [List.length_append, List.length_singleton] at hi
    rcases Nat.lt_or_ge i log.length with hil | hil
    · rw [List.getElem_append_left hil]
      exact hs.filled i hil hdi
    · obtain rfl : i = log.length := by omega
      refine ⟨hlen, ?_⟩
      simp
  · intro j hj
    rw [List.length_append, List.length_singleton] at hj
    have hne := hj log.length hs.prefix_eq.length_le (Nat.lt_succ_self _)
    exact (Function.update_of_ne hne _ _).trans
      (hs.rest j fun i hdi hi => hj i hdi (Nat.lt_succ_of_lt hi))

/-- **The second loop fills descriptors with the next fragments.** -/
theorem rxFillDescs_spec (h : RxQueueAt o packets fragments descs b q) :
    ∃ log, RxFillAt o fragments descs b q log (rxFillDescs q) := by
  have hpos := h.window.pos
  have hlo := h.reaped_le
  refine (loop_spec (rxFillStep q)
    (fun n s => ∃ log, RxFillAt o fragments descs b q log s
      ∧ log.length + n = b + q.context.descCount - 1)
    (fun s => ∃ log, RxFillAt o fragments descs b q log s) ?_ q.context.descCount
    (b + q.context.descCount - 1 - descs.length) _ ⟨descs, ?_, ?_⟩ (by omega)).2
  · rintro n s ⟨log, hs, hn⟩
    have hlt := hs.window.lt_lo_add
    rw [rxFillStep]
    split
    · exact .inl ⟨rfl, log, hs⟩
    · rename_i hfull
      split
      · exact .inl ⟨rfl, log, hs⟩
      · rename_i hend
        obtain ⟨d, hs'⟩ := hs.step h hfull hend
        have hlt' := hs'.window.lt_lo_add
        rw [List.length_append, List.length_singleton] at hlt'
        refine .inr ⟨_, n - 1, rfl, by omega, _, hs', ?_⟩
        rw [List.length_append, List.length_singleton]
        omega
  · exact ⟨h.descEnd_eq, h.nextIndex_eq, h.window, List.prefix_refl _, h.filled_le,
      fun i hi hdi => absurd hi (by omega), fun _ _ => rfl⟩
  · have := h.filled_lt
    omega

/-- The descriptors in use keep their content when the log grows. -/
theorem RxFillAt.desc_eq (h : RxQueueAt o packets fragments descs b q) {log : List RxDescriptor}
    {s : RxFillState} (hs : RxFillAt o fragments descs b q log s) {i : Nat} (hbi : b ≤ i)
    (hi : i < descs.length) :
    s.descVirtual (wrap q.context.descCount 0 i)
      = q.context.descVirtual (wrap q.context.descCount 0 i) := by
  have hlen := hs.prefix_eq.length_le
  rw [hs.window.holds i (by omega) hbi, h.window.holds i hi hbi]
  exact (hs.prefix_eq.getElem hi).symm

/-- What is filled says which fragment it was filled with. -/
theorem RxFillAt.fragmentIndex_eq (h : RxQueueAt o packets fragments descs b q)
    {log : List RxDescriptor} {s : RxFillState} (hs : RxFillAt o fragments descs b q log s) :
    ∀ i (hi : i < log.length), log[i].fragmentIndex
      = wrap q.fragmentRing.numberOfElements o.fragmentStart i := by
  intro i hi
  rcases Nat.lt_or_ge i descs.length with hlt | hge
  · rw [← hs.prefix_eq.getElem hlt]
    exact h.fragmentIndex_eq i hlt
  · obtain ⟨hf, heq⟩ := hs.filled i hi hge
    rw [heq]
    rfl

/-- **When the loop ends at the sampled position, it filled nothing.** `c` is the counter of that
position.  The position lies in the part of the ring that was filled before, and the loop only goes
away from there, less than one turn. -/
theorem RxFillAt.eq_of_descIndex_eq
    {log : List RxDescriptor} {s : RxFillState} (hs : RxFillAt o fragments descs b q log s)
    {c : Nat} (hbc : b ≤ c) (hc : c ≤ descs.length)
    (heq : s.descIndex = wrap q.context.descCount 0 c) : log = descs := by
  have hlen := hs.prefix_eq.length_le
  have hlt := hs.window.lt_lo_add
  have hcount : c = log.length :=
    wrap_inj (Nat.le_trans hc hlen) (by omega) (heq.symm.trans hs.descIndex_eq)
  exact (hs.prefix_eq.eq_of_length (by omega)).symm

/-- **Filling descriptors.**  The log of filled descriptors grows by those that got a fragment;
the descriptors in use, and everything the driver shares with NetAdapterCx except `NextIndex`,
stay as they are. -/
structure RxFilled (o : RxOrigin) (fragments : List NetFragment) (descs log : List RxDescriptor)
    (b : Nat) (q q' : RxQueue) : Prop where
  prefix_eq : descs <+: log
  filled : ∀ i (h : i < log.length), descs.length ≤ i → ∃ hf : i < fragments.length,
    log[i] = rxDescriptorRead fragments[i].logicalAddress
      (wrap q.fragmentRing.numberOfElements o.fragmentStart i)
  descCount_eq : q'.context.descCount = q.context.descCount
  running_eq : q'.context.running = q.context.running
  descBegin_eq : q'.context.descBegin = q.context.descBegin
  packetRing_eq : q'.packetRing = q.packetRing
  fragmentSize : q'.fragmentRing.numberOfElements = q.fragmentRing.numberOfElements
  fragmentBegin : q'.fragmentRing.beginIndex = q.fragmentRing.beginIndex
  fragmentBuffer : q'.fragmentRing.buffer = q.fragmentRing.buffer
  desc_eq : ∀ i, b ≤ i → i < descs.length →
    q'.context.descVirtual (wrap q.context.descCount 0 i)
      = q.context.descVirtual (wrap q.context.descCount 0 i)
  rest : ∀ j, (∀ i, descs.length ≤ i → i < log.length → j ≠ wrap q.context.descCount 0 i) →
    q'.context.descVirtual j = q.context.descVirtual j

theorem rxQueueFill_of_ne {descNext : Nat} (hne : (rxFillDescs q).descIndex ≠ descNext) :
    rxQueueFill descNext q = { q with
      context := rxSetDescEnd { q.context with descVirtual := (rxFillDescs q).descVirtual }
        (rxFillDescs q).descIndex
      fragmentRing := { q.fragmentRing with nextIndex := (rxFillDescs q).fragIndex } } :=
  if_pos hne

theorem rxQueueFill_of_eq {descNext : Nat} (heq : (rxFillDescs q).descIndex = descNext) :
    rxQueueFill descNext q = { q with
      context := { q.context with descVirtual := (rxFillDescs q).descVirtual } } :=
  if_neg (not_not_intro heq)

theorem rxQueueFill_spec (h : RxQueueAt o packets fragments descs b q) {c : Nat} (hbc : b ≤ c)
    (hc : c ≤ descs.length) :
    ∃ log, RxFilled o fragments descs log b q (rxQueueFill (wrap q.context.descCount 0 c) q)
      ∧ RxQueueAt o packets fragments log b (rxQueueFill (wrap q.context.descCount 0 c) q)
      ∧ ((rxFillDescs q).descIndex = wrap q.context.descCount 0 c → log = descs) := by
  obtain ⟨log, hs⟩ := rxFillDescs_spec h
  refine ⟨log, ?_⟩
  by_cases heq : (rxFillDescs q).descIndex = wrap q.context.descCount 0 c
  · obtain rfl := hs.eq_of_descIndex_eq hbc hc heq
    rw [rxQueueFill_of_eq heq]
    exact ⟨⟨hs.prefix_eq, hs.filled, rfl, rfl, rfl, rfl, rfl, rfl, rfl,
      fun i hbi hi => hs.desc_eq h hbi hi, hs.rest⟩, ⟨h.packetsHeld, h.fragmentsHeld, hs.window,
      h.nextIndex_eq, h.descBegin_eq, h.descEnd_eq, h.tail_eq, h.filled_le, h.fragmentIndex_eq⟩,
      fun _ => rfl⟩
  · rw [rxQueueFill_of_ne heq]
    refine ⟨⟨hs.prefix_eq, hs.filled, rfl, rfl, rfl, rfl, rfl, rfl, rfl,
      fun i hbi hi => hs.desc_eq h hbi hi, hs.rest⟩, ⟨h.packetsHeld, ?_, hs.window,
      hs.fragIndex_eq, h.descBegin_eq, hs.descIndex_eq, rfl, hs.le_fragments,
      hs.fragmentIndex_eq h⟩, fun heq' => absurd heq' heq⟩
    exact ⟨h.fragmentsHeld.window, h.fragmentsHeld.beginIndex_eq, h.fragmentsHeld.endIndex_eq⟩

end Queue

end WoaRk3576.Net
