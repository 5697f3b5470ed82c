/-
# `TxQueueCancel`, and what it leaves to a stopped device

`TxQueueCancel` clears `Tx_Control.Start`, waits for the packet in progress, and then returns
everything to NetAdapterCx.  When the wait ends in time it calls `TxQueueAdvance` for "any packets
to be reported as sent"; when it does not, it flushes the MTL queue and sets `descBegin` and
`descEnd` to 0.  Both ways it then asserts that no descriptor is in flight.

The assertion is right for a queue whose descriptors were all released and that has nothing left to
fill (`CancelReady`), and for no other (`txQueueCancel_safe_iff`):

* the DMA engine stops after the packet in progress, so descriptors behind it stay owned, and the
  packets they refer to are returned all the same;
* `TxQueueAdvance` also fills: a packet that was posted and not queued yet is handed to the device
  after it was stopped, and returned in the next statement.

A descriptor in flight has `Own` set if and only if it was not released (`TxQueueAt.own_iff`), so
that what the device owns after the call can be read off the counts of the run.  Where the wait was
in time, the question is when `TxQueueAdvance` leaves the ring empty: it reaps everything if
everything was released, and then fills nothing exactly if no packet that an empty ring takes is
waiting (`fillStep_empty`: while nothing was written, the loop ends, or passes an ignored packet,
or writes one that fits).  Where it was not, descriptors are dropped from the ring with `Own` set
as soon as one of them was not released.
-/
import WoaRk3576.Lib.Polling
import WoaRk3576.Net.TxRun

namespace WoaRk3576.Net

open WoaRk3576.Lib

/-! ## 1. The wait

The wait polls a debug register of the device up to a hundred times.  What it reads is any sequence
of values; the function returns how many of them it used, since that is what the driver looks at. -/

/-- `MtlTxReadStatus_t`. -/
inductive MtlTxReadStatus
  | idle | read | waiting | flushing
  deriving DecidableEq, Repr

/-- `MtlTxDebug_t`, as far as the wait reads it. -/
structure MtlTxDebug where
  readStatus : MtlTxReadStatus
  notEmpty : Bool
  deriving DecidableEq, Repr

/-- No packet is in progress. -/
def MtlTxDebug.sent (debug : MtlTxDebug) : Bool :=
  debug.readStatus != .read && !debug.notEmpty

/-- `MaxRetry`. -/
def cancelMaxRetry : Nat := 100

/-- One iteration of the wait: `debug i` is what the `i`-th read of `Tx_Debug` gives. -/
def cancelWaitStep (debug : Nat → MtlTxDebug) (retry : Nat) : Option Nat :=
  if retry = cancelMaxRetry then none
  else if (debug retry).sent then none
  else some (retry + 1)

/-- `retry` after the wait. -/
def cancelWait (debug : Nat → MtlTxDebug) : Nat :=
  loop (cancelWaitStep debug) cancelMaxRetry 0

/-! ## 2. `TxQueueCancel`

If the wait ended in time, the driver calls `TxQueueAdvance` to reap what was sent, and asserts
that nothing is left.  If not, it gives everything back as it is.  `TxCancelSafe` is what the two
branches are for: no descriptor in flight, none handed to a device that is about to be stopped, and
none given back that the device still owns. -/

/-- `TxQueueCancel` from the end of the wait on.  The flush of the MTL queue changes nothing
that the driver shares with the DMA engine. -/
def txQueueCancel (debug : Nat → MtlTxDebug) (q : TxQueue) : TxQueue :=
  if q.packetRing.beginIndex = q.packetRing.endIndex then q
  else
    let q' :=
      if cancelWait debug ≠ cancelMaxRetry then txQueueAdvance q
      else { q with context := { q.context with descBegin := 0, descEnd := 0 } }
    { q' with
      packetRing := { q'.packetRing with beginIndex := q'.packetRing.endIndex }
      fragmentRing := { q'.fragmentRing with beginIndex := q'.fragmentRing.endIndex } }

/-- The fragment a descriptor was written for. -/
def TxDescriptor.fragmentIndex : TxDescriptor → Nat
  | .read d => d.fragmentIndex
  | .readTso d => d.fragmentIndex
  | .context d => d.fragmentIndex

/-- The element `index` is the driver's: it lies between `BeginIndex` and `EndIndex`. -/
def NetRing.Outstanding {α : Type} (r : NetRing α) (index : Nat) : Prop :=
  ∃ k < r.distance r.beginIndex r.endIndex, index = netRingAdvanceIndex r r.beginIndex k

/-- **The device still owns the descriptor `index`**: it comes, from the one the DMA engine hands
back next, before the tail pointer, and has `Own` set. -/
def TxQueue.DeviceOwns (q : TxQueue) (dma : TxDma) (index : Nat) : Prop :=
  (∃ k, index = (dma.current + k) &&& q.context.descMask
      ∧ ∀ m ≤ k, q.context.descPhysical
          + ((dma.current + m) &&& q.context.descMask) * queueDescriptorSize
        ≠ q.context.txDescTailPointer)
    ∧ (q.context.descVirtual index).own = true

/-- **What a call of `TxQueueCancel` may leave behind.** -/
structure TxCancelSafe (dma : TxDma) (q q' : TxQueue) : Prop where
  drained : q'.context.descBegin = q'.context.descEnd
  /-- Nothing new was handed to the device. -/
  none_handed : q'.context.descVirtual = q.context.descVirtual
    ∧ q'.context.txDescTailPointer = q.context.txDescTailPointer
  /-- What the device owns was not returned. -/
  owned_kept : ∀ index, q'.DeviceOwns dma index →
    q'.packetRing.Outstanding (q'.context.descVirtual index).packetIndex
      ∧ q'.fragmentRing.Outstanding (q'.context.descVirtual index).fragmentIndex

/-- Every descriptor in `[descBegin, descEnd)` was handed back. -/
def TxQueueContext.AllReleased (context : TxQueueContext) : Prop :=
  ∀ k < context.distance context.descBegin context.descEnd,
    (context.descVirtual ((context.descBegin + k) &&& context.descMask)).own = false

instance (context : TxQueueContext) : Decidable context.AllReleased :=
  inferInstanceAs (Decidable (∀ k < _, _))

/-- The packet `n` elements behind `NextIndex`. -/
def TxQueue.waiting (q : TxQueue) (n : Nat) : NetPacket :=
  q.packetRing.buffer (netRingAdvanceIndex q.packetRing q.packetRing.nextIndex n)

/-- **A packet is waiting that an empty descriptor ring takes**: the first one between
`NextIndex` and `EndIndex` that is not ignored. -/
def TxQueue.WaitingFits (q : TxQueue) : Prop :=
  ∃ n < q.packetRing.distance q.packetRing.nextIndex q.packetRing.endIndex,
    (∀ m < n, (q.waiting m).ignore = true) ∧ (q.waiting n).ignore = false
      ∧ descriptorsNeeded q.context.vlanId q.context.toTxLast (q.waiting n)
          (packetFragments q.fragmentRing (q.waiting n).fragmentCount
            (q.waiting n).fragmentIndex)
        ≤ q.context.descCount - 1

instance (q : TxQueue) : Decidable q.WaitingFits :=
  inferInstanceAs (Decidable (∃ n < _, (∀ m < n, _) ∧ _ ∧ _))

/-- **The condition**: nothing is in the queue; or all descriptors were handed back and, when
`TxQueueAdvance` is called, it finds nothing to fill. -/
def CancelReady (debug : Nat → MtlTxDebug) (q : TxQueue) : Prop :=
  q.packetRing.beginIndex = q.packetRing.endIndex
    ∨ q.context.AllReleased ∧ (cancelWait debug = cancelMaxRetry ∨ ¬ q.WaitingFits)

instance (debug : Nat → MtlTxDebug) (q : TxQueue) : Decidable (CancelReady debug q) :=
  inferInstanceAs (Decidable (_ ∨ _ ∧ (_ ∨ _)))

theorem NetRing.distance_self {α : Type} (r : NetRing α) (i : Nat) : r.distance i i = 0 := by
  have hsub : sub32 i i = 0 := by
    rw [sub32, Nat.add_sub_cancel_left, Nat.mod_self]
  rw [NetRing.distance, hsub, Nat.zero_and]

/-- In an empty ring nothing is the driver's. -/
theorem NetRing.not_outstanding {α : Type} {r : NetRing α} (h : r.beginIndex = r.endIndex)
    (index : Nat) : ¬ r.Outstanding index := by
  rintro ⟨k, hk, -⟩
  rw [h, r.distance_self] at hk
  exact Nat.not_lt_zero k hk

/-! ## 3. What is owned

A descriptor in flight has its `Own` bit until the device releases it, so what the device owns is
counted: the positions from the released ones to the queued ones. -/

section Queue

variable {o : TxOrigin} {posted : List Posting} {p : TxPositions} {q : TxQueue}

/-- Descriptors are written with `Own` set. -/
theorem TxQueueAt.own_descs (h : TxQueueAt o posted p q) :
    ∀ d ∈ ((q.context.chains posted).take p.queued).flatten, d.own = true := by
  intro d hd
  obtain ⟨ds, hds, hmem⟩ := List.mem_flatten.mp hd
  obtain ⟨i, hic, rfl⟩ := List.getElem_of_mem (List.mem_of_mem_take hds)
  have hi : i < posted.length := by
    rwa [TxQueueContext.chains, length_chains] at hic
  cases hig : posted[i].packet.ignore with
  | true =>
    have hempty : (q.context.chains posted)[i] = [] := chains_getElem_ignored hi hic hig
    rw [hempty] at hmem
    exact absurd hmem List.not_mem_nil
  | false => exact (h.chain hi hic hig).own d hmem

/-- **A descriptor in flight has `Own` set if and only if it was not released.** -/
theorem TxQueueAt.own_iff (h : TxQueueAt o posted p q) {t : Nat} (hpt : p.reaped ≤ t)
    (ht : t < offset (q.context.chains posted) p.queued) :
    (q.context.descVirtual (wrap q.context.descCount 0 t)).own = true ↔ p.released ≤ t := by
  have hlen : t < ((q.context.chains posted).take p.queued).flatten.length := ht
  rw [h.desc_eq (by rwa [length_markReleased]) hpt]
  rcases Nat.lt_or_ge t p.released with hlt | hge
  · rw [markReleased_getElem_lt _ hlen hlt, TxDescriptor.own_release]
    simp
    omega
  · rw [markReleased_getElem_ge _ hlen hge]
    simp only [h.own_descs _ (List.getElem_mem hlen), hge]

theorem TxQueueAt.allReleased_iff (h : TxQueueAt o posted p q) :
    q.context.AllReleased ↔ p.released = offset (q.context.chains posted) p.queued := by
  have htotal := h.lt_reaped_add
  have hreap := h.reaped_le
  have hrel := h.released_le
  have hindex : ∀ k, (q.context.descBegin + k) &&& q.context.descMask
      = wrap q.context.descCount 0 (p.reaped + k) := by
    intro k
    rw [h.descBegin_eq, TxQueueContext.and_descMask, wrap_add_mod]
  unfold TxQueueContext.AllReleased
  rw [h.distance_descs]
  constructor
  · intro hall
    by_contra hne
    have hown := hall (p.released - p.reaped) (by omega)
    rw [hindex, Nat.add_sub_cancel' hreap] at hown
    rw [(h.own_iff hreap (by omega)).mpr (Nat.le_refl _)] at hown
    exact absurd hown (by decide)
  · intro heq k hk
    rw [hindex]
    refine Bool.eq_false_iff.mpr fun hown => ?_
    have hge := (h.own_iff (Nat.le_add_right _ k) (by omega)).mp hown
    omega

/-- Nothing is in the packet ring, so nothing is in flight. -/
theorem TxQueueAt.released_of_empty (h : TxQueueAt o posted p q)
    (hempty : q.packetRing.beginIndex = q.packetRing.endIndex) :
    p.reaped = p.released ∧ p.released = offset (q.context.chains posted) p.queued := by
  rw [h.beginIndex_eq, h.endIndex_eq] at hempty
  have hpq := h.passed_le
  have hql := h.queued_le
  have hpassed := (h.packet_wrap_eq_iff (Nat.le_refl _) (Nat.le_trans hpq hql)
    (Nat.le_refl _)).mp hempty
  have hqueued : p.queued = p.passed := by omega
  have hge := h.reaped_ge
  have hreap := h.reaped_le
  have hrel := h.released_le
  rw [hqueued] at hrel ⊢
  omega

/-- The packets between `NextIndex` and `EndIndex` are those posted and not queued. -/
theorem TxQueueAt.waiting_eq (h : TxQueueAt o posted p q) {n : Nat}
    (hn : p.queued + n < posted.length) : q.waiting n = posted[p.queued + n].packet := by
  have hadv := netRingAdvanceIndex_wrap q.packetRing o.packetStart p.queued n
  rw [h.packetSize] at hadv
  rw [TxQueue.waiting, h.nextIndex_eq, hadv]
  exact h.packet_eq hn (Nat.le_trans h.passed_le (Nat.le_add_right _ _))

theorem TxQueueAt.waitingFits_iff (h : TxQueueAt o posted p q) :
    q.WaitingFits ↔ ∃ j, ∃ hj : j < posted.length, p.queued ≤ j
      ∧ (∀ k (hk : k < posted.length), p.queued ≤ k → k < j → posted[k].packet.ignore = true)
      ∧ posted[j].packet.ignore = false
      ∧ descriptorsNeeded q.context.vlanId q.context.toTxLast posted[j].packet
          posted[j].fragments ≤ q.context.descCount - 1 := by
  have hpq := h.passed_le
  have hql := h.queued_le
  unfold TxQueue.WaitingFits
  rw [h.distance_new]
  constructor
  · rintro ⟨n, hn, hskip, hig, hfits⟩
    have hj : p.queued + n < posted.length := by omega
    rw [h.waiting_eq hj] at hig hfits
    rw [h.packetFragments_eq hj (by omega) hig] at hfits
    refine ⟨p.queued + n, hj, Nat.le_add_right _ _, fun k hk hqk hkj => ?_, hig, hfits⟩
    obtain ⟨m, rfl⟩ := Nat.exists_eq_add_of_le hqk
    rw [← h.waiting_eq hk]
    exact hskip m (by omega)
  · rintro ⟨j, hj, hqj, hskip, hig, hfits⟩
    obtain ⟨n, rfl⟩ := Nat.exists_eq_add_of_le hqj
    refine ⟨n, by omega, fun m hm => ?_, ?_, ?_⟩
    · rw [h.waiting_eq (by omega)]
      exact hskip _ (by omega) (Nat.le_add_right _ _) (by omega)
    · rw [h.waiting_eq hj]
      exact hig
    · rw [h.waiting_eq hj, h.packetFragments_eq hj (by omega) hig]
      exact hfits

/-! ## 4. Filling an empty ring

`TxQueueAdvance` reaps and then fills.  With everything released, reaping empties the ring, and
whether the call leaves it empty depends on what is waiting: packets to ignore are passed over
without effect, and the first other one is written, unless it does not fit an empty ring. -/

/-- **The filling loop, while it has written nothing into an empty ring**: it ends, and then no
packet that fits is waiting; or it passes over an ignored packet; or it writes one that fits. -/
theorem fillStep_empty (h : TxQueueAt o posted p q)
    (hempty : p.reaped = offset (q.context.chains posted) p.queued) {j : Nat} {s : FillState}
    (hs : FillAt o posted p q j s)
    (hoff : offset (q.context.chains posted) j = offset (q.context.chains posted) p.queued) :
    (fillStep q.packetRing q.fragmentRing q.context.descBegin s = none ∧ ¬ q.WaitingFits)
      ∨ (∃ hj : j < posted.length, posted[j].packet.ignore = true
        ∧ fillStep q.packetRing q.fragmentRing q.context.descBegin s
          = some { s with pktIndex := netRingIncrementIndex q.packetRing s.pktIndex })
      ∨ q.WaitingFits ∧ fillStep q.packetRing q.fragmentRing q.context.descBegin s ≠ none := by
  have hskip := h.ignored_of_offset_eq hoff
  have hpj := Nat.le_trans h.passed_le hs.queued_le
  have hlast : s.context.toTxLast = q.context.toTxLast := by
    rw [hs.context_eq, h.last_eq]
    exact lastAfter_ignored hs.queued_le hs.le_length hskip
  have hvlan : s.context.vlanId = q.context.vlanId := by rw [hs.context_eq]
  have hroom : emptyDescRemaining s.context q.context.descBegin s.descIndex
      = q.context.descCount - 1 := by
    rw [hs.emptyDescRemaining_eq h, hoff, hempty, Nat.sub_self, Nat.sub_zero]
  have hend := h.endIndex_eq
  -- the first packet waiting that is not ignored is the one at `j`
  have hfirst : ∀ i (hi : i < posted.length), p.queued ≤ i →
      (∀ k (hk : k < posted.length), p.queued ≤ k → k < i → posted[k].packet.ignore = true) →
      posted[i].packet.ignore = false → j ≤ i := by
    intro i hi hqi _ hig
    refine Nat.le_of_not_lt fun hij => ?_
    rw [hskip i hi hqi hij] at hig
    exact absurd hig (by decide)
  rw [fillStep, hroom]
  by_cases hfull : q.context.descCount - 1 = 0
  · left
    rw [if_pos hfull]
    refine ⟨rfl, fun hfits => ?_⟩
    obtain ⟨i, hi, -, -, hig, hneeded⟩ := h.waitingFits_iff.mp hfits
    have hfit := (h.wellPosted i hi).fits hig
    have hlen := @packetDescs_length_le q.context.vlanId posted[i].pktIndex q.context.toTxLast
      _ _ hfit
    have hchain := @packetDescs_chain q.context.vlanId posted[i].pktIndex q.context.toTxLast
      _ _ hfit
    have hpos := List.length_pos_iff.mpr hchain.endsAtLast.ne_nil
    omega
  · rw [if_neg hfull]
    by_cases hlast' : s.pktIndex = q.packetRing.endIndex
    · left
      rw [if_pos hlast']
      refine ⟨rfl, fun hfits => ?_⟩
      obtain ⟨i, hi, hqi, hall, hig, -⟩ := h.waitingFits_iff.mp hfits
      have hji := hfirst i hi hqi hall hig
      rw [hs.pktIndex_eq, hend] at hlast'
      have hjl := (h.packet_wrap_eq_iff hpj hs.le_length (Nat.le_refl _)).mp hlast'
      omega
    · have hj : j < posted.length := by
        refine Nat.lt_of_le_of_ne hs.le_length fun heq => hlast' ?_
        rw [hs.pktIndex_eq, hend, heq]
      rw [if_neg hlast', hs.pktIndex_eq, h.packet_eq hj hpj]
      cases hig : posted[j].packet.ignore with
      | true =>
        right
        left
        exact ⟨hj, hig, by rw [if_pos rfl]⟩
      | false =>
        rw [if_neg (by simp), fillPacket, h.packetFragments_eq hj hpj hig, hvlan, hlast, hroom]
        dsimp only
        split
        · rename_i hbig
          left
          refine ⟨rfl, fun hfits => ?_⟩
          obtain ⟨i, hi, hqi, hall, hig', hneeded⟩ := h.waitingFits_iff.mp hfits
          have hji := hfirst i hi hqi hall hig'
          have hij : i = j := by
            refine Nat.le_antisymm (Nat.le_of_not_lt fun hlt => ?_) hji
            rw [hall j hj hs.queued_le hlt] at hig
            exact absurd hig (by decide)
          subst hij
          omega
        · rename_i hsmall
          right
          right
          exact ⟨h.waitingFits_iff.mpr ⟨j, hj, hs.queued_le, hskip, hig, by omega⟩, by simp⟩

/-- **Nothing that fits is waiting: filling leaves the queue as it is.** -/
theorem txQueueFill_idle (h : TxQueueAt o posted p q)
    (hempty : p.reaped = offset (q.context.chains posted) p.queued) (hfits : ¬ q.WaitingFits) :
    txQueueFill q = q := by
  have hlen := h.posted_lt
  have hpassed := h.passed_le
  have hqueued := h.queued_le
  obtain ⟨-, hcontext, hindex⟩ := loop_spec
    (fillStep q.packetRing q.fragmentRing q.context.descBegin)
    (fun n s => ∃ j, FillAt o posted p q j s ∧ s.context = q.context
      ∧ offset (q.context.chains posted) j = offset (q.context.chains posted) p.queued
      ∧ j + n = posted.length)
    (fun s => s.context = q.context ∧ s.descIndex = q.context.descEnd)
    (by
      rintro n s ⟨j, hs, hcontext, hoff, hn⟩
      rcases fillStep_empty h hempty hs hoff with ⟨hnone, -⟩ | ⟨hj, hig, hsome⟩ | ⟨hfits', -⟩
      · refine .inl ⟨hnone, hcontext, ?_⟩
        rw [hs.descIndex_eq, hoff, h.descEnd_eq]
      · refine .inr ⟨_, n - 1, hsome, by omega, j + 1, hs.ignored h hj hig, hcontext, ?_,
          by omega⟩
        rw [← hoff]
        refine offset_chains_ignored (Nat.le_succ j) hj fun k hk hjk hkj => ?_
        obtain rfl : k = j := by omega
        exact hig
      · exact absurd hfits' hfits)
    q.packetRing.numberOfElements (posted.length - p.queued)
    ⟨q.context, q.context.descEnd, q.packetRing.nextIndex⟩
    ⟨p.queued, .start h, rfl, rfl, by omega⟩ (by rw [h.packetSize]; omega)
  unfold txQueueFill fillDescs
  dsimp only
  rw [if_neg (not_not.mpr hindex), hcontext]

/-- **Filling leaves an empty ring empty only when nothing that fits is waiting.** -/
theorem not_waitingFits_of_descEnd_eq (h : TxQueueAt o posted p q)
    (hempty : p.reaped = offset (q.context.chains posted) p.queued)
    (heq : (txQueueFill q).context.descEnd = q.context.descEnd) : ¬ q.WaitingFits := by
  obtain ⟨hnone, j, hs, hqj⟩ := fillDescs_spec h (.start h)
  have hmono := offset_mono (q.context.chains posted) hqj
  have hlt := hs.lt_reaped_add
  have hindex : (txQueueFill q).context.descEnd = (fillDescs q.packetRing q.fragmentRing
      q.context.descBegin ⟨q.context, q.context.descEnd, q.packetRing.nextIndex⟩).descIndex := by
    unfold txQueueFill
    dsimp only
    split
    · rfl
    · rename_i hidx
      rw [not_not.mp hidx, hs.context_eq]
  rw [hindex, hs.descIndex_eq, h.descEnd_eq] at heq
  have hoff := (wrap_inj hmono (by omega) heq.symm).symm
  rcases fillStep_empty h hempty hs hoff with ⟨-, hnot⟩ | ⟨-, -, hsome⟩ | ⟨-, hne⟩
  · exact hnot
  · rw [hnone] at hsome
    exact absurd hsome (by simp)
  · exact absurd hnone hne

/-- The fragments of a packet are where they are, wherever `BeginIndex` is. -/
theorem packetFragments_begin (r : NetRing NetFragment) (b : Nat) : ∀ (n i : Nat),
    packetFragments { r with beginIndex := b } n i = packetFragments r n i
  | 0, _ => rfl
  | n + 1, i => by
    rw [packetFragments, packetFragments, packetFragments_begin r b n]
    rfl

/-- Reaping moves nothing that `WaitingFits` looks at. -/
@[simp] theorem txQueueReap_waitingFits (q : TxQueue) :
    (txQueueReap q).WaitingFits ↔ q.WaitingFits := by
  have hfrags : ∀ n i, packetFragments (txQueueReap q).fragmentRing n i
      = packetFragments q.fragmentRing n i := packetFragments_begin q.fragmentRing _
  unfold TxQueue.WaitingFits
  simp only [hfrags]
  rfl

/-- Everything was handed back and nothing that fits is waiting: `TxQueueAdvance` only reaps. -/
theorem txQueueAdvance_idle (h : TxQueueAt o posted p q)
    (hreleased : p.released = offset (q.context.chains posted) p.queued)
    (hfits : ¬ q.WaitingFits) : txQueueAdvance q = txQueueReap q := by
  obtain ⟨i, g, hreaped, -, -⟩ := txQueueReap_spec h
  exact txQueueFill_idle hreaped hreleased (mt (txQueueReap_waitingFits q).mp hfits)

/-- **When `TxQueueAdvance` leaves no descriptor in flight.** -/
theorem txQueueAdvance_drained_iff (h : TxQueueAt o posted p q) :
    (txQueueAdvance q).context.descBegin = (txQueueAdvance q).context.descEnd
      ↔ p.released = offset (q.context.chains posted) p.queued ∧ ¬ q.WaitingFits := by
  obtain ⟨i, g, hreaped, -, -⟩ := txQueueReap_spec h
  constructor
  · intro heq
    obtain ⟨j, n, f, h', -, hn, -, hkeep⟩ := txQueueAdvance_spec h
    have hmono := offset_mono (q.context.chains posted) hn
    have hrel := h.released_le
    have hchains : (txQueueAdvance q).context.chains posted = q.context.chains posted := by
      rw [TxQueueContext.chains, TxQueueContext.chains, hkeep.vlanId_eq]
    have hlt := h'.lt_reaped_add
    have hend := h'.descEnd_eq
    rw [hchains, hkeep.descCount_eq] at hlt hend
    have hbegin := h'.descBegin_eq
    rw [hkeep.descCount_eq] at hbegin
    have hall : p.released = offset (q.context.chains posted) n :=
      wrap_inj (Nat.le_trans hrel hmono) hlt (hbegin.symm.trans (heq.trans hend))
    have hreleased : p.released = offset (q.context.chains posted) p.queued := by omega
    have hfits : (txQueueFill (txQueueReap q)).context.descEnd = (txQueueReap q).context.descEnd →
        ¬ (txQueueReap q).WaitingFits := not_waitingFits_of_descEnd_eq hreaped hreleased
    refine ⟨hreleased, fun hwaiting => hfits ?_ ((txQueueReap_waitingFits q).mpr hwaiting)⟩
    calc (txQueueAdvance q).context.descEnd
        = wrap q.context.descCount 0 (offset (q.context.chains posted) p.queued) := by
          rw [← heq, hbegin, hreleased]
      _ = q.context.descEnd := h.descEnd_eq.symm
  · rintro ⟨hreleased, hfits⟩
    rw [txQueueAdvance_idle h hreleased hfits]
    calc (txQueueReap q).context.descBegin
        = wrap q.context.descCount 0 p.released := hreaped.descBegin_eq
      _ = q.context.descEnd := by rw [hreleased, h.descEnd_eq]

end Queue

/-! ## 5. Cancelling, in every run

Three cases: nothing is in the queue, the wait timed out, or it ended.  A wait that timed out is
safe only if the device owns nothing in spite of it; one that ended is safe only if everything was
released and nothing is waiting that would be filled. -/

section Cancel

variable {w : TxWorld} {debug : Nat → MtlTxDebug}

/-- The DMA engine has handed everything back: it owns nothing. -/
theorem TxInv.not_deviceOwns (h : TxInv w)
    (hreleased : w.positions.released = offset w.chains w.positions.queued) (index : Nat) :
    ¬ w.queue.DeviceOwns w.dma index := by
  rintro ⟨⟨k, -, hbefore⟩, -⟩
  refine hbefore 0 (Nat.zero_le k) ?_
  have hend : w.queue.context.descEnd
      = wrap w.queue.context.descCount 0 w.positions.released := by
    rw [h.queueAt.descEnd_eq, hreleased]
    rfl
  rw [h.current_eq, TxQueueContext.and_descMask, wrap_add_mod, Nat.add_zero,
    h.queueAt.tail_eq, hend]

/-- Otherwise it owns the descriptor it comes to next. -/
theorem TxInv.deviceOwns_current (h : TxInv w)
    (hlt : w.positions.released < offset w.chains w.positions.queued) :
    w.queue.DeviceOwns w.dma w.dma.current := by
  have htotal := h.queueAt.lt_reaped_add
  have hreap := h.queueAt.reaped_le
  change offset w.chains w.positions.queued < _ at htotal
  have hnext : (w.dma.current + 0) &&& w.queue.context.descMask = w.dma.current := by
    rw [h.current_eq, TxQueueContext.and_descMask, wrap_add_mod, Nat.add_zero]
  refine ⟨⟨0, hnext.symm, fun m hm heq => ?_⟩, ?_⟩
  · obtain rfl : m = 0 := Nat.le_zero.mp hm
    rw [hnext, h.queueAt.tail_eq] at heq
    have hindex : w.dma.current = w.queue.context.descEnd := by
      have hmul := Nat.add_left_cancel heq
      exact Nat.eq_of_mul_eq_mul_right (by decide) hmul
    rw [h.current_eq, h.queueAt.descEnd_eq] at hindex
    exact wrap_ne hlt (by omega) hindex
  · rw [h.current_eq]
    exact (h.queueAt.own_iff hreap hlt).mpr (Nat.le_refl _)

theorem TxInv.cancel_empty (h : TxInv w)
    (hempty : w.queue.packetRing.beginIndex = w.queue.packetRing.endIndex) :
    TxCancelSafe w.dma w.queue (txQueueCancel debug w.queue) := by
  obtain ⟨hreaped, hreleased⟩ := h.queueAt.released_of_empty hempty
  have hsame : txQueueCancel debug w.queue = w.queue := if_pos hempty
  rw [hsame]
  refine ⟨?_, ⟨rfl, rfl⟩, fun index howns => absurd howns (h.not_deviceOwns hreleased index)⟩
  rw [h.queueAt.descBegin_eq, h.queueAt.descEnd_eq, hreaped, hreleased]

/-- The wait timed out: what was not handed back is returned with its descriptors owned. -/
theorem TxInv.cancel_timedOut (h : TxInv w)
    (hne : w.queue.packetRing.beginIndex ≠ w.queue.packetRing.endIndex)
    (hwait : cancelWait debug = cancelMaxRetry) :
    TxCancelSafe w.dma w.queue (txQueueCancel debug w.queue)
      ↔ w.positions.released = offset w.chains w.positions.queued := by
  unfold txQueueCancel
  rw [if_neg hne, if_neg (not_not.mpr hwait)]
  constructor
  · intro hsafe
    by_contra hreleased
    have hlt := Nat.lt_of_le_of_ne h.queueAt.released_le hreleased
    exact NetRing.not_outstanding rfl _ (hsafe.owned_kept _ (h.deviceOwns_current hlt)).1
  · intro hreleased
    exact ⟨rfl, ⟨rfl, rfl⟩, fun index howns => absurd howns (h.not_deviceOwns hreleased index)⟩

/-- The wait ended in time. -/
theorem TxInv.cancel_drained (h : TxInv w)
    (hne : w.queue.packetRing.beginIndex ≠ w.queue.packetRing.endIndex)
    (hwait : cancelWait debug ≠ cancelMaxRetry) :
    TxCancelSafe w.dma w.queue (txQueueCancel debug w.queue)
      ↔ w.positions.released = offset w.chains w.positions.queued ∧ ¬ w.queue.WaitingFits := by
  have hiff := txQueueAdvance_drained_iff h.queueAt
  unfold txQueueCancel
  rw [if_neg hne, if_pos hwait]
  constructor
  · exact fun hsafe => hiff.mp hsafe.drained
  · rintro ⟨hreleased, hfits⟩
    have hidle := txQueueAdvance_idle h.queueAt hreleased hfits
    refine ⟨hiff.mpr ⟨hreleased, hfits⟩, ?_, fun index howns => ?_⟩
    · rw [hidle]
      exact ⟨rfl, rfl⟩
    · rw [hidle] at howns
      exact absurd howns (h.not_deviceOwns hreleased index)

end Cancel

/-- **When `TxQueueCancel` does what it asserts**, in every state of every run and for everything
the wait may read.  What the DMA engine does during the wait are steps of the run: `w` is the state
in which the wait ends.  The wait itself guarantees nothing, as it reads another register than the
ones that say what is owned. -/
theorem txQueueCancel_safe_iff (debug : Nat → MtlTxDebug) (w : TxWorld)
    (h : Reach TxWorld.Started txStep w) :
    TxCancelSafe w.dma w.queue (txQueueCancel debug w.queue)
      ↔ CancelReady debug w.queue := by
  have hinv := txInv_of_reach h
  unfold CancelReady
  rw [hinv.queueAt.allReleased_iff]
  by_cases hempty : w.queue.packetRing.beginIndex = w.queue.packetRing.endIndex
  · exact iff_of_true (hinv.cancel_empty hempty) (.inl hempty)
  · rw [or_iff_right hempty]
    by_cases hwait : cancelWait debug = cancelMaxRetry
    · rw [hinv.cancel_timedOut hempty hwait, or_iff_left_of_imp (fun _ => hwait)]
      exact (and_iff_left hwait).symm
    · rw [hinv.cancel_drained hempty hwait, or_iff_right hwait]
      rfl

/-- A packet sent and handed back, and reaped by `TxQueueCancel`. -/
theorem txQueueCancel_safe_sent : ∃ w, Reach TxWorld.Started txStep w
    ∧ w.queue.packetRing.beginIndex ≠ w.queue.packetRing.endIndex
    ∧ TxCancelSafe w.dma w.queue (txQueueCancel (fun _ => ⟨.idle, false⟩) w.queue) := by
  have hstart : (TxWorld.start plainContext (emptyRing plainPacket) (emptyRing ⟨0, 0, 0⟩)
      ⟨7, 7⟩).Started :=
    ⟨_, _, _, _, ⟨by decide, rfl, rfl⟩, ⟨by decide, rfl, rfl⟩, rfl⟩
  obtain ⟨w, hw, hready⟩ := exists_reach_of_run txStep hstart
    [.post plainPacket [⟨0, 60, 0x8000⟩], .advance, .fetch, .complete]
    (fun w => w.queue.packetRing.beginIndex != w.queue.packetRing.endIndex
      && decide (CancelReady (fun _ => ⟨.idle, false⟩) w.queue)) (by decide +kernel)
  simp only [Bool.and_eq_true, bne_iff_ne, decide_eq_true_eq] at hready
  exact ⟨w, hw, hready.1, (txQueueCancel_safe_iff _ w hw).mpr hready.2⟩

/-- A packet was posted and not queued yet.  The wait ends at once, and `TxQueueAdvance` hands
the packet to the stopped device; then it is returned. -/
theorem cancel_hands_packet : ∃ w, Reach TxWorld.Started txStep w
    ∧ ¬ TxCancelSafe w.dma w.queue (txQueueCancel (fun _ => ⟨.idle, false⟩) w.queue) := by
  have hstart : (TxWorld.start plainContext (emptyRing plainPacket) (emptyRing ⟨0, 0, 0⟩)
      ⟨7, 7⟩).Started :=
    ⟨_, _, _, _, ⟨by decide, rfl, rfl⟩, ⟨by decide, rfl, rfl⟩, rfl⟩
  obtain ⟨w, hw, hends⟩ := exists_reach_of_run txStep hstart
    [.post plainPacket [⟨0, 60, 0x8000⟩]]
    (fun w => (txQueueCancel (fun _ => ⟨.idle, false⟩) w.queue).context.descBegin
      != (txQueueCancel (fun _ => ⟨.idle, false⟩) w.queue).context.descEnd) (by decide +kernel)
  exact ⟨w, hw, fun hsafe => bne_iff_ne.mp hends hsafe.drained⟩

end WoaRk3576.Net
