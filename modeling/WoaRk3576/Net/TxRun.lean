/-
# The transmit queue in every run

The system around `TxQueueAdvance`: NetAdapterCx posts packets when its rings have room, the
DMA engine works through the descriptors up to the tail pointer in ring order -- it processes a
descriptor (`fetch`) and some time later hands it back (`complete`); `OperateOnSecondPacket` is
set, so it may process ahead -- and `TxQueueAdvance` is called at any time.

A call of `TxQueueAdvance` is one step.  The reads of `Own` during the first loop stop at the
first descriptor still owned, so a completion during the call is one after the descriptors the
call has looked at, or is seen by it: both are orders of whole steps.

`TxWorld` carries an observer beside the state: the log of what was posted, how far each index
has moved (measured on the indices themselves, before and after each call), and how many
descriptors the DMA engine processed and handed back.  The results speak of these counts;
`TxInv` says that the counts and the indices agree.

`txRing_safe` is the main result: at every moment the transmit region holds exactly the
descriptors that are still to be reaped, in order; a call touches none of them; and packets
and fragments are handed back in order, once, and only after their last descriptor was
released.  What is assumed of NetAdapterCx is the precondition of `txPost`.
-/
import WoaRk3576.Net.TxAdvance
import WoaRk3576.Lib.Transition

namespace WoaRk3576.Net

open WoaRk3576.Lib

/-! ## 1. The world

The driver, NetAdapterCx and the DMA engine share the ring, and each of them moves on its own.  The
engine has two places: it may have fetched a descriptor that it has not handed back, so that what
it works on is a copy.  The observer remembers all packets that were ever posted and counts what
became of them; the counts grow for ever, and the indices are the counts modulo the lengths of the
rings. -/

/-- The registers of the device that context descriptors set. -/
structure TxRegs where
  mss : Nat
  vlan : Nat
  deriving DecidableEq, Repr

/-- What processing a descriptor does to them. -/
def TxRegs.process (regs : TxRegs) : TxDescriptor → TxRegs
  | .context d =>
    { mss := if d.oneStepInputOrMssValid then d.maximumSegmentSize else regs.mss
      vlan := if d.vlanTagValid then d.vlanTag else regs.vlan }
  | _ => regs

/-- The DMA engine of the channel: its registers, the next descriptor it processes and the next
it hands back (`Current_App_TxDesc`). -/
structure TxDma where
  regs : TxRegs
  fetchIndex : Nat
  current : Nat
  deriving DecidableEq, Repr

structure TxWorld where
  queue : TxQueue
  dma : TxDma
  origin : TxOrigin
  posted : List Posting
  positions : TxPositions
  fetched : Nat

/-- The descriptors of the posted packets. -/
def TxWorld.chains (w : TxWorld) : List (List TxDescriptor) := w.queue.context.chains w.posted

inductive TxAction
  | post (packet : NetPacket) (frags : List NetFragment)
  | fetch
  | complete
  | advance

/-- `TxQueueStart`, on a queue whose rings are empty and whose DMA engine is at descriptor 0.
The device's registers hold anything. -/
def TxWorld.start (context : TxQueueContext) (packetRing : NetRing NetPacket)
    (fragmentRing : NetRing NetFragment) (regs : TxRegs) : TxWorld where
  queue := ⟨txQueueStart context, packetRing, fragmentRing⟩
  dma := ⟨regs, 0, 0⟩
  origin := ⟨packetRing.numberOfElements, packetRing.beginIndex,
    fragmentRing.numberOfElements, fragmentRing.beginIndex⟩
  posted := []
  positions := ⟨0, 0, 0, 0, 0⟩
  fetched := 0

/-- The states in which a run begins. -/
def TxWorld.Started (w : TxWorld) : Prop :=
  ∃ context packetRing fragmentRing regs,
    packetRing.Empty ∧ fragmentRing.Empty
      ∧ w = TxWorld.start context packetRing fragmentRing regs

/-- **What NetAdapterCx promises about a packet it posts**: there is room in both rings; a
packet that is not ignored has its fragments in the next elements of the fragment ring, and
fits (`PacketFits`). -/
def TxQueue.Accepts (q : TxQueue) (packet : NetPacket) (frags : List NetFragment) : Prop :=
  0 < q.packetRing.room ∧ frags.length ≤ q.fragmentRing.room
    ∧ (packet.ignore = false →
        packet.fragmentIndex = q.fragmentRing.endIndex ∧ PacketFits packet frags)

instance (q : TxQueue) (packet : NetPacket) (frags : List NetFragment) :
    Decidable (q.Accepts packet frags) :=
  inferInstanceAs (Decidable (_ ∧ _ ∧ (_ → _ ∧ _)))

/-- NetAdapterCx posts a packet. -/
def txPost (w : TxWorld) (packet : NetPacket) (frags : List NetFragment) : TxWorld :=
  { w with
    queue := { w.queue with
      packetRing := w.queue.packetRing.append packet
      fragmentRing := w.queue.fragmentRing.appendAll frags }
    posted := w.posted ++ [⟨w.queue.packetRing.endIndex, packet,
      indexFragments w.queue.fragmentRing.numberOfElements w.queue.fragmentRing.endIndex frags⟩] }

/-- The DMA engine processes the next descriptor: its own copy of it, `Own` still set. -/
def txFetch (w : TxWorld) : TxWorld :=
  { w with
    dma := { w.dma with
      regs := w.dma.regs.process (w.queue.context.descVirtual w.dma.fetchIndex)
      fetchIndex := (w.dma.fetchIndex + 1) &&& w.queue.context.descMask }
    fetched := w.fetched + 1 }

/-- The DMA engine hands the next descriptor back. -/
def txComplete (w : TxWorld) : TxWorld :=
  { w with
    queue := { w.queue with context := { w.queue.context with
      descVirtual := Function.update w.queue.context.descVirtual w.dma.current
        (w.queue.context.descVirtual w.dma.current).release } }
    dma := { w.dma with current := (w.dma.current + 1) &&& w.queue.context.descMask }
    positions := { w.positions with released := w.positions.released + 1 } }

/-- The descriptors from index `i` to index `j`. -/
def TxQueueContext.distance (context : TxQueueContext) (i j : Nat) : Nat :=
  sub32 j i &&& context.descMask

/-- How far the indices of the queue `q` have moved when they become those of `q'`. -/
def TxPositions.advance (p : TxPositions) (q q' : TxQueue) : TxPositions where
  passed := p.passed
    + q.packetRing.distance q.packetRing.beginIndex q'.packetRing.beginIndex
  queued := p.queued + q.packetRing.distance q.packetRing.nextIndex q'.packetRing.nextIndex
  fragsPassed := p.fragsPassed
    + q.fragmentRing.distance q.fragmentRing.beginIndex q'.fragmentRing.beginIndex
  reaped := p.reaped + q.context.distance q.context.descBegin q'.context.descBegin
  released := p.released

/-- The driver's callback, with the observer measuring how far the indices move. -/
def txAdvance (w : TxWorld) : TxWorld :=
  { w with
    queue := txQueueAdvance w.queue
    positions := w.positions.advance w.queue (txQueueAdvance w.queue) }

/-- One step of the system; the DMA engine stops at the tail pointer. -/
def txStep (w : TxWorld) : TxAction → Option TxWorld
  | .post packet frags =>
    if w.queue.Accepts packet frags then some (txPost w packet frags) else none
  | .fetch =>
    if w.queue.context.descPhysical + w.dma.fetchIndex * queueDescriptorSize
      = w.queue.context.txDescTailPointer then none else some (txFetch w)
  | .complete => if w.dma.current = w.dma.fetchIndex then none else some (txComplete w)
  | .advance => some (txAdvance w)

/-! ## 2. The invariant

`TxInv` ties every index to its count and orders the counts: reaped, released, fetched, queued.
Each action moves one of them, and none overtakes the next: the engine stops at the tail pointer,
completes only what it fetched, and the driver reaps only what was released. -/

/-- **The observer's counts and the indices agree**, and so do those of the DMA engine. -/
structure TxInv (w : TxWorld) : Prop where
  queueAt : TxQueueAt w.origin w.posted w.positions w.queue
  fetch_eq : w.dma.fetchIndex = wrap w.queue.context.descCount 0 w.fetched
  current_eq : w.dma.current = wrap w.queue.context.descCount 0 w.positions.released
  released_le : w.positions.released ≤ w.fetched
  fetched_le : w.fetched ≤ offset w.chains w.positions.queued

theorem started_inv (w : TxWorld) (h : w.Started) : TxInv w := by
  obtain ⟨context, packetRing, fragmentRing, regs, hp, hf, rfl⟩ := h
  have hpos : 0 < context.descCount := by
    obtain ⟨k, -, hk⟩ := context.descCount_pow2
    exact hk ▸ Nat.two_pow_pos k
  have hzero : 0 = wrap context.descCount 0 0 := (wrap_zero_eq hpos).symm
  refine ⟨⟨fun i hi => absurd hi (Nat.not_lt_zero i), rfl, rfl, hp.holds, ?_, Nat.le_refl _,
    Nat.le_refl _, hf.holds, PassedAt.zero [], Window.empty hpos _ _, hzero, hzero, rfl, rfl,
    Nat.zero_le _, fun i hi => absurd hi (Nat.not_lt_zero i), Nat.le_refl _, Nat.zero_le _⟩,
    hzero, hzero, Nat.le_refl _, Nat.zero_le _⟩
  exact hp.2.1.trans (wrap_start hp.1).symm

section Steps

variable {w : TxWorld}

/-- Posting moves no position of the queue. -/
theorem TxQueueAt.post {o : TxOrigin} {posted : List Posting} {p : TxPositions} {q : TxQueue}
    (h : TxQueueAt o posted p q) {packet : NetPacket} {frags : List NetFragment}
    (hacc : q.Accepts packet frags) :
    TxQueueAt o (posted ++ [⟨q.packetRing.endIndex, packet,
        indexFragments q.fragmentRing.numberOfElements q.fragmentRing.endIndex frags⟩]) p
      { q with
        packetRing := q.packetRing.append packet
        fragmentRing := q.fragmentRing.appendAll frags } := by
  obtain ⟨hroom, hfrags, hfits⟩ := hacc
  have hend := h.endIndex_eq
  have hfend : q.fragmentRing.endIndex
      = wrap o.fragments o.fragmentStart (offset (fragBlocks posted) posted.length) := by
    have heq := h.fragments.endIndex_eq
    have hlen : (fragBlocks posted).length ≤ posted.length := by simp [fragBlocks]
    rwa [h.fragmentSize, ← offset_of_le hlen] at heq
  generalize hp : (⟨q.packetRing.endIndex, packet, indexFragments
    q.fragmentRing.numberOfElements q.fragmentRing.endIndex frags⟩ : Posting) = posting
  have hpkt : posting.packet = packet := by rw [← hp]
  have hsnd : posting.fragments.map Prod.snd = frags := by
    rw [← hp]
    exact indexFragments_map_snd _ _ _
  have hat : PostedAt o posted posted.length posting := by
    refine ⟨by rw [← hp]; exact hend, fun hig => ?_, fun hig => ?_, fun hig => ?_⟩
    · rw [hsnd, hpkt]
      exact (hfits (hpkt ▸ hig)).2
    · rw [hpkt, (hfits (hpkt ▸ hig)).1, hfend]
    · rw [hsnd, ← hp, ← hfend, ← h.fragmentSize]
  have hlog : (posted ++ [posting]).map Posting.packet = posted.map Posting.packet ++ [packet] := by
    rw [List.map_append, List.map_singleton, hpkt]
  have hblocks : (fragBlocks (posted ++ [posting])).flatten
      = (fragBlocks posted).flatten ++ frags := by
    simp [fragBlocks, hsnd]
  have hq := h.queued_le
  have hchains : ∀ context : TxQueueContext, context.chains (posted ++ [posting])
      = context.chains posted ++ Net.chains context.vlanId
          (lastAfter context.vlanId startLast posted) [posting] :=
    fun context => chains_append _ _ _ _
  have hlenc : p.queued ≤ (q.context.chains posted).length := by
    rwa [TxQueueContext.chains, length_chains]
  have hoff : ∀ i, i ≤ p.queued → offset (q.context.chains (posted ++ [posting])) i
      = offset (q.context.chains posted) i := by
    intro i hi
    rw [hchains]
    exact offset_append (Nat.le_trans hi hlenc) _
  have htake : (q.context.chains (posted ++ [posting])).take p.queued
      = (q.context.chains posted).take p.queued := by
    rw [hchains, List.take_append_of_le_length hlenc]
  refine ⟨h.wellPosted.snoc hat, h.packetSize, ?_, ?_, h.nextIndex_eq, h.passed_le, ?_, ?_,
    h.passedAt.snoc (Nat.le_trans h.passed_le hq) posting, ?_, h.descBegin_eq, ?_, h.tail_eq, ?_,
    ?_, ?_, h.reaped_le, ?_⟩
  · rw [NetRing.appendAll_numberOfElements]
    exact h.fragmentSize
  · rw [hlog]
    exact h.packets.append hroom packet
  · rw [List.length_append]
    omega
  · rw [hblocks]
    exact NetRing.Holds.appendAll frags h.fragments hfrags
  · rw [htake]
    exact h.descs
  · rw [hoff _ (Nat.le_refl _)]
    exact h.descEnd_eq
  · rw [List.take_append_of_le_length hq]
    exact h.last_eq
  · rw [hoff _ h.passed_le]
    exact h.reaped_ge
  · intro i hi hpi hiq hig
    have hlt : i < posted.length := Nat.lt_of_lt_of_le hiq hq
    rw [List.getElem_append_left hlt] at hig
    rw [hoff _ hiq]
    exact h.reaped_lt i hlt hpi hiq hig
  · rw [hoff _ (Nat.le_refl _)]
    exact h.released_le

/-- What `posting` adds to the log is behind everything queued. -/
theorem TxInv.post (h : TxInv w) {packet : NetPacket} {frags : List NetFragment}
    (hacc : w.queue.Accepts packet frags) : TxInv (txPost w packet frags) := by
  refine ⟨h.queueAt.post hacc, h.fetch_eq, h.current_eq, h.released_le, ?_⟩
  refine Nat.le_trans h.fetched_le (Nat.le_of_eq ?_)
  have hlen : w.positions.queued ≤ (w.queue.context.chains w.posted).length := by
    rw [TxQueueContext.chains, length_chains]
    exact h.queueAt.queued_le
  show _ = offset (w.queue.context.chains (w.posted ++ [_])) w.positions.queued
  rw [TxQueueContext.chains, chains_append]
  exact (offset_append hlen _).symm

theorem TxInv.fetch (h : TxInv w)
    (hne : w.queue.context.descPhysical + w.dma.fetchIndex * queueDescriptorSize
      ≠ w.queue.context.txDescTailPointer) : TxInv (txFetch w) := by
  have hlt : w.fetched < offset w.chains w.positions.queued := by
    rcases Nat.eq_or_lt_of_le h.fetched_le with heq | hlt
    · rw [h.queueAt.tail_eq, h.queueAt.descEnd_eq, h.fetch_eq, heq] at hne
      exact absurd rfl hne
    · exact hlt
  refine ⟨h.queueAt, ?_, h.current_eq, Nat.le_succ_of_le h.released_le, hlt⟩
  show (w.dma.fetchIndex + 1) &&& w.queue.context.descMask = _
  rw [h.fetch_eq, TxQueueContext.and_descMask, wrap_add_mod]
  rfl

/-- The DMA engine hands back the oldest descriptor it has not handed back yet. -/
theorem TxQueueAt.complete {o : TxOrigin} {posted : List Posting} {p : TxPositions} {q : TxQueue}
    (h : TxQueueAt o posted p q) (hlt : p.released < offset (q.context.chains posted) p.queued) :
    TxQueueAt o posted { p with released := p.released + 1 }
      { q with context := { q.context with
        descVirtual := Function.update q.context.descVirtual
          (wrap q.context.descCount 0 p.released)
          (q.context.descVirtual (wrap q.context.descCount 0 p.released)).release } } := by
  have hlen : p.released < ((q.context.chains posted).take p.queued).flatten.length := hlt
  have hread : q.context.descVirtual (wrap q.context.descCount 0 p.released)
      = ((q.context.chains posted).take p.queued).flatten[p.released] := by
    rw [h.desc_eq (by rwa [length_markReleased]) h.reaped_le,
      markReleased_getElem_ge _ hlen (Nat.le_refl _)]
  refine ⟨h.wellPosted, h.packetSize, h.fragmentSize, h.packets, h.nextIndex_eq, h.passed_le,
    h.queued_le, h.fragments, h.passedAt, ?_, h.descBegin_eq, h.descEnd_eq, h.tail_eq, h.last_eq,
    h.reaped_ge, h.reaped_lt, Nat.le_succ_of_le h.reaped_le, hlt⟩
  rw [hread]
  show Window _ _ _ (markReleased (p.released + 1)
    ((q.context.chains posted).take p.queued).flatten) _
  rw [markReleased_succ hlen]
  exact h.descs.set (by rwa [length_markReleased]) h.reaped_le _

theorem TxInv.complete (h : TxInv w) (hne : w.dma.current ≠ w.dma.fetchIndex) :
    TxInv (txComplete w) := by
  have hlt : w.positions.released < w.fetched := by
    rcases Nat.eq_or_lt_of_le h.released_le with heq | hlt
    · rw [h.current_eq, h.fetch_eq, heq] at hne
      exact absurd rfl hne
    · exact hlt
  have hq := h.queueAt.complete (Nat.lt_of_lt_of_le hlt h.fetched_le)
  rw [← h.current_eq] at hq
  refine ⟨hq, h.fetch_eq, ?_, hlt, h.fetched_le⟩
  show (w.dma.current + 1) &&& w.queue.context.descMask = _
  rw [h.current_eq, TxQueueContext.and_descMask, wrap_add_mod]
  rfl

theorem TxQueueContext.distance_wrap (context : TxQueueContext) {i j : Nat} (hij : i ≤ j)
    (hlt : j < i + context.descCount) :
    context.distance (wrap context.descCount 0 i) (wrap context.descCount 0 j) = j - i := by
  obtain ⟨k, hk31, hk⟩ := context.descCount_pow2
  exact sub32_wrap hk (by omega) hij hlt

@[simp] theorem txAdvance_queue (w : TxWorld) : (txAdvance w).queue = txQueueAdvance w.queue :=
  rfl

@[simp] theorem txAdvance_dma (w : TxWorld) : (txAdvance w).dma = w.dma := rfl

@[simp] theorem txAdvance_origin (w : TxWorld) : (txAdvance w).origin = w.origin := rfl

@[simp] theorem txAdvance_posted (w : TxWorld) : (txAdvance w).posted = w.posted := rfl

@[simp] theorem txAdvance_fetched (w : TxWorld) : (txAdvance w).fetched = w.fetched := rfl

theorem txAdvance_positions (w : TxWorld) :
    (txAdvance w).positions = w.positions.advance w.queue (txQueueAdvance w.queue) := rfl

@[simp] theorem TxPositions.advance_released (p : TxPositions) (q q' : TxQueue) :
    (p.advance q q').released = p.released := by
  rw [TxPositions.advance]

@[simp] theorem txAdvance_released (w : TxWorld) :
    (txAdvance w).positions.released = w.positions.released := by
  rw [txAdvance_positions, TxPositions.advance_released]

/-- **A call of `TxQueueAdvance`, in the observer's counts**: what the driver has reaped is
what the DMA engine had released; and no descriptor still in use was written. -/
theorem txAdvance_spec (h : TxInv w) :
    TxInv (txAdvance w) ∧ (txAdvance w).positions.reaped = w.positions.released
      ∧ w.positions.passed ≤ (txAdvance w).positions.passed
      ∧ w.positions.queued ≤ (txAdvance w).positions.queued
      ∧ KeepsDescs w.positions.released (offset w.chains w.positions.queued) w.queue.context
          (txAdvance w).queue.context := by
  obtain ⟨j, n, f, hq, hj, hn, hf, hkeep⟩ := txQueueAdvance_spec h.queueAt
  have hreap := h.queueAt.reaped_le
  have hpq := h.queueAt.passed_le
  have htotal := h.queueAt.lt_reaped_add
  have hposted := h.queueAt.posted_lt
  have hreleased := h.queueAt.released_le
  have hjn : j ≤ n := hq.passed_le
  have hnl : n ≤ w.posted.length := hq.queued_le
  have hpackets : w.queue.packetRing.distance w.queue.packetRing.beginIndex
      (txQueueAdvance w.queue).packetRing.beginIndex = j - w.positions.passed := by
    have hdist := w.queue.packetRing.distance_wrap w.origin.packetStart hj
      (by rw [h.queueAt.packetSize]; omega)
    have hbegin : (txQueueAdvance w.queue).packetRing.beginIndex
        = wrap w.queue.packetRing.numberOfElements w.origin.packetStart j := by
      rw [hq.packets.beginIndex_eq, hq.packetSize, h.queueAt.packetSize]
    rw [h.queueAt.packets.beginIndex_eq, hbegin]
    exact hdist
  have hnext : w.queue.packetRing.distance w.queue.packetRing.nextIndex
      (txQueueAdvance w.queue).packetRing.nextIndex = n - w.positions.queued := by
    have hdist := w.queue.packetRing.distance_wrap w.origin.packetStart hn
      (by rw [h.queueAt.packetSize]; omega)
    rw [h.queueAt.packetSize] at hdist
    rw [h.queueAt.nextIndex_eq, hq.nextIndex_eq]
    exact hdist
  have hfrags : w.queue.fragmentRing.distance w.queue.fragmentRing.beginIndex
      (txQueueAdvance w.queue).fragmentRing.beginIndex = f - w.positions.fragsPassed := by
    have hle : f ≤ (fragBlocks w.posted).flatten.length := hq.passedAt.le
    have hlt := h.queueAt.fragments.window.lt_lo_add
    have hdist := w.queue.fragmentRing.distance_wrap w.origin.fragmentStart hf (by omega)
    have hbegin : (txQueueAdvance w.queue).fragmentRing.beginIndex
        = wrap w.queue.fragmentRing.numberOfElements w.origin.fragmentStart f := by
      rw [hq.fragments.beginIndex_eq, hq.fragmentSize, h.queueAt.fragmentSize]
    rw [h.queueAt.fragments.beginIndex_eq, hbegin]
    exact hdist
  have hdescs : w.queue.context.distance w.queue.context.descBegin
      (txQueueAdvance w.queue).context.descBegin = w.positions.released - w.positions.reaped := by
    have hbegin : (txQueueAdvance w.queue).context.descBegin
        = wrap w.queue.context.descCount 0 w.positions.released := by
      rw [hq.descBegin_eq, hkeep.descCount_eq]
    rw [h.queueAt.descBegin_eq, hbegin]
    exact w.queue.context.distance_wrap hreap (by omega)
  have hpositions : (txAdvance w).positions
      = ⟨j, n, f, w.positions.released, w.positions.released⟩ := by
    rw [txAdvance_positions, TxPositions.advance, hpackets, hnext, hfrags, hdescs,
      Nat.add_sub_cancel' hj, Nat.add_sub_cancel' hn, Nat.add_sub_cancel' hf,
      Nat.add_sub_cancel' hreap]
  have hchains : (txAdvance w).chains = w.chains := by
    show (txQueueAdvance w.queue).context.chains w.posted = w.queue.context.chains w.posted
    rw [TxQueueContext.chains, TxQueueContext.chains, hkeep.vlanId_eq]
  refine ⟨⟨?_, ?_, ?_, ?_, ?_⟩, ?_, ?_, ?_, hkeep⟩
  · rw [hpositions]
    exact hq
  · rw [txAdvance_dma, txAdvance_queue, txAdvance_fetched, hkeep.descCount_eq, h.fetch_eq]
  · rw [txAdvance_dma, txAdvance_queue, txAdvance_released, hkeep.descCount_eq, h.current_eq]
  · rw [txAdvance_released, txAdvance_fetched]
    exact h.released_le
  · rw [hchains, hpositions, txAdvance_fetched]
    exact Nat.le_trans h.fetched_le (offset_mono _ hn)
  · rw [hpositions]
  · rw [hpositions]
    exact hj
  · rw [hpositions]
    exact hn

/-- **The step lemma.** One case for each action, and each has its own lemma above; only the
driver's callback changes more than one count. -/
theorem txStep_inv (w : TxWorld) (a : TxAction) (w' : TxWorld) (h : TxInv w)
    (hstep : txStep w a = some w') : TxInv w' := by
  cases a with
  | post packet frags =>
    rw [txStep] at hstep
    split at hstep
    · rename_i hacc
      exact Option.some.inj hstep ▸ h.post hacc
    · exact absurd hstep (by simp)
  | fetch =>
    rw [txStep] at hstep
    split at hstep
    · exact absurd hstep (by simp)
    · rename_i hne
      exact Option.some.inj hstep ▸ h.fetch hne
  | complete =>
    rw [txStep] at hstep
    split at hstep
    · exact absurd hstep (by simp)
    · rename_i hne
      exact Option.some.inj hstep ▸ h.complete hne
  | advance =>
    rw [txStep] at hstep
    exact Option.some.inj hstep ▸ (txAdvance_spec h).1

/-- The invariant holds in every run. -/
theorem txInv_of_reach {w : TxWorld} (h : Reach TxWorld.Started txStep w) : TxInv w :=
  h.invariant started_inv txStep_inv

end Steps

/-! ## 3. The transmit region

With the counts in order, the statements about indices are read off: a count and an index determine
each other within one round of the ring, and the driver leaves a hole, so that the full ring and
the empty one differ. -/

/-- The descriptors in `[descBegin, descEnd)`, in ring order. -/
def TxQueueContext.region (context : TxQueueContext) : List TxDescriptor :=
  slice context.descCount context.descBegin context.descVirtual 0
    (context.distance context.descBegin context.descEnd)

/-- The descriptors of the packets in `[BeginIndex, NextIndex)`, in packet order, without those
that were reaped already. -/
def TxWorld.unreaped (w : TxWorld) : List TxDescriptor :=
  ((w.chains.take w.positions.queued).drop w.positions.passed).flatten.drop
    (w.positions.reaped - offset w.chains w.positions.passed)

/-- **What holds of the queue at every moment.** -/
structure TxRingSafe (w : TxWorld) : Prop where
  /-- The descriptors that were queued and not reaped are those from `descBegin` to `descEnd`. -/
  inFlight_eq : offset w.chains w.positions.queued
    = w.positions.reaped
      + w.queue.context.distance w.queue.context.descBegin w.queue.context.descEnd
  /-- At most `descCount - 1` descriptors are in flight. -/
  inFlight_le : offset w.chains w.positions.queued
    ≤ w.positions.reaped + (w.queue.context.descCount - 1)
  /-- The indices of the packet ring are the counts of packets passed, queued and posted. -/
  indices_eq : w.queue.packetRing.beginIndex
      = wrap w.origin.packets w.origin.packetStart w.positions.passed
    ∧ w.queue.packetRing.nextIndex
      = wrap w.origin.packets w.origin.packetStart w.positions.queued
    ∧ w.positions.passed ≤ w.positions.queued ∧ w.positions.queued ≤ w.posted.length
  /-- The packets in `[BeginIndex, NextIndex)` are those posted. -/
  packets_eq : ∀ i (h : i < w.posted.length), w.positions.passed ≤ i → i < w.positions.queued →
    w.queue.packetRing.buffer (wrap w.origin.packets w.origin.packetStart i)
      = w.posted[i].packet
  /-- The transmit region is exactly what is still to be reaped of them, in order, the first
  part of it released by the DMA engine. -/
  region_eq : w.queue.context.region
    = markReleased (w.positions.released - w.positions.reaped) w.unreaped
  /-- A packet that is not passed has a descriptor that is not reaped: its last one. -/
  reaped_lt : ∀ i (h : i < w.posted.length), w.positions.passed ≤ i → i < w.positions.queued →
    w.posted[i].packet.ignore = false → w.positions.reaped < offset w.chains (i + 1)
  /-- A packet that is passed has had all its descriptors released. -/
  passed_released : ∀ i, i < w.positions.passed →
    offset w.chains (i + 1) ≤ w.positions.released
  /-- The fragment ring's `BeginIndex` has passed the fragments of exactly these packets. -/
  fragments_eq : w.queue.fragmentRing.beginIndex
      = wrap w.origin.fragments w.origin.fragmentStart w.positions.fragsPassed
    ∧ PassedAt w.posted w.positions.passed w.positions.fragsPassed

/-- **What a call of `TxQueueAdvance` may do.** -/
structure TxAdvanceSafe (w w' : TxWorld) : Prop where
  /-- Every descriptor between the new `descBegin` and the old `descEnd` is as it was. -/
  kept : ∀ k, k < w.queue.context.distance w'.queue.context.descBegin w.queue.context.descEnd →
    w'.queue.context.descVirtual ((w'.queue.context.descBegin + k) &&& w.queue.context.descMask)
      = w.queue.context.descVirtual ((w'.queue.context.descBegin + k) &&& w.queue.context.descMask)
  /-- Every descriptor between the old and the new `descBegin` was released. -/
  reaped_released : ∀ k,
    k < w.queue.context.distance w.queue.context.descBegin w'.queue.context.descBegin →
    (w.queue.context.descVirtual
      ((w.queue.context.descBegin + k) &&& w.queue.context.descMask)).own = false
  /-- Packets are passed in order and stay passed. -/
  passed_le : w.positions.passed ≤ w'.positions.passed
  /-- A queued packet is passed if and only if its last descriptor is released. -/
  passed_iff : ∀ i (h : i < w.posted.length), i < w.positions.queued →
    w.posted[i].packet.ignore = false →
    (i < w'.positions.passed ↔ offset w.chains (i + 1) ≤ w.positions.released)

section Safe

/-- The descriptors in `[descBegin, descEnd)`. -/
theorem TxQueueAt.distance_descs {o : TxOrigin} {posted : List Posting} {p : TxPositions}
    {q : TxQueue} (h : TxQueueAt o posted p q) :
    q.context.distance q.context.descBegin q.context.descEnd
      = offset (q.context.chains posted) p.queued - p.reaped := by
  rw [h.descBegin_eq, h.descEnd_eq]
  exact q.context.distance_wrap (Nat.le_trans h.reaped_le h.released_le) h.lt_reaped_add

/-- **The transmit region** is what was queued and not reaped. -/
theorem TxQueueAt.region_eq {o : TxOrigin} {posted : List Posting} {p : TxPositions}
    {q : TxQueue} (h : TxQueueAt o posted p q) :
    q.context.region = (markReleased p.released
      ((q.context.chains posted).take p.queued).flatten).drop p.reaped := by
  have hslice := h.descs.slice_eq
  rw [h.length_descs] at hslice
  rw [← hslice, TxQueueContext.region, h.distance_descs, slice, slice]
  refine List.map_congr_left fun k _ => ?_
  rw [h.descBegin_eq, Nat.zero_add, wrap, wrap_add_mod]

variable {w : TxWorld}

theorem TxInv.safe (h : TxInv w) : TxRingSafe w := by
  have hq := h.queueAt
  have htotal := hq.lt_reaped_add
  have hreap := hq.reaped_le
  have hrel := hq.released_le
  have htotal' : offset w.chains w.positions.queued
      < w.positions.reaped + w.queue.context.descCount := htotal
  refine ⟨?_, ?_, ?_, ?_, ?_, hq.reaped_lt, ?_, ?_, hq.passedAt⟩
  · rw [hq.distance_descs]
    exact (Nat.add_sub_cancel' (Nat.le_trans hreap hrel)).symm
  · omega
  · exact ⟨hq.beginIndex_eq, hq.nextIndex_eq, hq.passed_le, hq.queued_le⟩
  · intro i hi hpi _
    exact hq.packet_eq hi hpi
  · rw [hq.region_eq, TxWorld.unreaped, markReleased_drop hreap]
    congr 1
    rw [← drop_offset, List.drop_drop]
    have hoff : offset (w.chains.take w.positions.queued) w.positions.passed
        = offset w.chains w.positions.passed := by
      rw [offset, offset, List.take_take, Nat.min_eq_left hq.passed_le]
    have hge : offset w.chains w.positions.passed ≤ w.positions.reaped := hq.reaped_ge
    rw [hoff, Nat.add_sub_cancel' hge]
    rfl
  · intro i hi
    exact Nat.le_trans (offset_mono _ hi) (Nat.le_trans hq.reaped_ge hreap)
  · have hbegin := hq.fragments.beginIndex_eq
    rwa [hq.fragmentSize] at hbegin

theorem TxInv.advanceSafe (h : TxInv w) : TxAdvanceSafe w (txAdvance w) := by
  obtain ⟨h', hreaped, hpassed, hqueued, hkeep⟩ := txAdvance_spec h
  have hq := h.queueAt
  have hq' := h'.queueAt
  have htotal := hq.lt_reaped_add
  have hreap := hq.reaped_le
  have hrel := hq.released_le
  have hbegin : (txAdvance w).queue.context.descBegin
      = wrap w.queue.context.descCount 0 w.positions.released := by
    rw [hq'.descBegin_eq, hkeep.descCount_eq, hreaped]
  have hchains : (txAdvance w).chains = w.chains := by
    show (txAdvance w).queue.context.chains w.posted = w.queue.context.chains w.posted
    rw [TxQueueContext.chains, TxQueueContext.chains, hkeep.vlanId_eq]
  refine ⟨?_, ?_, hpassed, ?_⟩
  · intro k hk
    rw [hbegin, hq.descEnd_eq, w.queue.context.distance_wrap hrel (by omega)] at hk
    rw [hbegin, TxQueueContext.and_descMask, wrap_add_mod]
    refine hkeep.desc_eq _ (Nat.le_add_right _ _) ?_
    show _ < offset (w.queue.context.chains w.posted) w.positions.queued
    omega
  · intro k hk
    rw [hbegin, hq.descBegin_eq, w.queue.context.distance_wrap hreap (by omega)] at hk
    rw [hq.descBegin_eq, TxQueueContext.and_descMask, wrap_add_mod]
    have hlt : w.positions.reaped + k
        < ((w.queue.context.chains w.posted).take w.positions.queued).flatten.length := by
      show _ < offset (w.queue.context.chains w.posted) w.positions.queued
      omega
    rw [hq.desc_eq (by rwa [length_markReleased]) (Nat.le_add_right _ _),
      markReleased_getElem_lt _ hlt (by omega)]
    exact TxDescriptor.own_release _
  · intro i hi hiq hig
    have hreleased := txAdvance_released w
    constructor
    · intro hip
      have hall := h'.safe.passed_released i hip
      rwa [hchains, hreleased] at hall
    · intro hoff
      refine Nat.lt_of_not_le fun hpi => ?_
      have hlt := hq'.reaped_lt i hi hpi (Nat.lt_of_lt_of_le hiq hqueued) hig
      change (txAdvance w).positions.reaped < offset (txAdvance w).chains (i + 1) at hlt
      rw [hchains, hreaped] at hlt
      omega

end Safe

/-- **The transmit ring is safe in every run.** Both halves are read off the invariant, which holds
before the call and after it. -/
theorem txRing_safe (w : TxWorld) (h : Reach TxWorld.Started txStep w) :
    TxRingSafe w ∧ ∀ w', txStep w .advance = some w' → TxAdvanceSafe w w' ∧ TxRingSafe w' := by
  have hinv := txInv_of_reach h
  refine ⟨hinv.safe, fun w' hstep => ?_⟩
  obtain rfl : txAdvance w = w' := Option.some.inj hstep
  exact ⟨hinv.advanceSafe, (txAdvance_spec hinv).1.safe⟩

/-! ## 4. A run

One packet, from the post to its return. -/

/-- A packet of one fragment, without segmentation or tag. -/
def plainPacket : NetPacket where
  fragmentIndex := 0
  fragmentCount := 1
  ignore := false
  layout := ⟨.unspecified, .unspecified, .unspecified, 14, 0, 0⟩
  ieee8021Q := ⟨0, 0, 0⟩
  gsoMss := 0
  checksum := ⟨0, 0, 0⟩

/-- A queue of four descriptors, before `TxQueueStart`. -/
def plainContext : TxQueueContext where
  lastMss := 0
  lastVlanTag := 0
  descVirtual := fun _ => .context ⟨0, 0, false, false, false, 0, 0⟩
  descPhysical := 0x10000
  descCount := 4
  vlanId := 0
  descBegin := 0
  descEnd := 0
  txDescTailPointer := 0
  descCount_pow2 := four_pow2

/-- A packet posted, queued, sent and handed back: `txRing_safe` at the state it ends in. -/
theorem txRing_safe_of_run : ∃ w, Reach TxWorld.Started txStep w ∧ w.positions.passed = 1
    ∧ TxRingSafe w := by
  have hstart : (TxWorld.start plainContext (emptyRing plainPacket) (emptyRing ⟨0, 0, 0⟩)
      ⟨7, 7⟩).Started :=
    ⟨_, _, _, _, ⟨by decide, rfl, rfl⟩, ⟨by decide, rfl, rfl⟩, rfl⟩
  obtain ⟨w, hw, hpassed⟩ := exists_reach_of_run txStep hstart
    [.post plainPacket [⟨0, 60, 0x8000⟩], .advance, .fetch, .complete, .advance]
    (fun w => w.positions.passed == 1) (by decide +kernel)
  exact ⟨w, hw, by simpa using hpassed, (txRing_safe w hw).1⟩

end WoaRk3576.Net
