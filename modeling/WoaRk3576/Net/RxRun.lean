/-
# The receive queue in every run

The system around the driver: NetAdapterCx posts packets and fragments; the DMA engine takes the
descriptor at `Current_App_RxDesc`, unless it is the one of the tail pointer, and begins to write a
packet into its buffer (`receive`); when the packet is written the engine goes on to the next
descriptor (`complete`), and the write-back of the old one becomes visible some time later, in any
order (`writeBack`).  A call of `RxQueueAdvance` first samples `Current_App_RxDesc` (`sample`) and
finishes later (`finish`), with any progress of the DMA engine in between.  `RxQueueCancel` may
come at any time (`cancel`).

`RxWorld` carries an observer beside the state: what was posted, how many descriptors the engine
completed, and how far `descBegin` and the two `BeginIndex` have moved, measured on the indices
themselves.  `RxLive w descs` is the invariant until the queue is flushed; `descs` is the log of
the descriptors as they are in memory.

`rxRing_safe` is about the queue while it is running.  What is assumed of NetAdapterCx is that it
posts into free elements of a running queue, and not in the middle of a call.

* A descriptor is reaped only once its write-back is visible, since the loop stops at the first one
  that still has `Own` set.  So a write-back that is yet to come is of a descriptor that no call
  has reaped (`RxPendingAt`), and it changes a descriptor of the log and nothing that was given
  back.
* A call gives back a packet with the fragment that was written into its descriptor when this was
  filled.  Packet, fragment and descriptor are entries of one counter, so that they are each
  other's is not a comparison but the same index three times (`RxLive.advanceSafe`).
* What the packet says of its fragment are the 15 bits of the length in the write-back, less the
  CRC (`rxFragment_received`).
-/
import WoaRk3576.Net.RxAdvance
import WoaRk3576.Lib.Transition

namespace WoaRk3576.Net

open WoaRk3576.Lib

/-! ## 1. The world

The device writes a descriptor back some time after it went on to the next one, so a completed
descriptor may still look owned (`pending`).  The driver's call is two steps, the read of the
channel's position and the rest, and anything may happen between them.  `RxQueueCancel` clears
`running` and stops the channel, which finishes the packet that it is receiving. -/

/-- The DMA engine of the channel: `Current_App_RxDesc` as an index, `Rx_Control.Start`, whether
a packet is being written into the buffer of that descriptor, and the descriptors whose
write-back is not visible yet. -/
structure RxDma where
  current : Nat
  start : Bool
  receiving : Bool
  pending : List Nat
  deriving DecidableEq, Repr

/-- How far the indices have moved. -/
structure RxPositions where
  reaped : Nat
  packetsReturned : Nat
  fragmentsReturned : Nat
  filled : Nat
  deriving DecidableEq, Repr

/-- A call turned the queue `q` into `q'`. -/
def RxPositions.advance (p : RxPositions) (q q' : RxQueue) : RxPositions where
  reaped := p.reaped + q.context.distance q.context.descBegin q'.context.descBegin
  packetsReturned := p.packetsReturned
    + q.packetRing.distance q.packetRing.beginIndex q'.packetRing.beginIndex
  fragmentsReturned := p.fragmentsReturned
    + q.fragmentRing.distance q.fragmentRing.beginIndex q'.fragmentRing.beginIndex
  filled := p.filled + q.context.distance q.context.descEnd q'.context.descEnd

structure RxWorld where
  queue : RxQueue
  dma : RxDma
  sampled : Option Nat
  origin : RxOrigin
  packets : List NetPacket
  fragments : List NetFragment
  completed : Nat
  positions : RxPositions

/-- The four words of a written-back descriptor. -/
structure RxWriteBack where
  rdes0 : Nat
  rdes1 : Nat
  rdes2 : Nat
  rdes3 : Nat
  deriving DecidableEq, Repr

inductive RxAction
  | postPacket (packet : NetPacket)
  | postFragment (frag : NetFragment)
  | receive
  | complete
  | writeBack (index : Nat) (words : RxWriteBack)
  | sample
  | finish
  | cancel

/-- `RxQueueStart`, on a queue whose rings are empty and whose DMA engine is at descriptor 0. -/
def RxWorld.start (context : RxQueueContext) (packetRing : NetRing NetPacket)
    (fragmentRing : NetRing NetFragment) : RxWorld where
  queue := ⟨rxQueueStart context, packetRing, fragmentRing⟩
  dma := ⟨0, true, false, []⟩
  sampled := none
  origin := ⟨packetRing.beginIndex, fragmentRing.beginIndex⟩
  packets := []
  fragments := []
  completed := 0
  positions := ⟨0, 0, 0, 0⟩

/-- The states in which a run begins. -/
def RxWorld.Started (w : RxWorld) : Prop :=
  ∃ context packetRing fragmentRing, packetRing.Empty ∧ fragmentRing.Empty
    ∧ w = RxWorld.start context packetRing fragmentRing

/-- The written-back descriptor: the device replaces the four words. -/
def rxWriteBack (index : Nat) (words : RxWriteBack) (context : RxQueueContext) : RxQueueContext :=
  { context with
    descVirtual := Function.update context.descVirtual index
      ⟨words.rdes0, words.rdes1, words.rdes2, words.rdes3,
        (context.descVirtual index).fragmentIndex⟩ }

/-- The device goes on to the next descriptor. -/
def rxComplete (w : RxWorld) : RxWorld :=
  { w with
    dma := { w.dma with
      current := (w.dma.current + 1) &&& w.queue.context.descMask
      receiving := false
      pending := w.dma.current :: w.dma.pending }
    completed := w.completed + 1 }

/-- The rest of `RxQueueAdvance`, after it read `descNext`. -/
def rxFinish (w : RxWorld) (descNext : Nat) : RxWorld :=
  { w with
    queue := rxQueueAdvance descNext w.queue
    sampled := none
    positions := w.positions.advance w.queue (rxQueueAdvance descNext w.queue) }

@[simp] theorem rxFinish_queue (w : RxWorld) (descNext : Nat) :
    (rxFinish w descNext).queue = rxQueueAdvance descNext w.queue := rfl

@[simp] theorem rxFinish_positions (w : RxWorld) (descNext : Nat) :
    (rxFinish w descNext).positions
      = w.positions.advance w.queue (rxQueueAdvance descNext w.queue) := rfl

/-- `RxQueueCancel`, up to its write of `Rx_Control`. -/
def rxQueueCancel (w : RxWorld) : RxWorld :=
  { w with
    queue := { w.queue with context := { w.queue.context with running := false } }
    dma := { w.dma with start := false } }

def rxStep (w : RxWorld) : RxAction → Option RxWorld
  | .postPacket packet =>
    if w.queue.context.running = true ∧ w.sampled = none ∧ 0 < w.queue.packetRing.room then
      some { w with
        queue := { w.queue with packetRing := w.queue.packetRing.append packet }
        packets := w.packets ++ [packet] }
    else none
  | .postFragment frag =>
    if w.queue.context.running = true ∧ w.sampled = none ∧ 0 < w.queue.fragmentRing.room then
      some { w with
        queue := { w.queue with fragmentRing := w.queue.fragmentRing.append frag }
        fragments := w.fragments ++ [frag] }
    else none
  | .receive =>
    if w.dma.start = true ∧ w.dma.receiving = false
        ∧ w.queue.context.descAddress w.dma.current ≠ w.queue.context.rxDescTailPointer then
      some { w with dma := { w.dma with receiving := true } }
    else none
  | .complete => if w.dma.receiving = true then some (rxComplete w) else none
  | .writeBack index words =>
    if index ∈ w.dma.pending ∧ words.rdes3.testBit 31 = false then
      some { w with
        queue := { w.queue with context := rxWriteBack index words w.queue.context }
        dma := { w.dma with pending := w.dma.pending.erase index } }
    else none
  | .sample =>
    if w.sampled = none then
      some { w with
        sampled := some (queueDescriptorAddressToIndex
          (w.queue.context.descAddress w.dma.current)) }
    else none
  | .finish => w.sampled.map (rxFinish w)
  | .cancel => some (rxQueueCancel w)

/-! ## 2. The invariant

`RxLive` holds until a cancelled queue is flushed.  The device is somewhere between the reaped and
the filled counter, and the write-backs that are to come are of descriptors between the reaped
counter and the device.  A sampled position is an old counter of the device, so it is not past the
new one; this is why the two steps of a call may lie apart. -/

/-- The descriptors whose write-back is not visible yet: each is a completed one that was not
reaped, still marked as owned. -/
structure RxPendingAt (descCount : Nat) (descs : List RxDescriptor) (reaped completed : Nat)
    (pending : List Nat) : Prop where
  nodup : pending.Nodup
  own : ∀ j ∈ pending, ∃ i, ∃ h : i < descs.length, reaped ≤ i ∧ i < completed
    ∧ j = wrap descCount 0 i ∧ descs[i].own = true

/-- **The invariant until the queue is flushed.** -/
structure RxLive (w : RxWorld) (descs : List RxDescriptor) : Prop where
  queueAt : RxQueueAt w.origin w.packets w.fragments descs w.positions.reaped w.queue
  packetsReturned_eq : w.positions.packetsReturned = w.positions.reaped
  fragmentsReturned_eq : w.positions.fragmentsReturned = w.positions.reaped
  filled_eq : w.positions.filled = descs.length
  start_eq : w.dma.start = w.queue.context.running
  current_eq : w.dma.current = wrap w.queue.context.descCount 0 w.completed
  reaped_le : w.positions.reaped ≤ w.completed
  completed_le : w.completed ≤ descs.length
  receiving_lt : w.dma.receiving = true → w.completed < descs.length
  sampledAt : ∀ c, w.sampled = some c → ∃ n, w.positions.reaped ≤ n ∧ n ≤ w.completed
    ∧ c = wrap w.queue.context.descCount 0 n
  pendingAt : RxPendingAt w.queue.context.descCount descs w.positions.reaped w.completed
    w.dma.pending
  handed : ∀ i (h : i < descs.length), w.completed ≤ i → ∃ hf : i < w.fragments.length,
    descs[i] = rxDescriptorRead w.fragments[i].logicalAddress
      (wrap w.queue.fragmentRing.numberOfElements w.origin.fragmentStart i)

theorem RxQueueContext.descCount_pos (context : RxQueueContext) : 0 < context.descCount := by
  obtain ⟨k, -, hk⟩ := context.descCount_pow2
  exact hk ▸ Nat.two_pow_pos k

/-- `QueueDescriptorAddressToIndex` inverts `SetDescEnd`'s address. -/
theorem queueDescriptorAddressToIndex_descAddress (context : RxQueueContext) {i : Nat}
    (hi : i < context.descCount) :
    queueDescriptorAddressToIndex (context.descAddress i) = i := by
  obtain ⟨k, hk, hcount⟩ := context.descCount_pow2
  have hmax : context.descCount ≤ 2 ^ 10 := hcount ▸ Nat.pow_le_pow_right (by omega) hk
  have haligned := context.aligned
  have halign : queueDescriptorAlignment = 2 ^ 16 := by decide
  rw [halign] at haligned
  rw [queueDescriptorAddressToIndex, halign, Nat.and_two_pow_sub_one_eq_mod,
    RxQueueContext.descAddress]
  omega

section Live

variable {w w' : RxWorld} {descs : List RxDescriptor}

theorem RxLive.start {context : RxQueueContext} {packetRing : NetRing NetPacket}
    {fragmentRing : NetRing NetFragment} (hp : packetRing.Empty) (hf : fragmentRing.Empty) :
    RxLive (RxWorld.start context packetRing fragmentRing) [] := by
  have hpos := context.descCount_pos
  have hzero : 0 = wrap context.descCount 0 0 := (wrap_zero_eq hpos).symm
  refine ⟨⟨hp.holds, hf.holds, Window.empty hpos _ _, ?_, hzero, hzero, rfl, Nat.le_refl _,
    fun i hi => absurd hi (Nat.not_lt_zero i)⟩, rfl, rfl, rfl, rfl, hzero, Nat.le_refl _,
    Nat.le_refl _, fun h => absurd h Bool.false_ne_true,
    fun c h => absurd h (by simp [RxWorld.start]),
    ⟨List.nodup_nil, fun j hj => absurd hj List.not_mem_nil⟩,
    fun i hi => absurd hi (Nat.not_lt_zero i)⟩
  show fragmentRing.nextIndex = wrap fragmentRing.numberOfElements fragmentRing.beginIndex 0
  rw [wrap_start hf.1, hf.2.1]

/-! ### NetAdapterCx and the device

Posting extends the logs of the rings and touches no descriptor.  The device begins a packet in the
descriptor at its position, completes it, and writes it back at some later time; only the last of
these changes what the driver reads. -/

theorem RxLive.postPacket (h : RxLive w descs) {packet : NetPacket}
    (hroom : 0 < w.queue.packetRing.room) :
    RxLive { w with
      queue := { w.queue with packetRing := w.queue.packetRing.append packet }
      packets := w.packets ++ [packet] } descs :=
  have hq := h.queueAt
  { h with
    queueAt := ⟨hq.packetsHeld.append hroom packet, hq.fragmentsHeld, hq.window, hq.nextIndex_eq,
      hq.descBegin_eq, hq.descEnd_eq, hq.tail_eq, hq.filled_le, hq.fragmentIndex_eq⟩ }

theorem RxLive.postFragment (h : RxLive w descs) {frag : NetFragment}
    (hroom : 0 < w.queue.fragmentRing.room) :
    RxLive { w with
      queue := { w.queue with fragmentRing := w.queue.fragmentRing.append frag }
      fragments := w.fragments ++ [frag] } descs := by
  have hq := h.queueAt
  refine { h with
    queueAt := ⟨hq.packetsHeld, hq.fragmentsHeld.append hroom frag, hq.window, hq.nextIndex_eq,
      hq.descBegin_eq, hq.descEnd_eq, hq.tail_eq, ?_, hq.fragmentIndex_eq⟩
    handed := ?_ }
  · rw [List.length_append]
    exact Nat.le_add_right_of_le hq.filled_le
  · intro i hi hci
    obtain ⟨hf, heq⟩ := h.handed i hi hci
    refine ⟨by rw [List.length_append]; exact Nat.lt_add_right _ hf, ?_⟩
    rw [List.getElem_append_left hf]
    exact heq

/-- The device begins a packet only in a descriptor that the driver filled. -/
theorem RxLive.receive (h : RxLive w descs)
    (htail : w.queue.context.descAddress w.dma.current ≠ w.queue.context.rxDescTailPointer) :
    RxLive { w with dma := { w.dma with receiving := true } } descs := by
  refine { h with receiving_lt := fun _ => ?_ }
  rcases Nat.eq_or_lt_of_le h.completed_le with heq | hlt
  · refine absurd ?_ htail
    rw [h.queueAt.tail_eq, h.queueAt.descEnd_eq, h.current_eq, heq]
  · exact hlt

/-- **The device completes a descriptor**: its write-back is to come. -/
theorem RxLive.complete (h : RxLive w descs) (hreceiving : w.dma.receiving = true) :
    RxLive (rxComplete w) descs := by
  have hlt := h.receiving_lt hreceiving
  have hreaped := h.reaped_le
  have hcount := h.queueAt.filled_lt
  refine { h with
    current_eq := ?_
    reaped_le := Nat.le_succ_of_le hreaped
    completed_le := hlt
    receiving_lt := fun h => absurd h Bool.false_ne_true
    sampledAt := fun c hc => ?_
    pendingAt := ⟨?_, ?_⟩
    handed := fun i hi hci => h.handed i hi (Nat.le_of_succ_le hci) }
  · show (w.dma.current + 1) &&& w.queue.context.descMask = _
    rw [RxQueueContext.and_descMask, h.current_eq, wrap_add_mod]
    rfl
  · obtain ⟨n, hn, hnc, rfl⟩ := h.sampledAt c hc
    exact ⟨n, hn, Nat.le_succ_of_le hnc, rfl⟩
  · refine List.nodup_cons.mpr ⟨fun hmem => ?_, h.pendingAt.nodup⟩
    obtain ⟨i, hi, hri, hic, heq, -⟩ := h.pendingAt.own _ hmem
    rw [h.current_eq] at heq
    exact wrap_ne hic (by omega) heq.symm
  · intro j hj
    rcases List.mem_cons.mp hj with rfl | hj
    · obtain ⟨hf, hdesc⟩ := h.handed w.completed hlt (Nat.le_refl _)
      refine ⟨w.completed, hlt, hreaped, Nat.lt_succ_self _, h.current_eq, ?_⟩
      rw [hdesc, own_rxDescriptorRead]
    · obtain ⟨i, hi, hri, hic, heq, hown⟩ := h.pendingAt.own j hj
      exact ⟨i, hi, hri, Nat.lt_succ_of_lt hic, heq, hown⟩

/-- **A write-back becomes visible**: it changes one descriptor that was not reaped. -/
theorem RxLive.writeBack (h : RxLive w descs) {index : Nat} {words : RxWriteBack}
    (hmem : index ∈ w.dma.pending) :
    ∃ descs', RxLive { w with
      queue := { w.queue with context := rxWriteBack index words w.queue.context }
      dma := { w.dma with pending := w.dma.pending.erase index } } descs' := by
  have hq := h.queueAt
  obtain ⟨i, hi, hri, hic, rfl, -⟩ := h.pendingAt.own index hmem
  have hcell : w.queue.context.descVirtual (wrap w.queue.context.descCount 0 i) = descs[i] :=
    hq.window.holds i hi hri
  refine ⟨descs.set i ⟨words.rdes0, words.rdes1, words.rdes2, words.rdes3,
    descs[i].fragmentIndex⟩, { h with
      queueAt := ⟨hq.packetsHeld, hq.fragmentsHeld, ?_, ?_, hq.descBegin_eq, ?_, hq.tail_eq, ?_, ?_⟩
      filled_eq := by rw [List.length_set]; exact h.filled_eq
      completed_le := ?_
      receiving_lt := ?_
      pendingAt := ⟨h.pendingAt.nodup.erase _, ?_⟩
      handed := ?_ }⟩
  · show Window _ _ (Function.update _ _ _) _ _
    rw [hcell]
    exact hq.window.set hi hri _
  · rw [List.length_set]
    exact hq.nextIndex_eq
  · rw [List.length_set]
    exact hq.descEnd_eq
  · rw [List.length_set]
    exact hq.filled_le
  · intro k hk
    rw [List.length_set] at hk
    rcases Nat.decEq i k with hne | rfl
    · rw [List.getElem_set_ne hne]
      exact hq.fragmentIndex_eq k hk
    · rw [List.getElem_set_self]
      exact hq.fragmentIndex_eq i hk
  · rw [List.length_set]
    exact h.completed_le
  · rw [List.length_set]
    exact h.receiving_lt
  · intro j hj
    obtain ⟨hne, hj⟩ := (h.pendingAt.nodup.mem_erase_iff).mp hj
    obtain ⟨k, hk, hrk, hkc, rfl, hown⟩ := h.pendingAt.own j hj
    have hik : i ≠ k := fun heq => hne (heq ▸ rfl)
    refine ⟨k, by rwa [List.length_set], hrk, hkc, rfl, ?_⟩
    rw [List.getElem_set_ne hik]
    exact hown
  · intro k hk hck
    rw [List.length_set] at hk
    have hne : i ≠ k := fun heq => Nat.not_lt.mpr hck (heq ▸ hic)
    rw [List.getElem_set_ne hne]
    exact h.handed k hk hck

theorem RxLive.sample (h : RxLive w descs) :
    RxLive { w with
      sampled := some (queueDescriptorAddressToIndex
        (w.queue.context.descAddress w.dma.current)) } descs := by
  refine { h with sampledAt := fun c hc => ⟨w.completed, h.reaped_le, Nat.le_refl _, ?_⟩ }
  have hlt : w.dma.current < w.queue.context.descCount := by
    rw [h.current_eq]
    exact wrap_lt w.queue.context.descCount_pos _ _
  rw [queueDescriptorAddressToIndex_descAddress _ hlt, Option.some.injEq] at hc
  rw [← hc, h.current_eq]

theorem RxLive.cancel (h : RxLive w descs) : RxLive (rxQueueCancel w) descs :=
  have hq := h.queueAt
  { h with
    queueAt := ⟨hq.packetsHeld, hq.fragmentsHeld, hq.window, hq.nextIndex_eq, hq.descBegin_eq,
      hq.descEnd_eq, hq.tail_eq, hq.filled_le, hq.fragmentIndex_eq⟩
    start_eq := rfl }

/-! ### `RxQueueAdvance`

A call moves the counters from where the reaping and the filling began to where they ended.  The
position of the device was sampled some time before, and the device may have gone on since. -/

/-- The observer's counts after a call, when the queue was at counter `b` and is at `t`, and `log`
is what was filled until then. -/
theorem RxQueueAt.positions_advance {o : RxOrigin} {packets : List NetPacket}
    {fragments : List NetFragment} {log : List RxDescriptor} {b t : Nat} {q q' : RxQueue}
    (h : RxQueueAt o packets fragments descs b q) (h' : RxQueueAt o packets fragments log t q')
    (hbt : b ≤ t) (ht : t ≤ descs.length) (hpre : descs <+: log)
    (hcount : q'.context.descCount = q.context.descCount)
    (hpackets : q'.packetRing.numberOfElements = q.packetRing.numberOfElements)
    (hfragments : q'.fragmentRing.numberOfElements = q.fragmentRing.numberOfElements) :
    RxPositions.advance ⟨b, b, b, descs.length⟩ q q' = ⟨t, t, t, log.length⟩ := by
  have hfilled := h.filled_le
  have hdlt := h.filled_lt
  have hplt := h.packetsHeld.window.lt_lo_add
  have hple := h'.packetsHeld.lo_le
  have hflt := h.fragmentsHeld.window.lt_lo_add
  have hd : q.context.distance q.context.descBegin q'.context.descBegin = t - b := by
    rw [h.descBegin_eq, h'.descBegin_eq, hcount]
    exact q.context.distance_wrap hbt (by omega)
  have hp : q.packetRing.distance q.packetRing.beginIndex q'.packetRing.beginIndex = t - b := by
    rw [h.packetsHeld.beginIndex_eq, h'.packetsHeld.beginIndex_eq, hpackets]
    exact q.packetRing.distance_wrap _ hbt (by omega)
  have hf : q.fragmentRing.distance q.fragmentRing.beginIndex q'.fragmentRing.beginIndex
      = t - b := by
    rw [h.fragmentsHeld.beginIndex_eq, h'.fragmentsHeld.beginIndex_eq, hfragments]
    exact q.fragmentRing.distance_wrap _ hbt (by omega)
  have hlen := hpre.length_le
  have hend : q.context.distance q.context.descEnd q'.context.descEnd
      = log.length - descs.length := by
    have hlt := h'.filled_lt
    rw [hcount] at hlt
    rw [h.descEnd_eq, h'.descEnd_eq, hcount]
    exact q.context.distance_wrap hlen (by omega)
  rw [RxPositions.advance, hd, hp, hf, hend, Nat.add_sub_cancel' hbt, Nat.add_sub_cancel' hlen]

theorem RxLive.positions_eq (h : RxLive w descs) : w.positions
    = ⟨w.positions.reaped, w.positions.reaped, w.positions.reaped, descs.length⟩ := by
  calc w.positions = ⟨w.positions.reaped, w.positions.packetsReturned,
        w.positions.fragmentsReturned, w.positions.filled⟩ := rfl
    _ = _ := by rw [h.packetsReturned_eq, h.fragmentsReturned_eq, h.filled_eq]

/-- The write-backs to come are of descriptors that a call does not reap. -/
theorem RxPendingAt.advance {descCount b c t : Nat} {log : List RxDescriptor} {pending : List Nat}
    (h : RxPendingAt descCount descs b c pending) (hpre : descs <+: log)
    (hreleased : ∀ i (h : i < descs.length), b ≤ i → i < t → descs[i].own = false) :
    RxPendingAt descCount log t c pending := by
  refine ⟨h.nodup, fun j hj => ?_⟩
  obtain ⟨i, hi, hbi, hic, heq, hown⟩ := h.own j hj
  have hti : t ≤ i := by
    refine Nat.le_of_not_lt fun hit => ?_
    rw [hreleased i hi hbi hit] at hown
    exact Bool.false_ne_true hown
  refine ⟨i, Nat.lt_of_lt_of_le hi hpre.length_le, hti, hic, heq, ?_⟩
  rw [← hpre.getElem hi]
  exact hown

theorem rxQueueAdvance_of_running {descNext : Nat} {q : RxQueue}
    (h : q.context.running = true) :
    rxQueueAdvance descNext q = rxQueueFill descNext (rxQueueReap descNext q) :=
  if_pos h

theorem rxQueueAdvance_of_cancelled {descNext : Nat} {q : RxQueue}
    (h : q.context.running = false) :
    rxQueueAdvance descNext q = rxQueueFlush descNext (rxQueueReap descNext q) :=
  if_neg (by rw [show (rxQueueReap descNext q).context.running = false from h]; decide)

/-- **A call while the queue is running**: it reaps the descriptors up to some `t` and fills
others. -/
theorem rxQueueAdvance_spec {o : RxOrigin} {packets : List NetPacket}
    {fragments : List NetFragment} {b c : Nat} {q : RxQueue}
    (h : RxQueueAt o packets fragments descs b q) (hrun : q.context.running = true)
    (hbc : b ≤ c) (hc : c ≤ descs.length) :
    ∃ t log, b ≤ t ∧ t ≤ c
      ∧ RxReaped o descs b t q (rxQueueReap (wrap q.context.descCount 0 c) q)
      ∧ RxFilled o fragments descs log t (rxQueueReap (wrap q.context.descCount 0 c) q)
          (rxQueueAdvance (wrap q.context.descCount 0 c) q)
      ∧ RxQueueAt o packets fragments log t (rxQueueAdvance (wrap q.context.descCount 0 c) q)
      ∧ ((rxFillDescs (rxQueueReap (wrap q.context.descCount 0 c) q)).descIndex
          = wrap q.context.descCount 0 c → log = descs) := by
  obtain ⟨t, hbt, htc, hreaped, hmid⟩ := rxQueueReap_spec h hbc hc
  rw [rxQueueAdvance_of_running hrun]
  obtain ⟨log, hfilled, hend, hskip⟩ := rxQueueFill_spec hmid htc hc
  exact ⟨t, log, hbt, htc, hreaped, hfilled, hend, hskip⟩

/-- **The invariant after a call that did not flush.** -/
theorem RxLive.advanced (h : RxLive w descs) {descNext t : Nat} {log : List RxDescriptor}
    (hq' : RxQueueAt w.origin w.packets w.fragments log t (rxQueueAdvance descNext w.queue))
    (hbt : w.positions.reaped ≤ t) (htc : t ≤ w.completed) (hpre : descs <+: log)
    (hreleased : ∀ i (h : i < descs.length), w.positions.reaped ≤ i → i < t →
      descs[i].own = false)
    (hhanded : ∀ i (h : i < log.length), descs.length ≤ i → ∃ hf : i < w.fragments.length,
      log[i] = rxDescriptorRead w.fragments[i].logicalAddress
        (wrap w.queue.fragmentRing.numberOfElements w.origin.fragmentStart i))
    (hrunning : (rxQueueAdvance descNext w.queue).context.running = w.queue.context.running)
    (hcount : (rxQueueAdvance descNext w.queue).context.descCount = w.queue.context.descCount)
    (hpackets : (rxQueueAdvance descNext w.queue).packetRing.numberOfElements
      = w.queue.packetRing.numberOfElements)
    (hfragments : (rxQueueAdvance descNext w.queue).fragmentRing.numberOfElements
      = w.queue.fragmentRing.numberOfElements) :
    RxLive (rxFinish w descNext) log ∧ (rxFinish w descNext).positions = ⟨t, t, t, log.length⟩ := by
  have hpos : (rxFinish w descNext).positions = ⟨t, t, t, log.length⟩ := by
    rw [rxFinish_positions, h.positions_eq]
    exact h.queueAt.positions_advance hq' hbt (Nat.le_trans htc h.completed_le) hpre hcount
      hpackets hfragments
  have hreaped : (rxFinish w descNext).positions.reaped = t := by rw [hpos]
  refine ⟨⟨?_, by rw [hpos], by rw [hpos], by rw [hpos], ?_, ?_, ?_, ?_, ?_, ?_, ?_, ?_⟩, hpos⟩
  · rw [hreaped]
    exact hq'
  · exact h.start_eq.trans hrunning.symm
  · exact h.current_eq.trans (by rw [← hcount]; rfl)
  · rw [hreaped]
    exact htc
  · exact Nat.le_trans h.completed_le hpre.length_le
  · exact fun hr => Nat.lt_of_lt_of_le (h.receiving_lt hr) hpre.length_le
  · intro c hc
    exact absurd hc (by simp [rxFinish])
  · rw [hreaped]
    rw [rxFinish_queue, hcount]
    exact h.pendingAt.advance hpre hreleased
  · intro i hi hci
    show ∃ hf : i < w.fragments.length, log[i] = rxDescriptorRead w.fragments[i].logicalAddress
      (wrap (rxQueueAdvance descNext w.queue).fragmentRing.numberOfElements
        w.origin.fragmentStart i)
    rw [hfragments]
    rcases Nat.lt_or_ge i descs.length with hlt | hge
    · rw [← hpre.getElem hlt]
      exact h.handed i hlt hci
    · exact hhanded i hi hge

/-- **A call while the queue is running keeps the invariant.** -/
theorem RxLive.finish_running (h : RxLive w descs) (hrun : w.queue.context.running = true)
    {descNext : Nat} (hs : w.sampled = some descNext) :
    ∃ log, RxLive (rxFinish w descNext) log := by
  obtain ⟨c, hbc, hcc, rfl⟩ := h.sampledAt descNext hs
  obtain ⟨t, log, hbt, htc, hreaped, hfilled, hend, -⟩ :=
    rxQueueAdvance_spec h.queueAt hrun hbc (Nat.le_trans hcc h.completed_le)
  refine ⟨log, (h.advanced hend hbt (Nat.le_trans htc hcc) hfilled.prefix_eq hreaped.released
    ?_ ?_ ?_ ?_ ?_).1⟩
  · intro i hi hdi
    rw [← hreaped.fragmentSize]
    exact hfilled.filled i hi hdi
  · exact hfilled.running_eq.trans (by rw [hreaped.context_eq])
  · exact hfilled.descCount_eq.trans (by rw [hreaped.context_eq])
  · rw [hfilled.packetRing_eq, hreaped.packetSize]
  · rw [hfilled.fragmentSize, hreaped.fragmentSize]

theorem rxQueueAdvance_running (descNext : Nat) (q : RxQueue) :
    (rxQueueAdvance descNext q).context.running = q.context.running := by
  cases hrun : q.context.running with
  | true =>
    rw [rxQueueAdvance_of_running hrun]
    by_cases heq : (rxFillDescs (rxQueueReap descNext q)).descIndex = descNext
    · rw [rxQueueFill_of_eq heq]
      exact hrun
    · rw [rxQueueFill_of_ne heq]
      exact hrun
  | false =>
    rw [rxQueueAdvance_of_cancelled hrun, rxQueueFlush]
    split
    · exact hrun
    · exact hrun

/-- A queue that is running was running before: it is never restarted in a run. -/
theorem running_of_step {a : RxAction} (hstep : rxStep w a = some w')
    (hrun : w'.queue.context.running = true) : w.queue.context.running = true := by
  cases a <;> simp only [rxStep] at hstep
  case finish =>
    obtain ⟨descNext, -, rfl⟩ := Option.map_eq_some_iff.mp hstep
    rwa [← rxQueueAdvance_running descNext]
  case cancel =>
    cases hstep
    exact absurd hrun Bool.false_ne_true
  all_goals
    split at hstep
    · cases hstep
      exact hrun
    · cases hstep

/-- **Every step of a running queue keeps the invariant.** Each action has its own lemma above.  A
cancelled queue is let in but for its calls, which may flush. -/
theorem RxLive.step (h : RxLive w descs) {a : RxAction} (hstep : rxStep w a = some w')
    (hrun : a = .finish → w.queue.context.running = true) : ∃ log, RxLive w' log := by
  cases a <;> simp only [rxStep] at hstep
  case finish =>
    obtain ⟨descNext, hs, rfl⟩ := Option.map_eq_some_iff.mp hstep
    exact h.finish_running (hrun rfl) hs
  case cancel =>
    cases hstep
    exact ⟨descs, h.cancel⟩
  all_goals
    split at hstep
    swap
    · cases hstep
    rename_i hcond
    cases hstep
  case postPacket => exact ⟨descs, h.postPacket hcond.2.2⟩
  case postFragment => exact ⟨descs, h.postFragment hcond.2.2⟩
  case receive => exact ⟨descs, h.receive hcond.2.2⟩
  case complete => exact ⟨descs, h.complete hcond⟩
  case writeBack => exact h.writeBack hcond.1
  case sample => exact ⟨descs, h.sample⟩

theorem rxLive_of_reach (h : Reach RxWorld.Started rxStep w)
    (hrun : w.queue.context.running = true) : ∃ descs, RxLive w descs := by
  refine Reach.invariant (I := fun w => w.queue.context.running = true → ∃ descs, RxLive w descs)
    ?_ ?_ h hrun
  · rintro _ ⟨context, packetRing, fragmentRing, hp, hf, rfl⟩ -
    exact ⟨[], RxLive.start hp hf⟩
  · intro w a w' ih hstep hrun'
    have hrun := running_of_step hstep hrun'
    obtain ⟨descs, hlive⟩ := ih hrun
    exact hlive.step hstep fun _ => hrun

end Live

/-! ## 3. The receive ring is safe

With the counters in order, the region of the ring is read off entry by entry.  That two
descriptors are never filled with one fragment is a matter of lengths: the counters in use are less
than one turn of either ring apart. -/

/-- The index of the descriptor `k` after `descBegin`. -/
def RxQueue.descIndex (q : RxQueue) (k : Nat) : Nat :=
  (q.context.descBegin + k) &&& q.context.descMask

/-- The index of the fragment `k` after `BeginIndex`. -/
def RxQueue.fragmentIndex (q : RxQueue) (k : Nat) : Nat :=
  netRingAdvanceIndex q.fragmentRing q.fragmentRing.beginIndex k

/-- The index of the packet `k` after `BeginIndex`. -/
def RxQueue.packetIndex (q : RxQueue) (k : Nat) : Nat :=
  netRingAdvanceIndex q.packetRing q.packetRing.beginIndex k

/-- The descriptors handed to the device and not yet reaped. -/
def RxQueue.inFlight (q : RxQueue) : Nat :=
  q.context.distance q.context.descBegin q.context.descEnd

/-- **A state of the ring**: the descriptors that were filled and not reaped are the receive region,
and one of the ring stays unused; there are as many of them as fragments from `BeginIndex` to
`NextIndex`; descriptor `k` of the region was filled with fragment `k`, and no two with one
fragment; those the device has still to receive into are as the driver filled them, the device
owns them, and they have the address of their fragment. -/
structure RxRingSafe (w : RxWorld) : Prop where
  inFlight_eq : w.positions.filled = w.positions.reaped + w.queue.inFlight
  inFlight_le : w.positions.filled ≤ w.positions.reaped + (w.queue.context.descCount - 1)
  fragments_eq : w.queue.fragmentRing.distance w.queue.fragmentRing.beginIndex
    w.queue.fragmentRing.nextIndex = w.queue.inFlight
  one_to_one : ∀ k < w.queue.inFlight,
    (w.queue.context.descVirtual (w.queue.descIndex k)).fragmentIndex = w.queue.fragmentIndex k
  distinct : ∀ j < w.queue.inFlight, ∀ k < w.queue.inFlight,
    w.queue.fragmentIndex j = w.queue.fragmentIndex k → j = k
  current_le : w.queue.context.distance w.queue.context.descBegin w.dma.current
    ≤ w.queue.inFlight
  handed : ∀ k < w.queue.inFlight,
    w.queue.context.distance w.queue.context.descBegin w.dma.current ≤ k →
    w.queue.context.descVirtual (w.queue.descIndex k)
      = rxDescriptorRead (w.queue.fragmentRing.buffer (w.queue.fragmentIndex k)).logicalAddress
          (w.queue.fragmentIndex k)
  handed_address : ∀ k < w.queue.inFlight,
    w.queue.context.distance w.queue.context.descBegin w.dma.current ≤ k →
    (w.queue.context.descVirtual (w.queue.descIndex k)).own = true
      ∧ (w.queue.context.descVirtual (w.queue.descIndex k)).rdes0
          + 2 ^ 32 * (w.queue.context.descVirtual (w.queue.descIndex k)).rdes1
        = (w.queue.fragmentRing.buffer (w.queue.fragmentIndex k)).logicalAddress % 2 ^ 64

/-- The descriptor has one whole packet, received without error. -/
def RxDescriptor.Whole (d : RxDescriptor) : Prop :=
  d.errorSummary = false ∧ d.contextType = false ∧ d.firstDescriptor = true
    ∧ d.lastDescriptor = true

/-- **A call of `RxQueueAdvance`** from `w` to `w'`: the descriptors that stay in the region are
not written; each of those reaped had been released by the device; `descBegin` and both
`BeginIndex` move together; and when the loop that fills descriptors ends at the sampled position,
nothing was filled.

Each descriptor reaped gives one packet, no two the same one.  The packet has one fragment, the one
the descriptor was filled with; that fragment has the length received without the four bytes of the
CRC, or no length if the descriptor has not one whole packet, and then the packet is one to ignore.
Packets and fragments other than these are not written. -/
structure RxAdvanceSafe (w w' : RxWorld) : Prop where
  kept : ∀ k < w'.queue.context.distance w'.queue.context.descBegin w.queue.context.descEnd,
    w'.queue.context.descVirtual (w'.queue.descIndex k)
      = w.queue.context.descVirtual (w'.queue.descIndex k)
  released : ∀ k < w.queue.context.distance w.queue.context.descBegin w'.queue.context.descBegin,
    (w.queue.context.descVirtual (w.queue.descIndex k)).own = false
  packets_eq : w.queue.packetRing.distance w.queue.packetRing.beginIndex
      w'.queue.packetRing.beginIndex
    = w.queue.context.distance w.queue.context.descBegin w'.queue.context.descBegin
  fragments_eq : w.queue.fragmentRing.distance w.queue.fragmentRing.beginIndex
      w'.queue.fragmentRing.beginIndex
    = w.queue.context.distance w.queue.context.descBegin w'.queue.context.descBegin
  packet_eq : ∀ k < w.queue.context.distance w.queue.context.descBegin
      w'.queue.context.descBegin,
    w'.queue.packetRing.buffer (w.queue.packetIndex k)
      = rxPacket (w.queue.context.descVirtual (w.queue.descIndex k))
          (w.queue.context.descVirtual (w.queue.descIndex k)).fragmentIndex
          (w.queue.packetRing.buffer (w.queue.packetIndex k))
  fragment_eq : ∀ k < w.queue.context.distance w.queue.context.descBegin
      w'.queue.context.descBegin,
    w'.queue.fragmentRing.buffer (w.queue.fragmentIndex k)
      = rxFragment (w.queue.context.descVirtual (w.queue.descIndex k))
          (w.queue.fragmentRing.buffer (w.queue.fragmentIndex k))
  packet_indicated : ∀ k < w.queue.context.distance w.queue.context.descBegin
      w'.queue.context.descBegin,
    (w'.queue.packetRing.buffer (w.queue.packetIndex k)).fragmentIndex = w.queue.fragmentIndex k
      ∧ (w'.queue.packetRing.buffer (w.queue.packetIndex k)).fragmentCount = 1
      ∧ (¬ (w.queue.context.descVirtual (w.queue.descIndex k)).Whole →
        (w'.queue.packetRing.buffer (w.queue.packetIndex k)).ignore = true)
      ∧ ((w.queue.context.descVirtual (w.queue.descIndex k)).Whole →
        (w'.queue.packetRing.buffer (w.queue.packetIndex k)).ignore
          = (w.queue.packetRing.buffer (w.queue.packetIndex k)).ignore)
  fragment_received : ∀ k < w.queue.context.distance w.queue.context.descBegin
      w'.queue.context.descBegin,
    (w'.queue.fragmentRing.buffer (w.queue.fragmentIndex k)).logicalAddress
        = (w.queue.fragmentRing.buffer (w.queue.fragmentIndex k)).logicalAddress
      ∧ (w'.queue.fragmentRing.buffer (w.queue.fragmentIndex k)).offset = 0
      ∧ (¬ (w.queue.context.descVirtual (w.queue.descIndex k)).Whole →
        (w'.queue.fragmentRing.buffer (w.queue.fragmentIndex k)).validLength = 0)
      ∧ ((w.queue.context.descVirtual (w.queue.descIndex k)).Whole →
        4 ≤ (w.queue.context.descVirtual (w.queue.descIndex k)).packetLength →
        (w'.queue.fragmentRing.buffer (w.queue.fragmentIndex k)).validLength.val + 4
          = (w.queue.context.descVirtual (w.queue.descIndex k)).packetLength)
  packet_distinct : ∀ j < w.queue.context.distance w.queue.context.descBegin
      w'.queue.context.descBegin,
    ∀ k < w.queue.context.distance w.queue.context.descBegin w'.queue.context.descBegin,
      w.queue.packetIndex j = w.queue.packetIndex k → j = k
  packet_other : ∀ index,
    (∀ k < w.queue.context.distance w.queue.context.descBegin w'.queue.context.descBegin,
      index ≠ w.queue.packetIndex k) →
    w'.queue.packetRing.buffer index = w.queue.packetRing.buffer index
  fragment_other : ∀ index,
    (∀ k < w.queue.context.distance w.queue.context.descBegin w'.queue.context.descBegin,
      index ≠ w.queue.fragmentIndex k) →
    w'.queue.fragmentRing.buffer index = w.queue.fragmentRing.buffer index
  skipped : ∀ descNext, w.sampled = some descNext →
    (rxFillDescs (rxQueueReap descNext w.queue)).descIndex = descNext →
    w'.queue.context.descVirtual = w.queue.context.descVirtual
      ∧ w'.queue.context.descEnd = w.queue.context.descEnd
      ∧ w'.queue.fragmentRing.nextIndex = w.queue.fragmentRing.nextIndex

/-! ### What the first loop writes

What is indicated is stated of the ring elements and not of the functions that write them: the
packet has its own fragment and no other, and a whole packet's fragment is as long as the packet
without its CRC. -/

theorem RxDescriptor.whole_iff (d : RxDescriptor) : d.Whole ↔ d.dropped = false := by
  simp [RxDescriptor.Whole, RxDescriptor.dropped, and_assoc]

@[simp] theorem rxTag_fragmentIndex (d : RxDescriptor) (pkt : NetPacket) :
    (rxTag d pkt).fragmentIndex = pkt.fragmentIndex := by
  unfold rxTag
  split <;> rfl

@[simp] theorem rxTag_fragmentCount (d : RxDescriptor) (pkt : NetPacket) :
    (rxTag d pkt).fragmentCount = pkt.fragmentCount := by
  unfold rxTag
  split <;> rfl

@[simp] theorem rxTag_ignore (d : RxDescriptor) (pkt : NetPacket) :
    (rxTag d pkt).ignore = pkt.ignore := by
  unfold rxTag
  split <;> rfl

@[simp] theorem rxChecksum_fragmentIndex (d : RxDescriptor) (pkt : NetPacket) :
    (rxChecksum d pkt).fragmentIndex = pkt.fragmentIndex := by
  unfold rxChecksum
  split <;> rfl

@[simp] theorem rxChecksum_fragmentCount (d : RxDescriptor) (pkt : NetPacket) :
    (rxChecksum d pkt).fragmentCount = pkt.fragmentCount := by
  unfold rxChecksum
  split <;> rfl

@[simp] theorem rxChecksum_ignore (d : RxDescriptor) (pkt : NetPacket) :
    (rxChecksum d pkt).ignore = pkt.ignore := by
  unfold rxChecksum
  split <;> rfl

/-- The packet of a descriptor has its fragment, and no other. -/
theorem rxPacket_indicated (d : RxDescriptor) (fragIndex : Nat) (pkt : NetPacket) :
    (rxPacket d fragIndex pkt).fragmentIndex = fragIndex
      ∧ (rxPacket d fragIndex pkt).fragmentCount = 1
      ∧ (¬ d.Whole → (rxPacket d fragIndex pkt).ignore = true)
      ∧ (d.Whole → (rxPacket d fragIndex pkt).ignore = pkt.ignore) := by
  rw [d.whole_iff]
  unfold rxPacket
  cases hdropped : d.dropped with
  | true => exact ⟨rfl, rfl, fun _ => rfl, fun h => absurd h (by decide)⟩
  | false =>
    refine ⟨?_, ?_, fun h => absurd rfl h, fun _ => ?_⟩
    · exact (rxChecksum_fragmentIndex _ _).trans (rxTag_fragmentIndex _ _)
    · exact (rxChecksum_fragmentCount _ _).trans (rxTag_fragmentCount _ _)
    · exact (rxChecksum_ignore _ _).trans (rxTag_ignore _ _)

/-- `PacketLength` has 15 bits, so its difference with 4 fits the 26 bits of `ValidLength`. -/
theorem rxFragment_received (d : RxDescriptor) (frag : NetFragment) :
    (rxFragment d frag).logicalAddress = frag.logicalAddress
      ∧ (rxFragment d frag).offset = 0
      ∧ (¬ d.Whole → (rxFragment d frag).validLength = 0)
      ∧ (d.Whole → 4 ≤ d.packetLength →
        (rxFragment d frag).validLength.val + 4 = d.packetLength) := by
  rw [d.whole_iff]
  unfold rxFragment
  cases hdropped : d.dropped with
  | true => exact ⟨rfl, rfl, fun _ => rfl, fun h => absurd h (by decide)⟩
  | false =>
    refine ⟨rfl, rfl, fun h => absurd rfl h, fun _ hcrc => ?_⟩
    have hlength : d.packetLength < 2 ^ 15 := Nat.mod_lt _ (by norm_num)
    have hval : (Fin.ofNat (2 ^ 26) (d.packetLength + 2 ^ 26 - 4)).val
        = (d.packetLength + 2 ^ 26 - 4) % 2 ^ 26 := rfl
    have hsub : d.packetLength + 2 ^ 26 - 4 = d.packetLength - 4 + 2 ^ 26 := by omega
    rw [if_neg Bool.false_ne_true, hval, hsub, Nat.add_mod_right, Nat.mod_eq_of_lt (by omega)]
    omega

/-- The two words of the address. -/
theorem rxDescriptorRead_address (fragLogicalAddress fragIndex : Nat) :
    (rxDescriptorRead fragLogicalAddress fragIndex).rdes0
        + 2 ^ 32 * (rxDescriptorRead fragLogicalAddress fragIndex).rdes1
      = fragLogicalAddress % 2 ^ 64 := by
  show fragLogicalAddress % 2 ^ 32 + 2 ^ 32 * (fragLogicalAddress / 2 ^ 32 % 2 ^ 32) = _
  omega

section Safe

variable {o : RxOrigin} {packets : List NetPacket} {fragments : List NetFragment}
  {descs : List RxDescriptor} {b : Nat} {q : RxQueue}

theorem RxQueueAt.descIndex_eq (h : RxQueueAt o packets fragments descs b q) (k : Nat) :
    q.descIndex k = wrap q.context.descCount 0 (b + k) := by
  rw [RxQueue.descIndex, RxQueueContext.and_descMask, h.descBegin_eq, wrap_add_mod]

theorem RxQueueAt.fragmentIndex_wrap (h : RxQueueAt o packets fragments descs b q) (k : Nat) :
    q.fragmentIndex k = wrap q.fragmentRing.numberOfElements o.fragmentStart (b + k) := by
  rw [RxQueue.fragmentIndex, h.fragmentsHeld.beginIndex_eq, netRingAdvanceIndex_wrap]

theorem RxQueueAt.packetIndex_wrap (h : RxQueueAt o packets fragments descs b q) (k : Nat) :
    q.packetIndex k = wrap q.packetRing.numberOfElements o.packetStart (b + k) := by
  rw [RxQueue.packetIndex, h.packetsHeld.beginIndex_eq, netRingAdvanceIndex_wrap]

theorem RxQueueAt.inFlight_eq (h : RxQueueAt o packets fragments descs b q) :
    q.inFlight = descs.length - b := by
  rw [RxQueue.inFlight, h.descBegin_eq, h.descEnd_eq]
  exact q.context.distance_wrap h.reaped_le h.filled_lt

/-- Descriptor `k` of the region is entry `b + k` of the log. -/
theorem RxQueueAt.descVirtual_eq (h : RxQueueAt o packets fragments descs b q) {k : Nat}
    (hk : k < q.inFlight) : ∃ hi : b + k < descs.length,
      q.context.descVirtual (q.descIndex k) = descs[b + k] := by
  rw [h.inFlight_eq] at hk
  have hi : b + k < descs.length := by omega
  refine ⟨hi, ?_⟩
  rw [h.descIndex_eq]
  exact h.window.holds _ hi (Nat.le_add_right _ _)

theorem RxQueueAt.desc_fragmentIndex (h : RxQueueAt o packets fragments descs b q) {k : Nat}
    (hk : k < q.inFlight) :
    (q.context.descVirtual (q.descIndex k)).fragmentIndex = q.fragmentIndex k := by
  obtain ⟨hi, hdesc⟩ := h.descVirtual_eq hk
  rw [hdesc, h.fragmentIndex_eq _ hi, h.fragmentIndex_wrap]

theorem RxQueueAt.fragmentIndex_inj (h : RxQueueAt o packets fragments descs b q) {j k : Nat}
    (hjk : j ≤ k) (hk : k < q.inFlight) (heq : q.fragmentIndex j = q.fragmentIndex k) : j = k := by
  rw [h.inFlight_eq] at hk
  have hflt := h.fragmentsHeld.window.lt_lo_add
  have hfilled := h.filled_le
  rw [h.fragmentIndex_wrap, h.fragmentIndex_wrap] at heq
  have := wrap_inj (by omega) (by omega) heq
  omega

theorem RxQueueAt.packetIndex_inj (h : RxQueueAt o packets fragments descs b q) {j k : Nat}
    (hjk : j ≤ k) (hk : b + k < packets.length) (heq : q.packetIndex j = q.packetIndex k) :
    j = k := by
  have hplt := h.packetsHeld.window.lt_lo_add
  rw [h.packetIndex_wrap, h.packetIndex_wrap] at heq
  have := wrap_inj (by omega) (by omega) heq
  omega

section Call

variable {t : Nat} {log : List RxDescriptor} {q₁ q' : RxQueue}
  (hreaped : RxReaped o descs b t q q₁) (hfilled : RxFilled o fragments descs log t q₁ q')

include hreaped hfilled

/-- A descriptor that the call has neither reaped nor filled is as it was. -/
theorem RxReaped.desc_kept (hend : RxQueueAt o packets fragments log t q') {k : Nat}
    (hk : t + k < descs.length) :
    q'.context.descVirtual (q'.descIndex k) = q.context.descVirtual (q'.descIndex k) := by
  have hmid : q₁.context.descCount = q.context.descCount := by rw [hreaped.context_eq]
  have hvirtual : q₁.context.descVirtual = q.context.descVirtual := by rw [hreaped.context_eq]
  have hkept := hfilled.desc_eq (t + k) (Nat.le_add_right _ _) hk
  rw [hvirtual] at hkept
  rw [hend.descIndex_eq, hfilled.descCount_eq]
  exact hkept

/-- The packet of a descriptor that the call has reaped. -/
theorem RxReaped.packet_written (h : RxQueueAt o packets fragments descs b q) {k : Nat}
    (hk : k < q.inFlight) (hkt : b + k < t) :
    q'.packetRing.buffer (q.packetIndex k)
      = rxPacket (q.context.descVirtual (q.descIndex k))
          (q.context.descVirtual (q.descIndex k)).fragmentIndex
          (q.packetRing.buffer (q.packetIndex k)) := by
  obtain ⟨hi, hdesc⟩ := h.descVirtual_eq hk
  rw [hfilled.packetRing_eq, h.desc_fragmentIndex hk, hdesc, h.packetIndex_wrap,
    h.fragmentIndex_wrap]
  exact hreaped.packet_done _ hi (Nat.le_add_right _ _) hkt

/-- And its fragment. -/
theorem RxReaped.fragment_written (h : RxQueueAt o packets fragments descs b q) {k : Nat}
    (hk : k < q.inFlight) (hkt : b + k < t) :
    q'.fragmentRing.buffer (q.fragmentIndex k)
      = rxFragment (q.context.descVirtual (q.descIndex k))
          (q.fragmentRing.buffer (q.fragmentIndex k)) := by
  obtain ⟨hi, hdesc⟩ := h.descVirtual_eq hk
  rw [hfilled.fragmentBuffer, hdesc, h.fragmentIndex_wrap]
  exact hreaped.fragment_done _ hi (Nat.le_add_right _ _) hkt

/-- No other packet is written. -/
theorem RxReaped.packet_kept (h : RxQueueAt o packets fragments descs b q) {index : Nat}
    (hindex : ∀ k < t - b, index ≠ q.packetIndex k) :
    q'.packetRing.buffer index = q.packetRing.buffer index := by
  rw [hfilled.packetRing_eq]
  refine hreaped.packet_other index fun i hbi hit => ?_
  have hne := hindex (i - b) (by omega)
  rwa [h.packetIndex_wrap, Nat.add_sub_cancel' hbi] at hne

/-- Nor any other fragment. -/
theorem RxReaped.fragment_kept (h : RxQueueAt o packets fragments descs b q) {index : Nat}
    (hindex : ∀ k < t - b, index ≠ q.fragmentIndex k) :
    q'.fragmentRing.buffer index = q.fragmentRing.buffer index := by
  rw [hfilled.fragmentBuffer]
  refine hreaped.fragment_other index fun i hbi hit => ?_
  have hne := hindex (i - b) (by omega)
  rwa [h.fragmentIndex_wrap, Nat.add_sub_cancel' hbi] at hne

end Call

variable {w : RxWorld}

theorem RxLive.safe (h : RxLive w descs) : RxRingSafe w := by
  have hq := h.queueAt
  have hreaped := hq.reaped_le
  have hfilled := hq.filled_lt
  have hposted := hq.filled_le
  have hflt := hq.fragmentsHeld.window.lt_lo_add
  have hle := h.reaped_le
  have hcle := h.completed_le
  have hcurrent : w.queue.context.distance w.queue.context.descBegin w.dma.current
      = w.completed - w.positions.reaped := by
    rw [hq.descBegin_eq, h.current_eq]
    exact w.queue.context.distance_wrap hle (by omega)
  have hhanded : ∀ k < w.queue.inFlight,
      w.queue.context.distance w.queue.context.descBegin w.dma.current ≤ k →
      w.queue.context.descVirtual (w.queue.descIndex k)
        = rxDescriptorRead (w.queue.fragmentRing.buffer (w.queue.fragmentIndex k)).logicalAddress
            (w.queue.fragmentIndex k) := by
    intro k hk hck
    obtain ⟨hi, hdesc⟩ := hq.descVirtual_eq hk
    rw [hcurrent] at hck
    obtain ⟨hf, heq⟩ := h.handed _ hi (by omega)
    have hbuf := hq.fragmentsHeld.buffer_eq hf (Nat.le_add_right _ _)
    rw [hdesc, hq.fragmentIndex_wrap, hbuf]
    exact heq
  refine ⟨?_, ?_, ?_, fun k hk => hq.desc_fragmentIndex hk, ?_, ?_, hhanded, ?_⟩
  · rw [hq.inFlight_eq, h.filled_eq]
    omega
  · rw [h.filled_eq]
    omega
  · rw [hq.inFlight_eq, hq.fragmentsHeld.beginIndex_eq, hq.nextIndex_eq]
    exact w.queue.fragmentRing.distance_wrap _ hreaped (by omega)
  · intro j hj k hk heq
    rcases Nat.le_total j k with hjk | hkj
    · exact hq.fragmentIndex_inj hjk hk heq
    · exact (hq.fragmentIndex_inj hkj hj heq.symm).symm
  · rw [hcurrent, hq.inFlight_eq]
    omega
  · intro k hk hck
    rw [hhanded k hk hck]
    exact ⟨own_rxDescriptorRead _ _, rxDescriptorRead_address _ _⟩

/-- **Every call of `RxQueueAdvance` on a running queue is safe.** -/
theorem RxLive.advanceSafe (h : RxLive w descs) (hrun : w.queue.context.running = true)
    {descNext : Nat} (hs : w.sampled = some descNext) : RxAdvanceSafe w (rxFinish w descNext) := by
  obtain ⟨c, hbc, hcc, rfl⟩ := h.sampledAt descNext hs
  have hc := Nat.le_trans hcc h.completed_le
  obtain ⟨t, log, hbt, htc, hreaped, hfilled, hend, hskip⟩ :=
    rxQueueAdvance_spec h.queueAt hrun hbc hc
  have hq := h.queueAt
  have hcount : (rxQueueAdvance (wrap w.queue.context.descCount 0 c) w.queue).context.descCount
      = w.queue.context.descCount := hfilled.descCount_eq.trans (by rw [hreaped.context_eq])
  have hlt := hq.filled_lt
  have hplt := hq.packetsHeld.window.lt_lo_add
  have hflt := hq.fragmentsHeld.window.lt_lo_add
  have hple := hend.packetsHeld.lo_le
  have hposted := hq.filled_le
  have hpackets : (rxQueueAdvance (wrap w.queue.context.descCount 0 c)
      w.queue).packetRing.numberOfElements = w.queue.packetRing.numberOfElements := by
    rw [hfilled.packetRing_eq, hreaped.packetSize]
  have hfragments : (rxQueueAdvance (wrap w.queue.context.descCount 0 c)
      w.queue).fragmentRing.numberOfElements = w.queue.fragmentRing.numberOfElements := by
    rw [hfilled.fragmentSize, hreaped.fragmentSize]
  -- how far `descBegin` moves
  have hdist : w.queue.context.distance w.queue.context.descBegin
      (rxQueueAdvance (wrap w.queue.context.descCount 0 c) w.queue).context.descBegin
      = t - w.positions.reaped := by
    rw [hq.descBegin_eq, hend.descBegin_eq, hcount]
    exact w.queue.context.distance_wrap hbt (by omega)
  have hk_lt : ∀ k, k < t - w.positions.reaped → k < w.queue.inFlight := by
    intro k hk
    rw [hq.inFlight_eq]
    omega
  refine ⟨?_, ?_, ?_, ?_, ?_, ?_, ?_, ?_, ?_, ?_, ?_, ?_⟩
  · intro k hk
    have hk' : k < descs.length - t := by
      have hd := (rxQueueAdvance (wrap w.queue.context.descCount 0 c)
        w.queue).context.distance_wrap (Nat.le_trans htc hc) (by rw [hcount]; omega)
      rw [← hd, ← hend.descBegin_eq, hcount, ← hq.descEnd_eq]
      exact hk
    exact hreaped.desc_kept hfilled hend (by omega)
  · intro k hk
    rw [rxFinish_queue, hdist] at hk
    obtain ⟨hi, hdesc⟩ := hq.descVirtual_eq (hk_lt k hk)
    rw [hdesc]
    exact hreaped.released _ hi (Nat.le_add_right _ _) (by omega)
  · rw [rxFinish_queue, hdist,
      hq.packetsHeld.beginIndex_eq, hend.packetsHeld.beginIndex_eq, hpackets]
    exact w.queue.packetRing.distance_wrap _ hbt (by omega)
  · rw [rxFinish_queue, hdist,
      hq.fragmentsHeld.beginIndex_eq, hend.fragmentsHeld.beginIndex_eq, hfragments]
    exact w.queue.fragmentRing.distance_wrap _ hbt (by omega)
  · intro k hk
    rw [rxFinish_queue, hdist] at hk
    exact hreaped.packet_written hfilled hq (hk_lt k hk) (by omega)
  · intro k hk
    rw [rxFinish_queue, hdist] at hk
    exact hreaped.fragment_written hfilled hq (hk_lt k hk) (by omega)
  · intro k hk
    rw [rxFinish_queue, hdist] at hk
    rw [rxFinish_queue, hreaped.packet_written hfilled hq (hk_lt k hk) (by omega),
      hq.desc_fragmentIndex (hk_lt k hk)]
    exact rxPacket_indicated _ _ _
  · intro k hk
    rw [rxFinish_queue, hdist] at hk
    rw [rxFinish_queue, hreaped.fragment_written hfilled hq (hk_lt k hk) (by omega)]
    exact rxFragment_received _ _
  · intro j hj k hk heq
    rw [rxFinish_queue, hdist] at hj hk
    rcases Nat.le_total j k with hjk | hkj
    · exact hq.packetIndex_inj hjk (by omega) heq
    · exact (hq.packetIndex_inj hkj (by omega) heq.symm).symm
  · intro index hindex
    rw [rxFinish_queue, hdist] at hindex
    exact hreaped.packet_kept hfilled hq hindex
  · intro index hindex
    rw [rxFinish_queue, hdist] at hindex
    exact hreaped.fragment_kept hfilled hq hindex
  · intro descNext' hs' heq
    obtain rfl : wrap w.queue.context.descCount 0 c = descNext' :=
      Option.some.inj (hs.symm.trans hs')
    obtain rfl := hskip heq
    refine ⟨funext fun j => ?_, ?_, ?_⟩
    · exact (hfilled.rest j fun i hdi hi => absurd hdi (Nat.not_le.mpr hi)).trans
        (congrFun (by rw [hreaped.context_eq]) j)
    · exact hend.descEnd_eq.trans (by rw [hcount, hq.descEnd_eq])
    · exact hend.nextIndex_eq.trans (by rw [hfragments, hq.nextIndex_eq])

end Safe

/-- **The receive ring is safe in every run**, as long as the queue is running.  Before and after
the call this is the invariant; for the call itself it is what the two loops did, from one counter
to the next. -/
theorem rxRing_safe (w : RxWorld) (h : Reach RxWorld.Started rxStep w)
    (hrun : w.queue.context.running = true) :
    RxRingSafe w ∧ ∀ w', rxStep w .finish = some w' → RxAdvanceSafe w w' ∧ RxRingSafe w' := by
  obtain ⟨descs, hlive⟩ := rxLive_of_reach h hrun
  refine ⟨hlive.safe, fun w' hstep => ?_⟩
  obtain ⟨descNext, hs, rfl⟩ := Option.map_eq_some_iff.mp hstep
  obtain ⟨log, hlive'⟩ := hlive.finish_running hrun hs
  exact ⟨hlive.advanceSafe hrun hs, hlive'.safe⟩

/-! ## 4. A run

One packet of 60 bytes, from the post to the call that indicates it. -/

/-- A packet of the ring before it is indicated. -/
def emptyPacket : NetPacket where
  fragmentIndex := 0
  fragmentCount := 0
  ignore := false
  layout := emptyLayout
  ieee8021Q := ⟨0, 0, 0⟩
  gsoMss := 0
  checksum := ⟨0, 0, 0⟩

/-- A queue of four descriptors, before `RxQueueStart`. -/
def emptyRxContext : RxQueueContext where
  descVirtual := fun _ => ⟨0, 0, 0, 0, 0⟩
  descPhysical := 0x10000
  descCount := 4
  running := false
  descBegin := 0
  descEnd := 0
  rxDescTailPointer := 0
  descCount_pow2 := ⟨2, by omega, rfl⟩
  aligned := rfl

/-- The write-back of a packet of 60 bytes and its CRC. -/
def plainWriteBack : RxWriteBack := ⟨0, 0, 0, 2 ^ 28 + 2 ^ 29 + 64⟩

theorem rxStarted_empty : (RxWorld.start emptyRxContext (emptyRing emptyPacket)
    (emptyRing ⟨0, 0, 0x8000⟩)).Started :=
  ⟨_, _, _, ⟨by decide, rfl, rfl⟩, ⟨by decide, rfl, rfl⟩, rfl⟩

/-- A packet received and indicated: `rxRing_safe` before the call that indicates it. -/
theorem rxRing_safe_of_run : ∃ w w', Reach RxWorld.Started rxStep w
    ∧ rxStep w .finish = some w' ∧ w.positions.reaped = 0 ∧ w'.positions.reaped = 1
    ∧ RxRingSafe w ∧ RxAdvanceSafe w w' ∧ RxRingSafe w' := by
  obtain ⟨w, hw, hp⟩ := exists_reach_of_run rxStep rxStarted_empty
    [.postPacket emptyPacket, .postFragment ⟨0, 0, 0x8000⟩, .postFragment ⟨0, 0, 0x9000⟩,
      .sample, .finish, .receive, .complete, .sample, .writeBack 0 plainWriteBack]
    (fun w => w.queue.context.running && w.positions.reaped == 0
      && (rxStep w .finish).any fun w' => w'.positions.reaped == 1) (by decide +kernel)
  simp only [Bool.and_eq_true, beq_iff_eq, Option.any_eq_true] at hp
  obtain ⟨⟨hrun, hzero⟩, w', hstep, hone⟩ := hp
  obtain ⟨hsafe, hfinish⟩ := rxRing_safe w hw hrun
  exact ⟨w, w', hw, hstep, hzero, hone, hsafe, hfinish w' hstep⟩

end WoaRk3576.Net
