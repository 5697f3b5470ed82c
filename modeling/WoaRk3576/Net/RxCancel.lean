/-
# After `RxQueueCancel`

`RxQueueCancel` clears `running` and `Rx_Control.Start`; `RxQueueAdvance` is then to return what is
left.  It does so as soon as its first loop has reached the sampled `Current_App_RxDesc`.  That
test is also true while the DMA engine is still writing the packet in progress: the buffer of the
descriptor AT `Current_App_RxDesc` is then handed back under the device (`rxCancel_unsafe`).

So safety after a cancel needs a condition, and it is `Quiet`: whenever `RxQueueAdvance` finishes
on a cancelled queue, no packet is in progress, or something before the sampled position cannot be
indicated yet.  In every run whose steps are quiet the queue is live until it is flushed, and when
it is flushed the device writes nothing any more (`rxCancel_safe`).

Until the flush the invariant is that of the running queue, as a call on a cancelled queue reaps
like any other; it only fills nothing.  The flush is where the invariant ends: it holds if the loop
has come to the sampled position with no packet in progress, so that every descriptor behind it was
never begun, and a stopped device begins none.  After it everything was returned and the device is
at rest, which every later step keeps (`RxFlushed.step`).
-/
import WoaRk3576.Net.RxRun

namespace WoaRk3576.Net

open WoaRk3576.Lib

/-! ## 1. What may be returned

Once cancelled, the queue returns what is left in its rings as soon as everything up to the sampled
position was indicated.  It does not ask whether the device has stopped: the packet in progress is
received into a buffer that is returned, too.  `Quiet` is that this does not happen, stated of the
state before the call. -/

/-- **The descriptor `index` is one the device may still write into**: any one up to the tail
pointer while `Start` is set, and the one of the packet in progress. -/
def RxWorld.MayWrite (w : RxWorld) (index : Nat) : Prop :=
  (w.dma.start = true ∧ ∃ k, index = (w.dma.current + k) &&& w.queue.context.descMask
      ∧ k < w.queue.context.distance w.dma.current w.queue.context.descEnd)
    ∨ (w.dma.receiving = true ∧ index = w.dma.current)

/-- **What was returned to NetAdapterCx.**  A descriptor that the device may write into is
filled with a posted fragment that was not returned; and `BeginIndex` of both rings has passed
no more elements than were posted, each therefore once and in order. -/
structure RxReturnSafe (w : RxWorld) : Prop where
  not_returned : ∀ index, w.MayWrite index → ∃ i, ∃ h : i < w.fragments.length,
    w.positions.fragmentsReturned ≤ i
      ∧ w.queue.context.descVirtual index = rxDescriptorRead w.fragments[i].logicalAddress
          (wrap w.queue.fragmentRing.numberOfElements w.origin.fragmentStart i)
  packets_once : w.positions.packetsReturned ≤ w.packets.length
    ∧ w.queue.packetRing.beginIndex
      = wrap w.queue.packetRing.numberOfElements w.origin.packetStart w.positions.packetsReturned
  fragments_once : w.positions.fragmentsReturned ≤ w.fragments.length
    ∧ w.queue.fragmentRing.beginIndex
      = wrap w.queue.fragmentRing.numberOfElements w.origin.fragmentStart
          w.positions.fragmentsReturned

/-- Something before the position `descNext` cannot be indicated yet: a descriptor that the
device still owns, or there are not enough packets left. -/
def RxQueue.Blocked (q : RxQueue) (descNext : Nat) : Prop :=
  (∃ k < q.context.distance q.context.descBegin descNext,
    (q.context.descVirtual (q.descIndex k)).own = true)
    ∨ q.packetRing.distance q.packetRing.beginIndex q.packetRing.endIndex
      < q.context.distance q.context.descBegin descNext

instance (q : RxQueue) (descNext : Nat) : Decidable (q.Blocked descNext) :=
  inferInstanceAs (Decidable (_ ∨ _))

/-- **The condition**: a call of `RxQueueAdvance` that finishes on a cancelled queue finds no
packet in progress, or is blocked before the position it sampled. -/
def Quiet (w : RxWorld) : RxAction → Prop
  | .finish => w.queue.context.running = true ∨ w.dma.receiving = false
      ∨ ∃ descNext ∈ w.sampled, w.queue.Blocked descNext
  | _ => True

instance (w : RxWorld) : (a : RxAction) → Decidable (Quiet w a)
  | .finish => inferInstanceAs (Decidable (_ ∨ _ ∨ ∃ descNext ∈ w.sampled,
      w.queue.Blocked descNext))
  | .postPacket _ | .postFragment _ | .receive | .complete | .writeBack _ _ | .sample
  | .cancel => .isTrue trivial

/-! ## 2. The call that flushes

A call on a cancelled queue ends in one of two ways.  If the first loop stops before the sampled
position, the call only indicates, and the invariant stays.  If it comes there, everything is
returned, and this is safe if the device is idle. -/

/-- **The invariant once the queue is flushed**: everything posted was returned, and the device
does nothing any more. -/
structure RxFlushed (w : RxWorld) : Prop where
  running_eq : w.queue.context.running = false
  start_eq : w.dma.start = false
  receiving_eq : w.dma.receiving = false
  packetsHeld : w.queue.packetRing.Holds w.origin.packetStart w.packets w.packets.length
  fragmentsHeld : w.queue.fragmentRing.Holds w.origin.fragmentStart w.fragments
    w.fragments.length
  packetsReturned_eq : w.positions.packetsReturned = w.packets.length
  fragmentsReturned_eq : w.positions.fragmentsReturned = w.fragments.length

section Flush

variable {w w' : RxWorld} {descs : List RxDescriptor}

/-- **A blocked call does not come to the position it sampled.** -/
theorem RxQueueAt.not_blocked {o : RxOrigin} {packets : List NetPacket}
    {fragments : List NetFragment} {b c : Nat} {q q' : RxQueue}
    (h : RxQueueAt o packets fragments descs b q) (hbc : b ≤ c) (hc : c ≤ descs.length)
    (hreaped : RxReaped o descs b c q q') (hpackets : c ≤ packets.length) :
    ¬ q.Blocked (wrap q.context.descCount 0 c) := by
  have hlt := h.filled_lt
  have hplt := h.packetsHeld.window.lt_lo_add
  have hdist : q.context.distance q.context.descBegin (wrap q.context.descCount 0 c) = c - b := by
    rw [h.descBegin_eq]
    exact q.context.distance_wrap hbc (by omega)
  unfold RxQueue.Blocked
  rw [hdist]
  rintro (⟨k, hk, hown⟩ | hroom)
  · have hfly : k < q.inFlight := by
      rw [h.inFlight_eq]
      omega
    obtain ⟨hi, hdesc⟩ := h.descVirtual_eq hfly
    rw [hdesc, hreaped.released _ hi (Nat.le_add_right _ _) (by omega)] at hown
    exact Bool.false_ne_true hown
  · rw [h.packetsHeld.beginIndex_eq, h.packetsHeld.endIndex_eq,
      q.packetRing.distance_wrap _ h.packetsHeld.lo_le hplt] at hroom
    omega

theorem rxQueueFlush_of_ne {descNext : Nat} {q : RxQueue}
    (hne : q.context.descBegin ≠ descNext) : rxQueueFlush descNext q = q :=
  if_neg hne

theorem rxQueueFlush_of_eq {descNext : Nat} {q : RxQueue}
    (heq : q.context.descBegin = descNext) :
    rxQueueFlush descNext q = { q with
      packetRing := { q.packetRing with
        beginIndex := q.packetRing.endIndex
        buffer := (loop (rxIgnoreStep q.packetRing) q.packetRing.numberOfElements
          (q.packetRing.beginIndex, q.packetRing.buffer)).2 }
      fragmentRing := { q.fragmentRing with beginIndex := q.fragmentRing.endIndex } } :=
  if_pos heq

/-- **A flush with no packet in progress.** -/
theorem RxLive.flush (h : RxLive w descs) (hcancel : w.queue.context.running = false)
    (hquiet : w.dma.receiving = false) {descNext t : Nat}
    (hmid : RxQueueAt w.origin w.packets w.fragments descs t (rxQueueReap descNext w.queue))
    (hreaped : RxReaped w.origin descs w.positions.reaped t w.queue
      (rxQueueReap descNext w.queue))
    (heq : (rxQueueReap descNext w.queue).context.descBegin = descNext) :
    RxFlushed (rxFinish w descNext) := by
  have hq := h.queueAt
  have hqueue : (rxFinish w descNext).queue
      = rxQueueFlush descNext (rxQueueReap descNext w.queue) :=
    rxQueueAdvance_of_cancelled hcancel
  have hpend : (rxQueueReap descNext w.queue).packetRing.endIndex
      = wrap w.queue.packetRing.numberOfElements w.origin.packetStart w.packets.length := by
    rw [hmid.packetsHeld.endIndex_eq, hreaped.packetSize]
  have hfend : (rxQueueReap descNext w.queue).fragmentRing.endIndex
      = wrap w.queue.fragmentRing.numberOfElements w.origin.fragmentStart w.fragments.length := by
    rw [hmid.fragmentsHeld.endIndex_eq, hreaped.fragmentSize]
  rw [rxQueueFlush_of_eq heq] at hqueue
  have hpackets : w.queue.packetRing.distance w.queue.packetRing.beginIndex
      (rxFinish w descNext).queue.packetRing.beginIndex
      = w.packets.length - w.positions.reaped := by
    rw [hqueue, hq.packetsHeld.beginIndex_eq]
    exact (congrArg _ hpend).trans (w.queue.packetRing.distance_wrap _ hq.packetsHeld.lo_le
      hq.packetsHeld.window.lt_lo_add)
  have hfragments : w.queue.fragmentRing.distance w.queue.fragmentRing.beginIndex
      (rxFinish w descNext).queue.fragmentRing.beginIndex
      = w.fragments.length - w.positions.reaped := by
    rw [hqueue, hq.fragmentsHeld.beginIndex_eq]
    exact (congrArg _ hfend).trans (w.queue.fragmentRing.distance_wrap _
      hq.fragmentsHeld.lo_le hq.fragmentsHeld.window.lt_lo_add)
  refine ⟨?_, h.start_eq.trans hcancel, hquiet, ?_, ?_, ?_, ?_⟩
  · exact (rxQueueAdvance_running descNext w.queue).trans hcancel
  · rw [hqueue]
    exact ⟨Window.empty (NetRing.size_pos _) _ _, hmid.packetsHeld.endIndex_eq,
      hmid.packetsHeld.endIndex_eq⟩
  · rw [hqueue]
    exact ⟨Window.empty (NetRing.size_pos _) _ _, hmid.fragmentsHeld.endIndex_eq,
      hmid.fragmentsHeld.endIndex_eq⟩
  · show w.positions.packetsReturned + w.queue.packetRing.distance w.queue.packetRing.beginIndex
      (rxFinish w descNext).queue.packetRing.beginIndex = _
    rw [hpackets, h.packetsReturned_eq, Nat.add_sub_cancel' hq.packetsHeld.lo_le]
    rfl
  · show w.positions.fragmentsReturned + w.queue.fragmentRing.distance
      w.queue.fragmentRing.beginIndex (rxFinish w descNext).queue.fragmentRing.beginIndex = _
    rw [hfragments, h.fragmentsReturned_eq, Nat.add_sub_cancel' hq.fragmentsHeld.lo_le]
    rfl

/-- **A quiet call on a cancelled queue** reaps on, or flushes. -/
theorem RxLive.finish_cancelled (h : RxLive w descs) (hcancel : w.queue.context.running = false)
    (hquiet : Quiet w .finish) {descNext : Nat} (hs : w.sampled = some descNext) :
    RxLive (rxFinish w descNext) descs ∨ RxFlushed (rxFinish w descNext) := by
  obtain ⟨c, hbc, hcc, rfl⟩ := h.sampledAt descNext hs
  have hq := h.queueAt
  have hc := Nat.le_trans hcc h.completed_le
  obtain ⟨t, hbt, htc, hreaped, hmid⟩ := rxQueueReap_spec hq hbc hc
  have hqueue : rxQueueAdvance (wrap w.queue.context.descCount 0 c) w.queue
      = rxQueueFlush (wrap w.queue.context.descCount 0 c)
          (rxQueueReap (wrap w.queue.context.descCount 0 c) w.queue) :=
    rxQueueAdvance_of_cancelled hcancel
  by_cases heq : (rxQueueReap (wrap w.queue.context.descCount 0 c) w.queue).context.descBegin
      = wrap w.queue.context.descCount 0 c
  · right
    -- the loop came to the sampled position, so the call was not blocked
    have hcount : t = c := by
      have hlt := hq.filled_lt
      have hwrap : wrap w.queue.context.descCount 0 t = wrap w.queue.context.descCount 0 c := by
        rw [← heq, hreaped.context_eq]
      exact wrap_inj htc (by omega) hwrap
    have hnot := hq.not_blocked hbc hc (hcount ▸ hreaped) (hcount ▸ hmid.packetsHeld.lo_le)
    refine h.flush hcancel ?_ hmid hreaped heq
    rcases hquiet with hrun | hidle | ⟨descNext, hmem, hblocked⟩
    · rw [hcancel] at hrun
      exact absurd hrun Bool.false_ne_true
    · exact hidle
    · rw [hs] at hmem
      cases hmem
      exact absurd hblocked hnot
  · left
    rw [rxQueueFlush_of_ne heq] at hqueue
    refine (h.advanced (hqueue ▸ hmid) hbt (Nat.le_trans htc hcc) (List.prefix_refl _)
      hreaped.released (fun i hi hge => absurd hi (Nat.not_lt.mpr hge)) ?_ ?_ ?_ ?_).1
    · exact rxQueueAdvance_running _ _
    · rw [hqueue, hreaped.context_eq]
    · rw [hqueue, hreaped.packetSize]
    · rw [hqueue, hreaped.fragmentSize]

/-! ## 3. After the flush

The rings are empty, and nothing is posted into a queue that was cancelled, so every further call
finds nothing to do. -/

theorem rxReapDescs_of_empty {descNext : Nat} {q : RxQueue}
    (h : q.packetRing.beginIndex = q.packetRing.endIndex) :
    rxReapDescs descNext q = ⟨q.context.descBegin, q.packetRing.beginIndex,
      q.fragmentRing.beginIndex, q.packetRing.buffer, q.fragmentRing.buffer⟩ := by
  refine loop_none ?_ _
  rw [rxReapStep]
  split
  · rfl
  · rw [if_pos (.inl h)]

theorem rxQueueReap_of_empty {descNext : Nat} {q : RxQueue}
    (h : q.packetRing.beginIndex = q.packetRing.endIndex) : rxQueueReap descNext q = q := by
  unfold rxQueueReap
  simp only [rxReapDescs_of_empty h]

/-- **A call on a flushed queue changes nothing.** -/
theorem rxQueueAdvance_of_empty {descNext : Nat} {q : RxQueue}
    (hcancel : q.context.running = false)
    (hp : q.packetRing.beginIndex = q.packetRing.endIndex)
    (hf : q.fragmentRing.beginIndex = q.fragmentRing.endIndex) :
    rxQueueAdvance descNext q = q := by
  rw [rxQueueAdvance_of_cancelled hcancel, rxQueueReap_of_empty hp]
  by_cases heq : q.context.descBegin = descNext
  · have hnone : rxIgnoreStep q.packetRing (q.packetRing.beginIndex, q.packetRing.buffer)
        = none := if_pos hp
    rw [rxQueueFlush_of_eq heq, loop_none hnone, ← hp, ← hf]
  · exact rxQueueFlush_of_ne heq

theorem RxFlushed.finish (h : RxFlushed w) (descNext : Nat) : RxFlushed (rxFinish w descNext) := by
  have hp : w.queue.packetRing.beginIndex = w.queue.packetRing.endIndex := by
    rw [h.packetsHeld.beginIndex_eq, h.packetsHeld.endIndex_eq]
  have hf : w.queue.fragmentRing.beginIndex = w.queue.fragmentRing.endIndex := by
    rw [h.fragmentsHeld.beginIndex_eq, h.fragmentsHeld.endIndex_eq]
  have hsame : rxQueueAdvance descNext w.queue = w.queue :=
    rxQueueAdvance_of_empty h.running_eq hp hf
  have hpzero : w.queue.packetRing.distance w.queue.packetRing.beginIndex
      w.queue.packetRing.beginIndex = 0 := by
    rw [h.packetsHeld.beginIndex_eq, w.queue.packetRing.distance_wrap _ (Nat.le_refl _)
      (Nat.lt_add_of_pos_right w.queue.packetRing.size_pos), Nat.sub_self]
  have hfzero : w.queue.fragmentRing.distance w.queue.fragmentRing.beginIndex
      w.queue.fragmentRing.beginIndex = 0 := by
    rw [h.fragmentsHeld.beginIndex_eq, w.queue.fragmentRing.distance_wrap _ (Nat.le_refl _)
      (Nat.lt_add_of_pos_right w.queue.fragmentRing.size_pos), Nat.sub_self]
  have hqueue : (rxFinish w descNext).queue = w.queue := hsame
  refine ⟨?_, h.start_eq, h.receiving_eq, ?_, ?_, ?_, ?_⟩
  · rw [hqueue]
    exact h.running_eq
  · rw [hqueue]
    exact h.packetsHeld
  · rw [hqueue]
    exact h.fragmentsHeld
  · show w.positions.packetsReturned + w.queue.packetRing.distance w.queue.packetRing.beginIndex
      (rxQueueAdvance descNext w.queue).packetRing.beginIndex = _
    rw [hsame, hpzero, h.packetsReturned_eq]
    rfl
  · show w.positions.fragmentsReturned + w.queue.fragmentRing.distance
      w.queue.fragmentRing.beginIndex
      (rxQueueAdvance descNext w.queue).fragmentRing.beginIndex = _
    rw [hsame, hfzero, h.fragmentsReturned_eq]
    rfl

theorem RxFlushed.step (h : RxFlushed w) {a : RxAction} (hstep : rxStep w a = some w') :
    RxFlushed w' := by
  cases a <;> simp only [rxStep] at hstep
  case finish =>
    obtain ⟨descNext, -, rfl⟩ := Option.map_eq_some_iff.mp hstep
    exact h.finish descNext
  case cancel =>
    cases hstep
    exact ⟨rfl, rfl, h.receiving_eq, h.packetsHeld, h.fragmentsHeld, h.packetsReturned_eq,
      h.fragmentsReturned_eq⟩
  all_goals
    split at hstep
    swap
    · cases hstep
    rename_i hcond
  case postPacket => exact absurd (h.running_eq.symm.trans hcond.1) Bool.false_ne_true
  case postFragment => exact absurd (h.running_eq.symm.trans hcond.1) Bool.false_ne_true
  case receive => exact absurd (h.start_eq.symm.trans hcond.1) Bool.false_ne_true
  case complete => exact absurd (h.receiving_eq.symm.trans hcond) Bool.false_ne_true
  case writeBack | sample =>
    cases hstep
    exact ⟨h.running_eq, h.start_eq, h.receiving_eq, h.packetsHeld, h.fragmentsHeld,
      h.packetsReturned_eq, h.fragmentsReturned_eq⟩

/-! ## 4. What is returned is returned once, and not under the device

Both invariants give the same statement, in two ways: while the queue is live, what was returned is
what was reaped; once it is flushed, all that was posted was returned and the device writes
nothing. -/

theorem RxLive.returnSafe (h : RxLive w descs) : RxReturnSafe w := by
  have hq := h.queueAt
  have hlt := hq.filled_lt
  have hle := h.reaped_le
  have hcle := h.completed_le
  -- the fragment of a descriptor from `completed` on
  have hfrag : ∀ i, w.completed ≤ i → i < descs.length → ∃ n, ∃ h : n < w.fragments.length,
      w.positions.fragmentsReturned ≤ n
        ∧ w.queue.context.descVirtual (wrap w.queue.context.descCount 0 i)
          = rxDescriptorRead w.fragments[n].logicalAddress
              (wrap w.queue.fragmentRing.numberOfElements w.origin.fragmentStart n) := by
    intro i hci hi
    obtain ⟨hf, hdesc⟩ := h.handed i hi hci
    refine ⟨i, hf, ?_, ?_⟩
    · rw [h.fragmentsReturned_eq]
      exact Nat.le_trans hle hci
    · rw [← hdesc]
      exact hq.window.holds i hi (Nat.le_trans hle hci)
  refine ⟨?_, ⟨?_, ?_⟩, ⟨?_, ?_⟩⟩
  · rintro index (⟨-, k, rfl, hk⟩ | ⟨hreceiving, rfl⟩)
    · rw [h.current_eq, hq.descEnd_eq, w.queue.context.distance_wrap hcle (by omega)] at hk
      rw [h.current_eq, RxQueueContext.and_descMask, wrap_add_mod]
      exact hfrag (w.completed + k) (Nat.le_add_right _ _) (by omega)
    · rw [h.current_eq]
      exact hfrag w.completed (Nat.le_refl _) (h.receiving_lt hreceiving)
  · rw [h.packetsReturned_eq]
    exact hq.packetsHeld.lo_le
  · rw [h.packetsReturned_eq]
    exact hq.packetsHeld.beginIndex_eq
  · rw [h.fragmentsReturned_eq]
    exact hq.fragmentsHeld.lo_le
  · rw [h.fragmentsReturned_eq]
    exact hq.fragmentsHeld.beginIndex_eq

theorem RxFlushed.returnSafe (h : RxFlushed w) : RxReturnSafe w := by
  refine ⟨?_, ⟨?_, ?_⟩, ⟨?_, ?_⟩⟩
  · rintro index (⟨hstart, -⟩ | ⟨hreceiving, -⟩)
    · exact absurd (h.start_eq.symm.trans hstart) Bool.false_ne_true
    · exact absurd (h.receiving_eq.symm.trans hreceiving) Bool.false_ne_true
  · exact Nat.le_of_eq h.packetsReturned_eq
  · rw [h.packetsReturned_eq]
    exact h.packetsHeld.beginIndex_eq
  · exact Nat.le_of_eq h.fragmentsReturned_eq
  · rw [h.fragmentsReturned_eq]
    exact h.fragmentsHeld.beginIndex_eq

end Flush

/-- **In every run whose calls are quiet, nothing is returned under the device or twice.** Until
the flush this is the invariant of the running queue.  The flush begins no packet and finds none in
progress, so what it returns the device has never begun, and a stopped device begins nothing
afterwards. -/
theorem rxCancel_safe (w : RxWorld) (h : ReachIf RxWorld.Started rxStep Quiet w) :
    RxReturnSafe w := by
  have hinv : (∃ descs, RxLive w descs) ∨ RxFlushed w := by
    refine ReachIf.invariant (I := fun w => (∃ descs, RxLive w descs) ∨ RxFlushed w) ?_ ?_ h
    · rintro _ ⟨context, packetRing, fragmentRing, hp, hf, rfl⟩
      exact .inl ⟨[], RxLive.start hp hf⟩
    · rintro w a w' (⟨descs, hlive⟩ | hflushed) hquiet hstep
      · cases hrun : w.queue.context.running with
        | true => exact .inl (hlive.step hstep fun _ => hrun)
        | false =>
          by_cases hfin : a = .finish
          · subst hfin
            obtain ⟨descNext, hs, rfl⟩ := Option.map_eq_some_iff.mp hstep
            rcases hlive.finish_cancelled hrun hquiet hs with hlive' | hflushed
            · exact .inl ⟨descs, hlive'⟩
            · exact .inr hflushed
          · exact .inl (hlive.step hstep fun heq => absurd heq hfin)
      · exact .inr (hflushed.step hstep)
  rcases hinv with ⟨descs, hlive⟩ | hflushed
  · exact hlive.returnSafe
  · exact hflushed.returnSafe

/-- A cancelled queue that is flushed while the device is idle. -/
theorem rxCancel_safe_of_run : ∃ w, ReachIf RxWorld.Started rxStep Quiet w
    ∧ w.positions.fragmentsReturned = 2 ∧ RxReturnSafe w := by
  obtain ⟨w, hw, hp⟩ := exists_reachIf_of_runIf rxStep Quiet rxStarted_empty
    [.postPacket emptyPacket, .postFragment ⟨0, 0, 0x8000⟩, .postFragment ⟨0, 0, 0x9000⟩,
      .sample, .finish, .receive, .cancel, .sample, .complete, .finish, .sample,
      .writeBack 0 plainWriteBack, .finish]
    (fun w => w.positions.fragmentsReturned == 2) (by decide +kernel)
  exact ⟨w, hw, by simpa using hp, rxCancel_safe w hw⟩

/-- **Cancelled while a packet is in progress**, the queue returns the fragment that the device
is writing into. -/
theorem rxCancel_unsafe : ∃ w, Reach RxWorld.Started rxStep w ∧ ¬ RxReturnSafe w := by
  obtain ⟨w, hw, hp⟩ := exists_reach_of_run rxStep rxStarted_empty
    [.postPacket emptyPacket, .postFragment ⟨0, 0, 0x8000⟩, .sample, .finish, .receive, .cancel,
      .sample, .finish]
    (fun w => w.dma.receiving && w.positions.fragmentsReturned == w.fragments.length)
    (by decide +kernel)
  rw [Bool.and_eq_true, beq_iff_eq] at hp
  refine ⟨w, hw, fun hsafe => ?_⟩
  obtain ⟨i, hi, hret, -⟩ := hsafe.not_returned _ (.inr ⟨hp.1, rfl⟩)
  rw [hp.2] at hret
  exact absurd hi (Nat.not_lt.mpr hret)

end WoaRk3576.Net
