/-
# The device's MSS and VLAN registers match the packet

`lastMss` and `lastVlanTag` are the driver's cache of two registers it cannot read.  A context
descriptor changes the registers when the DMA engine PROCESSES it, the driver changes its cache
when it WRITES it, and in between lie any number of packets.  So the two are never compared at
one moment: the cache after the first `i` packets agrees with the registers after the
descriptors of the first `i` packets (`Synced`, kept by every packet in `Synced.packetDescs`).

At `TxQueueStart` the registers hold anything and the cache says so: 0xFFFF is no 14-bit MSS,
and a tag of 0 is never inserted.  `Synced` is about 14-bit values and tags other than 0 only,
so it holds there.

`txContext_matches` is the main result.  It is about a run, since the registers are what the
DMA engine has processed so far; a packet that did not fit and was evaluated again leaves no
trace in the log, and so needs no separate argument.
-/
import WoaRk3576.Net.TxRun

namespace WoaRk3576.Net

open WoaRk3576.Lib

/-! ## 1. The cache and the registers

The driver leaves a context descriptor out if its value is the one that it wrote last.  That is
right if what the driver remembers is what the device holds, and it need not be so at the start.
The values of `TxQueueStart` stand for none: 0xFFFF does not fit the 14 bits of an MSS, and 0 is no
tag.  So the first packet that needs a value sends it, and `Synced` says this without an assumption
about the device. -/

/-- The registers after some descriptors. -/
def TxRegs.processAll (regs : TxRegs) (ds : List TxDescriptor) : TxRegs :=
  ds.foldl TxRegs.process regs

@[simp] theorem TxRegs.processAll_nil (regs : TxRegs) : regs.processAll [] = regs := rfl

theorem TxRegs.processAll_append (regs : TxRegs) (ds es : List TxDescriptor) :
    regs.processAll (ds ++ es) = (regs.processAll ds).processAll es :=
  List.foldl_append

/-- Only a context descriptor changes the registers. -/
theorem TxRegs.process_of_not_context {d : TxDescriptor} (h : d.contextType = false)
    (regs : TxRegs) : regs.process d = regs := by
  cases d with
  | read d => rfl
  | readTso d => rfl
  | context d => exact absurd h (by simp [TxDescriptor.contextType])

theorem TxRegs.processAll_of_not_context : ∀ {ds : List TxDescriptor},
    (∀ d ∈ ds, d.contextType = false) → ∀ regs : TxRegs, regs.processAll ds = regs
  | [], _, _ => rfl
  | d :: ds, h, regs => by
    show (regs.process d).processAll ds = regs
    rw [TxRegs.process_of_not_context (h d (by simp)),
      TxRegs.processAll_of_not_context (fun e he => h e (List.mem_cons_of_mem _ he))]

/-- **The cache agrees with the registers**, where it says anything. -/
structure Synced (last : TxLast) (regs : TxRegs) : Prop where
  mss : last.lastMss < 2 ^ 14 → regs.mss = last.lastMss
  vlan : last.lastVlanTag ≠ 0 → regs.vlan = last.lastVlanTag

/-- `TxQueueStart` makes no assumption about the device. -/
theorem Synced.start (regs : TxRegs) : Synced startLast regs :=
  ⟨fun h => absurd h (by decide), fun h => absurd rfl h⟩

section Packet

variable {vlanId pktIndex : Nat} {last : TxLast} {pkt : NetPacket}
  {frags : List (Nat × NetFragment)} {regs : TxRegs}

/-- What precedes a packet's first data descriptor: its context descriptor, if it has one. -/
def contextDescs (vlanId : Nat) (last : TxLast) (pktIndex : Nat) (pkt : NetPacket) :
    List TxDescriptor :=
  if contextBefore vlanId last pkt then [contextDesc vlanId last pktIndex pkt] else []

/-- **The registers before the packet's first data descriptor**: its own MSS when it uses
segmentation, its own tag when it has one. -/
theorem Synced.contextDescs (h : Synced last regs) :
    (pkt.gsoMss16 ≠ 0 → pkt.gsoMss16 < 2 ^ 14 →
        (regs.processAll (contextDescs vlanId last pktIndex pkt)).mss = pkt.gsoMss16)
      ∧ (txVlanTag vlanId pkt ≠ 0 →
        (regs.processAll (contextDescs vlanId last pktIndex pkt)).vlan
          = txVlanTag vlanId pkt) := by
  rw [Net.contextDescs]
  split
  · rename_i hneeded
    rw [contextDesc]
    split
    · refine ⟨fun _ hlt => ?_, fun htag => ?_⟩
      · exact Nat.mod_eq_of_lt hlt
      · show (if contextTagNeeded last (txVlanTag vlanId pkt) then _ else _) = _
        split
        · rfl
        · rename_i hsame
          have heq : txVlanTag vlanId pkt = last.lastVlanTag := by
            simpa [contextTagNeeded, htag] using hsame
          rw [h.vlan (heq ▸ htag), heq]
    · rename_i hplain
      exact ⟨fun hgso => absurd hgso hplain, fun _ => rfl⟩
  · rename_i hnot
    rw [TxRegs.processAll_nil]
    rw [contextBefore] at hnot
    split at hnot
    · simp only [contextNeeded, contextTagNeeded, Bool.or_eq_true, Bool.and_eq_true,
        bne_iff_ne, not_or, not_and, not_not] at hnot
      refine ⟨fun _ hlt => ?_, fun htag => ?_⟩
      · rw [h.mss (hnot.2 ▸ hlt), hnot.2]
      · have heq := hnot.1 htag
        rw [h.vlan (heq ▸ htag), heq]
    · rename_i hplain
      simp only [contextTagNeeded, Bool.and_eq_true, bne_iff_ne, not_and, not_not] at hnot
      refine ⟨fun hgso => absurd hgso hplain, fun htag => ?_⟩
      have heq := hnot htag
      rw [h.vlan (heq ▸ htag), heq]

/-- The cache after a packet. -/
theorem packetDescs_snd (vlanId : Nat) (last : TxLast) (pktIndex : Nat) (pkt : NetPacket)
    (frags : List (Nat × NetFragment)) :
    (packetDescs vlanId last pktIndex pkt frags).2
      = if contextBefore vlanId last pkt then
          { lastMss := if pkt.gsoMss16 ≠ 0 then pkt.gsoMss16 else last.lastMss
            lastVlanTag :=
              if contextTagNeeded last (txVlanTag vlanId pkt) then txVlanTag vlanId pkt
              else last.lastVlanTag }
        else last := by
  simp only [packetDescs, contextBefore]
  by_cases hgso : pkt.gsoMss16 ≠ 0
  · simp only [if_pos hgso]
    split
    · split <;> rfl
    · rfl
  · simp only [if_neg hgso]
    split
    · rfl
    · rfl

/-- **Every packet keeps the agreement**: the cache changes when a context descriptor is
written, and as that descriptor changes the registers. -/
theorem Synced.packetDescs (h : Synced last regs) (hfits : PacketFits pkt (frags.map Prod.snd)) :
    Synced (packetDescs vlanId last pktIndex pkt frags).2
      (regs.processAll (packetDescs vlanId last pktIndex pkt frags).1) := by
  have hbody : ∀ r : TxRegs, r.processAll (bodyDescs vlanId pktIndex pkt frags) = r :=
    TxRegs.processAll_of_not_context fun d hd => (bodyDescs_forall hfits d hd).2.2.1
  rw [packetDescs_fst, TxRegs.processAll_append, hbody, packetDescs_snd]
  split
  · rw [contextDesc]
    split
    · refine ⟨fun hlt => ?_, fun htag => ?_⟩
      · exact Nat.mod_eq_of_lt hlt
      · show (if contextTagNeeded last (txVlanTag vlanId pkt) then _ else _)
          = (if contextTagNeeded last (txVlanTag vlanId pkt) then _ else _)
        split
        · rfl
        · rename_i hsame
          rw [if_neg hsame] at htag
          exact h.vlan htag
    · rename_i hneeded hplain
      rw [contextBefore, if_neg hplain] at hneeded
      rw [if_pos hneeded]
      exact ⟨fun hlt => h.mss hlt, fun _ => rfl⟩
  · exact h

end Packet

/-! ## 2. Whole packets

The cache moves on when a chain is written, and the registers when it is processed, which is later.
Both go through the same chains in the same order, so the agreement is one of the log and does not
depend on when either of them comes to a packet. -/

/-- The cache after the packets of a log agrees with the registers after their descriptors. -/
theorem Synced.log {o : TxOrigin} {posted : List Posting} (vlanId : Nat)
    (hw : WellPosted o posted) (regs : TxRegs) : ∀ i, i ≤ posted.length →
    Synced (lastAfter vlanId startLast (posted.take i))
      (regs.processAll ((chains vlanId startLast posted).take i).flatten)
  | 0, _ => Synced.start regs
  | i + 1, hi => by
    have ih := Synced.log vlanId hw regs i (Nat.le_of_succ_le hi)
    have hic : i < (chains vlanId startLast posted).length := by rwa [length_chains]
    have hsplit : ((chains vlanId startLast posted).take (i + 1)).flatten
        = ((chains vlanId startLast posted).take i).flatten
          ++ (posted[i].descs vlanId (lastAfter vlanId startLast (posted.take i))).1 := by
      rw [List.take_add_one, List.getElem?_eq_getElem hic, List.flatten_append,
        chains_getElem vlanId startLast hi]
      simp
    rw [hsplit, TxRegs.processAll_append, lastAfter_take_succ vlanId startLast hi, Posting.descs]
    split
    · exact ih
    · rename_i hig
      exact ih.packetDescs ((hw i hi).fits (by simpa using hig))

/-! ## 3. In a run

The device may have processed part of a chain only.  Its registers are then those of the
descriptors that it fetched, and `txContext_matches` asks for the moment in which the context
descriptor of the packet, if there is one, has been processed and nothing behind it. -/

/-- The registers are what the processed descriptors made of those at the start. -/
structure TxRegsInv (regs : TxRegs) (w : TxWorld) : Prop where
  inv : TxInv w
  regs_eq : w.dma.regs
    = regs.processAll (((w.chains.take w.positions.queued).flatten).take w.fetched)

section Run

variable {w : TxWorld}

/-- The descriptor the DMA engine processes next is the one that was written. -/
theorem TxInv.fetch_desc (h : TxInv w)
    (hlt : w.fetched < (w.chains.take w.positions.queued).flatten.length) :
    w.queue.context.descVirtual w.dma.fetchIndex
      = (w.chains.take w.positions.queued).flatten[w.fetched] := by
  have hle := Nat.le_trans h.queueAt.reaped_le h.released_le
  have hlen : w.fetched < (markReleased w.positions.released
      (w.chains.take w.positions.queued).flatten).length := by rwa [length_markReleased]
  rw [h.fetch_eq]
  exact (h.queueAt.desc_eq hlen hle).trans (markReleased_getElem_ge _ hlt h.released_le)

/-- More packets in the log, or more of them queued, change nothing that was processed. -/
theorem TxRegsInv.of_extends {regs : TxRegs} {w' : TxWorld} (h : TxRegsInv regs w)
    (hinv : TxInv w') (hdma : w'.dma.regs = w.dma.regs) (hfetched : w'.fetched = w.fetched)
    (hext : ∃ rest, (w'.chains.take w'.positions.queued).flatten
      = (w.chains.take w.positions.queued).flatten ++ rest) : TxRegsInv regs w' := by
  obtain ⟨rest, hrest⟩ := hext
  refine ⟨hinv, ?_⟩
  have hle : w.fetched ≤ (w.chains.take w.positions.queued).flatten.length := h.inv.fetched_le
  rw [hdma, h.regs_eq, hrest, hfetched, List.take_append_of_le_length hle]

theorem txRegsInv_step (regs : TxRegs) (w : TxWorld) (a : TxAction) (w' : TxWorld)
    (h : TxRegsInv regs w) (hstep : txStep w a = some w') : TxRegsInv regs w' := by
  have hinv := txStep_inv w a w' h.inv hstep
  cases a with
  | post packet frags =>
    rw [txStep] at hstep
    split at hstep
    · obtain rfl := Option.some.inj hstep
      refine h.of_extends hinv rfl rfl ⟨[], ?_⟩
      have hlen : w.positions.queued
          ≤ (chains w.queue.context.vlanId startLast w.posted).length := by
        rw [length_chains]
        exact h.inv.queueAt.queued_le
      rw [List.append_nil]
      show ((chains w.queue.context.vlanId startLast (w.posted ++ [_])).take
          w.positions.queued).flatten
        = ((chains w.queue.context.vlanId startLast w.posted).take w.positions.queued).flatten
      rw [chains_append, List.take_append_of_le_length hlen]
    · exact absurd hstep (by simp)
  | fetch =>
    rw [txStep] at hstep
    split at hstep
    · exact absurd hstep (by simp)
    · obtain rfl := Option.some.inj hstep
      refine ⟨hinv, ?_⟩
      have hlt : w.fetched < (w.chains.take w.positions.queued).flatten.length :=
        hinv.fetched_le
      show w.dma.regs.process (w.queue.context.descVirtual w.dma.fetchIndex)
        = regs.processAll ((w.chains.take w.positions.queued).flatten.take (w.fetched + 1))
      rw [List.take_add_one, List.getElem?_eq_getElem hlt, TxRegs.processAll_append, ← h.regs_eq,
        h.inv.fetch_desc hlt]
      rfl
  | complete =>
    rw [txStep] at hstep
    split at hstep
    · exact absurd hstep (by simp)
    · obtain rfl := Option.some.inj hstep
      exact h.of_extends hinv rfl rfl ⟨[], (List.append_nil _).symm⟩
  | advance =>
    rw [txStep] at hstep
    obtain rfl := Option.some.inj hstep
    obtain ⟨-, -, -, hqueued, hkeep⟩ := txAdvance_spec h.inv
    refine h.of_extends hinv (by rw [txAdvance_dma]) (by rw [txAdvance_fetched]) ?_
    have hchains : (txAdvance w).chains = w.chains := by
      rw [TxWorld.chains, txAdvance_posted, TxWorld.chains, TxQueueContext.chains,
        TxQueueContext.chains, hkeep.vlanId_eq]
    refine ⟨((w.chains.take (txAdvance w).positions.queued).drop w.positions.queued).flatten, ?_⟩
    have htake : w.chains.take w.positions.queued
        = (w.chains.take (txAdvance w).positions.queued).take w.positions.queued := by
      rw [List.take_take, Nat.min_eq_left hqueued]
    rw [hchains, htake, ← List.flatten_append, List.take_append_drop]

/-- In every run there are registers it started with. -/
theorem txRegsInv_of_reach (h : Reach TxWorld.Started txStep w) : ∃ regs, TxRegsInv regs w := by
  refine h.invariant (I := fun s => ∃ regs, TxRegsInv regs s) (fun s hs => ?_)
    (fun s a t hI hstep => ?_)
  · have hinv := started_inv s hs
    obtain ⟨context, packetRing, fragmentRing, regs, -, -, rfl⟩ := hs
    exact ⟨regs, hinv, by rfl⟩
  · obtain ⟨regs, hI⟩ := hI
    exact ⟨regs, txRegsInv_step regs s a t hI hstep⟩

end Run

/-- The number of context descriptors before the first data descriptor of a packet. -/
def contextCount (ds : List TxDescriptor) : Nat :=
  (ds.takeWhile TxDescriptor.contextType).length

/-- `contextDescs` is the part of a packet's descriptors that `contextCount` counts; the body
follows, and has a first descriptor. -/
theorem contextCount_packetDescs {vlanId pktIndex : Nat} {last : TxLast} {pkt : NetPacket}
    {frags : List (Nat × NetFragment)} (hfits : PacketFits pkt (frags.map Prod.snd)) :
    contextCount (packetDescs vlanId last pktIndex pkt frags).1
        = (contextDescs vlanId last pktIndex pkt).length
      ∧ ∃ d ds, (packetDescs vlanId last pktIndex pkt frags).1
          = contextDescs vlanId last pktIndex pkt ++ d :: ds ∧ d.contextType = false := by
  have hctx : ∀ d ∈ contextDescs vlanId last pktIndex pkt, d.contextType = true := by
    intro d hd
    rw [contextDescs] at hd
    split at hd
    · rw [List.mem_singleton] at hd
      exact hd ▸ (contextDesc_spec vlanId last pktIndex pkt).2.2
    · exact absurd hd (by simp)
  obtain ⟨d, ds, hcons⟩ := List.exists_cons_of_ne_nil
    (@bodyDescs_endsAtLast vlanId pktIndex pkt frags hfits).ne_nil
  have hfirst := (@bodyDescs_forall vlanId pktIndex pkt frags hfits d
    (by rw [hcons]; exact List.mem_cons_self)).2.2.1
  have hdescs : (packetDescs vlanId last pktIndex pkt frags).1
      = contextDescs vlanId last pktIndex pkt ++ d :: ds := by
    rw [packetDescs_fst, ← hcons]
    rfl
  refine ⟨?_, d, ds, hdescs, hfirst⟩
  rw [hdescs, contextCount, List.takeWhile_append_of_pos hctx, List.takeWhile_cons, hfirst]
  simp

/-- **When the device processes the first data descriptor of a packet, its registers are the
packet's.**  `w` is any state in which the DMA engine has processed what comes before that
descriptor of packet `i`; the descriptor it reads next is then the one meant. -/
theorem txContext_matches (w : TxWorld) (h : Reach TxWorld.Started txStep w)
    (i : Nat) (hi : i < w.posted.length) (hic : i < w.chains.length)
    (hqueued : i < w.positions.queued) (hig : w.posted[i].packet.ignore = false)
    (hnext : w.fetched = offset w.chains i + contextCount w.chains[i]) :
    (w.chains[i][contextCount w.chains[i]]?
          = some (w.queue.context.descVirtual w.dma.fetchIndex)
        ∧ (w.queue.context.descVirtual w.dma.fetchIndex).contextType = false)
      ∧ (w.posted[i].packet.gsoMss16 ≠ 0 → w.posted[i].packet.gsoMss ≤ 0x3FFF →
        w.dma.regs.mss = w.posted[i].packet.gsoMss)
      ∧ ((∃ d ∈ w.chains[i], d.vlanTagControl = .insert) →
        w.dma.regs.vlan = txVlanTag w.queue.context.vlanId w.posted[i].packet) := by
  obtain ⟨regs, hinv⟩ := txRegsInv_of_reach h
  have hwell := hinv.inv.queueAt.wellPosted
  have hfits := (hwell i hi).fits hig
  have hchain : w.chains[i] = (packetDescs w.queue.context.vlanId
      (lastAfter w.queue.context.vlanId startLast (w.posted.take i)) w.posted[i].pktIndex
      w.posted[i].packet w.posted[i].fragments).1 := by
    simp only [TxWorld.chains, TxQueueContext.chains]
    rw [chains_getElem _ _ hi, Posting.descs, if_neg (by simp [hig])]
  have hsynced := Synced.log w.queue.context.vlanId hwell regs i (Nat.le_of_lt hi)
  obtain ⟨hcount, d, ds, hcons, hfirst⟩ := @contextCount_packetDescs w.queue.context.vlanId
    w.posted[i].pktIndex (lastAfter w.queue.context.vlanId startLast (w.posted.take i)) _ _ hfits
  rw [← hchain] at hcount hcons
  -- the queued descriptors: the packets before, this packet's context, its first descriptor
  have hsplit : ∃ rest, (w.chains.take w.positions.queued).flatten
      = ((w.chains.take i).flatten ++ contextDescs w.queue.context.vlanId
          (lastAfter w.queue.context.vlanId startLast (w.posted.take i)) w.posted[i].pktIndex
          w.posted[i].packet) ++ d :: rest := by
    have hit : i < (w.chains.take w.positions.queued).length := by
      rw [List.length_take]
      omega
    refine ⟨ds ++ ((w.chains.take w.positions.queued).drop (i + 1)).flatten, ?_⟩
    conv_lhs => rw [← List.take_append_drop i (w.chains.take w.positions.queued),
      List.flatten_append, List.drop_eq_getElem_cons hit, List.flatten_cons]
    rw [List.take_take, Nat.min_eq_left (Nat.le_of_lt hqueued), List.getElem_take, hcons]
    simp
  obtain ⟨rest, hsplit⟩ := hsplit
  have hlen : w.fetched = ((w.chains.take i).flatten ++ contextDescs w.queue.context.vlanId
      (lastAfter w.queue.context.vlanId startLast (w.posted.take i)) w.posted[i].pktIndex
      w.posted[i].packet).length := by
    rw [hnext, hcount, List.length_append]
    rfl
  have hprocessed := congrArg (List.take w.fetched) hsplit
  rw [hlen, List.take_left, ← hlen] at hprocessed
  have hdesc : w.queue.context.descVirtual w.dma.fetchIndex = d := by
    have hget : (w.chains.take w.positions.queued).flatten[w.fetched]? = some d := by
      rw [hsplit, List.getElem?_append_right (Nat.le_of_eq hlen.symm), hlen, Nat.sub_self]
      rfl
    obtain ⟨hlt, hget⟩ := List.getElem?_eq_some_iff.mp hget
    rw [hinv.inv.fetch_desc hlt, hget]
  have hregs := hinv.regs_eq
  rw [hprocessed, TxRegs.processAll_append] at hregs
  obtain ⟨hmss, hvlan⟩ := @Synced.contextDescs w.queue.context.vlanId w.posted[i].pktIndex _
    w.posted[i].packet _ hsynced
  refine ⟨⟨?_, by rw [hdesc]; exact hfirst⟩, fun hgso hle => ?_, fun hinsert => ?_⟩
  · rw [hdesc, hcount, hcons, List.getElem?_append_right (Nat.le_refl _), Nat.sub_self]
    rfl
  · have h16 : w.posted[i].packet.gsoMss16 = w.posted[i].packet.gsoMss :=
      Nat.mod_eq_of_lt (by omega)
    rw [hregs]
    exact (hmss hgso (by omega)).trans h16
  · rw [hregs]
    refine hvlan fun hzero => ?_
    obtain ⟨d, hd, hcontrol⟩ := hinsert
    rw [hchain, packetDescs_fst, List.mem_append] at hd
    rcases hd with hd | hd
    · split at hd
      · rw [List.mem_singleton] at hd
        rw [hd, contextDesc] at hcontrol
        split at hcontrol <;> exact absurd hcontrol (by simp [gsoContext, tagContext,
          TxDescriptor.vlanTagControl])
      · exact absurd hd (by simp)
    · rw [(bodyDescs_forall hfits d hd).2.2.2, txVlanTagControl, hzero] at hcontrol
      exact absurd hcontrol (by simp)

/-- A packet of one fragment with segmentation and a VLAN. -/
def gsoPacket : NetPacket where
  fragmentIndex := 0
  fragmentCount := 1
  ignore := false
  layout := ⟨.unspecified, .unspecified, .tcp, 14, 20, 20⟩
  ieee8021Q := ⟨ieee8021qVlanRequired, 0, 5⟩
  gsoMss := 1000
  checksum := ⟨0, 0, 0⟩

/-- The device has processed the context descriptor of such a packet. -/
theorem txContext_matches_of_run : ∃ w, Reach TxWorld.Started txStep w
    ∧ w.dma.regs.mss = 1000 := by
  have hstart : (TxWorld.start plainContext (emptyRing gsoPacket) (emptyRing ⟨0, 0, 0⟩)
      ⟨7, 7⟩).Started :=
    ⟨_, _, _, _, ⟨by decide, rfl, rfl⟩, ⟨by decide, rfl, rfl⟩, rfl⟩
  obtain ⟨w, hw, hp⟩ := exists_reach_of_run txStep hstart
    [.post gsoPacket [⟨0, 3000, 0x8000⟩], .advance, .fetch]
    (fun w => decide (∃ (hi : 0 < w.posted.length) (hic : 0 < w.chains.length),
      0 < w.positions.queued ∧ w.posted[0].packet.ignore = false
        ∧ w.fetched = offset w.chains 0 + contextCount w.chains[0]
        ∧ w.posted[0].packet = gsoPacket)) (by decide +kernel)
  obtain ⟨hi, hic, hqueued, hig, hnext, hpkt⟩ := of_decide_eq_true hp
  have hmss := (txContext_matches w hw 0 hi hic hqueued hig hnext).2.1
  rw [hpkt] at hmss
  exact ⟨w, hw, hmss (by decide) (by decide)⟩

end WoaRk3576.Net
