/-
# The transmit queue without indices: a log of packets and three positions in it

What the transmit queue is for, in its own terms.  NetAdapterCx posts packets one after
another; the log of these postings never forgets.  Each packet that is not ignored stands for a
block of descriptors (`chains`) and a block of fragments (`fragBlocks`), and the queue's state
is a handful of positions:

* the packets before `queued` have their descriptors written, in packet order;
* the DMA engine has released the first `released` of these descriptors;
* the packets before `passed` were returned, with the fragments before `fragsPassed`.

`PassedAt` says when a fragment position agrees with a packet position.  Fragments of ignored
packets belong to nobody, so the agreement is about the packets that are not ignored only.
-/
import WoaRk3576.Net.TxPacket
import WoaRk3576.Lib.Blocks

namespace WoaRk3576.Net

open WoaRk3576.Lib

/-! ## 1. The log

The log is the list of everything that was posted since the start, and never shrinks.  The
descriptors of a packet depend on the packets before it, through the last context descriptor, so
the blocks of the log are a recursion over it and not a map; what they have in common is that the
block of a packet is determined by the log up to it. -/

/-- One posted packet: its element of the packet ring and its fragments with their elements of
the fragment ring. -/
structure Posting where
  pktIndex : Nat
  packet : NetPacket
  fragments : List (Nat × NetFragment)
  deriving DecidableEq, Repr

/-- The descriptors of a posted packet; an ignored packet has none. -/
def Posting.descs (vlanId : Nat) (last : TxLast) (p : Posting) : List TxDescriptor × TxLast :=
  if p.packet.ignore then ([], last)
  else packetDescs vlanId last p.pktIndex p.packet p.fragments

/-- The descriptors of each packet of the log, when `last` was set before the first. -/
def chains (vlanId : Nat) : TxLast → List Posting → List (List TxDescriptor)
  | _, [] => []
  | last, p :: ps => (p.descs vlanId last).1 :: chains vlanId (p.descs vlanId last).2 ps

/-- `lastMss` and `lastVlanTag` after the packets of the log. -/
def lastAfter (vlanId : Nat) : TxLast → List Posting → TxLast
  | last, [] => last
  | last, p :: ps => lastAfter vlanId (p.descs vlanId last).2 ps

/-- What `TxQueueStart` sets: no assumption about the device. -/
def startLast : TxLast := ⟨0xFFFF, 0⟩

/-- The fragments of each packet of the log. -/
def fragBlocks (posted : List Posting) : List (List NetFragment) :=
  posted.map fun p => p.fragments.map Prod.snd

@[simp] theorem length_chains (vlanId : Nat) : ∀ (last : TxLast) (ps : List Posting),
    (chains vlanId last ps).length = ps.length
  | _, [] => rfl
  | last, p :: ps => by
    rw [chains, List.length_cons, length_chains vlanId _ ps, List.length_cons]

theorem chains_append (vlanId : Nat) : ∀ (last : TxLast) (ps qs : List Posting),
    chains vlanId last (ps ++ qs)
      = chains vlanId last ps ++ chains vlanId (lastAfter vlanId last ps) qs
  | _, [], _ => rfl
  | last, p :: ps, qs => by
    rw [List.cons_append, chains, chains, chains_append vlanId _ ps qs, lastAfter,
      List.cons_append]

theorem lastAfter_append (vlanId : Nat) : ∀ (last : TxLast) (ps qs : List Posting),
    lastAfter vlanId last (ps ++ qs) = lastAfter vlanId (lastAfter vlanId last ps) qs
  | _, [], _ => rfl
  | last, p :: ps, qs => by
    rw [List.cons_append, lastAfter, lastAfter_append vlanId _ ps qs, lastAfter]

/-- The packet that follows the first `i` sees what these left in `lastMss`, `lastVlanTag`. -/
theorem lastAfter_take_succ (vlanId : Nat) (last : TxLast) {ps : List Posting} {i : Nat}
    (h : i < ps.length) :
    lastAfter vlanId last (ps.take (i + 1))
      = (ps[i].descs vlanId (lastAfter vlanId last (ps.take i))).2 := by
  rw [List.take_add_one, List.getElem?_eq_getElem h, lastAfter_append]
  rfl

theorem chains_getElem (vlanId : Nat) (last : TxLast) {ps : List Posting} {i : Nat}
    (h : i < ps.length) (h' : i < (chains vlanId last ps).length) :
    (chains vlanId last ps)[i] = (ps[i].descs vlanId (lastAfter vlanId last (ps.take i))).1 := by
  have hsplit : ps = ps.take i ++ ps[i] :: ps.drop (i + 1) := by
    rw [← List.drop_eq_getElem_cons h, List.take_append_drop]
  have hlen : (chains vlanId last (ps.take i)).length = i := by
    rw [length_chains, List.length_take]
    omega
  have hchains : chains vlanId last ps
      = chains vlanId last (ps.take i)
        ++ chains vlanId (lastAfter vlanId last (ps.take i)) (ps[i] :: ps.drop (i + 1)) := by
    rw [← chains_append, ← hsplit]
  have hget : (chains vlanId last ps)[i]?
      = some (ps[i].descs vlanId (lastAfter vlanId last (ps.take i))).1 := by
    rw [hchains, List.getElem?_append_right (Nat.le_of_eq hlen), hlen, Nat.sub_self, chains]
    rfl
  rw [List.getElem?_eq_getElem h', Option.some.injEq] at hget
  exact hget

/-! ## 2. What NetAdapterCx promises about the log

Packets and fragments are posted into the next elements of their rings.  Nothing is promised of the
fragments of a packet that is to be ignored, so they may be missing, and the fragment positions of
the packets behind it go on from the last packet that has any. -/

/-- `frags` at the elements of a ring of `size` elements from `fragIndex` on. -/
def indexFragments (size : Nat) : Nat → List NetFragment → List (Nat × NetFragment)
  | _, [] => []
  | fragIndex, f :: fs => (fragIndex, f) :: indexFragments size ((fragIndex + 1) % size) fs

@[simp] theorem indexFragments_map_snd (size : Nat) : ∀ (fragIndex : Nat) (fs : List NetFragment),
    (indexFragments size fragIndex fs).map Prod.snd = fs
  | _, [] => rfl
  | fragIndex, f :: fs => by
    rw [indexFragments, List.map_cons, indexFragments_map_snd size _ fs]

/-- The two rings of a queue: sizes, and the index at which counter 0 lies. -/
structure TxOrigin where
  packets : Nat
  packetStart : Nat
  fragments : Nat
  fragmentStart : Nat
  deriving DecidableEq, Repr

/-- **Posting `i` of the log is as NetAdapterCx posts it**: in the next element of the packet
ring; and, when it is not ignored, with its fragments in the next elements of the fragment
ring and within what the driver relies on. -/
structure PostedAt (o : TxOrigin) (posted : List Posting) (i : Nat) (p : Posting) : Prop where
  pktIndex_eq : p.pktIndex = wrap o.packets o.packetStart i
  fits : p.packet.ignore = false → PacketFits p.packet (p.fragments.map Prod.snd)
  fragmentIndex_eq : p.packet.ignore = false →
    p.packet.fragmentIndex = wrap o.fragments o.fragmentStart (offset (fragBlocks posted) i)
  fragments_eq : p.packet.ignore = false →
    p.fragments = indexFragments o.fragments
      (wrap o.fragments o.fragmentStart (offset (fragBlocks posted) i))
      (p.fragments.map Prod.snd)

/-- Every posting of the log is as NetAdapterCx posts it. -/
def WellPosted (o : TxOrigin) (posted : List Posting) : Prop :=
  ∀ i (h : i < posted.length), PostedAt o posted i posted[i]

section Log

variable {o : TxOrigin} {posted : List Posting} {vlanId : Nat} {last : TxLast}

/-- An ignored packet has no descriptors. -/
theorem chains_getElem_ignored {i : Nat} (h : i < posted.length)
    (h' : i < (chains vlanId last posted).length) (hig : posted[i].packet.ignore = true) :
    (chains vlanId last posted)[i] = [] := by
  rw [chains_getElem vlanId last h, Posting.descs, hig]
  rfl

/-- A packet that is not ignored has a chain. -/
theorem WellPosted.chain (hw : WellPosted o posted) {i : Nat} (h : i < posted.length)
    (h' : i < (chains vlanId last posted).length) (hig : posted[i].packet.ignore = false) :
    IsChain posted[i].pktIndex (chains vlanId last posted)[i] := by
  rw [chains_getElem vlanId last h, Posting.descs, hig]
  exact packetDescs_chain ((hw i h).fits hig)

/-- So it occupies at least one position. -/
theorem WellPosted.offset_lt (hw : WellPosted o posted) {i : Nat} (h : i < posted.length)
    (hig : posted[i].packet.ignore = false) :
    offset (chains vlanId last posted) i < offset (chains vlanId last posted) (i + 1) := by
  have h' : i < (chains vlanId last posted).length := by
    rw [length_chains]
    exact h
  have hne := (hw.chain h h' hig).endsAtLast.ne_nil
  have hpos := List.length_pos_iff.mpr hne
  rw [offset_succ h']
  omega

theorem offset_chains_ignored {i j : Nat} (hij : i ≤ j) (hj : j ≤ posted.length)
    (h : ∀ k (hk : k < posted.length), i ≤ k → k < j → posted[k].packet.ignore = true) :
    offset (chains vlanId last posted) j = offset (chains vlanId last posted) i := by
  refine offset_eq_of_empty hij (by rwa [length_chains]) fun k hk hik hkj => ?_
  rw [length_chains] at hk
  exact chains_getElem_ignored hk _ (h k hk hik hkj)

/-- Ignored packets leave `lastMss` and `lastVlanTag` alone. -/
theorem lastAfter_ignored {i j : Nat} (hij : i ≤ j) (hj : j ≤ posted.length)
    (h : ∀ k (hk : k < posted.length), i ≤ k → k < j → posted[k].packet.ignore = true) :
    lastAfter vlanId last (posted.take j) = lastAfter vlanId last (posted.take i) := by
  induction hij with
  | refl => rfl
  | @step m him ih =>
    have hm : m < posted.length := by omega
    have hig : posted[m].packet.ignore = true := h m hm him (Nat.lt_succ_self m)
    rw [lastAfter_take_succ vlanId last hm, Posting.descs, hig, if_pos rfl]
    exact ih (by omega) fun k hk hik hkm => h k hk hik (by omega)

/-- The fragments of one packet fill the positions up to the next packet's. -/
theorem offset_fragBlocks_succ {i : Nat} (h : i < posted.length) :
    offset (fragBlocks posted) (i + 1)
      = offset (fragBlocks posted) i + posted[i].fragments.length := by
  have h' : i < (fragBlocks posted).length := by
    rw [fragBlocks, List.length_map]
    exact h
  rw [offset_succ h']
  simp [fragBlocks]

/-- Posting one more keeps the log as promised. -/
theorem WellPosted.snoc (hw : WellPosted o posted) {p : Posting}
    (hp : PostedAt o posted posted.length p) : WellPosted o (posted ++ [p]) := by
  have hoff : ∀ i, i ≤ posted.length →
      offset (fragBlocks (posted ++ [p])) i = offset (fragBlocks posted) i := by
    intro i hi
    rw [fragBlocks, List.map_append]
    exact offset_append (by rwa [List.length_map]) _
  intro i hi
  rw [List.length_append, List.length_singleton] at hi
  rcases Nat.lt_or_ge i posted.length with hlt | hge
  · rw [List.getElem_append_left hlt]
    have hold := hw i hlt
    refine ⟨hold.pktIndex_eq, hold.fits, ?_, ?_⟩
    · rw [hoff i (by omega)]
      exact hold.fragmentIndex_eq
    · rw [hoff i (by omega)]
      exact hold.fragments_eq
  · obtain rfl : i = posted.length := by omega
    rw [List.getElem_append_right (Nat.le_refl _)]
    simp only [Nat.sub_self, List.getElem_cons_zero]
    refine ⟨hp.pktIndex_eq, hp.fits, ?_, ?_⟩
    · rw [hoff _ (Nat.le_refl _)]
      exact hp.fragmentIndex_eq
    · rw [hoff _ (Nat.le_refl _)]
      exact hp.fragments_eq

end Log

/-! ## 3. Positions in the log

A fragment position need not be the end of a packet's fragments to agree with a packet position:
packets to ignore lie between, and the driver moves its two indices at different moments.
`PassedAt` says just what is needed, that no fragment is given back before its packet is passed. -/

/-- **The fragment position `f` agrees with the packet position `i`**: the fragments of every
packet before `i` lie before `f`, those of every packet from `i` on do not. -/
structure PassedAt (posted : List Posting) (i f : Nat) : Prop where
  before : ∀ k (h : k < posted.length), k < i → posted[k].packet.ignore = false →
    offset (fragBlocks posted) (k + 1) ≤ f
  after : ∀ k (h : k < posted.length), i ≤ k → posted[k].packet.ignore = false →
    f ≤ offset (fragBlocks posted) k
  le : f ≤ (fragBlocks posted).flatten.length

section Positions

variable {posted : List Posting}

theorem PassedAt.zero (posted : List Posting) : PassedAt posted 0 0 :=
  ⟨fun _ _ hk => absurd hk (Nat.not_lt_zero _), fun _ _ _ _ => Nat.zero_le _, Nat.zero_le _⟩

/-- The end of a packet's fragments agrees with the packet after it. -/
theorem PassedAt.of_offset {i : Nat} :
    PassedAt posted i (offset (fragBlocks posted) i) :=
  ⟨fun _ _ hk _ => offset_mono _ hk, fun _ _ hk _ => offset_mono _ hk, offset_le_length _ _⟩

/-- Ignored packets can be passed without moving the fragment position ... -/
theorem PassedAt.skip {i j f : Nat} (h : PassedAt posted i f) (hij : i ≤ j)
    (hig : ∀ k (hk : k < posted.length), i ≤ k → k < j → posted[k].packet.ignore = true) :
    PassedAt posted j f := by
  refine ⟨fun k hk hkj hn => ?_, fun k hk hjk hn => h.after k hk (Nat.le_trans hij hjk) hn, h.le⟩
  rcases Nat.lt_or_ge k i with hki | hik
  · exact h.before k hk hki hn
  · rw [hig k hk hik hkj] at hn
    exact absurd hn (by simp)

/-- A log that grew has the same positions. -/
theorem PassedAt.snoc {i f : Nat} (h : PassedAt posted i f) (hi : i ≤ posted.length)
    (p : Posting) : PassedAt (posted ++ [p]) i f := by
  have hblocks : fragBlocks (posted ++ [p])
      = fragBlocks posted ++ [p.fragments.map Prod.snd] := by
    simp [fragBlocks]
  have hlen : (fragBlocks posted).length = posted.length := by simp [fragBlocks]
  refine ⟨fun k hk hki hn => ?_, fun k hk hik hn => ?_, ?_⟩
  · have hlt : k < posted.length := by omega
    rw [List.getElem_append_left hlt] at hn
    rw [hblocks, offset_append (by omega)]
    exact h.before k hlt hki hn
  · rw [List.length_append, List.length_singleton] at hk
    rw [hblocks, offset_append (by omega)]
    rcases Nat.lt_or_ge k posted.length with hlt | hge
    · rw [List.getElem_append_left hlt] at hn
      exact h.after k hlt hik hn
    · rw [offset_of_le (by omega)]
      exact h.le
  · rw [hblocks, List.flatten_append, List.length_append]
    exact Nat.le_trans h.le (Nat.le_add_right _ _)

end Positions

/-! ## 4. Released descriptors

The device hands descriptors back in order, so the released ones are the first `n` of all that were
ever written. -/

/-- The first `n` descriptors were handed back by the DMA engine. -/
def markReleased (n : Nat) (ds : List TxDescriptor) : List TxDescriptor :=
  (ds.take n).map TxDescriptor.release ++ ds.drop n

@[simp] theorem length_markReleased (n : Nat) (ds : List TxDescriptor) :
    (markReleased n ds).length = ds.length := by
  simp [markReleased]
  omega

theorem markReleased_getElem_lt {n i : Nat} {ds : List TxDescriptor}
    (h : i < (markReleased n ds).length) (hi : i < ds.length) (hin : i < n) :
    (markReleased n ds)[i] = ds[i].release := by
  simp only [markReleased]
  rw [List.getElem_append_left (by simp; omega)]
  simp

theorem markReleased_getElem_ge {n i : Nat} {ds : List TxDescriptor}
    (h : i < (markReleased n ds).length) (hi : i < ds.length) (hni : n ≤ i) :
    (markReleased n ds)[i] = ds[i] := by
  simp only [markReleased]
  have hlen : ((ds.take n).map TxDescriptor.release).length = n := by
    simp
    omega
  rw [List.getElem_append_right (by omega)]
  simp only [hlen, List.getElem_drop]
  congr 1
  omega

/-- Descriptors written later are not released yet. -/
theorem markReleased_append {n : Nat} {ds : List TxDescriptor} (h : n ≤ ds.length)
    (es : List TxDescriptor) : markReleased n (ds ++ es) = markReleased n ds ++ es := by
  rw [markReleased, markReleased, List.take_append_of_le_length h, List.drop_append_of_le_length h,
    List.append_assoc]

/-- Without the first `m`, `n - m` of the rest are released. -/
theorem markReleased_drop {m n : Nat} {ds : List TxDescriptor} (h : m ≤ n) :
    (markReleased n ds).drop m = markReleased (n - m) (ds.drop m) := by
  refine List.ext_getElem (by simp) fun i h1 h2 => ?_
  have hi : m + i < ds.length := by
    rw [List.length_drop, length_markReleased] at h1
    omega
  have hi' : i < (ds.drop m).length := by
    rw [List.length_drop]
    omega
  rw [List.getElem_drop]
  rcases Nat.lt_or_ge (m + i) n with hlt | hge
  · rw [markReleased_getElem_lt _ hi hlt, markReleased_getElem_lt _ hi' (by omega),
      List.getElem_drop]
  · rw [markReleased_getElem_ge _ hi hge, markReleased_getElem_ge _ hi' (by omega),
      List.getElem_drop]

/-- The DMA engine hands back one more. -/
theorem markReleased_succ {n : Nat} {ds : List TxDescriptor} (h : n < ds.length) :
    markReleased (n + 1) ds = (markReleased n ds).set n ds[n].release := by
  refine List.ext_getElem (by simp) fun i h1 h2 => ?_
  have hi : i < ds.length := by simpa using h1
  rcases Nat.lt_trichotomy i n with hlt | rfl | hgt
  · rw [markReleased_getElem_lt _ hi (by omega), List.getElem_set_ne (by omega),
      markReleased_getElem_lt _ hi hlt]
  · rw [markReleased_getElem_lt _ hi (by omega), List.getElem_set_self]
  · rw [markReleased_getElem_ge _ hi (by omega), List.getElem_set_ne (by omega),
      markReleased_getElem_ge _ hi (by omega)]

end WoaRk3576.Net
