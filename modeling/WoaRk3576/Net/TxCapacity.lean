/-
# What one packet may ask of the transmit ring

`TxQueueAdvance` queues a packet whole or not at all, so a packet that needs more descriptors than
an empty ring has (`descCount - 1`, the ring has a hole) stops the queue for ever.  The driver
advertises `TxMaximumNumberOfFragments`, three less than the smallest ring: one descriptor a
fragment, one for the context and one for the header would just fit.

A fragment of a packet with segmentation that exceeds `QueueDescriptorLengthMax` takes more than
one descriptor, though.  `demand_fits_iff` is the result: every packet within the advertised
capabilities fits exactly when the ring is larger than the smallest one.  `demand_fits_ring_iff` is
the same for packets that fit into the fragment ring.

The bound on the demand counts bytes.  A fragment wastes less than one descriptor
(`mul_descriptorsFor_le`), so the splits of a packet are at most its bytes divided by the limit,
and a packet has no more bytes than the largest offload: sixteen splits, beside a descriptor for
each fragment, the context and the header (`TxWithinCapabilities.descriptorsNeeded_le`).  The next
larger ring has twice as many descriptors, which is enough.  In the smallest one, 46 fragments of
which sixteen split need 64 where 63 can be free (`splitPacket`), far below the number of fragments
that is advertised.
-/
import WoaRk3576.Net.TxQueue

namespace WoaRk3576.Net

open WoaRk3576.Lib

/-! ## 1. The size of the ring

The ring is sized by the number of fragments that NetAdapterCx may post, rounded up to a power of
two and kept within a page and 1024 descriptors. -/

/-- `QueueDescriptorMinCount`: `PAGE_SIZE / QueueDescriptorSize`. -/
def queueDescriptorMinCount : Nat := 0x1000 / queueDescriptorSize

/-- `QueueDescriptorMaxCount`. -/
def queueDescriptorMaxCount : Nat := 0x400

/-- `clamped` in `QueueDescriptorCount`. -/
def clampedCount (fragmentCount : Nat) : Nat :=
  if fragmentCount < queueDescriptorMinCount then queueDescriptorMinCount
  else if fragmentCount > queueDescriptorMaxCount then queueDescriptorMaxCount
  else fragmentCount

/-- `QueueDescriptorCount`; `_BitScanReverse` finds the highest bit set. -/
def queueDescriptorCount (fragmentCount : Nat) : Nat :=
  2 <<< Nat.log2 (clampedCount fragmentCount - 1)

theorem clampedCount_bounds (fragmentCount : Nat) :
    64 ≤ clampedCount fragmentCount ∧ clampedCount fragmentCount ≤ 1024 := by
  unfold clampedCount queueDescriptorMinCount queueDescriptorMaxCount queueDescriptorSize
  split
  · omega
  · split
    · omega
    · omega

theorem queueDescriptorCount_eq (fragmentCount : Nat) :
    queueDescriptorCount fragmentCount
      = 2 ^ (Nat.log2 (clampedCount fragmentCount - 1) + 1) := by
  rw [queueDescriptorCount, Nat.shiftLeft_eq, Nat.pow_succ]
  omega

/-- A power of two from `QueueDescriptorMinCount` to `QueueDescriptorMaxCount`, at least the
clamped count. -/
theorem queueDescriptorCount_spec (fragmentCount : Nat) :
    (∃ k ≤ 10, queueDescriptorCount fragmentCount = 2 ^ k)
      ∧ clampedCount fragmentCount ≤ queueDescriptorCount fragmentCount := by
  obtain ⟨hmin, hmax⟩ := clampedCount_bounds fragmentCount
  have hne : clampedCount fragmentCount - 1 ≠ 0 := by omega
  constructor
  · refine ⟨_, ?_, queueDescriptorCount_eq fragmentCount⟩
    have hlog : Nat.log2 (clampedCount fragmentCount - 1) < 10 :=
      (Nat.log2_lt hne).mpr (by omega)
    omega
  · have hlt : clampedCount fragmentCount - 1
        < 2 ^ (Nat.log2 (clampedCount fragmentCount - 1) + 1) := Nat.lt_log2_self
    rw [queueDescriptorCount_eq]
    omega

/-- The smallest ring, for up to 64 fragments. -/
theorem queueDescriptorCount_small {fragmentCount : Nat} (h : fragmentCount ≤ 64) :
    queueDescriptorCount fragmentCount = 64 := by
  have hclamped : clampedCount fragmentCount = 64 := by
    unfold clampedCount queueDescriptorMinCount queueDescriptorMaxCount queueDescriptorSize
    split
    · rfl
    · split
      · omega
      · omega
  rw [queueDescriptorCount, hclamped]
  decide

/-- Any larger ring has at least 128 descriptors. -/
theorem queueDescriptorCount_large {fragmentCount : Nat} (h : 64 < fragmentCount) :
    128 ≤ queueDescriptorCount fragmentCount := by
  have hclamped : 65 ≤ clampedCount fragmentCount := by
    unfold clampedCount queueDescriptorMinCount queueDescriptorMaxCount queueDescriptorSize
    split
    · omega
    · split
      · omega
      · omega
  obtain ⟨⟨k, -, hk⟩, hle⟩ := queueDescriptorCount_spec fragmentCount
  have hk7 : 7 ≤ k := by
    by_contra hlt
    have hpow : 2 ^ k ≤ 2 ^ 6 := Nat.pow_le_pow_right (by norm_num) (by omega)
    omega
  calc 128 = 2 ^ 7 := by norm_num
    _ ≤ 2 ^ k := Nat.pow_le_pow_right (by norm_num) hk7
    _ = queueDescriptorCount fragmentCount := hk.symm

/-! ## 2. What a packet demands

A fragment takes one descriptor, and one more for each 0x3FFF bytes it goes beyond the first.  A
packet with segmentation has at most 0x3FFFF bytes behind its header, so the splits are sixteen at
the most, wherever they fall; the fragments are 61 at the most, and with the context and the header
that is more than the 63 descriptors of the smallest ring.  Without segmentation there are no
splits. -/

/-- `TxMaximumNumberOfFragments`. -/
def txMaximumNumberOfFragments : Nat := queueDescriptorMinCount - 3

/-- `TxLayer4HeaderOffsetLimit`. -/
def txLayer4HeaderOffsetLimit : Nat := 0x3FF

/-- `TxMaximumOffloadSize`. -/
def txMaximumOffloadSize : Nat := 0x3FFFF

/-- The bytes of the fragments. -/
def fragmentsTotal (frags : List (Nat × NetFragment)) : Nat :=
  (frags.map fun f => f.2.validLength.val).sum

/-- **A packet within the capabilities** the driver advertises, with its fragments. -/
structure TxWithinCapabilities (pkt : NetPacket) (frags : List (Nat × NetFragment)) : Prop where
  fragmentCount_eq : pkt.fragmentCount = frags.length
  fragmentCount_pos : 1 ≤ frags.length
  fragmentCount_le : frags.length ≤ txMaximumNumberOfFragments
  payload_le : pkt.gsoMss16 ≠ 0 →
    fragmentsTotal frags ≤ txMaximumOffloadSize + pkt.headerLength
  header_le : pkt.gsoMss16 ≠ 0 → pkt.headerLength ≤ txLayer4HeaderOffsetLimit
  header_first : pkt.gsoMss16 ≠ 0 → ∀ f ∈ frags.head?, pkt.headerLength ≤ f.2.validLength.val

/-- A fragment's descriptors, in bytes. -/
theorem mul_descriptorsFor_le (fragLength : Nat) :
    queueDescriptorLengthMax * descriptorsFor fragLength
      ≤ fragLength + (queueDescriptorLengthMax - 1) := by
  have hdiv := Nat.mul_div_le (fragLength + queueDescriptorLengthMax - 1) queueDescriptorLengthMax
  have hpos : 1 ≤ queueDescriptorLengthMax := by decide
  unfold descriptorsFor
  omega

/-- **The descriptors for the data**: each fragment wastes less than one. -/
theorem mul_userDescriptorsNeeded_le (frags : List (Nat × NetFragment)) :
    queueDescriptorLengthMax * userDescriptorsNeeded frags
      ≤ fragmentsTotal frags + frags.length * (queueDescriptorLengthMax - 1) := by
  induction frags with
  | nil => simp [userDescriptorsNeeded, fragmentsTotal]
  | cons f frags ih =>
    have hf := mul_descriptorsFor_le f.2.validLength.val
    simp only [userDescriptorsNeeded, fragmentsTotal, List.map_cons, List.sum_cons,
      List.length_cons, Nat.mul_add, Nat.add_mul, Nat.one_mul] at ih ⊢
    omega

/-- The demand of a packet: its fragments, sixteen splits, a context and a header. -/
theorem TxWithinCapabilities.descriptorsNeeded_le {pkt : NetPacket}
    {frags : List (Nat × NetFragment)} (h : TxWithinCapabilities pkt frags) (vlanId : Nat)
    (last : TxLast) : descriptorsNeeded vlanId last pkt frags ≤ frags.length + 18 := by
  have hcount := h.fragmentCount_le
  unfold descriptorsNeeded
  dsimp only
  split
  · rename_i hgso
    have hdata := mul_userDescriptorsNeeded_le frags
    have hpayload := h.payload_le hgso
    have hheader := h.header_le hgso
    have hcontext := Bool.toNat_le (contextNeeded last (txVlanTag vlanId pkt) pkt.gsoMss16)
    simp only [queueDescriptorLengthMax, txMaximumOffloadSize, txLayer4HeaderOffsetLimit,
      txMaximumNumberOfFragments, queueDescriptorMinCount, queueDescriptorSize] at *
    omega
  · have htag := Bool.toNat_le (contextTagNeeded last (txVlanTag vlanId pkt))
    rw [h.fragmentCount_eq]
    omega

/-- A packet that is queued without segmentation fits into every ring. -/
theorem TxWithinCapabilities.descriptorsNeeded_plain_le {pkt : NetPacket}
    {frags : List (Nat × NetFragment)} (h : TxWithinCapabilities pkt frags) (vlanId : Nat)
    (last : TxLast) (hplain : pkt.gsoMss16 = 0) :
    descriptorsNeeded vlanId last pkt frags ≤ frags.length + 1 := by
  have htag := Bool.toNat_le (contextTagNeeded last (txVlanTag vlanId pkt))
  unfold descriptorsNeeded
  dsimp only
  rw [if_neg (by simp [hplain]), h.fragmentCount_eq]
  omega

/-- A packet with segmentation in 46 fragments: 16 of them one byte more than a descriptor
takes, the others of one byte. -/
def splitPacket : NetPacket where
  fragmentIndex := 0
  fragmentCount := 46
  ignore := false
  layout := ⟨.ethernet, .ipv4UnspecifiedOptions, .tcp, 14, 20, 20⟩
  ieee8021Q := ⟨0, 0, 0⟩
  gsoMss := 1460
  checksum := ⟨0, 0, 0⟩

def splitFragments : List (Nat × NetFragment) :=
  List.replicate 16 (0, ⟨0, 16384, 0⟩) ++ List.replicate 30 (0, ⟨0, 1, 0⟩)

theorem splitPacket_within : TxWithinCapabilities splitPacket splitFragments := by
  constructor
  · rfl
  · decide
  · decide
  · exact fun _ => by decide
  · exact fun _ => by decide
  · exact fun _ => by decide

theorem splitPacket_needed : descriptorsNeeded 0 ⟨0xFFFF, 0⟩ splitPacket splitFragments = 64 := by
  decide

/-! ## 3. Demand and supply

`splitPacket` is the packet that shows the bound is reached.  It needs 64 descriptors, so it fits
into every ring but the smallest, and every other packet fits where the bound on the demand does,
which is 128 descriptors. -/

/-- **Every packet within the capabilities fits into an empty ring exactly when the ring is not the
smallest**: the fragment ring has more than 64 elements.  At most sixteen fragments of a packet can
be split, since its bytes are limited, and the next larger ring has room for that; in the smallest
one a packet of 46 fragments has not. -/
theorem demand_fits_iff (fragmentCount : Nat) :
    (∀ vlanId last pkt frags, TxWithinCapabilities pkt frags →
        descriptorsNeeded vlanId last pkt frags ≤ queueDescriptorCount fragmentCount - 1)
      ↔ 64 < fragmentCount := by
  constructor
  · intro h
    by_contra hle
    have hfits := h 0 ⟨0xFFFF, 0⟩ splitPacket splitFragments splitPacket_within
    rw [splitPacket_needed, queueDescriptorCount_small (by omega)] at hfits
    omega
  · intro hlarge vlanId last pkt frags hwithin
    have hneeded := hwithin.descriptorsNeeded_le vlanId last
    have hcount : frags.length ≤ 61 := hwithin.fragmentCount_le
    have hsupply := queueDescriptorCount_large hlarge
    omega

/-- The same for the packets whose fragments are in the fragment ring: a ring of up to 45 cannot
hold enough fragments to split. -/
theorem demand_fits_ring_iff (fragmentCount : Nat) :
    (∀ vlanId last pkt frags, TxWithinCapabilities pkt frags → frags.length ≤ fragmentCount →
        descriptorsNeeded vlanId last pkt frags ≤ queueDescriptorCount fragmentCount - 1)
      ↔ 64 < fragmentCount ∨ fragmentCount ≤ 45 := by
  constructor
  · intro h
    by_contra hnot
    have hfits := h 0 ⟨0xFFFF, 0⟩ splitPacket splitFragments splitPacket_within
      (by rw [show splitFragments.length = 46 from rfl]; omega)
    rw [splitPacket_needed, queueDescriptorCount_small (by omega)] at hfits
    omega
  · intro hring vlanId last pkt frags hwithin hlength
    rcases hring with hlarge | hfew
    · exact (demand_fits_iff fragmentCount).mpr hlarge vlanId last pkt frags hwithin
    · have hneeded := hwithin.descriptorsNeeded_le vlanId last
      rw [queueDescriptorCount_small (by omega)]
      omega

/-- The packet that splits needs 64 descriptors; the smallest ring, of a fragment ring that
holds it, has 63 to give. -/
theorem split_packet_blocks :
    TxWithinCapabilities splitPacket splitFragments
      ∧ ¬ descriptorsNeeded 0 ⟨0xFFFF, 0⟩ splitPacket splitFragments
        ≤ queueDescriptorCount 64 - 1 := by
  refine ⟨splitPacket_within, ?_⟩
  rw [splitPacket_needed, queueDescriptorCount_small le_rfl]
  omega

end WoaRk3576.Net
