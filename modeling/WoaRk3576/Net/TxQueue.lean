/-
# The dwc_eqos transmit queue: `txqueue.cpp`

`TxQueueStart` and `TxQueueAdvance` as the driver computes them, over the two NetAdapterCx
rings and the descriptor array.  `TxQueueAdvance` is two loops.  The first walks the transmit
region `[descBegin, descEnd)` and hands packets back (`reapDescs`); the second walks the new
packets and writes descriptors from `descEnd` on (`fillDescs`), as long as they fit.

What is left out: `TraceWrite`, the statistics counters (never incremented by the source), and
the error bits of a written-back descriptor, which are read for tracing only.  The debug-build
fields `PacketIndex` and `FragmentIndex` of a descriptor are kept, since an assertion of the
first loop compares them.

A descriptor is a union in the source.  Here it is a sum with one view per layout the driver
writes; `TxDescriptor.own`, `contextType` and `lastDescriptor` read the bits at their place in
TDES3, which all layouts share.
-/
import WoaRk3576.Net.NetRing
import WoaRk3576.Lib.Loop

namespace WoaRk3576.Net

open WoaRk3576.Lib

/-! ## 1. Descriptors

A descriptor is 16 bytes that mean different things to the device in different layouts.  The driver
writes one of three layouts and later reads only bits that all of them have in the same place, so a
descriptor is kept as the layout that was written last, with a function for each bit that is read
back. -/

/-- `QueueDescriptorLengthMax`: 14 bits. -/
def queueDescriptorLengthMax : Nat := 0x3FFF

/-- `QueueDescriptorSize`. -/
def queueDescriptorSize : Nat := 64

inductive TxChecksumInsertion
  | disabled | enabledHeaderOnly | enabledExceptPseudo | enabledIncludingPseudo
  deriving DecidableEq, Repr

inductive TxVlanTagControl
  | none | remove | insert | replace
  deriving DecidableEq, Repr

/-- `TxDescriptorRead`. -/
structure TxDescriptorRead where
  buf1Ap : Nat
  buf2Ap : Nat
  buf1Length : Nat
  vlanTagControl : TxVlanTagControl
  interruptOnCompletion : Bool
  frameLength : Nat
  checksumInsertion : TxChecksumInsertion
  lastDescriptor : Bool
  firstDescriptor : Bool
  own : Bool
  fragmentIndex : Nat
  packetIndex : Nat
  deriving DecidableEq, Repr

/-- `TxDescriptorReadTso`.  `TcpSegmentationEnable` is set in every one the driver writes. -/
structure TxDescriptorReadTso where
  buf1Ap : Nat
  buf2Ap : Nat
  buf1Length : Nat
  vlanTagControl : TxVlanTagControl
  tcpPayloadLength : Nat
  tcpHeaderLength : Nat
  firstDescriptor : Bool
  own : Bool
  fragmentIndex : Nat
  packetIndex : Nat
  deriving DecidableEq, Repr

/-- `TxDescriptorContext`. -/
structure TxDescriptorContext where
  maximumSegmentSize : Nat
  vlanTag : Nat
  vlanTagValid : Bool
  oneStepInputOrMssValid : Bool
  own : Bool
  fragmentIndex : Nat
  packetIndex : Nat
  deriving DecidableEq, Repr

/-- `TxDescriptor`: the layout that was written last. -/
inductive TxDescriptor
  | read (d : TxDescriptorRead)
  | readTso (d : TxDescriptorReadTso)
  | context (d : TxDescriptorContext)
  deriving DecidableEq, Repr

namespace TxDescriptor

/-- Bit 31 of TDES3: the DMA engine owns the descriptor. -/
def own : TxDescriptor → Bool
  | .read d => d.own
  | .readTso d => d.own
  | .context d => d.own

/-- Bit 30 of TDES3. -/
def contextType : TxDescriptor → Bool
  | .context _ => true
  | _ => false

/-- Bit 28 of TDES3.  It is a reserved bit, written as 0, in a context descriptor, and the
driver never sets it in a header descriptor. -/
def lastDescriptor : TxDescriptor → Bool
  | .read d => d.lastDescriptor
  | _ => false

/-- `PacketIndex`, in debug builds. -/
def packetIndex : TxDescriptor → Nat
  | .read d => d.packetIndex
  | .readTso d => d.packetIndex
  | .context d => d.packetIndex

/-- The VLAN insertion a descriptor requests; a context descriptor requests none. -/
def vlanTagControl : TxDescriptor → TxVlanTagControl
  | .read d => d.vlanTagControl
  | .readTso d => d.vlanTagControl
  | .context _ => .none

/-- The DMA engine hands the descriptor back: `Own` is cleared, the other bits the driver reads
keep their value. -/
def release : TxDescriptor → TxDescriptor
  | .read d => .read { d with own := false }
  | .readTso d => .readTso { d with own := false }
  | .context d => .context { d with own := false }

/-- The descriptor that completes a packet in the first loop of `TxQueueAdvance`. -/
def endsPacket (d : TxDescriptor) : Bool := !d.contextType && d.lastDescriptor

@[simp] theorem own_release (d : TxDescriptor) : d.release.own = false := by cases d <;> rfl

@[simp] theorem contextType_release (d : TxDescriptor) :
    d.release.contextType = d.contextType := by cases d <;> rfl

@[simp] theorem lastDescriptor_release (d : TxDescriptor) :
    d.release.lastDescriptor = d.lastDescriptor := by cases d <;> rfl

@[simp] theorem packetIndex_release (d : TxDescriptor) :
    d.release.packetIndex = d.packetIndex := by cases d <;> rfl

@[simp] theorem endsPacket_release (d : TxDescriptor) : d.release.endsPacket = d.endsPacket := by
  simp [endsPacket]

end TxDescriptor

/-! ## 2. The queue

The context holds what the driver keeps between two calls: the indices of its part of the ring, and
the values of the last context descriptor, which the device remembers as well.  The ring's length
is a power of two, so every index goes on by an addition and a mask. -/

/-- What the most recent context descriptor set: `lastMss` and `lastVlanTag`. -/
structure TxLast where
  lastMss : Nat
  lastVlanTag : Nat
  deriving DecidableEq, Repr

/-- `TxQueueContext`, with the register `TxDesc_Tail_Pointer` of its channel. -/
structure TxQueueContext extends TxLast where
  descVirtual : Nat → TxDescriptor
  descPhysical : Nat
  descCount : Nat
  vlanId : Nat
  descBegin : Nat
  descEnd : Nat
  txDescTailPointer : Nat
  descCount_pow2 : ∃ k, k ≤ 31 ∧ descCount = 2 ^ k

/-- `descMask`. -/
def TxQueueContext.descMask (context : TxQueueContext) : Nat := context.descCount - 1

/-- `SetDescEnd`.  The ring does not cross a 4 GB boundary, so the address is not truncated. -/
def setDescEnd (context : TxQueueContext) (index : Nat) : TxQueueContext :=
  { context with
    txDescTailPointer := context.descPhysical + index * queueDescriptorSize
    descEnd := index }

/-- `TxQueueStart`. -/
def txQueueStart (context : TxQueueContext) : TxQueueContext :=
  setDescEnd { context with lastMss := 0xFFFF, lastVlanTag := 0, descBegin := 0, descEnd := 0 } 0

/-- `SkipIgnorePackets`: the index of the first packet that is not ignored, from `pktIndex` on,
with its `FragmentIndex`.  The loop passes each element at most once. -/
def skipIgnorePackets (packetRing : NetRing NetPacket) : Nat → Nat → Nat → Nat × Nat
  | 0, pktIndex, pktFragIndex => (pktIndex, pktFragIndex)
  | fuel + 1, pktIndex, pktFragIndex =>
    if pktIndex = packetRing.nextIndex then (pktIndex, pktFragIndex)
    else if (packetRing.buffer pktIndex).ignore then
      skipIgnorePackets packetRing fuel (netRingIncrementIndex packetRing pktIndex) pktFragIndex
    else (pktIndex, (packetRing.buffer pktIndex).fragmentIndex)

/-! ## 3. Reaping: the first loop of `TxQueueAdvance`

The loop walks the descriptors behind `descBegin` and stops at the first one that the device still
owns.  A packet is given back only when the descriptor with its `LastDescriptor` bit was seen;
until then its earlier descriptors are passed without effect, and a later call goes on in the
middle of the packet. -/

/-- The loop variables `descIndex`, `pktIndex` and `pktFragIndex`. -/
structure ReapState where
  descIndex : Nat
  pktIndex : Nat
  pktFragIndex : Nat
  deriving DecidableEq, Repr

/-- The body of the loop for a descriptor that the DMA engine has handed back: `pktIndex` and
`pktFragIndex` move on only when the descriptor ends its packet. -/
def reapDesc (packetRing : NetRing NetPacket) (fragmentRing : NetRing NetFragment)
    (desc : TxDescriptor) (pktIndex pktFragIndex : Nat) : Nat × Nat :=
  if desc.contextType then (pktIndex, pktFragIndex)
  else if desc.lastDescriptor then
    skipIgnorePackets packetRing packetRing.numberOfElements
      (netRingIncrementIndex packetRing pktIndex)
      (netRingAdvanceIndex fragmentRing (packetRing.buffer pktIndex).fragmentIndex
        (packetRing.buffer pktIndex).fragmentCount)
  else (pktIndex, pktFragIndex)

/-- One iteration of the loop over `[descBegin, descEnd)`; it stops at the first descriptor
still owned. -/
def reapStep (context : TxQueueContext) (packetRing : NetRing NetPacket)
    (fragmentRing : NetRing NetFragment) (s : ReapState) : Option ReapState :=
  if s.descIndex = context.descEnd then none
  else if (context.descVirtual s.descIndex).own then none
  else
    let next := reapDesc packetRing fragmentRing (context.descVirtual s.descIndex)
      s.pktIndex s.pktFragIndex
    some ⟨(s.descIndex + 1) &&& context.descMask, next.1, next.2⟩

/-- The loop. -/
def reapDescs (context : TxQueueContext) (packetRing : NetRing NetPacket)
    (fragmentRing : NetRing NetFragment) (s : ReapState) : ReapState :=
  loop (reapStep context packetRing fragmentRing) context.descCount s

/-! ## 4. The descriptors of one packet

What the second loop writes is a function of the packet, its fragments and `TxLast`.  It is a list
here, in the order in which it is written; the index of each descriptor is the ring's business
(`writeDescs`).  The test for room comes before the list and counts on its own, so that the two
agree is a theorem (`packetDescs_length_le`) and not part of the definition. -/

/-- The fragments of a packet as the loops visit them, with their indices: `fragmentCount`
elements of the ring from `fragIndex` on. -/
def packetFragments (fragmentRing : NetRing NetFragment) : Nat → Nat → List (Nat × NetFragment)
  | 0, _ => []
  | fragmentCount + 1, fragIndex =>
    (fragIndex, fragmentRing.buffer fragIndex)
      :: packetFragments fragmentRing fragmentCount (netRingIncrementIndex fragmentRing fragIndex)

/-- The low 32 bits of an address: `Buf1Ap`. -/
def addressLow (address : Nat) : Nat := address % 2 ^ 32

/-- The high 32 bits of an address: `Buf2Ap`. -/
def addressHigh (address : Nat) : Nat := address / 2 ^ 32 % 2 ^ 32

/-- `vlanTag`: the packet's own priority and VLAN where it requires them, the queue's VLAN
otherwise. -/
def txVlanTag (vlanId : Nat) (pkt : NetPacket) : Nat :=
  let ieee8021QPriority :=
    if pkt.ieee8021Q.txTagging &&& ieee8021qPriorityRequired ≠ 0
    then pkt.ieee8021Q.priorityCodePoint else 0
  let ieee8021QVlan :=
    if pkt.ieee8021Q.txTagging &&& ieee8021qVlanRequired ≠ 0
    then pkt.ieee8021Q.vlanIdentifier else vlanId
  ((ieee8021QPriority <<< 13) ||| ieee8021QVlan) % 2 ^ 16

/-- `vlanTagControl`. -/
def txVlanTagControl (vlanTag : Nat) : TxVlanTagControl :=
  if vlanTag ≠ 0 then .insert else .none

/-- `contextTagNeeded`. -/
def contextTagNeeded (last : TxLast) (vlanTag : Nat) : Bool :=
  vlanTag != 0 && vlanTag != last.lastVlanTag

/-- `gsoMss`, not 0 when the packet uses segmentation. -/
def NetPacket.gsoMss16 (pkt : NetPacket) : Nat := pkt.gsoMss % 2 ^ 16

/-- `headerLength`: TSO/USO headers up to the payload. -/
def NetPacket.headerLength (pkt : NetPacket) : Nat :=
  (pkt.layout.layer2HeaderLength + pkt.layout.layer3HeaderLength
    + pkt.layout.layer4HeaderLength) % 2 ^ 16

/-- `packetLength` (and `frameLength` without segmentation). -/
def fragmentsLength (frags : List (Nat × NetFragment)) : Nat :=
  (frags.map fun f => f.2.validLength.val).sum % 2 ^ 32

/-- The descriptors for the data of one fragment. -/
def descriptorsFor (fragLength : Nat) : Nat :=
  (fragLength + queueDescriptorLengthMax - 1) / queueDescriptorLengthMax

/-- `userDescriptorsNeeded`.  A packet has fewer than 2^16 fragments, so the sum stays far
below 2^32. -/
def userDescriptorsNeeded (frags : List (Nat × NetFragment)) : Nat :=
  (frags.map fun f => descriptorsFor f.2.validLength.val).sum

/-- `contextNeeded` for a packet with segmentation. -/
def contextNeeded (last : TxLast) (vlanTag gsoMss : Nat) : Bool :=
  contextTagNeeded last vlanTag || gsoMss != last.lastMss

/-- The context descriptor before a packet with segmentation. -/
def gsoContext (last : TxLast) (pktIndex fragIndex vlanTag gsoMss : Nat) : TxDescriptor :=
  .context {
    maximumSegmentSize := gsoMss % 2 ^ 14
    vlanTag := vlanTag
    vlanTagValid := contextTagNeeded last vlanTag
    oneStepInputOrMssValid := true
    own := true
    fragmentIndex := fragIndex
    packetIndex := pktIndex }

/-- The header descriptor of a packet with segmentation. -/
def gsoHeader (pkt : NetPacket) (pktIndex fragIndex vlanTag frag0LogicalAddress
    packetLength : Nat) : TxDescriptor :=
  .readTso {
    buf1Ap := addressLow frag0LogicalAddress
    buf2Ap := addressHigh frag0LogicalAddress
    buf1Length := pkt.headerLength % 2 ^ 14
    vlanTagControl := txVlanTagControl vlanTag
    tcpPayloadLength := sub32 packetLength pkt.headerLength % 2 ^ 18
    tcpHeaderLength := pkt.layout.layer4HeaderLength / 4 % 2 ^ 4
    firstDescriptor := true
    own := true
    fragmentIndex := fragIndex
    packetIndex := pktIndex }

/-- The loop over the buffers of one fragment, from `fragPos` on: each takes up to
`QueueDescriptorLengthMax` bytes.  `lastFrag` says that it is the packet's last fragment. -/
def gsoBuffers (pktIndex vlanTag : Nat) (lastFrag : Bool) (frag : Nat × NetFragment) :
    Nat → Nat → List TxDescriptor
  | 0, _ => []
  | fuel + 1, fragPos =>
    let fragLength := frag.2.validLength.val
    if fragPos = fragLength then []
    else
      let bufLogicalAddress := frag.2.logicalAddress + fragPos
      let bufLength :=
        if sub32 fragLength fragPos < queueDescriptorLengthMax
        then sub32 fragLength fragPos else queueDescriptorLengthMax
      let fragPos' := (fragPos + bufLength) % 2 ^ 32
      let lastDesc := fragPos' == fragLength && lastFrag
      .read {
        buf1Ap := addressLow bufLogicalAddress
        buf2Ap := addressHigh bufLogicalAddress
        buf1Length := bufLength
        vlanTagControl := txVlanTagControl vlanTag
        interruptOnCompletion := lastDesc
        frameLength := 0
        checksumInsertion := .disabled
        lastDescriptor := lastDesc
        firstDescriptor := false
        own := true
        fragmentIndex := frag.1
        packetIndex := pktIndex }
      :: gsoBuffers pktIndex vlanTag lastFrag frag fuel fragPos'

/-- The loop over the fragments; the header is skipped in the first one only. -/
def gsoFragments (pktIndex vlanTag : Nat) : List (Nat × NetFragment) → Nat → List TxDescriptor
  | [], _ => []
  | frag :: frags, nextFragmentStart =>
    gsoBuffers pktIndex vlanTag frags.isEmpty frag frag.2.validLength.val nextFragmentStart
      ++ gsoFragments pktIndex vlanTag frags 0

/-- The context descriptor before a packet without segmentation. -/
def tagContext (pktIndex fragIndex vlanTag : Nat) : TxDescriptor :=
  .context {
    maximumSegmentSize := 0
    vlanTag := vlanTag
    vlanTagValid := true
    oneStepInputOrMssValid := false
    own := true
    fragmentIndex := fragIndex
    packetIndex := pktIndex }

/-- `checksumInsertion`. -/
def txChecksumInsertion (checksum : NetPacketChecksum) : TxChecksumInsertion :=
  if checksum.layer4 ≠ 0 then .enabledIncludingPseudo
  else if checksum.layer3 ≠ 0 then .enabledHeaderOnly
  else .disabled

/-- The loop over the fragments of a packet without segmentation, one descriptor each. -/
def plainFragments (pkt : NetPacket) (pktIndex vlanTag frameLength : Nat) :
    List (Nat × NetFragment) → Bool → List TxDescriptor
  | [], _ => []
  | frag :: frags, first =>
    .read {
      buf1Ap := addressLow frag.2.logicalAddress
      buf2Ap := addressHigh frag.2.logicalAddress
      buf1Length := frag.2.validLength.val % 2 ^ 14
      vlanTagControl := txVlanTagControl vlanTag
      interruptOnCompletion := frags.isEmpty
      frameLength := frameLength % 2 ^ 16
      checksumInsertion := txChecksumInsertion pkt.checksum
      lastDescriptor := frags.isEmpty
      firstDescriptor := first
      own := true
      fragmentIndex := frag.1
      packetIndex := pktIndex }
    :: plainFragments pkt pktIndex vlanTag frameLength frags false

/-- The descriptors a packet that is not ignored needs in the test that precedes writing
them. -/
def descriptorsNeeded (vlanId : Nat) (last : TxLast) (pkt : NetPacket)
    (frags : List (Nat × NetFragment)) : Nat :=
  let vlanTag := txVlanTag vlanId pkt
  if pkt.gsoMss16 ≠ 0 then
    userDescriptorsNeeded frags + (contextNeeded last vlanTag pkt.gsoMss16).toNat + 1
  else pkt.fragmentCount + (contextTagNeeded last vlanTag).toNat

/-- What is written for a packet that is not ignored, in order, and the new `lastMss` and
`lastVlanTag`. -/
def packetDescs (vlanId : Nat) (last : TxLast) (pktIndex : Nat) (pkt : NetPacket)
    (frags : List (Nat × NetFragment)) : List TxDescriptor × TxLast :=
  let vlanTag := txVlanTag vlanId pkt
  let fragIndex := pkt.fragmentIndex
  let tagged : TxLast :=
    if contextTagNeeded last vlanTag then { last with lastVlanTag := vlanTag } else last
  if pkt.gsoMss16 ≠ 0 then
    let frag0LogicalAddress := (frags.head?.map fun f => f.2.logicalAddress).getD 0
    let descs :=
      gsoHeader pkt pktIndex fragIndex vlanTag frag0LogicalAddress (fragmentsLength frags)
        :: gsoFragments pktIndex vlanTag frags pkt.headerLength
    if contextNeeded last vlanTag pkt.gsoMss16 then
      (gsoContext last pktIndex fragIndex vlanTag pkt.gsoMss16 :: descs,
        { tagged with lastMss := pkt.gsoMss16 })
    else (descs, last)
  else
    let descs := plainFragments pkt pktIndex vlanTag (fragmentsLength frags) frags true
    if contextTagNeeded last vlanTag then
      (tagContext pktIndex fragIndex vlanTag :: descs, tagged)
    else (descs, last)

/-! ## 5. Filling: the second loop of `TxQueueAdvance`

The loop takes the new packets in order and stops at the first one that does not fit.  It takes the
whole packet or nothing of it: the test for room precedes the first write, and `descIndex` becomes
`descEnd`, with the tail pointer, only behind the loop. -/

/-- `EMPTY_DESC_REMAINING`; -1 because the ring has a hole. -/
def emptyDescRemaining (context : TxQueueContext) (descBegin descIndex : Nat) : Nat :=
  sub32 (sub32 descBegin 1) descIndex &&& context.descMask

/-- Write descriptors at `descIndex` and the indices after it. -/
def writeDescs (descMask : Nat) : (Nat → TxDescriptor) → Nat → List TxDescriptor →
    (Nat → TxDescriptor) × Nat
  | descVirtual, descIndex, [] => (descVirtual, descIndex)
  | descVirtual, descIndex, d :: ds =>
    writeDescs descMask (Function.update descVirtual descIndex d)
      ((descIndex + 1) &&& descMask) ds

/-- The loop variables `descIndex` and `pktIndex`, and the context the loop changes. -/
structure FillState where
  context : TxQueueContext
  descIndex : Nat
  pktIndex : Nat

/-- The body of the loop for a packet that is not ignored; `none` is the `break` when the
packet does not fit. -/
def fillPacket (fragmentRing : NetRing NetFragment) (descBegin : Nat) (s : FillState)
    (pkt : NetPacket) : Option (TxQueueContext × Nat) :=
  let frags := packetFragments fragmentRing pkt.fragmentCount pkt.fragmentIndex
  if descriptorsNeeded s.context.vlanId s.context.toTxLast pkt frags
      > emptyDescRemaining s.context descBegin s.descIndex then none
  else
    let packet := packetDescs s.context.vlanId s.context.toTxLast s.pktIndex pkt frags
    let written := writeDescs s.context.descMask s.context.descVirtual s.descIndex packet.1
    some ({ s.context with toTxLast := packet.2, descVirtual := written.1 }, written.2)

/-- One iteration of the loop over the new packets `[NextIndex, EndIndex)`. -/
def fillStep (packetRing : NetRing NetPacket) (fragmentRing : NetRing NetFragment)
    (descBegin : Nat) (s : FillState) : Option FillState :=
  if emptyDescRemaining s.context descBegin s.descIndex = 0 then none
  else if s.pktIndex = packetRing.endIndex then none
  else if (packetRing.buffer s.pktIndex).ignore then
    some { s with pktIndex := netRingIncrementIndex packetRing s.pktIndex }
  else
    (fillPacket fragmentRing descBegin s (packetRing.buffer s.pktIndex)).map fun next =>
      ⟨next.1, next.2, netRingIncrementIndex packetRing s.pktIndex⟩

/-- The loop. -/
def fillDescs (packetRing : NetRing NetPacket) (fragmentRing : NetRing NetFragment)
    (descBegin : Nat) (s : FillState) : FillState :=
  loop (fillStep packetRing fragmentRing descBegin) packetRing.numberOfElements s

/-! ## 6. `TxQueueAdvance`

Both halves in the order of the source: completed packets are returned first, so that the second
half has their descriptors. -/

/-- The queue with the rings it shares with NetAdapterCx. -/
structure TxQueue where
  context : TxQueueContext
  packetRing : NetRing NetPacket
  fragmentRing : NetRing NetFragment

/-- The first half: return the completed packets and fragments to NetAdapterCx. -/
def txQueueReap (q : TxQueue) : TxQueue :=
  let start := skipIgnorePackets q.packetRing q.packetRing.numberOfElements
    q.packetRing.beginIndex q.fragmentRing.beginIndex
  let s := reapDescs q.context q.packetRing q.fragmentRing
    ⟨q.context.descBegin, start.1, start.2⟩
  { context := { q.context with descBegin := s.descIndex }
    packetRing := { q.packetRing with beginIndex := s.pktIndex }
    fragmentRing := { q.fragmentRing with beginIndex := s.pktFragIndex } }

/-- The second half: fill more descriptors. -/
def txQueueFill (q : TxQueue) : TxQueue :=
  let s := fillDescs q.packetRing q.fragmentRing q.context.descBegin
    ⟨q.context, q.context.descEnd, q.packetRing.nextIndex⟩
  if s.descIndex ≠ q.context.descEnd then
    { q with
      context := setDescEnd s.context s.descIndex
      packetRing := { q.packetRing with nextIndex := s.pktIndex } }
  else { q with context := s.context }

/-- `TxQueueAdvance`. -/
def txQueueAdvance (q : TxQueue) : TxQueue := txQueueFill (txQueueReap q)

end WoaRk3576.Net
