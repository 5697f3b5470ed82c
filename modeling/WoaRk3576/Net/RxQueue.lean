/-
# The dwc_eqos receive queue: `rxqueue.cpp`

`RxQueueStart` and `RxQueueAdvance` as the driver computes them.  `RxQueueAdvance` reads
`Current_App_RxDesc` once, then walks the receive region up to that descriptor and indicates
one packet for each (`rxReapStep`), and then fills the empty descriptors with new fragments
(`rxFillStep`).  The two branches at its end -- the queue is running or was cancelled -- are
`rxQueueFill` and `rxQueueFlush`.

A descriptor is kept as the union of the source really is: four 32-bit words, with the
debug-build field `FragmentIndex` behind them.  What the driver writes (`rxDescriptorRead`) and
what it reads (`RxDescriptor.own`, `errorSummary`, ..) are at the bit positions of the two
layouts of descriptors.h.

Left out: traces, statistics, and `rxBufferSize`, which only configures the channel.
-/
import WoaRk3576.Net.NetRing
import WoaRk3576.Lib.Loop

namespace WoaRk3576.Net

open WoaRk3576.Lib

/-! ## 1. Descriptors

A descriptor is four words with two layouts: the one that the driver writes for the device, and the
one that the device writes back.  The fields are read off the words, so a write-back may hold
anything. -/

/-- `RxDescriptor`. -/
structure RxDescriptor where
  rdes0 : Nat
  rdes1 : Nat
  rdes2 : Nat
  rdes3 : Nat
  fragmentIndex : Nat
  deriving DecidableEq, Repr

namespace RxDescriptor

/-- `OuterVlanTag`. -/
def outerVlanTag (d : RxDescriptor) : Nat := d.rdes0 % 2 ^ 16

/-- `PayloadType`: 1 is `RxPayloadTypeUdp`, 2 is `RxPayloadTypeTcp`. -/
def payloadType (d : RxDescriptor) : Nat := d.rdes1 % 2 ^ 3

def ipHeaderError (d : RxDescriptor) : Bool := d.rdes1.testBit 3

def ipv4HeaderPresent (d : RxDescriptor) : Bool := d.rdes1.testBit 4

def ipv6HeaderPresent (d : RxDescriptor) : Bool := d.rdes1.testBit 5

def ipPayloadError (d : RxDescriptor) : Bool := d.rdes1.testBit 7

/-- `PacketLength`, which includes the CRC. -/
def packetLength (d : RxDescriptor) : Nat := d.rdes3 % 2 ^ 15

def errorSummary (d : RxDescriptor) : Bool := d.rdes3.testBit 15

def rdes0Valid (d : RxDescriptor) : Bool := d.rdes3.testBit 25

def lastDescriptor (d : RxDescriptor) : Bool := d.rdes3.testBit 28

def firstDescriptor (d : RxDescriptor) : Bool := d.rdes3.testBit 29

def contextType (d : RxDescriptor) : Bool := d.rdes3.testBit 30

/-- The DMA engine owns the descriptor. -/
def own (d : RxDescriptor) : Bool := d.rdes3.testBit 31

end RxDescriptor

/-- `RDES3` of a descriptor handed to the device: `Buf1Valid`, `InterruptOnCompletion` and
`Own`. -/
def rdes3Read : Nat := 2 ^ 24 + 2 ^ 30 + 2 ^ 31

/-- The `RxDescriptorRead` for a fragment. -/
def rxDescriptorRead (fragLogicalAddress fragIndex : Nat) : RxDescriptor where
  rdes0 := fragLogicalAddress % 2 ^ 32
  rdes1 := fragLogicalAddress / 2 ^ 32 % 2 ^ 32
  rdes2 := 0
  rdes3 := rdes3Read
  fragmentIndex := fragIndex

@[simp] theorem own_rxDescriptorRead (fragLogicalAddress fragIndex : Nat) :
    (rxDescriptorRead fragLogicalAddress fragIndex).own = true := by
  show rdes3Read.testBit 31 = true
  decide

/-! ## 2. The queue

The channel reports the descriptor it is at as an address, and the driver turns it into an index by
a shift and a mask; this needs the alignment of the ring. -/

/-- `QueueDescriptorAlignment`. -/
def queueDescriptorAlignment : Nat := 0x400 * 64

/-- `RxQueueContext`, with the register `RxDesc_Tail_Pointer` of its channel.  The ring is
aligned to `QueueDescriptorAlignment`; `descCount` is a power of 2 up to
`QueueDescriptorMaxCount`. -/
structure RxQueueContext where
  descVirtual : Nat → RxDescriptor
  descPhysical : Nat
  descCount : Nat
  running : Bool
  descBegin : Nat
  descEnd : Nat
  rxDescTailPointer : Nat
  descCount_pow2 : ∃ k, k ≤ 10 ∧ descCount = 2 ^ k
  aligned : descPhysical % queueDescriptorAlignment = 0

/-- `descMask`. -/
def RxQueueContext.descMask (context : RxQueueContext) : Nat := context.descCount - 1

/-- `QueueDescriptorAddressToIndex`. -/
def queueDescriptorAddressToIndex (address : Nat) : Nat :=
  (address &&& (queueDescriptorAlignment - 1)) / 64

/-- The address of a descriptor. -/
def RxQueueContext.descAddress (context : RxQueueContext) (index : Nat) : Nat :=
  context.descPhysical + index * 64

/-- `SetDescEnd`. -/
def rxSetDescEnd (context : RxQueueContext) (index : Nat) : RxQueueContext :=
  { context with
    rxDescTailPointer := context.descAddress index
    descEnd := index }

/-- `RxQueueStart`. -/
def rxQueueStart (context : RxQueueContext) : RxQueueContext :=
  rxSetDescEnd { context with running := true, descBegin := 0, descEnd := 0 } 0

/-- The queue with the rings it shares with NetAdapterCx. -/
structure RxQueue where
  context : RxQueueContext
  packetRing : NetRing NetPacket
  fragmentRing : NetRing NetFragment

/-! ## 3. Indicating a packet

One descriptor is one packet with one fragment.  A descriptor that does not hold one whole packet
without errors is indicated all the same, as a packet to be ignored, so that the rings stay in
step. -/

/-- `pkt->Layout = {}`. -/
def emptyLayout : NetPacketLayout := ⟨.unspecified, .unspecified, .unspecified, 0, 0, 0⟩

/-- `NetPacketRxChecksumEvaluationValid`. -/
def rxChecksumValid : Nat := 1

/-- `NetPacketRxChecksumEvaluationInvalid`. -/
def rxChecksumInvalid : Nat := 2

/-- The descriptor does not describe one whole packet received without error. -/
def RxDescriptor.dropped (d : RxDescriptor) : Bool :=
  d.errorSummary || d.contextType || !d.firstDescriptor || !d.lastDescriptor

/-- The 802.1Q extension of the packet. -/
def rxTag (d : RxDescriptor) (pkt : NetPacket) : NetPacket :=
  if d.rdes0Valid && d.outerVlanTag != 0 then
    { pkt with ieee8021Q :=
        { txTagging := 0
          priorityCodePoint := d.outerVlanTag >>> 13
          vlanIdentifier := d.outerVlanTag % 2 ^ 12 } }
  else pkt

/-- The checksum extension and the layout of the packet. -/
def rxChecksum (d : RxDescriptor) (pkt : NetPacket) : NetPacket :=
  if d.ipv4HeaderPresent || d.ipv6HeaderPresent then
    { pkt with
      checksum :=
        { layer2 := rxChecksumValid
          layer3 := if d.ipHeaderError then rxChecksumInvalid else rxChecksumValid
          layer4 := if d.ipPayloadError then rxChecksumInvalid else rxChecksumValid }
      layout := { pkt.layout with
        layer2Type := .ethernet
        layer3Type :=
          if d.ipv4HeaderPresent then .ipv4UnspecifiedOptions else .ipv6UnspecifiedExtensions
        layer4Type :=
          if d.payloadType = 1 then .udp
          else if d.payloadType = 2 then .tcp
          else .unspecified } }
  else pkt

/-- What the loop writes into the packet that it indicates for a descriptor. -/
def rxPacket (d : RxDescriptor) (fragIndex : Nat) (pkt : NetPacket) : NetPacket :=
  let pkt := { pkt with fragmentIndex := fragIndex, fragmentCount := 1, layout := emptyLayout }
  if d.dropped then { pkt with ignore := true } else rxChecksum d (rxTag d pkt)

/-- What the loop writes into its fragment; `PacketLength` includes the CRC. -/
def rxFragment (d : RxDescriptor) (frag : NetFragment) : NetFragment :=
  { frag with
    offset := 0
    validLength := if d.dropped then 0 else Fin.ofNat (2 ^ 26) (d.packetLength + 2 ^ 26 - 4) }

/-! ## 4. `RxQueueAdvance`

`descNext` is read once, at the start, and is old by the time the loops run.  The first loop looks
at `Own` only up to there.  What the second half does depends on whether the queue is running: fill
the ring again, or return what is left. -/

/-- The variables of the first loop, with the two buffers it writes into. -/
structure RxReapState where
  descIndex : Nat
  pktIndex : Nat
  fragIndex : Nat
  packets : Nat → NetPacket
  fragments : Nat → NetFragment

/-- One iteration of the first loop. -/
def rxReapStep (q : RxQueue) (descNext : Nat) (s : RxReapState) : Option RxReapState :=
  if s.descIndex = descNext then none
  else if s.pktIndex = q.packetRing.endIndex ∨ s.fragIndex = q.fragmentRing.endIndex then none
  else if (q.context.descVirtual s.descIndex).own then none
  else some {
    descIndex := (s.descIndex + 1) &&& q.context.descMask
    pktIndex := netRingIncrementIndex q.packetRing s.pktIndex
    fragIndex := netRingIncrementIndex q.fragmentRing s.fragIndex
    packets := Function.update s.packets s.pktIndex
      (rxPacket (q.context.descVirtual s.descIndex) s.fragIndex (s.packets s.pktIndex))
    fragments := Function.update s.fragments s.fragIndex
      (rxFragment (q.context.descVirtual s.descIndex) (s.fragments s.fragIndex)) }

/-- The first loop. -/
def rxReapDescs (descNext : Nat) (q : RxQueue) : RxReapState :=
  loop (rxReapStep q descNext) q.context.descCount
    ⟨q.context.descBegin, q.packetRing.beginIndex, q.fragmentRing.beginIndex,
      q.packetRing.buffer, q.fragmentRing.buffer⟩

/-- The first half: indicate received packets. -/
def rxQueueReap (descNext : Nat) (q : RxQueue) : RxQueue :=
  let s := rxReapDescs descNext q
  { context := { q.context with descBegin := s.descIndex }
    packetRing := { q.packetRing with beginIndex := s.pktIndex, buffer := s.packets }
    fragmentRing := { q.fragmentRing with beginIndex := s.fragIndex, buffer := s.fragments } }

/-- The variables of the second loop. -/
structure RxFillState where
  descIndex : Nat
  fragIndex : Nat
  descVirtual : Nat → RxDescriptor

/-- `descFull`. -/
def RxQueueContext.descFull (context : RxQueueContext) : Nat :=
  sub32 context.descBegin 1 &&& context.descMask

/-- One iteration of the second loop. -/
def rxFillStep (q : RxQueue) (s : RxFillState) : Option RxFillState :=
  if s.descIndex = q.context.descFull then none
  else if s.fragIndex = q.fragmentRing.endIndex then none
  else some {
    descIndex := (s.descIndex + 1) &&& q.context.descMask
    fragIndex := netRingIncrementIndex q.fragmentRing s.fragIndex
    descVirtual := Function.update s.descVirtual s.descIndex
      (rxDescriptorRead (q.fragmentRing.buffer s.fragIndex).logicalAddress s.fragIndex) }

/-- The second loop. -/
def rxFillDescs (q : RxQueue) : RxFillState :=
  loop (rxFillStep q) q.context.descCount
    ⟨q.context.descEnd, q.fragmentRing.nextIndex, q.context.descVirtual⟩

/-- The second half while the queue is running: prepare more descriptors. -/
def rxQueueFill (descNext : Nat) (q : RxQueue) : RxQueue :=
  let s := rxFillDescs q
  let context := { q.context with descVirtual := s.descVirtual }
  if s.descIndex ≠ descNext then
    { q with
      context := rxSetDescEnd context s.descIndex
      fragmentRing := { q.fragmentRing with nextIndex := s.fragIndex } }
  else { q with context := context }

/-- Mark the packets that are left as ignored. -/
def rxIgnoreStep (packetRing : NetRing NetPacket) (s : Nat × (Nat → NetPacket)) :
    Option (Nat × (Nat → NetPacket)) :=
  if s.1 = packetRing.endIndex then none
  else some (netRingIncrementIndex packetRing s.1,
    Function.update s.2 s.1 { s.2 s.1 with ignore := true })

/-- The second half after `RxQueueCancel`: return what is left, once everything received was
indicated. -/
def rxQueueFlush (descNext : Nat) (q : RxQueue) : RxQueue :=
  if q.context.descBegin = descNext then
    let s := loop (rxIgnoreStep q.packetRing) q.packetRing.numberOfElements
      (q.packetRing.beginIndex, q.packetRing.buffer)
    { q with
      packetRing := { q.packetRing with beginIndex := q.packetRing.endIndex, buffer := s.2 }
      fragmentRing := { q.fragmentRing with beginIndex := q.fragmentRing.endIndex } }
  else q

/-- `RxQueueAdvance`, with the `descNext` it read. -/
def rxQueueAdvance (descNext : Nat) (q : RxQueue) : RxQueue :=
  let q := rxQueueReap descNext q
  if q.context.running then rxQueueFill descNext q else rxQueueFlush descNext q

end WoaRk3576.Net
