/-
# The NetAdapterCx rings: packets, fragments and their extensions

NetAdapterCx and the dwc_eqos driver share two rings per queue: the packet ring and the
fragment ring.  Both are power-of-two arrays with three indices:

    [BeginIndex]  handed to the driver before  [NextIndex]  new  [EndIndex]  NetAdapterCx

NetAdapterCx moves `EndIndex` and the driver moves the other two.  One element is never used,
so that `BeginIndex = EndIndex` means "empty".  The headers of NetAdapterCx are not part of the
repository; the functions here follow their documented behaviour
(`NetRingIncrementIndex`, `NetRingAdvanceIndex`), and the records carry the fields the driver
reads, the per-element extensions (802.1Q tag, segmentation offload, checksum, logical address)
included.

`NetRing.Holds` is the connection to the counters of `Lib.Ring`: the ring holds, from counter
`lo` on, the elements of the log of everything that was ever posted.
-/
import WoaRk3576.Lib.Ring

namespace WoaRk3576.Net

open WoaRk3576.Lib

/-! ## 1. Packets and fragments

The records of the ring elements, as far as the driver reads or writes their fields.  Fields of a
few bits are numbers below a power of two. -/

/-- `NET_PACKET_LAYOUT::Layer2Type`, as far as the driver distinguishes it. -/
inductive Layer2Type
  | unspecified | ethernet
  deriving DecidableEq, Repr

/-- `NET_PACKET_LAYOUT::Layer3Type`, likewise. -/
inductive Layer3Type
  | unspecified | ipv4UnspecifiedOptions | ipv6UnspecifiedExtensions
  deriving DecidableEq, Repr

/-- `NET_PACKET_LAYOUT::Layer4Type`, likewise. -/
inductive Layer4Type
  | unspecified | tcp | udp
  deriving DecidableEq, Repr

/-- `NET_PACKET_LAYOUT`: the header types and the header lengths in bytes. -/
structure NetPacketLayout where
  layer2Type : Layer2Type
  layer3Type : Layer3Type
  layer4Type : Layer4Type
  layer2HeaderLength : Nat
  layer3HeaderLength : Nat
  layer4HeaderLength : Nat
  deriving DecidableEq, Repr

/-- `NET_PACKET_IEEE8021Q`. -/
structure NetPacketIeee8021Q where
  txTagging : Nat
  priorityCodePoint : Nat
  vlanIdentifier : Nat
  deriving DecidableEq, Repr

/-- `NET_PACKET_CHECKSUM`: actions requested on the way out, evaluations on the way in; 0 is
"nothing requested" and "not checked". -/
structure NetPacketChecksum where
  layer2 : Nat
  layer3 : Nat
  layer4 : Nat
  deriving DecidableEq, Repr

/-- `NET_PACKET` with the extensions of its ring element. -/
structure NetPacket where
  fragmentIndex : Nat
  fragmentCount : Nat
  ignore : Bool
  layout : NetPacketLayout
  ieee8021Q : NetPacketIeee8021Q
  gsoMss : Nat
  checksum : NetPacketChecksum
  deriving DecidableEq, Repr

/-- For the literals of a 26-bit field. -/
instance neZero_validLength : NeZero (2 ^ 26) := ⟨by decide⟩

/-- `NET_FRAGMENT` with its logical address.  `ValidLength` is a 26-bit field. -/
structure NetFragment where
  offset : Nat
  validLength : Fin (2 ^ 26)
  logicalAddress : Nat
  deriving DecidableEq, Repr

/-- `NetPacketTxIeee8021qActionFlagPriorityRequired`. -/
def ieee8021qPriorityRequired : Nat := 1

/-- `NetPacketTxIeee8021qActionFlagVlanRequired`. -/
def ieee8021qVlanRequired : Nat := 2

/-! ## 2. The ring

The indices go round by masking, and `distance` is how the driver counts between two of them.
NetAdapterCx appends at `EndIndex` and leaves one element free, so that a full ring is not an empty
one. -/

/-- `NET_RING`.  The number of elements is a power of two. -/
structure NetRing (α : Type) where
  numberOfElements : Nat
  beginIndex : Nat
  nextIndex : Nat
  endIndex : Nat
  buffer : Nat → α
  size_pow2 : ∃ k, k ≤ 31 ∧ numberOfElements = 2 ^ k

variable {α : Type}

/-- `ElementIndexMask`. -/
def NetRing.elementIndexMask (r : NetRing α) : Nat := r.numberOfElements - 1

/-- `NetRingIncrementIndex`. -/
def netRingIncrementIndex (r : NetRing α) (index : Nat) : Nat :=
  (index + 1) &&& r.elementIndexMask

/-- `NetRingAdvanceIndex`. -/
def netRingAdvanceIndex (r : NetRing α) (index distance : Nat) : Nat :=
  (index + distance) &&& r.elementIndexMask

/-- The elements passed by an index of the ring that moved from `i` to `j`. -/
def NetRing.distance (r : NetRing α) (i j : Nat) : Nat := sub32 j i &&& r.elementIndexMask

/-- The elements NetAdapterCx can still post: one of the ring stays unused. -/
def NetRing.room (r : NetRing α) : Nat :=
  sub32 (sub32 r.beginIndex 1) r.endIndex &&& r.elementIndexMask

/-- NetAdapterCx writes the element at `EndIndex` and moves `EndIndex` past it. -/
def NetRing.append (r : NetRing α) (x : α) : NetRing α :=
  { r with
    buffer := Function.update r.buffer r.endIndex x
    endIndex := netRingIncrementIndex r r.endIndex }

/-- Several elements, one after another. -/
def NetRing.appendAll : NetRing α → List α → NetRing α
  | r, [] => r
  | r, x :: xs => (r.append x).appendAll xs

/-! ## 3. Indices as counters

An index is a counter that never wraps, reduced by the size.  What the driver computes from indices
is then what one would compute from the counters, as long as these are less than one turn apart. -/

theorem NetRing.size_pos (r : NetRing α) : 0 < r.numberOfElements := by
  obtain ⟨k, -, hk⟩ := r.size_pow2
  exact hk ▸ Nat.two_pow_pos k

/-- Masking an index is taking the remainder by the size. -/
theorem NetRing.and_mask (r : NetRing α) (i : Nat) :
    i &&& r.elementIndexMask = i % r.numberOfElements := by
  obtain ⟨k, -, hk⟩ := r.size_pow2
  exact Lib.and_mask hk i

theorem netRingIncrementIndex_wrap (r : NetRing α) (start i : Nat) :
    netRingIncrementIndex r (wrap r.numberOfElements start i)
      = wrap r.numberOfElements start (i + 1) := by
  rw [netRingIncrementIndex, r.and_mask, wrap_add_mod]

theorem netRingAdvanceIndex_wrap (r : NetRing α) (start i d : Nat) :
    netRingAdvanceIndex r (wrap r.numberOfElements start i) d
      = wrap r.numberOfElements start (i + d) := by
  rw [netRingAdvanceIndex, r.and_mask, wrap_add_mod]

theorem NetRing.distance_wrap (r : NetRing α) (start : Nat) {i j : Nat} (hij : i ≤ j)
    (hlt : j < i + r.numberOfElements) :
    r.distance (wrap r.numberOfElements start i) (wrap r.numberOfElements start j) = j - i := by
  obtain ⟨k, hk31, hk⟩ := r.size_pow2
  exact sub32_wrap hk (by omega) hij hlt

/-! ## 4. The ring holds the posted elements

The log has every element ever posted.  Posting appends to it, returning moves the counter `lo` up,
and the elements between the two are those in the cells of the ring. -/

/-- **The ring holds the log from counter `lo` on.**  `log` is everything ever posted, counter
0 is at index `start`, `BeginIndex` is the counter `lo` and `EndIndex` the end of the log. -/
structure NetRing.Holds (r : NetRing α) (start : Nat) (log : List α) (lo : Nat) : Prop where
  window : Window r.numberOfElements start r.buffer log lo
  beginIndex_eq : r.beginIndex = wrap r.numberOfElements start lo
  endIndex_eq : r.endIndex = wrap r.numberOfElements start log.length

variable {r : NetRing α} {start lo : Nat} {log : List α}

theorem NetRing.Holds.lo_le (h : r.Holds start log lo) : lo ≤ log.length := h.window.lo_le

/-- The element of a counter that was posted and not yet returned. -/
theorem NetRing.Holds.buffer_eq (h : r.Holds start log lo) {i : Nat} (hi : i < log.length)
    (hlo : lo ≤ i) : r.buffer (wrap r.numberOfElements start i) = log[i] :=
  h.window.holds i hi hlo

/-- Two counters of the ring have one index only if they are one counter. -/
theorem NetRing.Holds.wrap_eq_iff (h : r.Holds start log lo) {i j : Nat} (hi : lo ≤ i)
    (hij : i ≤ j) (hj : j ≤ log.length) :
    wrap r.numberOfElements start i = wrap r.numberOfElements start j ↔ i = j := by
  refine ⟨fun heq => wrap_inj hij ?_ heq, fun heq => heq ▸ rfl⟩
  have := h.window.lt_lo_add
  omega

/-- What NetAdapterCx computes as room is the number of free elements. -/
theorem NetRing.Holds.room_eq (h : r.Holds start log lo) :
    r.room = r.numberOfElements - 1 - (log.length - lo) := by
  obtain ⟨k, hk31, hk⟩ := r.size_pow2
  rw [NetRing.room, h.beginIndex_eq, h.endIndex_eq]
  exact room_wrap hk (by omega) h.lo_le h.window.lt_lo_add

theorem NetRing.Holds.append (h : r.Holds start log lo) (hroom : 0 < r.room) (x : α) :
    (r.append x).Holds start (log ++ [x]) lo := by
  rw [h.room_eq] at hroom
  have hlt := h.window.lt_lo_add
  have hle := h.lo_le
  refine ⟨?_, h.beginIndex_eq, ?_⟩
  · show Window r.numberOfElements start (Function.update r.buffer r.endIndex x) _ _
    rw [h.endIndex_eq]
    exact h.window.push (by omega) x
  · show netRingIncrementIndex r r.endIndex = _
    rw [h.endIndex_eq, netRingIncrementIndex_wrap, List.length_append, List.length_singleton]
    rfl

@[simp] theorem NetRing.appendAll_numberOfElements : ∀ (xs : List α) (r : NetRing α),
    (r.appendAll xs).numberOfElements = r.numberOfElements
  | [], _ => rfl
  | x :: xs, r => NetRing.appendAll_numberOfElements xs (r.append x)

/-- **Posting several elements.** -/
theorem NetRing.Holds.appendAll : ∀ (xs : List α) {r : NetRing α} {log : List α},
    r.Holds start log lo → xs.length ≤ r.room → (r.appendAll xs).Holds start (log ++ xs) lo
  | [], r, log, h, _ => by
    rw [List.append_nil]
    exact h
  | x :: xs, r, log, h, hroom => by
    rw [List.length_cons] at hroom
    have hx := h.append (by omega) x
    have hsplit : log ++ x :: xs = (log ++ [x]) ++ xs := by simp
    rw [hsplit]
    refine NetRing.Holds.appendAll xs hx ?_
    rw [h.room_eq] at hroom
    rw [hx.room_eq, List.length_append, List.length_singleton]
    show xs.length ≤ r.numberOfElements - 1 - _
    have := h.lo_le
    omega

/-- The driver returns elements by moving `BeginIndex`. -/
theorem NetRing.Holds.return_to (h : r.Holds start log lo) {lo' : Nat} (hle : lo ≤ lo')
    (hle' : lo' ≤ log.length) (next : Nat) :
    NetRing.Holds { r with
      beginIndex := wrap r.numberOfElements start lo', nextIndex := next } start log lo' :=
  ⟨h.window.advance hle hle', rfl, h.endIndex_eq⟩

/-! ## 5. Empty rings

A ring may start with its indices anywhere, as long as they are equal; it then holds the empty log
from counter 0 on. -/

/-- A ring with no elements in use; its indices may be anywhere. -/
def NetRing.Empty {α : Type} (r : NetRing α) : Prop :=
  r.beginIndex < r.numberOfElements ∧ r.nextIndex = r.beginIndex ∧ r.endIndex = r.beginIndex

theorem NetRing.Empty.holds {α : Type} {r : NetRing α} (h : r.Empty) :
    r.Holds r.beginIndex [] 0 := by
  obtain ⟨hlt, -, hend⟩ := h
  refine ⟨Window.empty r.size_pos r.buffer [], ?_, ?_⟩
  · rw [wrap_start hlt]
  · rw [hend, List.length_nil, wrap_start hlt]

theorem four_pow2 : ∃ k, k ≤ 31 ∧ 4 = 2 ^ k := ⟨2, by decide, rfl⟩

/-- An empty ring of four elements. -/
def emptyRing {α : Type} (x : α) : NetRing α where
  numberOfElements := 4
  beginIndex := 0
  nextIndex := 0
  endIndex := 0
  buffer := fun _ => x
  size_pow2 := four_pow2

end WoaRk3576.Net
