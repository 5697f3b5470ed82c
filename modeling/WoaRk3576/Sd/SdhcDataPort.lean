/-
# The data port of dwcsdhc

The data port is a window of four bytes on the words of a FIFO.  A 32-bit access moves a whole
word, and a narrower one moves the bytes of the current word at the offset it goes to.

`SdhcReadDataPort` and `SdhcWriteDataPort` move whole words and then up to three bytes: 16 bits at
the port, and 8 bits at the port + 2.  The last offset is right behind 16 bits only.  For one byte
behind whole words it is that of the third byte of the word.

`data_port_exact` says that this is all: every other length moves the bytes it should, and such a
length never writes them, and reads them only when the two bytes in question are the same.

The two routines are put in closed form first (`sdhcReadDataPort_eq`, `sdhcWriteDataPort_eq`): the
whole words, and then a list that depends on the rest of the length by four.  For the rests 0, 2
and 3 this list is the next bytes of the stream or of the buffer.  For the rest 1 it is the byte of
another lane; a write puts it there, so the lane that the device looks at has not been written, and
no buffer makes up for this.
-/
import WoaRk3576.Lib.Loop
import Mathlib.Data.List.Basic

namespace WoaRk3576.Sd

open WoaRk3576.Lib

/-! ## 1. The two routines

Both routines move the length down as they go, first by whole words, then by two bytes and by one.
Only the access of a whole word takes a word out of the FIFO, or puts one in. -/

/-- The positions in the stream of `size` bytes at `offset` in the word `word`. -/
def lanes (word offset size : Nat) : List Nat :=
  (List.range size).map fun i => 4 * word + offset + i

/-- The current word of the FIFO, `Length`, and what `Buffer` has received. -/
structure PortRead where
  word : Nat
  length : Nat
  buffer : List (BitVec 8)

/-- `SdhcReadRegisterBuffer*` of `size` bytes at the port + `offset`. -/
def PortRead.access (stream : Nat → BitVec 8) (offset size : Nat) (s : PortRead) : PortRead where
  word := if size = 4 then s.word + 1 else s.word
  length := s.length - size
  buffer := s.buffer ++ (lanes s.word offset size).map stream

/-- **`SdhcReadDataPort`**: what the buffer receives of a stream whose next word is `word`. -/
def sdhcReadDataPort (stream : Nat → BitVec 8) (word length : Nat) : List (BitVec 8) :=
  let words := fun s : PortRead => if s.length ≥ 4 then some (s.access stream 0 4) else none
  let s := loop words length ⟨word, length, []⟩
  let s := if s.length ≥ 2 then s.access stream 0 2 else s
  let s := if s.length ≥ 1 then s.access stream 2 1 else s
  s.buffer

/-- The current word of the FIFO, `Length`, the next byte of `Buffer`, and what was sent: the
positions in the stream with their bytes. -/
structure PortWrite where
  word : Nat
  length : Nat
  next : Nat
  sent : List (Nat × BitVec 8)

/-- `SdhcWriteRegisterBuffer*` of `size` bytes at the port + `offset`. -/
def PortWrite.access (buffer : Nat → BitVec 8) (offset size : Nat) (s : PortWrite) :
    PortWrite where
  word := if size = 4 then s.word + 1 else s.word
  length := s.length - size
  next := s.next + size
  sent := s.sent ++ (lanes s.word offset size).zip ((List.range size).map fun i =>
    buffer (s.next + i))

/-- **`SdhcWriteDataPort`**: what is sent of the buffer to a stream whose next word is `word`. -/
def sdhcWriteDataPort (buffer : Nat → BitVec 8) (word length : Nat) : List (Nat × BitVec 8) :=
  let words := fun s : PortWrite => if s.length ≥ 4 then some (s.access buffer 0 4) else none
  let s := loop words length ⟨word, length, 0, []⟩
  let s := if s.length ≥ 2 then s.access buffer 0 2 else s
  let s := if s.length ≥ 1 then s.access buffer 2 1 else s
  s.sent

/-! ## 2. Whole words

As long as four bytes are left, words are moved, and the positions go on by four.  This is the loop
that both routines begin with. -/

/-- The lanes of the word behind `k` words. -/
theorem lanes_add (word k offset size : Nat) :
    lanes (word + k) offset size
      = (List.range size).map fun i => 4 * word + (k * 4 + offset + i) := by
  refine List.map_congr_left fun i _ => ?_
  omega

theorem range_map_add {α : Type} (f : Nat → α) (n m : Nat) :
    (List.range n).map f ++ (List.range m).map (fun i => f (n + i)) = (List.range (n + m)).map f := by
  rw [List.range_add, List.map_append, List.map_map]
  rfl

/-- The words of a read. -/
theorem readWords_spec (stream : Nat → BitVec 8) (word length : Nat) :
    loop (fun s : PortRead => if s.length ≥ 4 then some (s.access stream 0 4) else none) length
        ⟨word, length, []⟩
      = ⟨word + length / 4, length % 4,
        (List.range (length / 4 * 4)).map fun i => stream (4 * word + i)⟩ := by
  have hend := loop_spec (fun s : PortRead => if s.length ≥ 4 then some (s.access stream 0 4)
      else none)
    (fun n s => s.length ≤ n ∧ ∃ k, s.word = word + k ∧ k * 4 + s.length = length
      ∧ s.buffer = (List.range (k * 4)).map fun i => stream (4 * word + i))
    (fun s => s = ⟨word + length / 4, length % 4,
        (List.range (length / 4 * 4)).map fun i => stream (4 * word + i)⟩)
    ?_ length length ⟨word, length, []⟩ ⟨Nat.le_refl length, 0, rfl, by simp, by simp⟩
    (Nat.le_refl length)
  · exact hend.2
  · rintro n ⟨w, l, buffer⟩ ⟨hle, k, hword, hlength, hbuffer⟩
    dsimp only at hle hword hlength hbuffer ⊢
    by_cases hmore : l ≥ 4
    · rw [if_pos hmore]
      refine .inr ⟨_, n - 4, rfl, by omega, ?_, k + 1, ?_, ?_, ?_⟩
      · exact Nat.sub_le_sub_right hle 4
      · exact congrArg (· + 1) hword
      · dsimp only [PortRead.access]
        omega
      · dsimp only [PortRead.access]
        rw [hbuffer, hword, lanes_add, List.map_map]
        have hmoved := range_map_add (fun i => stream (4 * word + i)) (k * 4) 4
        rw [← Nat.succ_mul] at hmoved
        exact hmoved
    · rw [if_neg hmore]
      have hk : k = length / 4 := by omega
      have hl : l = length % 4 := by omega
      exact .inl ⟨rfl, by rw [hword, hbuffer, hk, hl]⟩

/-- The words of a write. -/
theorem writeWords_spec (buffer : Nat → BitVec 8) (word length : Nat) :
    loop (fun s : PortWrite => if s.length ≥ 4 then some (s.access buffer 0 4) else none) length
        ⟨word, length, 0, []⟩
      = ⟨word + length / 4, length % 4, length / 4 * 4,
        (List.range (length / 4 * 4)).map fun i => (4 * word + i, buffer i)⟩ := by
  have hend := loop_spec (fun s : PortWrite => if s.length ≥ 4 then some (s.access buffer 0 4)
      else none)
    (fun n s => s.length ≤ n ∧ ∃ k, s.word = word + k ∧ k * 4 + s.length = length
      ∧ s.next = k * 4 ∧ s.sent = (List.range (k * 4)).map fun i => (4 * word + i, buffer i))
    (fun s => s = ⟨word + length / 4, length % 4, length / 4 * 4,
        (List.range (length / 4 * 4)).map fun i => (4 * word + i, buffer i)⟩)
    ?_ length length ⟨word, length, 0, []⟩ ⟨Nat.le_refl length, 0, rfl, by simp, by simp, by simp⟩
    (Nat.le_refl length)
  · exact hend.2
  · rintro n ⟨w, l, next, sent⟩ ⟨hle, k, hword, hlength, hnext, hsent⟩
    dsimp only at hle hword hlength hnext hsent ⊢
    by_cases hmore : l ≥ 4
    · rw [if_pos hmore]
      refine .inr ⟨_, n - 4, rfl, by omega, ?_, k + 1, ?_, ?_, ?_, ?_⟩
      · exact Nat.sub_le_sub_right hle 4
      · exact congrArg (· + 1) hword
      · dsimp only [PortWrite.access]
        omega
      · dsimp only [PortWrite.access]
        omega
      · dsimp only [PortWrite.access]
        rw [hsent, hword, hnext, lanes_add, List.zip_map']
        have hmoved := range_map_add (fun i => (4 * word + i, buffer i)) (k * 4) 4
        rw [← Nat.succ_mul] at hmoved
        exact hmoved
    · rw [if_neg hmore]
      have hk : k = length / 4 := by omega
      have hl : l = length % 4 := by omega
      exact .inl ⟨rfl, by rw [hword, hnext, hsent, hk, hl]⟩

/-! ## 3. The bytes behind them

Up to three bytes are left.  Two of them, if there are two, are taken from the first lanes, and
then one, if one is left, from the third.  This is right behind two others, and wrong where it is
the only one. -/

/-- The bytes of the last word that are moved when so many are left. -/
def tailLanes : Nat → List Nat
  | 1 => [2]
  | 2 => [0, 1]
  | 3 => [0, 1, 2]
  | _ => []

/-- The positions that are moved, in the order of the buffer. -/
def positions (length : Nat) : List Nat :=
  List.range (length / 4 * 4) ++ (tailLanes (length % 4)).map (length / 4 * 4 + ·)

theorem mod_four_cases (length : Nat) :
    length % 4 = 0 ∨ length % 4 = 1 ∨ length % 4 = 2 ∨ length % 4 = 3 := by omega

theorem positions_of_ne {length : Nat} (h : length % 4 ≠ 1) :
    positions length = List.range length := by
  have hsplit : length / 4 * 4 + length % 4 = length := Nat.div_add_mod' length 4
  unfold positions
  rcases mod_four_cases length with hzero | hone | htwo | hthree
  · rw [hzero] at hsplit
    rw [hzero, ← hsplit]
    simp [tailLanes]
  · exact absurd hone h
  · have hrange := @List.range_add (length / 4 * 4) 2
    rw [htwo] at hsplit
    rw [hsplit] at hrange
    rw [htwo, hrange]
    rfl
  · have hrange := @List.range_add (length / 4 * 4) 3
    rw [hthree] at hsplit
    rw [hsplit] at hrange
    rw [hthree, hrange]
    rfl

theorem positions_of_eq {length : Nat} (h : length % 4 = 1) :
    positions length = List.range (length - 1) ++ [length + 1] := by
  have hwhole : length / 4 * 4 = length - 1 := by omega
  have hlast : length - 1 + 2 = length + 1 := by omega
  unfold positions
  rw [h, hwhole, tailLanes, List.map_singleton, hlast]

theorem length_positions (length : Nat) : (positions length).length = length := by
  by_cases h : length % 4 = 1
  · rw [positions_of_eq h]
    simp
    omega
  · rw [positions_of_ne h, List.length_range]

/-- **What a read stores.** -/
theorem sdhcReadDataPort_eq (stream : Nat → BitVec 8) (word length : Nat) :
    sdhcReadDataPort stream word length
      = (positions length).map fun i => stream (4 * word + i) := by
  unfold sdhcReadDataPort positions
  dsimp only
  rw [readWords_spec]
  rcases mod_four_cases length with hzero | hone | htwo | hthree
  · simp [hzero, tailLanes]
  · simp [hone, tailLanes, PortRead.access, lanes_add]
  · simp [htwo, tailLanes, PortRead.access, lanes_add, List.range_succ]
  · simp [hthree, tailLanes, PortRead.access, lanes_add, List.range_succ]

/-- **What a write sends.** -/
theorem sdhcWriteDataPort_eq (buffer : Nat → BitVec 8) (word length : Nat) :
    sdhcWriteDataPort buffer word length
      = ((positions length).zip (List.range length)).map fun p =>
        (4 * word + p.1, buffer p.2) := by
  have hsplit : length / 4 * 4 + length % 4 = length := Nat.div_add_mod' length 4
  have hrange : List.range length = List.range (length / 4 * 4)
      ++ (List.range (length % 4)).map (length / 4 * 4 + ·) := by
    rw [← List.range_add, hsplit]
  have hsame : (List.range (length / 4 * 4)).length = (List.range (length / 4 * 4)).length := rfl
  have hwhole : ((List.range (length / 4 * 4)).zip (List.range (length / 4 * 4))).map
      (fun p => (4 * word + p.1, buffer p.2))
      = (List.range (length / 4 * 4)).map fun i => (4 * word + i, buffer i) := by
    rw [List.zip, List.zipWith_self, List.map_map]
    rfl
  unfold sdhcWriteDataPort positions
  dsimp only
  rw [writeWords_spec, hrange, List.zip_append hsame, List.map_append, hwhole]
  rcases mod_four_cases length with hzero | hone | htwo | hthree
  · simp [hzero, tailLanes]
  · simp [hone, tailLanes, PortWrite.access, lanes_add]
  · simp [htwo, tailLanes, PortWrite.access, lanes_add, List.range_succ]
  · simp [hthree, tailLanes, PortWrite.access, lanes_add, List.range_succ]

/-! ## 4. Which lengths are right

The positions are those of the stream unless a single byte is left.  Then the data decide, if the
two lanes happen to carry the same byte; for a write there is no such excuse, as the position is
what matters. -/

/-- A read stores exactly the next bytes of the stream, in order. -/
def ReadExact (stream : Nat → BitVec 8) (word length : Nat) : Prop :=
  sdhcReadDataPort stream word length = (List.range length).map fun i => stream (4 * word + i)

/-- A write sends exactly the bytes of the buffer, in order. -/
def WriteExact (buffer : Nat → BitVec 8) (word length : Nat) : Prop :=
  sdhcWriteDataPort buffer word length
    = (List.range length).map fun i => (4 * word + i, buffer i)

theorem portReadExact_iff (stream : Nat → BitVec 8) (word length : Nat) :
    ReadExact stream word length ↔
      (length % 4 = 1 → stream (4 * word + (length + 1)) = stream (4 * word + (length - 1))) := by
  unfold ReadExact
  rw [sdhcReadDataPort_eq]
  by_cases hone : length % 4 = 1
  · have hrange : List.range length = List.range (length - 1) ++ [length - 1] := by
      rw [← List.range_succ]
      congr 1
      omega
    rw [positions_of_eq hone, hrange, List.map_append, List.map_append,
      List.append_cancel_left_eq]
    simp [hone]
  · rw [positions_of_ne hone]
    exact ⟨fun _ h => absurd h hone, fun _ => rfl⟩

theorem portWriteExact_iff (buffer : Nat → BitVec 8) (word length : Nat) :
    WriteExact buffer word length ↔ length % 4 ≠ 1 := by
  unfold WriteExact
  rw [sdhcWriteDataPort_eq]
  constructor
  · intro hexact hone
    have hplaces := congrArg (List.map Prod.fst) hexact
    rw [List.map_map, List.map_map] at hplaces
    have hfst : ((positions length).zip (List.range length)).map Prod.fst = positions length :=
      List.map_fst_zip (by simp [length_positions])
    have hmoved : (positions length).map (fun i => 4 * word + i)
        = (List.range length).map fun i => 4 * word + i := by
      rw [← hfst, List.map_map]
      exact hplaces
    have hmem : 4 * word + (length + 1) ∈ (List.range length).map fun i => 4 * word + i := by
      rw [← hmoved, positions_of_eq hone]
      simp
    obtain ⟨i, hi, heq⟩ := List.mem_map.mp hmem
    rw [List.mem_range] at hi
    omega
  · intro hne
    rw [positions_of_ne hne, List.zip, List.zipWith_self, List.map_map]
    rfl

instance (stream : Nat → BitVec 8) (word length : Nat) : Decidable (ReadExact stream word length) :=
  inferInstanceAs (Decidable (_ = _))

instance (buffer : Nat → BitVec 8) (word length : Nat) :
    Decidable (WriteExact buffer word length) :=
  inferInstanceAs (Decidable (_ = _))

/-- **Which lengths the data port routines move exactly.** Whole words are moved as they are, and
of the three rests only a single byte goes to the wrong lane: such a write is never right, and such
a read is right only where the byte of the other lane happens to be the same. -/
theorem data_port_exact (length : Nat) :
    (∀ (stream : Nat → BitVec 8) (word : Nat), ReadExact stream word length ↔
        (length % 4 = 1 → stream (4 * word + (length + 1)) = stream (4 * word + (length - 1))))
      ∧ ∀ (buffer : Nat → BitVec 8) (word : Nat), WriteExact buffer word length ↔ length % 4 ≠ 1 :=
  ⟨fun stream word => portReadExact_iff stream word length,
    fun buffer word => portWriteExact_iff buffer word length⟩

/-- A single byte: the third of the word. -/
theorem one_byte_off :
    ¬ ReadExact (fun i => BitVec.ofNat 8 i) 0 1 ∧ ¬ WriteExact (fun i => BitVec.ofNat 8 i) 0 1 := by
  decide

end WoaRk3576.Sd
