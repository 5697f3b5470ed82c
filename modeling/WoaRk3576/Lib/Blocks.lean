/-
# A sequence cut into blocks

A queue hands over whole packets while the hardware hands back single descriptors or fragments.
The relation between the two is a list of blocks `cs : List (List α)`, one block a packet, and
the concatenation `cs.flatten`, whose positions are what the hardware counts.  `offset cs i` is
the position at which block `i` begins; a position `t` belongs to block `i` exactly when
`offset cs i ≤ t < offset cs (i + 1)`.

Blocks may be empty (a packet that is skipped), so several blocks can begin at one position;
nothing here assumes otherwise.
-/
import Mathlib.Data.List.Basic
import Mathlib.Tactic.Common

namespace WoaRk3576.Lib

variable {α : Type*}

/-- The position in `cs.flatten` at which block `i` begins. -/
def offset (cs : List (List α)) (i : Nat) : Nat := (cs.take i).flatten.length

@[simp] theorem offset_zero (cs : List (List α)) : offset cs 0 = 0 := by simp [offset]

/-- The next block begins where this one ends. -/
theorem offset_succ {cs : List (List α)} {i : Nat} (h : i < cs.length) :
    offset cs (i + 1) = offset cs i + cs[i].length := by
  rw [offset, offset, List.take_add_one, List.getElem?_eq_getElem h, List.flatten_append,
    List.length_append]
  simp only [Option.toList_some, List.flatten_singleton]

theorem offset_le_succ (cs : List (List α)) (i : Nat) : offset cs i ≤ offset cs (i + 1) := by
  rcases Nat.lt_or_ge i cs.length with h | h
  · rw [offset_succ h]
    omega
  · exact Nat.le_of_eq
      (by rw [offset, offset, List.take_of_length_le h, List.take_of_length_le (by omega)])

theorem offset_mono (cs : List (List α)) {i j : Nat} (h : i ≤ j) : offset cs i ≤ offset cs j := by
  induction h with
  | refl => exact Nat.le_refl _
  | step _ ih => exact Nat.le_trans ih (offset_le_succ cs _)

/-- Past the last block the position is the length of the whole sequence. -/
theorem offset_of_le {cs : List (List α)} {i : Nat} (h : cs.length ≤ i) :
    offset cs i = cs.flatten.length := by
  rw [offset, List.take_of_length_le h]

theorem offset_le_length (cs : List (List α)) (i : Nat) : offset cs i ≤ cs.flatten.length := by
  rcases Nat.le_total i cs.length with h | h
  · rw [← offset_of_le (Nat.le_refl cs.length)]
    exact offset_mono cs h
  · exact Nat.le_of_eq (offset_of_le h)

/-- Later blocks do not move earlier ones. -/
theorem offset_append {cs : List (List α)} {i : Nat} (h : i ≤ cs.length) (ds : List (List α)) :
    offset (cs ++ ds) i = offset cs i := by
  rw [offset, offset, List.take_append_of_le_length h]

/-- A run of empty blocks occupies no position. -/
theorem offset_eq_of_empty {cs : List (List α)} {i j : Nat} (hij : i ≤ j) (hj : j ≤ cs.length)
    (h : ∀ k (hk : k < cs.length), i ≤ k → k < j → cs[k] = []) : offset cs j = offset cs i := by
  induction hij with
  | refl => rfl
  | @step m him ih =>
    have hm : m < cs.length := by omega
    have hempty : cs[m] = [] := h m hm him (Nat.lt_succ_self m)
    rw [offset_succ hm, hempty, List.length_nil, Nat.add_zero]
    exact ih (by omega) fun k hk hik hkm => h k hk hik (by omega)

/-- What follows position `offset cs i` is the blocks from `i` on. -/
theorem drop_offset (cs : List (List α)) (i : Nat) :
    cs.flatten.drop (offset cs i) = (cs.drop i).flatten := by
  conv_lhs => rw [← List.take_append_drop i cs, List.flatten_append]
  rw [offset, List.take_append_drop, List.drop_left]

/-- **The entry at position `offset cs i + j` is entry `j` of block `i`.** -/
theorem getElem_offset {cs : List (List α)} {i j : Nat} (h : i < cs.length)
    (hj : j < cs[i].length) (hlt : offset cs i + j < cs.flatten.length) :
    cs.flatten[offset cs i + j] = cs[i][j] := by
  have hdrop : cs.flatten.drop (offset cs i) = cs[i] ++ (cs.drop (i + 1)).flatten := by
    rw [drop_offset, List.drop_eq_getElem_cons h, List.flatten_cons]
  have hget : (cs.flatten.drop (offset cs i))[j]? = some cs[i][j] := by
    rw [hdrop, List.getElem?_append_left hj, List.getElem?_eq_getElem hj]
  rw [List.getElem?_drop, List.getElem?_eq_getElem hlt, Option.some.injEq] at hget
  exact hget

/-! ## Blocks of one length

The other way round: a sequence that is cut every `c` entries.  The last block may be shorter, and
those behind it are empty. -/

/-- Block `k` of a sequence that is cut every `c` entries. -/
def block (c : Nat) (xs : List α) (k : Nat) : List α := (xs.drop (c * k)).take c

@[simp]
theorem length_block (c : Nat) (xs : List α) (k : Nat) :
    (block c xs k).length = min c (xs.length - c * k) := by
  simp [block]

/-- **The blocks are the sequence**, as far as they reach. -/
theorem flatMap_block (c : Nat) (xs : List α) (n : Nat) :
    (List.range n).flatMap (block c xs) = xs.take (c * n) := by
  induction n with
  | zero => simp
  | succ n ih =>
    rw [List.range_succ, List.flatMap_append, ih, Nat.mul_succ, List.take_add]
    simp [block]

end WoaRk3576.Lib
