/-
# Rings of a power-of-two size, seen through counters that never wrap

Every queue of this development is a ring: an array of `N = 2 ^ k` cells and a few 32-bit
indices that advance by `(index + 1) & (N - 1)`.  The code compares and subtracts these
indices; what one wants to say is about the SEQUENCE of entries that went through the ring.

This module is the bridge, and it names nothing of the drivers:

* `wrap`: the index of a counter, and the facts about indices that the code's own arithmetic
  relies on (`and_mask`, `wrap_inj`, `sub32_wrap`, `room_wrap`);
* `Window N start mem log lo`: the cells of `mem` hold the entries `lo, lo + 1, ..` of `log`,
  the list of everything that was ever put in, and at least one cell is free.  Putting an
  entry in (`Window.push`), rewriting one in place (`Window.set`) and taking the oldest out
  (`Window.advance`) keep it, so "nothing is overwritten before it was taken out" is the
  statement that `Window` is an invariant.
-/
import Mathlib.Data.Nat.ModEq
import Mathlib.Logic.Function.Basic
import Mathlib.Tactic.Ring

namespace WoaRk3576.Lib

/-! ## 1. Indices

Indices are compared through the counters that they come from.  Two counters less than one turn
apart have different cells, and the masked difference of two indices gives the number of steps
between them back, also where the subtraction of the indices wraps around. -/

/-- The cell of a counter in a ring of `N` cells whose counter 0 is at `start`. -/
def wrap (N start i : Nat) : Nat := (start + i) % N

/-- Unsigned 32-bit subtraction. -/
def sub32 (a b : Nat) : Nat := (a + 2 ^ 32 - b) % 2 ^ 32

/-- Masking with `2 ^ k - 1` is the remainder by `2 ^ k`. -/
theorem and_mask {N k : Nat} (hN : N = 2 ^ k) (x : Nat) : x &&& (N - 1) = x % N := by
  rw [hN, Nat.and_two_pow_sub_one_eq_mod]

theorem wrap_lt {N : Nat} (hN : 0 < N) (start i : Nat) : wrap N start i < N :=
  Nat.mod_lt _ hN

theorem wrap_zero_eq {N i : Nat} (h : i < N) : wrap N 0 i = i := by
  rw [wrap, Nat.zero_add, Nat.mod_eq_of_lt h]

theorem wrap_start {N start : Nat} (h : start < N) : wrap N start 0 = start := by
  rw [wrap, Nat.add_zero, Nat.mod_eq_of_lt h]

/-- Stepping the index is stepping the counter. -/
theorem wrap_add_mod (N start i d : Nat) : (wrap N start i + d) % N = wrap N start (i + d) := by
  rw [wrap, wrap, Nat.mod_add_mod, Nat.add_assoc]

/-- **Two counters less than one turn apart have different cells.** -/
theorem wrap_inj {N start i j : Nat} (hij : i ≤ j) (hlt : j < i + N)
    (h : wrap N start i = wrap N start j) : i = j := by
  have hmod : start + i ≡ start + j [MOD N] := h
  have hdvd : N ∣ j - i := (Nat.modEq_iff_dvd' hij).mp (Nat.ModEq.add_left_cancel' start hmod)
  have hzero : j - i = 0 := Nat.eq_zero_of_dvd_of_lt hdvd (by omega)
  omega

theorem wrap_ne {N start i j : Nat} (hij : i < j) (hlt : j < i + N) :
    wrap N start i ≠ wrap N start j := fun h => by
  have := wrap_inj (Nat.le_of_lt hij) hlt h
  omega

/-- A 32-bit difference, reduced by a divisor of `2 ^ 32`, is the only remainder that fits. -/
theorem sub32_mod_eq {N a b r : Nat} (hN : N ∣ 2 ^ 32) (hb : b ≤ 2 ^ 32) (hr : r < N)
    (h : (b + r) % N = a % N) : sub32 a b % N = r := by
  rw [sub32, Nat.mod_mod_of_dvd _ hN]
  have hzero : 2 ^ 32 ≡ 0 [MOD N] := (Nat.modEq_zero_iff_dvd).mpr hN
  have hsum : b + (a + 2 ^ 32 - b) ≡ b + r [MOD N] := by
    have h1 : b + (a + 2 ^ 32 - b) = a + 2 ^ 32 := by omega
    rw [h1]
    calc a + 2 ^ 32 ≡ a + 0 [MOD N] := Nat.ModEq.add_left a hzero
      _ ≡ b + r [MOD N] := h.symm
  have hcancel : a + 2 ^ 32 - b ≡ r [MOD N] := Nat.ModEq.add_left_cancel' b hsum
  rw [hcancel, Nat.mod_eq_of_lt hr]

/-- The masked difference of two indices is the number of steps between their counters. -/
theorem sub32_wrap {N k start i j : Nat} (hN : N = 2 ^ k) (hk : k ≤ 32) (hij : i ≤ j)
    (hlt : j < i + N) :
    sub32 (wrap N start j) (wrap N start i) &&& (N - 1) = j - i := by
  have hdvd : N ∣ 2 ^ 32 := hN ▸ Nat.pow_dvd_pow 2 hk
  have hpos : 0 < N := hN ▸ Nat.two_pow_pos k
  have hle : wrap N start i ≤ 2 ^ 32 :=
    Nat.le_of_lt (Nat.lt_of_lt_of_le (wrap_lt hpos _ _) (Nat.le_of_dvd (by norm_num) hdvd))
  rw [and_mask hN]
  refine sub32_mod_eq hdvd hle (by omega) ?_
  rw [wrap_add_mod, wrap, wrap, Nat.mod_mod]
  congr 1
  omega

/-- **The free cells of a ring with one hole.**  `(begin - 1 - index) & (N - 1)` in unsigned
32-bit arithmetic is what is left of `N - 1` cells when those from `begin` to `index` are in
use. -/
theorem room_wrap {N k start b i : Nat} (hN : N = 2 ^ k) (hk : k ≤ 32) (hbi : b ≤ i)
    (hlt : i < b + N) :
    sub32 (sub32 (wrap N start b) 1) (wrap N start i) &&& (N - 1) = N - 1 - (i - b) := by
  have hdvd : N ∣ 2 ^ 32 := hN ▸ Nat.pow_dvd_pow 2 hk
  have hpos : 0 < N := hN ▸ Nat.two_pow_pos k
  have hle : wrap N start i ≤ 2 ^ 32 :=
    Nat.le_of_lt (Nat.lt_of_lt_of_le (wrap_lt hpos _ _) (Nat.le_of_dvd (by norm_num) hdvd))
  have hpred : sub32 (wrap N start b) 1 % N = wrap N start (b + N - 1) := by
    refine sub32_mod_eq hdvd (by norm_num) (wrap_lt hpos _ _) ?_
    rw [Nat.add_comm, wrap_add_mod, wrap, wrap, Nat.mod_mod]
    have : start + (b + N - 1 + 1) = start + b + N := by omega
    rw [this, Nat.add_mod_right]
  have hroom : N - 1 - (i - b) < N := by omega
  rw [and_mask hN]
  refine sub32_mod_eq hdvd hle hroom ?_
  have hback : i + (N - 1 - (i - b)) = b + N - 1 := by omega
  rw [hpred, wrap_add_mod, hback]

/-! ## 2. The window of a log that a ring holds

The log has every entry that was ever put in, and the ring the latest part of it.  The operations
of a ring are then those of the log, with the oldest entries forgotten; one cell is always free, as
a full ring could not be told from an empty one. -/

section Window

variable {α : Type*}

/-- **The ring `mem` holds the entries `lo ≤ i < log.length` of `log`**, entry `i` in the cell
of the counter `i`, and one cell is free. -/
structure Window (N start : Nat) (mem : Nat → α) (log : List α) (lo : Nat) : Prop where
  lo_le : lo ≤ log.length
  lt_lo_add : log.length < lo + N
  holds : ∀ i (_ : i < log.length), lo ≤ i → mem (wrap N start i) = log[i]

variable {N start lo : Nat} {mem : Nat → α} {log : List α}

theorem Window.pos (h : Window N start mem log lo) : 0 < N := by
  have h1 := h.lo_le
  have h2 := h.lt_lo_add
  omega

/-- The empty ring holds nothing of any log. -/
theorem Window.empty (hN : 0 < N) (mem : Nat → α) (log : List α) :
    Window N start mem log log.length :=
  ⟨Nat.le_refl _, by omega, fun _ _ hi => absurd hi (by omega)⟩

/-- The oldest entries are taken out. -/
theorem Window.advance (h : Window N start mem log lo) {lo' : Nat} (hle : lo ≤ lo')
    (hle' : lo' ≤ log.length) : Window N start mem log lo' :=
  ⟨hle', by have := h.lt_lo_add; omega, fun i hi hlo => h.holds i hi (Nat.le_trans hle hlo)⟩

/-- Cells outside the window may hold anything: another memory that agrees on what is left. -/
theorem Window.of_agree (h : Window N start mem log lo) {lo' : Nat} {mem' : Nat → α}
    (hle : lo ≤ lo') (hle' : lo' ≤ log.length)
    (hagree : ∀ i, lo' ≤ i → i < log.length → mem' (wrap N start i) = mem (wrap N start i)) :
    Window N start mem' log lo' := by
  have hadv := h.advance hle hle'
  exact ⟨hadv.lo_le, hadv.lt_lo_add, fun i hi hlo => (hagree i hlo hi).trans (hadv.holds i hi hlo)⟩

/-- Writing the cell of one counter leaves that of an earlier one alone ... -/
theorem update_wrap_of_lt {i j : Nat} (hij : i < j) (hlt : j < i + N) (x : α) :
    Function.update mem (wrap N start j) x (wrap N start i) = mem (wrap N start i) :=
  Function.update_of_ne (wrap_ne hij hlt) _ _

/-- ... and that of a later one. -/
theorem update_wrap_of_gt {i j : Nat} (hij : j < i) (hlt : i < j + N) (x : α) :
    Function.update mem (wrap N start j) x (wrap N start i) = mem (wrap N start i) :=
  Function.update_of_ne (wrap_ne hij hlt).symm _ _

/-- A new entry is put in. -/
theorem Window.push (h : Window N start mem log lo) (hroom : log.length + 1 < lo + N) (x : α) :
    Window N start (Function.update mem (wrap N start log.length) x) (log ++ [x]) lo := by
  refine ⟨?_, ?_, ?_⟩
  · have := h.lo_le
    rw [List.length_append, List.length_singleton]
    omega
  · rw [List.length_append, List.length_singleton]
    exact hroom
  · intro i hi hlo
    rw [List.length_append, List.length_singleton] at hi
    rcases Nat.lt_or_ge i log.length with hlt | hge
    · rw [update_wrap_of_lt hlt (by omega), h.holds i hlt hlo, List.getElem_append_left hlt]
    · obtain rfl : i = log.length := by omega
      rw [Function.update_self]
      simp

/-- An entry is rewritten in place. -/
theorem Window.set (h : Window N start mem log lo) {i : Nat} (hi : i < log.length)
    (hlo : lo ≤ i) (x : α) :
    Window N start (Function.update mem (wrap N start i) x) (log.set i x) lo := by
  refine ⟨?_, ?_, ?_⟩
  · rw [List.length_set]
    exact h.lo_le
  · rw [List.length_set]
    exact h.lt_lo_add
  · intro j hj hloj
    rw [List.length_set] at hj
    have hlt := h.lt_lo_add
    rcases Nat.lt_trichotomy i j with hij | rfl | hij
    · rw [update_wrap_of_gt hij (by omega), List.getElem_set_ne (by omega),
        h.holds j hj hloj]
    · rw [Function.update_self, List.getElem_set_self]
    · rw [update_wrap_of_lt hij (by omega), List.getElem_set_ne (by omega),
        h.holds j hj hloj]

/-- The cells from the counter `i` on, `n` of them. -/
def slice (N start : Nat) (mem : Nat → α) (i n : Nat) : List α :=
  (List.range n).map fun j => mem (wrap N start (i + j))

/-- **The cells in use are the entries not yet taken out**, in order. -/
theorem Window.slice_eq (h : Window N start mem log lo) :
    slice N start mem lo (log.length - lo) = log.drop lo := by
  refine List.ext_getElem ?_ ?_
  · simp [slice]
  · intro j hj _
    simp only [slice, List.length_map, List.length_range] at hj
    simp only [slice, List.getElem_map, List.getElem_range, List.getElem_drop]
    exact h.holds (lo + j) (by omega) (by omega)

end Window

end WoaRk3576.Lib
