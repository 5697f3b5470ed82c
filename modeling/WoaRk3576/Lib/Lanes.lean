/-
# Bytes in registers

A FIFO of 32-bit registers holds four bytes a register, the lowest first.  `lane x j` is byte `j` of
a register and `lanes buffer n` the first `n` bytes of the FIFO.  A byte that is added to a register
with `|||` is its lane where there was nothing (`lane_or_self`), and the other lanes are kept.
-/
import Mathlib.Data.BitVec

namespace WoaRk3576.Lib

/-- Byte `j` of a register. -/
def lane (x : BitVec 32) (j : Nat) : BitVec 8 := (x >>> (j * 8)).setWidth 8

/-- The first `n` bytes of a FIFO. -/
def lanes (buffer : Nat → BitVec 32) (n : Nat) : List (BitVec 8) :=
  (List.range n).map fun k => lane (buffer (k / 4)) (k % 4)

@[simp]
theorem lane_zero (j : Nat) : lane 0#32 j = 0#8 := by
  simp [lane]

@[simp]
theorem length_lanes (buffer : Nat → BitVec 32) (n : Nat) : (lanes buffer n).length = n := by
  simp [lanes]

theorem lanes_succ (buffer : Nat → BitVec 32) (n : Nat) :
    lanes buffer (n + 1) = lanes buffer n ++ [lane (buffer (n / 4)) (n % 4)] := by
  simp [lanes, List.range_succ]

/-- A FIFO that has the right bytes. -/
theorem lanes_eq {buffer : Nat → BitVec 32} {xs : List (BitVec 8)}
    (h : ∀ k < xs.length, lane (buffer (k / 4)) (k % 4) = (xs[k]?).getD 0) :
    lanes buffer xs.length = xs := by
  refine List.ext_getElem (by simp) fun k hk hk' => ?_
  have hlane := h k hk'
  rw [List.getElem?_eq_getElem hk', Option.getD_some] at hlane
  simp [lanes, hlane]

theorem lane_or_self (x : BitVec 32) (b : BitVec 8) {j : Nat} (hj : j < 4) :
    lane (x ||| b.setWidth 32 <<< (j * 8)) j = lane x j ||| b := by
  refine BitVec.eq_of_getLsbD_eq fun i hi => ?_
  have hlt : j * 8 + i < 32 := by omega
  have hge : ¬ j * 8 + i < j * 8 := by omega
  simp [lane, hi, hlt, hge]

theorem lane_or_ne (x : BitVec 32) (b : BitVec 8) {j j' : Nat} (hne : j' ≠ j) :
    lane (x ||| b.setWidth 32 <<< (j * 8)) j' = lane x j' := by
  refine BitVec.eq_of_getLsbD_eq fun i hi => ?_
  by_cases hlt : j' * 8 + i < j * 8
  · simp [lane, hi, hlt]
  · have hge : 8 ≤ j' * 8 + i - j * 8 := by omega
    simp [lane, hi, BitVec.getLsbD_of_ge b _ hge]

end WoaRk3576.Lib
