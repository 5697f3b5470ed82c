/-
# Words as sets of bits

A driver keeps a set of events or errors in a word: `&&&` intersects, `|||` unites and
`x &&& ~~~y` takes `y` away.  The statements are about disjointness, `x &&& y = 0`.
-/
import Mathlib.Data.BitVec

namespace WoaRk3576.Lib

/-- Two sets have no element in common. -/
theorem and_eq_zero_iff {n : Nat} (x y : BitVec n) :
    x &&& y = 0 ↔ ∀ i, i < n → x.getLsbD i = true → y.getLsbD i = false := by
  constructor
  · intro hzero i hi hx
    have hbit := congrArg (fun z : BitVec n => z.getLsbD i) hzero
    simpa [hx] using hbit
  · intro hapart
    refine BitVec.eq_of_getLsbD_eq fun i hi => ?_
    cases hx : x.getLsbD i with
    | false => simp [hx]
    | true => simp [hx, hapart i hi hx]

/-- What is moved from one set to another leaves them apart. -/
theorem diff_apart_or {n : Nat} {x y : BitVec n} (z : BitVec n) (hapart : x &&& y = 0) :
    (x &&& ~~~z) &&& (y ||| z) = 0 := by
  rw [and_eq_zero_iff] at hapart ⊢
  intro i hi hx
  rw [BitVec.getLsbD_and, BitVec.getLsbD_not, Bool.and_eq_true] at hx
  rw [BitVec.getLsbD_or, hapart i hi hx.1, Bool.false_or]
  simpa [hi] using hx.2

theorem or_apart_iff {n : Nat} (x y e : BitVec n) :
    (x ||| y) &&& e = 0 ↔ x &&& e = 0 ∧ y &&& e = 0 := by
  rw [and_eq_zero_iff, and_eq_zero_iff, and_eq_zero_iff]
  constructor
  · intro hor
    constructor
    · exact fun i hi hx => hor i hi (by simp [hx])
    · exact fun i hi hy => hor i hi (by simp [hy])
  · rintro ⟨hx, hy⟩ i hi hor
    simp at hor
    exact hor.elim (hx i hi) (hy i hi)

/-- Taking away what `e` has nothing of. -/
theorem and_not_and_of_apart {n : Nat} (x : BitVec n) {y e : BitVec n} (hapart : e &&& y = 0) :
    (x &&& ~~~y) &&& e = x &&& e := by
  rw [and_eq_zero_iff] at hapart
  refine BitVec.eq_of_getLsbD_eq fun i hi => ?_
  rw [BitVec.getLsbD_and, BitVec.getLsbD_and, BitVec.getLsbD_not, BitVec.getLsbD_and]
  cases he : e.getLsbD i with
  | false => rw [Bool.and_false, Bool.and_false]
  | true =>
    rw [hapart i hi he]
    simp [hi]

theorem and_apart_left {n : Nat} {x e : BitVec n} (y : BitVec n) (hapart : x &&& e = 0) :
    x &&& y &&& e = 0 := by
  rw [and_eq_zero_iff] at hapart ⊢
  intro i hi hx
  rw [BitVec.getLsbD_and, Bool.and_eq_true] at hx
  exact hapart i hi hx.1

theorem and_apart_right {n : Nat} (x : BitVec n) {y e : BitVec n} (hapart : y &&& e = 0) :
    x &&& y &&& e = 0 := by
  rw [BitVec.and_comm x y]
  exact and_apart_left x hapart

theorem not_and_and {n : Nat} (x e : BitVec n) : x &&& ~~~e &&& e = 0 := by
  refine and_apart_right x ?_
  rw [and_eq_zero_iff]
  intro i hi hnot
  rw [BitVec.getLsbD_not] at hnot
  simpa [hi] using hnot

/-- What was taken away is not there. -/
theorem and_and_not_of_subset {n : Nat} {x y : BitVec n} (z : BitVec n) (hsub : x &&& ~~~y = 0) :
    x &&& (z &&& ~~~y) = 0 := by
  rw [and_eq_zero_iff] at hsub ⊢
  intro i hi hx
  rw [BitVec.getLsbD_and, hsub i hi hx, Bool.and_false]

/-- Two sets are the same with `y` if and only if they are the same without it. -/
theorem or_eq_or_iff {n : Nat} (x z y : BitVec n) :
    x ||| y = z ||| y ↔ x &&& ~~~y = z &&& ~~~y := by
  rw [BitVec.eq_of_getLsbD_eq_iff, BitVec.eq_of_getLsbD_eq_iff]
  refine forall_congr' fun i => forall_congr' fun hi => ?_
  simp only [BitVec.getLsbD_or, BitVec.getLsbD_and, BitVec.getLsbD_not, hi, decide_true,
    Bool.true_and]
  cases y.getLsbD i with
  | true => simp
  | false => simp

/-- Taking bits away changes nothing where none is there. -/
theorem and_not_eq_self_iff {n : Nat} {x y : BitVec n} : x &&& ~~~y = x ↔ x &&& y = 0 := by
  rw [and_eq_zero_iff, BitVec.eq_of_getLsbD_eq_iff]
  refine forall_congr' fun i => forall_congr' fun hi => ?_
  rw [BitVec.getLsbD_and, BitVec.getLsbD_not]
  cases x.getLsbD i <;> cases y.getLsbD i <;> simp [hi]

/-- Adding bits changes nothing where all are there. -/
theorem or_eq_self_iff {n : Nat} {x y : BitVec n} : x ||| y = x ↔ x &&& y = y := by
  rw [BitVec.eq_of_getLsbD_eq_iff, BitVec.eq_of_getLsbD_eq_iff]
  refine forall_congr' fun i => forall_congr' fun hi => ?_
  rw [BitVec.getLsbD_or, BitVec.getLsbD_and]
  cases x.getLsbD i <;> cases y.getLsbD i <;> simp

/-- Bits taken away and added again. -/
theorem and_not_or {n : Nat} (x y : BitVec n) : (x &&& ~~~y) ||| y = x ||| y := by
  rw [or_eq_or_iff]
  refine BitVec.eq_of_getLsbD_eq fun i hi => ?_
  simp only [BitVec.getLsbD_and, Bool.and_assoc, Bool.and_self]

/-- A field that is replaced stays as it is where it had this value. -/
theorem and_not_or_eq_self_iff {n : Nat} {x m y : BitVec n} (hsub : y &&& m = y) :
    (x &&& ~~~m) ||| y = x ↔ x &&& m = y := by
  rw [BitVec.eq_of_getLsbD_eq_iff, BitVec.eq_of_getLsbD_eq_iff]
  rw [BitVec.eq_of_getLsbD_eq_iff] at hsub
  refine forall_congr' fun i => forall_congr' fun hi => ?_
  have hbit := hsub i hi
  rw [BitVec.getLsbD_and] at hbit
  rw [BitVec.getLsbD_or, BitVec.getLsbD_and, BitVec.getLsbD_and, BitVec.getLsbD_not]
  revert hbit
  cases x.getLsbD i <;> cases m.getLsbD i <;> cases y.getLsbD i <;> simp [hi]

theorem or_and_self {n : Nat} (x y : BitVec n) : (x ||| y) &&& y = y := by
  refine BitVec.eq_of_getLsbD_eq fun i hi => ?_
  rw [BitVec.getLsbD_and, BitVec.getLsbD_or]
  cases x.getLsbD i <;> cases y.getLsbD i <;> rfl

/-! ## Subsets, and translations of one word into another

A translation of one word into another is a union of terms, each of which is a constant if some
bits are set in the source word.  What bits can come out is then a question of subsets. -/

/-- Each bit of `x` is one of `y`. -/
def Within {n : Nat} (x y : BitVec n) : Prop := x &&& ~~~y = 0

instance {n : Nat} (x y : BitVec n) : Decidable (Within x y) := inferInstanceAs (Decidable (_ = _))

theorem within_iff {n : Nat} {x y : BitVec n} :
    Within x y ↔ ∀ i, i < n → x.getLsbD i = true → y.getLsbD i = true := by
  unfold Within
  rw [and_eq_zero_iff]
  refine forall_congr' fun i => forall_congr' fun hi => ?_
  simp [hi]

@[simp]
theorem within_zero {n : Nat} (y : BitVec n) : Within 0 y := by simp [Within]

@[simp]
theorem within_or {n : Nat} {x y z : BitVec n} : Within (x ||| y) z ↔ Within x z ∧ Within y z :=
  or_apart_iff x y (~~~z)

/-- What is not in the larger set is not in the smaller one. -/
theorem Within.and_eq_zero {n : Nat} {x y m : BitVec n} (h : Within x y) (hy : y &&& m = 0) :
    x &&& m = 0 := by
  rw [and_eq_zero_iff] at hy ⊢
  exact fun i hi hx => hy i hi (within_iff.mp h i hi hx)

theorem and_twoPow_ne_zero {n : Nat} (x : BitVec n) {k : Nat} (hk : k < n) :
    x &&& BitVec.twoPow n k ≠ 0 ↔ x.getLsbD k = true := by
  rw [BitVec.and_twoPow]
  cases hbit : x.getLsbD k with
  | false => simp
  | true =>
    have hne : BitVec.twoPow n k ≠ 0 := fun hzero => by
      have hself := congrArg (fun z : BitVec n => z.getLsbD k) hzero
      simp [hk] at hself
    simp only [if_true, ne_eq, hne, not_false_eq_true]

/-- A single bit is in a set if the two meet. -/
theorem within_twoPow {n : Nat} {y : BitVec n} {k : Nat} (hk : k < n) :
    Within (BitVec.twoPow n k) y ↔ y &&& BitVec.twoPow n k ≠ 0 := by
  rw [and_twoPow_ne_zero y hk, within_iff]
  constructor
  · exact fun h => h k hk (by simp [hk])
  · intro hy i hi hbit
    simp only [BitVec.getLsbD_twoPow, Bool.and_eq_true, decide_eq_true_eq] at hbit
    rwa [← hbit.2]

/-- A bit that a union changes is one of what is added. -/
theorem getLsbD_of_or_ne {n : Nat} {x y : BitVec n} {k : Nat}
    (h : (x ||| y).getLsbD k ≠ x.getLsbD k) : y.getLsbD k = true := by
  cases hy : y.getLsbD k with
  | true => rfl
  | false => exact absurd (by rw [BitVec.getLsbD_or, hy, Bool.or_false]) h

/-- A bit that a difference changes is one of what is taken away. -/
theorem getLsbD_of_and_not_ne {n : Nat} {x y : BitVec n} {k : Nat} (hk : k < n)
    (h : (x &&& ~~~y).getLsbD k ≠ x.getLsbD k) : y.getLsbD k = true := by
  cases hy : y.getLsbD k with
  | true => rfl
  | false => exact absurd (by rw [BitVec.getLsbD_and, BitVec.getLsbD_not, hy]; simp [hk]) h

/-- Adding what `e` has nothing of. -/
theorem or_and_of_apart {n : Nat} (x : BitVec n) {y e : BitVec n} (hapart : y &&& e = 0) :
    (x ||| y) &&& e = x &&& e := by
  rw [BitVec.and_or_distrib_right, hapart]
  exact BitVec.or_zero

/-- A field that is replaced has its new value. -/
theorem replaced_and {n : Nat} (x : BitVec n) {m y : BitVec n} (hsub : y &&& m = y) :
    (x &&& ~~~m ||| y) &&& m = y := by
  rw [BitVec.and_or_distrib_right, not_and_and, hsub]
  exact BitVec.zero_or

/-- `out`, if one of the bits is set in the status. -/
def flag {m n : Nat} (status bits : BitVec m) (out : BitVec n) : BitVec n :=
  if status &&& bits ≠ 0 then out else 0

@[simp]
theorem within_flag {m n : Nat} {status bits : BitVec m} {out y : BitVec n} :
    Within (flag status bits out) y ↔ (status &&& bits ≠ 0 → Within out y) := by
  unfold flag
  split
  · rename_i hset
    exact ⟨fun h _ => h, fun h => h hset⟩
  · rename_i hclear
    exact ⟨fun _ h => absurd h hclear, fun _ => within_zero y⟩

end WoaRk3576.Lib
