/-
# Polling with a bound

A loop reads a value, stops where it is ready, and gives up after `bound` values.  `Polled` says
what such a loop comes to: the number of values it read and whether it found one.  A loop whose
states after `k` values are known comes to exactly that, and ends by itself (`loop_polled`).
-/
import WoaRk3576.Lib.Loop

namespace WoaRk3576.Lib

/-- **Polling with a bound**: the first of `bound` values that is ready, or none of them. -/
inductive Polled (ready : Nat → Bool) (bound : Nat) : Nat → Bool → Prop
  | found {k : Nat} (hk : k < bound) (hbefore : ∀ j < k, ready j = false) (h : ready k = true) :
      Polled ready bound (k + 1) true
  | expired (h : ∀ j < bound, ready j = false) : Polled ready bound bound false

section Polled

variable {ready : Nat → Bool} {bound reads : Nat} {ok : Bool}

theorem Polled.reads_le (h : Polled ready bound reads ok) : reads ≤ bound := by
  cases h with
  | found hk hbefore h => exact hk
  | expired h => exact Nat.le_refl bound

/-- Something is found if and only if one of the values is ready, those that were read or all. -/
theorem Polled.ok_iff (h : Polled ready bound reads ok) {n : Nat} (hreads : reads ≤ n)
    (hn : n ≤ bound) : ok = true ↔ ∃ k < n, ready k = true := by
  cases h with
  | @found k hk hbefore h =>
    refine iff_of_true rfl ?_
    exact ⟨k, hreads, h⟩
  | expired h =>
    refine iff_of_false Bool.false_ne_true ?_
    rintro ⟨k, hk, hready⟩
    rw [h k (Nat.lt_of_lt_of_le hk hn)] at hready
    exact nomatch hready

/-- **Fewer reads than the bound** are enough where one of them is ready, and nowhere else. -/
theorem Polled.reads_le_iff (h : Polled ready bound reads ok) {limit : Nat}
    (hlimit : limit < bound) : reads ≤ limit ↔ ∃ k < limit, ready k = true := by
  cases h with
  | @found k hk hbefore h =>
    constructor
    · exact fun hle => ⟨k, hle, h⟩
    · rintro ⟨j, hj, hready⟩
      refine Nat.le_of_not_lt fun hlt => ?_
      rw [hbefore j (by omega)] at hready
      exact nomatch hready
  | expired h =>
    constructor
    · exact fun hle => absurd hle (Nat.not_le_of_lt hlimit)
    · rintro ⟨j, hj, hready⟩
      rw [h j (Nat.lt_trans hj hlimit)] at hready
      exact nomatch hready

end Polled

/-- **The rule of a polling loop.**  `waiting k` is the state after `k` values that were not ready,
and `found k` the state after `k` values of which the last was. -/
theorem loop_polled {σ : Type*} {body : σ → Option σ} {ready : Nat → Bool} {bound : Nat}
    (waiting found : Nat → σ)
    (hstep : ∀ k < bound, loop body 1 (waiting k)
      = bif ready k then found (k + 1) else waiting (k + 1))
    (hfound : ∀ k < bound, ready k = true → body (found (k + 1)) = none)
    (hexpired : body (waiting bound) = none) {fuel : Nat} (hfuel : bound ≤ fuel) :
    body (loop body fuel (waiting 0)) = none ∧ ∃ reads ok, Polled ready bound reads ok
      ∧ loop body fuel (waiting 0) = bif ok then found reads else waiting reads := by
  have hfrom : ∀ n k, k + n = bound → (∀ j < k, ready j = false) → ∀ fuel, n ≤ fuel →
      body (loop body fuel (waiting k)) = none ∧ ∃ reads ok, Polled ready bound reads ok
        ∧ loop body fuel (waiting k) = bif ok then found reads else waiting reads := by
    intro n
    induction n with
    | zero =>
      rintro k hk hbefore fuel -
      obtain rfl : k = bound := hk
      rw [loop_none hexpired]
      exact ⟨hexpired, k, false, .expired hbefore, rfl⟩
    | succ n ih =>
      intro k hk hbefore fuel hle
      obtain ⟨fuel, rfl⟩ := Nat.exists_eq_add_of_le' (Nat.le_trans (Nat.le_add_left 1 n) hle)
      have hlt : k < bound := by omega
      have hone := hstep k hlt
      rw [Nat.add_comm fuel, loop_add, hone]
      cases hready : ready k with
      | true =>
        have hdone := hfound k hlt hready
        rw [cond_true, loop_none hdone]
        exact ⟨hdone, k + 1, true, .found hlt hbefore hready, rfl⟩
      | false =>
        rw [cond_false]
        refine ih (k + 1) (by omega) (fun j hj => ?_) fuel (by omega)
        rcases Nat.lt_succ_iff_lt_or_eq.mp hj with hjk | rfl
        · exact hbefore j hjk
        · exact hready
  exact hfrom bound 0 (Nat.zero_add bound) (fun j hj => absurd hj (Nat.not_lt_zero j)) fuel hfuel

end WoaRk3576.Lib
