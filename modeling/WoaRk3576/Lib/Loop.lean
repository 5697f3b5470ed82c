/-
# Loops of the source

A `for` or `while` loop is a body `σ → Option σ` on the loop variables, `none` being the end of
the loop, whether by its condition or by `break`.  `loop body fuel` runs it with a bound on the
number of iterations, so that it computes; `loop_spec` is the one rule: from an invariant with a
variant, the loop ends by itself within the bound and in a state that meets the postcondition.
That the bound suffices is part of the conclusion, never an assumption of it.
-/
import Mathlib.Tactic.Common

namespace WoaRk3576.Lib

variable {σ : Type*}

/-- Repeat `body` until it says `none`, at most `fuel` times. -/
def loop (body : σ → Option σ) : Nat → σ → σ
  | 0, s => s
  | fuel + 1, s =>
    match body s with
    | none => s
    | some s' => loop body fuel s'

theorem loop_none {body : σ → Option σ} {s : σ} (h : body s = none) (fuel : Nat) :
    loop body fuel s = s := by
  cases fuel with
  | zero => rfl
  | succ fuel => rw [loop, h]

theorem loop_some {body : σ → Option σ} {s s' : σ} (h : body s = some s') (fuel : Nat) :
    loop body (fuel + 1) s = loop body fuel s' := by
  rw [loop, h]

/-- **The loop rule.**  `I n s` is the invariant, `n` a bound on the iterations still to come:
each state that meets it ends the loop in `Q` or takes an iteration that lowers `n`. -/
theorem loop_spec (body : σ → Option σ) (I : Nat → σ → Prop) (Q : σ → Prop)
    (hstep : ∀ n s, I n s →
      body s = none ∧ Q s ∨ ∃ s' m, body s = some s' ∧ m < n ∧ I m s') :
    ∀ (fuel n : Nat) (s : σ), I n s → n ≤ fuel →
      body (loop body fuel s) = none ∧ Q (loop body fuel s)
  | fuel, n, s, hI, hfuel => by
    rcases hstep n s hI with ⟨hnone, hQ⟩ | ⟨s', m, hsome, hlt, hI'⟩
    · rw [loop_none hnone]
      exact ⟨hnone, hQ⟩
    · obtain ⟨fuel, rfl⟩ : ∃ k, fuel = k + 1 := ⟨fuel - 1, by omega⟩
      rw [loop_some hsome]
      exact loop_spec body I Q hstep fuel m s' hI' (by omega)

/-- Iterations after iterations. -/
theorem loop_add (body : σ → Option σ) (n : Nat) :
    ∀ (m : Nat) (s : σ), loop body (m + n) s = loop body n (loop body m s) := by
  intro m
  induction m with
  | zero =>
    intro s
    rw [Nat.zero_add]
    rfl
  | succ m ih =>
    intro s
    rw [Nat.succ_add]
    cases hbody : body s with
    | none => rw [loop_none hbody, loop_none hbody, loop_none hbody]
    | some s' => rw [loop_some hbody, loop_some hbody, ih]

/-- A loop that ends within the bound ends there from each of its states. -/
theorem loop_of_done {body : σ → Option σ} {fuel : Nat} {s : σ}
    (h : body (loop body fuel s) = none) (n : Nat) :
    loop body fuel (loop body n s) = loop body fuel s := by
  rw [← loop_add, Nat.add_comm, loop_add, loop_none h]

/-- What iterations preserve holds in each state of the loop. -/
theorem loop_invariant {body : σ → Option σ} {I : σ → Prop}
    (hstep : ∀ s s', I s → body s = some s' → I s') (n : Nat) :
    ∀ s, I s → I (loop body n s) := by
  induction n with
  | zero => exact fun _ hI => hI
  | succ n ih =>
    intro s hI
    cases hbody : body s with
    | none => rwa [loop_none hbody]
    | some s' =>
      rw [loop_some hbody]
      exact ih s' (hstep s s' hI hbody)

end WoaRk3576.Lib
