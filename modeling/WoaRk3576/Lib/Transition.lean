/-
# Labelled transition systems: reachability under a condition on the steps

A driver is modelled here as a partial step function `step : σ → α → Option σ`: the label says
which callback, interrupt or device action happens, and `none` says that it cannot happen in
this state.  The properties of such a system are of two kinds, and one relation serves both:

* "in every reachable state ..." is `Reach`;
* "in every run whose steps all meet the condition `G` ..." is `ReachIf`, where `G` reads the
  state BEFORE the step and the label, never what the step computes.

`ReachIf.invariant` is the only induction over runs of the whole development: a safety proof
supplies an invariant, its base case and one step lemma.  `run` executes a list of labels, and
`exists_reachIf_of_runIf` turns such an execution into a reachable state, which is how the
counterexamples are exhibited.

Where two systems describe one component, `Reach.simulates` connects them: a relation that holds
of the initial states, and whose every step on the left is answered by a list of steps on the
right, relates every state reached on the left to one reached on the right.  What is invariant
on the right then holds on the left too, for the state the relation shares.
-/
import Mathlib.Data.Option.Basic
import Mathlib.Logic.Function.Basic
import Mathlib.Order.Basic

namespace WoaRk3576.Lib

universe u v

variable {σ : Type u} {α : Type v}

/-! ## 1. Reachability

Runs under a condition are those in which every step meets it in the state before the step.
Without a condition they are all runs, and the rules are shared. -/

/-- The states reached from `init` by steps that all meet the condition `G`. -/
inductive ReachIf (init : σ → Prop) (step : σ → α → Option σ) (G : σ → α → Prop) : σ → Prop
  | start {s : σ} : init s → ReachIf init step G s
  | next {s t : σ} {a : α} : ReachIf init step G s → G s a → step s a = some t →
      ReachIf init step G t

/-- The reachable states: no condition on the steps. -/
def Reach (init : σ → Prop) (step : σ → α → Option σ) : σ → Prop :=
  ReachIf init step fun _ _ => True

variable {init : σ → Prop} {step : σ → α → Option σ} {G H : σ → α → Prop}

/-- **The invariant rule.**  What holds initially and is kept by every step that meets the
condition holds in every state such runs reach. -/
theorem ReachIf.invariant {I : σ → Prop} (h0 : ∀ s, init s → I s)
    (hstep : ∀ s a t, I s → G s a → step s a = some t → I t) {s : σ}
    (h : ReachIf init step G s) : I s := by
  induction h with
  | start hs => exact h0 _ hs
  | next _ hG hst ih => exact hstep _ _ _ ih hG hst

/-- The invariant rule without a condition on the steps. -/
theorem Reach.invariant {I : σ → Prop} (h0 : ∀ s, init s → I s)
    (hstep : ∀ s a t, I s → step s a = some t → I t) {s : σ} (h : Reach init step s) : I s :=
  ReachIf.invariant h0 (fun s a t hI _ hst => hstep s a t hI hst) h

/-- One more step of an execution that is written out. -/
theorem ReachIf.after {s t : σ} (h : ReachIf init step G s) (a : α) (hst : step s a = some t)
    (hG : G s a) : ReachIf init step G t :=
  .next h hG hst

/-- A weaker condition reaches more. -/
theorem ReachIf.mono (hGH : ∀ s a, G s a → H s a) {s : σ} (h : ReachIf init step G s) :
    ReachIf init step H s := by
  induction h with
  | start hs => exact .start hs
  | next _ hG hst ih => exact .next ih (hGH _ _ hG) hst

/-- A run under a condition is a run. -/
theorem ReachIf.reach {s : σ} (h : ReachIf init step G s) : Reach init step s :=
  h.mono fun _ _ _ => trivial

/-! ## 2. Executing a list of labels

A concrete run is given by its labels.  Executing them is a computation, so a state that such a run
reaches is exhibited by evaluating it. -/

/-- Take the steps `as` one after another. -/
def run (step : σ → α → Option σ) : σ → List α → Option σ
  | s, [] => some s
  | s, a :: as => (step s a).bind fun t => run step t as

/-- `run`, stopping also at a step that does not meet the (decidable) condition. -/
def runIf (step : σ → α → Option σ) (G : σ → α → Prop) [∀ s a, Decidable (G s a)] :
    σ → List α → Option σ
  | s, [] => some s
  | s, a :: as => if G s a then (step s a).bind fun t => runIf step G t as else none

theorem reachIf_of_runIf [∀ s a, Decidable (G s a)] : ∀ (as : List α) (s t : σ),
    ReachIf init step G s → runIf step G s as = some t → ReachIf init step G t
  | [], s, t, hs, h => by
    rw [runIf, Option.some.injEq] at h
    exact h ▸ hs
  | a :: as, s, t, hs, h => by
    rw [runIf] at h
    split at h
    · rename_i hG
      obtain ⟨s', hs', h'⟩ := Option.bind_eq_some_iff.mp h
      exact reachIf_of_runIf as s' t (.next hs hG hs') h'
    · exact absurd h (by simp)

theorem reach_of_run : ∀ (as : List α) (s t : σ),
    Reach init step s → run step s as = some t → Reach init step t
  | [], s, t, hs, h => by
    rw [run, Option.some.injEq] at h
    exact h ▸ hs
  | a :: as, s, t, hs, h => by
    rw [run] at h
    obtain ⟨s', hs', h'⟩ := Option.bind_eq_some_iff.mp h
    exact reach_of_run as s' t (.next hs trivial hs') h'

/-- **The simulation rule.**  A step of the first system is answered by a run of the second, which
may be empty, so that the relation holds again. -/
theorem Reach.simulates {τ β : Type*} {init' : τ → Prop} {step' : τ → β → Option τ}
    {R : σ → τ → Prop} (h0 : ∀ s, init s → ∃ t, init' t ∧ R s t)
    (hstep : ∀ s t a s', R s t → step s a = some s' →
      ∃ bs t', run step' t bs = some t' ∧ R s' t')
    {s : σ} (h : Reach init step s) : ∃ t, Reach init' step' t ∧ R s t := by
  refine Reach.invariant (I := fun s => ∃ t, Reach init' step' t ∧ R s t) ?_ ?_ h
  · intro s hs
    obtain ⟨t, ht, hR⟩ := h0 s hs
    exact ⟨t, .start ht, hR⟩
  · rintro s a s' ⟨t, ht, hR⟩ hs
    obtain ⟨bs, t', hrun, hR'⟩ := hstep s t a s' hR hs
    exact ⟨t', reach_of_run bs t t' ht hrun, hR'⟩

/-- **An execution exhibits a reachable state.**  The hypothesis `h` is a closed computation
when `s` and `as` are concrete. -/
theorem exists_reach_of_run (step : σ → α → Option σ) {s : σ} (hs : init s) (as : List α)
    (p : σ → Bool) (h : (run step s as).any p = true) : ∃ t, Reach init step t ∧ p t = true := by
  obtain ⟨t, ht, hp⟩ := Option.any_eq_true _ _ |>.mp h
  exact ⟨t, reach_of_run as s t (.start hs) ht, hp⟩

/-- The same for runs under a condition. -/
theorem exists_reachIf_of_runIf (step : σ → α → Option σ) (G : σ → α → Prop)
    [∀ s a, Decidable (G s a)] {s : σ} (hs : init s) (as : List α) (p : σ → Bool)
    (h : (runIf step G s as).any p = true) :
    ∃ t, ReachIf init step G t ∧ p t = true := by
  obtain ⟨t, ht, hp⟩ := Option.any_eq_true _ _ |>.mp h
  exact ⟨t, reachIf_of_runIf as s t (.start hs) ht, hp⟩

/-! ## 3. Families of processes

A system of several processes steps by updating one of them.  These rules say what becomes of a
statement about some process, or about all, when that happens. -/

section Family

variable {ι : Type u} {τ : Type v} [DecidableEq ι] {p : τ → Prop} {f : ι → τ} {i : ι} {x : τ}

/-- A process other than the one that moved still satisfies `p`. -/
theorem exists_update_of_not (hi : ¬ p (f i)) (h : ∃ j, p (f j)) :
    ∃ j, p (Function.update f i x j) := by
  obtain ⟨j, hj⟩ := h
  have hji : j ≠ i := fun heq => hi (heq ▸ hj)
  exact ⟨j, by rwa [Function.update_of_ne hji]⟩

/-- The process that moved satisfies `p`. -/
theorem exists_update_of_self (hx : p x) : ∃ j, p (Function.update f i x j) :=
  ⟨i, by rwa [Function.update_self]⟩

/-- What holds of a process after one of them moved. -/
theorem of_update {q : τ → Prop} {j : ι} (h : q (Function.update f i x j)) :
    (j = i ∧ q x) ∨ (j ≠ i ∧ q (f j)) := by
  by_cases hji : j = i
  · subst hji
    rw [Function.update_self] at h
    exact .inl ⟨rfl, h⟩
  · rw [Function.update_of_ne hji] at h
    exact .inr ⟨hji, h⟩

/-- What holds of every process and of the new state of one of them still holds of every one. -/
theorem forall_update (hx : p x) (h : ∀ j, p (f j)) (j : ι) : p (Function.update f i x j) := by
  by_cases hji : j = i
  · rwa [hji, Function.update_self]
  · rw [Function.update_of_ne hji]
    exact h j

end Family

end WoaRk3576.Lib
