/-
# Sequences of calls

A routine that is called again and again is a total function `step : σ → α → σ` of the state and
of what the call is given.  `Always` is about the states of a sequence of calls, the first one and
the one after each call, and `Each` about the calls.

`always_iff_each` is the one induction: when a call keeps `P` exactly if it meets `G`, then `P`
always holds exactly if each call meets `G`.
-/
import Mathlib.Init

namespace WoaRk3576.Lib

universe u v

variable {σ : Type u} {α : Type v}

/-- `P` holds before the calls and after each of them. -/
def Always (step : σ → α → σ) (P : σ → Prop) : σ → List α → Prop
  | s, [] => P s
  | s, a :: as => P s ∧ Always step P (step s a) as

/-- `G` holds of each call, in the state before it. -/
def Each (step : σ → α → σ) (G : σ → α → Prop) : σ → List α → Prop
  | _, [] => True
  | s, a :: as => G s a ∧ Each step G (step s a) as

variable {step : σ → α → σ} {P : σ → Prop} {G H : σ → α → Prop}

/-- **Invariants and conditions on the calls.** -/
theorem always_iff_each (hstep : ∀ s a, P s → (P (step s a) ↔ G s a)) (as : List α) :
    ∀ s, P s → (Always step P s as ↔ Each step G s as) := by
  induction as with
  | nil => exact fun s hs => ⟨fun _ => trivial, fun _ => hs⟩
  | cons a as ih =>
    intro s hs
    have hkept : Always step P (step s a) as → P (step s a) := by
      intro halways
      cases as with
      | nil => exact halways
      | cons => exact halways.1
    constructor
    · rintro ⟨-, halways⟩
      have hnext := hkept halways
      exact ⟨(hstep s a hs).mp hnext, (ih _ hnext).mp halways⟩
    · rintro ⟨hcall, heach⟩
      exact ⟨hs, (ih _ ((hstep s a hs).mpr hcall)).mpr heach⟩

theorem each_congr (h : ∀ s a, G s a ↔ H s a) (as : List α) :
    ∀ s, Each step G s as ↔ Each step H s as := by
  induction as with
  | nil => exact fun _ => Iff.rfl
  | cons a as ih => exact fun s => and_congr (h s a) (ih _)

theorem Each.of_forall {as : List α} (h : ∀ a ∈ as, ∀ s, G s a) : ∀ s, Each step G s as := by
  induction as with
  | nil => exact fun _ => trivial
  | cons a as ih =>
    intro s
    exact ⟨h a List.mem_cons_self s, ih (fun b hb => h b (List.mem_cons_of_mem a hb)) _⟩

theorem Each.forall_mem {as : List α} : ∀ {s}, Each step G s as → ∀ a ∈ as, ∃ t, G t a := by
  induction as with
  | nil => exact fun _ _ ha => absurd ha List.not_mem_nil
  | cons b as ih =>
    intro s heach a ha
    rcases List.mem_cons.mp ha with rfl | ha
    · exact ⟨s, heach.1⟩
    · exact ih heach.2 a ha

end WoaRk3576.Lib
