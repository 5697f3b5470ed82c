/-
# Lists of register writes

What a routine does to a device is often just the list of its writes.  `applyWrites` is the register
file after them: a register that no write names keeps its value (`applyWrites_of_ne`), and one that
a single member of a family of routines names has what that member writes, wherever in the family
it stands (`applyWrites_flatMap`).
-/
import Mathlib.Logic.Function.Basic

namespace WoaRk3576.Lib

universe u v w

variable {ι : Type u} {β : Type v} {α : Type w} [DecidableEq ι]

/-- **The registers after the writes**, in order. -/
def applyWrites (regs : ι → β) (ws : List (ι × β)) : ι → β :=
  ws.foldl (fun regs w => Function.update regs w.1 w.2) regs

@[simp]
theorem applyWrites_nil (regs : ι → β) : applyWrites regs [] = regs := rfl

@[simp]
theorem applyWrites_cons (regs : ι → β) (w : ι × β) (ws : List (ι × β)) :
    applyWrites regs (w :: ws) = applyWrites (Function.update regs w.1 w.2) ws := rfl

theorem applyWrites_append (regs : ι → β) (as bs : List (ι × β)) :
    applyWrites regs (as ++ bs) = applyWrites (applyWrites regs as) bs :=
  List.foldl_append

/-- **A register that is not written keeps its value.** -/
theorem applyWrites_of_ne {i : ι} {ws : List (ι × β)} (h : ∀ w ∈ ws, w.1 ≠ i) (regs : ι → β) :
    applyWrites regs ws i = regs i := by
  induction ws generalizing regs with
  | nil => rfl
  | cons w ws ih =>
    rw [applyWrites_cons, ih fun w' hw' => h w' (List.mem_cons_of_mem _ hw')]
    exact Function.update_of_ne (Ne.symm (h w List.mem_cons_self)) _ _

/-- **A family of routines**: a register that only `f b` writes has what `f b` writes. -/
theorem applyWrites_flatMap {i : ι} {x : β} {f : α → List (ι × β)} {b : α}
    (hset : ∀ regs, applyWrites regs (f b) i = x) :
    ∀ {as : List α}, b ∈ as → (∀ a ∈ as, a ≠ b → ∀ w ∈ f a, w.1 ≠ i) → ∀ regs,
      applyWrites regs (as.flatMap f) i = x
  | a :: as, hmem, hother, regs => by
    have hrest : ∀ a' ∈ as, a' ≠ b → ∀ w ∈ f a', w.1 ≠ i :=
      fun a' ha' => hother a' (List.mem_cons_of_mem _ ha')
    rw [List.flatMap_cons, applyWrites_append]
    by_cases hb : b ∈ as
    · exact applyWrites_flatMap hset hb hrest _
    · have hab : b = a := (List.mem_cons.mp hmem).resolve_right hb
      subst hab
      rw [applyWrites_of_ne, hset]
      intro w hw
      obtain ⟨a', ha', hwa'⟩ := List.mem_flatMap.mp hw
      exact hrest a' ha' (fun heq => hb (heq ▸ ha')) w hwa'

end WoaRk3576.Lib
