/-
# Tables of slots

A table of fixed size, each slot empty or with one value.  `fillSlot` puts a value into the first
empty slot and `clearSlot` empties the first slot that has a value.  Of the order of the slots
nothing depends: `slotValues` is the multiset of the values, to which the two add and from which
they erase.
-/
import Mathlib.Data.List.ReduceOption
import Mathlib.Data.Multiset.AddSub

namespace WoaRk3576.Lib

universe u

variable {α : Type u}

/-- Put `x` into the first empty slot, if there is one. -/
def fillSlot (x : α) : List (Option α) → List (Option α)
  | [] => []
  | none :: slots => some x :: slots
  | some y :: slots => some y :: fillSlot x slots

/-- Empty the first slot that has `x`, if there is one. -/
def clearSlot [DecidableEq α] (x : α) : List (Option α) → List (Option α)
  | [] => []
  | none :: slots => none :: clearSlot x slots
  | some y :: slots => if y = x then none :: slots else some y :: clearSlot x slots

/-- The values in the slots. -/
def slotValues (slots : List (Option α)) : Multiset α := ↑slots.reduceOption

@[simp]
theorem slotValues_none (slots : List (Option α)) :
    slotValues (none :: slots) = slotValues slots := by
  rw [slotValues, List.reduceOption_cons_of_none, slotValues]

@[simp]
theorem slotValues_some (x : α) (slots : List (Option α)) :
    slotValues (some x :: slots) = x ::ₘ slotValues slots := by
  rw [slotValues, List.reduceOption_cons_of_some, slotValues, Multiset.cons_coe]

theorem slotValues_replicate (n : Nat) : slotValues (List.replicate n (none : Option α)) = 0 := by
  rw [slotValues, List.reduceOption_replicate_none]
  rfl

/-- **There is an empty slot** if and only if there are fewer values than slots. -/
theorem none_mem_iff (slots : List (Option α)) :
    none ∈ slots ↔ Multiset.card (slotValues slots) < slots.length := by
  rw [slotValues, Multiset.coe_card, List.reduceOption_length_lt_iff]

@[simp]
theorem length_fillSlot (x : α) (slots : List (Option α)) :
    (fillSlot x slots).length = slots.length := by
  induction slots with
  | nil => rfl
  | cons y slots ih =>
    cases y with
    | none => rfl
    | some y => rw [fillSlot, List.length_cons, ih, List.length_cons]

theorem slotValues_fillSlot (x : α) {slots : List (Option α)} (h : none ∈ slots) :
    slotValues (fillSlot x slots) = x ::ₘ slotValues slots := by
  induction slots with
  | nil => cases h
  | cons y slots ih =>
    cases y with
    | none => rw [fillSlot, slotValues_some, slotValues_none]
    | some y =>
      have hrest : none ∈ slots := (List.mem_cons.mp h).resolve_left nofun
      rw [fillSlot, slotValues_some, ih hrest, slotValues_some, Multiset.cons_swap]

variable [DecidableEq α]

@[simp]
theorem length_clearSlot (x : α) (slots : List (Option α)) :
    (clearSlot x slots).length = slots.length := by
  induction slots with
  | nil => rfl
  | cons y slots ih =>
    cases y with
    | none => rw [clearSlot, List.length_cons, ih, List.length_cons]
    | some y =>
      unfold clearSlot
      split
      · rfl
      · rw [List.length_cons, ih, List.length_cons]

theorem slotValues_clearSlot (x : α) (slots : List (Option α)) :
    slotValues (clearSlot x slots) = (slotValues slots).erase x := by
  induction slots with
  | nil => rfl
  | cons y slots ih =>
    cases y with
    | none => rw [clearSlot, slotValues_none, ih, slotValues_none]
    | some y =>
      unfold clearSlot
      split
      · rename_i heq
        rw [heq, slotValues_none, slotValues_some, Multiset.erase_cons_head]
      · rename_i hne
        rw [slotValues_some, ih, slotValues_some, Multiset.erase_cons_tail _ hne]

end WoaRk3576.Lib
