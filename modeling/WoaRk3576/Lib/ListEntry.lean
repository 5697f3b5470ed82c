/-
# Circular lists of entries that hold their own links

An entry holds the addresses of its neighbours, and a list is a ring of entries from its head back
to it (`IsRing`).  `removeEntryList` joins the neighbours of an entry: it takes the entry out of
every ring it is in (`IsRing.remove`), and reads nothing but the entry.
-/
import Mathlib.Data.List.Chain
import Mathlib.Logic.Function.Basic
import Mathlib.Tactic.Common

namespace WoaRk3576.Lib

/-- The links of an entry. -/
structure ListEntry where
  flink : Nat
  blink : Nat
  deriving DecidableEq, Repr

/-- `b` follows `a`, by the links of both. -/
def Linked (m : Nat → ListEntry) (a b : Nat) : Prop := (m a).flink = b ∧ (m b).blink = a

/-- **The entries of a list**, in order from its head. -/
structure IsRing (m : Nat → ListEntry) (head : Nat) (entries : List Nat) : Prop where
  linked : (head :: (entries ++ [head])).IsChain (Linked m)
  nodup : (head :: entries).Nodup

/-- The flink and the blink of an entry's neighbours lead past it. -/
def removeEntryList (m : Nat → ListEntry) (entry : Nat) : Nat → ListEntry :=
  let flink := (m entry).flink
  let blink := (m entry).blink
  let m := Function.update m blink { m blink with flink := flink }
  Function.update m flink { m flink with blink := blink }

section Remove

variable {m : Nat → ListEntry} {entry : Nat}

theorem flink_removeEntryList (a : Nat) : (removeEntryList m entry a).flink
    = if a = (m entry).blink then (m entry).flink else (m a).flink := by
  unfold removeEntryList
  by_cases hnext : a = (m entry).flink
  · subst hnext
    rw [Function.update_self]
    by_cases hprev : (m entry).flink = (m entry).blink
    · rw [if_pos hprev, hprev, Function.update_self]
    · rw [if_neg hprev, Function.update_of_ne hprev]
  · rw [Function.update_of_ne hnext]
    by_cases hprev : a = (m entry).blink
    · rw [if_pos hprev, hprev, Function.update_self]
    · rw [if_neg hprev, Function.update_of_ne hprev]

theorem blink_removeEntryList (b : Nat) : (removeEntryList m entry b).blink
    = if b = (m entry).flink then (m entry).blink else (m b).blink := by
  unfold removeEntryList
  by_cases hnext : b = (m entry).flink
  · rw [if_pos hnext, hnext, Function.update_self]
  · rw [if_neg hnext, Function.update_of_ne hnext]
    by_cases hprev : b = (m entry).blink
    · rw [hprev, Function.update_self]
    · rw [Function.update_of_ne hprev]

variable {before after : Nat} (hbefore : Linked m before entry) (hafter : Linked m entry after)

include hbefore hafter

/-- The neighbours are linked. -/
theorem linked_removeEntryList : Linked (removeEntryList m entry) before after := by
  constructor
  · rw [flink_removeEntryList, if_pos hbefore.2.symm, hafter.1]
  · rw [blink_removeEntryList, if_pos hafter.1.symm, hbefore.2]

/-- Other entries stay linked. -/
theorem linked_removeEntryList_of_ne {a b : Nat} (ha : a ≠ entry) (hb : b ≠ entry)
    (h : Linked m a b) : Linked (removeEntryList m entry) a b := by
  constructor
  · rw [flink_removeEntryList, if_neg, h.1]
    intro heq
    have hentry : b = entry := by rw [← h.1, heq, hbefore.2, hbefore.1]
    exact hb hentry
  · rw [blink_removeEntryList, if_neg, h.2]
    intro heq
    have hentry : a = entry := by rw [← h.2, heq, hafter.1, hafter.2]
    exact ha hentry

end Remove

/-! ## 1. Rings

A ring is given by the list of its entries, and what the links lead through is computed from it.
Taking an entry out changes two links, and all others are kept because the entries of a ring
differ. -/

section Ring

variable {m m' : Nat → ListEntry} {head entry : Nat} {l l₁ l₂ : List Nat}

/-- The neighbours of an entry of a ring, and what the links lead through on both sides. -/
theorem IsRing.split (h : IsRing m head (l₁ ++ entry :: l₂)) :
    ∃ (front back : List Nat) (before after : Nat), head :: l₁ = front ++ [before]
      ∧ l₂ ++ [head] = after :: back ∧ after = l₂.headD head
      ∧ (front ++ [before]).IsChain (Linked m) ∧ Linked m before entry ∧ Linked m entry after
      ∧ (after :: back).IsChain (Linked m) := by
  obtain ⟨front, before, hfront⟩ : ∃ front before, head :: l₁ = front ++ [before] :=
    ⟨_, _, (List.dropLast_append_getLast (List.cons_ne_nil head l₁)).symm⟩
  obtain ⟨after, back, hback, hafter⟩ :
      ∃ after back, l₂ ++ [head] = after :: back ∧ after = l₂.headD head := by
    cases l₂ with
    | nil => exact ⟨head, [], rfl, rfl⟩
    | cons x l₂ => exact ⟨x, l₂ ++ [head], rfl, rfl⟩
  have hsplit : head :: (l₁ ++ entry :: l₂ ++ [head]) = front ++ before :: entry :: after :: back := by
    rw [← hback, List.append_assoc, List.cons_append, ← List.cons_append, hfront,
      List.append_assoc]
    rfl
  have hlinked := h.linked
  rw [hsplit, List.isChain_append_cons_cons, List.isChain_cons_cons] at hlinked
  exact ⟨front, back, before, after, hfront, hback, hafter, hlinked.1, hlinked.2.1, hlinked.2.2.1,
    hlinked.2.2.2⟩

/-- **The link of an entry** is the next one, or the head. -/
theorem IsRing.flink (h : IsRing m head (l₁ ++ entry :: l₂)) : (m entry).flink = l₂.headD head := by
  obtain ⟨front, back, before, after, -, -, hafter, -, -, hlinked, -⟩ := h.split
  rw [hlinked.1, hafter]

/-- The link of the head is the first entry. -/
theorem IsRing.flink_head (h : IsRing m head l) : (m head).flink = l.headD head := by
  have hlinked := h.linked
  cases l with
  | nil => exact (List.isChain_cons_cons.mp hlinked).1.1
  | cons entry l => exact (List.isChain_cons_cons.mp hlinked).1.1

theorem IsRing.ne_head (h : IsRing m head l) (hmem : entry ∈ l) : entry ≠ head := by
  rintro rfl
  exact (List.nodup_cons.mp h.nodup).1 hmem

/-- **Removing an entry** takes it out of the ring. -/
theorem IsRing.remove (h : IsRing m head (l₁ ++ entry :: l₂)) :
    IsRing (removeEntryList m entry) head (l₁ ++ l₂) := by
  obtain ⟨front, back, before, after, hfront, hback, -, hchain, hbefore, hafter, hchain'⟩ := h.split
  have hnodup := h.nodup
  have hmiddle : head :: (l₁ ++ entry :: l₂) = (head :: l₁) ++ entry :: l₂ := rfl
  rw [hmiddle, List.perm_middle.nodup_iff, List.nodup_cons] at hnodup
  obtain ⟨hnot, hrest⟩ := hnodup
  have hkeep : ∀ {l : List Nat}, entry ∉ l → l.IsChain (Linked m) →
      l.IsChain (Linked (removeEntryList m entry)) := by
    intro l hout
    refine List.IsChain.imp_of_mem_imp fun a b ha hb hlinked => ?_
    exact linked_removeEntryList_of_ne hbefore hafter (fun heq => hout (heq ▸ ha))
      (fun heq => hout (heq ▸ hb)) hlinked
  have hfirst : entry ∉ front ++ [before] := by
    rw [← hfront]
    exact fun hmem => hnot (List.mem_append_left _ hmem)
  have hsecond : entry ∉ after :: back := by
    rw [← hback]
    intro hmem
    rcases List.mem_append.mp hmem with hmem | hmem
    · exact hnot (List.mem_append_right _ hmem)
    · exact hnot (List.mem_append_left _ (by rw [List.mem_singleton.mp hmem]; exact List.mem_cons_self))
  refine ⟨?_, hrest⟩
  have hjoin : head :: (l₁ ++ l₂ ++ [head]) = front ++ before :: after :: back := by
    rw [List.append_assoc, hback, ← List.cons_append, hfront, List.append_assoc]
    rfl
  rw [hjoin, List.isChain_append_cons_cons]
  exact ⟨hkeep hfirst hchain, linked_removeEntryList hbefore hafter, hkeep hsecond hchain'⟩

/-- A ring depends on the links of its entries. -/
theorem IsRing.congr (h : IsRing m head l) (heq : ∀ a ∈ head :: l, m' a = m a) : IsRing m' head l := by
  refine ⟨h.linked.imp_of_mem_imp fun a b ha hb hlinked => ?_, h.nodup⟩
  have hmem : ∀ {a}, a ∈ head :: (l ++ [head]) → a ∈ head :: l := by
    intro a ha
    rcases List.mem_cons.mp ha with rfl | ha
    · exact List.mem_cons_self
    · rcases List.mem_append.mp ha with ha | ha
      · exact List.mem_cons_of_mem _ ha
      · rw [List.mem_singleton.mp ha]
        exact List.mem_cons_self
  unfold Linked
  rw [heq a (hmem ha), heq b (hmem hb)]
  exact hlinked

end Ring

end WoaRk3576.Lib
