/-
# A full-duplex exchange over two queues

A master queues items, a device takes them one by one in order and answers each with one item,
and the master collects the answers.  `Exact f out log back n` says that nothing was lost,
repeated or reordered: the log holds what was exchanged, `out` is queued and not exchanged yet,
`back` is answered and not collected yet, `n` answers are collected, and the items are `f 0`,
`f 1`, ... in order.  Each of the three moves keeps it.
-/
import Mathlib.Data.List.Range

namespace WoaRk3576.Lib

universe u v

variable {α : Type u} {β : Type v}

/-- **Nothing is lost, repeated or reordered.** -/
structure Exact (f : Nat → α) (out : List α) (log : List (α × β)) (back : List β) (n : Nat) :
    Prop where
  sent : log.map Prod.fst ++ out = (List.range (log.length + out.length)).map f
  received : back = (log.drop n).map Prod.snd
  collected : n ≤ log.length

variable {f : Nat → α} {out : List α} {log : List (α × β)} {back : List β} {n : Nat}

theorem exact_nil (f : Nat → α) : Exact f [] ([] : List (α × β)) [] 0 :=
  ⟨rfl, rfl, Nat.le_refl 0⟩

/-- How many answers wait. -/
theorem Exact.length_back (h : Exact f out log back n) : n + back.length = log.length := by
  rw [h.received, List.length_map, List.length_drop]
  have := h.collected
  omega

/-- The exchanged items are the first ones. -/
theorem Exact.exchanged (h : Exact f out log back n) :
    log.map Prod.fst = (List.range log.length).map f := by
  have htake := congrArg (List.take log.length) h.sent
  rw [List.take_left' (by rw [List.length_map]), ← List.map_take, List.take_range,
    Nat.min_eq_left (Nat.le_add_right ..)] at htake
  exact htake

/-- The master queues the next item. -/
theorem Exact.push (h : Exact f out log back n) :
    Exact f (out ++ [f (log.length + out.length)]) log back n := by
  refine ⟨?_, h.received, h.collected⟩
  rw [← List.append_assoc, h.sent, List.length_append, List.length_singleton, ← Nat.add_assoc,
    List.range_succ, List.map_append]
  rfl

/-- The device takes the item queued first and answers it. -/
theorem Exact.shift {a : α} (h : Exact f (a :: out) log back n) (b : β) :
    Exact f out (log ++ [(a, b)]) (back ++ [b]) n := by
  refine ⟨?_, ?_, ?_⟩
  · have hsent := h.sent
    rw [List.length_cons] at hsent
    rw [List.map_append, List.append_assoc, List.length_append, List.length_singleton,
      Nat.add_assoc, Nat.add_comm 1]
    exact hsent
  · rw [List.drop_append_of_le_length h.collected, List.map_append, ← h.received]
    rfl
  · rw [List.length_append]
    exact Nat.le_add_right_of_le h.collected

/-- The master collects the answer that waits longest. -/
theorem Exact.pop {b : β} (h : Exact f out log (b :: back) n) :
    Exact f out log back (n + 1) ∧ (log.map Prod.snd)[n]? = some b := by
  have hreceived := h.received
  rw [List.map_drop] at hreceived
  have hget : (log.map Prod.snd)[n]? = some b := by
    rw [← List.head?_drop, ← hreceived]
    rfl
  have hlength := h.length_back
  rw [List.length_cons] at hlength
  refine ⟨⟨h.sent, ?_, by omega⟩, hget⟩
  rw [List.map_drop, ← List.tail_drop, ← hreceived]
  rfl

end WoaRk3576.Lib
