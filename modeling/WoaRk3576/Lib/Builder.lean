/-
# Buffers that are filled from front to back

`Filled` is a memory with the extents that were written on the way.  A routine that clears a
buffer and then writes one piece of it after the other keeps `Building`: the buffer begins with the
bytes written so far, the rest of it is zero, and nothing outside of it was written or changed.
-/
import WoaRk3576.Lib.Access
import WoaRk3576.Lib.Memory

namespace WoaRk3576.Lib

/-! ## 1. Writes

The extents that were written are remembered beside the memory, as what a write has overwritten
cannot be seen in the memory behind it. -/

/-- A memory, and the extents that were written. -/
structure Filled where
  memory : Memory
  writes : List (Extent Nat)

namespace Filled

/-- Nothing is written yet. -/
def untouched (m : Memory) : Filled := ⟨m, []⟩

/-- A write. -/
def put (f : Filled) (a : Nat) (bs : List (BitVec 8)) : Filled :=
  ⟨store f.memory a bs, f.writes ++ [⟨a, bs.length⟩]⟩

/-- All writes are inside an extent. -/
def Inside (f : Filled) (e : Extent Nat) : Prop := ∀ w ∈ f.writes, w.bytes ⊆ e.bytes

variable {f : Filled} {m : Memory} {base size : Nat} {bs cs : List (BitVec 8)}

theorem Inside.put {a : Nat} (h : f.Inside ⟨base, size⟩) (hle : base ≤ a)
    (hend : a + bs.length ≤ base + size) : (f.put a bs).Inside ⟨base, size⟩ := by
  intro w hw
  rcases List.mem_append.1 hw with hw | hw
  · exact h w hw
  · rw [List.mem_singleton.1 hw]
    exact Extent.bytes_subset_iff.2 (.inr ⟨hle, hend⟩)

/-! ## 2. The buffer

`Building` is what holds between two writes.  A write puts a piece behind the bytes that are there;
a piece of zeros may be left out, and everything that is there can be read back in between. -/

/-- **The buffer of `size` bytes at `base` holds `bs` and zeros**, and `m` is around it. -/
structure Building (f : Filled) (m : Memory) (base size : Nat) (bs : List (BitVec 8)) : Prop where
  fits : bs.length ≤ size
  holds : load f.memory base bs.length = bs
  zeros : ∀ x, base + bs.length ≤ x → x < base + size → f.memory x = 0
  around : ∀ x, x < base ∨ base + size ≤ x → f.memory x = m x
  inside : f.Inside ⟨base, size⟩

/-- The buffer is cleared. -/
theorem building_cleared (m : Memory) (base size : Nat) :
    ((untouched m).put base (List.replicate size 0)).Building m base size [] where
  fits := Nat.zero_le _
  holds := rfl
  zeros := by
    intro x hge hlt
    rw [List.length_nil, Nat.add_zero] at hge
    obtain ⟨k, rfl⟩ := Nat.exists_eq_add_of_le hge
    have hk : k < (List.replicate size (0 : BitVec 8)).length := by
      rw [List.length_replicate]
      omega
    exact (store_of_lt m base hk).trans (List.getElem_replicate ..)
  around := fun x hx => store_of_apart m (by rw [List.length_replicate]; exact hx)
  inside := by
    have hstart : (untouched m).Inside ⟨base, size⟩ := fun w hw => nomatch hw
    exact hstart.put (Nat.le_refl _) (by rw [List.length_replicate])

/-- **The next piece is written behind the bytes that are there.** -/
theorem Building.put (h : f.Building m base size bs) (cs : List (BitVec 8))
    (hfits : bs.length + cs.length ≤ size) {a : Nat} (ha : a = base + bs.length) :
    (f.put a cs).Building m base size (bs ++ cs) := by
  subst ha
  refine ⟨?_, ?_, fun x hge hlt => ?_, fun x hx => ?_, h.inside.put (by omega) (by omega)⟩
  · rw [List.length_append]
    exact hfits
  · have hfirst : load (f.put (base + bs.length) cs).memory base bs.length = bs :=
      (load_store_of_apart f.memory (.inl (Nat.le_refl _))).trans h.holds
    have hsecond : load (f.put (base + bs.length) cs).memory (base + bs.length) cs.length = cs :=
      load_store_self f.memory _ cs
    rw [List.length_append, load_add, hfirst, hsecond]
  · rw [List.length_append] at hge
    exact (store_of_apart f.memory (.inr (by omega))).trans (h.zeros x (by omega) hlt)
  · exact (store_of_apart f.memory (by omega)).trans (h.around x hx)

/-- What is not written is zero. -/
theorem Building.skip (h : f.Building m base size bs) (n : Nat) (hfits : bs.length + n ≤ size) :
    f.Building m base size (bs ++ List.replicate n 0) := by
  refine ⟨?_, ?_, fun x hge hlt => ?_, h.around, h.inside⟩
  · rw [List.length_append, List.length_replicate]
    exact hfits
  · have hzeros : load f.memory (base + bs.length) n = List.replicate n 0 :=
      load_zeros fun x hge hlt => h.zeros x hge (by omega)
    rw [List.length_append, List.length_replicate, load_add, h.holds, hzeros]
  · rw [List.length_append, List.length_replicate] at hge
    exact h.zeros x (by omega) hlt

/-- **A piece of the bytes is read back.** -/
theorem Building.load_piece {pre post : List (BitVec 8)}
    (h : f.Building m base size (pre ++ cs ++ post)) :
    load f.memory (base + pre.length) cs.length = cs := by
  have hwindow : pre.length + cs.length ≤ (pre ++ cs ++ post).length := by
    simp only [List.length_append]
    omega
  rw [load_window f.memory base hwindow, h.holds, List.append_assoc, List.drop_left,
    List.take_left]

end Filled

end WoaRk3576.Lib
