/-
# Records of numbers

A record lies in memory as its fields one after the other, each a number of some bytes, the lowest
byte first.  `recordBytes` are the bytes of a record, and `HasFields` says that a memory has the
numbers at the places of the fields: where the bytes are, the numbers are (`hasFields_of_load`).
-/
import WoaRk3576.Lib.Memory

namespace WoaRk3576.Lib

/-- The bytes of a record: each field has its width and its value. -/
def recordBytes : List (Nat × Nat) → List (BitVec 8)
  | [] => []
  | (width, x) :: fields => leBytes width x ++ recordBytes fields

/-- The bytes that a record takes. -/
def recordSize : List (Nat × Nat) → Nat
  | [] => 0
  | (width, _) :: fields => width + recordSize fields

@[simp]
theorem length_recordBytes (fields : List (Nat × Nat)) :
    (recordBytes fields).length = recordSize fields := by
  induction fields with
  | nil => rfl
  | cons f fields ih => rw [recordBytes, recordSize, List.length_append, length_leBytes, ih]

/-- The memory has the record's numbers from `i` on. -/
def HasFields (m : Memory) : Nat → List (Nat × Nat) → Prop
  | _, [] => True
  | i, (width, x) :: fields => loadLe m i width = x % 256 ^ width ∧ HasFields m (i + width) fields

/-- **Where the bytes of a record are, its numbers are.** -/
theorem hasFields_of_load {m : Memory} (fields : List (Nat × Nat)) : ∀ {i : Nat},
    load m i (recordSize fields) = recordBytes fields → HasFields m i fields := by
  induction fields with
  | nil => exact fun _ => trivial
  | cons f fields ih =>
    obtain ⟨width, x⟩ := f
    intro i h
    rw [recordSize, recordBytes, load_add] at h
    obtain ⟨hfirst, hrest⟩ := List.append_inj h (by rw [length_load, length_leBytes])
    refine ⟨?_, ih hrest⟩
    rw [loadLe, hfirst, leNat_leBytes]

end WoaRk3576.Lib
