/-
# Well-formed packages

The data of a well-formed package are arguments, one behind the other, and the last of them ends
where the data end.  `ArgumentsTo` says so of any range of memory, `Elements` of the data of a
package.  From it follows what an iterator finds: the next argument of an element is the next
element (`iterate_next`), and no element reaches out of its package (`Whole.element`).
-/
import WoaRk3576.Acpi.DevicePropertiesBounds

namespace WoaRk3576.Acpi

open WoaRk3576.Lib

/-! ## 1. Arguments in a row

A row of arguments is a list of addresses, each the one that the macro computes from the one
before.  The lemmas say what an iterator needs: where a row begins, what comes behind a member of
it, and where its `i`-th member is. -/

section Arguments

variable (m : Memory)

/-- **The arguments from `a` to `stop`**, one behind the other. -/
def ArgumentsTo (stop : Nat) : Nat → List Nat → Prop
  | a, [] => a = stop
  | a, b :: bs => a = b ∧ ArgumentsTo stop (nextArgument m a) bs

/-- **The elements of a package.** -/
def Elements (p : Nat) (elements : List Nat) : Prop :=
  argType m p = methodArgumentPackage ∧ ArgumentsTo m (dataEnd m p) (p + 4) elements

/-- An integer of four bytes. -/
def IsInteger (a : Nat) : Prop :=
  argType m a = methodArgumentInteger ∧ dataLength m a = 4

instance (a : Nat) : Decidable (IsInteger m a) := inferInstanceAs (Decidable (_ ∧ _))

/-- The value of an integer argument. -/
def integerAt (a : Nat) : Nat := loadLe m (a + 4) 4

/-- **A package of integers.** -/
def IntegerPackage (p : Nat) (values : List Nat) : Prop :=
  ∃ elements, Elements m p elements ∧ (∀ a ∈ elements, IsInteger m a)
    ∧ elements.map (integerAt m) = values

end Arguments

variable {m : Memory} {stop a : Nat} {elements : List Nat}

theorem ArgumentsTo.le : ∀ {a : Nat} {elements : List Nat},
    ArgumentsTo m stop a elements → a ≤ stop
  | _, [], h => Nat.le_of_eq h
  | a, _ :: _, h => by
    have hnext := h.2.le
    have hgrow := add_le_nextArgument m a
    omega

/-- An argument in a row lies in it. -/
theorem ArgumentsTo.mem : ∀ {a b : Nat} {elements : List Nat},
    ArgumentsTo m stop a elements → b ∈ elements → a ≤ b ∧ nextArgument m b ≤ stop
  | _, _, [], _, hb => nomatch hb
  | a, b, c :: elements, h, hb => by
    obtain ⟨rfl, hrest⟩ := h
    rcases List.mem_cons.1 hb with rfl | hb
    · exact ⟨Nat.le_refl _, hrest.le⟩
    · have hmem := hrest.mem hb
      have hgrow := add_le_nextArgument m a
      exact ⟨by omega, hmem.2⟩

/-- A row that is not empty begins with its first argument. -/
theorem ArgumentsTo.first (h : ArgumentsTo m stop a elements) (hlt : a < stop) :
    a ∈ elements := by
  cases elements with
  | nil => exact absurd h (Nat.ne_of_lt hlt)
  | cons b elements => exact List.mem_cons.2 (.inl h.1)

/-- **Behind an argument comes the next one**, or the end. -/
theorem ArgumentsTo.next : ∀ {a b : Nat} {elements : List Nat},
    ArgumentsTo m stop a elements → b ∈ elements → nextArgument m b < stop →
      nextArgument m b ∈ elements
  | _, _, [], _, hb, _ => nomatch hb
  | a, b, c :: elements, h, hb, hlt => by
    obtain ⟨rfl, hrest⟩ := h
    rcases List.mem_cons.1 hb with rfl | hb
    · exact List.mem_cons_of_mem _ (hrest.first hlt)
    · exact List.mem_cons_of_mem _ (hrest.next hb hlt)

/-- The `i`-th argument of a row. -/
theorem ArgumentsTo.iterate : ∀ {a : Nat} {elements : List Nat} {i : Nat},
    ArgumentsTo m stop a elements → (hi : i < elements.length) →
      (nextArgument m)^[i] a = elements[i]
  | _, [], _, _, hi => nomatch hi
  | _, _ :: _, 0, h, _ => h.1
  | a, b :: elements, i + 1, h, hi => by
    rw [Function.iterate_succ_apply, List.getElem_cons_succ]
    exact h.2.iterate (Nat.lt_of_succ_lt_succ hi)

/-- A row of integers is eight bytes for each. -/
theorem ArgumentsTo.integers : ∀ {a : Nat} {elements : List Nat},
    ArgumentsTo m stop a elements → (∀ b ∈ elements, IsInteger m b) →
      stop = a + 8 * elements.length
  | _, [], h, _ => h.symm
  | a, b :: elements, h, hints => by
    obtain ⟨rfl, hrest⟩ := h
    have hfour := (hints a List.mem_cons_self).2
    have hnext : nextArgument m a = a + 8 := by
      rw [nextArgument, hfour]
      rfl
    have ih := hrest.integers fun c hc => hints c (List.mem_cons_of_mem _ hc)
    rw [ih, hnext, List.length_cons]
    omega

/-! ## 2. Pointers to elements

The same with the extents of a pointer: an element lies in the data of its package, and therefore
in everything that the package lies in. -/

@[simp]
theorem ArgumentPtr.address_next (p : ArgumentPtr) :
    (p.next m).address = nextArgument m p.address := rfl

@[simp]
theorem ArgumentPtr.within_next (p : ArgumentPtr) : (p.next m).within = p.within := rfl

@[simp]
theorem ArgumentPtr.address_inside_zero (p : ArgumentPtr) :
    (p.inside m 0).address = p.address + 4 := rfl

@[simp]
theorem ArgumentPtr.within_inside (p : ArgumentPtr) (offset : Nat) :
    (p.inside m offset).within = dataExtent m p.address :: p.within := rfl

theorem ArgumentPtr.iterate_next (p : ArgumentPtr) (i : Nat) :
    ((ArgumentPtr.next m)^[i] p).address = (nextArgument m)^[i] p.address
      ∧ ((ArgumentPtr.next m)^[i] p).within = p.within := by
  induction i with
  | zero => exact ⟨rfl, rfl⟩
  | succ i ih =>
    rw [Function.iterate_succ_apply', Function.iterate_succ_apply']
    exact ⟨congrArg (nextArgument m) ih.1, ih.2⟩

/-- **The argument lies as a whole in what is to hold it.** -/
def ArgumentPtr.Whole (m : Memory) (p : ArgumentPtr) : Prop :=
  p.Fits (4 + dataLength m p.address)

/-- **An element lies in its package**, and in what holds that. -/
theorem ArgumentPtr.Whole.element {p q : ArgumentPtr} (hp : p.Whole m)
    (h : Elements m p.address elements) (hq : q.address ∈ elements)
    (hwithin : q.within = dataExtent m p.address :: p.within) : q.Whole m := by
  have hmem := h.2.mem hq
  have hend := dataEnd_le_nextArgument m q.address
  unfold dataEnd at hend hmem
  unfold ArgumentPtr.Whole ArgumentPtr.Fits
  intro e he
  rw [hwithin] at he
  rcases List.mem_cons.1 he with rfl | he
  · unfold dataExtent
    dsimp only
    omega
  · have hpe := hp e he
    omega

end WoaRk3576.Acpi
