/-
# Lists of arrays: `AcpiDevicePropertiesQueryIntegerValueArray` called again and again

Each call gives the integers of one element of a list and leaves a pointer to the last of them.
The next call takes it for an element of the list and goes on behind it: where the elements are
packages of integers, the end of the last integer is the end of its package, and that is where the
next element starts.

`enumeration_exact` is the result: the calls give the elements of the list one by one and in order,
and then `STATUS_NOT_FOUND`.

What a call finds depends on its pointer only through the address that comes next, so the invariant
of the enumeration is `CursorAt`: the address that the pointer leads to.  At the first call it is
the start of the list's data.  The loop of a call goes through the integers of an element and ends
with a pointer that leads to the end of the element (`entryLoop_result`, an induction over the
integers), which is where the next element starts or where the list ends (`call_result`,
`call_ends`).  An induction over the elements puts the calls together.

That the elements have just `count` integers, and one at least, is what makes the pointer lead
there: behind an integer in the middle the next call would start inside of a package.
-/
import WoaRk3576.Acpi.Packages

namespace WoaRk3576.Acpi

open WoaRk3576.Lib
open Traced

/-! ## 1. The enumeration

The caller keeps the cursor between two calls and does nothing else with it, so the enumeration is
a recursion on the number of calls. -/

/-- Calls of the function, each with what the one before has left in `*currentEntryNextPtr`, until
one fails: what they gave, and the status of the last. -/
def repeatCalls (m : Memory) (list : ArgumentPtr) (count : Nat) :
    Nat → Option ArgumentPtr → List (List Nat) × Option AcpiStatus
  | 0, _ => ([], none)
  | calls + 1, currentEntryNext =>
    match (queryIntegerValueArray m list count currentEntryNext).result with
    | .ok (values, next) =>
      let rest := repeatCalls m list count calls next
      (values :: rest.1, rest.2)
    | .error status => ([], some status)

/-- **A list whose elements are packages of `count` integers.** -/
def IntegerRows (m : Memory) (list count : Nat) (rows : List (List Nat)) : Prop :=
  ∃ entries, Elements m list entries ∧ List.Forall₂ (IntegerPackage m) entries rows
    ∧ ∀ row ∈ rows, row.length = count

variable {m : Memory} {pkg list entry : ArgumentPtr} {a : Nat}

/-! ## 2. Where a cursor leads

A cursor may be null or point to an integer inside an element.  All that matters is the address of
the argument behind it, and whether the list has ended there. -/

/-- **A cursor of an enumeration**: the next argument that it leads to is at `a`. -/
def CursorAt (m : Memory) (pkg : ArgumentPtr) (cursor : Option ArgumentPtr) (a : Nat) : Prop :=
  match cursor with
  | none => a = pkg.address + 4
  | some argument => a = nextArgument m argument.address

/-- The iterator finds the argument that a cursor leads to. -/
theorem CursorAt.found {cursor : Option ArgumentPtr} (h : CursorAt m pkg cursor a)
    (hlength : sizeofMethodArgument ≤ dataLength m pkg.address)
    (hlt : a < dataEnd m pkg.address) :
    ∃ argument, (packageGetNextArgument m pkg cursor).result = .ok argument
      ∧ argument.address = a := by
  cases cursor with
  | none => exact ⟨_, packageFirst_eq_ok_iff.2 ⟨hlength, rfl⟩, h.symm⟩
  | some argument => exact ⟨_, packageNext_eq_ok_iff.2 ⟨hlength, h ▸ hlt, rfl⟩, h.symm⟩

/-- **At the end of the package the iterator has no more entries.** -/
theorem CursorAt.ends {cursor : Option ArgumentPtr}
    (h : CursorAt m pkg cursor (dataEnd m pkg.address)) :
    (packageGetNextArgument m pkg cursor).result = .error .noMoreEntries := by
  cases cursor with
  | none =>
    have hempty : dataLength m pkg.address < sizeofMethodArgument := by
      unfold CursorAt dataEnd at h
      unfold sizeofMethodArgument
      omega
    simp [packageGetNextArgument, hempty]
  | some argument =>
    have hle : dataEnd m pkg.address ≤ nextArgument m argument.address := Nat.le_of_eq h
    rw [packageGetNextArgument, result_read_bind, if_pos hle]
    split
    · rfl
    · rfl

/-! ## 3. One call

A call goes through the integers of one element.  The cursor it leaves points to the last of them,
and the argument behind that is the next element, as the last integer ends where its package does.
-/

/-- A visit of an integer. -/
theorem entryVisit_result {n : Nat} {argument : ArgumentPtr} {values : List Nat}
    {last : Option ArgumentPtr} (hint : IsInteger m argument.address)
    (hrest : (entryLoop m entry n (some argument)).result = .ok (values, last)) :
    (entryVisit m entry n argument).result
      = .ok (integerAt m argument.address :: values, last) := by
  have hvalue : (argumentParseInteger m argument).result
      = .ok (integerAt m argument.address) := by
    simp [argumentParseInteger, hint.1, hint.2, integerAt]
  rw [entryVisit, result_read_bind, if_neg (not_not.2 hint.1), result_bind_of_ok _ hvalue,
    result_bind_of_ok _ hrest]
  rfl

/-- **The loop of a call**: the integers of the entry, and a cursor that leads to its end. -/
theorem entryLoop_result (hlength : sizeofMethodArgument ≤ dataLength m entry.address) :
    ∀ {elements : List Nat} {a : Nat} (cursor : Option ArgumentPtr),
      CursorAt m entry cursor a → ArgumentsTo m (dataEnd m entry.address) a elements →
      (∀ b ∈ elements, IsInteger m b) →
      ∃ last, (entryLoop m entry elements.length cursor).result
          = .ok (elements.map (integerAt m), last)
        ∧ CursorAt m entry last (dataEnd m entry.address)
  | [], _, cursor, hcursor, hto, _ => ⟨cursor, rfl, (hto : _ = _) ▸ hcursor⟩
  | b :: elements, a, cursor, hcursor, hto, hints => by
    obtain ⟨rfl, hrest⟩ := hto
    have hlt : a < dataEnd m entry.address := by
      have hle := hrest.le
      have hgrow := add_le_nextArgument m a
      omega
    obtain ⟨argument, hfound, rfl⟩ := hcursor.found hlength hlt
    obtain ⟨last, hloop, hlast⟩ := entryLoop_result hlength (some argument) rfl hrest
      fun c hc => hints c (List.mem_cons_of_mem _ hc)
    refine ⟨last, ?_, hlast⟩
    rw [List.length_cons, entryLoop_succ,
      result_bind_of_ok _ (result_mapError_eq_ok_iff.2 hfound)]
    exact entryVisit_result (hints _ List.mem_cons_self) hloop

/-- **A call gives the element that its cursor leads to**, and its cursor leads to the next. -/
theorem call_result {count : Nat} (hcount : count ≠ 0) {row : List Nat}
    (hrow : row.length = count) {cursor : Option ArgumentPtr} (hcursor : CursorAt m list cursor a)
    (hstart : list.address + 4 ≤ a) (hstop : nextArgument m a ≤ dataEnd m list.address)
    (hpkg : IntegerPackage m a row) :
    ∃ next, (queryIntegerValueArray m list count cursor).result = .ok (row, next)
      ∧ CursorAt m list next (nextArgument m a) := by
  obtain ⟨elements, ⟨htype, hto⟩, hints, rfl⟩ := hpkg
  rw [List.length_map] at hrow
  have hgrow := add_le_nextArgument m a
  have hlist : sizeofMethodArgument ≤ dataLength m list.address := by
    unfold dataEnd at hstop
    unfold sizeofMethodArgument
    omega
  obtain ⟨entry, hfound, rfl⟩ := hcursor.found hlist (by omega)
  have hend := hto.integers hints
  have hentry : sizeofMethodArgument ≤ dataLength m entry.address := by
    unfold dataEnd at hend
    unfold sizeofMethodArgument
    omega
  have hnext : nextArgument m entry.address = dataEnd m entry.address := by
    unfold sizeofMethodArgument at hentry
    unfold nextArgument dataEnd
    omega
  obtain ⟨next, hloop, hcursor'⟩ := entryLoop_result hentry none rfl hto hints
  rw [hrow] at hloop
  refine ⟨next, ?_, ?_⟩
  · rw [queryIntegerValueArray, if_neg hcount,
      result_bind_of_ok _ (result_mapError_eq_ok_iff.2 hfound), result_read_bind,
      if_neg (not_not.2 htype)]
    exact hloop
  -- the cursor is an argument of the entry, not the start of an enumeration
  · cases next with
    | none =>
      unfold CursorAt at hcursor'
      unfold dataEnd at hcursor'
      unfold sizeofMethodArgument at hentry
      omega
    | some argument => exact hnext.trans hcursor'

/-- A call at the end of the list. -/
theorem call_ends {count : Nat} (hcount : count ≠ 0) {cursor : Option ArgumentPtr}
    (hcursor : CursorAt m list cursor (dataEnd m list.address)) :
    (queryIntegerValueArray m list count cursor).result = .error .notFound := by
  have hends : ((packageGetNextArgument m list cursor).mapError
      fun _ => AcpiStatus.notFound).result = .error .notFound := by
    rw [mapError, hcursor.ends]
  rw [queryIntegerValueArray, if_neg hcount, result_bind_of_error _ hends]

/-! ## 4. All calls

By induction over the elements: each call gives the first of those that are left, and when none is
left the iterator has no more entries. -/

/-- The calls from a cursor on. -/
theorem repeatCalls_result {count : Nat} (hcount : count ≠ 0) :
    ∀ {entries : List Nat} {rows : List (List Nat)} {a : Nat} {cursor : Option ArgumentPtr}
      (calls : Nat), CursorAt m list cursor a → list.address + 4 ≤ a →
      ArgumentsTo m (dataEnd m list.address) a entries →
      List.Forall₂ (IntegerPackage m) entries rows → (∀ row ∈ rows, row.length = count) →
      repeatCalls m list count calls cursor
        = (rows.take calls, if rows.length < calls then some .notFound else none)
  | _, _, _, _, 0, _, _, _, _, _ => by simp [repeatCalls]
  | _, _, a, cursor, calls + 1, hcursor, _, hto, .nil, _ => by
    have hends := call_ends hcount ((hto : a = _) ▸ hcursor)
    simp [repeatCalls, hends]
  | _, _, a, cursor, calls + 1, hcursor, hstart, hto, .cons hrow hrows, hlength => by
    obtain ⟨rfl, hrest⟩ := hto
    have hgrow := add_le_nextArgument m a
    obtain ⟨next, hcall, hnext⟩ := call_result hcount (hlength _ List.mem_cons_self) hcursor hstart
      hrest.le hrow
    have ih := repeatCalls_result hcount calls hnext (by omega) hrest hrows
      fun row hmem => hlength row (List.mem_cons_of_mem _ hmem)
    simp only [repeatCalls, hcall, ih, List.take_succ_cons, List.length_cons,
      Nat.add_lt_add_iff_right]

/-- **The calls give the elements of the list one by one and in order, and then
`STATUS_NOT_FOUND`**, for every list of packages of `count` integers.  A call leaves its cursor at
the last integer of an element, whose end is the end of the element, so the next call starts at the
next one. -/
theorem enumeration_exact (m : Memory) (list : ArgumentPtr) (count : Nat)
    (rows : List (List Nat)) (hcount : 1 ≤ count)
    (hrows : IntegerRows m list.address count rows) (calls : Nat) :
    repeatCalls m list count calls none
      = (rows.take calls, if rows.length < calls then some .notFound else none) := by
  obtain ⟨entries, helements, hforall, hlength⟩ := hrows
  exact repeatCalls_result (Nat.ne_of_gt hcount) calls rfl (Nat.le_refl _) helements.2 hforall
    hlength

/-- A list of the packages (5, 6) and (7, 8). -/
def twoRows : Memory := fun i =>
  ([3, 0, 40, 0, 3, 0, 16, 0, 0, 0, 4, 0, 5, 0, 0, 0, 0, 0, 4, 0, 6, 0, 0, 0,
    3, 0, 16, 0, 0, 0, 4, 0, 7, 0, 0, 0, 0, 0, 4, 0, 8, 0, 0, 0] : List (BitVec 8)).getD i 0

/-- Three calls for two rows. -/
theorem enumeration_exact_of_two :
    repeatCalls twoRows ⟨0, [], nofun⟩ 2 3 none = ([[5, 6], [7, 8]], some .notFound) := by
  have hfirst : IntegerPackage twoRows 4 [5, 6] :=
    ⟨[8, 16], ⟨by decide, rfl, rfl, rfl⟩, by decide, rfl⟩
  have hsecond : IntegerPackage twoRows 24 [7, 8] :=
    ⟨[28, 36], ⟨by decide, rfl, rfl, rfl⟩, by decide, rfl⟩
  have hrows : IntegerRows twoRows 0 2 [[5, 6], [7, 8]] :=
    ⟨[4, 24], ⟨by decide, rfl, rfl, rfl⟩, .cons hfirst (.cons hsecond .nil), by decide⟩
  exact enumeration_exact twoRows ⟨0, [], nofun⟩ 2 [[5, 6], [7, 8]] (by decide) hrows 3

end WoaRk3576.Acpi
