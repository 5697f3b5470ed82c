/-
# Integer arrays: `AcpiDevicePropertiesQueryIntegerArrayValue`

The function takes the `DataLength` of the first argument in the value for the number of the
integers.  For an element that is an integer this is 4, so an array of four is read and no other
length is; and of a value that is no package of integers two bytes are taken for that field.

`array_exact_iff` says exactly when the function does what it is for, on well-formed properties
(`WellFormedProperties`), whatever the key and the length.

* Where the search for the key leads is settled first: in well-formed properties it reads inside
  and comes to the pairs of the package and nothing else (`searchInside`, `enumerated_mem`), and a
  key has one value (`value_unique`).  So the question is about one value.
* `arrayValue_eq_ok_iff` says what the function looks at in it: two bytes, behind the type of the
  first argument, are compared with the length.  What is copied then is any words that follow.
* For a package of integers these two bytes are 4 (`first_length`).  So of the lengths that such a
  package may have four is the only one that is right, and there the words are the integers
  (`fourIntegers_inside`).
* For any other value the function has to fail, which it does unless the two bytes happen to be the
  length; and the two bytes have to be there.  This is the third case of `ArrayRight`.
-/
import WoaRk3576.Acpi.Packages

namespace WoaRk3576.Acpi

open WoaRk3576.Lib
open Traced

/-! ## 1. Well-formed properties

Properties as firmware is to return them: each entry is a pair of a key and a value, everything
lies as a whole in what holds it, and integers have four bytes.  Nothing is said of the kinds of
the values. -/

section WellFormed

variable (m : Memory)

/-- A string whose zero is among its data. -/
def WellFormedKey (key : Nat) : Prop :=
  argType m key = methodArgumentString
    ∧ ∃ n, strlen m (maxAnsiLength + 1) (key + 4) = some n ∧ n < dataLength m key

/-- A value: if it is a package, its data are arguments, and the integers among them have four
bytes. -/
def WellFormedValue (value : Nat) : Prop :=
  argType m value = methodArgumentPackage → ∃ elements, Elements m value elements
    ∧ ∀ a ∈ elements, argType m a = methodArgumentInteger → dataLength m a = 4

/-- A pair of a key and a value. -/
def WellFormedPair (entry : Nat) : Prop :=
  ∃ key value, Elements m entry [key, value] ∧ WellFormedKey m key ∧ WellFormedValue m value

/-- **A well-formed package of properties**: pairs, in a package that is there as a whole. -/
def WellFormedProperties (pkg : ArgumentPtr) : Prop :=
  pkg.Whole m ∧ ∃ entries, Elements m pkg.address entries
    ∧ ∀ entry ∈ entries, WellFormedPair m entry

end WellFormed

/-! ## 2. What the function is for, and when it does it

The purpose is stated for every value of the key, also for one that is no array: then the function
has to fail.  The condition looks at the value alone, and at the two bytes that the function takes
for a length. -/

section Exact

variable (m : Memory) (pkg : ArgumentPtr) (keyName : List (BitVec 8)) (length : Nat)

/-- The value of the key is a package of `length` integers. -/
def HasIntegers (values : List Nat) : Prop :=
  ∃ v, ValueOf m pkg keyName v ∧ IntegerPackage m v.address values ∧ values.length = length

/-- **The query of an array is exact**: it succeeds for a package of that many integers and for
nothing else, it gives the integers in order and no more, and it reads inside. -/
structure ArrayExact : Prop where
  succeeds : (∃ out, (queryIntegerArrayValue m pkg keyName length).result = .ok out)
    ↔ ∃ values, HasIntegers m pkg keyName length values
  output : ∀ out, (queryIntegerArrayValue m pkg keyName length).result = .ok out →
    HasIntegers m pkg keyName length out ∧ out.length ≤ length
  inside : (queryIntegerArrayValue m pkg keyName length).InBounds

/-- **The kinds of values that the function is right about**: for no integers, anything but an
empty package; for four integers, a package of four; otherwise a value of four bytes or more that
is no package of that many integers, and has not the length in its third and fourth byte. -/
def ArrayRight (v : Nat) : Prop :=
  (length = 0 ∧ ¬ IntegerPackage m v [])
    ∨ (length = 4 ∧ ∃ values, IntegerPackage m v values ∧ values.length = 4)
    ∨ (length ≠ 0 ∧ (¬ ∃ values, IntegerPackage m v values ∧ values.length = length)
      ∧ 4 ≤ dataLength m v ∧ loadLe m (v + 6) 2 ≠ length)

end Exact

variable {m : Memory} {pkg : ArgumentPtr} {keyName : List (BitVec 8)} {length : Nat}

/-! ## 3. What is found in well-formed properties

The search comes to pairs of the package only, so the value of a key is a well-formed value.  This
takes the search out of the question for what follows. -/

/-- The entries that the search comes to are those of the package. -/
theorem enumerated_mem {entries : List Nat} (h : Elements m pkg.address entries)
    {entry : ArgumentPtr} (hentry : Enumerated m pkg keyName entry) :
    entry.address ∈ entries ∧ entry.within = dataExtent m pkg.address :: pkg.within := by
  obtain ⟨hlength, hreach⟩ := hentry
  induction hreach with
  | refl =>
    refine ⟨h.2.first ?_, rfl⟩
    unfold sizeofMethodArgument at hlength
    unfold dataEnd
    omega
  | tail _ hstep ih =>
    obtain ⟨-, rfl, hlt⟩ := hstep
    exact ⟨h.2.next ih.1 hlt, ih.2⟩

/-- A pair in well-formed properties, with pointers to its key and its value. -/
theorem pair_of_enumerated (hwf : WellFormedProperties m pkg) {entry : ArgumentPtr}
    (hentry : Enumerated m pkg keyName entry) :
    entry.Whole m ∧ (entry.inside m 0).Whole m ∧ WellFormedKey m (entry.inside m 0).address
      ∧ ((entry.inside m 0).next m).Whole m
      ∧ WellFormedValue m ((entry.inside m 0).next m).address := by
  obtain ⟨hwhole, entries, hentries, hpairs⟩ := hwf
  obtain ⟨hmem, hwithin⟩ := enumerated_mem hentries hentry
  obtain ⟨key, value, hpair, hkey, hvalue⟩ := hpairs _ hmem
  have hentryWhole := hwhole.element hentries hmem hwithin
  obtain ⟨hkeyAddress, hvalueAddress, -⟩ := hpair.2
  have hkeyMem : (entry.inside m 0).address ∈ [key, value] := by
    rw [ArgumentPtr.address_inside_zero, hkeyAddress]
    exact List.mem_cons_self
  have hvalueMem : ((entry.inside m 0).next m).address ∈ [key, value] := by
    rw [ArgumentPtr.address_next, ArgumentPtr.address_inside_zero, hvalueAddress]
    exact List.mem_cons_of_mem _ List.mem_cons_self
  refine ⟨hentryWhole, hentryWhole.element hpair hkeyMem rfl, ?_,
    hentryWhole.element hpair hvalueMem rfl, ?_⟩
  · rw [ArgumentPtr.address_inside_zero, hkeyAddress]
    exact hkey
  · rw [ArgumentPtr.address_next, ArgumentPtr.address_inside_zero, hvalueAddress]
    exact hvalue

/-- **The search for a key reads inside.** -/
theorem searchInside (hwf : WellFormedProperties m pkg) : SearchInside m pkg keyName := by
  have hfits := hwf.1
  refine ⟨hfits.le (by omega), fun _ _ => ⟨hfits.le (by omega), fun entry hentry => ?_⟩⟩
  obtain ⟨hwhole, hkeyWhole, ⟨-, n, hstrlen, hn⟩, -⟩ := pair_of_enumerated hwf hentry
  refine ⟨hwhole.le (by omega), fun _ => ⟨hwhole.le (by omega), fun _ => ?_⟩⟩
  exact ⟨hkeyWhole.le (by omega), fun _ => ⟨n, hstrlen, hkeyWhole.le (by omega)⟩⟩

/-- **The value of a key** is there as a whole, and well-formed. -/
theorem value_wellFormed (hwf : WellFormedProperties m pkg) {v : ArgumentPtr}
    (hv : ValueOf m pkg keyName v) : v.Whole m ∧ WellFormedValue m v.address := by
  obtain ⟨-, -, entry, hentry, -, rfl, -⟩ := hv
  obtain ⟨-, -, -, hwhole, hvalue⟩ := pair_of_enumerated hwf hentry
  exact ⟨hwhole, hvalue⟩

/-- A key has one value. -/
theorem value_unique {v v' : ArgumentPtr} (hv : ValueOf m pkg keyName v)
    (hv' : ValueOf m pkg keyName v') : v = v' := by
  have hok := queryValue_eq_ok_iff.2 hv
  rw [queryValue_eq_ok_iff.2 hv'] at hok
  exact (Except.ok.inj hok).symm

/-! ## 4. What the function does with a value

The function on one value, without a search: when it succeeds, what it gives, and which bytes it
needs.  All three are compared with the elements of a package of integers, whose headers and values
alternate in memory. -/

/-- The words that the loop copies. -/
def arrayWords (m : Memory) : Nat → Nat → List Nat
  | 0, _ => []
  | n + 1, a => integerAt m a :: arrayWords m n (nextArgument m a)

theorem arrayLoop_result (n : Nat) : ∀ argument : ArgumentPtr,
    (arrayLoop m n argument).result = .ok (arrayWords m n argument.address) := by
  induction n with
  | zero => exact fun _ => rfl
  | succ n ih =>
    intro argument
    rw [arrayLoop, result_read_bind, result_read_bind, result_bind_of_ok _ (ih _)]
    rfl

/-- Where the elements of a package are, there are the words. -/
theorem arrayWords_elements {stop : Nat} : ∀ {a : Nat} {elements : List Nat},
    ArgumentsTo m stop a elements →
      arrayWords m elements.length a = elements.map (integerAt m)
  | _, [], _ => rfl
  | _, _ :: _, h => by
    rw [List.length_cons, arrayWords, List.map_cons, arrayWords_elements h.2, h.1]

theorem withValue_eq_ok_iff {α : Type} {parse : ArgumentPtr → Traced AcpiStatus α} {a : α} :
    (withValue m pkg keyName parse).result = .ok a
      ↔ ∃ v, ValueOf m pkg keyName v ∧ (parse v).result = .ok a := by
  rw [withValue, result_read_bind, result_guard_eq_ok_iff, not_not, result_bind_eq_ok_iff]
  simp only [queryValue_eq_ok_iff]
  constructor
  · exact fun h => h.2
  · rintro ⟨v, hv, ha⟩
    exact ⟨hv.1, v, hv, ha⟩

/-- **The function succeeds when the first argument in the value has the length as its
`DataLength`.** -/
theorem arrayValue_eq_ok_iff {out : List Nat} :
    (queryIntegerArrayValue m pkg keyName length).result = .ok out
      ↔ length ≠ 0 ∧ ∃ v, ValueOf m pkg keyName v ∧ loadLe m (v.address + 6) 2 = length
        ∧ arrayWords m length (v.address + 4) = out := by
  rw [queryIntegerArrayValue, result_guard_eq_ok_iff, withValue_eq_ok_iff]
  refine and_congr_right fun _ => exists_congr fun v => and_congr_right fun _ => ?_
  rw [result_read_bind, result_guard_eq_ok_iff, not_not, arrayLoop_result, Except.ok.injEq]
  refine and_congr_right fun hlength => ?_
  rw [hlength]
  rfl

theorem queryIntegerArrayValue_inBounds_iff :
    (queryIntegerArrayValue m pkg keyName length).InBounds
      ↔ (length ≠ 0 → SearchInside m pkg keyName
        ∧ ∀ v, ValueOf m pkg keyName v → ArrayInside m length v) := by
  rw [queryIntegerArrayValue, inBounds_guard, withValue_inBounds_iff]
  simp only [arrayValue_inBounds_iff]

/-- The header of the first argument is inside a value of four bytes. -/
theorem header_fits_iff {v : ArgumentPtr} (hv : v.Whole m) :
    (v.inside m 0).Fits 4 ↔ 4 ≤ dataLength m v.address := by
  unfold ArgumentPtr.Fits
  rw [ArgumentPtr.within_inside, List.forall_mem_cons, ArgumentPtr.address_inside_zero]
  unfold dataExtent
  dsimp only
  constructor
  · rintro ⟨hfirst, -⟩
    omega
  · intro h
    refine ⟨by omega, fun e he => ?_⟩
    have hve := hv e he
    omega

/-- A package of integers that is not empty has 4 in its third and fourth byte. -/
theorem first_length {v : Nat} {values : List Nat} (hpkg : IntegerPackage m v values)
    (hne : values.length ≠ 0) : loadLe m (v + 6) 2 = 4 := by
  obtain ⟨elements, helements, hints, rfl⟩ := hpkg
  rw [List.length_map] at hne
  have hlt : v + 4 < dataEnd m v := by
    rw [helements.2.integers hints]
    omega
  exact (hints _ (helements.2.first hlt)).2

/-- **Four integers are read inside.** -/
theorem fourIntegers_inside {v : ArgumentPtr} (hv : v.Whole m) {values : List Nat}
    (hpkg : IntegerPackage m v.address values) (hfour : values.length = 4) :
    ArrayInside m 4 v ∧ arrayWords m 4 (v.address + 4) = values := by
  obtain ⟨elements, helements, hints, rfl⟩ := hpkg
  rw [List.length_map] at hfour
  have hwords := arrayWords_elements helements.2
  rw [hfour] at hwords
  refine ⟨⟨?_, fun _ i hi => ?_⟩, hwords⟩
  · rw [header_fits_iff hv]
    have hend := helements.2.integers hints
    unfold dataEnd at hend
    omega
  · obtain ⟨haddress, hwithin⟩ := ArgumentPtr.iterate_next (m := m) (v.inside m 0) i
    have hmem : ((ArgumentPtr.next m)^[i] (v.inside m 0)).address ∈ elements := by
      have hi' : i < elements.length := by omega
      rw [haddress, ArgumentPtr.address_inside_zero, helements.2.iterate hi']
      exact List.getElem_mem hi'
    have hwhole := hv.element helements hmem hwithin
    have hlength := (hints _ hmem).2
    unfold ArgumentPtr.Whole at hwhole
    rwa [hlength] at hwhole

/-! ## 5. The query of an array

The two are put together, and two concrete arrays in one package show a length that is read and one
that is not. -/

/-- **The query of an array is exact exactly when it is right about the value of the key**, in all
well-formed properties; without a value it always is.  The function compares two bytes of the value
with the length, which for a package of integers are 4, so of all arrays it can only be right about
those of four. -/
theorem array_exact_iff (m : Memory) (pkg : ArgumentPtr) (keyName : List (BitVec 8))
    (length : Nat) (hwf : WellFormedProperties m pkg) :
    ArrayExact m pkg keyName length
      ↔ ∀ v, ValueOf m pkg keyName v → ArrayRight m length v.address := by
  constructor
  · intro h v hv
    by_cases hzero : length = 0
    · refine .inl ⟨hzero, fun hpkg => ?_⟩
      obtain ⟨out, hout⟩ := h.succeeds.2 ⟨[], v, hv, hpkg, hzero.symm⟩
      exact (arrayValue_eq_ok_iff.1 hout).1 hzero
    · by_cases hints : ∃ values, IntegerPackage m v.address values ∧ values.length = length
      · obtain ⟨values, hpkg, hlength⟩ := hints
        obtain ⟨out, hout⟩ := h.succeeds.2 ⟨values, v, hv, hpkg, hlength⟩
        obtain ⟨-, v', hv', hfield, -⟩ := arrayValue_eq_ok_iff.1 hout
        rw [← value_unique hv hv', first_length hpkg (hlength ▸ hzero)] at hfield
        exact .inr (.inl ⟨hfield.symm, values, hpkg, hlength.trans hfield.symm⟩)
      · have hinside := (queryIntegerArrayValue_inBounds_iff.1 h.inside hzero).2 v hv
        refine .inr (.inr ⟨hzero, hints, (header_fits_iff (value_wellFormed hwf hv).1).1 hinside.1,
          fun hfield => ?_⟩)
        have hout := arrayValue_eq_ok_iff.2 ⟨hzero, v, hv, hfield, rfl⟩
        obtain ⟨⟨v', hv', hpkg, hlength⟩, -⟩ := h.output _ hout
        rw [← value_unique hv hv'] at hpkg
        exact hints ⟨_, hpkg, hlength⟩
  · intro h
    have hright : ∀ v, ValueOf m pkg keyName v → length ≠ 0 →
        (loadLe m (v.address + 6) 2 = length →
          HasIntegers m pkg keyName length (arrayWords m length (v.address + 4)))
        ∧ ArrayInside m length v
        ∧ ∀ values, IntegerPackage m v.address values → values.length = length →
          loadLe m (v.address + 6) 2 = length := by
      intro v hv hne
      have hwhole := (value_wellFormed hwf hv).1
      rcases h v hv with ⟨hzero, -⟩ | ⟨rfl, values, hpkg, hfour⟩ | ⟨-, hnot, hbytes, hfield⟩
      · exact absurd hzero hne
      · obtain ⟨hinside, hwords⟩ := fourIntegers_inside hwhole hpkg hfour
        exact ⟨fun _ => ⟨v, hv, hwords ▸ hpkg, hwords ▸ hfour⟩, hinside,
          fun _ _ _ => first_length hpkg (hfour ▸ hne)⟩
      · exact ⟨fun heq => absurd heq hfield,
          ⟨(header_fits_iff hwhole).2 hbytes, fun heq => absurd heq hfield⟩,
          fun values hpkg hlength => absurd ⟨values, hpkg, hlength⟩ hnot⟩
    refine ⟨⟨?_, ?_⟩, ?_, ?_⟩
    · rintro ⟨out, hout⟩
      obtain ⟨hne, v, hv, hfield, -⟩ := arrayValue_eq_ok_iff.1 hout
      exact ⟨_, (hright v hv hne).1 hfield⟩
    · rintro ⟨values, v, hv, hpkg, hlength⟩
      by_cases hzero : length = 0
      · rcases h v hv with ⟨-, hempty⟩ | ⟨hfour, -⟩ | ⟨hne, -⟩
        · rw [hzero] at hlength
          rw [List.eq_nil_of_length_eq_zero hlength] at hpkg
          exact absurd hpkg hempty
        · exact absurd (hfour.symm.trans hzero) (by decide)
        · exact absurd hzero hne
      · exact ⟨_, arrayValue_eq_ok_iff.2
          ⟨hzero, v, hv, (hright v hv hzero).2.2 values hpkg hlength, rfl⟩⟩
    · intro out hout
      obtain ⟨hne, v, hv, hfield, rfl⟩ := arrayValue_eq_ok_iff.1 hout
      have hints := (hright v hv hne).1 hfield
      obtain ⟨-, -, -, hlength⟩ := id hints
      exact ⟨hints, hlength.le⟩
    · exact queryIntegerArrayValue_inBounds_iff.2 fun hne =>
        ⟨searchInside hwf, fun v hv => (hright v hv hne).2.1⟩

/-- Properties with two arrays: under "A" the integers 5 and 6, under "B" 1, 2, 3 and 4. -/
def twoArrays : Memory := fun i =>
  ([3, 0, 80, 0, 3, 0, 28, 0, 1, 0, 2, 0, 0x41, 0, 0, 0, 3, 0, 16, 0,
    0, 0, 4, 0, 5, 0, 0, 0, 0, 0, 4, 0, 6, 0, 0, 0,
    3, 0, 44, 0, 1, 0, 2, 0, 0x42, 0, 0, 0, 3, 0, 32, 0,
    0, 0, 4, 0, 1, 0, 0, 0, 0, 0, 4, 0, 2, 0, 0, 0,
    0, 0, 4, 0, 3, 0, 0, 0, 0, 0, 4, 0, 4, 0, 0, 0] : List (BitVec 8)).getD i 0

def twoArraysPkg : ArgumentPtr where
  address := 0
  within := [⟨0, 84⟩]
  starts := by
    intro e he
    rw [List.mem_singleton.1 he]

theorem twoArrays_wellFormed : WellFormedProperties twoArrays twoArraysPkg := by
  have hvalue : ∀ (value : Nat) (elements : List Nat), Elements twoArrays value elements →
      (∀ a ∈ elements, dataLength twoArrays a = 4) → WellFormedValue twoArrays value :=
    fun _ elements h hfour _ => ⟨elements, h, fun a ha _ => hfour a ha⟩
  refine ⟨?_, [4, 36], ⟨by decide, rfl, rfl, rfl⟩, ?_⟩
  · intro e he
    rw [List.mem_singleton.1 he]
    decide
  · intro entry hentry
    rcases List.mem_cons.1 hentry with rfl | hentry
    · refine ⟨8, 16, ⟨by decide, rfl, rfl, rfl⟩, ⟨by decide, 1, rfl, by decide⟩, ?_⟩
      exact hvalue 16 [20, 28] ⟨by decide, rfl, rfl, rfl⟩ (by decide)
    · rw [List.mem_singleton.1 hentry]
      refine ⟨40, 48, ⟨by decide, rfl, rfl, rfl⟩, ⟨by decide, 1, rfl, by decide⟩, ?_⟩
      exact hvalue 48 [52, 60, 68, 76] ⟨by decide, rfl, rfl, rfl, rfl, rfl⟩ (by decide)

/-- The array of four is read. -/
theorem array_exact_of_four : ArrayExact twoArrays twoArraysPkg [0x42] 4 := by
  refine (array_exact_iff twoArrays twoArraysPkg [0x42] 4 twoArrays_wellFormed).2 fun v hv => ?_
  have haddress : v.address = 48 := by
    have hok := queryValue_eq_ok_iff.2 hv
    exact (congrArg ArgumentPtr.address (Except.ok.inj hok)).symm
  rw [haddress]
  exact .inr (.inl ⟨rfl, [1, 2, 3, 4], ⟨[52, 60, 68, 76], ⟨by decide, rfl, rfl, rfl, rfl, rfl⟩,
    by decide, rfl⟩, rfl⟩)

/-- **The array of two is not**, in properties that are well-formed. -/
theorem two_integers_refused :
    WellFormedProperties twoArrays twoArraysPkg ∧ ¬ ArrayExact twoArrays twoArraysPkg [0x41] 2 := by
  refine ⟨twoArrays_wellFormed, fun h => ?_⟩
  have hints : HasIntegers twoArrays twoArraysPkg [0x41] 2 [5, 6] :=
    ⟨_, queryValue_eq_ok_iff.1 rfl, ⟨[20, 28], ⟨by decide, rfl, rfl, rfl⟩, by decide, rfl⟩, rfl⟩
  obtain ⟨out, hout⟩ := h.succeeds.2 ⟨_, hints⟩
  exact nomatch hout

end WoaRk3576.Acpi
