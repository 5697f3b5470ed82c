/-
# What the device properties functions read

The iterators of acpiutil.cpp compare the start of an argument with the end of its package, and
what is read of the argument behind its start is compared with nothing: its header, its data, and
the characters of a key up to a zero somewhere.  `DsdInside` and `QueryInside` say what the output
buffer is to be like for all reads of the parse and of a query to stay inside the buffer and the
packages around each argument, and `deviceProperties_inBounds` that this is exact.  All
enumerations end on every buffer.

The conditions are about types and lengths in the buffer; no read occurs in them.  They follow the
order in which the code comes to know them, as what is read later may depend on what was read
before:

* the parse reads the GUID if there is an argument that starts, whatever the argument's length, and
  the type behind it if the GUID is that of device properties (`parse_inBounds_iff`);
* the search for a key reads an entry if it comes to it, and it comes to the entries behind those
  with other keys (`Enumerated`).  `queryVisit_inBounds_iff` goes along the entries by
  `entries_induction`: what holds of all entries from one on holds of it and of those from the next
  one on;
* a query reads of the value that was found what its type leads to, so it is asked of the value of
  the key only (`ValueOf`, a relation that `queryVisit_eq_ok_iff` ties to the search).

A key without a zero is read up to the length of the longest string, and a package has no more
bytes than that, so such a scan is never inside (`initAnsiString_inBounds_iff`).  Each entry takes
the search on by a header and a value at least; the bound on the entries is therefore never what
ends it (`queryVisit_finishes`), and that it is not is part of the result.
-/
import WoaRk3576.Acpi.DeviceProperties
import Mathlib.Logic.Relation

namespace WoaRk3576.Acpi

open WoaRk3576.Lib

/-! ## 1. Buffers that are read inside

What a buffer has to be like, in terms of the types and lengths that stand in it.  Each definition
follows one function of the code as far as that function gets, and asks only for the bytes it comes
to. -/

section Inside

variable (m : Memory)

/-- The GUID argument of a `_DSD`: the first argument, with the header that the parse asks for. -/
def HasGuidArgument : Prop :=
  outputCount m = 2 ∧ outputArgument + sizeofMethodArgument ≤ outputLength m
    ∧ argType m outputArgument = methodArgumentBuffer ∧ dataLength m outputArgument = 16

/-- The GUID is that of device properties, and there is an argument behind it. -/
def HasSecondArgument : Prop :=
  HasGuidArgument m ∧ argData m outputArgument = devicePropertiesGuid ∧ 32 < outputLength m

/-- **A buffer that the parse reads inside**: its header is there, the GUID if there is an argument
for it, and the type of the argument behind the GUID if that argument starts. -/
structure DsdInside : Prop where
  header : outputArgument ≤ outputLength m
  guid : HasGuidArgument m → 32 ≤ outputLength m
  type : HasSecondArgument m → 34 ≤ outputLength m

/-- The package of the properties. -/
def propertiesPkg : ArgumentPtr := (outputFirst m).next m

/-- The parse finds the package. -/
def HasProperties : Prop :=
  HasSecondArgument m ∧ argType m (propertiesPkg m).address = methodArgumentPackage

/-- The key of an entry has a zero, and ends with it inside. -/
def KeyInside (key : ArgumentPtr) : Prop :=
  ∃ n, strlen m (maxAnsiLength + 1) (key.address + 4) = some n ∧ key.Fits (4 + (n + 1))

/-- **An entry that is read inside**, as far as its types and lengths lead. -/
def EntryInside (entry : ArgumentPtr) : Prop :=
  entry.Fits 2 ∧ (argType m entry.address = methodArgumentPackage →
    entry.Fits 4 ∧ (sizeofMethodArgument ≤ dataLength m entry.address →
      (entry.inside m 0).Fits 2
        ∧ (argType m (entry.inside m 0).address = methodArgumentString →
          KeyInside m (entry.inside m 0))))

/-- The entry is a package that starts with the string `name`. -/
def HasKey (entry : ArgumentPtr) (name : List (BitVec 8)) : Prop :=
  argType m entry.address = methodArgumentPackage
    ∧ sizeofMethodArgument ≤ dataLength m entry.address
    ∧ argType m (entry.inside m 0).address = methodArgumentString
    ∧ ∃ n, strlen m (maxAnsiLength + 1) ((entry.inside m 0).address + 4) = some n
      ∧ load m ((entry.inside m 0).address + 4) n = name

section Package

variable (pkg : ArgumentPtr) (keyName : List (BitVec 8))

/-- The enumeration goes on from an entry with another key to the next entry, if that starts inside
the package. -/
def Follows (entry entry' : ArgumentPtr) : Prop :=
  (∃ name, HasKey m entry name ∧ name ≠ keyName) ∧ entry' = entry.next m
    ∧ entry'.address < dataEnd m pkg.address

/-- The entries that the enumeration comes to. -/
def Enumerated (entry : ArgumentPtr) : Prop :=
  sizeofMethodArgument ≤ dataLength m pkg.address
    ∧ Relation.ReflTransGen (Follows m pkg keyName) (pkg.inside m 0) entry

/-- **A list of properties that the search for a key reads inside.** -/
def SearchInside : Prop :=
  pkg.Fits 2 ∧ (argType m pkg.address = methodArgumentPackage → keyName.length ≤ maxAnsiLength →
    pkg.Fits 4 ∧ ∀ entry, Enumerated m pkg keyName entry → EntryInside m entry)

/-- The value behind the first entry with the key. -/
def ValueOf (value : ArgumentPtr) : Prop :=
  argType m pkg.address = methodArgumentPackage ∧ keyName.length ≤ maxAnsiLength
    ∧ ∃ entry, Enumerated m pkg keyName entry ∧ HasKey m entry keyName
      ∧ value = (entry.inside m 0).next m ∧ value.address < dataEnd m entry.address

end Package

/-- An integer, if it is one. -/
def IntegerInside (value : ArgumentPtr) : Prop :=
  value.Fits 2 ∧ (argType m value.address = methodArgumentInteger →
    value.Fits 4 ∧ (dataLength m value.address = 4 → value.Fits 8))

/-- A string, if it is one and not too long. -/
def StringInside (maxLength : Nat) (value : ArgumentPtr) : Prop :=
  value.Fits 2 ∧ (argType m value.address = methodArgumentString →
    value.Fits 4 ∧ (dataLength m value.address ≤ maxLength →
      value.Fits (4 + dataLength m value.address)))

/-- The arguments in a value, as many as the first of them has data bytes. -/
def ArrayInside (length : Nat) (value : ArgumentPtr) : Prop :=
  (value.inside m 0).Fits 4 ∧ (dataLength m (value.inside m 0).address = length →
    ∀ i < length, ((ArgumentPtr.next m)^[i] (value.inside m 0)).Fits 8)

/-- An integer of four bytes with another argument behind it. -/
def IntegerBefore (entry argument : ArgumentPtr) : Prop :=
  argType m argument.address = methodArgumentInteger ∧ dataLength m argument.address = 4
    ∧ nextArgument m argument.address < dataEnd m entry.address

/-- The first `count` arguments of an entry, as far as they are integers. -/
def IntegersInside (count : Nat) (entry : ArgumentPtr) : Prop :=
  entry.Fits 2 ∧ (argType m entry.address = methodArgumentPackage →
    entry.Fits 4 ∧ (sizeofMethodArgument ≤ dataLength m entry.address →
      ∀ i < count, (∀ j < i, IntegerBefore m entry ((ArgumentPtr.next m)^[j] (entry.inside m 0))) →
        IntegerInside m ((ArgumentPtr.next m)^[i] (entry.inside m 0))))

/-- A list of packages of integers: the first of them, or the one behind the argument that an
earlier call has left. -/
def IntegerListInside (count : Nat) (offset : Option Nat) (list : ArgumentPtr) : Prop :=
  list.Fits 4 ∧ (sizeofMethodArgument ≤ dataLength m list.address →
    match offset with
    | none => IntegersInside m count (list.inside m 0)
    | some offset =>
      (list.inside m offset).Fits 4
        ∧ (nextArgument m (list.inside m offset).address < dataEnd m list.address →
          IntegersInside m count ((list.inside m offset).next m)))

end Inside

/-! ## 2. Queries

All entry points of the library are taken together, so that one theorem speaks of all of them.  A
query after the parse has as its list either the package of the properties or a value found in it,
since this is how the drivers go down to a nested package. -/

/-- **A query of a client**, after the parse.  The list of the last one is the package of the
properties or a value in it, and `offset` is where in the list an earlier call has stopped. -/
inductive Query
  | value (keyName : List (BitVec 8))
  | integer (keyName : List (BitVec 8))
  | string (keyName : List (BitVec 8)) (maxLength : Nat)
  | integerArray (keyName : List (BitVec 8)) (length : Nat)
  | integerValueArray (list : Option (List (BitVec 8))) (count : Nat) (offset : Option Nat)

/-- The call, but for the value that it gives. -/
def Query.run (m : Memory) (pkg : ArgumentPtr) : Query → Traced AcpiStatus Unit
  | .value keyName => do
    let _ ← queryValue m pkg keyName
    pure ()
  | .integer keyName => do
    let _ ← queryIntegerValue m pkg keyName
    pure ()
  | .string keyName maxLength => do
    let _ ← queryStringValue m pkg keyName maxLength
    pure ()
  | .integerArray keyName length => do
    let _ ← queryIntegerArrayValue m pkg keyName length
    pure ()
  | .integerValueArray none count offset => do
    let _ ← queryIntegerValueArray m pkg count (offset.map (pkg.inside m))
    pure ()
  | .integerValueArray (some keyName) count offset => do
    let list ← queryValue m pkg keyName
    let _ ← queryIntegerValueArray m list count (offset.map (list.inside m))
    pure ()

/-- The parse and a query. -/
def deviceProperties (m : Memory) (q : Query) : Traced AcpiStatus Unit := do
  let pkg ← parseDsdAsDeviceProperties m
  q.run m pkg

/-- **A package that a query reads inside.** -/
def QueryInside (m : Memory) (pkg : ArgumentPtr) : Query → Prop
  | .value keyName => SearchInside m pkg keyName
  | .integer keyName =>
    SearchInside m pkg keyName ∧ ∀ v, ValueOf m pkg keyName v → IntegerInside m v
  | .string keyName maxLength =>
    SearchInside m pkg keyName ∧ ∀ v, ValueOf m pkg keyName v → StringInside m maxLength v
  | .integerArray keyName length =>
    length ≠ 0 → SearchInside m pkg keyName
      ∧ ∀ v, ValueOf m pkg keyName v → ArrayInside m length v
  | .integerValueArray none count offset =>
    count ≠ 0 → IntegerListInside m count offset pkg
  | .integerValueArray (some keyName) count offset =>
    SearchInside m pkg keyName
      ∧ ∀ v, ValueOf m pkg keyName v → count ≠ 0 → IntegerListInside m count offset v

/-! ## 3. Iterators and values

One lemma for each function that takes no list: its reads are inside exactly if a certain number of
bytes of the argument are.  The scan of a key is the only one without a bound of its own, and here
the lemma says that the zero has to lie in the package. -/

open Traced

theorem ArgumentPtr.type_inBounds_iff {p : ArgumentPtr} : (p.bytes 0 2).InBounds ↔ p.Fits 2 :=
  bytes_inBounds_iff (by decide)

theorem ArgumentPtr.length_inBounds_iff {p : ArgumentPtr} : (p.bytes 2 2).InBounds ↔ p.Fits 4 :=
  bytes_inBounds_iff (by decide)

theorem ArgumentPtr.argument_inBounds_iff {p : ArgumentPtr} :
    (p.bytes 4 4).InBounds ↔ p.Fits 8 :=
  bytes_inBounds_iff (by decide)

section Iterators

variable {m : Memory} {pkg p argument : ArgumentPtr}

theorem packageFirst_inBounds_iff :
    (packageGetNextArgument m pkg none).InBounds ↔ pkg.Fits 4 := by
  simp [packageGetNextArgument, pkg.length_inBounds_iff]

theorem packageFirst_eq_ok_iff : (packageGetNextArgument m pkg none).result = .ok p
    ↔ sizeofMethodArgument ≤ dataLength m pkg.address ∧ p = pkg.inside m 0 := by
  rw [eq_comm (a := p)]
  simp [packageGetNextArgument]

theorem packageNext_inBounds_iff : (packageGetNextArgument m pkg (some argument)).InBounds
    ↔ pkg.Fits 4 ∧ (sizeofMethodArgument ≤ dataLength m pkg.address → argument.Fits 4) := by
  simp [packageGetNextArgument, ArgumentPtr.length_inBounds_iff]

theorem packageNext_eq_ok_iff : (packageGetNextArgument m pkg (some argument)).result = .ok p
    ↔ sizeofMethodArgument ≤ dataLength m pkg.address
      ∧ nextArgument m argument.address < dataEnd m pkg.address ∧ p = argument.next m := by
  rw [eq_comm (a := p)]
  simp [packageGetNextArgument]

end Iterators

section Values

variable {m : Memory} {v : ArgumentPtr}

theorem argumentParseInteger_inBounds_iff :
    (argumentParseInteger m v).InBounds ↔ IntegerInside m v := by
  simp only [argumentParseInteger, IntegerInside, inBounds_read_bind, inBounds_guard,
    inBounds_pure, v.type_inBounds_iff, v.length_inBounds_iff, v.argument_inBounds_iff, not_not,
    and_true]

theorem argumentParseInteger_eq_ok {n : Nat} (h : (argumentParseInteger m v).result = .ok n) :
    argType m v.address = methodArgumentInteger ∧ dataLength m v.address = 4 := by
  simp only [argumentParseInteger, result_read_bind, result_guard_eq_ok_iff, not_not] at h
  exact ⟨h.1, h.2.1⟩

theorem argumentParseString_inBounds_iff {maxLength : Nat} :
    (argumentParseString m v maxLength).InBounds ↔ StringInside m maxLength v := by
  have hdata : v.Fits 4 → ((v.bytes 4 (dataLength m v.address)).InBounds
      ↔ v.Fits (4 + dataLength m v.address)) := by
    intro hheader
    by_cases hzero : dataLength m v.address = 0
    · have hbytes : v.Fits (4 + dataLength m v.address) := by rwa [hzero]
      exact ⟨fun _ => hbytes, fun _ => ArgumentPtr.bytes_inBounds hbytes⟩
    · exact ArgumentPtr.bytes_inBounds_iff hzero
  simp only [argumentParseString, StringInside, inBounds_read_bind, inBounds_guard, inBounds_pure,
    v.type_inBounds_iff, v.length_inBounds_iff, not_not, Nat.not_lt, and_true]
  refine and_congr_right fun _ => imp_congr_right fun _ => and_congr_right fun hheader => ?_
  rw [hdata hheader]

theorem initAnsiString_eq_ok_iff {name : List (BitVec 8)} :
    (initAnsiString m v).result = .ok name
      ↔ ∃ n, strlen m (maxAnsiLength + 1) (v.address + 4) = some n
        ∧ load m (v.address + 4) n = name := by
  unfold initAnsiString
  cases strlen m (maxAnsiLength + 1) (v.address + 4) with
  | none => simp
  | some n => simp

/-- A scan without an end leaves the package: this has no more bytes than a string may have. -/
theorem initAnsiString_inBounds_iff {entry : ArgumentPtr} :
    (initAnsiString m (entry.inside m 0)).InBounds ↔ KeyInside m (entry.inside m 0) := by
  unfold initAnsiString KeyInside
  cases hstrlen : strlen m (maxAnsiLength + 1) ((entry.inside m 0).address + 4) with
  | none =>
    have hleaves : ¬ (entry.inside m 0).Fits (4 + (maxAnsiLength + 1)) := by
      intro hfits
      have hend := hfits _ List.mem_cons_self
      have hlength : dataLength m entry.address < 256 ^ 2 := loadLe_lt m _ 2
      unfold ArgumentPtr.inside dataExtent maxAnsiLength at hend
      dsimp only at hend
      omega
    simp only [inBounds_read_bind, ArgumentPtr.bytes_inBounds_iff (Nat.succ_ne_zero maxAnsiLength)]
    refine ⟨fun h => absurd h.1 hleaves, ?_⟩
    rintro ⟨n, hn, -⟩
    cases hn
  | some n =>
    simp only [inBounds_read_bind, ArgumentPtr.bytes_inBounds_iff (Nat.succ_ne_zero n),
      inBounds_pure, and_true, Option.some.injEq, exists_eq_left']

end Values

/-! ## 4. One entry

An entry has three ends: it has another key, it has the key, or it is malformed.  The lemmas tell
the first two apart by what stands in memory, so the search can go on without mentioning reads. -/

section Entry

variable {m : Memory} {entry : ArgumentPtr} {keyName : List (BitVec 8)}

theorem queryEntry_inBounds_iff :
    (queryEntry m entry keyName).InBounds ↔ EntryInside m entry := by
  have hvalue : ∀ name : List (BitVec 8), entry.Fits 4 → KeyInside m (entry.inside m 0) →
      (if name ≠ keyName then pure none
        else do
          let value ← (packageGetNextArgument m entry (some (entry.inside m 0))).mapError
            fun _ => .incorrectArgumentCount
          pure (some value) : Traced AcpiStatus (Option ArgumentPtr)).InBounds := by
    rintro name hheader ⟨n, -, hkey⟩
    split
    · exact inBounds_pure _
    · rw [inBounds_bind, inBounds_mapError, packageNext_inBounds_iff]
      exact ⟨⟨hheader, fun _ => hkey.le (by omega)⟩, fun _ _ => inBounds_pure _⟩
  unfold EntryInside
  rw [queryEntry, inBounds_read_bind, entry.type_inBounds_iff]
  refine and_congr_right fun _ => ?_
  rw [inBounds_guard, not_not]
  refine imp_congr_right fun _ => ?_
  rw [inBounds_bind, inBounds_mapError, packageFirst_inBounds_iff]
  refine and_congr_right fun hheader => ?_
  simp only [result_mapError_eq_ok_iff, packageFirst_eq_ok_iff]
  constructor
  · intro h hlength
    have hkey := h _ ⟨hlength, rfl⟩
    rw [inBounds_read_bind, ArgumentPtr.type_inBounds_iff, inBounds_guard, not_not] at hkey
    exact ⟨hkey.1, fun hstring =>
      initAnsiString_inBounds_iff.mp (inBounds_bind.mp (hkey.2 hstring)).1⟩
  · rintro h key ⟨hlength, rfl⟩
    obtain ⟨htype, hkey⟩ := h hlength
    rw [inBounds_read_bind, ArgumentPtr.type_inBounds_iff, inBounds_guard, not_not]
    exact ⟨htype, fun hstring => inBounds_bind.mpr
      ⟨initAnsiString_inBounds_iff.mpr (hkey hstring), fun name _ =>
        hvalue name hheader (hkey hstring)⟩⟩

theorem hasKey_iff {name : List (BitVec 8)} : HasKey m entry name
    ↔ argType m entry.address = methodArgumentPackage
      ∧ sizeofMethodArgument ≤ dataLength m entry.address
      ∧ argType m (entry.inside m 0).address = methodArgumentString
      ∧ (initAnsiString m (entry.inside m 0)).result = .ok name := by
  rw [initAnsiString_eq_ok_iff, HasKey]

/-- An entry with another key is passed over. -/
theorem queryEntry_none_iff : (queryEntry m entry keyName).result = .ok none
    ↔ ∃ name, HasKey m entry name ∧ name ≠ keyName := by
  simp only [hasKey_iff, queryEntry, result_read_bind, result_guard_eq_ok_iff, not_not,
    result_bind_eq_ok_iff, result_mapError_eq_ok_iff, packageFirst_eq_ok_iff]
  constructor
  · rintro ⟨htype, key, ⟨hlength, rfl⟩, hstring, name, hname, hnone⟩
    refine ⟨name, ⟨htype, hlength, hstring, hname⟩, fun heq => ?_⟩
    rw [if_neg (not_not.mpr heq), result_bind_eq_ok_iff] at hnone
    obtain ⟨v, -, hv⟩ := hnone
    cases hv
  · rintro ⟨name, ⟨htype, hlength, hstring, hname⟩, hne⟩
    refine ⟨htype, _, ⟨hlength, rfl⟩, hstring, name, hname, ?_⟩
    rw [if_pos hne]
    rfl

/-- An entry with the key gives its value, if there is an argument behind the key. -/
theorem queryEntry_some_iff {v : ArgumentPtr} : (queryEntry m entry keyName).result = .ok (some v)
    ↔ HasKey m entry keyName ∧ v = (entry.inside m 0).next m
      ∧ v.address < dataEnd m entry.address := by
  simp only [hasKey_iff, queryEntry, result_read_bind, result_guard_eq_ok_iff, not_not,
    result_bind_eq_ok_iff, result_mapError_eq_ok_iff, packageFirst_eq_ok_iff]
  constructor
  · rintro ⟨htype, key, ⟨hlength, rfl⟩, hstring, name, hname, hsome⟩
    by_cases heq : name = keyName
    · rw [if_neg (not_not.mpr heq), result_bind_eq_ok_iff] at hsome
      obtain ⟨v', hv', hv⟩ := hsome
      rw [result_mapError_eq_ok_iff, packageNext_eq_ok_iff] at hv'
      obtain ⟨-, hlt, rfl⟩ := hv'
      rw [result_pure, Except.ok.injEq, Option.some.injEq] at hv
      rw [← hv, ← heq]
      exact ⟨⟨htype, hlength, hstring, hname⟩, rfl, hlt⟩
    · rw [if_pos heq] at hsome
      cases hsome
  · rintro ⟨⟨htype, hlength, hstring, hname⟩, rfl, hlt⟩
    refine ⟨htype, _, ⟨hlength, rfl⟩, hstring, keyName, hname, ?_⟩
    rw [if_neg (not_not.mpr rfl), result_bind_eq_ok_iff]
    refine ⟨_, ?_, rfl⟩
    rw [result_mapError_eq_ok_iff, packageNext_eq_ok_iff]
    exact ⟨hlength, hlt, rfl⟩

end Entry

/-! ## 5. The search for a key

The walk over the entries is taken apart once, in `entries_induction`; the three lemmas about the
search, its reads, its result and its entries, are then one step each.  `Follows` is the walk
without its reads, and what holds for all entries it comes to is what has to hold for the search. -/

/-- **The rule of a walk over entries**: each takes it on by a header and a value at least, so that
a bound that covers the distance to the end suffices. -/
theorem entries_induction (m : Memory) {stop : Nat} {P : Nat → ArgumentPtr → Prop}
    (hstep : ∀ fuel entry, ((entry.next m).address < stop → P fuel (entry.next m)) →
      P (fuel + 1) entry) (fuel : Nat) :
    ∀ entry : ArgumentPtr, entry.address < stop → stop - entry.address ≤ fuel → P fuel entry := by
  induction fuel with
  | zero =>
    intro entry hlt hfuel
    omega
  | succ fuel ih =>
    intro entry hlt hfuel
    refine hstep fuel entry fun hin => ih _ hin ?_
    have hgrow : entry.address + 8 ≤ (entry.next m).address :=
      add_le_nextArgument m entry.address
    omega

section Search

variable {m : Memory} {pkg : ArgumentPtr} {keyName : List (BitVec 8)}

/-- The `for (;;)` behind its first statement. -/
def queryVisit (m : Memory) (pkg : ArgumentPtr) (keyName : List (BitVec 8)) (fuel : Nat)
    (entry : ArgumentPtr) : Traced AcpiStatus ArgumentPtr := do
  let found ← queryEntry m entry keyName
  match found with
  | some value => pure value
  | none => queryLoop m pkg keyName fuel (some entry)

theorem queryLoop_succ (fuel : Nat) (currentListEntry : Option ArgumentPtr) :
    queryLoop m pkg keyName (fuel + 1) currentListEntry
      = (packageGetNextArgument m pkg currentListEntry).mapError (fun _ => .notFound)
        >>= queryVisit m pkg keyName fuel :=
  rfl

/-- What holds of all entries from one on holds of it and of those from the next one on. -/
theorem forall_follows_iff {P : ArgumentPtr → Prop} {entry : ArgumentPtr} :
    (∀ e, Relation.ReflTransGen (Follows m pkg keyName) entry e → P e)
      ↔ P entry ∧ ∀ next, Follows m pkg keyName entry next →
        ∀ e, Relation.ReflTransGen (Follows m pkg keyName) next e → P e := by
  constructor
  · exact fun h => ⟨h entry .refl, fun next hnext e he => h e (.head hnext he)⟩
  · rintro ⟨hentry, hrest⟩ e he
    rcases Relation.ReflTransGen.cases_head he with rfl | ⟨next, hnext, he⟩
    · exact hentry
    · exact hrest next hnext e he

theorem exists_follows_iff {P : ArgumentPtr → Prop} {entry : ArgumentPtr} :
    (∃ e, Relation.ReflTransGen (Follows m pkg keyName) entry e ∧ P e)
      ↔ P entry ∨ ∃ next, Follows m pkg keyName entry next
        ∧ ∃ e, Relation.ReflTransGen (Follows m pkg keyName) next e ∧ P e := by
  constructor
  · rintro ⟨e, he, hP⟩
    rcases Relation.ReflTransGen.cases_head he with rfl | ⟨next, hnext, he⟩
    · exact Or.inl hP
    · exact Or.inr ⟨next, hnext, e, he, hP⟩
  · rintro (hP | ⟨next, hnext, e, he, hP⟩)
    · exact ⟨entry, .refl, hP⟩
    · exact ⟨e, .head hnext he, hP⟩

/-- An entry that is passed over is followed by the next argument, if that starts in the package. -/
theorem follows_iff {entry next : ArgumentPtr} (h : (queryEntry m entry keyName).result = .ok none) :
    Follows m pkg keyName entry next
      ↔ next = entry.next m ∧ nextArgument m entry.address < dataEnd m pkg.address := by
  unfold Follows
  rw [and_iff_right (queryEntry_none_iff.mp h)]
  constructor
  · rintro ⟨rfl, hlt⟩
    exact ⟨rfl, hlt⟩
  · rintro ⟨rfl, hlt⟩
    exact ⟨rfl, hlt⟩

section Visit

variable {entry : ArgumentPtr} (hlength : sizeofMethodArgument ≤ dataLength m pkg.address)

theorem queryVisit_inBounds_step (fuel : Nat) : (queryVisit m pkg keyName fuel entry).InBounds
    ↔ EntryInside m entry ∧ ((queryEntry m entry keyName).result = .ok none →
      (queryLoop m pkg keyName fuel (some entry)).InBounds) := by
  rw [queryVisit, inBounds_bind, queryEntry_inBounds_iff]
  refine and_congr_right fun _ => ⟨fun h hnone => h none hnone, fun h found hfound => ?_⟩
  cases found with
  | none => exact h hfound
  | some v => exact inBounds_pure v

theorem queryVisit_eq_ok_step (fuel : Nat) {v : ArgumentPtr} :
    (queryVisit m pkg keyName fuel entry).result = .ok v
      ↔ (queryEntry m entry keyName).result = .ok (some v)
        ∨ (queryEntry m entry keyName).result = .ok none
          ∧ (queryLoop m pkg keyName fuel (some entry)).result = .ok v := by
  rw [queryVisit, result_bind_eq_ok_iff]
  constructor
  · rintro ⟨found, hfound, hv⟩
    cases found with
    | none => exact Or.inr ⟨hfound, hv⟩
    | some v' =>
      rw [result_pure, Except.ok.injEq] at hv
      rw [← hv]
      exact Or.inl hfound
  · rintro (hsome | ⟨hnone, hv⟩)
    · exact ⟨some v, hsome, rfl⟩
    · exact ⟨none, hnone, hv⟩

variable (hnone : (queryEntry m entry keyName).result = .ok none)

include hlength hnone in
/-- From an entry that is passed over the loop comes to the entry that follows. -/
theorem queryLoop_inBounds_step (hheader : pkg.Fits 4) (hentry : EntryInside m entry)
    (fuel : Nat) : (queryLoop m pkg keyName (fuel + 1) (some entry)).InBounds
      ↔ ∀ next, Follows m pkg keyName entry next →
        (queryVisit m pkg keyName fuel next).InBounds := by
  obtain ⟨name, hkey, -⟩ := queryEntry_none_iff.mp hnone
  have hfits := (hentry.2 hkey.1).1
  rw [queryLoop_succ, inBounds_bind, inBounds_mapError, packageNext_inBounds_iff,
    and_iff_right ⟨hheader, fun _ => hfits⟩]
  refine forall_congr' fun next => ?_
  rw [result_mapError_eq_ok_iff, packageNext_eq_ok_iff, and_iff_right hlength,
    follows_iff hnone, and_comm]

include hlength hnone in
theorem queryLoop_eq_ok_step (fuel : Nat) {v : ArgumentPtr} :
    (queryLoop m pkg keyName (fuel + 1) (some entry)).result = .ok v
      ↔ ∃ next, Follows m pkg keyName entry next
        ∧ (queryVisit m pkg keyName fuel next).result = .ok v := by
  rw [queryLoop_succ, result_bind_eq_ok_iff]
  refine exists_congr fun next => ?_
  rw [result_mapError_eq_ok_iff, packageNext_eq_ok_iff, and_iff_right hlength,
    follows_iff hnone, and_comm (a := next = _)]

end Visit

variable (hlength : sizeofMethodArgument ≤ dataLength m pkg.address)

include hlength in
/-- **A visit stays inside exactly if the entries from there on are inside.** -/
theorem queryVisit_inBounds_iff (hheader : pkg.Fits 4) : ∀ (fuel : Nat) (entry : ArgumentPtr),
    entry.address < dataEnd m pkg.address → dataEnd m pkg.address - entry.address ≤ fuel →
    ((queryVisit m pkg keyName fuel entry).InBounds
      ↔ ∀ e, Relation.ReflTransGen (Follows m pkg keyName) entry e → EntryInside m e) := by
  refine entries_induction m fun fuel entry ih => ?_
  rw [queryVisit_inBounds_step, forall_follows_iff]
  refine and_congr_right fun hentry => ?_
  have hnext : ∀ next, Follows m pkg keyName entry next →
      ((queryVisit m pkg keyName fuel next).InBounds
        ↔ ∀ e, Relation.ReflTransGen (Follows m pkg keyName) next e → EntryInside m e) := by
    rintro next ⟨-, rfl, hin⟩
    exact ih hin
  constructor
  · intro h next hfollows
    have hnone := queryEntry_none_iff.mpr hfollows.1
    have hloop := (queryLoop_inBounds_step hlength hnone hheader hentry fuel).mp (h hnone)
    exact (hnext next hfollows).mp (hloop next hfollows)
  · intro h hnone
    refine (queryLoop_inBounds_step hlength hnone hheader hentry fuel).mpr fun next hfollows => ?_
    exact (hnext next hfollows).mpr (h next hfollows)

include hlength in
/-- **A visit finds the value of the first entry with the key.** -/
theorem queryVisit_eq_ok_iff {v : ArgumentPtr} : ∀ (fuel : Nat) (entry : ArgumentPtr),
    entry.address < dataEnd m pkg.address → dataEnd m pkg.address - entry.address ≤ fuel →
    ((queryVisit m pkg keyName fuel entry).result = .ok v
      ↔ ∃ e, Relation.ReflTransGen (Follows m pkg keyName) entry e
        ∧ (queryEntry m e keyName).result = .ok (some v)) := by
  refine entries_induction m fun fuel entry ih => ?_
  rw [queryVisit_eq_ok_step, exists_follows_iff]
  refine or_congr Iff.rfl ?_
  have hnext : ∀ next, Follows m pkg keyName entry next →
      ((queryVisit m pkg keyName fuel next).result = .ok v
        ↔ ∃ e, Relation.ReflTransGen (Follows m pkg keyName) next e
          ∧ (queryEntry m e keyName).result = .ok (some v)) := by
    rintro next ⟨-, rfl, hin⟩
    exact ih hin
  constructor
  · rintro ⟨hnone, hv⟩
    obtain ⟨next, hfollows, hv⟩ := (queryLoop_eq_ok_step hlength hnone fuel).mp hv
    exact ⟨next, hfollows, (hnext next hfollows).mp hv⟩
  · rintro ⟨next, hfollows, hv⟩
    have hnone := queryEntry_none_iff.mpr hfollows.1
    exact ⟨hnone, (queryLoop_eq_ok_step hlength hnone fuel).mpr
      ⟨next, hfollows, (hnext next hfollows).mpr hv⟩⟩

end Search

/-! ## 6. The end of the search

The model bounds the search by a number of entries, and the code does not.  That the bound is never
reached is part of what is proved: each entry lies behind the one before by a header and a value at
least, so there are fewer of them than the package has bytes. -/

section Ends

variable (m : Memory)

/-- The bound on the entries is not what ends a computation. -/
abbrev Finishes {α : Type} (x : Traced AcpiStatus α) : Prop := Avoids .unfinished x

theorem initAnsiString_finishes (argument : ArgumentPtr) : Finishes (initAnsiString m argument) := by
  unfold initAnsiString
  cases strlen m (maxAnsiLength + 1) (argument.address + 4) with
  | none => simp
  | some n => simp

theorem argumentParseInteger_finishes (argument : ArgumentPtr) :
    Finishes (argumentParseInteger m argument) := by
  unfold argumentParseInteger
  simp only [avoids_read_bind, avoids_guard, avoids_pure, implies_true, and_true]
  exact ⟨fun _ => by decide, fun _ _ => by decide⟩

theorem argumentParseString_finishes (argument : ArgumentPtr) (maxLength : Nat) :
    Finishes (argumentParseString m argument maxLength) := by
  unfold argumentParseString
  simp only [avoids_read_bind, avoids_guard, avoids_pure, implies_true, and_true]
  exact ⟨fun _ => by decide, fun _ _ => by decide⟩

theorem queryEntry_finishes (entry : ArgumentPtr) (keyName : List (BitVec 8)) :
    Finishes (queryEntry m entry keyName) := by
  unfold Finishes queryEntry
  rw [avoids_read_bind, avoids_guard]
  refine ⟨fun _ => by decide, fun _ => avoids_bind (avoids_mapError fun _ => by decide) ?_⟩
  intro key _
  rw [avoids_read_bind, avoids_guard]
  refine ⟨fun _ => by decide, fun _ => avoids_bind (initAnsiString_finishes m key) ?_⟩
  intro name _
  split
  · exact avoids_pure _
  · exact avoids_bind (avoids_mapError fun _ => by decide) fun _ _ => avoids_pure _

/-- **The enumeration ends**: each entry takes it on inside the package. -/
theorem queryVisit_finishes (pkg : ArgumentPtr) (keyName : List (BitVec 8)) :
    ∀ (fuel : Nat) (entry : ArgumentPtr), entry.address < dataEnd m pkg.address →
      dataEnd m pkg.address - entry.address ≤ fuel →
      Finishes (queryVisit m pkg keyName fuel entry) := by
  refine entries_induction m fun fuel entry ih => ?_
  refine avoids_bind (queryEntry_finishes m entry keyName) fun found _ => ?_
  cases found with
  | some v => exact avoids_pure v
  | none =>
    dsimp only
    rw [queryLoop_succ]
    refine avoids_bind (avoids_mapError fun _ => by decide) fun next hnext => ?_
    rw [result_mapError_eq_ok_iff, packageNext_eq_ok_iff] at hnext
    obtain ⟨-, hin, rfl⟩ := hnext
    exact ih hin

end Ends

/-! ## 7. The functions that take a value

A search followed by a look at its result.  What is read of the value depends on which value it is,
so the condition quantifies over the value of the key; there is at most one. -/

section Value

variable {m : Memory} {pkg : ArgumentPtr} {keyName : List (BitVec 8)}

/-- The first entry starts inside its package. -/
theorem first_lt (h : sizeofMethodArgument ≤ dataLength m pkg.address) :
    (pkg.inside m 0).address < dataEnd m pkg.address
      ∧ dataEnd m pkg.address - (pkg.inside m 0).address ≤ dataLength m pkg.address := by
  unfold sizeofMethodArgument at h
  unfold ArgumentPtr.inside dataEnd
  dsimp only
  omega

theorem queryValue_finishes : Finishes (queryValue m pkg keyName) := by
  unfold Finishes queryValue
  rw [avoids_read_bind, avoids_guard, avoids_guard]
  refine ⟨fun _ => by decide, fun _ => ⟨fun _ => by decide, fun _ => ?_⟩⟩
  rw [queryLoop_succ]
  refine avoids_bind (avoids_mapError fun _ => by decide) fun entry hentry => ?_
  rw [result_mapError_eq_ok_iff, packageFirst_eq_ok_iff] at hentry
  obtain ⟨hlength, rfl⟩ := hentry
  have hfirst := first_lt hlength
  exact queryVisit_finishes m pkg keyName _ _ hfirst.1 hfirst.2

theorem queryValue_inBounds_iff :
    (queryValue m pkg keyName).InBounds ↔ SearchInside m pkg keyName := by
  unfold queryValue SearchInside Enumerated
  rw [inBounds_read_bind, pkg.type_inBounds_iff, inBounds_guard, inBounds_guard, not_not,
    Nat.not_lt, queryLoop_succ, inBounds_bind, inBounds_mapError, packageFirst_inBounds_iff]
  refine and_congr_right fun _ => imp_congr_right fun _ => imp_congr_right fun _ =>
    and_congr_right fun hheader => ?_
  simp only [result_mapError_eq_ok_iff, packageFirst_eq_ok_iff]
  constructor
  · rintro h entry ⟨hlength, hentry⟩
    have hfirst := first_lt hlength
    exact (queryVisit_inBounds_iff hlength hheader _ _ hfirst.1 hfirst.2).mp
      (h _ ⟨hlength, rfl⟩) entry hentry
  · rintro h entry ⟨hlength, rfl⟩
    have hfirst := first_lt hlength
    exact (queryVisit_inBounds_iff hlength hheader _ _ hfirst.1 hfirst.2).mpr
      fun e he => h e ⟨hlength, he⟩

theorem queryValue_eq_ok_iff {v : ArgumentPtr} :
    (queryValue m pkg keyName).result = .ok v ↔ ValueOf m pkg keyName v := by
  unfold queryValue ValueOf Enumerated
  rw [result_read_bind, result_guard_eq_ok_iff, result_guard_eq_ok_iff, not_not, Nat.not_lt,
    queryLoop_succ, result_bind_eq_ok_iff]
  simp only [result_mapError_eq_ok_iff, packageFirst_eq_ok_iff]
  refine and_congr_right fun _ => and_congr_right fun _ => ?_
  constructor
  · rintro ⟨entry, ⟨hlength, rfl⟩, hv⟩
    have hfirst := first_lt hlength
    obtain ⟨e, he, hfound⟩ := (queryVisit_eq_ok_iff hlength _ _ hfirst.1 hfirst.2).mp hv
    exact ⟨e, ⟨hlength, he⟩, queryEntry_some_iff.mp hfound⟩
  · rintro ⟨e, ⟨hlength, he⟩, hfound⟩
    have hfirst := first_lt hlength
    exact ⟨_, ⟨hlength, rfl⟩, (queryVisit_eq_ok_iff hlength _ _ hfirst.1 hfirst.2).mpr
      ⟨e, he, queryEntry_some_iff.mpr hfound⟩⟩

variable {α : Type} {parse : ArgumentPtr → Traced AcpiStatus α}

/-- What is read with a value that is taken from the list. -/
theorem withValue_inBounds_iff : (withValue m pkg keyName parse).InBounds
    ↔ SearchInside m pkg keyName ∧ ∀ v, ValueOf m pkg keyName v → (parse v).InBounds := by
  rw [withValue, inBounds_read_bind, pkg.type_inBounds_iff, inBounds_guard, not_not, inBounds_bind,
    queryValue_inBounds_iff]
  simp only [queryValue_eq_ok_iff]
  constructor
  · rintro ⟨htype, h⟩
    exact ⟨⟨htype, fun hpkg => (h hpkg).1.2 hpkg⟩, fun v hv => (h hv.1).2 v hv⟩
  · rintro ⟨hsearch, hparse⟩
    exact ⟨hsearch.1, fun _ => ⟨hsearch, hparse⟩⟩

theorem withValue_finishes (h : ∀ v, Finishes (parse v)) :
    Finishes (withValue m pkg keyName parse) := by
  unfold Finishes withValue
  rw [avoids_read_bind, avoids_guard]
  exact ⟨fun _ => by decide, fun _ => avoids_bind queryValue_finishes fun v _ => h v⟩

end Value

/-! ## 8. Arrays

The two functions for arrays of integers.  The first copies words that lie behind one another, and
its reads are one range; the second goes from integer to integer by the iterator, and its reads are
an induction over the number it is asked for. -/

section Arrays

variable {m : Memory}

theorem arrayLoop_inBounds_iff (n : Nat) : ∀ argument : ArgumentPtr,
    (arrayLoop m n argument).InBounds
      ↔ ∀ i < n, ((ArgumentPtr.next m)^[i] argument).Fits 8 := by
  induction n with
  | zero => exact fun argument => ⟨fun _ i hi => absurd hi (Nat.not_lt_zero i),
      fun _ => inBounds_pure _⟩
  | succ n ih =>
    intro argument
    rw [arrayLoop, inBounds_read_bind, argument.argument_inBounds_iff, inBounds_read_bind,
      argument.length_inBounds_iff, inBounds_bind, ih, Nat.forall_lt_succ_left]
    refine and_congr_right fun hfits => ?_
    rw [and_iff_right (hfits.le (by decide)), and_iff_left fun _ _ => inBounds_pure _]
    rfl

theorem arrayLoop_finishes (n : Nat) : ∀ argument : ArgumentPtr,
    Finishes (arrayLoop m n argument) := by
  induction n with
  | zero => exact fun _ => avoids_pure _
  | succ n ih =>
    intro argument
    have hrest := avoids_bind (ih (argument.next m)) (f := fun rest =>
      (pure (loadLe m (argument.address + 4) 4 :: rest) : Traced AcpiStatus (List Nat)))
      fun _ _ => avoids_pure _
    exact avoids_read_bind.mpr (avoids_read_bind.mpr hrest)

/-- The body of the loop of `AcpiDevicePropertiesQueryIntegerValueArray` behind the iterator. -/
def entryVisit (m : Memory) (entry : ArgumentPtr) (n : Nat) (argument : ArgumentPtr) :
    Traced AcpiStatus (List Nat × Option ArgumentPtr) := do
  read (argument.bytes 0 2)
  if argType m argument.address ≠ methodArgumentInteger then throw .invalidData
  else do
    let value ← argumentParseInteger m argument
    let rest ← entryLoop m entry n (some argument)
    pure (value :: rest.1, rest.2)

theorem entryLoop_succ (entry : ArgumentPtr) (n : Nat) (currentEntry : Option ArgumentPtr) :
    entryLoop m entry (n + 1) currentEntry
      = (packageGetNextArgument m entry currentEntry).mapError (fun _ => .incorrectArgumentCount)
        >>= entryVisit m entry n :=
  rfl

theorem entryVisit_inBounds_step (entry : ArgumentPtr) (n : Nat) (argument : ArgumentPtr) :
    (entryVisit m entry n argument).InBounds
      ↔ IntegerInside m argument ∧ (argType m argument.address = methodArgumentInteger →
        dataLength m argument.address = 4 → (entryLoop m entry n (some argument)).InBounds) := by
  have hrest : ∀ value, ((do
      let rest ← entryLoop m entry n (some argument)
      pure (value :: rest.1, rest.2)) : Traced AcpiStatus (List Nat × Option ArgumentPtr)).InBounds
        ↔ (entryLoop m entry n (some argument)).InBounds := fun value => by
    rw [inBounds_bind, and_iff_left fun _ _ => inBounds_pure _]
  unfold entryVisit
  rw [inBounds_read_bind, argument.type_inBounds_iff, inBounds_guard, not_not, inBounds_bind,
    argumentParseInteger_inBounds_iff]
  simp only [hrest]
  constructor
  · rintro ⟨htype, h⟩
    refine ⟨⟨htype, fun hinteger => (h hinteger).1.2 hinteger⟩, fun hinteger hlength => ?_⟩
    have hok : (argumentParseInteger m argument).result
        = .ok (loadLe m (argument.address + 4) 4) := by
      simp [argumentParseInteger, hinteger, hlength]
    exact (h hinteger).2 _ hok
  · rintro ⟨hinside, h⟩
    refine ⟨hinside.1, fun hinteger => ⟨hinside, fun value hvalue => ?_⟩⟩
    exact h hinteger (argumentParseInteger_eq_ok hvalue).2

/-- **The integers of an entry**, from one of its arguments on. -/
theorem entryVisit_inBounds_iff {entry : ArgumentPtr} (hheader : entry.Fits 4)
    (hlength : sizeofMethodArgument ≤ dataLength m entry.address) (n : Nat) :
    ∀ argument : ArgumentPtr, (entryVisit m entry n argument).InBounds
      ↔ ∀ i < n + 1, (∀ j < i, IntegerBefore m entry ((ArgumentPtr.next m)^[j] argument)) →
        IntegerInside m ((ArgumentPtr.next m)^[i] argument) := by
  induction n with
  | zero =>
    intro argument
    rw [entryVisit_inBounds_step]
    constructor
    · rintro ⟨h, -⟩ i hi -
      obtain rfl : i = 0 := by omega
      exact h
    · intro h
      exact ⟨h 0 (by decide) fun j hj => absurd hj (Nat.not_lt_zero j),
        fun _ _ => inBounds_pure _⟩
  | succ n ih =>
    intro argument
    rw [entryVisit_inBounds_step, Nat.forall_lt_succ_left]
    constructor
    · rintro ⟨hinside, h⟩
      refine ⟨fun _ => hinside, fun i hi hbefore => ?_⟩
      obtain ⟨hfirst, hbefore⟩ := Nat.forall_lt_succ_left.mp hbefore
      have hloop := h hfirst.1 hfirst.2.1
      rw [entryLoop_succ, inBounds_bind] at hloop
      have hnext : (packageGetNextArgument m entry (some argument)).result
          = .ok (argument.next m) := packageNext_eq_ok_iff.mpr ⟨hlength, hfirst.2.2, rfl⟩
      exact (ih _).mp (hloop.2 _ (result_mapError_eq_ok_iff.mpr hnext)) i hi hbefore
    · rintro ⟨hfirst, h⟩
      have hinside := hfirst fun j hj => absurd hj (Nat.not_lt_zero j)
      refine ⟨hinside, fun hinteger hfour => ?_⟩
      rw [entryLoop_succ, inBounds_bind, inBounds_mapError, packageNext_inBounds_iff]
      refine ⟨⟨hheader, fun _ => (hinside.2 hinteger).1⟩, fun next hnext => ?_⟩
      rw [result_mapError_eq_ok_iff, packageNext_eq_ok_iff] at hnext
      obtain ⟨-, hlt, rfl⟩ := hnext
      exact (ih _).mpr fun i hi hbefore =>
        h i hi (Nat.forall_lt_succ_left.mpr ⟨⟨hinteger, hfour, hlt⟩, hbefore⟩)

theorem entryLoop_finishes (entry : ArgumentPtr) (n : Nat) :
    ∀ currentEntry, Finishes (entryLoop m entry n currentEntry) := by
  induction n with
  | zero => exact fun _ => avoids_pure _
  | succ n ih =>
    intro currentEntry
    rw [entryLoop_succ]
    refine avoids_bind (avoids_mapError fun _ => by decide) fun argument _ => ?_
    unfold entryVisit
    rw [avoids_read_bind, avoids_guard]
    refine ⟨fun _ => by decide, fun _ =>
      avoids_bind (argumentParseInteger_finishes m argument) fun value _ => ?_⟩
    exact avoids_bind (ih (some argument)) fun _ _ => avoids_pure _

variable {list : ArgumentPtr} {count : Nat}

/-- What is read of an entry of integers. -/
theorem entry_inBounds_iff (hcount : count ≠ 0) {entry : ArgumentPtr} :
    ((do
      read (entry.bytes 0 2)
      if argType m entry.address ≠ methodArgumentPackage then throw .invalidArgtype
      else entryLoop m entry count none) :
        Traced AcpiStatus (List Nat × Option ArgumentPtr)).InBounds
      ↔ IntegersInside m count entry := by
  obtain ⟨n, rfl⟩ := Nat.exists_eq_succ_of_ne_zero hcount
  unfold IntegersInside
  rw [inBounds_read_bind, entry.type_inBounds_iff, inBounds_guard, not_not, entryLoop_succ,
    inBounds_bind, inBounds_mapError, packageFirst_inBounds_iff]
  simp only [result_mapError_eq_ok_iff, packageFirst_eq_ok_iff]
  refine and_congr_right fun _ => imp_congr_right fun _ => and_congr_right fun hheader => ?_
  constructor
  · exact fun h hlength => (entryVisit_inBounds_iff hheader hlength n _).mp (h _ ⟨hlength, rfl⟩)
  · rintro h argument ⟨hlength, rfl⟩
    exact (entryVisit_inBounds_iff hheader hlength n _).mpr (h hlength)

theorem queryIntegerValueArray_inBounds_iff (offset : Option Nat) :
    (queryIntegerValueArray m list count (offset.map (list.inside m))).InBounds
      ↔ (count ≠ 0 → IntegerListInside m count offset list) := by
  unfold queryIntegerValueArray IntegerListInside
  rw [inBounds_guard]
  refine imp_congr_right fun hcount => ?_
  rw [inBounds_bind, inBounds_mapError]
  simp only [result_mapError_eq_ok_iff, entry_inBounds_iff hcount]
  cases offset with
  | none =>
    rw [Option.map_none, packageFirst_inBounds_iff]
    simp only [packageFirst_eq_ok_iff]
    refine and_congr_right fun _ => ⟨fun h hlength => h _ ⟨hlength, rfl⟩, ?_⟩
    rintro h entry ⟨hlength, rfl⟩
    exact h hlength
  | some offset =>
    rw [Option.map_some, packageNext_inBounds_iff]
    simp only [packageNext_eq_ok_iff]
    constructor
    · rintro ⟨⟨hheader, hcursor⟩, h⟩
      exact ⟨hheader, fun hlength => ⟨hcursor hlength, fun hlt => h _ ⟨hlength, hlt, rfl⟩⟩⟩
    · rintro ⟨hheader, h⟩
      refine ⟨⟨hheader, fun hlength => (h hlength).1⟩, ?_⟩
      rintro entry ⟨hlength, hlt, rfl⟩
      exact (h hlength).2 hlt

theorem queryIntegerValueArray_finishes (currentEntryNext : Option ArgumentPtr) :
    Finishes (queryIntegerValueArray m list count currentEntryNext) := by
  unfold Finishes queryIntegerValueArray
  rw [avoids_guard]
  refine ⟨fun _ => by decide, fun _ => avoids_bind (avoids_mapError fun _ => by decide) ?_⟩
  intro entry _
  rw [avoids_read_bind, avoids_guard]
  exact ⟨fun _ => by decide, fun _ => entryLoop_finishes entry count none⟩

end Arrays

/-! ## 9. Queries

The pieces are put together for each query, still without the parse in front of it. -/

section Queries

variable {m : Memory} {pkg : ArgumentPtr}

theorem arrayValue_inBounds_iff {v : ArgumentPtr} {length : Nat} :
    ((do
      read ((v.inside m 0).bytes 2 2)
      if dataLength m (v.inside m 0).address ≠ length then throw .incorrectArgumentCount
      else arrayLoop m (dataLength m (v.inside m 0).address) (v.inside m 0)) :
        Traced AcpiStatus (List Nat)).InBounds ↔ ArrayInside m length v := by
  unfold ArrayInside
  rw [inBounds_read_bind, ArgumentPtr.length_inBounds_iff, inBounds_guard, not_not]
  refine and_congr_right fun _ => forall_congr' fun hlength => ?_
  rw [hlength, arrayLoop_inBounds_iff]

theorem Query.run_inBounds_iff (q : Query) : (q.run m pkg).InBounds ↔ QueryInside m pkg q := by
  cases q with
  | value keyName =>
    rw [Query.run, inBounds_bind, and_iff_left fun _ _ => inBounds_pure _, queryValue_inBounds_iff,
      QueryInside]
  | integer keyName =>
    rw [Query.run, inBounds_bind, and_iff_left fun _ _ => inBounds_pure _, queryIntegerValue,
      withValue_inBounds_iff, QueryInside]
    simp only [argumentParseInteger_inBounds_iff]
  | string keyName maxLength =>
    rw [Query.run, inBounds_bind, and_iff_left fun _ _ => inBounds_pure _, queryStringValue,
      withValue_inBounds_iff, QueryInside]
    simp only [argumentParseString_inBounds_iff]
  | integerArray keyName length =>
    rw [Query.run, inBounds_bind, and_iff_left fun _ _ => inBounds_pure _, queryIntegerArrayValue,
      inBounds_guard, withValue_inBounds_iff, QueryInside]
    simp only [arrayValue_inBounds_iff]
  | integerValueArray list count offset =>
    cases list with
    | none =>
      rw [Query.run, inBounds_bind, and_iff_left fun _ _ => inBounds_pure _,
        queryIntegerValueArray_inBounds_iff, QueryInside]
    | some keyName =>
      rw [Query.run, inBounds_bind, queryValue_inBounds_iff, QueryInside]
      refine and_congr_right fun _ => forall_congr' fun v => ?_
      rw [queryValue_eq_ok_iff, inBounds_bind, and_iff_left fun _ _ => inBounds_pure _,
        queryIntegerValueArray_inBounds_iff]

theorem Query.run_finishes (q : Query) : Finishes (q.run m pkg) := by
  cases q with
  | value keyName => exact avoids_bind queryValue_finishes fun _ _ => avoids_pure _
  | integer keyName =>
    exact avoids_bind (withValue_finishes (argumentParseInteger_finishes m))
      fun _ _ => avoids_pure _
  | string keyName maxLength =>
    exact avoids_bind (withValue_finishes fun v => argumentParseString_finishes m v maxLength)
      fun _ _ => avoids_pure _
  | integerArray keyName length =>
    refine avoids_bind ?_ fun _ _ => avoids_pure _
    unfold queryIntegerArrayValue
    rw [avoids_guard]
    refine ⟨fun _ => by decide, fun _ => withValue_finishes fun v => ?_⟩
    rw [Finishes, avoids_read_bind, avoids_guard]
    exact ⟨fun _ => by decide, fun _ => arrayLoop_finishes _ _⟩
  | integerValueArray list count offset =>
    cases list with
    | none => exact avoids_bind (queryIntegerValueArray_finishes _) fun _ _ => avoids_pure _
    | some keyName =>
      exact avoids_bind queryValue_finishes fun v _ =>
        avoids_bind (queryIntegerValueArray_finishes _) fun _ _ => avoids_pure _

end Queries

/-! ## 10. The parse

The GUID comes first and is read as soon as its length is 16, wherever the output buffer ends.
What lies behind it is then at a fixed place, which makes the conditions on the rest of the buffer
concrete. -/

section Parse

variable {m : Memory}

theorem argumentParseGuid_inBounds_iff {v : ArgumentPtr} : (argumentParseGuid m v).InBounds
    ↔ v.Fits 2 ∧ (argType m v.address = methodArgumentBuffer →
      v.Fits 4 ∧ (dataLength m v.address = 16 → v.Fits 20)) := by
  have hdata : (v.bytes 4 16).InBounds ↔ v.Fits 20 := ArgumentPtr.bytes_inBounds_iff (by decide)
  simp only [argumentParseGuid, inBounds_read_bind, inBounds_guard, inBounds_pure,
    v.type_inBounds_iff, v.length_inBounds_iff, hdata, not_not, and_true]

theorem argumentParseGuid_eq_ok_iff {v : ArgumentPtr} {guid : List (BitVec 8)} :
    (argumentParseGuid m v).result = .ok guid
      ↔ argType m v.address = methodArgumentBuffer ∧ dataLength m v.address = 16
        ∧ argData m v.address = guid := by
  simp only [argumentParseGuid, result_read_bind, result_guard_eq_ok_iff, result_pure,
    Except.ok.injEq, not_not]

theorem outputFirst_fits_iff (n : Nat) :
    (outputFirst m).Fits n ↔ outputArgument + n ≤ outputLength m := by
  simp [ArgumentPtr.Fits, outputFirst, outputExtent]

variable (hheader : outputArgument ≤ outputLength m)

include hheader in
theorem outputArgumentLength_eq : outputArgumentLength m = outputLength m - outputArgument := by
  unfold outputArgumentLength
  rw [if_neg (Nat.not_lt.mpr hheader)]

include hheader in
theorem length_inBounds : (⟨⟨4, 4⟩, [outputExtent m]⟩ : Access).InBounds := by
  rw [inBounds_one, Extent.bytes_subset_iff]
  unfold outputArgument at hheader
  unfold outputExtent
  dsimp only
  omega

include hheader in
theorem outputBufferFirst_inBounds : (outputBufferGetNextArgument m none).InBounds := by
  rw [outputBufferGetNextArgument, inBounds_read_bind, inBounds_guard]
  exact ⟨length_inBounds hheader, fun _ => inBounds_pure _⟩

include hheader in
theorem outputBufferFirst_eq_ok_iff {p : ArgumentPtr} :
    (outputBufferGetNextArgument m none).result = .ok p
      ↔ outputArgument + sizeofMethodArgument ≤ outputLength m ∧ outputFirst m = p := by
  rw [outputBufferGetNextArgument, result_read_bind, result_guard_eq_ok_iff,
    outputArgumentLength_eq hheader, result_pure, Except.ok.injEq]
  have hlong : ¬ outputLength m - outputArgument < sizeofMethodArgument
      ↔ outputArgument + sizeofMethodArgument ≤ outputLength m := by omega
  rw [hlong]

include hheader in
theorem outputBufferNext_inBounds_iff {p : ArgumentPtr} :
    (outputBufferGetNextArgument m (some p)).InBounds
      ↔ (outputArgument + sizeofMethodArgument ≤ outputLength m → p.Fits 4) := by
  rw [outputBufferGetNextArgument, inBounds_read_bind, inBounds_guard,
    and_iff_right (length_inBounds hheader), inBounds_read_bind, p.length_inBounds_iff,
    inBounds_guard, and_iff_left fun _ => inBounds_pure _, outputArgumentLength_eq hheader]
  refine imp_congr_left ?_
  omega

include hheader in
theorem outputBufferNext_eq_ok_iff {p q : ArgumentPtr} :
    (outputBufferGetNextArgument m (some p)).result = .ok q
      ↔ outputArgument + sizeofMethodArgument ≤ outputLength m
        ∧ nextArgument m p.address < outputLength m ∧ p.next m = q := by
  rw [outputBufferGetNextArgument, result_read_bind, result_guard_eq_ok_iff, result_read_bind,
    result_guard_eq_ok_iff, outputArgumentLength_eq hheader, result_pure, Except.ok.injEq]
  constructor
  · rintro ⟨hlong, hin, hq⟩
    exact ⟨by omega, by omega, hq⟩
  · rintro ⟨hlong, hin, hq⟩
    exact ⟨by omega, by omega, hq⟩

/-- Behind a GUID of 16 bytes the next argument is at 32. -/
theorem propertiesPkg_address (h : dataLength m outputArgument = 16) :
    (propertiesPkg m).address = 32 := by
  unfold propertiesPkg ArgumentPtr.next outputFirst nextArgument
  dsimp only
  rw [h]
  rfl

theorem hasSecondArgument_iff : HasSecondArgument m ↔ HasGuidArgument m
    ∧ argData m outputArgument = devicePropertiesGuid
    ∧ (propertiesPkg m).address < outputLength m := by
  unfold HasSecondArgument
  refine and_congr_right fun hguid => ?_
  rw [propertiesPkg_address hguid.2.2.2]

include hheader in
/-- **The parse finds the package of the properties.** -/
theorem parse_eq_ok_iff {pkg : ArgumentPtr} :
    (parseDsdAsDeviceProperties m).result = .ok pkg
      ↔ HasProperties m ∧ pkg = propertiesPkg m := by
  unfold HasProperties
  rw [hasSecondArgument_iff, parseDsdAsDeviceProperties, result_read_bind,
    result_guard_eq_ok_iff, not_not]
  simp only [result_bind_eq_ok_iff, outputBufferFirst_eq_ok_iff hheader,
    argumentParseGuid_eq_ok_iff, result_guard_eq_ok_iff, not_not,
    outputBufferNext_eq_ok_iff hheader, result_read_bind, result_pure, Except.ok.injEq]
  constructor
  · rintro ⟨hcount, _, ⟨hlong, rfl⟩, _, ⟨htype, hlength, rfl⟩, hguid, _, ⟨-, hin, rfl⟩, hpkg, rfl⟩
    exact ⟨⟨⟨⟨hcount, hlong, htype, hlength⟩, hguid, hin⟩, hpkg⟩, rfl⟩
  · rintro ⟨⟨⟨⟨hcount, hlong, htype, hlength⟩, hguid, hin⟩, hpkg⟩, rfl⟩
    exact ⟨hcount, _, ⟨hlong, rfl⟩, _, ⟨htype, hlength, rfl⟩, hguid, _, ⟨hlong, hin, rfl⟩, hpkg, rfl⟩

include hheader in
theorem count_inBounds : (⟨⟨8, 4⟩, [outputExtent m]⟩ : Access).InBounds := by
  rw [inBounds_one, Extent.bytes_subset_iff]
  unfold outputArgument at hheader
  unfold outputExtent
  dsimp only
  omega

/-- The GUID of an argument that has its header. -/
theorem guid_inBounds_iff (hlong : outputArgument + sizeofMethodArgument ≤ outputLength m) :
    (argumentParseGuid m (outputFirst m)).InBounds
      ↔ (argType m outputArgument = methodArgumentBuffer → dataLength m outputArgument = 16 →
        32 ≤ outputLength m) := by
  unfold outputArgument sizeofMethodArgument at hlong
  have htwo : outputArgument + 2 ≤ outputLength m := by unfold outputArgument; omega
  have hfour : outputArgument + 4 ≤ outputLength m := by unfold outputArgument; omega
  rw [argumentParseGuid_inBounds_iff, outputFirst_fits_iff, outputFirst_fits_iff,
    outputFirst_fits_iff, and_iff_right htwo, and_iff_right hfour]
  rfl

/-- The type of the argument behind the GUID. -/
theorem propertiesPkg_fits_iff (hlength : dataLength m outputArgument = 16) :
    (propertiesPkg m).Fits 2 ↔ 34 ≤ outputLength m := by
  have haddress := propertiesPkg_address hlength
  have hwithin : (propertiesPkg m).within = [outputExtent m] := rfl
  unfold ArgumentPtr.Fits
  rw [haddress, hwithin, List.forall_mem_singleton]
  unfold outputExtent
  dsimp only
  omega

include hheader in
/-- What the parse reads behind the header of the buffer. -/
theorem parse_inBounds_of_header : (parseDsdAsDeviceProperties m).InBounds
    ↔ (HasGuidArgument m → 32 ≤ outputLength m)
      ∧ (HasSecondArgument m → 34 ≤ outputLength m) := by
  rw [parseDsdAsDeviceProperties, inBounds_read_bind, and_iff_right (count_inBounds hheader),
    inBounds_guard, not_not, inBounds_bind, and_iff_right (outputBufferFirst_inBounds hheader)]
  simp only [outputBufferFirst_eq_ok_iff hheader]
  constructor
  · intro h
    refine ⟨?_, ?_⟩
    · rintro ⟨hcount, hlong, htype, hlength⟩
      have hguid := (inBounds_bind.mp (h hcount _ ⟨hlong, rfl⟩)).1
      exact (guid_inBounds_iff hlong).mp hguid htype hlength
    · rintro ⟨⟨hcount, hlong, htype, hlength⟩, hdata, hsecond⟩
      have hrest := (inBounds_bind.mp (h hcount _ ⟨hlong, rfl⟩)).2 _
        (argumentParseGuid_eq_ok_iff.mpr ⟨htype, hlength, rfl⟩)
      rw [inBounds_guard, not_not, inBounds_bind] at hrest
      have hnext := (hrest hdata).2 (propertiesPkg m) ((outputBufferNext_eq_ok_iff hheader).mpr
        ⟨hlong, (propertiesPkg_address hlength).trans_lt hsecond, rfl⟩)
      rw [inBounds_read_bind, ArgumentPtr.type_inBounds_iff] at hnext
      exact (propertiesPkg_fits_iff hlength).mp hnext.1
  · rintro ⟨hguid, htype⟩ hcount _ ⟨hlong, rfl⟩
    refine inBounds_bind.mpr ⟨(guid_inBounds_iff hlong).mpr fun hbuffer hlength =>
      hguid ⟨hcount, hlong, hbuffer, hlength⟩, fun guid hdata => ?_⟩
    obtain ⟨hbuffer, hlength, rfl⟩ := argumentParseGuid_eq_ok_iff.mp hdata
    rw [inBounds_guard, not_not, inBounds_bind, outputBufferNext_inBounds_iff hheader]
    intro hproperties
    have hfour : outputArgument + 4 ≤ outputLength m := by
      unfold sizeofMethodArgument at hlong
      omega
    refine ⟨fun _ => (outputFirst_fits_iff 4).mpr hfour, fun pkg hpkg => ?_⟩
    obtain ⟨-, hin, rfl⟩ := (outputBufferNext_eq_ok_iff hheader).mp hpkg
    have hsecond : 32 < outputLength m := (propertiesPkg_address hlength).symm.trans_lt hin
    rw [inBounds_read_bind, ArgumentPtr.type_inBounds_iff, inBounds_guard]
    exact ⟨(propertiesPkg_fits_iff hlength).mpr
      (htype ⟨⟨hcount, hlong, hbuffer, hlength⟩, hproperties, hsecond⟩), fun _ => inBounds_pure _⟩

end Parse

theorem parse_inBounds_iff {m : Memory} :
    (parseDsdAsDeviceProperties m).InBounds ↔ DsdInside m := by
  constructor
  · intro h
    have hcount := h
    rw [parseDsdAsDeviceProperties, inBounds_read_bind, inBounds_one, Extent.bytes_subset_iff]
      at hcount
    have hheader : outputArgument ≤ outputLength m := by
      unfold outputExtent at hcount
      unfold outputArgument
      have hbytes := hcount.1
      dsimp only at hbytes
      omega
    obtain ⟨hguid, htype⟩ := (parse_inBounds_of_header hheader).mp h
    exact ⟨hheader, hguid, htype⟩
  · intro h
    exact (parse_inBounds_of_header h.header).mpr ⟨h.guid, h.type⟩

theorem outputBufferGetNextArgument_finishes (m : Memory) (argument : Option ArgumentPtr) :
    Finishes (outputBufferGetNextArgument m argument) := by
  cases argument with
  | none => simp [outputBufferGetNextArgument]
  | some argument => simp [outputBufferGetNextArgument]

theorem argumentParseGuid_finishes (m : Memory) (argument : ArgumentPtr) :
    Finishes (argumentParseGuid m argument) := by
  unfold argumentParseGuid
  simp only [avoids_read_bind, avoids_guard, avoids_pure, implies_true, and_true]
  exact ⟨fun _ => by decide, fun _ _ => by decide⟩

theorem parse_finishes (m : Memory) : Finishes (parseDsdAsDeviceProperties m) := by
  unfold Finishes parseDsdAsDeviceProperties
  rw [avoids_read_bind, avoids_guard]
  refine ⟨fun _ => by decide, fun _ =>
    avoids_bind (outputBufferGetNextArgument_finishes m none) fun guidArg _ =>
      avoids_bind (argumentParseGuid_finishes m guidArg) fun guid _ => ?_⟩
  rw [avoids_guard]
  refine ⟨fun _ => by decide, fun _ =>
    avoids_bind (outputBufferGetNextArgument_finishes m (some guidArg)) fun pkg _ => ?_⟩
  rw [avoids_read_bind, avoids_guard]
  exact ⟨fun _ => by decide, fun _ => avoids_pure pkg⟩

/-! ## 11. The parse and a query

The condition of the parse and that of the query are asked one after the other, as the query is
made only if the parse finds a package.  An output buffer that ends inside the GUID is one on which
the parse itself reads too far. -/

/-- **A `_DSD` on which the parse goes wrong**: the first argument is a buffer of 16 bytes, and the
output buffer ends behind four of them. -/
def shortGuid : Memory := fun i =>
  ([0x41, 0x65, 0x6F, 0x42, 20, 0, 0, 0, 2, 0, 0, 0, 2, 0, 16, 0, 0x14, 0xD8, 0xFF, 0xDA] :
    List (BitVec 8)).getD i 0

/-- Not every output buffer is read inside its bounds. -/
theorem shortGuid_outOfBounds :
    ¬ ∀ (m : Memory) (q : Query), (deviceProperties m q).InBounds := by
  intro h
  have hparse := parse_inBounds_iff.mp (inBounds_bind.mp (h shortGuid (.value []))).1
  exact absurd (hparse.guid ⟨by decide, by decide, by decide, by decide⟩) (by decide)

/-- **The device properties functions end on every output buffer, and read inside the buffer and
the enclosing packages exactly if the parse and the query are inside.** The two conditions follow
the code as far as it reads, so each read is demanded where it is made and nowhere else; and each
entry takes the search on inside its package. -/
theorem deviceProperties_inBounds (m : Memory) (q : Query) :
    ((deviceProperties m q).InBounds ∧ Finishes (deviceProperties m q))
      ↔ DsdInside m ∧ (HasProperties m → QueryInside m (propertiesPkg m) q) := by
  have hends : Finishes (deviceProperties m q) :=
    avoids_bind (parse_finishes m) fun _ _ => q.run_finishes
  rw [and_iff_left hends, deviceProperties, inBounds_bind, parse_inBounds_iff]
  refine and_congr_right fun hdsd => ?_
  simp only [parse_eq_ok_iff hdsd.header, q.run_inBounds_iff]
  constructor
  · exact fun h hproperties => h _ ⟨hproperties, rfl⟩
  · rintro h pkg ⟨hproperties, rfl⟩
    exact h hproperties

end WoaRk3576.Acpi
