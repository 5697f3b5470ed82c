/-
# Properties: what a query finds is what was written

A list of properties is keys with their values, `propertiesPackage` is the argument that firmware
makes of it, and `dsdBytes` the whole `_DSD`.  `firstValue` is what a property is for: the value of
the first entry with the key.

`dsd_readsBack` takes the bytes apart again: the parse finds the package (`parse_dsdBytes`), and a
query of a key finds the first value with this key (`valueOf_of_firstValue`), or nothing where there
is none.  Every query reads inside of the bytes.

* `Stored` says that the bytes of some arguments lie at an address.  It goes through a row and into
  a package (`stored_cons`, `stored_package`), so that each argument of the list has its address in
  the buffer.
* The search is a walk over addresses and the list a list of pairs.  `EntriesFrom` relates the two:
  an entry holds the first pair of a list, the others lie behind it, and the package ends with
  them.  A step of the search takes it from a list to its tail (`entriesFrom_next`), so that it
  comes to the first entry with the key and to no other (`search_first`, `search_none`).
* The search of `DeviceProperties.lean` has its own condition for reading inside, which is about
  any bytes.  Bytes that were written as properties meet it (`dsd_wellFormed`), and this is where
  the round trip gets its bounds from.

`WellFormedList` asks of the properties only what the format can hold: a package has 16 bits for
its length, and a key is a string without a zero.
-/
import WoaRk3576.Acpi.EvaluationResult
import WoaRk3576.Acpi.IntegerArray
import WoaRk3576.Lib.CString

namespace WoaRk3576.Acpi

open WoaRk3576.Lib
open Traced

/-! ## 1. Properties, and their bytes

The abstract side: a property is a key and a value, a value is an integer, a string, a buffer or a
package of arguments, and each has its bytes.  Nothing here knows of addresses. -/

/-- A type, and data. -/
abbrev AcpiValue := Nat × List (BitVec 8)

/-- The header of an argument has room for it. -/
def AcpiValue.Fits (a : AcpiValue) : Prop := a.1 < 65536 ∧ a.2.length < 65536

/-- The bytes of arguments in a row. -/
def rowBytes (args : List AcpiValue) : List (BitVec 8) := args.flatMap resultArgument

/-- A package of arguments. -/
def packageOf (args : List AcpiValue) : AcpiValue := (methodArgumentPackage, rowBytes args)

/-- A string, with its zero. -/
def stringOf (s : List (BitVec 8)) : AcpiValue := (methodArgumentString, s ++ [0])

/-- **The value of a property.** -/
inductive PropertyValue
  | integer (n : BitVec 32)
  | string (s : List (BitVec 8))
  | buffer (bytes : List (BitVec 8))
  | package (elements : List AcpiValue)
  deriving DecidableEq

/-- The argument that firmware makes of a value. -/
def PropertyValue.encode : PropertyValue → AcpiValue
  | integer n => (methodArgumentInteger, leBytes 4 n.toNat)
  | string s => stringOf s
  | buffer bytes => (methodArgumentBuffer, bytes)
  | package elements => packageOf elements

/-- A key, and its value. -/
abbrev Property := List (BitVec 8) × PropertyValue

def pairOf (p : Property) : AcpiValue := packageOf [stringOf p.1, p.2.encode]

/-- **The package of the properties.** -/
def propertiesPackage (props : List Property) : AcpiValue := packageOf (props.map pairOf)

/-- **The bytes of a `_DSD`** with device properties. -/
def dsdBytes (props : List Property) : List (BitVec 8) :=
  resultBytes [(methodArgumentBuffer, devicePropertiesGuid), propertiesPackage props]

/-- **What a property is for**: the value of the first entry with the key. -/
def firstValue (props : List Property) (key : List (BitVec 8)) : Option PropertyValue :=
  (props.find? fun p => p.1 = key).map Prod.snd

/-- The elements of a package are arguments, and the integers among them have four bytes. -/
def PropertyValue.WellFormed : PropertyValue → Prop
  | package elements => ∀ a ∈ elements, a.1 < 65536 ∧ (a.1 = methodArgumentInteger → a.2.length = 4)
  | _ => True

instance : ∀ value : PropertyValue, Decidable value.WellFormed
  | .integer _ => .isTrue trivial
  | .string _ => .isTrue trivial
  | .buffer _ => .isTrue trivial
  | .package elements => inferInstanceAs (Decidable (∀ a ∈ elements, _))

/-- **Properties that firmware can return**: they fit into a package, and a key is a string. -/
structure WellFormedList (props : List Property) : Prop where
  fits : (rowBytes (props.map pairOf)).length < 65536
  keys : ∀ p ∈ props, IsChars p.1
  values : ∀ p ∈ props, p.2.WellFormed

theorem encode_type_lt (value : PropertyValue) : value.encode.1 < 65536 := by
  cases value with
  | integer n => exact (by decide : 0 < 65536)
  | string s => exact (by decide : 1 < 65536)
  | buffer bytes => exact (by decide : 2 < 65536)
  | package elements => exact (by decide : 3 < 65536)

theorem length_resultArgument (a : AcpiValue) :
    (resultArgument a).length = 4 + max 4 a.2.length := by
  rw [resultArgument, List.length_append, length_argumentBytes, List.length_replicate]
  omega

@[simp]
theorem rowBytes_nil : rowBytes [] = [] := rfl

@[simp]
theorem rowBytes_cons (a : AcpiValue) (args : List AcpiValue) :
    rowBytes (a :: args) = resultArgument a ++ rowBytes args := rfl

theorem length_mul_le_rowBytes : ∀ args : List AcpiValue, 8 * args.length ≤ (rowBytes args).length
  | [] => Nat.le_refl 0
  | a :: args => by
    have ih := length_mul_le_rowBytes args
    rw [rowBytes_cons, List.length_append, length_resultArgument, List.length_cons]
    omega

theorem length_le_rowBytes {a : AcpiValue} : ∀ {args : List AcpiValue}, a ∈ args →
    8 ≤ (rowBytes args).length ∧ a.2.length ≤ (rowBytes args).length
  | b :: args, h => by
    rw [rowBytes_cons, List.length_append, length_resultArgument]
    rcases List.mem_cons.mp h with rfl | h
    · omega
    · have ih := length_le_rowBytes h
      omega

/-! ## 2. Arguments in memory

From bytes to addresses: where the bytes of a row lie in memory, each of its arguments has an
address, and these are the elements of a package as `Packages.lean` has them. -/

/-- The arguments lie at `i`. -/
def Stored (m : Memory) (i : Nat) (args : List AcpiValue) : Prop :=
  load m i (rowBytes args).length = rowBytes args

section Row

variable {m : Memory} {i : Nat} {a : AcpiValue} {args : List AcpiValue}

theorem nextArgument_eq (h : HasArgument m i a.1 a.2) :
    nextArgument m i = i + (resultArgument a).length := by
  rw [nextArgument, h.2.1, length_resultArgument]

/-- **The first argument of a row, and the others behind it.** -/
theorem stored_cons (hfits : a.Fits) (h : Stored m i (a :: args)) :
    HasArgument m i a.1 a.2 ∧ Stored m (nextArgument m i) args := by
  have hsplit : load m i (resultArgument a).length = resultArgument a
      ∧ load m (i + (resultArgument a).length) (rowBytes args).length = rowBytes args := by
    have hrow : load m i ((resultArgument a).length + (rowBytes args).length)
        = resultArgument a ++ rowBytes args := by
      rw [← List.length_append]
      exact h
    rw [load_add] at hrow
    exact List.append_inj hrow (length_load ..)
  have hargument : HasArgument m i a.1 a.2 := by
    refine hasArgument_of_load hfits.1 hfits.2 ?_
    have hpiece := load_piece [] (argumentBytes a.1 a.2) (List.replicate (4 - a.2.length) 0)
      (m := m) (i := i) hsplit.1
    rwa [length_argumentBytes] at hpiece
  exact ⟨hargument, by rw [nextArgument_eq hargument]; exact hsplit.2⟩

/-- **A row of arguments**, each where the one before it ends. -/
theorem stored_arguments : ∀ {args : List AcpiValue} {i : Nat}, (∀ a ∈ args, a.Fits) →
    Stored m i args → ∃ addresses, ArgumentsTo m (i + (rowBytes args).length) i addresses
      ∧ ∀ b ∈ addresses, ∃ a ∈ args, HasArgument m b a.1 a.2
  | [], i, _, _ => ⟨[], rfl, fun b hb => absurd hb List.not_mem_nil⟩
  | a :: args, i, hfits, h => by
    obtain ⟨hargument, hrest⟩ := stored_cons (hfits a List.mem_cons_self) h
    obtain ⟨addresses, hto, hall⟩ :=
      stored_arguments (fun b hb => hfits b (List.mem_cons_of_mem a hb)) hrest
    refine ⟨i :: addresses, ⟨rfl, ?_⟩, fun b hb => ?_⟩
    · rw [rowBytes_cons, List.length_append, ← Nat.add_assoc, ← nextArgument_eq hargument]
      exact hto
    · rcases List.mem_cons.mp hb with rfl | hb
      · exact ⟨a, List.mem_cons_self, hargument⟩
      · obtain ⟨c, hc, hhas⟩ := hall b hb
        exact ⟨c, List.mem_cons_of_mem a hc, hhas⟩

/-- The data of a package are its arguments. -/
theorem stored_package {p : Nat} (h : HasArgument m p (packageOf args).1 (packageOf args).2) :
    Stored m (p + 4) args ∧ dataEnd m p = p + 4 + (rowBytes args).length := by
  obtain ⟨-, hlength, hdata⟩ := h
  have hdata : load m (p + 4) (dataLength m p) = rowBytes args := hdata
  have hlength : dataLength m p = (rowBytes args).length := hlength
  rw [hlength] at hdata
  exact ⟨hdata, by rw [dataEnd, hlength]⟩

/-- **The elements of a package.** -/
theorem package_elements {p : Nat} (hfits : ∀ a ∈ args, a.Fits)
    (h : HasArgument m p (packageOf args).1 (packageOf args).2) :
    ∃ addresses, Elements m p addresses ∧ ∀ b ∈ addresses, ∃ a ∈ args, HasArgument m b a.1 a.2 := by
  obtain ⟨hstored, hend⟩ := stored_package h
  obtain ⟨addresses, hto, hall⟩ := stored_arguments hfits hstored
  rw [← hend] at hto
  exact ⟨addresses, ⟨h.1, hto⟩, hall⟩

end Row

/-! ## 3. Keys

The key of an entry is a string with a zero behind it; the scan finds the zero at its end because
there is none inside. -/

section Key

variable {m : Memory} {entry : ArgumentPtr} {p : Property}

/-- The zero of a string ends the scan for it. -/
theorem strlen_of_load : ∀ {s : List (BitVec 8)} {i fuel : Nat}, IsChars s →
    load m i (s.length + 1) = s ++ [0] → s.length < fuel → strlen m fuel i = some s.length
  | s, i, 0, _, _, hfuel => absurd hfuel (Nat.not_lt_zero _)
  | [], i, fuel + 1, _, h, _ => by
    have hzero : m i = 0 := by simpa [load] using h
    rw [strlen, if_pos hzero]
    rfl
  | c :: s, i, fuel + 1, hchars, h, hfuel => by
    obtain ⟨hc, hchars⟩ := isChars_cons.mp hchars
    rw [List.length_cons, Nat.add_comm, load_add m i 1 (s.length + 1)] at h
    have hfirst : load m i 1 = [m i] := rfl
    rw [hfirst, List.cons_append, List.cons_append, List.nil_append, List.cons.injEq] at h
    obtain ⟨hbyte, hrest⟩ := h
    rw [strlen, if_neg (by rw [hbyte]; exact hc),
      strlen_of_load hchars hrest (Nat.lt_of_succ_lt_succ hfuel)]
    rfl

/-- An entry has one key. -/
theorem hasKey_unique {k k' : List (BitVec 8)} (h : HasKey m entry k) (h' : HasKey m entry k') :
    k = k' := by
  obtain ⟨-, -, -, n, hn, hk⟩ := h
  obtain ⟨-, -, -, n', hn', hk'⟩ := h'
  rw [hn, Option.some.injEq] at hn'
  rw [← hk, ← hk', hn']

/-- A pair fits where its package fits. -/
theorem fits_of_pair {props : List Property} (hwf : WellFormedList props) (hp : p ∈ props) :
    (pairOf p).Fits ∧ (stringOf p.1).Fits ∧ p.2.encode.Fits := by
  have hpair := length_le_rowBytes (List.mem_map_of_mem (f := pairOf) hp)
  have hkey := length_le_rowBytes (show stringOf p.1 ∈ [stringOf p.1, p.2.encode] by simp)
  have hvalue := length_le_rowBytes (show p.2.encode ∈ [stringOf p.1, p.2.encode] by simp)
  have hfits := hwf.fits
  have hdata : (pairOf p).2 = rowBytes [stringOf p.1, p.2.encode] := rfl
  rw [hdata] at hpair
  refine ⟨⟨(by decide : 3 < 65536), ?_⟩, ⟨(by decide : 1 < 65536), ?_⟩, encode_type_lt p.2, ?_⟩
  · rw [hdata]
    omega
  · omega
  · omega

/-- **An entry that holds a pair** has its key, and behind the key its value. -/
theorem hasKey_of_pair {props : List Property} (hwf : WellFormedList props) (hp : p ∈ props)
    (h : HasArgument m entry.address (pairOf p).1 (pairOf p).2) :
    HasKey m entry p.1
      ∧ HasArgument m ((entry.inside m 0).next m).address p.2.encode.1 p.2.encode.2
      ∧ ((entry.inside m 0).next m).address < dataEnd m entry.address
      ∧ WellFormedKey m (entry.inside m 0).address := by
  obtain ⟨-, hstringFits, hvalueFits⟩ := fits_of_pair hwf hp
  obtain ⟨hstored, hend⟩ := stored_package h
  obtain ⟨hkey, hrest⟩ := stored_cons hstringFits hstored
  obtain ⟨hvalue, -⟩ := stored_cons hvalueFits hrest
  have hlength : dataLength m entry.address = (rowBytes [stringOf p.1, p.2.encode]).length :=
    h.2.1
  have hrow : (rowBytes [stringOf p.1, p.2.encode]).length
      = (resultArgument (stringOf p.1)).length + (4 + max 4 p.2.encode.2.length) := by
    rw [rowBytes_cons, rowBytes_cons, rowBytes_nil, List.append_nil, List.length_append,
      length_resultArgument p.2.encode]
  have hnext := nextArgument_eq hkey
  have hfits := hstringFits.2
  have hstring : (stringOf p.1).2.length = p.1.length + 1 := by
    rw [stringOf, List.length_append, List.length_singleton]
  have hscan : strlen m (maxAnsiLength + 1) (entry.address + 4 + 4) = some p.1.length := by
    refine strlen_of_load (hwf.keys p hp) ?_ ?_
    · have hdata := hkey.2.2
      rw [argData, hkey.2.1, hstring] at hdata
      exact hdata
    · unfold maxAnsiLength
      omega
  refine ⟨⟨h.1, ?_, hkey.1, p.1.length, hscan, ?_⟩, hvalue, ?_, hkey.1, p.1.length, hscan, ?_⟩
  · rw [sizeofMethodArgument, hlength]
    omega
  · have hdata := hkey.2.2
    rw [argData, hkey.2.1, hstring, load_add] at hdata
    exact (List.append_inj hdata (length_load ..)).1
  · rw [ArgumentPtr.address_next, ArgumentPtr.address_inside_zero, hnext, hend]
    omega
  · have hkeyLength := hkey.2.1
    rw [ArgumentPtr.address_inside_zero, hkeyLength]
    omega

end Key

/-! ## 4. The search for a key

The search goes along addresses and `firstValue` along the list.  `EntriesFrom` holds at the first
entry, is kept by each step, and at the entry with the key gives the value; an induction over the
list does the rest, for a key that is there and for one that is not. -/

section Search

variable {m : Memory} {pkg : ArgumentPtr} {all : List Property} {key : List (BitVec 8)}

/-- The entry holds the first of these properties, the others lie behind it, and the package ends
with them. -/
structure EntriesFrom (m : Memory) (pkg entry : ArgumentPtr) (p : Property)
    (props : List Property) : Prop where
  stored : Stored m entry.address ((p :: props).map pairOf)
  ends : dataEnd m pkg.address
    = entry.address + (rowBytes ((p :: props).map pairOf)).length

/-- **Behind an entry come the entries of the other properties**, unless there are none. -/
theorem entriesFrom_next {entry : ArgumentPtr} {p q : Property} {props : List Property}
    (hfits : (pairOf p).Fits) (h : EntriesFrom m pkg entry p (q :: props)) :
    EntriesFrom m pkg (entry.next m) q props := by
  obtain ⟨hargument, hrest⟩ := stored_cons hfits h.stored
  refine ⟨hrest, ?_⟩
  rw [h.ends, ArgumentPtr.address_next, nextArgument_eq hargument, List.map_cons, rowBytes_cons,
    List.length_append, Nat.add_assoc]

/-- The next entry starts in the package when there is another property. -/
theorem next_lt_iff {entry : ArgumentPtr} {p : Property} {props : List Property}
    (hfits : (pairOf p).Fits) (h : EntriesFrom m pkg entry p props) :
    (entry.next m).address < dataEnd m pkg.address ↔ props ≠ [] := by
  obtain ⟨hargument, -⟩ := stored_cons hfits h.stored
  rw [h.ends, ArgumentPtr.address_next, nextArgument_eq hargument, List.map_cons, rowBytes_cons,
    List.length_append]
  cases props with
  | nil => simp
  | cons q props =>
    have hpos := length_le_rowBytes (show pairOf q ∈ (q :: props).map pairOf by simp)
    refine iff_of_true ?_ (List.cons_ne_nil q props)
    omega

theorem firstValue_cons_self {p : Property} {props : List Property} :
    firstValue (p :: props) p.1 = some p.2 := by
  simp [firstValue]

theorem firstValue_cons_ne {p : Property} {props : List Property} (h : p.1 ≠ key) :
    firstValue (p :: props) key = firstValue props key := by
  simp [firstValue, h]

/-- **The search comes to the first entry with the key.** -/
theorem search_first (hwf : WellFormedList all) {value : PropertyValue} :
    ∀ {props : List Property} {p : Property} {entry : ArgumentPtr}, p ∈ all → (∀ q ∈ props, q ∈ all) →
      EntriesFrom m pkg entry p props → firstValue (p :: props) key = some value →
      ∃ e, Relation.ReflTransGen (Follows m pkg key) entry e
        ∧ HasKey m e key ∧ ((e.inside m 0).next m).address < dataEnd m e.address
        ∧ HasArgument m ((e.inside m 0).next m).address value.encode.1 value.encode.2
  | props, p, entry, hp, hprops, h, hfirst => by
    obtain ⟨hkey, hvalue, hlt, -⟩ :=
      hasKey_of_pair hwf hp (stored_cons (fits_of_pair hwf hp).1 h.stored).1
    by_cases heq : p.1 = key
    · subst heq
      rw [firstValue_cons_self, Option.some.injEq] at hfirst
      subst hfirst
      exact ⟨entry, .refl, hkey, hlt, hvalue⟩
    · rw [firstValue_cons_ne heq] at hfirst
      cases props with
      | nil => cases hfirst
      | cons q props =>
        have hfits := (fits_of_pair hwf hp).1
        obtain ⟨e, hreach, he⟩ := search_first hwf (hprops q List.mem_cons_self)
          (fun r hr => hprops r (List.mem_cons_of_mem q hr)) (entriesFrom_next hfits h) hfirst
        refine ⟨e, .head ⟨⟨p.1, hkey, heq⟩, rfl, ?_⟩ hreach, he⟩
        exact (next_lt_iff hfits h).mpr (List.cons_ne_nil q props)

/-- **The search comes to no entry with a key that no property has.** -/
theorem search_none (hwf : WellFormedList all) :
    ∀ {props : List Property} {p : Property} {entry : ArgumentPtr}, p ∈ all → (∀ q ∈ props, q ∈ all) →
      EntriesFrom m pkg entry p props → firstValue (p :: props) key = none →
      ∀ e, Relation.ReflTransGen (Follows m pkg key) entry e → ¬ HasKey m e key
  | props, p, entry, hp, hprops, h, hnone => by
    have hfits := (fits_of_pair hwf hp).1
    obtain ⟨hkey, -⟩ := hasKey_of_pair hwf hp (stored_cons hfits h.stored).1
    have hne : p.1 ≠ key := by
      rintro rfl
      rw [firstValue_cons_self] at hnone
      cases hnone
    rw [firstValue_cons_ne hne] at hnone
    refine forall_follows_iff.mpr ⟨fun hhas => hne (hasKey_unique hkey hhas), ?_⟩
    rintro next ⟨-, rfl, hlt⟩
    cases props with
    | nil => exact absurd rfl ((next_lt_iff hfits h).mp hlt)
    | cons q props =>
      exact search_none hwf (hprops q List.mem_cons_self)
        (fun r hr => hprops r (List.mem_cons_of_mem q hr)) (entriesFrom_next hfits h) hnone

end Search

/-! ## 5. What a query finds

The search as a relation between the package, the key and the value, which is what each of the
queries is stated with. -/

section Find

variable {m : Memory} {pkg : ArgumentPtr} {props : List Property} {key : List (BitVec 8)}

/-- The first entry of a package of properties. -/
theorem entriesFrom_first {p : Property} {props : List Property}
    (h : HasArgument m pkg.address (propertiesPackage (p :: props)).1
      (propertiesPackage (p :: props)).2) :
    sizeofMethodArgument ≤ dataLength m pkg.address
      ∧ EntriesFrom m pkg (pkg.inside m 0) p props := by
  obtain ⟨hstored, hend⟩ := stored_package h
  have hpos := length_le_rowBytes (show pairOf p ∈ (p :: props).map pairOf by simp)
  refine ⟨?_, hstored, hend⟩
  rw [h.2.1]
  exact hpos.1

/-- A key that a property has is not too long to be looked for. -/
theorem key_length_le (hwf : WellFormedList props) {value : PropertyValue}
    (h : firstValue props key = some value) : key.length ≤ maxAnsiLength := by
  obtain ⟨p, hfind, -⟩ := Option.map_eq_some_iff.mp h
  have hkey : p.1 = key :=
    of_decide_eq_true (List.find?_some (p := fun q : Property => decide (q.1 = key)) hfind)
  have hfits := (fits_of_pair hwf (List.mem_of_find?_eq_some hfind)).2.1.2
  rw [stringOf, List.length_append, List.length_singleton, hkey] at hfits
  unfold maxAnsiLength
  omega

/-- **A key has the value of the first property with it.** -/
theorem valueOf_of_firstValue (hwf : WellFormedList props)
    (h : HasArgument m pkg.address (propertiesPackage props).1 (propertiesPackage props).2)
    {value : PropertyValue} (hfirst : firstValue props key = some value) :
    ∃ v, ValueOf m pkg key v ∧ HasArgument m v.address value.encode.1 value.encode.2 := by
  cases props with
  | nil => cases hfirst
  | cons p props =>
    obtain ⟨hlength, hentries⟩ := entriesFrom_first h
    obtain ⟨e, hreach, hkey, hlt, hvalue⟩ := search_first hwf List.mem_cons_self
      (fun q hq => List.mem_cons_of_mem p hq) hentries hfirst
    exact ⟨_, ⟨h.1, key_length_le hwf hfirst, e, ⟨hlength, hreach⟩, hkey, rfl, hlt⟩, hvalue⟩

/-- A key that no property has has no value. -/
theorem firstValue_of_valueOf (hwf : WellFormedList props)
    (h : HasArgument m pkg.address (propertiesPackage props).1 (propertiesPackage props).2)
    {v : ArgumentPtr} (hv : ValueOf m pkg key v) :
    ∃ value, firstValue props key = some value
      ∧ HasArgument m v.address value.encode.1 value.encode.2 := by
  cases hfirst : firstValue props key with
  | some value =>
    obtain ⟨v', hv', hargument⟩ := valueOf_of_firstValue hwf h hfirst
    rw [value_unique hv hv']
    exact ⟨value, rfl, hargument⟩
  | none =>
    obtain ⟨-, -, e, ⟨hlength, hreach⟩, hkey, -⟩ := hv
    cases props with
    | nil =>
      rw [h.2.1] at hlength
      exact absurd hlength (by decide)
    | cons p props =>
      obtain ⟨-, hentries⟩ := entriesFrom_first h
      exact absurd hkey (search_none hwf List.mem_cons_self
        (fun q hq => List.mem_cons_of_mem p hq) hentries hfirst e hreach)

section Values

variable (hwf : WellFormedList props)
  (h : HasArgument m pkg.address (propertiesPackage props).1 (propertiesPackage props).2)

include hwf h in
/-- **A query succeeds with what the first value with the key is parsed to.** -/
theorem withValue_ok_iff {α : Type} {parse : ArgumentPtr → Traced AcpiStatus α} {a : α} :
    (withValue m pkg key parse).result = .ok a
      ↔ ∃ value, firstValue props key = some value
        ∧ ∃ v, ValueOf m pkg key v ∧ HasArgument m v.address value.encode.1 value.encode.2
          ∧ (parse v).result = .ok a := by
  rw [withValue_eq_ok_iff]
  constructor
  · rintro ⟨v, hv, ha⟩
    obtain ⟨value, hfirst, hargument⟩ := firstValue_of_valueOf hwf h hv
    exact ⟨value, hfirst, v, hv, hargument, ha⟩
  · rintro ⟨-, -, v, hv, -, ha⟩
    exact ⟨v, hv, ha⟩

include hwf h in
/-- **An integer that is found is the one that was written.** -/
theorem queryIntegerValue_ok_iff {n : Nat} : (queryIntegerValue m pkg key).result = .ok n
    ↔ ∃ x, firstValue props key = some (.integer x) ∧ x.toNat = n := by
  rw [queryIntegerValue, withValue_ok_iff hwf h]
  constructor
  · rintro ⟨value, hfirst, v, -, ⟨htype, hlength, hdata⟩, hparse⟩
    simp only [argumentParseInteger, result_read_bind, result_guard_eq_ok_iff, not_not,
      result_pure, Except.ok.injEq] at hparse
    obtain ⟨hinteger, hfour, hn⟩ := hparse
    rw [htype] at hinteger
    cases value with
    | integer x =>
      refine ⟨x, hfirst, ?_⟩
      rw [argData, hfour] at hdata
      rw [← hn, loadLe, hdata, PropertyValue.encode, leNat_leBytes]
      exact (Nat.mod_eq_of_lt x.isLt).symm
    | string s => exact absurd hinteger (show 1 ≠ 0 by decide)
    | buffer bytes => exact absurd hinteger (show 2 ≠ 0 by decide)
    | package elements => exact absurd hinteger (show 3 ≠ 0 by decide)
  · rintro ⟨x, hfirst, hn⟩
    obtain ⟨v, hv, htype, hlength, hdata⟩ := valueOf_of_firstValue hwf h hfirst
    refine ⟨_, hfirst, v, hv, ⟨htype, hlength, hdata⟩, ?_⟩
    simp only [argumentParseInteger, result_read_bind, result_guard_eq_ok_iff, not_not,
      result_pure, Except.ok.injEq]
    have hfour : dataLength m v.address = 4 := hlength.trans (length_leBytes 4 x.toNat)
    rw [argData, hfour] at hdata
    refine ⟨htype, hfour, ?_⟩
    rw [loadLe, hdata, PropertyValue.encode, leNat_leBytes, ← hn]
    exact Nat.mod_eq_of_lt x.isLt

include hwf h in
/-- **A string that is found is the one that was written**, with its zero. -/
theorem queryStringValue_ok_iff {maxLength : Nat} {out : List (BitVec 8)} :
    (queryStringValue m pkg key maxLength).result = .ok out
      ↔ ∃ s, firstValue props key = some (.string s) ∧ s.length < maxLength ∧ s ++ [0] = out := by
  rw [queryStringValue, withValue_ok_iff hwf h]
  constructor
  · rintro ⟨value, hfirst, v, -, ⟨htype, hlength, hdata⟩, hparse⟩
    simp only [argumentParseString, result_read_bind, result_guard_eq_ok_iff, not_not, Nat.not_lt,
      result_pure, Except.ok.injEq] at hparse
    obtain ⟨hstring, hle, hout⟩ := hparse
    rw [htype] at hstring
    rw [hlength] at hle
    rw [hdata] at hout
    cases value with
    | integer x => exact absurd hstring (show 0 ≠ 1 by decide)
    | string s =>
      refine ⟨s, hfirst, ?_, hout⟩
      rw [PropertyValue.encode, stringOf, List.length_append, List.length_singleton] at hle
      exact hle
    | buffer bytes => exact absurd hstring (show 2 ≠ 1 by decide)
    | package elements => exact absurd hstring (show 3 ≠ 1 by decide)
  · rintro ⟨s, hfirst, hlt, hout⟩
    obtain ⟨v, hv, htype, hlength, hdata⟩ := valueOf_of_firstValue hwf h hfirst
    refine ⟨_, hfirst, v, hv, ⟨htype, hlength, hdata⟩, ?_⟩
    simp only [argumentParseString, result_read_bind, result_guard_eq_ok_iff, not_not, Nat.not_lt,
      result_pure, Except.ok.injEq]
    refine ⟨htype, ?_, hdata.trans hout⟩
    rw [hlength, PropertyValue.encode, stringOf, List.length_append, List.length_singleton]
    exact hlt

end Values

end Find

/-! ## 6. A `_DSD`

The whole buffer, from its header on: the parse finds the GUID, and behind it the package.  The
bounds of all reads come from here too, since bytes that were written as properties are well-formed
properties. -/

/-- The buffer holds the `_DSD`. -/
def HoldsDsd (m : Memory) (props : List Property) : Prop :=
  load m 0 (dsdBytes props).length = dsdBytes props

section Dsd

variable {m : Memory} {props : List Property}

theorem propertiesPackage_fits (hwf : WellFormedList props) : (propertiesPackage props).Fits :=
  ⟨(by decide : 3 < 65536), hwf.fits⟩

/-- The header of a result. -/
theorem result_header (args : List AcpiValue) (hargs : args.length < 256 ^ 4)
    (hlength : 12 + (rowBytes args).length < 256 ^ 4)
    (h : load m 0 (resultBytes args).length = resultBytes args) :
    outputLength m = 12 + (rowBytes args).length ∧ outputCount m = args.length
      ∧ Stored m outputArgument args := by
  have hpieces : resultBytes args = leBytes 4 evalOutputBufferSignature
      ++ leBytes 4 (12 + (rowBytes args).length) ++ leBytes 4 args.length ++ rowBytes args := rfl
  rw [hpieces] at h
  refine ⟨?_, ?_, ?_⟩
  · have hpiece := load_piece (leBytes 4 evalOutputBufferSignature)
      (leBytes 4 (12 + (rowBytes args).length)) (leBytes 4 args.length ++ rowBytes args)
      (by simpa only [List.append_assoc] using h)
    simp only [length_leBytes, Nat.zero_add] at hpiece
    rw [outputLength, loadLe, hpiece, leNat_leBytes, Nat.mod_eq_of_lt hlength]
  · have hpiece := load_piece _ (leBytes 4 args.length) (rowBytes args) h
    simp only [List.length_append, length_leBytes, Nat.zero_add] at hpiece
    rw [outputCount, loadLe, hpiece, leNat_leBytes, Nat.mod_eq_of_lt hargs]
  · have hpiece := load_piece _ (rowBytes args) [] (by simpa only [List.append_nil] using h)
    simp only [List.length_append, length_leBytes, Nat.zero_add] at hpiece
    exact hpiece

/-- **The bytes of arguments are a result**, if there is one and the length has room for them. -/
theorem isResult_resultBytes (args : List AcpiValue) (hne : args ≠ []) (hargs : args.length < 256 ^ 4)
    (hlength : 12 + (rowBytes args).length < 256 ^ 4) : IsResult (resultBytes args) := by
  have hpieces : resultBytes args = leBytes 4 evalOutputBufferSignature
      ++ (leBytes 4 (12 + (rowBytes args).length) ++ (leBytes 4 args.length ++ rowBytes args)) := by
    simp only [resultBytes, rowBytes, List.append_assoc]
  have hcount := length_mul_le_rowBytes args
  have hpos := List.length_pos_of_ne_nil hne
  have htotal : (resultBytes args).length = 12 + (rowBytes args).length := by
    rw [hpieces]
    simp only [List.length_append, length_leBytes]
    omega
  refine ⟨?_, ?_, ?_, ?_⟩
  · rw [htotal, sizeofEvalOutputBuffer]
    omega
  · rwa [htotal]
  · rw [hpieces, List.take_left' (length_leBytes ..), leNat_leBytes]
    decide
  · rw [hpieces, ← List.append_assoc, List.drop_left' (by simp), List.take_left' (length_leBytes ..),
      leNat_leBytes, Nat.mod_eq_of_lt hargs]
    exact Nat.ne_of_gt hpos

/-- The arguments of a `_DSD`. -/
theorem length_dsdRow (props : List Property) :
    (rowBytes [(methodArgumentBuffer, devicePropertiesGuid), propertiesPackage props]).length
      = 24 + max 4 (rowBytes (props.map pairOf)).length := by
  rw [rowBytes_cons, rowBytes_cons, rowBytes_nil, List.append_nil, List.length_append,
    length_resultArgument, length_resultArgument]
  have hdata : (propertiesPackage props).2.length = (rowBytes (props.map pairOf)).length := rfl
  have hsixteen : (methodArgumentBuffer, devicePropertiesGuid).2.length = 16 := rfl
  rw [hdata, hsixteen]
  omega

theorem isResult_dsdBytes (hwf : WellFormedList props) : IsResult (dsdBytes props) := by
  have hfits := hwf.fits
  refine isResult_resultBytes [_, _] (List.cons_ne_nil _ _) (show 2 < 256 ^ 4 by decide) ?_
  rw [length_dsdRow]
  omega

/-- **The GUID and the package of a `_DSD`**, and its header. -/
theorem dsd_arguments (hwf : WellFormedList props) (h : HoldsDsd m props) :
    outputLength m = 36 + max 4 (rowBytes (props.map pairOf)).length ∧ outputCount m = 2
      ∧ HasArgument m outputArgument methodArgumentBuffer devicePropertiesGuid
      ∧ (propertiesPkg m).address = 32
      ∧ HasArgument m (propertiesPkg m).address (propertiesPackage props).1
        (propertiesPackage props).2 := by
  have hfits := hwf.fits
  have hguid : AcpiValue.Fits (methodArgumentBuffer, devicePropertiesGuid) := by
    exact ⟨by decide, by decide⟩
  have hrow := length_dsdRow props
  obtain ⟨hlength, hcount, hstored⟩ := result_header [_, _] (show 2 < 256 ^ 4 by decide)
    (by rw [hrow]; omega) h
  obtain ⟨hfirst, hrest⟩ := stored_cons hguid hstored
  have haddress := propertiesPkg_address hfirst.2.1
  obtain ⟨hpackage, -⟩ := stored_cons (propertiesPackage_fits hwf) hrest
  exact ⟨by rw [hlength, hrow]; omega, hcount, hfirst, haddress, hpackage⟩

/-- **The parse finds the package of the properties.** -/
theorem parse_dsdBytes (hwf : WellFormedList props) (h : HoldsDsd m props) :
    (parseDsdAsDeviceProperties m).result = .ok (propertiesPkg m) := by
  obtain ⟨hlength, hcount, hguid, haddress, hpackage⟩ := dsd_arguments hwf h
  have hheader : outputArgument ≤ outputLength m := by
    rw [hlength, outputArgument]
    omega
  refine (parse_eq_ok_iff hheader).mpr ⟨⟨⟨⟨hcount, ?_, hguid.1, hguid.2.1⟩, hguid.2.2, ?_⟩,
    hpackage.1⟩, rfl⟩
  · rw [hlength, outputArgument, sizeofMethodArgument]
    omega
  · rw [hlength]
    omega

/-- An entry that holds a pair is well-formed. -/
theorem pair_wellFormed (hwf : WellFormedList props) {p : Property} (hp : p ∈ props) {entry : Nat}
    (h : HasArgument m entry (pairOf p).1 (pairOf p).2) : WellFormedPair m entry := by
  obtain ⟨-, hstringFits, hvalueFits⟩ := fits_of_pair hwf hp
  obtain ⟨hstored, hend⟩ := stored_package h
  obtain ⟨hkey, hrest⟩ := stored_cons hstringFits hstored
  obtain ⟨hvalue, -⟩ := stored_cons hvalueFits hrest
  have hstop : nextArgument m (nextArgument m (entry + 4)) = dataEnd m entry := by
    rw [nextArgument_eq hvalue, nextArgument_eq hkey, hend, rowBytes_cons, rowBytes_cons,
      rowBytes_nil, List.append_nil, List.length_append, Nat.add_assoc]
  have hkeyFormed := (@hasKey_of_pair m ⟨entry, [], by simp⟩ p props hwf hp h).2.2.2
  refine ⟨entry + 4, nextArgument m (entry + 4), ⟨h.1, rfl, rfl, hstop⟩, hkeyFormed, fun htype => ?_⟩
  rw [hvalue.1] at htype
  have hformed := hwf.values p hp
  cases hcase : p.2 with
  | integer x =>
    rw [hcase] at htype
    exact absurd htype (show 0 ≠ 3 by decide)
  | string s =>
    rw [hcase] at htype
    exact absurd htype (show 1 ≠ 3 by decide)
  | buffer bytes =>
    rw [hcase] at htype
    exact absurd htype (show 2 ≠ 3 by decide)
  | package elements =>
    rw [hcase] at hvalue hvalueFits hformed
    have hintegers : ∀ a ∈ elements,
        a.1 < 65536 ∧ (a.1 = methodArgumentInteger → a.2.length = 4) := hformed
    obtain ⟨addresses, helements, hall⟩ := package_elements
      (fun a ha => ⟨(hintegers a ha).1,
        Nat.lt_of_le_of_lt (length_le_rowBytes ha).2 hvalueFits.2⟩) hvalue
    refine ⟨addresses, helements, fun b hb hinteger => ?_⟩
    obtain ⟨a, ha, hargument⟩ := hall b hb
    rw [hargument.1] at hinteger
    rw [hargument.2.1]
    exact (hintegers a ha).2 hinteger

/-- **The properties are well-formed in memory**, so that a search for a key reads inside. -/
theorem dsd_wellFormed (hwf : WellFormedList props) (h : HoldsDsd m props) :
    WellFormedProperties m (propertiesPkg m) := by
  obtain ⟨hlength, -, -, haddress, hpackage⟩ := dsd_arguments hwf h
  obtain ⟨entries, helements, hall⟩ := package_elements (fun a ha => by
    obtain ⟨p, hp, rfl⟩ := List.mem_map.mp ha
    exact (fits_of_pair hwf hp).1) hpackage
  refine ⟨?_, entries, helements, fun entry hentry => ?_⟩
  · have hwithin : (propertiesPkg m).within = [outputExtent m] := rfl
    have hdata : dataLength m (propertiesPkg m).address
        = (rowBytes (props.map pairOf)).length := hpackage.2.1
    unfold ArgumentPtr.Whole ArgumentPtr.Fits
    rw [hwithin, List.forall_mem_singleton, haddress] at *
    unfold outputExtent
    dsimp only
    rw [hdata, hlength]
    omega
  · obtain ⟨a, ha, hargument⟩ := hall entry hentry
    obtain ⟨p, hp, rfl⟩ := List.mem_map.mp ha
    exact pair_wellFormed hwf hp hargument

/-! ## 7. The round trip

Each kind of query reads the value that was written under the key, or finds nothing, and stays
inside the bytes of the result. -/

/-- **The queries read back what was written**, whatever the key, and inside of the bytes. -/
structure ReadsBack (m : Memory) (pkg : ArgumentPtr) (props : List Property) : Prop where
  found : ∀ key value, firstValue props key = some value →
    ∃ v, (queryValue m pkg key).result = .ok v
      ∧ HasArgument m v.address value.encode.1 value.encode.2 ∧ v.Whole m
  missing : ∀ key, firstValue props key = none → ∀ v, (queryValue m pkg key).result ≠ .ok v
  integer : ∀ key n, (queryIntegerValue m pkg key).result = .ok n ↔
    ∃ x, firstValue props key = some (.integer x) ∧ x.toNat = n
  string : ∀ key maxLength out, (queryStringValue m pkg key maxLength).result = .ok out ↔
    ∃ s, firstValue props key = some (.string s) ∧ s.length < maxLength ∧ s ++ [0] = out
  inside : ∀ key, (queryValue m pkg key).InBounds ∧ (queryIntegerValue m pkg key).InBounds
    ∧ ∀ maxLength, (queryStringValue m pkg key maxLength).InBounds

/-- What is as a whole in its buffer can be parsed inside. -/
theorem parsed_inside {v : ArgumentPtr} (hv : v.Whole m) :
    IntegerInside m v ∧ ∀ maxLength, StringInside m maxLength v := by
  refine ⟨⟨hv.le (by omega), fun _ => ⟨hv.le (by omega), fun hfour => hv.le (by omega)⟩⟩,
    fun _ => ⟨hv.le (by omega), fun _ => ⟨hv.le (by omega), fun _ => hv⟩⟩⟩

/-- **Whatever properties the firmware returns**, the parse finds their package and the queries
read them back.  The search goes along the list of pairs and stops at the first with the key, and
what lies behind a key are the bytes of its value. -/
theorem dsd_readsBack (m : Memory) (props : List Property) (hwf : WellFormedList props)
    (h : HoldsDsd m props) :
    (parseDsdAsDeviceProperties m).result = .ok (propertiesPkg m)
      ∧ (parseDsdAsDeviceProperties m).InBounds ∧ ReadsBack m (propertiesPkg m) props := by
  obtain ⟨hlength, -, -, -, hpackage⟩ := dsd_arguments hwf h
  have hformed := dsd_wellFormed hwf h
  refine ⟨parse_dsdBytes hwf h, parse_inBounds_iff.mpr ⟨?_, fun _ => ?_, fun _ => ?_⟩,
    ⟨fun key value hfirst => ?_, fun key hnone v hv => ?_, fun key n => queryIntegerValue_ok_iff hwf hpackage,
      fun key maxLength out => queryStringValue_ok_iff hwf hpackage, fun key => ⟨?_, ?_, ?_⟩⟩⟩
  · rw [hlength, outputArgument]
    omega
  · omega
  · omega
  · obtain ⟨v, hv, hargument⟩ := valueOf_of_firstValue hwf hpackage hfirst
    exact ⟨v, queryValue_eq_ok_iff.mpr hv, hargument, (value_wellFormed hformed hv).1⟩
  · obtain ⟨value, hfirst, -⟩ :=
      firstValue_of_valueOf hwf hpackage (queryValue_eq_ok_iff.mp hv)
    rw [hfirst] at hnone
    cases hnone
  · exact queryValue_inBounds_iff.mpr (searchInside hformed)
  · exact withValue_inBounds_iff.mpr ⟨searchInside hformed, fun v hv =>
      argumentParseInteger_inBounds_iff.mpr (parsed_inside (value_wellFormed hformed hv).1).1⟩
  · exact fun maxLength => withValue_inBounds_iff.mpr ⟨searchInside hformed, fun v hv =>
      argumentParseString_inBounds_iff.mpr
        ((parsed_inside (value_wellFormed hformed hv).1).2 maxLength)⟩

/-- Properties of each kind but a buffer. -/
def threeProperties : List Property :=
  [(ascii "snps,pbl", .integer 16), (ascii "snps,axi-config", .string (ascii "AXIC")),
    (ascii "snps,blen", .package [(methodArgumentInteger, leBytes 4 64)])]

theorem threeProperties_wellFormed : WellFormedList threeProperties :=
  ⟨by decide, by decide, by decide⟩

theorem dsd_readsBack_three :
    (parseDsdAsDeviceProperties (store (fun _ => 0) 0 (dsdBytes threeProperties))).result
        = .ok (propertiesPkg (store (fun _ => 0) 0 (dsdBytes threeProperties)))
      ∧ (parseDsdAsDeviceProperties (store (fun _ => 0) 0 (dsdBytes threeProperties))).InBounds
      ∧ ReadsBack (store (fun _ => 0) 0 (dsdBytes threeProperties))
        (propertiesPkg (store (fun _ => 0) 0 (dsdBytes threeProperties))) threeProperties :=
  dsd_readsBack _ threeProperties threeProperties_wellFormed (load_store_self _ 0 _)

end Dsd

end WoaRk3576.Acpi
