/-
# What the topology parser finds

A well-formed `_DSD` result is a list of pairs of a GUID and a package, and the package behind the
Device-Properties GUID a list of properties, each a name and a value.  What `GetRKTplg` is to find
in it is said of these lists and not of bytes: a field has the value of the last property of its
name (`lastValue`), and the call succeeds where there is a Device-Properties GUID (`TplgCorrect`).

`getRKTplg_correct` says when it does, in both directions.  The steps from the bytes to the lists:

* `CHECK_STR` compares with `strncmp` up to the length of the name.  On a well-formed string that is
  equality (`checkStr_eq`), so each property reaches at most one field.
* A package does to the topology what its properties do one after another, and the result what the
  packages do (`parseProperties_eq`, `parsePairs_eq`), by induction over the lists along the
  addresses that the lengths lead to.  What is left is a fold of `setProperty`.
* In the fold a later property of the same name overwrites an earlier one, and the fields do not
  meet (`content_copy_of_ne`, `content_foldl`).
* A value that is copied is the value that is read back exactly if it fits (`copied_is_iff`).

Two kinds of results are left over.  A string of 32 characters or more is cut without a zero behind
it (`longDma_incorrect`), so its consumers read on.  And a result without pairs fits the buffer of
the first evaluation: the second evaluation, the one that is parsed, is never reached, and success
is returned with a topology that nobody has filled in (`getRKTplg_of_nil`).
-/
import WoaRk3576.Audio.RkTplg
import Mathlib.Tactic.MkIffOfInductiveProp

namespace WoaRk3576.Audio

open WoaRk3576.Lib WoaRk3576.Acpi

/-! ## 1. Well-formed results

A result as the specification of `_DSD` has it, as a list of pairs and as bytes at an address.  A
string may come with its zero or without it, since both occur. -/

/-- A string of a result, with its zero or without it. -/
structure DsdString where
  chars : List (BitVec 8)
  terminated : Bool
  isChars : IsChars chars

/-- The data bytes of a string. -/
def DsdString.data (s : DsdString) : List (BitVec 8) := ended s.terminated s.chars

/-- The value of a property. -/
inductive DsdValue
  | integer (n : BitVec 32)
  | string (s : DsdString)

/-- The type of the argument. -/
def DsdValue.type : DsdValue → Nat
  | .integer _ => methodArgumentInteger
  | .string _ => methodArgumentString

/-- The data bytes of the argument. -/
def DsdValue.data : DsdValue → List (BitVec 8)
  | .integer n => leBytes 4 n.toNat
  | .string s => s.data

structure DsdProperty where
  name : DsdString
  value : DsdValue

/-- A GUID and the package behind it.  Only behind the Device-Properties GUID the package is a
list of properties. -/
structure DsdPair where
  guid : List (BitVec 8)
  guid_length : guid.length = 16
  properties : List DsdProperty

section Layout

variable (m : Memory)

/-- An argument with its data. -/
@[mk_iff]
structure ArgumentAt (argument type : Nat) (data : List (BitVec 8)) : Prop where
  type_eq : argType m argument = type
  data_eq : argData m argument = data

/-- A property is a package of its name and its value. -/
@[mk_iff]
structure PropertyAt (argument : Nat) (x : DsdProperty) : Prop where
  type_eq : argType m argument = methodArgumentPackage
  name : ArgumentAt m (argument + 4) methodArgumentString x.name.data
  value : ArgumentAt m (propertyValue m argument) x.value.type x.value.data
  ends : nextArgument m (propertyValue m argument) = dataEnd m argument

/-- Properties one behind another, up to `stop`. -/
def PropertiesAt : Nat → List DsdProperty → Nat → Prop
  | argument, [], stop => argument = stop
  | argument, x :: xs, stop =>
    PropertyAt m argument x ∧ PropertiesAt (nextArgument m argument) xs stop

@[mk_iff]
structure PairAt (guidArg : Nat) (x : DsdPair) : Prop where
  guid : ArgumentAt m guidArg methodArgumentBuffer x.guid
  package : argType m (nextArgument m guidArg) = methodArgumentPackage
  properties : x.guid = devicePropertiesGuid →
    PropertiesAt m (nextArgument m guidArg + 4) x.properties (dataEnd m (nextArgument m guidArg))

/-- Pairs one behind another, up to `stop`. -/
def PairsAt : Nat → List DsdPair → Nat → Prop
  | argument, [], stop => argument = stop
  | argument, x :: xs, stop =>
    PairAt m argument x ∧ PairsAt (nextArgument m (nextArgument m argument)) xs stop

/-- **A well-formed result.** -/
@[mk_iff]
structure ResultAt (pairs : List DsdPair) : Prop where
  signature : outputSignature m = evalOutputBufferSignature
  count : outputCount m = 2 * pairs.length
  pairs : PairsAt m outputArgument pairs (outputLength m)

end Layout

section Decidable

variable (m : Memory)

instance (argument type : Nat) (data : List (BitVec 8)) :
    Decidable (ArgumentAt m argument type data) :=
  decidable_of_iff _ (argumentAt_iff m argument type data).symm

instance (argument : Nat) (x : DsdProperty) : Decidable (PropertyAt m argument x) :=
  decidable_of_iff _ (propertyAt_iff m argument x).symm

instance decidablePropertiesAt :
    ∀ (argument : Nat) (xs : List DsdProperty) (stop : Nat),
      Decidable (PropertiesAt m argument xs stop)
  | argument, [], stop => inferInstanceAs (Decidable (argument = stop))
  | argument, _ :: xs, stop =>
    have := decidablePropertiesAt (nextArgument m argument) xs stop
    inferInstanceAs (Decidable (_ ∧ _))

instance (guidArg : Nat) (x : DsdPair) : Decidable (PairAt m guidArg x) :=
  decidable_of_iff _ (pairAt_iff m guidArg x).symm

instance decidablePairsAt :
    ∀ (argument : Nat) (xs : List DsdPair) (stop : Nat), Decidable (PairsAt m argument xs stop)
  | argument, [], stop => inferInstanceAs (Decidable (argument = stop))
  | argument, _ :: xs, stop =>
    have := decidablePairsAt (nextArgument m (nextArgument m argument)) xs stop
    inferInstanceAs (Decidable (_ ∧ _))

instance (pairs : List DsdPair) : Decidable (ResultAt m pairs) :=
  decidable_of_iff _ (resultAt_iff m pairs).symm

end Decidable

/-- **The system evaluates `_DSD` to a well-formed result.**  The evaluation succeeds with a buffer
that the result fits, and a buffer that it does not fit is answered with the length. -/
structure Answers.Evaluates (a : Answers) (pairs : List DsdPair) : Prop where
  result : ResultAt a.memory pairs
  fits : outputLength a.memory ≤ sizeofEvalOutputBuffer → ntSuccess a.first = true
  overflow : sizeofEvalOutputBuffer < outputLength a.memory →
    a.first = statusBufferOverflow ∧ a.length.toNat = outputLength a.memory
  create : ntSuccess a.create = true
  second : ntSuccess a.second = true

/-! ## 2. What is to be found

What a consumer of the topology wants to know, in terms of the list: for each field the last value
with its name, and success if there is a pair with the right GUID. A string has to be one that a
consumer can read, which means with its zero inside the field. -/

/-- The properties behind the Device-Properties GUIDs. -/
def dsdProperties (pairs : List DsdPair) : List DsdProperty :=
  (pairs.filter fun x => x.guid == devicePropertiesGuid).flatMap DsdPair.properties

/-- The value of the last property that has the name of a field. -/
def lastValue (xs : List DsdProperty) (f : TplgField) : Option DsdValue :=
  (xs.filter fun x => x.name.chars == f.property).getLast?.map DsdProperty.value

/-- What a field of `RK_TPLG` holds. -/
inductive FieldContent
  | chars (bytes : List (BitVec 8))
  | number (n : BitVec 32)

def RkTplg.content (r : RkTplg) : TplgField → FieldContent
  | .dmaName => .chars r.dmaName
  | .audioTplg => .chars r.audioTplg
  | .tx => .number r.tx
  | .rx => .number r.rx
  | .i2sTxRoute => .number r.i2sTxRoute
  | .i2sRxRoute => .number r.i2sRxRoute

/-- **The field has the value**, as its consumers read it; without a value it is zero. -/
def FieldContent.Is : FieldContent → Option DsdValue → Prop
  | .chars bytes, none => bytes = List.replicate tplgNameSize 0
  | .chars bytes, some (.string s) => cString bytes = some s.chars
  | .number n, none => n = 0
  | .number n, some (.integer k) => n = k
  | _, _ => False

/-- An array of `char` that its consumers may read as a string. -/
def Terminated (bytes : List (BitVec 8)) : Prop := bytes.length = tplgNameSize ∧ 0 ∈ bytes

/-- **What `GetRKTplg` is to do with a result.** -/
structure TplgCorrect (pairs : List DsdPair) (result : TplgResult) : Prop where
  succeeds : ntSuccess result.status = true ↔ ∃ x ∈ pairs, x.guid = devicePropertiesGuid
  value : ntSuccess result.status = true →
    ∀ f, (result.rkTplg.content f).Is (lastValue (dsdProperties pairs) f)
  terminated : ntSuccess result.status = true →
    Terminated result.rkTplg.dmaName ∧ Terminated result.rkTplg.audioTplg

/-- The value is of the field's type and fits it: a string with its zero. -/
def TplgField.Fits : TplgField → DsdValue → Prop
  | .dmaName, .string s | .audioTplg, .string s => s.chars.length < tplgNameSize
  | .tx, .integer _ | .rx, .integer _ | .i2sTxRoute, .integer _ | .i2sRxRoute, .integer _ => True
  | _, _ => False

/-! ## 3. Names

`CHECK_STR` compares as many bytes as the name in the result has, its zero included if it comes
with one, and a shorter name is turned down before.  On a string this is equality either way, so a
name that merely begins alike is not taken for a known one. -/

/-- The field of a name. -/
def fieldOf (name : List (BitVec 8)) : Option TplgField :=
  tplgFields.find? fun f => name == f.property

/-- What the names have behind `rockchip,`. -/
theorem drop_property (f : TplgField) : f.property.drop 9 = ascii (match f with
    | .dmaName => "dma"
    | .audioTplg => "tplg"
    | .tx => "tx"
    | .rx => "rx"
    | .i2sTxRoute => "i2s-tx-route"
    | .i2sRxRoute => "i2s-rx-route") := by
  cases f <;> decide

theorem property_injective {f g : TplgField} (h : f.property = g.property) : f = g := by
  have hdrop := congrArg (List.drop 9) h
  rw [drop_property, drop_property] at hdrop
  cases f <;> cases g <;> first | rfl | exact absurd hdrop (by decide)

theorem fieldOf_eq_some_iff {name : List (BitVec 8)} {f : TplgField} :
    fieldOf name = some f ↔ name = f.property := by
  unfold fieldOf
  constructor
  · intro h
    have hfound := List.find?_some h
    rwa [beq_iff_eq] at hfound
  · rintro rfl
    have hsame : (fun g : TplgField => f.property == g.property) = fun g => decide (f = g) := by
      funext g
      rw [Bool.eq_iff_iff, beq_iff_eq, decide_eq_true_eq]
      exact ⟨property_injective, congrArg TplgField.property⟩
    rw [hsame]
    cases f <;> rfl

theorem isChars_property (f : TplgField) : IsChars f.property := by
  cases f <;> decide

/-- **`CHECK_STR` on a string is equality**, with the zero of the string or without it. -/
theorem checkStr_eq {m : Memory} {argument : Nat} {s : DsdString}
    (h : argData m argument = s.data) {str : List (BitVec 8)} (hstr : IsChars str) :
    checkStr m argument str = (s.chars == str) := by
  have hlength : dataLength m argument = s.data.length := by rw [← h, length_argData]
  unfold checkStr
  rw [h, hlength, Bool.eq_iff_iff, Bool.and_eq_true, decide_eq_true_eq, beq_iff_eq]
  constructor
  · rintro ⟨hle, heq⟩
    exact (strncmp_ended s.terminated s.isChars hstr hle).mp heq
  · intro heq
    have hle : str.length ≤ s.data.length := by
      rw [← Nat.not_lt]
      exact fun hlt => ne_of_ended_lt hlt heq
    exact ⟨hle, (strncmp_ended s.terminated s.isChars hstr hle).mpr heq⟩

theorem matchedField_eq {m : Memory} {name : Nat} {s : DsdString} (h : argData m name = s.data) :
    matchedField m name = fieldOf s.chars := by
  have hcheck : (fun f : TplgField => checkStr m name f.property)
      = fun f => s.chars == f.property :=
    funext fun f => checkStr_eq h (isChars_property f)
  unfold matchedField fieldOf
  rw [hcheck]

/-! ## 4. Fields

A copy changes its own field and no other.  The properties of a package are therefore a fold in
which each field depends on the properties of its own name, and of these on the last one. -/

/-- What a property does to the topology. -/
def setProperty (r : RkTplg) (x : DsdProperty) : RkTplg :=
  match fieldOf x.name.chars with
  | none => r
  | some f => r.copy x.value.data f

/-- What a copy leaves in its field. -/
def copied (data : List (BitVec 8)) : TplgField → FieldContent
  | .dmaName | .audioTplg => .chars (copyDSDParam data)
  | .tx | .rx | .i2sTxRoute | .i2sRxRoute => .number (copyDSDParamNum data)

theorem content_copy (r : RkTplg) (data : List (BitVec 8)) (f : TplgField) :
    (r.copy data f).content f = copied data f := by
  cases f <;> rfl

/-- A copy leaves the other fields as they are. -/
theorem content_copy_of_ne (r : RkTplg) (data : List (BitVec 8)) {f g : TplgField} (h : f ≠ g) :
    (r.copy data f).content g = r.content g := by
  cases f <;> cases g <;> first | rfl | exact absurd rfl h

/-- **The last property of a name counts.** -/
theorem content_foldl (r : RkTplg) (f : TplgField) (xs : List DsdProperty) :
    (xs.foldl setProperty r).content f
      = match lastValue xs f with
        | none => r.content f
        | some v => copied v.data f := by
  induction xs using List.reverseRecOn with
  | nil => rfl
  | append_singleton xs x ih =>
    rw [List.foldl_append, List.foldl_cons, List.foldl_nil]
    unfold lastValue at ih ⊢
    rw [List.filter_append]
    by_cases hname : x.name.chars = f.property
    · have hfield : fieldOf x.name.chars = some f := fieldOf_eq_some_iff.mpr hname
      have hfilter : [x].filter (fun y => y.name.chars == f.property) = [x] := by
        rw [List.filter_cons_of_pos (by rwa [beq_iff_eq]), List.filter_nil]
      rw [hfilter, List.getLast?_concat]
      unfold setProperty
      rw [hfield]
      exact content_copy _ _ f
    · have hfilter : [x].filter (fun y => y.name.chars == f.property) = [] := by
        rw [List.filter_cons_of_neg (by rwa [beq_iff_eq]), List.filter_nil]
      have hkeep : (setProperty (xs.foldl setProperty r) x).content f
          = (xs.foldl setProperty r).content f := by
        unfold setProperty
        cases hfield : fieldOf x.name.chars with
        | none => rfl
        | some g =>
          refine content_copy_of_ne _ _ ?_
          rintro rfl
          exact hname (fieldOf_eq_some_iff.mp hfield)
      rw [hfilter, List.append_nil, hkeep, ih]

/-! ## 5. Values

When a copied value is the value: a number always, and a string if its zero fits into the field.
This is where the length of 31 characters comes from. -/

theorem length_copyDSDParam (data : List (BitVec 8)) :
    (copyDSDParam data).length = tplgNameSize := by
  unfold copyDSDParam
  rw [List.length_append, List.length_take, List.length_replicate]
  omega

/-- **A string is copied as it is if it fits with its zero**, and otherwise it has no end. -/
theorem cString_copyDSDParam (s : DsdString) :
    cString (copyDSDParam s.data) = some s.chars ↔ s.chars.length < tplgNameSize := by
  have hlength : s.data.length = s.chars.length + s.terminated.toNat := by
    unfold DsdString.data ended
    rw [List.length_append, List.length_replicate]
  have hzero : s.terminated.toNat ≤ 1 := Bool.toNat_le s.terminated
  constructor
  · intro h
    by_contra hge
    have htake : copyDSDParam s.data = s.chars.take tplgNameSize := by
      unfold copyDSDParam DsdString.data ended
      rw [List.take_append_of_le_length (by omega), List.length_append, List.length_replicate,
        Nat.sub_eq_zero_of_le (by omega), List.replicate_zero, List.append_nil]
    have hchars : IsChars (copyDSDParam s.data) := by
      rw [htake]
      exact fun c hc => s.isChars c (List.mem_of_mem_take hc)
    rw [cString_of_isChars hchars] at h
    exact absurd h (by simp)
  · intro hlt
    have hcopy : copyDSDParam s.data
        = s.chars ++ List.replicate (tplgNameSize - s.chars.length) 0 := by
      have hsum : s.terminated.toNat + (tplgNameSize - s.data.length)
          = tplgNameSize - s.chars.length := by omega
      unfold copyDSDParam
      rw [List.take_of_length_le (by omega), ← hsum, ← List.replicate_append_replicate,
        ← List.append_assoc]
      rfl
    rw [hcopy]
    exact cString_append_zeros s.isChars (by omega)

theorem copyDSDParamNum_leBytes (n : BitVec 32) : copyDSDParamNum (leBytes 4 n.toNat) = n := by
  have hlength : (leBytes 4 n.toNat).length ≤ 4 := Nat.le_of_eq (length_leBytes 4 n.toNat)
  have hn : n.toNat < 256 ^ 4 := n.isLt
  unfold copyDSDParamNum
  rw [List.take_of_length_le hlength, leNat_leBytes, Nat.mod_eq_of_lt hn, BitVec.ofNat_toNat,
    BitVec.setWidth_eq]

/-- **A field has the value that is copied to it exactly if the value fits.** -/
theorem copied_is_iff (f : TplgField) (v : DsdValue) :
    (copied v.data f).Is (some v) ↔ f.Fits v := by
  cases v with
  | integer n =>
    have hnumber := copyDSDParamNum_leBytes n
    cases f with
    | dmaName => exact Iff.rfl
    | audioTplg => exact Iff.rfl
    | tx => exact ⟨fun _ => trivial, fun _ => hnumber⟩
    | rx => exact ⟨fun _ => trivial, fun _ => hnumber⟩
    | i2sTxRoute => exact ⟨fun _ => trivial, fun _ => hnumber⟩
    | i2sRxRoute => exact ⟨fun _ => trivial, fun _ => hnumber⟩
  | string s =>
    have hstring := cString_copyDSDParam s
    cases f with
    | dmaName => exact hstring
    | audioTplg => exact hstring
    | tx => exact Iff.rfl
    | rx => exact Iff.rfl
    | i2sTxRoute => exact Iff.rfl
    | i2sRxRoute => exact Iff.rfl

theorem start_is_none (f : TplgField) : (RkTplg.start.content f).Is none := by
  cases f <;> rfl

/-- **The properties leave the last values exactly if these fit.** -/
theorem foldl_is_iff (xs : List DsdProperty) (f : TplgField) :
    ((xs.foldl setProperty .start).content f).Is (lastValue xs f)
      ↔ ∀ v, lastValue xs f = some v → f.Fits v := by
  rw [content_foldl]
  cases hlast : lastValue xs f with
  | none => exact ⟨fun _ v hv => absurd hv (by simp), fun _ => start_is_none f⟩
  | some v =>
    rw [copied_is_iff]
    constructor
    · rintro hfits v' hv'
      rwa [← Option.some.inj hv']
    · exact fun h => h v rfl

/-- An array that has its value is terminated. -/
theorem Terminated.of_is {bytes : List (BitVec 8)} {v : Option DsdValue}
    (hlength : bytes.length = tplgNameSize) (h : (FieldContent.chars bytes).Is v) :
    Terminated bytes := by
  refine ⟨hlength, ?_⟩
  match v with
  | none =>
    have hzeros : bytes = List.replicate tplgNameSize 0 := h
    rw [hzeros]
    decide
  | some (.string s) => exact zero_mem_of_cString h

/-- The arrays of the topology keep their size. -/
theorem length_foldl (xs : List DsdProperty) {f : TplgField} {bytes : List (BitVec 8)}
    (h : (xs.foldl setProperty .start).content f = .chars bytes) : bytes.length = tplgNameSize := by
  rw [content_foldl] at h
  cases hlast : lastValue xs f with
  | none =>
    rw [hlast] at h
    cases f <;> cases h <;> rfl
  | some v =>
    rw [hlast] at h
    cases f <;> cases h <;> exact length_copyDSDParam v.data

/-! ## 6. The walk

The walk over addresses does what the fold over the list does.  Both are inductions along the list,
with the address that the lengths lead to as the index. -/

theorem dsdProperties_cons (x : DsdPair) (xs : List DsdPair) :
    dsdProperties (x :: xs) = dsdProperties [x] ++ dsdProperties xs := by
  unfold dsdProperties
  rw [← List.flatMap_append, ← List.filter_append, List.singleton_append]

theorem dsdProperties_singleton (x : DsdPair) :
    dsdProperties [x] = if x.guid == devicePropertiesGuid then x.properties else [] := by
  unfold dsdProperties
  cases hguid : x.guid == devicePropertiesGuid with
  | true => simp [hguid]
  | false => simp [hguid]

section Walk

variable {m : Memory} (buffer : Extent Nat)

theorem applyProperty_eq {argument : Nat} {x : DsdProperty} (h : PropertyAt m argument x)
    (r : RkTplg) : applyProperty m argument r = setProperty r x := by
  have hvalue := h.value.data_eq
  have hfield := matchedField_eq h.name.data_eq
  unfold applyProperty setProperty
  cases hname : fieldOf x.name.chars with
  | none =>
    rw [hname] at hfield
    simp only [hfield]
  | some f =>
    rw [hname] at hfield
    simp only [hfield, hvalue]

theorem PropertiesAt.le : ∀ {argument stop : Nat} {xs : List DsdProperty},
    PropertiesAt m argument xs stop → argument ≤ stop
  | argument, stop, [], h => Nat.le_of_eq h
  | argument, stop, x :: xs, h => by
    have hnext := add_le_nextArgument m argument
    have hrest := PropertiesAt.le h.2
    omega

theorem propertyLoop_eq (packageArg : Nat) : ∀ (xs : List DsdProperty) (fuel : Nat)
    (s : PropertyState), PropertiesAt m s.dsdParameter xs (dataEnd m packageArg) →
    dataEnd m packageArg - s.dsdParameter ≤ fuel →
    (loop (propertyBody m buffer packageArg) fuel s).rkTplg = xs.foldl setProperty s.rkTplg
  | [], fuel, s, h, _ => by
    rw [loop_none (propertyBody_none m buffer packageArg (Nat.le_of_eq (Eq.symm h)))]
    rfl
  | x :: xs, fuel, s, h, hfuel => by
    have hnext := add_le_nextArgument m s.dsdParameter
    have hle := PropertiesAt.le h.2
    obtain ⟨fuel, rfl⟩ : ∃ n, fuel = n + 1 := ⟨fuel - 1, by omega⟩
    rw [loop_some (propertyBody_some m buffer packageArg (by omega)),
      propertyLoop_eq packageArg xs fuel _ h.2 (by dsimp only; omega), List.foldl_cons,
      applyProperty_eq h.1]

/-- **A package does what its properties do, one after another.** -/
theorem parseProperties_eq {packageArg : Nat} {xs : List DsdProperty} (r : RkTplg)
    (h : PropertiesAt m (packageArg + 4) xs (dataEnd m packageArg)) :
    (parseProperties m buffer packageArg r).rkTplg = xs.foldl setProperty r := by
  unfold parseProperties
  rw [propertyLoop_eq buffer packageArg xs _ _ h (by unfold dataEnd; dsimp only; omega)]

section Pair

variable {guidArg : Nat} {x : DsdPair} (h : PairAt m guidArg x)

include h in
theorem PairAt.dataLength_eq : dataLength m guidArg = 16 := by
  rw [← length_argData, h.guid.data_eq, x.guid_length]

include h in
theorem PairAt.typed : pairTyped m guidArg (nextArgument m guidArg) = true := by
  unfold pairTyped
  rw [h.guid.type_eq, h.dataLength_eq, h.package]
  rfl

include h in
theorem PairAt.guidMatches_eq : guidMatches m guidArg = (x.guid == devicePropertiesGuid) := by
  have hdata := h.guid.data_eq
  unfold argData at hdata
  rw [h.dataLength_eq] at hdata
  unfold guidMatches
  rw [hdata]

include h in
/-- What a pair does. -/
theorem parsePair_eq (s : PairState) :
    (parsePair m buffer guidArg (nextArgument m guidArg) s).rkTplg
        = (dsdProperties [x]).foldl setProperty s.rkTplg
      ∧ (parsePair m buffer guidArg (nextArgument m guidArg) s).status
        = if x.guid == devicePropertiesGuid then statusSuccess else s.status := by
  have hsingle := dsdProperties_singleton x
  unfold parsePair
  rw [if_pos h.typed, h.guidMatches_eq, hsingle]
  cases hguid : x.guid == devicePropertiesGuid with
  | true =>
    exact ⟨parseProperties_eq buffer s.rkTplg (h.properties (beq_iff_eq.mp hguid)), rfl⟩
  | false => exact ⟨rfl, rfl⟩

end Pair

theorem pairLoop_eq {stop : Nat} : ∀ (xs : List DsdPair) (fuel : Nat) (s : PairState),
    PairsAt m s.currArgument xs stop → s.broke = false →
    s.i + 2 * xs.length = outputCount m → xs.length ≤ fuel →
    (loop (pairBody m buffer) fuel s).rkTplg = (dsdProperties xs).foldl setProperty s.rkTplg
      ∧ (loop (pairBody m buffer) fuel s).status
        = if xs.any (fun x => x.guid == devicePropertiesGuid) then statusSuccess else s.status
  | [], fuel, s, _, _, hi, _ => by
    rw [loop_none (pairBody_none buffer (Or.inr (Nat.le_of_eq hi.symm)))]
    exact ⟨rfl, rfl⟩
  | x :: xs, fuel, s, h, hbroke, hi, hfuel => by
    rw [List.length_cons] at hi hfuel
    obtain ⟨fuel, rfl⟩ : ∃ n, fuel = n + 1 := ⟨fuel - 1, by omega⟩
    have hbound : outputCount m < 2 ^ 32 := loadLe_lt m 8 4
    have hmod : (s.i + 2) % 2 ^ 32 = s.i + 2 := Nat.mod_eq_of_lt (by omega)
    obtain ⟨hrkTplg, hstatus⟩ := parsePair_eq buffer h.1 s
    obtain ⟨hnext, hargument⟩ := parsePair_typed m buffer s h.1.typed
    have hgo := parsePair_broke m buffer s.currArgument (nextArgument m s.currArgument) hbroke
    rw [h.1.typed] at hgo
    have hrest := pairLoop_eq xs fuel (parsePair m buffer s.currArgument
      (nextArgument m s.currArgument) s) (by rw [hargument]; exact h.2) hgo
      (by rw [hnext, hmod]; omega) (by omega)
    rw [loop_some (pairBody_some buffer hbroke (by omega)), hrest.1, hrest.2, hrkTplg, hstatus,
      dsdProperties_cons x xs, List.foldl_append, List.any_cons]
    refine ⟨rfl, ?_⟩
    cases x.guid == devicePropertiesGuid with
    | true => exact ite_self _
    | false => rfl

/-- **The pairs do what the properties behind the Device-Properties GUIDs do.** -/
theorem parsePairs_eq {pairs : List DsdPair} (h : ResultAt m pairs) :
    (parsePairs m buffer).rkTplg = (dsdProperties pairs).foldl setProperty .start
      ∧ (parsePairs m buffer).status
        = if pairs.any (fun x => x.guid == devicePropertiesGuid) then statusSuccess
          else statusNotFound := by
  have hcount := h.count
  have hloop := pairLoop_eq buffer pairs (outputCount m) (PairState.start buffer) h.pairs rfl
    (by rw [hcount]; exact Nat.zero_add _) (by omega)
  exact hloop

theorem PairsAt.le : ∀ {argument stop : Nat} {xs : List DsdPair},
    PairsAt m argument xs stop → argument + 28 * xs.length ≤ stop
  | argument, stop, [], h => Nat.le_of_eq h
  | argument, stop, x :: xs, h => by
    have hguid : argument + 20 ≤ nextArgument m argument := by
      have hend := dataEnd_le_nextArgument m argument
      unfold dataEnd at hend
      rw [h.1.dataLength_eq] at hend
      omega
    have hpackage := add_le_nextArgument m (nextArgument m argument)
    have hrest := PairsAt.le h.2
    rw [List.length_cons]
    omega

end Walk

/-! ## 7. Results with one property

Concrete results for the witness and for the counterexample, as bytes. -/

section OneProperty

/-- The bytes of an argument. -/
def argumentBytes (type : Nat) (data : List (BitVec 8)) : List (BitVec 8) :=
  leBytes 2 type ++ leBytes 2 data.length ++ data ++ List.replicate (4 - data.length) 0

/-- The bytes of a property. -/
def DsdProperty.bytes (x : DsdProperty) : List (BitVec 8) :=
  argumentBytes methodArgumentPackage
    (argumentBytes methodArgumentString x.name.data ++ argumentBytes x.value.type x.value.data)

/-- The bytes of a result with one property behind the Device-Properties GUID. -/
def resultBytes (x : DsdProperty) : List (BitVec 8) :=
  leBytes 4 evalOutputBufferSignature ++ leBytes 4 (36 + x.bytes.length) ++ leBytes 4 2
    ++ argumentBytes methodArgumentBuffer devicePropertiesGuid
    ++ argumentBytes methodArgumentPackage x.bytes

/-- What the system answers if `_DSD` has the property. -/
def answersOf (x : DsdProperty) : Answers where
  first := statusBufferOverflow
  length := BitVec.ofNat 32 (36 + x.bytes.length)
  create := statusSuccess
  second := statusSuccess
  memory := fun i => (resultBytes x).getD i 0

def pairsOf (x : DsdProperty) : List DsdPair := [⟨devicePropertiesGuid, rfl, [x]⟩]

theorem answersOf_evaluates {x : DsdProperty} (hresult : ResultAt (answersOf x).memory (pairsOf x))
    (hlong : ¬ outputLength (answersOf x).memory ≤ sizeofEvalOutputBuffer)
    (hlength : (answersOf x).length.toNat = outputLength (answersOf x).memory) :
    (answersOf x).Evaluates (pairsOf x) where
  result := hresult
  fits := fun hle => absurd hle hlong
  overflow := fun _ => ⟨rfl, hlength⟩
  create := ntSuccess_statusSuccess
  second := ntSuccess_statusSuccess

/-- `rockchip,tx` with the value 3. -/
def txProperty : DsdProperty where
  name := ⟨ascii "rockchip,tx", true, by decide⟩
  value := .integer 3

theorem txProperty_evaluates : (answersOf txProperty).Evaluates (pairsOf txProperty) :=
  answersOf_evaluates (by decide) (by decide) (by decide)

/-- `rockchip,dma` with a value of 32 characters. -/
def longDmaProperty : DsdProperty where
  name := ⟨ascii "rockchip,dma", true, by decide⟩
  value := .string ⟨ascii "0123456789abcdef0123456789abcdef", true, by decide⟩

theorem longDmaProperty_evaluates :
    (answersOf longDmaProperty).Evaluates (pairsOf longDmaProperty) :=
  answersOf_evaluates (by decide) (by decide) (by decide)

end OneProperty

/-! ## 8. `GetRKTplg`

The evaluations are put in front.  The first one is made with a buffer of one argument, and if the
result fits into that there is no second one: this is the case of a result without pairs. -/

/-- A property is found behind a Device-Properties GUID. -/
theorem exists_dsd_of_lastValue {pairs : List DsdPair} {f : TplgField} {v : DsdValue}
    (h : lastValue (dsdProperties pairs) f = some v) :
    ∃ x ∈ pairs, x.guid = devicePropertiesGuid := by
  obtain ⟨y, hlast, -⟩ := Option.map_eq_some_iff.mp h
  have hy := (List.mem_filter.mp (List.mem_of_getLast? hlast)).1
  obtain ⟨x, hx, -⟩ := List.mem_flatMap.mp hy
  have hx := List.mem_filter.mp hx
  exact ⟨x, hx.1, beq_iff_eq.mp hx.2⟩

section Result

variable {a : Answers} {pairs : List DsdPair} (h : a.Evaluates pairs)

include h in
/-- A result without pairs fits the first buffer, and is not parsed. -/
theorem getRKTplg_of_nil (hnil : pairs = []) (r : RkTplg) :
    ntSuccess (getRKTplg a r).status = true := by
  have hlength : outputArgument = outputLength a.memory := by
    have hpairs := h.result.pairs
    rwa [hnil] at hpairs
  have hfits := h.fits (by rw [← hlength]; decide)
  have hfirst : a.first ≠ statusBufferOverflow := by
    intro heq
    rw [heq] at hfits
    exact absurd hfits (by decide)
  unfold getRKTplg
  rwa [if_pos hfirst]

include h in
/-- Any other result is parsed. -/
theorem getRKTplg_of_ne_nil (hne : pairs ≠ []) (r : RkTplg) :
    (getRKTplg a r).rkTplg = (dsdProperties pairs).foldl setProperty .start
      ∧ (getRKTplg a r).status
        = if pairs.any (fun x => x.guid == devicePropertiesGuid) then statusSuccess
          else statusNotFound := by
  have hpos := List.length_pos_of_ne_nil hne
  have hle := PairsAt.le h.result.pairs
  have hlong : sizeofEvalOutputBuffer < outputLength a.memory := by
    unfold outputArgument at hle
    unfold sizeofEvalOutputBuffer
    omega
  have hcount : outputCount a.memory % 2 = 0 := by rw [h.result.count]; omega
  have hparsed := parsePairs_eq a.outputBuffer h.result
  unfold getRKTplg
  rw [if_neg (not_not.mpr (h.overflow hlong).1), if_neg (by rw [h.create]; decide),
    if_neg (by rw [h.second]; decide), if_neg (not_not.mpr h.result.signature),
    if_neg (not_not.mpr hcount)]
  exact hparsed

include h in
/-- It succeeds exactly if there is a Device-Properties GUID. -/
theorem getRKTplg_succeeds_iff (hne : pairs ≠ []) (r : RkTplg) :
    ntSuccess (getRKTplg a r).status = true ↔ ∃ x ∈ pairs, x.guid = devicePropertiesGuid := by
  rw [(getRKTplg_of_ne_nil h hne r).2]
  cases hany : pairs.any fun x => x.guid == devicePropertiesGuid with
  | true =>
    refine ⟨fun _ => ?_, fun _ => rfl⟩
    obtain ⟨x, hx, hguid⟩ := List.any_eq_true.mp hany
    exact ⟨x, hx, beq_iff_eq.mp hguid⟩
  | false =>
    refine ⟨fun hfalse => absurd hfalse (by decide), ?_⟩
    rintro ⟨x, hx, hguid⟩
    exact absurd (beq_iff_eq.mpr hguid) (List.any_eq_false.mp hany x hx)

include h in
/-- **`GetRKTplg` finds in a well-formed result what is to be found exactly if there is a pair and
the last value of each name is of the type of its field and fits it.** What the parser does is a
fold over the properties of the list, in which the last value of a name counts; it is read back as
the value where it fits, and without a pair the parser is never reached. -/
theorem getRKTplg_correct (r : RkTplg) :
    TplgCorrect pairs (getRKTplg a r)
      ↔ pairs ≠ [] ∧ ∀ f v, lastValue (dsdProperties pairs) f = some v → f.Fits v := by
  rcases eq_or_ne pairs [] with hnil | hne
  · -- the first evaluation succeeds, and nothing has been parsed
    refine ⟨fun hcorrect => ?_, fun hcond => absurd hnil hcond.1⟩
    obtain ⟨x, hx, -⟩ := hcorrect.succeeds.mp (getRKTplg_of_nil h hnil r)
    rw [hnil] at hx
    exact absurd hx List.not_mem_nil
  · have hrkTplg := (getRKTplg_of_ne_nil h hne r).1
    have hsucceeds := getRKTplg_succeeds_iff h hne r
    rw [and_iff_right hne]
    constructor
    · intro hcorrect f v hlast
      have hsome : ∃ x ∈ pairs, x.guid = devicePropertiesGuid := exists_dsd_of_lastValue hlast
      have hvalue := hcorrect.value (hsucceeds.mpr hsome) f
      rw [hrkTplg] at hvalue
      exact (foldl_is_iff _ f).mp hvalue v hlast
    · intro hfits
      have hvalue : ∀ f, ((getRKTplg a r).rkTplg.content f).Is
          (lastValue (dsdProperties pairs) f) := by
        intro f
        rw [hrkTplg]
        exact (foldl_is_iff _ f).mpr (hfits f)
      have hsize : ∀ {f bytes}, (getRKTplg a r).rkTplg.content f = .chars bytes →
          bytes.length = tplgNameSize := by
        rw [hrkTplg]
        exact length_foldl _
      exact
        { succeeds := hsucceeds
          value := fun _ => hvalue
          terminated := fun _ =>
            ⟨.of_is (hsize (f := .dmaName) rfl) (hvalue .dmaName),
              .of_is (hsize (f := .audioTplg) rfl) (hvalue .audioTplg)⟩ }

end Result

/-- The property is found. -/
theorem getRKTplg_correct_of_tx :
    TplgCorrect (pairsOf txProperty) (getRKTplg (answersOf txProperty) .start) :=
  (getRKTplg_correct txProperty_evaluates .start).mpr
    ⟨by decide, fun f v hv => by
      cases f with
      | tx =>
        cases hv
        trivial
      | dmaName | audioTplg | rx | i2sTxRoute | i2sRxRoute => cases hv⟩

/-- **A string of 32 characters is copied without an end.** -/
theorem longDma_incorrect : ¬ ∀ (a : Answers) (pairs : List DsdPair) (r : RkTplg),
    a.Evaluates pairs → TplgCorrect pairs (getRKTplg a r) := by
  intro h
  have hcorrect := h _ _ .start longDmaProperty_evaluates
  have hstatus : ntSuccess (getRKTplg (answersOf longDmaProperty) .start).status = true := by decide
  exact absurd (hcorrect.terminated hstatus).1.2 (by decide)

end WoaRk3576.Audio
