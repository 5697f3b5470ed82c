/-
# What the topology parser reads

`GetRKTplg` takes the lengths of the output buffer as they are: the outer loop trusts `Count`, the
inner loop the length of the package, and neither the name nor the value of a property is compared
with any end before it is read.  `StaysInside` says what the result is to be like for all of these
reads to stay inside the output buffer and inside the package and the property they belong to, and
`getRKTplg_inBounds` that this is exact, for every memory and whatever the evaluations answer.

`StaysInside` speaks of addresses and lengths in the buffer, not of the reads.  It is reached from
the inside out, one equivalence a level:

* a property: of the reads of its name, its value and the next header, the one that reaches
  furthest decides, and which one that is depends on whether the name is known
  (`propertyAccesses_inBounds_iff`);
* a package: its properties, one for each address that the loop comes to.  An induction over the
  rounds, where the read of the next header belongs to the property before it
  (`parseProperties_inBounds_iff`);
* a pair, and the pairs as far as they are of a GUID and a package, since the first one that is not
  ends the loop (`parsePair_inBounds_iff`).

Both loops end on every result, so that "reads inside" is never a statement about a loop that was
cut off.  The first bytes, `Signature` and `Count`, are inside of every buffer that is allocated
(`headerAccesses_inBounds`).
-/
import WoaRk3576.Audio.RkTplg

namespace WoaRk3576.Audio

open WoaRk3576.Lib WoaRk3576.Acpi

/-! ## 1. Results that are read inside the buffer

The condition is built like the data: a property, the properties of a package, a pair, the pairs of
a result.  None of its parts runs the parser; they follow the lengths that stand in memory. -/

section Inside

variable (m : Memory) (size : Nat)

/-- The first of the ends of the buffer, of the package and of the property. -/
def propertyLimit (packageArg dsdParameter : Nat) : Nat :=
  min size (min (dataEnd m packageArg) (dataEnd m dsdParameter))

/-- **A property that is read inside its limit.**  If its name is known, the value lies before the
limit, as far as it is copied; if it is not, the name does, as far as it is compared. -/
def PropertyInside (packageArg dsdParameter : Nat) : Prop :=
  match matchedField m (dsdParameter + 4) with
  | some f =>
    propertyValue m dsdParameter + 4 + min (dataLength m (propertyValue m dsdParameter)) f.size
      ≤ propertyLimit m size packageArg dsdParameter
  | none =>
    dsdParameter + 8 ≤ propertyLimit m size packageArg dsdParameter
      ∧ ∀ f ∈ tplgFields, f.property.length ≤ dataLength m (dsdParameter + 4) →
        dsdParameter + 8 + strncmpLength (argData m (dsdParameter + 4)) f.property
          ≤ propertyLimit m size packageArg dsdParameter

/-- The properties of a package are those that the lengths lead to. -/
def PropertiesInside (packageArg dsdParameter : Nat) : Prop :=
  ∀ k, (nextArgument m)^[k] dsdParameter < dataEnd m packageArg →
    PropertyInside m size packageArg ((nextArgument m)^[k] dsdParameter)

/-- **A pair that is read inside the buffer**: the header of the package is there, and behind the
Device-Properties GUID each property stays inside. -/
def PairInside (guidArg : Nat) : Prop :=
  nextArgument m guidArg + 4 ≤ size
    ∧ (pairTyped m guidArg (nextArgument m guidArg) = true → guidMatches m guidArg = true →
      PropertiesInside m size (nextArgument m guidArg) (nextArgument m guidArg + 4))

/-- The pairs before the `n`th are of a GUID and a package. -/
def TypedBefore (argument n : Nat) : Prop :=
  ∀ j < n, pairTyped m ((nextArgument m)^[2 * j] argument)
    (nextArgument m ((nextArgument m)^[2 * j] argument)) = true

/-- The `count` next arguments: each pair that the loop comes to is read inside the buffer. -/
def PairsInside (argument count : Nat) : Prop :=
  ∀ n, 2 * n < count → TypedBefore m argument n →
    PairInside m size ((nextArgument m)^[2 * n] argument)

end Inside

/-- The result is parsed: both evaluations and the allocation went well, and the header is that of
a list of pairs. -/
def Answers.Parsed (a : Answers) : Prop :=
  a.first = statusBufferOverflow ∧ ntSuccess a.create = true ∧ ntSuccess a.second = true
    ∧ outputSignature a.memory = evalOutputBufferSignature ∧ outputCount a.memory % 2 = 0

/-- **The results on which `GetRKTplg` stays inside its buffer.** -/
def Answers.StaysInside (a : Answers) : Prop :=
  a.Parsed → PairsInside a.memory a.outputBuffer.length outputArgument (outputCount a.memory)

/-- Both loops end: none of the bounds on their iterations is what ends them. -/
structure Answers.LoopsEnd (a : Answers) : Prop where
  properties : ∀ packageArg rkTplg, propertyBody a.memory a.outputBuffer packageArg
    (parseProperties a.memory a.outputBuffer packageArg rkTplg) = none
  pairs : a.Parsed → pairBody a.memory a.outputBuffer (parsePairs a.memory a.outputBuffer) = none

/-! ## 2. One property

The reads of a name and a value have to lie in three extents at once, of which the first to end
decides.  Whether the name is known decides how far the two are read: a known name stops the
comparisons and has its value copied, an unknown one is compared with all six names. -/

section Property

variable {m : Memory} {size packageArg dsdParameter : Nat}

/-- What the reads of a name and a value are to stay inside. -/
abbrev propertyWithin (m : Memory) (size packageArg dsdParameter : Nat) : List (Extent Nat) :=
  [⟨0, size⟩, dataExtent m packageArg, dataExtent m dsdParameter]

variable (hpackage : packageArg + 4 ≤ dsdParameter)

include hpackage in
/-- A read behind the header of a property. -/
theorem property_inBounds_iff {address n : Nat} (h : dsdParameter + 4 ≤ address) :
    (⟨⟨address, n⟩, propertyWithin m size packageArg dsdParameter⟩ : Access).InBounds
      ↔ n = 0 ∨ address + n ≤ propertyLimit m size packageArg dsdParameter := by
  rw [inBounds_three, Extent.bytes_subset_iff, Extent.bytes_subset_iff, Extent.bytes_subset_iff]
  unfold propertyLimit dataEnd dataExtent
  dsimp only
  omega

include hpackage in
theorem checkStr_inBounds_iff (str : List (BitVec 8)) :
    AllInBounds (checkStrAccesses m (propertyWithin m size packageArg dsdParameter)
        (dsdParameter + 4) str)
      ↔ dsdParameter + 8 ≤ propertyLimit m size packageArg dsdParameter
        ∧ (str.length ≤ dataLength m (dsdParameter + 4) →
          dsdParameter + 8 + strncmpLength (argData m (dsdParameter + 4)) str
            ≤ propertyLimit m size packageArg dsdParameter) := by
  unfold checkStrAccesses
  rw [allInBounds_cons, property_inBounds_iff hpackage (by omega)]
  split
  · rename_i hle
    rw [allInBounds_cons, property_inBounds_iff hpackage (by omega)]
    simp only [allInBounds_nil, and_true, hle, true_implies]
    omega
  · rename_i hlt
    simp only [allInBounds_nil, and_true, hlt, false_implies]
    omega

/-- If no name is found, all names are compared. -/
theorem matchAccesses_of_none {within : List (Extent Nat)} {name : Nat} :
    ∀ {fs : List TplgField}, (∀ f ∈ fs, checkStr m name f.property = false) →
      (AllInBounds (matchAccesses m within name fs)
        ↔ ∀ f ∈ fs, AllInBounds (checkStrAccesses m within name f.property))
  | [], _ => by simp [matchAccesses]
  | f :: fs, h => by
    have hf : checkStr m name f.property = false := h f List.mem_cons_self
    have hrest := fun f' hf' => h f' (List.mem_cons_of_mem f hf')
    rw [matchAccesses, hf, if_neg Bool.false_ne_true, allInBounds_append,
      matchAccesses_of_none hrest, List.forall_mem_cons]

/-- The comparisons stay inside if the whole name does. -/
theorem matchAccesses_inBounds {within : List (Extent Nat)} {name : Nat}
    (h : ∀ str, AllInBounds (checkStrAccesses m within name str)) :
    ∀ fs : List TplgField, AllInBounds (matchAccesses m within name fs)
  | [] => allInBounds_nil
  | f :: fs => by
    rw [matchAccesses, allInBounds_append]
    refine ⟨h f.property, ?_⟩
    split
    · exact allInBounds_nil
    · exact matchAccesses_inBounds h fs

include hpackage in
/-- **The reads of a property stay inside exactly if the property is `PropertyInside`.** -/
theorem propertyAccesses_inBounds_iff :
    AllInBounds (propertyAccesses m ⟨0, size⟩ (dataExtent m packageArg) dsdParameter)
      ↔ PropertyInside m size packageArg dsdParameter := by
  have hvalue : dsdParameter + 8 + dataLength m (dsdParameter + 4) ≤ propertyValue m dsdParameter :=
    dataEnd_le_nextArgument m (dsdParameter + 4)
  have hname : (⟨⟨dsdParameter + 4 + 2, 2⟩, propertyWithin m size packageArg dsdParameter⟩ :
      Access).InBounds ↔ 2 = 0
        ∨ dsdParameter + 4 + 2 + 2 ≤ propertyLimit m size packageArg dsdParameter :=
    property_inBounds_iff hpackage (by omega)
  -- the header of the property lies before that of its name
  have hheader : dsdParameter + 8 ≤ propertyLimit m size packageArg dsdParameter →
      (⟨⟨dsdParameter + 2, 2⟩, [⟨0, size⟩, dataExtent m packageArg]⟩ : Access).InBounds := by
    intro hle
    rw [inBounds_two, Extent.bytes_subset_iff, Extent.bytes_subset_iff]
    unfold propertyLimit dataEnd at hle
    unfold dataExtent
    dsimp only
    omega
  unfold propertyAccesses PropertyInside
  rw [List.cons_append, List.cons_append, allInBounds_cons, allInBounds_append, allInBounds_append,
    hname]
  cases hmatch : matchedField m (dsdParameter + 4) with
  | none =>
    have hnone : ∀ f ∈ tplgFields, checkStr m (dsdParameter + 4) f.property = false := by
      intro f hf
      exact Bool.not_eq_true _ ▸ List.find?_eq_none.mp hmatch f hf
    rw [matchAccesses_of_none hnone]
    simp only [checkStr_inBounds_iff hpackage, copyAccesses, allInBounds_nil, allInBounds_cons,
      and_true]
    constructor
    · rintro ⟨hin, hcompare, -⟩
      exact ⟨by omega, fun f hf => (hcompare f hf).2⟩
    · rintro ⟨hle, hcompare⟩
      exact ⟨Or.inr (by omega), fun f hf => ⟨hle, hcompare f hf⟩, hheader hle⟩
  | some f =>
    simp only [copyAccesses, allInBounds_cons, allInBounds_nil, and_true]
    have hlengthAt : dsdParameter + 4 ≤ propertyValue m dsdParameter + 2 := by omega
    have hdataAt : dsdParameter + 4 ≤ propertyValue m dsdParameter + 4 := by omega
    rw [property_inBounds_iff hpackage hlengthAt, property_inBounds_iff hpackage hdataAt]
    constructor
    · rintro ⟨-, ⟨-, hlength, hcopy⟩, -⟩
      omega
    · intro hle
      have hcheck : ∀ str, AllInBounds (checkStrAccesses m
          (propertyWithin m size packageArg dsdParameter) (dsdParameter + 4) str) := by
        intro str
        have hcompare := strncmpLength_le (argData m (dsdParameter + 4)) str
        rw [length_argData] at hcompare
        exact (checkStr_inBounds_iff hpackage str).mpr ⟨by omega, fun _ => by omega⟩
      exact ⟨Or.inr (by omega), ⟨matchAccesses_inBounds hcheck tplgFields, by omega, by omega⟩,
        hheader (by omega)⟩

end Property

/-! ## 3. The properties of a package

An induction over the rounds of the inner loop.  The header of the next property is read when the
loop test is made, that is on behalf of the property before it. -/

section Properties

variable {m : Memory} {size packageArg : Nat}

theorem PropertiesInside.of_end {dsdParameter : Nat} (h : dataEnd m packageArg ≤ dsdParameter) :
    PropertiesInside m size packageArg dsdParameter := by
  intro k hk
  have hle := le_iterate_nextArgument m dsdParameter k
  omega

theorem propertiesInside_step {dsdParameter : Nat} (h : dsdParameter < dataEnd m packageArg) :
    PropertiesInside m size packageArg dsdParameter
      ↔ PropertyInside m size packageArg dsdParameter
        ∧ PropertiesInside m size packageArg (nextArgument m dsdParameter) := by
  unfold PropertiesInside
  rw [← Nat.and_forall_add_one]
  refine and_congr ⟨fun h0 => h0 h, fun h0 _ => h0⟩ Iff.rfl

variable (m size packageArg)

theorem propertyLoop_inBounds_iff (fuel : Nat) : ∀ s : PropertyState,
    packageArg + 4 ≤ s.dsdParameter → dataEnd m packageArg - s.dsdParameter ≤ fuel →
    (AllInBounds (loop (propertyBody m ⟨0, size⟩ packageArg) fuel s).accesses
      ↔ AllInBounds s.accesses ∧ PropertiesInside m size packageArg s.dsdParameter) := by
  induction fuel with
  | zero =>
    intro s _ hfuel
    have hend : dataEnd m packageArg ≤ s.dsdParameter := by omega
    rw [loop_none (propertyBody_none m _ packageArg hend), and_iff_left (.of_end hend)]
  | succ fuel ih =>
    intro s hpackage hfuel
    rcases Nat.lt_or_ge s.dsdParameter (dataEnd m packageArg) with hlt | hge
    · have hnext := add_le_nextArgument m s.dsdParameter
      rw [loop_some (propertyBody_some m _ packageArg hlt), ih _ (by dsimp only; omega)
        (by dsimp only; omega), allInBounds_append, propertyAccesses_inBounds_iff hpackage,
        propertiesInside_step hlt, and_assoc]
    · rw [loop_none (propertyBody_none m _ packageArg hge), and_iff_left (.of_end hge)]

/-- **The reads of a package stay inside exactly if its properties are inside.** -/
theorem parseProperties_inBounds_iff (rkTplg : RkTplg) :
    AllInBounds (parseProperties m ⟨0, size⟩ packageArg rkTplg).accesses
      ↔ PropertiesInside m size packageArg (packageArg + 4) := by
  unfold parseProperties
  rw [propertyLoop_inBounds_iff m size packageArg _ _ (Nat.le_refl _)
    (by unfold dataEnd; dsimp only; omega), and_iff_right allInBounds_nil]

end Properties

/-! ## 4. One pair

A pair is read in three steps, the two headers, the GUID and the package, and each is taken only if
the one before has shown the right types. -/

section Pair

variable (m : Memory) (size : Nat)

theorem pairAccesses_inBounds_iff (guidArg : Nat) :
    AllInBounds (pairAccesses m ⟨0, size⟩ guidArg (nextArgument m guidArg))
      ↔ nextArgument m guidArg + 4 ≤ size := by
  have hnext := add_le_nextArgument m guidArg
  unfold pairAccesses
  rw [allInBounds_append]
  simp only [allInBounds_cons, allInBounds_nil, inBounds_one, Extent.bytes_subset_iff, and_true]
  constructor
  · rintro ⟨⟨-, hpackage, -⟩, -⟩
    omega
  · intro hle
    refine ⟨⟨by omega, by omega, by omega⟩, ?_⟩
    split
    · rw [allInBounds_cons, inBounds_one, Extent.bytes_subset_iff]
      refine ⟨by dsimp only; omega, ?_⟩
      split
      · rw [allInBounds_cons, inBounds_one, Extent.bytes_subset_iff]
        exact ⟨by dsimp only; omega, allInBounds_nil⟩
      · exact allInBounds_nil
    · exact allInBounds_nil

/-- A typed pair has a GUID of 16 bytes. -/
theorem dataLength_of_pairTyped {guidArg packageArg : Nat}
    (h : pairTyped m guidArg packageArg = true) : dataLength m guidArg = 16 := by
  unfold pairTyped at h
  rw [Bool.and_eq_true, Bool.and_eq_true, beq_iff_eq, beq_iff_eq] at h
  exact h.1.2

theorem guidAccesses_inBounds {guidArg : Nat} (hlength : dataLength m guidArg = 16)
    (h : nextArgument m guidArg + 4 ≤ size) : AllInBounds (guidAccesses ⟨0, size⟩ guidArg) := by
  have hend := dataEnd_le_nextArgument m guidArg
  unfold dataEnd at hend
  unfold guidAccesses
  simp only [allInBounds_cons, allInBounds_nil, inBounds_one, Extent.bytes_subset_iff, and_true]
  omega

/-- **The reads of a pair stay inside exactly if the pair is `PairInside`.** -/
theorem parsePair_inBounds_iff (guidArg : Nat) (s : PairState) :
    AllInBounds (parsePair m ⟨0, size⟩ guidArg (nextArgument m guidArg) s).accesses
      ↔ AllInBounds s.accesses ∧ PairInside m size guidArg := by
  unfold parsePair PairInside
  split
  · rename_i htyped
    have hguid := guidAccesses_inBounds m size (dataLength_of_pairTyped m htyped)
    split
    · rename_i hmatch
      simp only [allInBounds_append, allInBounds_cons, allInBounds_nil, and_true,
        pairAccesses_inBounds_iff, parseProperties_inBounds_iff, htyped, hmatch, true_implies,
        inBounds_one, Extent.bytes_subset_iff]
      constructor
      · rintro ⟨⟨⟨⟨hs, hpackage⟩, -⟩, -⟩, hproperties⟩
        exact ⟨hs, hpackage, hproperties⟩
      · rintro ⟨hs, hpackage, hproperties⟩
        exact ⟨⟨⟨⟨hs, hpackage⟩, hguid hpackage⟩, by omega⟩, hproperties⟩
    · rename_i hmatch
      simp only [allInBounds_append, pairAccesses_inBounds_iff, hmatch]
      constructor
      · rintro ⟨⟨hs, hpackage⟩, -⟩
        exact ⟨hs, hpackage, fun _ hfalse => absurd hfalse Bool.false_ne_true⟩
      · rintro ⟨hs, hpackage, -⟩
        exact ⟨⟨hs, hpackage⟩, hguid hpackage⟩
  · rename_i htyped
    simp only [allInBounds_append, pairAccesses_inBounds_iff, htyped, Bool.false_eq_true,
      false_implies, and_true]

end Pair

/-! ## 5. The pairs of the result

An induction over the rounds of the outer loop, up to the first pair of another kind, which ends
it. -/

section Pairs

variable (m : Memory) (size : Nat)

theorem PairsInside.zero (argument : Nat) : PairsInside m size argument 0 :=
  fun _ hn => absurd hn (Nat.not_lt_zero _)

/-- The arguments of the next pairs are those behind the two arguments of this pair. -/
theorem iterate_pair (argument n : Nat) : (nextArgument m)^[2 * (n + 1)] argument
    = (nextArgument m)^[2 * n] (nextArgument m (nextArgument m argument)) := by
  rw [Nat.mul_succ, Function.iterate_add_apply]
  rfl

theorem typedBefore_succ (argument n : Nat) :
    TypedBefore m argument (n + 1)
      ↔ pairTyped m argument (nextArgument m argument) = true
        ∧ TypedBefore m (nextArgument m (nextArgument m argument)) n := by
  unfold TypedBefore
  constructor
  · intro h
    refine ⟨h 0 (Nat.succ_pos n), fun j hj => ?_⟩
    have hj := h (j + 1) (Nat.succ_lt_succ hj)
    rwa [iterate_pair] at hj
  · rintro ⟨hfirst, hrest⟩ j hj
    cases j with
    | zero => exact hfirst
    | succ j =>
      rw [iterate_pair]
      exact hrest j (Nat.lt_of_succ_lt_succ hj)

theorem pairsInside_step (argument count : Nat) :
    PairsInside m size argument (count + 2)
      ↔ PairInside m size argument
        ∧ (pairTyped m argument (nextArgument m argument) = true →
          PairsInside m size (nextArgument m (nextArgument m argument)) count) := by
  unfold PairsInside
  rw [← Nat.and_forall_add_one]
  simp only [iterate_pair, typedBefore_succ]
  constructor
  · rintro ⟨hfirst, hrest⟩
    exact ⟨hfirst (by omega) (fun _ hj => absurd hj (Nat.not_lt_zero _)),
      fun htyped n hn hbefore => hrest n (by omega) ⟨htyped, hbefore⟩⟩
  · rintro ⟨hfirst, hrest⟩
    exact ⟨fun _ _ => hfirst, fun n hn hbefore => hrest hbefore.1 n (by omega) hbefore.2⟩

theorem pairLoop_inBounds_iff (hcount : outputCount m % 2 = 0) (fuel : Nat) : ∀ s : PairState,
    s.broke = false → s.i % 2 = 0 → s.i ≤ outputCount m → outputCount m - s.i ≤ fuel →
    (AllInBounds (loop (pairBody m ⟨0, size⟩) fuel s).accesses
      ↔ AllInBounds s.accesses
        ∧ PairsInside m size s.currArgument (outputCount m - s.i)) := by
  induction fuel with
  | zero =>
    intro s _ _ _ hfuel
    rw [loop_none (pairBody_none _ (Or.inr (by omega))), Nat.le_zero.mp hfuel,
      and_iff_left (.zero m size _)]
  | succ fuel ih =>
    intro s hbroke hi hle hfuel
    rcases Nat.eq_or_lt_of_le hle with heq | hlt
    · rw [loop_none (pairBody_none _ (Or.inr (Nat.le_of_eq heq.symm))), heq, Nat.sub_self,
        and_iff_left (.zero m size _)]
    · have hnext := i_add_two m hcount hi hlt
      have hends := parsePair_broke m ⟨0, size⟩ s.currArgument (nextArgument m s.currArgument)
        hbroke
      have hstep := parsePair_inBounds_iff m size s.currArgument s
      rw [loop_some (pairBody_some _ hbroke hlt), hnext.2.2, pairsInside_step]
      cases htyped : pairTyped m s.currArgument (nextArgument m s.currArgument) with
      | false =>
        rw [htyped] at hends
        rw [loop_none (pairBody_none _ (Or.inl hends)), hstep]
        simp only [Bool.false_eq_true, false_implies, and_true]
      | true =>
        rw [htyped] at hends
        obtain ⟨hgo, hargument⟩ := parsePair_typed m ⟨0, size⟩ s htyped
        rw [ih _ hends (by rw [hgo]; exact hnext.1) (by rw [hgo]; exact hnext.2.1)
          (by rw [hgo]; omega), hstep, hgo, hargument, and_assoc]
        simp only [true_implies]

end Pairs

/-! ## 6. `GetRKTplg`

A result that is not parsed is read inside at once, and one that is parsed when its pairs are.  The
name with a length that leads out of the package is the simplest result on which the parser goes
wrong. -/

/-- The header is inside every buffer that is allocated. -/
theorem headerAccesses_inBounds (a : Answers) : AllInBounds (headerAccesses a.outputBuffer) := by
  unfold headerAccesses Answers.outputBuffer outputArgument
  simp only [allInBounds_cons, allInBounds_nil, inBounds_one, Extent.bytes_subset_iff, and_true]
  omega

/-- **The result on which the parser goes wrong**: the name of the only property,
`rockchip,tx`, has a length of 64, and the package ends behind its 12 bytes.  The header of the
value is read 40 bytes behind the end of the output buffer. -/
def longName : Answers where
  first := statusBufferOverflow
  length := 56
  create := statusSuccess
  second := statusSuccess
  memory := fun i =>
    ([0x41, 0x65, 0x6F, 0x42, 56, 0, 0, 0, 2, 0, 0, 0, 2, 0, 16, 0] ++ devicePropertiesGuid
      ++ [3, 0, 20, 0, 3, 0, 16, 0, 1, 0, 64, 0] ++ ascii "rockchip,tx").getD i 0

/-- Not every output buffer is read inside its bounds. -/
theorem longName_outOfBounds :
    ¬ ∀ (a : Answers) (rkTplg : RkTplg), AllInBounds (getRKTplg a rkTplg).accesses := by
  intro h
  have hread : ⟨⟨110, 2⟩, [longName.outputBuffer, ⟨36, 20⟩, ⟨40, 16⟩]⟩
      ∈ (getRKTplg longName .start).accesses := by decide
  have hin := inBounds_three.mp (h longName .start _ hread)
  exact absurd hin.1 (by decide)

/-- **`GetRKTplg` ends on every output buffer, and reads inside the buffer and the enclosing
packages exactly if the result `StaysInside`.** Level by level the reads of a property, of a
package and of the pairs are inside exactly if the lengths there say so; and no argument is shorter
than eight bytes, so both loops move on. -/
theorem getRKTplg_inBounds (a : Answers) (rkTplg : RkTplg) :
    (AllInBounds (getRKTplg a rkTplg).accesses ∧ a.LoopsEnd) ↔ a.StaysInside := by
  have hends : a.LoopsEnd :=
    { properties := fun packageArg rkTplg =>
        parseProperties_ends a.memory a.outputBuffer packageArg rkTplg
      pairs := fun hparsed => parsePairs_ends a.memory a.outputBuffer hparsed.2.2.2.2 }
  have hheader := headerAccesses_inBounds a
  rw [and_iff_left hends]
  unfold getRKTplg Answers.StaysInside Answers.Parsed
  split_ifs with hfirst hcreate hsecond hsignature hcount
  · exact ⟨fun _ hparsed => absurd hparsed.1 hfirst, fun _ => allInBounds_nil⟩
  · exact ⟨fun _ hparsed => absurd (hcreate.symm.trans hparsed.2.1) Bool.false_ne_true,
      fun _ => allInBounds_nil⟩
  · exact ⟨fun _ hparsed => absurd (hsecond.symm.trans hparsed.2.2.1) Bool.false_ne_true,
      fun _ => allInBounds_nil⟩
  · exact ⟨fun _ hparsed => absurd hparsed.2.2.2.1 hsignature,
      fun _ => allInBounds_cons.mpr ⟨(allInBounds_cons.mp hheader).1, allInBounds_nil⟩⟩
  · exact ⟨fun _ hparsed => absurd hparsed.2.2.2.2 hcount, fun _ => hheader⟩
  · have hloop := pairLoop_inBounds_iff a.memory a.outputBuffer.length (not_not.mp hcount)
      (outputCount a.memory) (PairState.start a.outputBuffer) rfl rfl (Nat.zero_le _)
      (Nat.sub_le _ _)
    have hparsed := And.intro (not_not.mp hfirst) (And.intro (Bool.of_not_eq_false hcreate)
      (And.intro (Bool.of_not_eq_false hsecond)
        (And.intro (not_not.mp hsignature) (not_not.mp hcount))))
    refine hloop.trans ⟨fun hin _ => hin.2, fun hin => ⟨hheader, hin hparsed⟩⟩

end WoaRk3576.Audio
