/-
# The audio topology of the rk3x I2S bus driver

`GetRKTplg` of drivers/audio/rk3xi2sbus/rk-tplg.cpp.  It evaluates `_DSD` with a buffer of one
argument to learn the length of the result, allocates an output buffer and evaluates again; then it
walks over the pairs of a GUID and a package, and over the properties of each package that follows
the Device-Properties GUID.  Each property is a package of a name and a value, and the six names
that the driver knows are copied to the fields of `RK_TPLG`.

The walk is kept as it is in the source, so that its two defects stay visible: nothing is compared
with the end of the buffer, and a string is cut without its zero.

* Beside the result `getRKTplg` gives the bytes of the output buffer that it reads, each read with
  the buffer and the packages that it belongs to.  `RkTplgBounds.lean` asks whether the reads stay
  there, and `RkTplgFields.lean` what the fields come to.
* `CHECK_STR` is a chain of `else if`: `matchedField` is the first name that is found, and
  `matchAccesses` what was read until then.
* Both loops read their bounds again at each test, from bytes they have read before.  They run as
  loops with a bound on their rounds, and `parseProperties_ends` and `parsePairs_ends` show that
  this bound never ends them: no argument is shorter than eight bytes, so the inner loop moves on by
  that much at least, and the outer one counts up to an even `Count` in steps of two (`i_add_two`),
  or breaks.
-/
import WoaRk3576.Acpi.Argument
import WoaRk3576.Lib.CString
import WoaRk3576.Lib.Loop

namespace WoaRk3576.Audio

open WoaRk3576.Lib WoaRk3576.Acpi

/-! ## 1. The topology

The names that the parser knows and the fields they are copied to are one enumeration, so that a
copy is one definition with the size of the field as a parameter.  A string field has 32 bytes and
takes as many of a value, also when the zero is not among them. -/

/-- `RK_TPLG`. -/
@[ext]
structure RkTplg where
  magic : BitVec 32
  length : BitVec 32
  dmaName : List (BitVec 8)
  tx : BitVec 32
  rx : BitVec 32
  audioTplg : List (BitVec 8)
  i2sTxRoute : BitVec 32
  i2sRxRoute : BitVec 32
  deriving DecidableEq

/-- `RKTPLG_MAGIC`, '$RKC'. -/
def rkTplgMagic : BitVec 32 := 0x24524B43

/-- The size of the `char` arrays of `RK_TPLG`. -/
def tplgNameSize : Nat := 32

/-- `sizeof(RK_TPLG)`. -/
def sizeofRkTplg : BitVec 32 := 88

/-- The topology before the first property: zero but for its first two fields. -/
def RkTplg.start : RkTplg where
  magic := rkTplgMagic
  length := sizeofRkTplg
  dmaName := List.replicate tplgNameSize 0
  tx := 0
  rx := 0
  audioTplg := List.replicate tplgNameSize 0
  i2sTxRoute := 0
  i2sRxRoute := 0

/-- The fields that properties are copied to. -/
inductive TplgField
  | dmaName | audioTplg | tx | rx | i2sTxRoute | i2sRxRoute
  deriving DecidableEq

/-- The name of the property. -/
def TplgField.property : TplgField → List (BitVec 8)
  | .dmaName => ascii "rockchip,dma"
  | .audioTplg => ascii "rockchip,tplg"
  | .tx => ascii "rockchip,tx"
  | .rx => ascii "rockchip,rx"
  | .i2sTxRoute => ascii "rockchip,i2s-tx-route"
  | .i2sRxRoute => ascii "rockchip,i2s-rx-route"

/-- The fields in the order in which the names are tested. -/
def tplgFields : List TplgField := [.dmaName, .audioTplg, .tx, .rx, .i2sTxRoute, .i2sRxRoute]

/-- The bytes of a value that are copied at most. -/
def TplgField.size : TplgField → Nat
  | .dmaName | .audioTplg => tplgNameSize
  | .tx | .rx | .i2sTxRoute | .i2sRxRoute => 4

/-- `copyDSDParam`, from the `DataLength` bytes of the value. -/
def copyDSDParam (data : List (BitVec 8)) : List (BitVec 8) :=
  data.take tplgNameSize ++ List.replicate (tplgNameSize - data.length) 0

/-- `copyDSDParamNum`, from the `DataLength` bytes of the value. -/
def copyDSDParamNum (data : List (BitVec 8)) : BitVec 32 := BitVec.ofNat 32 (leNat (data.take 4))

/-- The copy of a value to a field. -/
def RkTplg.copy (rkTplg : RkTplg) (data : List (BitVec 8)) : TplgField → RkTplg
  | .dmaName => { rkTplg with dmaName := copyDSDParam data }
  | .audioTplg => { rkTplg with audioTplg := copyDSDParam data }
  | .tx => { rkTplg with tx := copyDSDParamNum data }
  | .rx => { rkTplg with rx := copyDSDParamNum data }
  | .i2sTxRoute => { rkTplg with i2sTxRoute := copyDSDParamNum data }
  | .i2sRxRoute => { rkTplg with i2sRxRoute := copyDSDParamNum data }

/-! ## 2. Properties

The inner loop and the reads of one round.  The order of the reads is that of the source: the
length of the name, the name as far as `strncmp` compares it, the value as far as it is copied, and
at the loop test the length of the property. -/

section Properties

variable (m : Memory)

/-- `CHECK_STR`. -/
def checkStr (argument : Nat) (str : List (BitVec 8)) : Bool :=
  decide (str.length ≤ dataLength m argument) && strncmp (argData m argument) str

/-- The first of the names that `CHECK_STR` finds, the branches of the `else if`. -/
def matchedField (name : Nat) : Option TplgField :=
  tplgFields.find? fun f => checkStr m name f.property

/-- What one `CHECK_STR` reads. -/
def checkStrAccesses (within : List (Extent Nat)) (argument : Nat) (str : List (BitVec 8)) :
    List Access :=
  ⟨⟨argument + 2, 2⟩, within⟩ ::
    if str.length ≤ dataLength m argument then
      [⟨⟨argument + 4, strncmpLength (argData m argument) str⟩, within⟩]
    else []

/-- What the tests of the names read, up to the name that is found. -/
def matchAccesses (within : List (Extent Nat)) (name : Nat) : List TplgField → List Access
  | [] => []
  | f :: fs =>
    checkStrAccesses m within name f.property
      ++ if checkStr m name f.property then [] else matchAccesses within name fs

/-- What the copy of a value reads. -/
def copyAccesses (within : List (Extent Nat)) (value : Nat) : Option TplgField → List Access
  | none => []
  | some f =>
    [⟨⟨value + 2, 2⟩, within⟩, ⟨⟨value + 4, min (dataLength m value) f.size⟩, within⟩]

/-- `dsdParameterData`. -/
def propertyValue (dsdParameter : Nat) : Nat := nextArgument m (dsdParameter + 4)

/-- What is read of a property: its name's header, the name, the value, and at last its own
header, for the next property. -/
def propertyAccesses (buffer package : Extent Nat) (dsdParameter : Nat) : List Access :=
  ⟨⟨dsdParameter + 4 + 2, 2⟩, [buffer, package, dataExtent m dsdParameter]⟩
    :: matchAccesses m [buffer, package, dataExtent m dsdParameter] (dsdParameter + 4) tplgFields
    ++ copyAccesses m [buffer, package, dataExtent m dsdParameter] (propertyValue m dsdParameter)
      (matchedField m (dsdParameter + 4))
    ++ [⟨⟨dsdParameter + 2, 2⟩, [buffer, package]⟩]

/-- The variables of the inner loop. -/
structure PropertyState where
  dsdParameter : Nat
  rkTplg : RkTplg
  accesses : List Access

/-- What a property changes. -/
def applyProperty (dsdParameter : Nat) (rkTplg : RkTplg) : RkTplg :=
  match matchedField m (dsdParameter + 4) with
  | none => rkTplg
  | some f => rkTplg.copy (argData m (propertyValue m dsdParameter)) f

/-- The inner loop. -/
def propertyBody (buffer : Extent Nat) (packageArg : Nat) (s : PropertyState) :
    Option PropertyState :=
  if s.dsdParameter < dataEnd m packageArg then
    some
      { dsdParameter := nextArgument m s.dsdParameter
        rkTplg := applyProperty m s.dsdParameter s.rkTplg
        accesses := s.accesses
          ++ propertyAccesses m buffer (dataExtent m packageArg) s.dsdParameter }
  else none

/-- The properties of a package. -/
def parseProperties (buffer : Extent Nat) (packageArg : Nat) (rkTplg : RkTplg) : PropertyState :=
  loop (propertyBody m buffer packageArg) (dataLength m packageArg) ⟨packageArg + 4, rkTplg, []⟩

/-! ## 3. Pairs

The outer loop, which looks at two arguments in each round.  Its counter is a `ULONG` and goes up
by two, and its end is the `Count` that the result states. -/

/-- The pair is a buffer of 16 bytes and a package; otherwise the loop ends. -/
def pairTyped (guidArg packageArg : Nat) : Bool :=
  argType m guidArg == methodArgumentBuffer && dataLength m guidArg == 16
    && argType m packageArg == methodArgumentPackage

/-- `memcmp(guidArg->Data, &GUID_ACPI_DSD, guidArg->DataLength) == 0`, for 16 bytes. -/
def guidMatches (guidArg : Nat) : Bool := load m (guidArg + 4) 16 == devicePropertiesGuid

/-- What the steps over a pair and the tests of its types read. -/
def pairAccesses (buffer : Extent Nat) (guidArg packageArg : Nat) : List Access :=
  [⟨⟨guidArg + 2, 2⟩, [buffer]⟩, ⟨⟨packageArg + 2, 2⟩, [buffer]⟩, ⟨⟨guidArg, 2⟩, [buffer]⟩]
    ++ if argType m guidArg = methodArgumentBuffer then
      ⟨⟨guidArg + 2, 2⟩, [buffer]⟩ ::
        if dataLength m guidArg = 16 then [⟨⟨packageArg, 2⟩, [buffer]⟩] else []
    else []

/-- What the comparison of the GUID reads. -/
def guidAccesses (buffer : Extent Nat) (guidArg : Nat) : List Access :=
  [⟨⟨guidArg + 2, 2⟩, [buffer]⟩, ⟨⟨guidArg + 4, 16⟩, [buffer]⟩]

/-- The variables of the outer loop, and whether `break` has ended it. -/
structure PairState where
  i : Nat
  currArgument : Nat
  status : NTSTATUS
  rkTplg : RkTplg
  accesses : List Access
  broke : Bool

/-- The body of the outer loop with the `i += 2` of a `ULONG`. -/
def parsePair (buffer : Extent Nat) (guidArg packageArg : Nat) (s : PairState) : PairState :=
  if pairTyped m guidArg packageArg then
    if guidMatches m guidArg then
      { i := (s.i + 2) % 2 ^ 32
        currArgument := nextArgument m packageArg
        status := statusSuccess
        rkTplg := (parseProperties m buffer packageArg s.rkTplg).rkTplg
        accesses := s.accesses ++ pairAccesses m buffer guidArg packageArg
          ++ guidAccesses buffer guidArg ++ [⟨⟨packageArg + 2, 2⟩, [buffer]⟩]
          ++ (parseProperties m buffer packageArg s.rkTplg).accesses
        broke := false }
    else
      { s with
        i := (s.i + 2) % 2 ^ 32
        currArgument := nextArgument m packageArg
        accesses := s.accesses ++ pairAccesses m buffer guidArg packageArg
          ++ guidAccesses buffer guidArg }
  else
    { s with
      currArgument := nextArgument m packageArg
      accesses := s.accesses ++ pairAccesses m buffer guidArg packageArg
      broke := true }

/-- The outer loop. -/
def pairBody (buffer : Extent Nat) (s : PairState) : Option PairState :=
  if s.broke = false ∧ s.i < outputCount m then
    some (parsePair m buffer s.currArgument (nextArgument m s.currArgument) s)
  else none

/-- What is read before the outer loop: `Signature` and `Count`. -/
def headerAccesses (buffer : Extent Nat) : List Access :=
  [⟨⟨0, 4⟩, [buffer]⟩, ⟨⟨8, 4⟩, [buffer]⟩]

/-- The state before the first pair. -/
def PairState.start (buffer : Extent Nat) : PairState where
  i := 0
  currArgument := outputArgument
  status := statusNotFound
  rkTplg := RkTplg.start
  accesses := headerAccesses buffer
  broke := false

/-- The pairs of the result. -/
def parsePairs (buffer : Extent Nat) : PairState :=
  loop (pairBody m buffer) (outputCount m) (PairState.start buffer)

end Properties

/-! ## 4. `GetRKTplg`

The whole function with its two evaluations, whose answers are not in the code.  The memory from
the output buffer on goes further than the buffer, since the parser may read there. -/

/-- **What the system answers**: the status of the first evaluation and the `Length` it leaves, the
status of `WdfMemoryCreate`, the status of the second evaluation, and the memory from the output
buffer on. -/
structure Answers where
  first : NTSTATUS
  length : BitVec 32
  create : NTSTATUS
  second : NTSTATUS
  memory : Memory

/-- `outputBuffer`, of `outputBufferSize` bytes. -/
def Answers.outputBuffer (a : Answers) : Extent Nat := ⟨0, outputArgument + a.length.toNat⟩

/-- The status that is returned, `*rkTplg`, and what has been read of the output buffer. -/
structure TplgResult where
  status : NTSTATUS
  rkTplg : RkTplg
  accesses : List Access

/-- `GetRKTplg`. -/
def getRKTplg (a : Answers) (rkTplg : RkTplg) : TplgResult :=
  if a.first ≠ statusBufferOverflow then ⟨a.first, rkTplg, []⟩
  else if ntSuccess a.create = false then ⟨a.create, rkTplg, []⟩
  else if ntSuccess a.second = false then ⟨a.second, rkTplg, []⟩
  else if outputSignature a.memory ≠ evalOutputBufferSignature then
    ⟨a.second, rkTplg, [⟨⟨0, 4⟩, [a.outputBuffer]⟩]⟩
  else if outputCount a.memory % 2 ≠ 0 then
    ⟨statusAcpiInvalidData, rkTplg, headerAccesses a.outputBuffer⟩
  else
    ⟨(parsePairs a.memory a.outputBuffer).status, (parsePairs a.memory a.outputBuffer).rkTplg,
      (parsePairs a.memory a.outputBuffer).accesses⟩

/-! ## 5. The loops

The two loops have no bound in the source.  That each ends is a matter of the address, which grows
by a header and four bytes at least, and of the counter, which an even `Count` stops before it
wraps. -/

section Loops

variable (m : Memory)

theorem propertyBody_some (buffer : Extent Nat) (packageArg : Nat) {s : PropertyState}
    (h : s.dsdParameter < dataEnd m packageArg) :
    propertyBody m buffer packageArg s = some
      { dsdParameter := nextArgument m s.dsdParameter
        rkTplg := applyProperty m s.dsdParameter s.rkTplg
        accesses := s.accesses
          ++ propertyAccesses m buffer (dataExtent m packageArg) s.dsdParameter } :=
  if_pos h

theorem propertyBody_none (buffer : Extent Nat) (packageArg : Nat) {s : PropertyState}
    (h : dataEnd m packageArg ≤ s.dsdParameter) : propertyBody m buffer packageArg s = none :=
  if_neg (Nat.not_lt.mpr h)

/-- **The inner loop ends**: each property takes it on. -/
theorem parseProperties_ends (buffer : Extent Nat) (packageArg : Nat) (rkTplg : RkTplg) :
    propertyBody m buffer packageArg (parseProperties m buffer packageArg rkTplg) = none := by
  refine (loop_spec (propertyBody m buffer packageArg)
    (fun n s => dataEnd m packageArg - s.dsdParameter ≤ n) (fun _ => True) ?_ _
    (dataLength m packageArg) _ ?_ (Nat.le_refl _)).1
  · intro n s hn
    rcases Nat.lt_or_ge s.dsdParameter (dataEnd m packageArg) with hlt | hge
    · have hnext := add_le_nextArgument m s.dsdParameter
      refine Or.inr ⟨_, n - 8, propertyBody_some m buffer packageArg hlt, by omega, ?_⟩
      dsimp only
      omega
    · exact Or.inl ⟨propertyBody_none m buffer packageArg hge, trivial⟩
  · unfold dataEnd
    dsimp only
    omega

theorem parsePair_broke (buffer : Extent Nat) (guidArg packageArg : Nat) {s : PairState}
    (h : s.broke = false) :
    (parsePair m buffer guidArg packageArg s).broke = !pairTyped m guidArg packageArg := by
  unfold parsePair
  cases htyped : pairTyped m guidArg packageArg with
  | false => rfl
  | true =>
    cases hmatch : guidMatches m guidArg with
    | false => exact h
    | true => rfl

/-- A typed pair takes the loop on. -/
theorem parsePair_typed (buffer : Extent Nat) {guidArg packageArg : Nat} (s : PairState)
    (htyped : pairTyped m guidArg packageArg = true) :
    (parsePair m buffer guidArg packageArg s).i = (s.i + 2) % 2 ^ 32
      ∧ (parsePair m buffer guidArg packageArg s).currArgument = nextArgument m packageArg := by
  unfold parsePair
  rw [if_pos htyped]
  split
  · exact ⟨rfl, rfl⟩
  · exact ⟨rfl, rfl⟩

variable {m} in
theorem pairBody_some (buffer : Extent Nat) {s : PairState} (hbroke : s.broke = false)
    (h : s.i < outputCount m) : pairBody m buffer s
      = some (parsePair m buffer s.currArgument (nextArgument m s.currArgument) s) :=
  if_pos ⟨hbroke, h⟩

variable {m} in
theorem pairBody_none (buffer : Extent Nat) {s : PairState}
    (h : s.broke = true ∨ outputCount m ≤ s.i) : pairBody m buffer s = none := by
  refine if_neg ?_
  rintro ⟨hbroke, hlt⟩
  rcases h with h | h
  · exact Bool.false_ne_true (hbroke.symm.trans h)
  · omega

/-- `i` does not pass an even `Count`. -/
theorem i_add_two {i : Nat} (hcount : outputCount m % 2 = 0) (hi : i % 2 = 0)
    (hlt : i < outputCount m) :
    (i + 2) % 2 ^ 32 % 2 = 0 ∧ (i + 2) % 2 ^ 32 ≤ outputCount m
      ∧ outputCount m - i = outputCount m - (i + 2) % 2 ^ 32 + 2 := by
  have hbound : outputCount m < 2 ^ 32 := loadLe_lt m 8 4
  have hmod : (i + 2) % 2 ^ 32 = i + 2 := Nat.mod_eq_of_lt (by omega)
  rw [hmod]
  omega

/-- **The outer loop ends**: `i` grows, or `break` ends it. -/
theorem parsePairs_ends (buffer : Extent Nat) (hcount : outputCount m % 2 = 0) :
    pairBody m buffer (parsePairs m buffer) = none := by
  refine (loop_spec (pairBody m buffer)
    (fun n s => s.i % 2 = 0 ∧ s.i ≤ outputCount m ∧ (s.broke = false → outputCount m - s.i ≤ n))
    (fun _ => True) ?_ _ (outputCount m) _ ⟨rfl, Nat.zero_le _, fun _ => Nat.sub_le _ _⟩
    (Nat.le_refl _)).1
  rintro n s ⟨hi, hle, hn⟩
  by_cases hgo : s.broke = false ∧ s.i < outputCount m
  · obtain ⟨hbroke, hlt⟩ := hgo
    have hfuel := hn hbroke
    have hends := parsePair_broke m buffer s.currArgument (nextArgument m s.currArgument) hbroke
    refine Or.inr ⟨_, n - 1, pairBody_some buffer hbroke hlt, by omega, ?_⟩
    cases htyped : pairTyped m s.currArgument (nextArgument m s.currArgument) with
    | false =>
      rw [htyped] at hends
      have hsame : (parsePair m buffer s.currArgument (nextArgument m s.currArgument) s).i = s.i := by
        unfold parsePair
        rw [if_neg (by rw [htyped]; exact Bool.false_ne_true)]
      rw [hsame]
      exact ⟨hi, hle, fun h => absurd (hends.symm.trans h) (by decide)⟩
    | true =>
      have hnext := i_add_two m hcount hi hlt
      rw [(parsePair_typed m buffer s htyped).1]
      exact ⟨hnext.1, hnext.2.1, fun _ => by omega⟩
  · refine Or.inl ⟨pairBody_none buffer ?_, trivial⟩
    rcases hbroke : s.broke with - | -
    · exact Or.inr (Nat.not_lt.mp fun hlt => hgo ⟨hbroke, hlt⟩)
    · exact Or.inl rfl

end Loops

end WoaRk3576.Audio
