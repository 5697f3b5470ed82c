/-
# The input of a `_DSM`: `AcpiFormatDsmFunctionInputBuffer`

The size of the buffer is computed first, by a formula, and the arguments are then written one
behind the other, where `ACPI_METHOD_NEXT_ARGUMENT` finds the next one in what is already there.

`dsmInput_encoded` is the result: for every GUID, revision, index and package, the arguments that
are walked in the buffer are the four that were given, the walk ends where the buffer does, and no
byte is written outside of it.

The formula and the walk are two computations of one layout, and what connects them is the list of
bytes that the buffer is to have (`DsmFunction.inputBytes`).

* The formula is the length of that list (`inputBufferSize_eq`), with a package of less than four
  bytes taken for four, as the walk does.
* While the routine runs, the buffer begins with the bytes written so far and is zero behind them
  (`Building`, of `Lib/Builder.lean`).  So the next argument is found in bytes that are known
  (`building_next`), and a package that was not given is zeros without a write.
* What a reader of the buffer finds is then a matter of the bytes (`dsmEncoded_of_building`).
-/
import WoaRk3576.Acpi.Packages
import WoaRk3576.Lib.Builder

namespace WoaRk3576.Acpi

open WoaRk3576.Lib

/-! ## 1. The routine

The routine in two parts, as in the source: the formula for the size, and the walk that sets one
argument after the other.  The observer notes the bytes that are written, so that a write outside
of the buffer is seen. -/

/-- `ACPI_METHOD_ARGUMENT_PACKAGE_EX`. -/
def methodArgumentPackageEx : Nat := 4

/-- `ACPI_EVAL_INPUT_BUFFER_COMPLEX_SIGNATURE`, 'CieA'. -/
def evalInputBufferComplexSignature : Nat := 0x43696541

/-- `ACPI_METHOD_ULONG_DSM`, 'MSD_'. -/
def methodUlongDsm : Nat := 0x4D53445F

/-- `ACPI_DSM_ARGUMENT_COUNT`. -/
def dsmArgumentCount : Nat := 4

/-- `FIELD_OFFSET(ACPI_EVAL_INPUT_BUFFER_COMPLEX, Argument)`. -/
def inputArgument : Nat := 16

/-- `sizeof(ACPI_EVAL_INPUT_BUFFER_COMPLEX)`, which has one argument. -/
def sizeofEvalInputBufferComplex : Nat := inputArgument + sizeofMethodArgument

/-- The parameters: `functionArguments` is the memory at `FunctionArgumentsPtr`, unless that is
null. -/
structure DsmFunction where
  guid : List (BitVec 8)
  guid_length : guid.length = 16
  revisionId : BitVec 32
  functionIdx : BitVec 32
  functionArguments : Option Memory
  functionArgumentsSize : BitVec 16

/-- `inputBufferSize`. -/
def DsmFunction.inputBufferSize (d : DsmFunction) : Nat :=
  let size := sizeofEvalInputBufferComplex - sizeofMethodArgument
    + (sizeofMethodArgument - 4 + 16) + sizeofMethodArgument * (dsmArgumentCount - 1)
  if 4 < d.functionArgumentsSize.toNat then size + (d.functionArgumentsSize.toNat - 4) else size

/-- `Argument->Type` and `Argument->DataLength` are set. -/
def setHeader (f : Filled) (argument type length : Nat) : Filled :=
  (f.put argument (leBytes 2 type)).put (argument + 2) (leBytes 2 length)

/-- `ACPI_METHOD_SET_ARGUMENT_BUFFER`. -/
def setArgumentBuffer (f : Filled) (argument : Nat) (data : List (BitVec 8)) : Filled :=
  (setHeader f argument methodArgumentBuffer data.length).put (argument + 4) data

/-- `ACPI_METHOD_SET_ARGUMENT_INTEGER`. -/
def setArgumentInteger (f : Filled) (argument : Nat) (value : BitVec 32) : Filled :=
  (setHeader f argument methodArgumentInteger 4).put (argument + 4) (leBytes 4 value.toNat)

/-- The fields of the buffer in front of its arguments. -/
def setInputHeader (f : Filled) (buffer size : Nat) : Filled :=
  let f := f.put buffer (leBytes 4 evalInputBufferComplexSignature)
  let f := f.put (buffer + 4) (leBytes 4 methodUlongDsm)
  let f := f.put (buffer + 8) (leBytes 4 size)
  f.put (buffer + 12) (leBytes 4 dsmArgumentCount)

/-- `*InputBufferPptr` and `*InputBufferSizePtr`, and what is written. -/
structure DsmInput where
  buffer : Nat
  size : Nat
  filled : Filled

/-- `AcpiFormatDsmFunctionInputBuffer`: `pool` is what `ExAllocatePoolZero` returns, and none
stands for `STATUS_INSUFFICIENT_RESOURCES`. -/
def formatDsmFunctionInputBuffer (m : Memory) (pool : Option Nat) (d : DsmFunction) :
    Option DsmInput :=
  pool.map fun buffer =>
    let size := d.inputBufferSize
    let f := (Filled.untouched m).put buffer (List.replicate size 0)
    let f := setInputHeader f buffer size
    let argument := buffer + inputArgument
    let f := setArgumentBuffer f argument d.guid
    let argument := nextArgument f.memory argument
    let f := setArgumentInteger f argument d.revisionId
    let argument := nextArgument f.memory argument
    let f := setArgumentInteger f argument d.functionIdx
    let argument := nextArgument f.memory argument
    let f := setHeader f argument methodArgumentPackageEx d.functionArgumentsSize.toNat
    let f := match d.functionArguments with
      | none => f
      | some bytes => f.put (argument + 4) (load bytes 0 (dataLength f.memory argument))
    ⟨buffer, size, f⟩

/-! ## 2. What the buffer is for

The reader of the buffer is the ACPI driver, which has nothing but the bytes.  So the result is
about them: going from argument to argument it has to meet the four that were given, and to be at
the end of the buffer behind the last. -/

/-- The bytes of the package: those of the caller, or zeros. -/
def DsmFunction.packageBytes (d : DsmFunction) : List (BitVec 8) :=
  match d.functionArguments with
  | none => List.replicate d.functionArgumentsSize.toNat 0
  | some bytes => load bytes 0 d.functionArgumentsSize.toNat

/-- An argument as it is in memory. -/
def HasArgument (m : Memory) (a type : Nat) (data : List (BitVec 8)) : Prop :=
  argType m a = type ∧ dataLength m a = data.length ∧ argData m a = data

/-- **The buffer is the input**: its header has its size and the number of its arguments, the walk
through it meets the four arguments and ends with it, and nothing outside of it is written. -/
structure DsmEncoded (m : Memory) (d : DsmFunction) (i : DsmInput) : Prop where
  size : loadLe i.filled.memory (i.buffer + 8) 4 = i.size
  count : loadLe i.filled.memory (i.buffer + 12) 4 = dsmArgumentCount
  arguments : ∃ guid revision index package,
    ArgumentsTo i.filled.memory (i.buffer + i.size) (i.buffer + inputArgument)
        [guid, revision, index, package]
      ∧ HasArgument i.filled.memory guid methodArgumentBuffer d.guid
      ∧ HasArgument i.filled.memory revision methodArgumentInteger (leBytes 4 d.revisionId.toNat)
      ∧ integerAt i.filled.memory revision = d.revisionId.toNat
      ∧ HasArgument i.filled.memory index methodArgumentInteger (leBytes 4 d.functionIdx.toNat)
      ∧ integerAt i.filled.memory index = d.functionIdx.toNat
      ∧ HasArgument i.filled.memory package methodArgumentPackageEx d.packageBytes
  inside : i.filled.Inside ⟨i.buffer, i.size⟩
  around : ∀ x, x < i.buffer ∨ i.buffer + i.size ≤ x → i.filled.memory x = m x

/-! ## 3. Pieces of the buffer

While the buffer is being filled its first bytes are known and the others are zero.  Setting an
argument appends to what is known, and finding the next one reads what is known; these are the two
steps of the walk. -/

/-- The bytes of an argument. -/
def argumentBytes (type : Nat) (data : List (BitVec 8)) : List (BitVec 8) :=
  leBytes 2 type ++ leBytes 2 data.length ++ data

@[simp]
theorem length_argumentBytes (type : Nat) (data : List (BitVec 8)) :
    (argumentBytes type data).length = 4 + data.length := by
  simp only [argumentBytes, List.length_append, length_leBytes]

/-- Where the bytes of an argument are, there is the argument. -/
theorem hasArgument_of_load {m : Memory} {a type : Nat} {data : List (BitVec 8)}
    (htype : type < 65536) (hlength : data.length < 65536)
    (h : load m a (4 + data.length) = argumentBytes type data) : HasArgument m a type data := by
  have hsplit : load m a 2 ++ load m (a + 2) 2 ++ load m (a + 4) data.length
      = leBytes 2 type ++ leBytes 2 data.length ++ data := by
    rw [← load_add m a 2 2, ← load_add m a 4 data.length, h]
    rfl
  obtain ⟨hheader, hdata⟩ := List.append_inj hsplit (by simp)
  obtain ⟨hfirst, hsecond⟩ := List.append_inj hheader (by simp)
  have hdataLength : dataLength m a = data.length := by
    rw [dataLength, loadLe, hsecond, leNat_leBytes]
    exact Nat.mod_eq_of_lt hlength
  refine ⟨?_, hdataLength, ?_⟩
  · rw [argType, loadLe, hfirst, leNat_leBytes]
    exact Nat.mod_eq_of_lt htype
  · rw [argData, hdataLength, hdata]

/-- The value of an integer argument. -/
theorem integerAt_of_hasArgument {m : Memory} {a type : Nat} {value : BitVec 32}
    (h : HasArgument m a type (leBytes 4 value.toNat)) : integerAt m a = value.toNat := by
  obtain ⟨-, hlength, hdata⟩ := h
  rw [argData, hlength, length_leBytes] at hdata
  rw [integerAt, loadLe, hdata, leNat_leBytes]
  exact Nat.mod_eq_of_lt value.isLt

section Pieces

variable {f : Filled} {m : Memory} {base size : Nat} {bs : List (BitVec 8)}

theorem building_setHeader (h : f.Building m base size bs) (type length : Nat) {argument : Nat}
    (hargument : argument = base + bs.length) (hfits : bs.length + 4 ≤ size) :
    (setHeader f argument type length).Building m base size
      (bs ++ leBytes 2 type ++ leBytes 2 length) := by
  have hfirst := h.put (leBytes 2 type) (by rw [length_leBytes]; omega) hargument
  refine hfirst.put (leBytes 2 length) ?_ ?_
  · rw [List.length_append, length_leBytes, length_leBytes]
    omega
  · rw [List.length_append, length_leBytes, hargument, Nat.add_assoc]

/-- The data are written behind the header. -/
theorem building_setData (h : f.Building m base size bs) (type : Nat) (data : List (BitVec 8))
    {argument : Nat} (hargument : argument = base + bs.length)
    (hfits : bs.length + (4 + data.length) ≤ size) :
    ((setHeader f argument type data.length).put (argument + 4) data).Building m base size
      (bs ++ argumentBytes type data) := by
  have hheader := building_setHeader h type data.length hargument (by omega)
  have hput := hheader.put data (a := argument + 4) (by simp; omega) (by simp [hargument]; omega)
  simpa only [argumentBytes, List.append_assoc] using hput

theorem building_setArgumentInteger (h : f.Building m base size bs) (value : BitVec 32)
    {argument : Nat} (hargument : argument = base + bs.length)
    (hfits : bs.length + 8 ≤ size) :
    (setArgumentInteger f argument value).Building m base size
      (bs ++ argumentBytes methodArgumentInteger (leBytes 4 value.toNat)) := by
  have hdata := building_setData h methodArgumentInteger (leBytes 4 value.toNat) hargument
    (by rw [length_leBytes]; exact hfits)
  rwa [length_leBytes] at hdata

/-- An argument in a buffer, `offset` bytes behind its start, and where the next one lies. -/
theorem building_hasArgument (pre post : List (BitVec 8)) (offset : Nat) {type : Nat}
    {data : List (BitVec 8)} (h : f.Building m base size (pre ++ argumentBytes type data ++ post))
    (hoffset : pre.length = offset) (htype : type < 65536) (hlength : data.length < 65536) :
    HasArgument f.memory (base + offset) type data
      ∧ nextArgument f.memory (base + offset) = base + offset + (4 + max 4 data.length) := by
  have hpiece := h.load_piece
  rw [length_argumentBytes, hoffset] at hpiece
  have hargument := hasArgument_of_load htype hlength hpiece
  exact ⟨hargument, by rw [nextArgument, hargument.2.1]⟩

/-- **Behind the last argument that is there the next one is written**, when it has four bytes. -/
theorem building_next {pre : List (BitVec 8)} {argument type : Nat} {data : List (BitVec 8)}
    (h : f.Building m base size (pre ++ argumentBytes type data))
    (hargument : argument = base + pre.length) (htype : type < 65536)
    (hlength : data.length < 65536) (hfour : 4 ≤ data.length) :
    nextArgument f.memory argument = base + (pre ++ argumentBytes type data).length := by
  rw [← List.append_nil (pre ++ _)] at h
  rw [hargument, (building_hasArgument pre [] _ h rfl htype hlength).2, List.length_append,
    length_argumentBytes, Nat.max_eq_right hfour, Nat.add_assoc]

/-- A number in a buffer. -/
theorem building_loadLe (pre post : List (BitVec 8)) (offset : Nat) {n x : Nat}
    (h : f.Building m base size (pre ++ leBytes n x ++ post)) (hoffset : pre.length = offset)
    (hx : x < 256 ^ n) : loadLe f.memory (base + offset) n = x := by
  have hpiece := h.load_piece
  rw [length_leBytes, hoffset] at hpiece
  rw [loadLe, hpiece, leNat_leBytes, Nat.mod_eq_of_lt hx]

end Pieces

/-! ## 4. The routine fills the buffer

The three arguments of fixed size are set one after the other, each found behind the one before.
The package may have fewer than four bytes or not be given at all; what it lacks is zero already. -/

/-- The bytes in front of the arguments. -/
def inputHeaderBytes (size : Nat) : List (BitVec 8) :=
  leBytes 4 evalInputBufferComplexSignature ++ leBytes 4 methodUlongDsm ++ leBytes 4 size
    ++ leBytes 4 dsmArgumentCount

@[simp]
theorem length_inputHeaderBytes (size : Nat) : (inputHeaderBytes size).length = 16 := by
  simp [inputHeaderBytes]

/-- The bytes of the first three arguments. -/
def DsmFunction.firstBytes (d : DsmFunction) : List (BitVec 8) :=
  argumentBytes methodArgumentBuffer d.guid
    ++ argumentBytes methodArgumentInteger (leBytes 4 d.revisionId.toNat)
    ++ argumentBytes methodArgumentInteger (leBytes 4 d.functionIdx.toNat)

/-- **The bytes of the buffer**, up to what pads a short package. -/
def DsmFunction.inputBytes (d : DsmFunction) : List (BitVec 8) :=
  inputHeaderBytes d.inputBufferSize ++ d.firstBytes
    ++ argumentBytes methodArgumentPackageEx d.packageBytes

variable (d : DsmFunction)

/-- **The formula mirrors the layout**: 52 bytes in front of the package, its header, and its
data or four bytes. -/
theorem inputBufferSize_eq :
    d.inputBufferSize = 56 + max 4 d.functionArgumentsSize.toNat := by
  unfold DsmFunction.inputBufferSize sizeofEvalInputBufferComplex inputArgument
    sizeofMethodArgument dsmArgumentCount
  dsimp only
  split <;> omega

@[simp]
theorem length_firstBytes : d.firstBytes.length = 36 := by
  simp [DsmFunction.firstBytes, d.guid_length]

@[simp]
theorem length_packageBytes : d.packageBytes.length = d.functionArgumentsSize.toNat := by
  unfold DsmFunction.packageBytes
  split
  · exact List.length_replicate
  · exact length_load ..

section Fill

variable {f : Filled} {m : Memory} {base size : Nat} {bs : List (BitVec 8)}

theorem building_setInputHeader (h : f.Building m base size []) (hsize : 16 ≤ size) :
    (setInputHeader f base size).Building m base size (inputHeaderBytes size) := by
  have hsignature := h.put (leBytes 4 evalInputBufferComplexSignature) (a := base)
    (by simp; omega) (by simp)
  have hname := hsignature.put (leBytes 4 methodUlongDsm) (a := base + 4) (by simp; omega)
    (by simp)
  have hlength := hname.put (leBytes 4 size) (a := base + 8) (by simp; omega) (by simp)
  exact hlength.put (leBytes 4 dsmArgumentCount) (a := base + 12) (by simp; omega) (by simp)

/-- The last argument: its header, and the bytes of the caller if there are any. -/
theorem building_package {argument : Nat} (h : f.Building m base size bs)
    (hargument : argument = base + bs.length)
    (hfits : bs.length + (4 + d.functionArgumentsSize.toNat) ≤ size) :
    Filled.Building
      (match d.functionArguments with
        | none => setHeader f argument methodArgumentPackageEx d.functionArgumentsSize.toNat
        | some bytes =>
          (setHeader f argument methodArgumentPackageEx d.functionArgumentsSize.toNat).put
            (argument + 4)
            (load bytes 0 (dataLength
              (setHeader f argument methodArgumentPackageEx d.functionArgumentsSize.toNat).memory
              argument)))
      m base size (bs ++ argumentBytes methodArgumentPackageEx d.packageBytes) := by
  have hheader := building_setHeader h methodArgumentPackageEx d.functionArgumentsSize.toNat
    hargument (by omega)
  have hsize : d.functionArgumentsSize.toNat < 65536 := d.functionArgumentsSize.isLt
  cases hcaller : d.functionArguments with
  | none =>
    have hskip := hheader.skip d.functionArgumentsSize.toNat (by simp; omega)
    simpa only [argumentBytes, DsmFunction.packageBytes, hcaller, List.length_replicate,
      List.append_assoc] using hskip
  | some bytes =>
    have hdataLength : dataLength
        (setHeader f argument methodArgumentPackageEx d.functionArgumentsSize.toNat).memory
        argument = d.functionArgumentsSize.toNat := by
      rw [← List.append_nil (_ ++ leBytes 2 d.functionArgumentsSize.toNat)] at hheader
      have hread := building_loadLe (bs ++ leBytes 2 methodArgumentPackageEx) []
        (bs.length + 2) hheader (by simp) hsize
      rwa [← Nat.add_assoc, ← hargument] at hread
    have hdata := building_setData h methodArgumentPackageEx
      (load bytes 0 d.functionArgumentsSize.toNat) hargument (by rw [length_load]; exact hfits)
    rw [length_load] at hdata
    simp only [hdataLength, DsmFunction.packageBytes, hcaller]
    exact hdata

end Fill

/-- **The routine fills the buffer that it allocates.** -/
theorem formatDsmFunctionInputBuffer_eq (m : Memory) (buffer : Nat) :
    ∃ f, formatDsmFunctionInputBuffer m (some buffer) d = some ⟨buffer, d.inputBufferSize, f⟩
      ∧ f.Building m buffer d.inputBufferSize d.inputBytes := by
  have hsize := inputBufferSize_eq d
  have hfour : ∀ value : BitVec 32, 4 ≤ (leBytes 4 value.toNat).length := by
    intro value
    rw [length_leBytes]
  have hshort : ∀ value : BitVec 32, (leBytes 4 value.toNat).length < 65536 := by
    intro value
    rw [length_leBytes]
    decide
  have hheader := building_setInputHeader (Filled.building_cleared m buffer d.inputBufferSize)
    (by omega)
  have hfirst : buffer + inputArgument
      = buffer + (inputHeaderBytes d.inputBufferSize).length := by
    rw [length_inputHeaderBytes, inputArgument]
  have hguid := building_setData hheader methodArgumentBuffer d.guid hfirst
    (by simp [d.guid_length]; omega)
  have hsecond := building_next hguid hfirst (by decide) (by rw [d.guid_length]; decide)
    (by rw [d.guid_length]; decide)
  have hrevision := building_setArgumentInteger hguid d.revisionId hsecond
    (by simp [d.guid_length]; omega)
  have hthird := building_next hrevision hsecond (by decide) (hshort _) (hfour _)
  have hindex := building_setArgumentInteger hrevision d.functionIdx hthird
    (by simp [d.guid_length]; omega)
  have hfourth := building_next hindex hthird (by decide) (hshort _) (hfour _)
  have hpackage := building_package d hindex hfourth (by simp [d.guid_length]; omega)
  refine ⟨_, rfl, ?_⟩
  have hbytes : d.inputBytes
      = inputHeaderBytes d.inputBufferSize ++ argumentBytes methodArgumentBuffer d.guid
        ++ argumentBytes methodArgumentInteger (leBytes 4 d.revisionId.toNat)
        ++ argumentBytes methodArgumentInteger (leBytes 4 d.functionIdx.toNat)
        ++ argumentBytes methodArgumentPackageEx d.packageBytes := by
    simp only [DsmFunction.inputBytes, DsmFunction.firstBytes, List.append_assoc]
  rw [hbytes]
  exact hpackage

/-! ## 5. The buffer that is filled

From the bytes to the input: each argument is found in them where the walk of the reader comes to
it. -/

/-- **What is filled so is the input of the method.** -/
theorem dsmEncoded_of_building {m : Memory} {buffer : Nat} {f : Filled}
    (h : f.Building m buffer d.inputBufferSize d.inputBytes) :
    DsmEncoded m d ⟨buffer, d.inputBufferSize, f⟩ := by
  have hsize := inputBufferSize_eq d
  have hdata : d.functionArgumentsSize.toNat < 65536 := d.functionArgumentsSize.isLt
  have hlength : d.inputBufferSize < 256 ^ 4 := by omega
  unfold DsmFunction.inputBytes at h
  have hguid := building_hasArgument (inputHeaderBytes d.inputBufferSize)
    (argumentBytes methodArgumentInteger (leBytes 4 d.revisionId.toNat)
      ++ argumentBytes methodArgumentInteger (leBytes 4 d.functionIdx.toNat)
      ++ argumentBytes methodArgumentPackageEx d.packageBytes) 16
    (by simpa only [DsmFunction.firstBytes, List.append_assoc] using h) (by simp) (by decide)
    (by rw [d.guid_length]; decide)
  have hrevision := building_hasArgument
    (inputHeaderBytes d.inputBufferSize ++ argumentBytes methodArgumentBuffer d.guid)
    (argumentBytes methodArgumentInteger (leBytes 4 d.functionIdx.toNat)
      ++ argumentBytes methodArgumentPackageEx d.packageBytes) 36
    (by simpa only [DsmFunction.firstBytes, List.append_assoc] using h)
    (by simp [d.guid_length]) (by decide) (by rw [length_leBytes]; decide)
  have hindex := building_hasArgument
    (inputHeaderBytes d.inputBufferSize ++ argumentBytes methodArgumentBuffer d.guid
      ++ argumentBytes methodArgumentInteger (leBytes 4 d.revisionId.toNat))
    (argumentBytes methodArgumentPackageEx d.packageBytes) 44
    (by simpa only [DsmFunction.firstBytes, List.append_assoc] using h)
    (by simp [d.guid_length]) (by decide) (by rw [length_leBytes]; decide)
  have hpackage := building_hasArgument (inputHeaderBytes d.inputBufferSize ++ d.firstBytes) [] 52
    (by rwa [List.append_nil]) (by simp) (by decide) (by rwa [length_packageBytes])
  have hafterGuid : nextArgument f.memory (buffer + 16) = buffer + 36 := by
    rw [hguid.2, d.guid_length]
    rfl
  have hafterRevision : nextArgument f.memory (buffer + 36) = buffer + 44 := by
    rw [hrevision.2, length_leBytes]
    rfl
  have hafterIndex : nextArgument f.memory (buffer + 44) = buffer + 52 := by
    rw [hindex.2, length_leBytes]
    rfl
  have hafterPackage : nextArgument f.memory (buffer + 52) = buffer + d.inputBufferSize := by
    rw [hpackage.2, length_packageBytes, hsize]
    omega
  have hwalk : ArgumentsTo f.memory (buffer + d.inputBufferSize) (buffer + 16)
      [buffer + 16, buffer + 36, buffer + 44, buffer + 52] := by
    simp only [ArgumentsTo, hafterGuid, hafterRevision, hafterIndex, hafterPackage, and_self]
  refine ⟨?_, ?_, ⟨buffer + 16, buffer + 36, buffer + 44, buffer + 52, hwalk, hguid.1,
    hrevision.1, integerAt_of_hasArgument hrevision.1, hindex.1,
    integerAt_of_hasArgument hindex.1, hpackage.1⟩, h.inside, h.around⟩
  · exact building_loadLe
      (leBytes 4 evalInputBufferComplexSignature ++ leBytes 4 methodUlongDsm)
      (leBytes 4 dsmArgumentCount ++ d.firstBytes
        ++ argumentBytes methodArgumentPackageEx d.packageBytes) 8
      (by simpa only [inputHeaderBytes, List.append_assoc] using h) (by simp) hlength
  · exact building_loadLe
      (leBytes 4 evalInputBufferComplexSignature ++ leBytes 4 methodUlongDsm
        ++ leBytes 4 d.inputBufferSize)
      (d.firstBytes ++ argumentBytes methodArgumentPackageEx d.packageBytes) 12
      (by simpa only [inputHeaderBytes, List.append_assoc] using h) (by simp) (by decide)

/-- **Every input is encoded exactly**, for every GUID, revision, function index and package of up
to 65535 bytes, given or not, whatever the memory and wherever the buffer is allocated.  The bytes
of the buffer are known after each step, so the formula for its size is their number, and the walk
of a reader finds the four arguments in them. -/
theorem dsmInput_encoded (m : Memory) (buffer : Nat) (d : DsmFunction) :
    ∃ i, formatDsmFunctionInputBuffer m (some buffer) d = some i ∧ i.buffer = buffer
      ∧ DsmEncoded m d i := by
  obtain ⟨f, hf, hbuilding⟩ := formatDsmFunctionInputBuffer_eq d m buffer
  exact ⟨_, hf, rfl, dsmEncoded_of_building d hbuilding⟩

end WoaRk3576.Acpi
