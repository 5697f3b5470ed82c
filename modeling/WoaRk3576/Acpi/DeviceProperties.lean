/-
# Device properties

`AcpiParseDsdAsDeviceProperties`, the `AcpiDevicePropertiesQuery*` functions and the iterators of
drivers/shared/acpiutil.cpp, on an output buffer whose `Length` is the size of its allocation.
Each function gives its result, or the status it fails with, and the bytes of the buffer that it
reads, each read with the extents that are to hold it: the buffer, and the packages around the
argument.

`for (;;)` is a recursion with a bound on the entries of the package, and the status `unfinished`
stands for the bound having been too small.  A string is scanned for its zero over as many bytes as
an `ANSI_STRING` can have; where there is none among them, `RtlInitAnsiStringEx` fails, its status
is dropped, and the comparison is with a string on the stack that has never been written: the
status `unwritten`, behind which nothing is said any more.

A pointer to an argument carries the extents that are to hold it (`ArgumentPtr`), and the iterators
hand them on: the next argument is in the same package, and an argument of a package is in what
holds the package and in the data of the package besides.  So "inside the enclosing packages" is
said once, at the read, and not for each function.

Two of the functions return less than one would think.
`AcpiDevicePropertiesQueryIntegerArrayValue` takes a `DataLength` for the number of the integers
(`IntegerArray.lean`), and the pointer that `AcpiDevicePropertiesQueryIntegerValueArray` leaves is
to the last integer and not to its entry (`ValueArrays.lean`).
-/
import WoaRk3576.Acpi.Argument
import WoaRk3576.Lib.CString
import WoaRk3576.Lib.Traced

namespace WoaRk3576.Acpi

open WoaRk3576.Lib

/-! ## 1. Arguments and what holds them

A read is a list of bytes together with the extents it has to lie in.  A pointer takes its extents
from the pointer it was made of, so no function can forget the package around an argument; whether
a read is inside is a comparison with the end of each extent. -/

/-- The statuses that the functions fail with, and two that stand for no status of the code. -/
inductive AcpiStatus
  | noMoreEntries | notFound | invalidArgtype | incorrectArgumentCount | invalidData
  | bufferTooSmall | nameTooLong | invalidParameter3 | invalidParameter4
  | unfinished | unwritten
  deriving DecidableEq

/-- **A pointer to an argument**, and the extents that are to hold the argument. -/
@[ext]
structure ArgumentPtr where
  address : Nat
  within : List (Extent Nat)
  starts : ∀ e ∈ within, e.address ≤ address

namespace ArgumentPtr

/-- The first `n` bytes of the argument end inside each of the extents. -/
def Fits (p : ArgumentPtr) (n : Nat) : Prop :=
  ∀ e ∈ p.within, p.address + n ≤ e.address + e.length

/-- `n` bytes from `offset` on. -/
def bytes (p : ArgumentPtr) (offset n : Nat) : Access := ⟨⟨p.address + offset, n⟩, p.within⟩

theorem Fits.le {p : ArgumentPtr} {n k : Nat} (h : p.Fits n) (hle : k ≤ n) : p.Fits k := by
  intro e he
  have hn := h e he
  omega

/-- **Bytes are inside exactly if they end inside.** -/
theorem bytes_inBounds_iff {p : ArgumentPtr} {offset n : Nat} (hn : n ≠ 0) :
    (p.bytes offset n).InBounds ↔ p.Fits (offset + n) := by
  unfold Access.InBounds Fits bytes
  refine forall₂_congr fun e he => ?_
  have hstart := p.starts e he
  rw [Extent.bytes_subset_iff]
  dsimp only
  omega

theorem bytes_inBounds {p : ArgumentPtr} {offset n : Nat} (h : p.Fits (offset + n)) :
    (p.bytes offset n).InBounds := by
  by_cases hn : n = 0
  · intro e _
    exact Extent.bytes_subset_iff.mpr (Or.inl hn)
  · exact (bytes_inBounds_iff hn).mpr h

end ArgumentPtr

section Pointers

variable (m : Memory)

/-- The argument at `offset` of the data of a package. -/
def ArgumentPtr.inside (p : ArgumentPtr) (offset : Nat) : ArgumentPtr where
  address := p.address + 4 + offset
  within := dataExtent m p.address :: p.within
  starts := by
    intro e he
    rcases List.mem_cons.mp he with rfl | he
    · exact Nat.le_add_right _ _
    · have hstart := p.starts e he
      omega

/-- `ACPI_METHOD_NEXT_ARGUMENT`: the next argument of the same package. -/
def ArgumentPtr.next (p : ArgumentPtr) : ArgumentPtr where
  address := nextArgument m p.address
  within := p.within
  starts := by
    intro e he
    have hstart := p.starts e he
    have hnext := add_le_nextArgument m p.address
    omega

end Pointers

/-- `sizeof(ACPI_METHOD_ARGUMENT)`, of four data bytes. -/
def sizeofMethodArgument : Nat := 8

/-! ## 2. Iterators

Both iterators compare the start of the next argument with the end of what holds it.  They give no
promise about the rest of the argument, and the model does not add one. -/

section Iterators

variable (m : Memory)

open Traced

/-- The allocation. -/
def outputExtent : Extent Nat := ⟨0, outputLength m⟩

/-- `OutputBufferPtr->Argument`. -/
def outputFirst : ArgumentPtr where
  address := outputArgument
  within := [outputExtent m]
  starts := by
    intro e he
    rw [List.mem_singleton.mp he]
    exact Nat.zero_le _

/-- `ACPI_EVAL_OUTPUT_BUFFER_ARGUMENT_LENGTH`, a difference of `ULONG`s. -/
def outputArgumentLength : Nat :=
  if outputLength m < outputArgument then outputLength m + 2 ^ 32 - outputArgument
  else outputLength m - outputArgument

/-- `AcpiOutputBufferGetNextArgument`. -/
def outputBufferGetNextArgument : Option ArgumentPtr → Traced AcpiStatus ArgumentPtr
  | none => do
    read ⟨⟨4, 4⟩, [outputExtent m]⟩
    if outputArgumentLength m < sizeofMethodArgument then throw .noMoreEntries
    else pure (outputFirst m)
  | some argument => do
    read ⟨⟨4, 4⟩, [outputExtent m]⟩
    if outputArgumentLength m < sizeofMethodArgument then throw .noMoreEntries
    else do
      read (argument.bytes 2 2)
      if outputArgument + outputArgumentLength m ≤ nextArgument m argument.address then
        throw .noMoreEntries
      else pure (argument.next m)

/-- `AcpiPackageGetNextArgument`. -/
def packageGetNextArgument (pkg : ArgumentPtr) :
    Option ArgumentPtr → Traced AcpiStatus ArgumentPtr
  | none => do
    read (pkg.bytes 2 2)
    if dataLength m pkg.address < sizeofMethodArgument then throw .noMoreEntries
    else pure (pkg.inside m 0)
  | some argument => do
    read (pkg.bytes 2 2)
    if dataLength m pkg.address < sizeofMethodArgument then throw .noMoreEntries
    else do
      read (argument.bytes 2 2)
      if dataEnd m pkg.address ≤ nextArgument m argument.address then throw .noMoreEntries
      else pure (argument.next m)

end Iterators

/-! ## 3. The values of arguments

The three functions that take a value out of an argument test its type, and read its data by the
length that the type or the argument itself states. -/

section Values

variable (m : Memory)

open Traced

/-- `AcpiArgumentParseGuid`. -/
def argumentParseGuid (argument : ArgumentPtr) : Traced AcpiStatus (List (BitVec 8)) := do
  read (argument.bytes 0 2)
  if argType m argument.address ≠ methodArgumentBuffer then throw .invalidArgtype
  else do
    read (argument.bytes 2 2)
    if dataLength m argument.address ≠ 16 then throw .invalidArgtype
    else do
      read (argument.bytes 4 16)
      pure (argData m argument.address)

/-- `AcpiArgumentParseInteger`. -/
def argumentParseInteger (argument : ArgumentPtr) : Traced AcpiStatus Nat := do
  read (argument.bytes 0 2)
  if argType m argument.address ≠ methodArgumentInteger then throw .invalidArgtype
  else do
    read (argument.bytes 2 2)
    if dataLength m argument.address ≠ 4 then throw .invalidArgtype
    else do
      read (argument.bytes 4 4)
      pure (loadLe m (argument.address + 4) 4)

/-- `AcpiArgumentParseString`. -/
def argumentParseString (argument : ArgumentPtr) (maxLength : Nat) :
    Traced AcpiStatus (List (BitVec 8)) := do
  read (argument.bytes 0 2)
  if argType m argument.address ≠ methodArgumentString then throw .invalidArgtype
  else do
    read (argument.bytes 2 2)
    if maxLength < dataLength m argument.address then throw .bufferTooSmall
    else do
      read (argument.bytes 4 (dataLength m argument.address))
      pure (argData m argument.address)

/-- The most characters of an `ANSI_STRING`. -/
def maxAnsiLength : Nat := 65534

/-- `strlen`, where there is a zero among the next `n` bytes. -/
def strlen : Nat → Nat → Option Nat
  | 0, _ => none
  | n + 1, p => if m p = 0 then some 0 else (strlen n (p + 1)).map (· + 1)

/-- `RtlInitAnsiStringEx` of the data of an argument. -/
def initAnsiString (argument : ArgumentPtr) : Traced AcpiStatus (List (BitVec 8)) :=
  match strlen m (maxAnsiLength + 1) (argument.address + 4) with
  | some n => do
    read (argument.bytes 4 (n + 1))
    pure (load m (argument.address + 4) n)
  | none => do
    read (argument.bytes 4 (maxAnsiLength + 1))
    throw .unwritten

end Values

/-! ## 4. `AcpiParseDsdAsDeviceProperties`

A `_DSD` is pairs of a GUID and a package.  The parse accepts a result that is a single pair with
the GUID of device properties, and gives its package. -/

section Parse

variable (m : Memory)

open Traced

/-- `AcpiParseDsdAsDeviceProperties`: the package of the properties. -/
def parseDsdAsDeviceProperties : Traced AcpiStatus ArgumentPtr := do
  read ⟨⟨8, 4⟩, [outputExtent m]⟩
  if outputCount m ≠ 2 then throw .incorrectArgumentCount
  else do
    let guidArg ← outputBufferGetNextArgument m none
    let guid ← argumentParseGuid m guidArg
    if guid ≠ devicePropertiesGuid then throw .invalidData
    else do
      let pkg ← outputBufferGetNextArgument m (some guidArg)
      read (pkg.bytes 0 2)
      if argType m pkg.address ≠ methodArgumentPackage then throw .invalidArgtype
      else pure pkg

end Parse

/-! ## 5. Queries

Every query is a search for a key and then a look at the value that is found.  The search takes the
first entry with the key; an entry of another form ends it with a failure, also when the key would
have been found behind it. -/

section Queries

variable (m : Memory)

open Traced

/-- One entry of the list of properties: its value if its key is the one that is looked for. -/
def queryEntry (entry : ArgumentPtr) (keyName : List (BitVec 8)) :
    Traced AcpiStatus (Option ArgumentPtr) := do
  read (entry.bytes 0 2)
  if argType m entry.address ≠ methodArgumentPackage then throw .invalidArgtype
  else do
    let key ← (packageGetNextArgument m entry none).mapError fun _ => .incorrectArgumentCount
    read (key.bytes 0 2)
    if argType m key.address ≠ methodArgumentString then throw .invalidData
    else do
      let name ← initAnsiString m key
      if name ≠ keyName then pure none
      else do
        let value ←
          (packageGetNextArgument m entry (some key)).mapError fun _ => .incorrectArgumentCount
        pure (some value)

/-- The `for (;;)` of `AcpiDevicePropertiesQueryValue`. -/
def queryLoop (pkg : ArgumentPtr) (keyName : List (BitVec 8)) :
    Nat → Option ArgumentPtr → Traced AcpiStatus ArgumentPtr
  | 0, _ => throw .unfinished
  | fuel + 1, currentListEntry => do
    let entry ← (packageGetNextArgument m pkg currentListEntry).mapError fun _ => .notFound
    let found ← queryEntry m entry keyName
    match found with
    | some value => pure value
    | none => queryLoop pkg keyName fuel (some entry)

/-- `AcpiDevicePropertiesQueryValue`. -/
def queryValue (pkg : ArgumentPtr) (keyName : List (BitVec 8)) :
    Traced AcpiStatus ArgumentPtr := do
  read (pkg.bytes 0 2)
  if argType m pkg.address ≠ methodArgumentPackage then throw .invalidArgtype
  else if maxAnsiLength < keyName.length then throw .nameTooLong
  else queryLoop m pkg keyName (dataLength m pkg.address + 1) none

/-- The functions that take a value from the list first test the type of the list. -/
def withValue {α : Type} (pkg : ArgumentPtr) (keyName : List (BitVec 8))
    (parse : ArgumentPtr → Traced AcpiStatus α) : Traced AcpiStatus α := do
  read (pkg.bytes 0 2)
  if argType m pkg.address ≠ methodArgumentPackage then throw .invalidArgtype
  else do
    let value ← queryValue m pkg keyName
    parse value

/-- `AcpiDevicePropertiesQueryIntegerValue<UINT32>`. -/
def queryIntegerValue (pkg : ArgumentPtr) (keyName : List (BitVec 8)) : Traced AcpiStatus Nat :=
  withValue m pkg keyName (argumentParseInteger m)

/-- `AcpiDevicePropertiesQueryStringValue`. -/
def queryStringValue (pkg : ArgumentPtr) (keyName : List (BitVec 8)) (maxLength : Nat) :
    Traced AcpiStatus (List (BitVec 8)) :=
  withValue m pkg keyName fun value => argumentParseString m value maxLength

/-- The loop of `AcpiDevicePropertiesQueryIntegerArrayValue`. -/
def arrayLoop : Nat → ArgumentPtr → Traced AcpiStatus (List Nat)
  | 0, _ => pure []
  | n + 1, argument => do
    read (argument.bytes 4 4)
    read (argument.bytes 2 2)
    let rest ← arrayLoop n (argument.next m)
    pure (loadLe m (argument.address + 4) 4 :: rest)

/-- `AcpiDevicePropertiesQueryIntegerArrayValue`, behind the tests of its parameters.  The first
argument in the value has the number of the integers as its `DataLength`. -/
def queryIntegerArrayValue (pkg : ArgumentPtr) (keyName : List (BitVec 8)) (length : Nat) :
    Traced AcpiStatus (List Nat) :=
  if length = 0 then throw .invalidParameter4
  else withValue m pkg keyName fun value => do
    read ((value.inside m 0).bytes 2 2)
    if dataLength m (value.inside m 0).address ≠ length then throw .incorrectArgumentCount
    else arrayLoop m (dataLength m (value.inside m 0).address) (value.inside m 0)

/-- The loop of `AcpiDevicePropertiesQueryIntegerValueArray`: `count` integers of an entry, and the
last argument that was met. -/
def entryLoop (entry : ArgumentPtr) :
    Nat → Option ArgumentPtr → Traced AcpiStatus (List Nat × Option ArgumentPtr)
  | 0, currentEntry => pure ([], currentEntry)
  | n + 1, currentEntry => do
    let argument ←
      (packageGetNextArgument m entry currentEntry).mapError fun _ => .incorrectArgumentCount
    read (argument.bytes 0 2)
    if argType m argument.address ≠ methodArgumentInteger then throw .invalidData
    else do
      let value ← argumentParseInteger m argument
      let rest ← entryLoop entry n (some argument)
      pure (value :: rest.1, rest.2)

/-- `AcpiDevicePropertiesQueryIntegerValueArray`.  `*currentEntryNextPtr` is null, or a pointer into
the list that an earlier call has left. -/
def queryIntegerValueArray (list : ArgumentPtr) (count : Nat)
    (currentEntryNext : Option ArgumentPtr) :
    Traced AcpiStatus (List Nat × Option ArgumentPtr) :=
  if count = 0 then throw .invalidParameter3
  else do
    let entry ← (packageGetNextArgument m list currentEntryNext).mapError fun _ => .notFound
    read (entry.bytes 0 2)
    if argType m entry.address ≠ methodArgumentPackage then throw .invalidArgtype
    else entryLoop m entry count none

end Queries

end WoaRk3576.Acpi
