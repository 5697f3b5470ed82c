/-
# Arguments of an ACPI evaluation

The macros of the WDK for the result of an evaluation.  An `ACPI_METHOD_ARGUMENT` is a header of
four bytes, `Type` and `DataLength`, and its data; the next argument lies behind the data, and
behind four bytes at least.  An `ACPI_EVAL_OUTPUT_BUFFER` is a signature, its length, the number of
its arguments, and the arguments; the data of a package are arguments again.

Addresses count from the start of the output buffer.
-/
import WoaRk3576.Lib.Access
import WoaRk3576.Lib.Memory
import Mathlib.Logic.Function.Iterate

namespace WoaRk3576.Acpi

open WoaRk3576.Lib

/-! ## 1. Status codes

A status is an error or a warning exactly if its highest bit is set; the drivers look at nothing
else of it, but for the few values they name. -/

abbrev NTSTATUS := BitVec 32

/-- `NT_SUCCESS`. -/
def ntSuccess (status : NTSTATUS) : Bool := !status.msb

def statusSuccess : NTSTATUS := 0
def statusBufferOverflow : NTSTATUS := 0x80000005
def statusNotFound : NTSTATUS := 0xC0000225
def statusAcpiInvalidData : NTSTATUS := 0xC014000F

@[simp]
theorem ntSuccess_statusSuccess : ntSuccess statusSuccess = true := rfl

/-! ## 2. Arguments

The fields of an argument are read from memory with the byte order of the machine, lowest byte
first.  Nothing here says that they are sensible: a length may lead anywhere, and the lemmas about
where the next argument lies hold for every memory. -/

/-- `ACPI_METHOD_ARGUMENT_INTEGER`. -/
def methodArgumentInteger : Nat := 0

/-- `ACPI_METHOD_ARGUMENT_STRING`. -/
def methodArgumentString : Nat := 1

/-- `ACPI_METHOD_ARGUMENT_BUFFER`. -/
def methodArgumentBuffer : Nat := 2

/-- `ACPI_METHOD_ARGUMENT_PACKAGE`. -/
def methodArgumentPackage : Nat := 3

/-- `ACPI_DEVICE_PROPERTIES_DSD_GUID` and `GUID_ACPI_DSD`, one GUID in two drivers, as it lies in
memory. -/
def devicePropertiesGuid : List (BitVec 8) :=
  [0x14, 0xD8, 0xFF, 0xDA, 0xBA, 0x6E, 0x8C, 0x4D, 0x8A, 0x91, 0xBC, 0x9B, 0xBF, 0x4A, 0xA3, 0x01]

section Argument

variable (m : Memory) (argument : Nat)

/-- `Argument->Type`. -/
def argType : Nat := loadLe m argument 2

/-- `Argument->DataLength`. -/
def dataLength : Nat := loadLe m (argument + 2) 2

/-- `Argument->Data`. -/
def argData : List (BitVec 8) := load m (argument + 4) (dataLength m argument)

/-- Where the data lie. -/
def dataExtent : Extent Nat := ⟨argument + 4, dataLength m argument⟩

/-- The end of the data. -/
def dataEnd : Nat := argument + 4 + dataLength m argument

/-- `ACPI_METHOD_NEXT_ARGUMENT`. -/
def nextArgument : Nat := argument + (4 + max 4 (dataLength m argument))

@[simp]
theorem length_argData : (argData m argument).length = dataLength m argument := length_load ..

theorem add_le_nextArgument : argument + 8 ≤ nextArgument m argument := by
  unfold nextArgument
  omega

theorem dataEnd_le_nextArgument : dataEnd m argument ≤ nextArgument m argument := by
  unfold dataEnd nextArgument
  omega

/-- Arguments follow each other: none is met twice. -/
theorem le_iterate_nextArgument (k : Nat) : argument ≤ (nextArgument m)^[k] argument := by
  induction k with
  | zero => exact Nat.le_refl _
  | succ k ih =>
    have hnext := add_le_nextArgument m ((nextArgument m)^[k] argument)
    rw [Function.iterate_succ_apply']
    omega

end Argument

/-! ## 3. The output buffer

The arguments of the buffer begin behind its header, at the same distance for all drivers. -/

/-- `ACPI_EVAL_OUTPUT_BUFFER_SIGNATURE`, 'BoeA'. -/
def evalOutputBufferSignature : Nat := 0x426F6541

section OutputBuffer

variable (m : Memory)

/-- `OutputBuffer->Signature`. -/
def outputSignature : Nat := loadLe m 0 4

/-- `OutputBuffer->Length`. -/
def outputLength : Nat := loadLe m 4 4

/-- `OutputBuffer->Count`. -/
def outputCount : Nat := loadLe m 8 4

end OutputBuffer

/-- `FIELD_OFFSET(ACPI_EVAL_OUTPUT_BUFFER, Argument)`. -/
def outputArgument : Nat := 12

/-- `sizeof(ACPI_EVAL_OUTPUT_BUFFER)`, which has one argument of four data bytes. -/
def sizeofEvalOutputBuffer : Nat := 20

end WoaRk3576.Acpi
