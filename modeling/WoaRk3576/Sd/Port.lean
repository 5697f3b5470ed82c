/-
# What the SD port driver and its miniports share

`dwcmshc` and `dwcsdhc` are miniports of `sdport`: it hands them requests and is told of their
completion.  These are the enumerations of its interface that both models use.  They are named as
in the port driver's header, which is not part of the repository; of each of them the model has the
values that the miniports tell apart.
-/
import Mathlib.Init

namespace WoaRk3576.Sd

/-- The status values that the drivers give and test. -/
inductive NtStatus
  | success
  | pending
  | moreProcessingRequired
  | ioTimeout
  | crcError
  | deviceDataError
  | deviceProtocolError
  | devicePowerFailure
  | ioDeviceError
  | notSupported
  | invalidParameter
  | deviceConfigurationError
  deriving DecidableEq, Repr

/-- `NT_SUCCESS`.  `STATUS_MORE_PROCESSING_REQUIRED` has the severity of an error. -/
def NtStatus.ntSuccess : NtStatus → Bool
  | .success | .pending => true
  | _ => false

/-- `SDPORT_REQUEST_TYPE`. -/
inductive RequestType
  | unspecified
  | commandNoTransfer
  | commandWithTransfer
  | startTransfer
  deriving DecidableEq, Repr

inductive ResponseType
  | undefined
  | none
  | r1
  | r2
  | r3
  | r4
  | r5
  | r6
  | r1b
  | r5b
  deriving DecidableEq, Repr

inductive TransferType
  | undefined
  | none
  | singleBlock
  | multiBlock
  | multiBlockNoStop
  deriving DecidableEq, Repr

inductive TransferDirection
  | undefined
  | read
  | write
  deriving DecidableEq, Repr

inductive TransferMethod
  | undefined
  | pio
  | sgDma
  deriving DecidableEq, Repr

/-- `SDPORT_RESET_TYPE`. -/
inductive ResetType
  | all
  | cmd
  | dat
  deriving DecidableEq, Repr

end WoaRk3576.Sd
