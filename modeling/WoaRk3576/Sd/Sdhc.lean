/-
# The outstanding request of dwcsdhc

`SdhcSlotIssueRequest` publishes a request in `OutstandingRequest` and `SdhcCompleteRequest` takes
it back, unless blocks of a data command are left.  The port driver issues a data command in two
phases, the command and `SdRequestTypeStartTransfer`, and a PIO transfer one block at a time.

Only the PIO path counts `BlockCount` down, so only there does the field say what is left:

* an ADMA2 transfer, or an error in the middle of a PIO one, is over for the port driver while the
  slot stays taken;
* a data command without blocks is taken back after its command phase.

`outstanding_exact` is what holds of the runs without these: the slot is taken exactly while the
port driver waits for a request.  The programming of the controller's registers, its ADMA2
descriptors and the blocks themselves are left out.

Whether the slot is taken back is decided by the blocks and whether the request is over by the
status, so the invariant has to say that the two agree (`SlotInv.blocks`): a transfer that was
started has the status of a success if no block is left and asks for more if one is.
`SdhcStartPioTransfer` sets both from the same count.  The completion of a request in such a state
takes the slot back exactly where it is final, and the condition on the steps is just what makes
each completion one of these.

`SdhcRegisters.lean` has the reset with its polls; the one here is what the slot sees of it
(`sdhcResetHost_slot`).
-/
import Mathlib.Logic.Function.Basic
import WoaRk3576.Lib.Transition
import WoaRk3576.Sd.Port

namespace WoaRk3576.Sd

open WoaRk3576.Lib

/-! ## 1. Requests

Events are the bits of the status register here, as the driver passes them on as they are.  The
blocks that are left are counted in the command itself. -/

/-- `SDHC_IS_CMD_COMPLETE`. -/
def sdhcIsCmdComplete : BitVec 32 := 0x0001

/-- `SDHC_IS_TRANSFER_COMPLETE`. -/
def sdhcIsTransferComplete : BitVec 32 := 0x0002

/-- `SDHC_IS_BUFFER_WRITE_READY`. -/
def sdhcIsBufferWriteReady : BitVec 32 := 0x0010

/-- `SDHC_IS_BUFFER_READ_READY`. -/
def sdhcIsBufferReadReady : BitVec 32 := 0x0020

/-- `SDPORT_COMMAND`, with the number of blocks that are left. -/
structure SdhcCommand where
  responseType : ResponseType
  transferType : TransferType
  transferDirection : TransferDirection
  transferMethod : TransferMethod
  blockCount : BitVec 16
  blockSize : BitVec 16
  deriving DecidableEq

/-- A command with a data phase. -/
def SdhcCommand.isData (c : SdhcCommand) : Prop :=
  c.transferType ≠ .none ∧ c.transferType ≠ .undefined

instance SdhcCommand.decidableIsData (c : SdhcCommand) : Decidable c.isData :=
  inferInstanceAs (Decidable (_ ∧ _))

/-- `SDPORT_REQUEST`. -/
structure SdhcRequest where
  type : RequestType
  command : SdhcCommand
  requiredEvents : BitVec 32
  status : NtStatus
  deriving DecidableEq

/-- The fields of `SDHC_EXTENSION` that requests depend on. -/
structure SdhcExtension where
  outstandingRequest : Option Nat
  currentEvents : BitVec 32

/-- The extension with the requests, the one that the port driver has issued and waits for, and
the completions that it was told of. -/
structure SdhcHost extends SdhcExtension where
  requests : Nat → SdhcRequest
  live : Option Nat
  completed : List (Nat × NtStatus)

def SdhcHost.put (h : SdhcHost) (r : Nat) (request : SdhcRequest) : SdhcHost :=
  { h with requests := Function.update h.requests r request }

@[simp]
theorem SdhcHost.put_requests (h : SdhcHost) (r : Nat) (request : SdhcRequest) :
    (h.put r request).requests r = request := Function.update_self ..

/-- `SDHC_ES_CMD_TIMEOUT | SDHC_ES_DATA_TIMEOUT`. -/
def sdhcEsTimeout : BitVec 16 := 0x0001 ||| 0x0010

/-- `SDHC_ES_CMD_CRC_ERROR | SDHC_ES_DATA_CRC_ERROR`. -/
def sdhcEsCrcError : BitVec 16 := 0x0002 ||| 0x0020

/-- `SDHC_ES_CMD_END_BIT_ERROR | SDHC_ES_DATA_END_BIT_ERROR`. -/
def sdhcEsEndBitError : BitVec 16 := 0x0004 ||| 0x0040

/-- `SDHC_ES_CMD_INDEX_ERROR`. -/
def sdhcEsCmdIndexError : BitVec 16 := 0x0008

/-- `SDHC_ES_BUS_POWER_ERROR`. -/
def sdhcEsBusPowerError : BitVec 16 := 0x0080

def sdhcConvertErrorToStatus (error : BitVec 16) : NtStatus :=
  if error = 0 then .success
  else if error &&& sdhcEsTimeout ≠ 0 then .ioTimeout
  else if error &&& sdhcEsCrcError ≠ 0 then .crcError
  else if error &&& sdhcEsEndBitError ≠ 0 then .deviceDataError
  else if error &&& sdhcEsCmdIndexError ≠ 0 then .deviceProtocolError
  else if error &&& sdhcEsBusPowerError ≠ 0 then .devicePowerFailure
  else .ioDeviceError

/-- A reported error is one for the port driver. -/
theorem sdhcConvertErrorToStatus_failed {error : BitVec 16} (herror : error ≠ 0) :
    sdhcConvertErrorToStatus error ≠ .success
      ∧ sdhcConvertErrorToStatus error ≠ .moreProcessingRequired := by
  unfold sdhcConvertErrorToStatus
  rw [if_neg herror]
  split
  · decide
  · split
    · decide
    · split
      · decide
      · split
        · decide
        · split
          · decide
          · decide

/-! ## 2. Completion

A command with data keeps its slot until `BlockCount` is zero, whatever it is completed with.  The
port driver has an idea of its own of when it is done (`Final`).  That the two agree is a question
about `BlockCount` at every completion. -/

/-- The completion after which the port driver is done with a request: that of a command without
data, one with an error, and a transfer's success. -/
def SdhcRequest.Final (request : SdhcRequest) (status : NtStatus) : Prop :=
  ¬ request.command.isData ∨ (status ≠ .success ∧ status ≠ .moreProcessingRequired)
    ∨ (request.type = .startTransfer ∧ status = .success)

instance (request : SdhcRequest) (status : NtStatus) : Decidable (request.Final status) :=
  inferInstanceAs (Decidable (_ ∨ _ ∨ _))

/-- `SdPortCompleteRequest`, as far as the miniport's caller is concerned. -/
def sdPortCompleteRequest (r : Nat) (status : NtStatus) (h : SdhcHost) : SdhcHost :=
  { h with
    live := if h.live = some r ∧ (h.requests r).Final status then none else h.live
    completed := h.completed ++ [(r, status)] }

/-- `IsCommandCompleted` of `SdhcCompleteRequest`. -/
def SdhcCommand.isCompleted (c : SdhcCommand) : Prop :=
  c.isData → c.blockCount = 0

instance SdhcCommand.decidableIsCompleted (c : SdhcCommand) : Decidable c.isCompleted :=
  inferInstanceAs (Decidable (_ → _))

def sdhcCompleteRequest (r : Nat) (status : NtStatus) (h : SdhcHost) : SdhcHost :=
  sdPortCompleteRequest r status
    (if (h.requests r).command.isCompleted then { h with outstandingRequest := none } else h)

theorem sdhcCompleteRequest_outstanding (r : Nat) (status : NtStatus) (h : SdhcHost) :
    (sdhcCompleteRequest r status h).outstandingRequest
      = if (h.requests r).command.isCompleted then none else h.outstandingRequest := by
  unfold sdhcCompleteRequest
  split
  · rfl
  · rfl

@[simp]
theorem sdhcCompleteRequest_requests (r : Nat) (status : NtStatus) (h : SdhcHost) :
    (sdhcCompleteRequest r status h).requests = h.requests := by
  unfold sdhcCompleteRequest
  split
  · rfl
  · rfl

theorem sdhcCompleteRequest_live (r : Nat) (status : NtStatus) (h : SdhcHost) :
    (sdhcCompleteRequest r status h).live
      = if h.live = some r ∧ (h.requests r).Final status then none else h.live := by
  unfold sdhcCompleteRequest
  split
  · rfl
  · rfl

/-! ## 3. The callbacks

A block by PIO takes one off `BlockCount`; a transfer by DMA takes nothing off. -/

/-- The checks of `SdhcSetTransferMode`; `SdhcCreateAdmaDescriptorTable` always succeeds. -/
def sdhcSetTransferMode (c : SdhcCommand) : NtStatus :=
  if 2048 < c.blockSize.toNat then .invalidParameter
  else if c.transferDirection ≠ .read ∧ c.transferDirection ≠ .write then .invalidParameter
  else .success

def sdhcBuildTransfer (c : SdhcCommand) : NtStatus :=
  match c.transferMethod with
  | .pio | .sgDma => sdhcSetTransferMode c
  | .undefined => .notSupported

/-- The event that the data port is ready for a block. -/
def SdhcCommand.bufferReady (c : SdhcCommand) : BitVec 32 :=
  if c.transferDirection = .read then sdhcIsBufferReadReady else sdhcIsBufferWriteReady

/-- What the command phase of a request waits for. -/
def SdhcCommand.commandEvents (c : SdhcCommand) : BitVec 32 :=
  let busy :=
    if c.responseType = .r1b ∨ c.responseType = .r5b then sdhcIsTransferComplete else 0
  let transfer :=
    match c.transferMethod with
    | .sgDma => sdhcIsTransferComplete
    | .pio => c.bufferReady
    | .undefined => 0
  sdhcIsCmdComplete ||| busy ||| transfer

def sdhcSendCommand (r : Nat) (h : SdhcHost) : SdhcHost × NtStatus :=
  let request := h.requests r
  if request.command.isData ∧ (sdhcBuildTransfer request.command).ntSuccess = false then
    (h, sdhcBuildTransfer request.command)
  else if request.command.responseType = .undefined then (h, .invalidParameter)
  else
    let h := { h with currentEvents := 0 }
    (h.put r { request with requiredEvents := request.command.commandEvents }, .pending)

def sdhcStartPioTransfer (r : Nat) (h : SdhcHost) : SdhcHost × NtStatus :=
  let currentEvents := h.currentEvents
  let h := { h with currentEvents := 0 }
  let request := h.requests r
  let command : SdhcCommand :=
    { request.command with blockCount := request.command.blockCount - 1 }
  if command.blockCount ≠ 0 then
    (h.put r { request with
      command := command
      requiredEvents := request.requiredEvents ||| command.bufferReady
      status := .moreProcessingRequired }, .pending)
  else if currentEvents &&& sdhcIsTransferComplete ≠ 0 then
    (sdhcCompleteRequest r .success (h.put r { request with command, status := .success }),
      .pending)
  else
    (h.put r { request with
      command := command
      requiredEvents := request.requiredEvents ||| sdhcIsTransferComplete
      status := .success }, .pending)

def sdhcStartAdmaTransfer (r : Nat) (h : SdhcHost) : SdhcHost × NtStatus :=
  (sdhcCompleteRequest r .success (h.put r { h.requests r with status := .success }), .success)

def sdhcStartTransfer (r : Nat) (h : SdhcHost) : SdhcHost × NtStatus :=
  match (h.requests r).command.transferMethod with
  | .pio => sdhcStartPioTransfer r h
  | .sgDma => sdhcStartAdmaTransfer r h
  | .undefined => (h, .notSupported)

/-- The request becomes the outstanding one before anything of it is checked. -/
def sdhcSlotIssueRequest (r : Nat) (h : SdhcHost) : SdhcHost × NtStatus :=
  let h := { h with outstandingRequest := some r }
  match (h.requests r).type with
  | .commandNoTransfer | .commandWithTransfer => sdhcSendCommand r h
  | .startTransfer => sdhcStartTransfer r h
  | .unspecified => (h, .notSupported)

def sdhcRequestDpc (r : Nat) (events errors : BitVec 32) (h : SdhcHost) : SdhcHost :=
  let h := { h with currentEvents := h.currentEvents ||| events }
  if h.outstandingRequest = none then h
  else
    let request := h.requests r
    let required := request.requiredEvents &&& ~~~events
    if errors ≠ 0 then
      let h := { h with currentEvents := 0 }
      sdhcCompleteRequest r (sdhcConvertErrorToStatus (errors.setWidth 16))
        (h.put r { request with requiredEvents := 0 })
    else if required = 0 then
      let status :=
        if request.status = .moreProcessingRequired then .moreProcessingRequired else .success
      sdhcCompleteRequest r status (h.put r { request with requiredEvents := required, status })
    else h.put r { request with requiredEvents := required }

/-- `SdhcResetHost`; no type stands for one that it does not know, and `done` is whether the
controller finishes the reset in time. -/
def sdhcResetHost (type : Option ResetType) (done : Bool) (h : SdhcHost) : SdhcHost × NtStatus :=
  match type with
  | none => (h, .invalidParameter)
  | some _ =>
    ({ h with outstandingRequest := none }, if done then .success else .ioTimeout)

/-! ## 4. The steps of the slot

The port driver works on one request at a time and calls the DPC for that one.  A reset takes the
request away from both sides. -/

/-- What the port driver does.  `request` is what it has filled in, `errors` is what the error
status register held. -/
inductive SdhcStep
  | issue (r : Nat) (request : SdhcRequest)
  | dpc (r : Nat) (events : BitVec 32) (errors : BitVec 16)
  | reset (type : Option ResetType) (done : Bool)

/-- The port driver has at most one request at a time (`SDHC_MAX_OUTSTANDING_REQUESTS`), and its DPC
comes for that one; while it has none, the DPC may come for any.  A request that is not accepted,
and one that a reset takes back, is over for it. -/
def sdhcStep (h : SdhcHost) : SdhcStep → Option SdhcHost
  | .issue r request =>
    if h.live = none ∨ h.live = some r then
      let issued := sdhcSlotIssueRequest r { h.put r request with live := some r }
      if issued.2.ntSuccess then some issued.1 else some { issued.1 with live := none }
    else none
  | .dpc r events errors =>
    if h.live = none ∨ h.live = some r then
      some (sdhcRequestDpc r events (errors.setWidth 32) h)
    else none
  | .reset type done =>
    let reset := sdhcResetHost type done h
    if reset.2 = .invalidParameter then some reset.1 else some { reset.1 with live := none }

/-- A slot that has not been used. -/
def SdhcHost.Fresh (h : SdhcHost) : Prop :=
  h.outstandingRequest = none ∧ h.live = none

/-- **The slot is taken exactly while the port driver waits for a request**, and a DPC that comes
while it waits for none changes no request and completes none. -/
def OutstandingExact (h : SdhcHost) : Prop :=
  h.outstandingRequest = h.live
    ∧ (h.live = none → ∀ r events errors,
      (sdhcRequestDpc r events errors h).requests = h.requests
        ∧ (sdhcRequestDpc r events errors h).completed = h.completed)

/-- The requests that pass the driver's checks. -/
def SdhcRequest.Accepted (request : SdhcRequest) : Prop :=
  request.type ≠ .unspecified
    ∧ (request.type = .startTransfer → request.command.transferMethod ≠ .undefined)
    ∧ (request.type ≠ .startTransfer → request.command.responseType ≠ .undefined
      ∧ (request.command.isData → (sdhcBuildTransfer request.command).ntSuccess = true))

instance SdhcRequest.decidableAccepted (request : SdhcRequest) : Decidable request.Accepted :=
  inferInstanceAs (Decidable (_ ∧ _ ∧ _))

/-- **The condition on a step.**  A request is accepted; an ADMA2 transfer is started, and an
error comes, only with no block left; and the command phase ends only with some block left. -/
def BlocksKept (h : SdhcHost) : SdhcStep → Prop
  | .issue _ request =>
    request.Accepted ∧ (request.type = .startTransfer → request.command.transferMethod = .sgDma →
      request.command.isCompleted)
  | .dpc r events errors =>
    h.outstandingRequest = none ∨
      ((errors ≠ 0 → (h.requests r).command.isCompleted)
        ∧ (errors = 0 → (h.requests r).requiredEvents &&& ~~~events = 0 →
          (h.requests r).type ≠ .startTransfer → (h.requests r).command.isData →
          (h.requests r).command.blockCount ≠ 0))
  | .reset .. => True

instance (h : SdhcHost) (step : SdhcStep) : Decidable (BlocksKept h step) :=
  match step with
  | .issue _ request => inferInstanceAs (Decidable (request.Accepted ∧
      (request.type = .startTransfer → request.command.transferMethod = .sgDma →
        request.command.isCompleted)))
  | .dpc r events errors => inferInstanceAs (Decidable (h.outstandingRequest = none ∨
      ((errors ≠ 0 → (h.requests r).command.isCompleted)
        ∧ (errors = 0 → (h.requests r).requiredEvents &&& ~~~events = 0 →
          (h.requests r).type ≠ .startTransfer → (h.requests r).command.isData →
          (h.requests r).command.blockCount ≠ 0))))
  | .reset .. => inferInstanceAs (Decidable True)

/-! ## 5. The invariant

Who is outstanding is who is waited for.  For a transfer that has started, the status that its
completion will have and the blocks that are left must fit together, since the completion looks at
the one and the port driver at the other. -/

/-- The slot is taken exactly while the port driver waits, and a transfer that has started
succeeds when no block is left and asks for more while one is. -/
structure SlotInv (h : SdhcHost) : Prop where
  outstanding : h.outstandingRequest = h.live
  blocks : ∀ r, h.live = some r → (h.requests r).command.isData →
    (h.requests r).type = .startTransfer →
      ((h.requests r).command.blockCount = 0 ∧ (h.requests r).status = .success)
        ∨ ((h.requests r).command.blockCount ≠ 0
          ∧ (h.requests r).status = .moreProcessingRequired)

/-- A completion is well placed when it takes the slot back exactly where it is final, and leaves
a transfer that goes on as the invariant wants it. -/
structure Completes (r : Nat) (status : NtStatus) (h : SdhcHost) : Prop where
  outstanding : h.outstandingRequest = some r
  live : h.live = some r
  released : (h.requests r).command.isCompleted ↔ (h.requests r).Final status
  next : ¬ (h.requests r).Final status → (h.requests r).command.isData →
    (h.requests r).type = .startTransfer → (h.requests r).command.blockCount ≠ 0
      ∧ (h.requests r).status = .moreProcessingRequired

theorem Completes.slotInv {r : Nat} {status : NtStatus} {h : SdhcHost}
    (hc : Completes r status h) : SlotInv (sdhcCompleteRequest r status h) := by
  by_cases hfinal : (h.requests r).Final status
  · have hout := sdhcCompleteRequest_outstanding r status h
    rw [if_pos (hc.released.2 hfinal)] at hout
    have hlive := sdhcCompleteRequest_live r status h
    rw [if_pos ⟨hc.live, hfinal⟩] at hlive
    refine ⟨hout.trans hlive.symm, ?_⟩
    intro q hq
    cases hlive.symm.trans hq
  · have hout := sdhcCompleteRequest_outstanding r status h
    rw [if_neg fun hdone => hfinal (hc.released.1 hdone)] at hout
    have hlive := sdhcCompleteRequest_live r status h
    rw [if_neg fun hboth => hfinal hboth.2] at hlive
    refine ⟨(hout.trans hc.outstanding).trans (hlive.trans hc.live).symm, ?_⟩
    intro q hq
    have hr : r = q := Option.some.inj ((hlive.trans hc.live).symm.trans hq)
    subst hr
    rw [sdhcCompleteRequest_requests]
    exact fun hdata htype => Or.inr (hc.next hfinal hdata htype)

/-! ## 6. A step of each kind

Every completion is shown to be well placed (`Completes`) and kept by one lemma.  What remains of
each callback is the path to its completion, with `BlockCount` on the way. -/

/-- A request that has just been published. -/
def Published (r : Nat) (h : SdhcHost) : Prop :=
  h.outstandingRequest = some r ∧ h.live = some r

theorem Published.put {r : Nat} {h : SdhcHost} (hp : Published r h) (request : SdhcRequest) :
    Published r (h.put r request) := hp

/-- What a command that passes the checks leaves. -/
theorem sdhcSendCommand_eq {r : Nat} {h : SdhcHost}
    (hresponse : (h.requests r).command.responseType ≠ .undefined)
    (hbuild : (h.requests r).command.isData →
      (sdhcBuildTransfer (h.requests r).command).ntSuccess = true) :
    sdhcSendCommand r h = (({ h with currentEvents := 0 } : SdhcHost).put r
      { h.requests r with requiredEvents := (h.requests r).command.commandEvents }, .pending) := by
  have hchecks : ¬ ((h.requests r).command.isData
      ∧ (sdhcBuildTransfer (h.requests r).command).ntSuccess = false) := by
    rintro ⟨hdata, hfails⟩
    rw [hbuild hdata] at hfails
    cases hfails
  unfold sdhcSendCommand
  dsimp only
  rw [if_neg hchecks, if_neg hresponse]

/-- **The command phase** of an accepted request is left to the DPC. -/
theorem sdhcSendCommand_slotInv {r : Nat} {h : SdhcHost} (hp : Published r h)
    (htype : (h.requests r).type ≠ .startTransfer) (haccepted : (h.requests r).Accepted) :
    (sdhcSendCommand r h).2 = .pending ∧ SlotInv (sdhcSendCommand r h).1 := by
  obtain ⟨hresponse, hbuild⟩ := haccepted.2.2 htype
  rw [sdhcSendCommand_eq hresponse hbuild]
  refine ⟨rfl, hp.1.trans hp.2.symm, ?_⟩
  intro q hq _ hstart
  have hr : r = q := Option.some.inj (hp.2.symm.trans hq)
  subst hr
  rw [SdhcHost.put_requests] at hstart
  exact absurd hstart htype

/-- **One block of a PIO transfer**: the last one is completed at once, or waits for the end of the
transfer, and after the others the transfer goes on. -/
theorem sdhcStartPioTransfer_slotInv {r : Nat} {h : SdhcHost} (hp : Published r h)
    (htype : (h.requests r).type = .startTransfer) :
    (sdhcStartPioTransfer r h).2 = .pending ∧ SlotInv (sdhcStartPioTransfer r h).1 := by
  -- A transfer that waits for the DPC.
  have hwaits : ∀ (events : BitVec 32) (request : SdhcRequest),
      (request.command.blockCount = 0 ∧ request.status = .success)
        ∨ (request.command.blockCount ≠ 0 ∧ request.status = .moreProcessingRequired) →
      SlotInv (({ h with currentEvents := events } : SdhcHost).put r request) := by
    intro events request hblocks
    refine ⟨hp.1.trans hp.2.symm, ?_⟩
    intro q hq _ _
    have hr : r = q := Option.some.inj (hp.2.symm.trans hq)
    subst hr
    rw [SdhcHost.put_requests]
    exact hblocks
  unfold sdhcStartPioTransfer
  dsimp only
  split
  · rename_i hleft
    exact ⟨rfl, hwaits _ _ (Or.inr ⟨hleft, rfl⟩)⟩
  · rename_i hlast
    have hzero := not_not.1 hlast
    split
    · refine ⟨rfl, Completes.slotInv ⟨hp.1, hp.2, ?_, ?_⟩⟩
      · rw [SdhcHost.put_requests]
        exact ⟨fun _ => Or.inr (Or.inr ⟨htype, rfl⟩), fun _ _ => hzero⟩
      · rw [SdhcHost.put_requests]
        exact fun hgoes => absurd (Or.inr (Or.inr ⟨htype, rfl⟩)) hgoes
    · exact ⟨rfl, hwaits _ _ (Or.inl ⟨hzero, rfl⟩)⟩

/-- **An ADMA2 transfer** is over at once. -/
theorem sdhcStartAdmaTransfer_slotInv {r : Nat} {h : SdhcHost} (hp : Published r h)
    (htype : (h.requests r).type = .startTransfer) (hdone : (h.requests r).command.isCompleted) :
    SlotInv (sdhcStartAdmaTransfer r h).1 := by
  refine Completes.slotInv ⟨hp.1, hp.2, ?_, ?_⟩
  · rw [SdhcHost.put_requests]
    exact ⟨fun _ => Or.inr (Or.inr ⟨htype, rfl⟩), fun _ => hdone⟩
  · rw [SdhcHost.put_requests]
    exact fun hgoes => absurd (Or.inr (Or.inr ⟨htype, rfl⟩)) hgoes

theorem sdhcStartTransfer_slotInv {r : Nat} {h : SdhcHost} (hp : Published r h)
    (htype : (h.requests r).type = .startTransfer)
    (hmethod : (h.requests r).command.transferMethod ≠ .undefined)
    (hadma : (h.requests r).command.transferMethod = .sgDma →
      (h.requests r).command.isCompleted) :
    (sdhcStartTransfer r h).2.ntSuccess = true ∧ SlotInv (sdhcStartTransfer r h).1 := by
  unfold sdhcStartTransfer
  cases hm : (h.requests r).command.transferMethod with
  | undefined => exact absurd hm hmethod
  | pio =>
    obtain ⟨hstatus, hinv⟩ := sdhcStartPioTransfer_slotInv hp htype
    exact ⟨congrArg NtStatus.ntSuccess hstatus, hinv⟩
  | sgDma => exact ⟨rfl, sdhcStartAdmaTransfer_slotInv hp htype (hadma hm)⟩

/-- **An issued request** is accepted, and the slot is taken exactly if it is not over at once. -/
theorem sdhcSlotIssueRequest_slotInv {h : SdhcHost} {r : Nat} {request : SdhcRequest}
    (hkept : BlocksKept h (.issue r request)) :
    (sdhcSlotIssueRequest r { h.put r request with live := some r }).2.ntSuccess = true
      ∧ SlotInv (sdhcSlotIssueRequest r { h.put r request with live := some r }).1 := by
  obtain ⟨haccepted, hadma⟩ := hkept
  unfold sdhcSlotIssueRequest
  dsimp only
  generalize hg : ({ h.put r request with outstandingRequest := some r, live := some r } :
    SdhcHost) = g
  have hp : Published r g := hg ▸ ⟨rfl, rfl⟩
  have hrequest : g.requests r = request := hg ▸ h.put_requests r request
  have hsend : request.type ≠ .startTransfer →
      (sdhcSendCommand r g).2.ntSuccess = true ∧ SlotInv (sdhcSendCommand r g).1 := by
    intro hcommand
    obtain ⟨hstatus, hinv⟩ :=
      sdhcSendCommand_slotInv hp (hrequest.symm ▸ hcommand) (hrequest.symm ▸ haccepted)
    exact ⟨congrArg NtStatus.ntSuccess hstatus, hinv⟩
  rw [h.put_requests]
  cases htype : request.type with
  | unspecified => exact absurd htype haccepted.1
  | commandNoTransfer => exact hsend (by rw [htype]; decide)
  | commandWithTransfer => exact hsend (by rw [htype]; decide)
  | startTransfer =>
    refine sdhcStartTransfer_slotInv hp ?_ ?_ ?_
    · rw [hrequest, htype]
    · rw [hrequest]
      exact haccepted.2.1 htype
    · rw [hrequest]
      exact hadma htype

/-- What the condition says of a DPC, read on the register's errors. -/
theorem setWidth_ne_zero_iff (errors : BitVec 16) : errors.setWidth 32 ≠ 0 ↔ errors ≠ 0 := by
  constructor
  · rintro hwide rfl
    exact hwide rfl
  · intro hne hwide
    have hback := congrArg (BitVec.setWidth 16) hwide
    rw [BitVec.setWidth_setWidth_of_le _ (by decide), BitVec.setWidth_eq] at hback
    exact hne hback

/-- The completion at the end of a phase is final exactly if no block is left: for a transfer by
its status, and a command with data has blocks to transfer. -/
theorem isCompleted_iff_final {request : SdhcRequest} {status : NtStatus}
    (hstatus : status = if request.status = .moreProcessingRequired then .moreProcessingRequired
      else .success)
    (hphase : request.type ≠ .startTransfer → request.command.isData →
      request.command.blockCount ≠ 0)
    (hblocks : request.command.isData → request.type = .startTransfer →
      (request.command.blockCount = 0 ∧ request.status = .success)
        ∨ (request.command.blockCount ≠ 0 ∧ request.status = .moreProcessingRequired)) :
    request.command.isCompleted ↔ request.Final status := by
  by_cases hdata : request.command.isData
  · have hends : status = .success ∨ status = .moreProcessingRequired := by
      rw [hstatus]
      split
      · exact Or.inr rfl
      · exact Or.inl rfl
    by_cases htype : request.type = .startTransfer
    · rcases hblocks hdata htype with ⟨hzero, hsuccess⟩ | ⟨hleft, hmore⟩
      · rw [hsuccess, if_neg (by decide)] at hstatus
        exact ⟨fun _ => Or.inr (Or.inr ⟨htype, hstatus⟩), fun _ _ => hzero⟩
      · rw [hmore, if_pos rfl] at hstatus
        constructor
        · exact fun hdone => absurd (hdone hdata) hleft
        · rintro (hnone | ⟨-, hne⟩ | ⟨-, hsuccess⟩)
          · exact absurd hdata hnone
          · exact absurd hstatus hne
          · cases hstatus.symm.trans hsuccess
    · constructor
      · exact fun hdone => absurd (hdone hdata) (hphase htype hdata)
      · rintro (hnone | ⟨hne, hne'⟩ | ⟨hstart, -⟩)
        · exact absurd hdata hnone
        · rcases hends with hsuccess | hmore
          · exact absurd hsuccess hne
          · exact absurd hmore hne'
        · exact absurd hstart htype
  · exact ⟨fun _ => Or.inl hdata, fun _ hdata' => absurd hdata' hdata⟩

/-- **The DPC**: an error ends the request, and so do the last of its events, unless blocks of a
transfer or the transfer itself are to come. -/
theorem sdhcRequestDpc_slotInv {r : Nat} {events : BitVec 32} {errors : BitVec 16} {h : SdhcHost}
    (hi : SlotInv h) (hlive : h.live = none ∨ h.live = some r)
    (hkept : BlocksKept h (.dpc r events errors)) :
    SlotInv (sdhcRequestDpc r events (errors.setWidth 32) h) := by
  unfold sdhcRequestDpc
  dsimp only
  split
  · exact ⟨hi.outstanding, hi.blocks⟩
  · rename_i htaken
    have hr : h.live = some r := by
      rcases hlive with hnone | hr
      · exact absurd (hi.outstanding.trans hnone) htaken
      · exact hr
    have hout : h.outstandingRequest = some r := hi.outstanding.trans hr
    obtain ⟨herror, hphase⟩ : _ ∧ _ := hkept.resolve_left htaken
    split
    · rename_i herrors
      have hne := (setWidth_ne_zero_iff errors).1 herrors
      rw [BitVec.setWidth_setWidth_of_le _ (by decide), BitVec.setWidth_eq]
      have hfailed := sdhcConvertErrorToStatus_failed hne
      refine Completes.slotInv ⟨hout, hr, ?_, ?_⟩
      · rw [SdhcHost.put_requests]
        exact ⟨fun _ => Or.inr (Or.inl hfailed), fun _ => herror hne⟩
      · rw [SdhcHost.put_requests]
        exact fun hgoes => absurd (Or.inr (Or.inl hfailed)) hgoes
    · rename_i herrors
      have hzero : errors = 0 := not_not.1 fun hne => herrors ((setWidth_ne_zero_iff errors).2 hne)
      split
      · rename_i hrequired
        have hreleased := isCompleted_iff_final rfl (hphase hzero hrequired) (hi.blocks r hr)
        refine Completes.slotInv ⟨hout, hr, ?_, ?_⟩
        · rw [SdhcHost.put_requests]
          exact hreleased
        · rw [SdhcHost.put_requests]
          intro hgoes hdata hstart
          rcases hi.blocks r hr hdata hstart with ⟨hlast, -⟩ | ⟨hleft, hmore⟩
          · exact absurd (hreleased.1 fun _ => hlast) hgoes
          · exact ⟨hleft, if_pos hmore⟩
      · refine ⟨hi.outstanding, ?_⟩
        intro q hq
        have hq' : r = q := Option.some.inj (hr.symm.trans hq)
        subst hq'
        rw [SdhcHost.put_requests]
        exact hi.blocks r hr

/-- **Every step that meets the condition keeps the invariant.** -/
theorem sdhcStep_slotInv {h h' : SdhcHost} {step : SdhcStep} (hi : SlotInv h)
    (hkept : BlocksKept h step) (hs : sdhcStep h step = some h') : SlotInv h' := by
  cases step with
  | issue r request =>
    obtain ⟨hstatus, hinv⟩ := sdhcSlotIssueRequest_slotInv hkept
    unfold sdhcStep at hs
    dsimp only at hs
    split at hs
    · exact Option.some.inj hs ▸ hinv
    · cases hs
  | dpc r events errors =>
    unfold sdhcStep at hs
    dsimp only at hs
    split at hs
    · rename_i hlive
      exact Option.some.inj hs ▸ sdhcRequestDpc_slotInv hi hlive hkept
    · cases hs
  | reset type done =>
    cases type with
    | none => exact Option.some.inj hs ▸ hi
    | some type =>
      have hs' : some { h with outstandingRequest := none, live := none } = some h' := by
        cases done with
        | true => exact hs
        | false => exact hs
      refine Option.some.inj hs' ▸ ⟨rfl, ?_⟩
      intro q hq
      cases hq

/-! ## 7. Runs

The invariant holds for a fresh extension and is kept by every step that meets the condition; that
the slot is taken exactly while the port driver waits is one of its parts. -/

/-- A DPC that finds the slot free only records its events. -/
theorem sdhcRequestDpc_free {h : SdhcHost} (hfree : h.outstandingRequest = none) (r : Nat)
    (events errors : BitVec 32) : sdhcRequestDpc r events errors h
      = { h with currentEvents := h.currentEvents ||| events } := by
  unfold sdhcRequestDpc
  exact if_pos hfree

/-- **The slot is taken exactly while the port driver waits for a request**, in every run in which
`BlockCount` is zero exactly where a request is over.  The slot goes by the blocks and the port
driver by the status, and a transfer that was started has its status from the same count. -/
theorem outstanding_exact {h : SdhcHost} (hr : ReachIf SdhcHost.Fresh sdhcStep BlocksKept h) :
    OutstandingExact h := by
  have hinv : SlotInv h := by
    refine ReachIf.invariant ?_ (fun s a t hi hG hst => sdhcStep_slotInv hi hG hst) hr
    rintro s ⟨hout, hlive⟩
    refine ⟨hout.trans hlive.symm, ?_⟩
    intro q hq
    cases hlive.symm.trans hq
  refine ⟨hinv.outstanding, ?_⟩
  intro hnone r events errors
  rw [sdhcRequestDpc_free (hinv.outstanding.trans hnone)]
  exact ⟨rfl, rfl⟩

def readCommand (method : TransferMethod) (blockCount : BitVec 16) : SdhcCommand :=
  ⟨.r1, .multiBlock, .read, method, blockCount, 512⟩

def freeSdhc : SdhcHost where
  outstandingRequest := none
  currentEvents := 0
  requests := fun _ => ⟨.unspecified, readCommand .undefined 0, 0, .success⟩
  live := none
  completed := []

/-- A command without data, then two blocks by PIO. -/
def pioSteps : List SdhcStep :=
  [.issue 0 ⟨.commandNoTransfer, ⟨.r1, .none, .undefined, .undefined, 0, 0⟩, 0, .success⟩,
    .dpc 0 sdhcIsCmdComplete 0,
    .issue 1 ⟨.commandWithTransfer, readCommand .pio 2, 0, .success⟩,
    .dpc 1 (sdhcIsCmdComplete ||| sdhcIsBufferReadReady) 0,
    .issue 1 ⟨.startTransfer, readCommand .pio 2, 0, .success⟩,
    .dpc 1 sdhcIsBufferReadReady 0,
    .issue 1 ⟨.startTransfer, readCommand .pio 1, 0, .moreProcessingRequired⟩,
    .dpc 1 sdhcIsTransferComplete 0]

/-- All of it is completed, and the slot is free. -/
theorem outstanding_exact_of_pio : ∃ h : SdhcHost,
    h.completed = [(0, .success), (1, .success), (1, .moreProcessingRequired), (1, .success)]
      ∧ OutstandingExact h := by
  obtain ⟨h, hr, hp⟩ := exists_reachIf_of_runIf sdhcStep BlocksKept
    (show SdhcHost.Fresh freeSdhc from ⟨rfl, rfl⟩) pioSteps
    (fun h => decide (h.completed
      = [(0, .success), (1, .success), (1, .moreProcessingRequired), (1, .success)])) (by decide)
  exact ⟨h, of_decide_eq_true hp, outstanding_exact hr⟩

/-- One block by ADMA2. -/
def admaSteps : List SdhcStep :=
  [.issue 0 ⟨.commandWithTransfer, readCommand .sgDma 1, 0, .success⟩,
    .dpc 0 (sdhcIsCmdComplete ||| sdhcIsTransferComplete) 0,
    .issue 0 ⟨.startTransfer, readCommand .sgDma 1, 0, .success⟩]

/-- **A read of one block by ADMA2** is over for the port driver, and its slot stays taken. -/
theorem adma_slot_taken :
    ¬ ∀ h : SdhcHost, Reach SdhcHost.Fresh sdhcStep h → OutstandingExact h := by
  intro hall
  obtain ⟨h, hr, hp⟩ := exists_reach_of_run sdhcStep
    (show SdhcHost.Fresh freeSdhc from ⟨rfl, rfl⟩) admaSteps
    (fun h => decide (h.outstandingRequest = some 0 ∧ h.live = none)) (by decide)
  obtain ⟨hout, hlive⟩ := of_decide_eq_true hp
  cases hout.symm.trans ((hall h hr).1.trans hlive)

end WoaRk3576.Sd
