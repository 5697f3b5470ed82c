/-
# The bus operations of dwcmshc, with their error recovery

`MshcSlotIssueBusOperation` and what it calls.  A reset may send a stop command, a retuning sends
tuning commands, the return to 3.3 V sends a status command, and a command of the driver's own that
fails asks for resets: the functions call each other in a circle.  Each of them takes the depth of
calls that is left (`BusFault.nested` where there is none); how much is enough is proved apart from
the model, in `MshcRecovery.lean`.

What the hardware answers to the polls and the commands is a function of how often it was asked.
The registers kept are those that say how the bus is set, and those that a reset writes.  The
interrupt masks and status, the command registers and the data itself are left out.

Two parts of this are modelled a second time where a question asks for more, and connected with it.
What runs while a command is waited for is one answer here and a list of activities in
`MshcLocal.lean`; `MshcBusLocal.lean` shows that each answer is the outcome of such a list.  The
ranges of the phase search are a list here and the table of the source in `MshcPhaseTuning.lean`;
`MshcBusTuning.lean` shows that a search on the bus is one over the table.

The platform callbacks are those of `rockchip_ops.cpp`, the only ones there are.
-/
import WoaRk3576.Sd.Mshc
import WoaRk3576.Sd.MshcClock

namespace WoaRk3576.Sd.Bus

/-! ## 1. The extension and the registers

Everything that a bus operation may touch, with the hardware as a sequence of answers.  An answer
is what a poll comes to, so it may be anything at any time; the operations ask one after another,
and `tick` says which answer is next. -/

/-- `SDPORT_BUS_VOLTAGE`. -/
inductive BusVoltage
  | undefined
  | v33
  | v30
  | v18
  | off
  deriving DecidableEq, Repr

/-- `SDPORT_BUS_WIDTH`. -/
inductive BusWidth
  | undefined
  | width1Bit
  | width4Bit
  | width8Bit
  deriving DecidableEq, Repr

/-- `SDPORT_SIGNALING_VOLTAGE`. -/
inductive SignalingVoltage
  | undefined
  | v33
  | v18
  deriving DecidableEq, Repr

/-- The driver's own commands. -/
inductive LocalCommand
  | stop
  | status
  | tuning
  deriving DecidableEq, Repr

/-- Their `TransferType` is that of a data transfer. -/
def LocalCommand.isData : LocalCommand → Bool
  | .stop | .status => false
  | .tuning => true

/-- The platform of a slot, its FIFO and its DMA. -/
structure MshcSlot extends MshcPlatform where
  scatterGatherDma : Bool
  fifoDepth : Nat
  deriving DecidableEq, Repr

/-- `MSHC_OPTIMAL_FIFO_THRESHOLD`. -/
def MshcSlot.optimalFifoThreshold (p : MshcSlot) : Nat := p.fifoDepth / 2

/-- The fields of `MSHC_EXTENSION` that bus operations read and write, and the registers.
`outstandingRequest` is whether the request carries data; `tick` counts what the hardware was
asked. -/
structure MshcBus extends MshcClock where
  pwren : BitVec 32
  ctype : BitVec 32
  uhsReg : BitVec 32
  ctrl : BitVec 32
  bmod : BitVec 32
  tmout : BitVec 32
  initialized : Bool
  busWidth : BusWidth
  busSpeed : BusSpeed
  signalingVoltage : SignalingVoltage
  cardInitialized : Bool
  cardPowerControlSupported : Bool
  tuningPerformed : Bool
  dataCrcErrorsSinceLastTuning : Nat
  outstandingRequest : Option Bool
  localRequestPending : Bool
  currentTransferRemainingLength : BitVec 32
  fifoThreshold : Nat
  tick : Nat
  deriving DecidableEq, Repr

/-- What came of the wait for a command: it was completed, with the errors that were reported,
after a data line that stayed busy or not, with the card still there or not; or the time ran
out. -/
inductive LocalWait
  | completed (errors : Finset SdError) (busy removed : Bool)
  | timeout
  deriving DecidableEq

/-- What the hardware answers, to whatever it is asked. -/
structure HwAnswer where
  resetWait : Bool
  ciuUpdateClock : Bool
  rintsts : BitVec 32
  wait : LocalWait
  blockMatches : Bool
  deriving DecidableEq

/-- Why an operation does not return: the depth of calls is used up, a loop goes on, or the
arithmetic of the clock faults. -/
inductive BusFault
  | nested
  | endless
  | clock (fault : ClockFault)
  deriving DecidableEq, Repr

/-- An operation that returns a status. -/
abbrev MshcResult := Except BusFault (NtStatus × MshcBus)

/-! ## 2. Register fields

Only the fields that the operations change are named.  A register is written as a whole, and the
bits of other slots are in the same registers, so each write goes through a mask. -/

/-- `MSHC_PWREN_POWER_ENABLE`. -/
def mshcPwrenPowerEnable (slotId : Nat) : BitVec 32 := BitVec.twoPow 32 slotId

/-- `MSHC_CTYPE_CARD_WIDTH_MASK`. -/
def mshcCtypeCardWidthMask : BitVec 32 := 0x00010001

/-- `MSHC_UHS_REG_DDR_REG`. -/
def mshcUhsRegDdrReg (slotId : Nat) : BitVec 32 := BitVec.twoPow 32 (16 + slotId)

/-- `MSHC_UHS_REG_VOLT_REG`. -/
def mshcUhsRegVoltReg (slotId : Nat) : BitVec 32 := BitVec.twoPow 32 slotId

def mshcCtrlControllerReset : BitVec 32 := 1#32 <<< 0

def mshcCtrlFifoReset : BitVec 32 := 1#32 <<< 1

def mshcCtrlDmaReset : BitVec 32 := 1#32 <<< 2

def mshcCtrlIntEnable : BitVec 32 := 1#32 <<< 4

def mshcCtrlUseInternalDmac : BitVec 32 := 1#32 <<< 25

def mshcBmodSwr : BitVec 32 := 1#32 <<< 0

/-- `MSHC_INT_HTO | MSHC_INT_CMD`. -/
def mshcIntVoltageSwitch : BitVec 32 := (1#32 <<< 10) ||| (1#32 <<< 2)

/-- `MSHC_CTYPE_CARD_WIDTH_*`; `none` is a width that is refused. -/
def ctypeWidth : BusWidth → Option (BitVec 32)
  | .width1Bit => some 0
  | .width4Bit => some (1#32 <<< 0)
  | .width8Bit => some (1#32 <<< 16)
  | .undefined => none

/-- The modes that use both clock edges; `none` is a mode that is refused. -/
def speedDdr : BusSpeed → Option Bool
  | .normal | .high | .sdr12 | .sdr25 | .sdr50 | .sdr104 | .hs200 => some false
  | .ddr50 | .hs400 => some true
  | .undefined => none

/-- A bit of a register, set or cleared. -/
def putBit (reg bit : BitVec 32) (value : Bool) : BitVec 32 :=
  if value then reg ||| bit else reg &&& ~~~bit

/-! ## 3. The settings

Each operation checks what it is asked for, changes the register, and takes note of the setting in
the extension, in this order or not.  The order and what happens on a failure are kept as they are
in the source. -/

/-- `MshcRockchipSetVoltage`: vmmc cannot be switched. -/
def mshcRockchipSetVoltage (_ : BusVoltage) : NtStatus := .notSupported

/-- `MshcRockchipSetSignalingVoltage`: vqmmc stays at 3.3 V. -/
def mshcRockchipSetSignalingVoltage (voltage : SignalingVoltage) : NtStatus :=
  if voltage = .v33 then .success else .notSupported

/-- `Pwren` in `MshcSetVoltage`, and the new `CardInitialized`; `none` is a voltage that is
refused. -/
def pwrenFor (p : MshcSlot) (s : MshcBus) : BusVoltage → Option (BitVec 32 × Bool)
  | .v33 => some (putBit s.pwren (mshcPwrenPowerEnable p.slotId) true, false)
  | .off => some (putBit s.pwren (mshcPwrenPowerEnable p.slotId) false, s.cardInitialized)
  | _ => none

/-- `MshcSetVoltage`.  `Pwren` is computed, and then nothing is done with it. -/
def mshcSetVoltage (p : MshcSlot) (voltage : BusVoltage) (s : MshcBus) : NtStatus × MshcBus :=
  match pwrenFor p s voltage with
  | none => (.invalidParameter, s)
  | some (_, cardInitialized) =>
    (.success,
      { s with
        cardInitialized := cardInitialized
        cardPowerControlSupported := (mshcRockchipSetVoltage voltage).ntSuccess })

/-- `MshcSetBusWidth`. -/
def mshcSetBusWidth (p : MshcSlot) (width : BusWidth) (s : MshcBus) : NtStatus × MshcBus :=
  match ctypeWidth width with
  | none => (.invalidParameter, s)
  | some ctypeWidth =>
    (.success,
      { s with
        ctype := (s.ctype &&& ~~~(mshcCtypeCardWidthMask <<< p.slotId))
          ||| (ctypeWidth <<< p.slotId)
        busWidth := width })

/-- `MshcSetBusSpeed`. -/
def mshcSetBusSpeed (p : MshcSlot) (speed : BusSpeed) (s : MshcBus) : NtStatus × MshcBus :=
  match speedDdr speed with
  | none => (.invalidParameter, s)
  | some ddr =>
    (.success,
      { s with
        uhsReg := putBit s.uhsReg (mshcUhsRegDdrReg p.slotId) ddr
        busSpeed := speed })

/-- The next answer of the hardware. -/
def MshcBus.asked (s : MshcBus) : MshcBus := { s with tick := s.tick + 1 }

/-- `MshcSetClock`. -/
def mshcBusSetClock (p : MshcSlot) (hw : Nat → HwAnswer) (frequencyKhz : Nat) (s : MshcBus) :
    MshcResult :=
  match mshcSetClock p.toMshcPlatform s.busSpeed (fun i => (hw (s.tick + i)).ciuUpdateClock)
      s.toMshcClock frequencyKhz with
  | .error fault => .error (.clock fault)
  | .ok (status, clock) => .ok (status, { s with toMshcClock := clock, tick := s.tick + 3 })

/-- The way back to 3.3 V, once it is safe. -/
def switchTo33 (p : MshcSlot) (s : MshcBus) : NtStatus × MshcBus :=
  let status := mshcRockchipSetSignalingVoltage .v33
  let s := { s with uhsReg := putBit s.uhsReg (mshcUhsRegVoltReg p.slotId) false }
  (status, if status.ntSuccess then { s with signalingVoltage := .v33 } else s)

/-- The part of the switch to 1.8 V that follows a platform that supports it: the clock goes on,
and the controller has to have seen the card toggle its lines. -/
def confirm18 (p : MshcSlot) (hw : Nat → HwAnswer) (status : NtStatus) (s : MshcBus) :
    NtStatus × MshcBus :=
  if status.ntSuccess then
    let s := { s with clkena := putBit s.clkena (mshcClkenaCclkEnable p.slotId) true }.asked
    let rintsts := (hw s.tick).rintsts
    (if rintsts &&& mshcIntVoltageSwitch ≠ mshcIntVoltageSwitch then .ioDeviceError else status,
      s.asked)
  else (status, s)

/-- The switch to 1.8 V, with the interrupts off. -/
def switchTo18 (p : MshcSlot) (hw : Nat → HwAnswer) (s : MshcBus) : NtStatus × MshcBus :=
  let s := { s with
    ctrl := putBit s.ctrl mshcCtrlIntEnable false
    clkena := putBit s.clkena (mshcClkenaCclkEnable p.slotId) false }.asked
  let s := { s with uhsReg := putBit s.uhsReg (mshcUhsRegVoltReg p.slotId) true }
  let confirmed := confirm18 p hw (mshcRockchipSetSignalingVoltage .v18) s
  let s := { confirmed.2 with ctrl := putBit confirmed.2.ctrl mshcCtrlIntEnable true }
  (confirmed.1, if confirmed.1.ntSuccess then { s with signalingVoltage := .v18 } else s)

/-! ## 4. The parts of a reset

What has no call of another operation in it, so it is defined outside of the recursion. -/

/-- `ResetMask`. -/
def resetMask (p : MshcSlot) : BitVec 32 :=
  mshcCtrlControllerReset ||| mshcCtrlFifoReset
    ||| if p.scatterGatherDma then mshcCtrlDmaReset else 0

/-- `MshcResetWait`: the controller clears the bits when it is done. -/
def mshcResetWait (hw : Nat → HwAnswer) (mask : BitVec 32) (s : MshcBus) : Bool × MshcBus :=
  let done := (hw s.tick).resetWait
  let ctrl := s.ctrl ||| mask
  (done, { s with ctrl := if done then ctrl &&& ~~~mask else ctrl }.asked)

/-- The reset of the controller, and whether it ended. -/
def resetController (p : MshcSlot) (hw : Nat → HwAnswer) (s : MshcBus) : Bool × MshcBus :=
  let reset := mshcResetWait hw (resetMask p) s
  if reset.1 = false then reset
  else
    let s := reset.2.asked
    (true,
      if p.scatterGatherDma then
        { s with bmod := mshcBmodSwr, ctrl := s.ctrl &&& ~~~mshcCtrlUseInternalDmac }
      else s)

/-- The rest of a full reset, after the voltages: clock, width and timeout. -/
def resetBus (p : MshcSlot) (hw : Nat → HwAnswer) (s : MshcBus) : Except BusFault MshcBus := do
  let clock ← mshcBusSetClock p hw 0 s
  let s := (mshcSetBusWidth p .width1Bit clock.2).2
  return { s with ctrl := mshcCtrlIntEnable, tmout := 0xffffffff }

/-! ## 5. The driver's own commands

A command of the driver is an issue and a wait.  How the wait ends is an answer of the hardware;
what interrupts, DPCs and the worker do to bring that about is in `MshcLocal.lean`. -/

/-- The length of the tuning block. -/
def MshcBus.tuningLength (s : MshcBus) : Nat := if s.busWidth = .width8Bit then 128 else 64

/-- `MshcBuildTransfer` and `MshcBuildPioTransfer` for the tuning block: the internal DMA goes
off if it was on. -/
def buildTuningTransfer (p : MshcSlot) (s : MshcBus) : MshcBus :=
  let dma := s.ctrl &&& mshcCtrlUseInternalDmac ≠ 0
  { s with
    currentTransferRemainingLength := BitVec.ofNat 32 s.tuningLength
    fifoThreshold := min (s.tuningLength / 4) p.optimalFifoThreshold
    ctrl := if dma then s.ctrl &&& ~~~mshcCtrlUseInternalDmac else s.ctrl
    bmod := if dma then 0 else s.bmod }

/-- `MshcSlotIssueRequest` for a command of the driver's own. -/
def issueCommand (p : MshcSlot) (command : LocalCommand) (s : MshcBus) : MshcBus :=
  let s := { s with outstandingRequest := some command.isData }
  let s := if command.isData then buildTuningTransfer p s else s
  { s with cardInitialized := true }

/-- `MshcSlotIssueRequest` for the transfer of the tuning block: `MshcStartPioTransfer` moves one
threshold, and says in the request's status whether there is more. -/
def issueTransfer (s : MshcBus) : NtStatus × MshcBus :=
  let remaining := s.currentTransferRemainingLength - BitVec.ofNat 32 (s.fifoThreshold * 4)
  (if remaining ≠ 0 then .moreProcessingRequired else .success,
    { s with outstandingRequest := some true, currentTransferRemainingLength := remaining })

/-- The status that a request is completed with; `status` is its own. -/
def completionStatus (errors : Finset SdError) (busy : Bool) (status : NtStatus) : NtStatus :=
  if errors ≠ ∅ then mshcConvertStandardErrorToStatus errors
  else if busy then .ioTimeout
  else status

/-- A data CRC error is counted once tuning was performed. -/
def MshcBus.countCrcErrors (s : MshcBus) (errors : Finset SdError) : MshcBus :=
  if s.tuningPerformed ∧ .dataCrcError ∈ errors then
    { s with dataCrcErrorsSinceLastTuning := s.dataCrcErrorsSinceLastTuning + 1 }
  else s

/-- The wait of `MshcIssueRequestSynchronously`; `status` is the request's.  A request that
failed stays outstanding, and one whose card is gone has failed. -/
def waitLocal (hw : Nat → HwAnswer) (status : NtStatus) (s : MshcBus) : NtStatus × MshcBus :=
  let s' := { s with localRequestPending := false }.asked
  match (hw s.tick).wait with
  | .completed errors busy removed =>
    let status := completionStatus errors busy status
    (if removed then .ioDeviceError else status,
      { s'.countCrcErrors errors with
        outstandingRequest :=
          if status = .success ∨ status = .moreProcessingRequired then none
          else s.outstandingRequest })
  | .timeout => (.ioTimeout, s')

/-- What `MshcIssueRequestSynchronously` issues: a command, or the transfer of its block. -/
inductive LocalRequest
  | command (command : LocalCommand)
  | transfer
  deriving DecidableEq, Repr

def LocalRequest.isData : LocalRequest → Bool
  | .command c => c.isData
  | .transfer => true

/-- `MshcIssueRequestSynchronously` up to the recovery. -/
def runLocal (p : MshcSlot) (hw : Nat → HwAnswer) (request : LocalRequest) (s : MshcBus) :
    NtStatus × MshcBus :=
  let s := { s with localRequestPending := true }
  match request with
  | .command c => waitLocal hw .success (issueCommand p c s)
  | .transfer =>
    let issued := issueTransfer s
    waitLocal hw issued.1 issued.2

/-- The loop of `MshcSendTuningCommand` over the transfer. -/
def transferLoop (issue : MshcBus → MshcResult) : Nat → MshcBus → MshcResult
  | 0, _ => .error .endless
  | fuel + 1, s =>
    match issue s with
    | .error fault => .error fault
    | .ok (status, s) =>
      if status = .moreProcessingRequired then transferLoop issue fuel s else .ok (status, s)

/-! ## 6. The search for a sample phase

The loop of the platform routine, with the sending of the tuning command as a parameter, since that
is part of the recursion.  Where the array of ranges may be left and what the phase is good for is
in `MshcPhaseTuning.lean`. -/

/-- `NUM_PHASES`. -/
def numPhases : Nat := 360

/-- `RANGE_INDEX_TO_PHASE` with `NUM_PHASES`. -/
def rangeIndexToPhase (index : Nat) : Nat := (index * 360 + numPhases - 1) / numPhases

/-- `PHASE_TO_RANGE_INDEX` with `NUM_PHASES`. -/
def phaseToRangeIndex (phase : Nat) : Nat := (phase * numPhases + 360 - 1) / 360

/-- `BAD_PHASES_TO_SKIP`. -/
def badPhasesToSkip : Nat := 20

/-- The variables of the first loop of `MshcRockchipExecuteTuning`. -/
structure PhaseSearch where
  index : Nat
  ranges : List (Int × Int)
  currentOk : Bool
  previousOk : Bool
  firstOk : Bool
  deriving DecidableEq, Repr

def PhaseSearch.start : PhaseSearch := ⟨0, [], false, false, false⟩

/-- A good phase extends the last range, or starts one. -/
def extendRanges (ranges : List (Int × Int)) (previousOk : Bool) (index : Nat) :
    List (Int × Int) :=
  let ranges := if previousOk then ranges else ranges ++ [((index : Int), 0)]
  match ranges.getLast? with
  | none => ranges
  | some last => ranges.dropLast ++ [(last.1, (index : Int))]

/-- The bookkeeping of the loop, after the phase at `index` was tried. -/
def PhaseSearch.record (t : PhaseSearch) (ok : Bool) : PhaseSearch :=
  let firstOk := if t.index = 0 then ok else t.firstOk
  let skipped := t.index + phaseToRangeIndex badPhasesToSkip
  if ok then ⟨t.index + 1, extendRanges t.ranges t.previousOk t.index, ok, ok, firstOk⟩
  else if t.index = numPhases - 1 then ⟨t.index + 1, t.ranges, ok, ok, firstOk⟩
  else ⟨if skipped ≥ numPhases then numPhases - 1 else skipped, t.ranges, ok, ok, firstOk⟩

/-- One phase: it is set, and a tuning command is sent if that worked. -/
def tryPhase (send : MshcBus → MshcResult) (t : PhaseSearch) (s : MshcBus) :
    Except BusFault (PhaseSearch × MshcBus) :=
  match mshcRk3576SetPhase s.toMshcClock true (rangeIndexToPhase t.index) with
  | .error fault => .error (.clock fault)
  | .ok (false, clock) => .ok (t.record false, { s with toMshcClock := clock })
  | .ok (true, clock) =>
    match send { s with toMshcClock := clock } with
    | .error fault => .error fault
    | .ok (status, s) => .ok (t.record status.ntSuccess, s)

/-- The loop. -/
def tryPhases (send : MshcBus → MshcResult) :
    Nat → PhaseSearch → MshcBus → Except BusFault (PhaseSearch × MshcBus)
  | 0, _, _ => .error .endless
  | fuel + 1, t, s =>
    if t.index < numPhases then
      match tryPhase send t s with
      | .error fault => .error fault
      | .ok (t, s) => tryPhases send fuel t s
    else .ok (t, s)

/-- The length of a range; one that wraps around ends before it starts. -/
def rangeLength (range : Int × Int) : Int :=
  let length := range.2 - range.1 + 1
  if length < 0 then length + numPhases else length

/-- `LongestRange`: the first of the longest. -/
def longestRange : List (Int × Int) → Int × Int → Int × Int
  | [], longest => longest
  | range :: ranges, longest =>
    longestRange ranges (if rangeLength longest < rangeLength range then range else longest)

/-- The ranges, with the end points of a range that wraps around merged. -/
def mergedRanges (t : PhaseSearch) : List (Int × Int) :=
  match t.ranges, t.ranges.getLast? with
  | first :: rest, some last =>
    if rest ≠ [] ∧ t.firstOk = true ∧ t.currentOk = true then
      (last.1, first.2) :: rest.dropLast
    else t.ranges
  | _, _ => t.ranges

/-- The phase that is programmed in the end; `none` where all phases are bad. -/
def chosenPhase (t : PhaseSearch) : Option Nat :=
  match mergedRanges t with
  | [] => none
  | first :: rest =>
    if first.1 = 0 ∧ first.2 = (numPhases - 1 : Nat) then some 0
    else
      let longest := longestRange rest first
      let middle := (longest.1 + (rangeLength longest).tdiv 2).tmod numPhases
      some (rangeIndexToPhase middle.toNat)

/-- The end of `MshcRockchipExecuteTuning`. -/
def programPhase (t : PhaseSearch) (s : MshcBus) : MshcResult :=
  match chosenPhase t with
  | none => .ok (.ioDeviceError, s)
  | some phase =>
    match mshcRk3576SetPhase s.toMshcClock true phase with
    | .error fault => .error (.clock fault)
    | .ok (_, clock) => .ok (.success, { s with toMshcClock := clock })

/-! ## 7. The operations

The operations call each other in a circle: a reset may tune, tuning sends commands, a command that
fails asks for resets.  They are one recursion with the depth of calls as its fuel, each taking one
off before it goes on.  That a fixed depth is always enough is proved in `MshcRecovery.lean`. -/

/-- `SDPORT_BUS_OPERATION`; `unsupported` are the types that are answered without doing
anything. -/
inductive BusOperation
  | resetHost (resetType : ResetType)
  | setClock (frequencyKhz : Nat)
  | setVoltage (voltage : BusVoltage)
  | setBusWidth (width : BusWidth)
  | setBusSpeed (speed : BusSpeed)
  | setSignalingVoltage (voltage : SignalingVoltage)
  | executeTuning
  | unsupported
  deriving DecidableEq, Repr

/-- A request that carries data and is outstanding makes the command reset return early. -/
def resetReturnsEarly (resetType : ResetType) (request : Option Bool) : Bool :=
  resetType == .cmd && request == some true

/-- Too many data CRC errors since the last tuning, in a reset that may retune. -/
def MshcBus.retunes (s : MshcBus) (resetType : ResetType) : Bool :=
  resetType == .dat && s.tuningPerformed
    && decide (mshcDcrcErrorRetuningThreshold ≤ s.dataCrcErrorsSinceLastTuning)

/-- The bus speeds that have a tuning command. -/
def hasTuningCommand : BusSpeed → Bool
  | .sdr50 | .sdr104 | .hs200 | .hs400 => true
  | _ => false

mutual

/-- `MshcSlotIssueBusOperation`. -/
def mshcSlotIssueBusOperation (p : MshcSlot) (hw : Nat → HwAnswer) :
    Nat → BusOperation → MshcBus → MshcResult
  | 0, _, _ => .error .nested
  | depth + 1, operation, s =>
    if s.initialized = false then .ok (.deviceConfigurationError, s)
    else
      match operation with
      | .resetHost resetType => mshcResetHost p hw depth resetType s
      | .setClock frequencyKhz => mshcBusSetClock p hw frequencyKhz s
      | .setVoltage voltage => .ok (mshcSetVoltage p voltage s)
      | .setBusWidth width => .ok (mshcSetBusWidth p width s)
      | .setBusSpeed speed => .ok (mshcSetBusSpeed p speed s)
      | .setSignalingVoltage voltage => mshcSetSignalingVoltage p hw depth voltage s
      | .executeTuning => mshcExecuteTuning p hw depth s
      | .unsupported => .ok (.notSupported, s)

/-- `MshcResetHost`. -/
def mshcResetHost (p : MshcSlot) (hw : Nat → HwAnswer) :
    Nat → ResetType → MshcBus → MshcResult
  | 0, _, _ => .error .nested
  | depth + 1, resetType, s =>
    let request := s.outstandingRequest
    let s := { s with outstandingRequest := none }
    if resetReturnsEarly resetType request then .ok (.success, s)
    else
      match (match resetType with
        | .dat => mshcSendStopCommand p hw depth s
        | _ => .ok (.success, s) : MshcResult) with
      | .error fault => .error fault
      | .ok (_, s) =>
        let reset := resetController p hw s
        if reset.1 = false then .ok (.ioTimeout, reset.2)
        else
          match (match resetType with
            | .all =>
              if p.crashdumpMode then resetBus p hw reset.2
              else
                match mshcSetSignalingVoltage p hw depth .v33 (mshcSetVoltage p .off reset.2).2 with
                | .error fault => .error fault
                | .ok (_, s) => resetBus p hw s
            | _ => .ok reset.2 : Except BusFault MshcBus) with
          | .error fault => .error fault
          | .ok s =>
            if s.retunes resetType then
              match mshcExecuteTuning p hw depth s with
              | .error fault => .error fault
              | .ok (_, s) => .ok (.success, s)
            else .ok (.success, s)

/-- `MshcSetSignalingVoltage`. -/
def mshcSetSignalingVoltage (p : MshcSlot) (hw : Nat → HwAnswer) :
    Nat → SignalingVoltage → MshcBus → MshcResult
  | 0, _, _ => .error .nested
  | depth + 1, voltage, s =>
    match voltage with
    | .v33 =>
      if s.signalingVoltage = .v18 ∧ s.cardPowerControlSupported = false then
        match mshcSendStatusCommand p hw depth s with
        | .error fault => .error fault
        | .ok (status, s) =>
          -- A card that answers is one that was initialised at 1.8 V.
          if status.ntSuccess then .ok (.success, s) else .ok (switchTo33 p s)
      else .ok (switchTo33 p s)
    | .v18 => .ok (switchTo18 p hw s)
    | .undefined => .ok (.invalidParameter, s)

/-- `MshcExecuteTuning`. -/
def mshcExecuteTuning (p : MshcSlot) (hw : Nat → HwAnswer) : Nat → MshcBus → MshcResult
  | 0, _ => .error .nested
  | depth + 1, s =>
    let s := { s with tuningPerformed := false, dataCrcErrorsSinceLastTuning := 0 }
    match mshcRockchipExecuteTuning p hw depth s with
    | .error fault => .error fault
    | .ok (status, s) => .ok (status, { s with tuningPerformed := status.ntSuccess })

/-- `MshcRockchipExecuteTuning`. -/
def mshcRockchipExecuteTuning (p : MshcSlot) (hw : Nat → HwAnswer) : Nat → MshcBus → MshcResult
  | 0, _ => .error .nested
  | depth + 1, s =>
    match tryPhases (fun s => mshcSendTuningCommand p hw depth s) (numPhases + 1) .start s with
    | .error fault => .error fault
    | .ok (t, s) => programPhase t s

/-- `MshcSendTuningCommand`. -/
def mshcSendTuningCommand (p : MshcSlot) (hw : Nat → HwAnswer) : Nat → MshcBus → MshcResult
  | 0, _ => .error .nested
  | depth + 1, s =>
    if hasTuningCommand s.busSpeed = false then .ok (.invalidParameter, s)
    else
      match mshcIssueRequestSynchronously p hw depth (.command .tuning) true s with
      | .error fault => .error fault
      | .ok (status, s) =>
        if status.ntSuccess = false then .ok (status, s)
        else
          match transferLoop
              (fun s => mshcIssueRequestSynchronously p hw depth .transfer true s) (2 ^ 32) s with
          | .error fault => .error fault
          | .ok (status, s) =>
            if status.ntSuccess = false then .ok (status, s)
            else
              .ok (if (hw s.tick).blockMatches then .success else .ioDeviceError, s.asked)

/-- `MshcSendStatusCommand`. -/
def mshcSendStatusCommand (p : MshcSlot) (hw : Nat → HwAnswer) : Nat → MshcBus → MshcResult
  | 0, _ => .error .nested
  | depth + 1, s => mshcIssueRequestSynchronously p hw depth (.command .status) true s

/-- `MshcSendStopCommand`. -/
def mshcSendStopCommand (p : MshcSlot) (hw : Nat → HwAnswer) : Nat → MshcBus → MshcResult
  | 0, _ => .error .nested
  | depth + 1, s => mshcIssueRequestSynchronously p hw depth (.command .stop) false s

/-- `MshcIssueRequestSynchronously`. -/
def mshcIssueRequestSynchronously (p : MshcSlot) (hw : Nat → HwAnswer) :
    Nat → LocalRequest → Bool → MshcBus → MshcResult
  | 0, _, _, _ => .error .nested
  | depth + 1, request, errorRecovery, s =>
    let ended := runLocal p hw request s
    if errorRecovery && !ended.1.ntSuccess then
      match mshcSlotIssueBusOperation p hw depth (.resetHost .cmd) ended.2 with
      | .error fault => .error fault
      | .ok (_, s) =>
        if request.isData then
          match mshcSlotIssueBusOperation p hw depth (.resetHost .dat) s with
          | .error fault => .error fault
          | .ok (_, s) => .ok (ended.1, s)
        else .ok (ended.1, s)
    else .ok ended

end

end WoaRk3576.Sd.Bus
