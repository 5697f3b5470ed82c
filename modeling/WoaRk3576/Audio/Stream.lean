/-
# csaudiork3x: a wave stream and its DMA channel

`SetState(RUN)` takes a DMA channel and programs it (`rk3x_program_dma`), then starts the transfer
(`rk3x_play`); `SetState(STOP)` and `SetState(PAUSE)` undo both (`rk3x_stop`).  That a channel is
held, what it was programmed with and that the stream is active are three facts in three places:
`dmaThread`, the DMA controller, `isActive`.  Each function looks at two of them:

* `rk3x_program_dma` takes a channel that is held for one that is programmed;
* `rk3x_stop` takes a stream that is not active for one that holds no channel;
* `AllocateAudioBuffer` and `FreeAudioBuffer` look at none.

So one failed `SubmitAudioDMA` leaves a channel that the next `RUN` starts without a program and no
`STOP` gives back.  `InStep` says which calls keep the three together, and `stream_in_step` that it
is exactly these: after a run of such calls, one more keeps the stream safe if and only if it is
one of them too.

The property, `StreamSafe`, is weaker than what a run preserves.  The invariant (`Tied`) has one
state more, a channel that is held, not programmed and not active, which is where a failed submit
leaves the stream: nothing is wrong with it yet, and `InStep` excludes the calls that would make it
so.  Each call has a lemma with both directions (`Tied.run_held`, `Tied.stop`, `Tied.free` and so
on): it keeps the invariant where it is in step, and is unsafe where it is not.  `StreamInv.step`
is their sum, and the run is the invariant rule.

The state has three observers that the driver does not: what each channel was last programmed with,
the buffer that the channel was taken for, and the last request of `SetState`.
-/
import WoaRk3576.Lib.Transition
import Mathlib.Data.List.Basic

namespace WoaRk3576.Audio

open WoaRk3576.Lib

/-! ## 1. The hardware side

The functions of the hardware object, each with the calls that it makes to the DMA interface in
their order.  What the interface answers is an argument, and a call may fail where the source looks
at its status or not. -/

/-- `eDeviceType`. -/
inductive DeviceType
  | output | input | max
  deriving DecidableEq, Repr

/-- The values of `NTSTATUS` that occur. -/
inductive NtStatus
  | success | invalidParameter | noMemory | unsuccessful | invalidDeviceState
  deriving DecidableEq, Repr

/-- `struct rk_stream`.  Of `bufferBaseAddress` only the low part is used. -/
structure RkStream where
  bufferBytes : Nat
  isActive : Bool
  bufferBaseAddress : BitVec 32
  recording : Bool
  dmaThread : Option Nat
  deriving DecidableEq, Repr

/-- `CCsAudioRk3xHW`: the address of the registers, the two that start and stop a transfer, the
DMA channels of the topology, and the two streams. -/
structure CsAudioHw where
  physAddr : BitVec 32
  dmacr : BitVec 32
  xfer : BitVec 32
  tx : Nat
  rx : Nat
  outputStream : RkStream
  inputStream : RkStream
  deriving DecidableEq, Repr

/-- `rk_get_stream`. -/
def CsAudioHw.rkGetStream (hw : CsAudioHw) : DeviceType → Option RkStream
  | .output => some hw.outputStream
  | .input => some hw.inputStream
  | .max => none

def CsAudioHw.setStream (hw : CsAudioHw) (s : RkStream) : DeviceType → CsAudioHw
  | .output => { hw with outputStream := s }
  | .input => { hw with inputStream := s }
  | .max => hw

/-- `I2S_TXDR`, `I2S_RXDR`. -/
def i2sTxdr : BitVec 32 := 0x24

def i2sRxdr : BitVec 32 := 0x28

/-- `i2s_update32`, on the value of the register. -/
def i2sUpdate32 (tmp mask val : BitVec 32) : BitVec 32 := (tmp &&& ~~~mask) ||| val

/-- The masks of `I2S_DMACR` and `I2S_XFER`. -/
def i2sDmacrTdeMask : BitVec 32 := 1 <<< 8

def i2sDmacrRdeMask : BitVec 32 := 1 <<< 24

def i2sXferTxsMask : BitVec 32 := 1 <<< 0

def i2sXferRxsMask : BitVec 32 := 1 <<< 1

/-- The registers when `rk3x_play` starts a transfer. -/
def CsAudioHw.startTransfer (hw : CsAudioHw) : DeviceType → CsAudioHw
  | .output => { hw with
      dmacr := i2sUpdate32 hw.dmacr i2sDmacrTdeMask i2sDmacrTdeMask
      xfer := i2sUpdate32 hw.xfer i2sXferTxsMask i2sXferTxsMask }
  | .input => { hw with
      dmacr := i2sUpdate32 hw.dmacr i2sDmacrRdeMask i2sDmacrRdeMask
      xfer := i2sUpdate32 hw.xfer i2sXferRxsMask i2sXferRxsMask }
  | .max => hw

/-- The registers when `rk3x_stop` stops one.  `I2S_CLR` is pulsed as well. -/
def CsAudioHw.stopTransfer (hw : CsAudioHw) : DeviceType → CsAudioHw
  | .output => { hw with
      dmacr := i2sUpdate32 hw.dmacr i2sDmacrTdeMask 0
      xfer := i2sUpdate32 hw.xfer i2sXferTxsMask 0 }
  | .input => { hw with
      dmacr := i2sUpdate32 hw.dmacr i2sDmacrRdeMask 0
      xfer := i2sUpdate32 hw.xfer i2sXferRxsMask 0 }
  | .max => hw

/-- The arguments of `SubmitAudioDMA`. -/
structure AudioSubmit where
  fromDevice : Bool
  srcAddr : BitVec 32
  dstAddr : BitVec 32
  len : Nat
  periodLen : Nat
  deriving DecidableEq, Repr

/-- A call through `PL330DMA_INTERFACE_STANDARD`, with what it returned. -/
inductive DmaCall
  | getChannel (idx : Nat) (handle : Option Nat)
  | submitAudioDMA (handle : Nat) (args : AudioSubmit) (started : Bool)
  | stopDMA (handle : Nat)
  | freeChannel (handle : Nat) (freed : Bool)
  deriving DecidableEq, Repr

/-- What portcls and the DMA interface answer during one call of `SetState`: the pages of
`m_pMDL`, the results of `GetChannel`, `SubmitAudioDMA` and `FreeChannel`, and the addresses
that `GetThreadRegisters` reads. -/
structure DmaAnswers where
  pageCount : Int
  pageAddress : BitVec 32
  channel : Option Nat
  started : Bool
  freed : Bool
  sourceAddr : BitVec 32
  dstAddr : BitVec 32
  deriving DecidableEq, Repr

/-- What `rk3x_program_dma` submits for a buffer. -/
def CsAudioHw.submitArgs (hw : CsAudioHw) (recording : Bool) (buffer : BitVec 32)
    (byteCount : Nat) : AudioSubmit where
  fromDevice := recording
  srcAddr := if recording then hw.physAddr + i2sRxdr else buffer
  dstAddr := if recording then buffer else hw.physAddr + i2sTxdr
  len := byteCount
  periodLen := byteCount / 2

/-- What `rk3x_program_dma` assigns, up to the result of `GetChannel`. -/
def RkStream.program (i2sStream : RkStream) (recording : Bool) (address : BitVec 32)
    (byteCount : Nat) (dmaThread : Option Nat) : RkStream :=
  { i2sStream with
    recording := recording
    bufferBaseAddress := address
    bufferBytes := byteCount
    dmaThread := dmaThread }

/-- `rk3x_program_dma`. -/
def rk3xProgramDma (hw : CsAudioHw) (deviceType : DeviceType) (answers : DmaAnswers)
    (byteCount : Nat) : NtStatus × CsAudioHw × List DmaCall :=
  match hw.rkGetStream deviceType with
  | none => (.invalidParameter, hw, [])
  | some i2sStream =>
    if i2sStream.dmaThread.isSome then (.success, hw, [])
    else if answers.pageCount < 1 then (.noMemory, hw, [])
    else
      let recording := deviceType == .input
      let dmaIndex := if recording then hw.rx else hw.tx
      let hw' := hw.setStream
        (i2sStream.program recording answers.pageAddress byteCount answers.channel) deviceType
      match answers.channel with
      | none => (.unsuccessful, hw', [.getChannel dmaIndex none])
      | some dmaThread =>
        (if answers.started then .success else .unsuccessful, hw',
          [.getChannel dmaIndex (some dmaThread),
            .submitAudioDMA dmaThread (hw.submitArgs recording answers.pageAddress byteCount)
              answers.started])

/-- `rk3x_play`. -/
def rk3xPlay (hw : CsAudioHw) (deviceType : DeviceType) : NtStatus × CsAudioHw :=
  match hw.rkGetStream deviceType with
  | none => (.invalidParameter, hw)
  | some i2sStream =>
    if i2sStream.dmaThread.isNone then (.invalidDeviceState, hw)
    else if i2sStream.isActive then (.success, hw)
    else (.success,
      (hw.startTransfer deviceType).setStream { i2sStream with isActive := true } deviceType)

/-- `rk3x_stop`. -/
def rk3xStop (hw : CsAudioHw) (deviceType : DeviceType) (answers : DmaAnswers) :
    NtStatus × CsAudioHw × List DmaCall :=
  match hw.rkGetStream deviceType with
  | none => (.invalidParameter, hw, [])
  | some i2sStream =>
    if !i2sStream.isActive then (.success, hw, [])
    else
      match i2sStream.dmaThread with
      | none => (.invalidDeviceState, hw, [])
      | some dmaThread =>
        (.success,
          (hw.stopTransfer deviceType).setStream { i2sStream with
            dmaThread := none
            bufferBytes := 0
            isActive := false } deviceType,
          [.stopDMA dmaThread, .freeChannel dmaThread answers.freed])

/-- `rk3x_current_position`: the status, and the position unless it is left as it was. -/
def rk3xCurrentPosition (hw : CsAudioHw) (deviceType : DeviceType) (answers : DmaAnswers) :
    NtStatus × Option (BitVec 32) :=
  match hw.rkGetStream deviceType with
  | none => (.invalidParameter, none)
  | some i2sStream =>
    if !i2sStream.isActive then (.success, none)
    else if i2sStream.dmaThread.isNone then (.invalidDeviceState, none)
    else if i2sStream.recording then
      (.success, some (answers.dstAddr - i2sStream.bufferBaseAddress))
    else (.success, some (answers.sourceAddr - i2sStream.bufferBaseAddress))

section Hw

variable {hw : CsAudioHw} {deviceType : DeviceType} {s t : RkStream}

theorem CsAudioHw.rkGetStream_setStream (h : hw.rkGetStream deviceType = some s) :
    (hw.setStream t deviceType).rkGetStream deviceType = some t := by
  cases deviceType with
  | output => rfl
  | input => rfl
  | max => exact absurd h (by simp [CsAudioHw.rkGetStream])

@[simp] theorem CsAudioHw.rkGetStream_startTransfer :
    (hw.startTransfer deviceType).rkGetStream deviceType = hw.rkGetStream deviceType := by
  cases deviceType <;> rfl

@[simp] theorem CsAudioHw.rkGetStream_stopTransfer :
    (hw.stopTransfer deviceType).rkGetStream deviceType = hw.rkGetStream deviceType := by
  cases deviceType <;> rfl

@[simp] theorem CsAudioHw.physAddr_setStream :
    (hw.setStream t deviceType).physAddr = hw.physAddr := by
  cases deviceType <;> rfl

@[simp] theorem CsAudioHw.physAddr_startTransfer :
    (hw.startTransfer deviceType).physAddr = hw.physAddr := by
  cases deviceType <;> rfl

@[simp] theorem CsAudioHw.physAddr_stopTransfer :
    (hw.stopTransfer deviceType).physAddr = hw.physAddr := by
  cases deviceType <;> rfl

theorem CsAudioHw.submitArgs_congr {hw' : CsAudioHw} (h : hw'.physAddr = hw.physAddr)
    {recording : Bool} {buffer : BitVec 32} {byteCount : Nat} :
    hw'.submitArgs recording buffer byteCount = hw.submitArgs recording buffer byteCount := by
  rw [CsAudioHw.submitArgs, CsAudioHw.submitArgs, h]

/-- Different buffers are submitted differently. -/
theorem CsAudioHw.submitArgs_inj {recording : Bool} {a b : BitVec 32} {m n : Nat}
    (h : hw.submitArgs recording a m = hw.submitArgs recording b n) : a = b ∧ m = n := by
  simp only [CsAudioHw.submitArgs, AudioSubmit.mk.injEq] at h
  obtain ⟨-, hsrc, hdst, hlen, -⟩ := h
  refine ⟨?_, hlen⟩
  cases recording with
  | true => exact hdst
  | false => exact hsrc

/-- A channel that is held is not programmed again. -/
theorem rk3xProgramDma_held (hget : hw.rkGetStream deviceType = some s)
    (hheld : s.dmaThread.isSome = true) {answers : DmaAnswers} {byteCount : Nat} :
    rk3xProgramDma hw deviceType answers byteCount = (.success, hw, []) := by
  unfold rk3xProgramDma
  rw [hget]
  exact if_pos hheld

/-- No channel is taken: the call fails. -/
theorem rk3xProgramDma_none (hget : hw.rkGetStream deviceType = some s)
    (hheld : s.dmaThread = none) {answers : DmaAnswers} (byteCount : Nat)
    (hnone : answers.pageCount < 1 ∨ answers.channel = none) :
    (rk3xProgramDma hw deviceType answers byteCount).1 ≠ .success
      ∧ ∃ t, (rk3xProgramDma hw deviceType answers byteCount).2.1.rkGetStream deviceType = some t
        ∧ t.dmaThread = none ∧ t.isActive = s.isActive := by
  unfold rk3xProgramDma
  rw [hget]
  dsimp only
  rw [if_neg (by simp [hheld])]
  by_cases hpages : answers.pageCount < 1
  · rw [if_pos hpages]
    exact ⟨by simp, s, hget, hheld, rfl⟩
  · rw [if_neg hpages, hnone.resolve_left hpages]
    exact ⟨by simp, _, CsAudioHw.rkGetStream_setStream hget, rfl, rfl⟩

/-- A channel is taken, and the buffer submitted. -/
theorem rk3xProgramDma_takes (hget : hw.rkGetStream deviceType = some s)
    (hheld : s.dmaThread = none) {answers : DmaAnswers} (byteCount : Nat) {handle : Nat}
    (hpages : ¬ answers.pageCount < 1) (hchannel : answers.channel = some handle) :
    rk3xProgramDma hw deviceType answers byteCount
      = (if answers.started then .success else .unsuccessful,
        hw.setStream (s.program (deviceType == .input) answers.pageAddress byteCount
          (some handle)) deviceType,
        [.getChannel (if deviceType == .input then hw.rx else hw.tx) (some handle),
          .submitAudioDMA handle (hw.submitArgs (deviceType == .input) answers.pageAddress
            byteCount) answers.started]) := by
  unfold rk3xProgramDma
  rw [hget]
  dsimp only
  rw [if_neg (by simp [hheld]), if_neg hpages, hchannel]

theorem rk3xPlay_active (hget : hw.rkGetStream deviceType = some s)
    (hheld : s.dmaThread ≠ none) (hactive : s.isActive = true) :
    rk3xPlay hw deviceType = (.success, hw) := by
  unfold rk3xPlay
  rw [hget]
  dsimp only
  rw [if_neg (by simpa using hheld), if_pos hactive]

/-- **`rk3x_play` asks for a channel, not for a program.** -/
theorem rk3xPlay_starts (hget : hw.rkGetStream deviceType = some s)
    (hheld : s.dmaThread ≠ none) (hactive : s.isActive = false) :
    (rk3xPlay hw deviceType).2.rkGetStream deviceType = some { s with isActive := true }
      ∧ (rk3xPlay hw deviceType).2.physAddr = hw.physAddr := by
  unfold rk3xPlay
  rw [hget]
  dsimp only
  rw [if_neg (by simpa using hheld), if_neg (by simp [hactive])]
  exact ⟨CsAudioHw.rkGetStream_setStream (by simpa using hget), by simp⟩

/-- A stream that is not active keeps its channel. -/
theorem rk3xStop_inactive (hget : hw.rkGetStream deviceType = some s)
    (hactive : s.isActive = false) {answers : DmaAnswers} :
    rk3xStop hw deviceType answers = (.success, hw, []) := by
  unfold rk3xStop
  rw [hget]
  exact if_pos (by simp [hactive])

theorem rk3xStop_active (hget : hw.rkGetStream deviceType = some s)
    (hactive : s.isActive = true) (hheld : s.dmaThread ≠ none) (answers : DmaAnswers) :
    ∃ t, (rk3xStop hw deviceType answers).2.1.rkGetStream deviceType = some t
      ∧ t.dmaThread = none ∧ t.isActive = false := by
  obtain ⟨handle, hhandle⟩ := Option.ne_none_iff_exists'.mp hheld
  unfold rk3xStop
  rw [hget]
  dsimp only
  rw [if_neg (by simp [hactive]), hhandle]
  exact ⟨_, CsAudioHw.rkGetStream_setStream (s := s) (by simpa using hget), rfl, rfl⟩

end Hw

/-! ## 2. The wave stream

The stream side of the same object: the buffer that portcls has it allocate and free, and the
states that portcls sets.  The port driver may call these in any order. -/

/-- A buffer `AllocateContiguousPagesForMdl` returned: its number in the order of the
allocations, and its address, below 4 GiB. -/
structure AudioMdl where
  serial : Nat
  address : BitVec 32
  deriving DecidableEq, Repr

/-- `KSSTATE`. -/
inductive KsState
  | stop | acquire | pause | run
  deriving DecidableEq, Repr

/-- `CMiniportWaveRTStream`, as far as the calls below use it.  `blockAlign` is the
`nBlockAlign` of the format. -/
structure WaveStream where
  blockAlign : Nat
  mdl : Option AudioMdl
  dmaBufferSize : Nat
  ksState : KsState
  lastLinkPos : BitVec 32
  lastLinearPos : BitVec 64
  deriving DecidableEq, Repr

/-- `RequestedSize_` after its checks, `none` when they fail. -/
def bufferSize (blockAlign requestedSize : Nat) : Option Nat :=
  if requestedSize = 0 ∨ requestedSize < blockAlign then none
  else some (requestedSize - requestedSize % blockAlign)

/-- `AllocateAudioBuffer`, when `AllocateContiguousPagesForMdl` returns `mdl`. -/
def WaveStream.allocateAudioBuffer (stream : WaveStream) (requestedSize : Nat)
    (mdl : Option AudioMdl) : NtStatus × WaveStream :=
  match bufferSize stream.blockAlign requestedSize, mdl with
  | some size, some mdl => (.success, { stream with mdl := some mdl, dmaBufferSize := size })
  | _, _ => (.unsuccessful, stream)

/-- `FreeAudioBuffer`; `m_pMDL` stays. -/
def WaveStream.freeAudioBuffer (stream : WaveStream) : WaveStream :=
  { stream with dmaBufferSize := 0 }

/-- `SetState` with the wrappers of the miniport and the adapter, which only look for the
hardware object. -/
def WaveStream.setState (stream : WaveStream) (hw : CsAudioHw) (deviceType : DeviceType)
    (answers : DmaAnswers) : KsState → NtStatus × WaveStream × CsAudioHw × List DmaCall
  | .stop =>
    let stopped := rk3xStop hw deviceType answers
    (.success, { stream with ksState := .stop }, stopped.2)
  | .acquire => (.success, { stream with ksState := .acquire }, hw, [])
  | .pause =>
    let position := (rk3xCurrentPosition hw deviceType answers).2
    let stopped := rk3xStop hw deviceType answers
    (.success, { stream with
      ksState := .pause
      lastLinkPos := position.getD stream.lastLinkPos
      lastLinearPos := (position.map (·.setWidth 64)).getD stream.lastLinearPos }, stopped.2)
  | .run =>
    let programmed := rk3xProgramDma hw deviceType answers stream.dmaBufferSize
    if programmed.1 ≠ .success then (programmed.1, stream, programmed.2)
    else
      (.success, { stream with ksState := .run },
        (rk3xPlay programmed.2.1 deviceType).2, programmed.2.2)

/-! ## 3. Runs

The world has the stream, the registers of its hardware and the observers.  Safety is stated with
the observers and the fields of the stream; the condition `InStep` looks at the state before a call
and at what is answered to it, and never at the state behind. -/

/-- What each channel is programmed with, from the calls alone: a channel just taken has no
program, one that is stopped has none any more. -/
def observe (programs : Nat → Option AudioSubmit) : DmaCall → Nat → Option AudioSubmit
  | .getChannel _ (some handle) => Function.update programs handle none
  | .submitAudioDMA handle args true => Function.update programs handle (some args)
  | .stopDMA handle => Function.update programs handle none
  | _ => programs

/-- The stream and its hardware; the observer's part is which buffers are allocated, which
buffer was the current one when the stream's channel was taken, the programs of the channels,
and the state that was set if the last call was `SetState`. -/
structure AudioWorld where
  deviceType : DeviceType
  hw : CsAudioHw
  stream : WaveStream
  allocated : List AudioMdl
  serial : Nat
  heldOn : Option AudioMdl
  programs : Nat → Option AudioSubmit
  last : Option KsState

inductive AudioAction
  | setState (state : KsState) (answers : DmaAnswers)
  | allocate (requestedSize : Nat) (address : Option (BitVec 32))
  | free (mdl : Option AudioMdl)
  deriving DecidableEq, Repr

/-- The `rk_stream` of the wave stream. -/
def AudioWorld.rk (w : AudioWorld) : Option RkStream := w.hw.rkGetStream w.deviceType

/-- The current buffer is allocated. -/
def AudioWorld.BufferLive (w : AudioWorld) : Prop := ∃ mdl ∈ w.stream.mdl, mdl ∈ w.allocated

instance (w : AudioWorld) : Decidable w.BufferLive :=
  inferInstanceAs (Decidable (∃ mdl ∈ w.stream.mdl, mdl ∈ w.allocated))

/-- What portcls answers about a buffer that is allocated; about any other it answers
anything. -/
def AudioWorld.Answers (w : AudioWorld) (answers : DmaAnswers) : Prop :=
  ∀ mdl ∈ w.stream.mdl, mdl ∈ w.allocated →
    1 ≤ answers.pageCount ∧ answers.pageAddress = mdl.address

instance (w : AudioWorld) (answers : DmaAnswers) : Decidable (w.Answers answers) :=
  inferInstanceAs (Decidable (∀ mdl ∈ w.stream.mdl, _ → _ ∧ _))

/-- A stream just created, on hardware whose streams are zeroed. -/
def AudioWorld.Started (w : AudioWorld) : Prop :=
  (∀ s ∈ w.rk, s.dmaThread = none ∧ s.isActive = false)
    ∧ w.stream.mdl = none ∧ w.stream.dmaBufferSize = 0 ∧ w.stream.ksState = .stop
    ∧ w.allocated = [] ∧ w.last = none

/-- One call.  The channel is taken for what is the current buffer then. -/
def AudioWorld.setState (w : AudioWorld) (state : KsState) (answers : DmaAnswers) : AudioWorld :=
  let result := w.stream.setState w.hw w.deviceType answers state
  { w with
    stream := result.2.1
    hw := result.2.2.1
    heldOn := if w.rk.any (·.dmaThread.isSome) then w.heldOn else w.stream.mdl
    programs := result.2.2.2.foldl observe w.programs
    last := some state }

def AudioWorld.allocate (w : AudioWorld) (requestedSize : Nat) (address : Option (BitVec 32)) :
    AudioWorld :=
  let mdl := address.map (⟨w.serial, ·⟩)
  { w with
    stream := (w.stream.allocateAudioBuffer requestedSize mdl).2
    allocated := if (bufferSize w.stream.blockAlign requestedSize).isSome
      then mdl.toList ++ w.allocated else w.allocated
    serial := w.serial + 1
    last := none }

def AudioWorld.free (w : AudioWorld) (mdl : Option AudioMdl) : AudioWorld :=
  { w with
    stream := w.stream.freeAudioBuffer
    allocated := w.allocated.filter fun m => some m != mdl
    last := none }

/-- The calls that can happen: a new buffer is not at the address of an allocated one, and only
an allocated buffer is freed. -/
def audioStep (w : AudioWorld) : AudioAction → Option AudioWorld
  | .setState state answers =>
    if w.Answers answers then some (w.setState state answers) else none
  | .allocate requestedSize address =>
    if ∀ mdl ∈ w.allocated, some mdl.address ≠ address
    then some (w.allocate requestedSize address) else none
  | .free mdl => if ∀ m ∈ mdl, m ∈ w.allocated then some (w.free mdl) else none

/-- **The stream and its channel are in step.** -/
structure StreamSafe (w : AudioWorld) : Prop where
  /-- An active stream holds a channel that is programmed with the current buffer. -/
  active_programmed : ∀ s ∈ w.rk, s.isActive = true →
    ∃ handle ∈ s.dmaThread, ∃ mdl ∈ w.stream.mdl, w.programs handle
      = some (w.hw.submitArgs (w.deviceType == .input) mdl.address w.stream.dmaBufferSize)
  /-- After `STOP` and after `PAUSE` it holds none and is not active. -/
  stopped : w.last = some .stop ∨ w.last = some .pause →
    ∀ s ∈ w.rk, s.dmaThread = none ∧ s.isActive = false
  /-- A channel is held on a buffer that is allocated. -/
  held_allocated : ∀ s ∈ w.rk, s.dmaThread ≠ none → ∃ mdl ∈ w.heldOn, mdl ∈ w.allocated

/-- **The condition.**

* `RUN`: the channel that is held, if any, is running; a channel is taken only for a buffer
  that is allocated.
* `STOP`, `PAUSE`: the channel that is held, if any, is running.
* `AllocateAudioBuffer`: the stream is not active, or the call fails.
* `FreeAudioBuffer`: the stream is not active (or `m_ulDmaBufferSize` is 0 anyway), and no
  channel is held on the buffer. -/
def InStep (w : AudioWorld) : AudioAction → Prop
  | .setState .run answers => ∀ s ∈ w.rk, (s.dmaThread ≠ none → s.isActive = true)
      ∧ (s.dmaThread = none → answers.pageCount < 1 ∨ answers.channel = none ∨ w.BufferLive)
  | .setState .stop _ | .setState .pause _ => ∀ s ∈ w.rk, s.dmaThread ≠ none → s.isActive = true
  | .setState .acquire _ => True
  | .allocate requestedSize address => ∀ s ∈ w.rk, s.isActive = true →
      bufferSize w.stream.blockAlign requestedSize = none ∨ address = none
  | .free mdl => ∀ s ∈ w.rk, (s.isActive = true → w.stream.dmaBufferSize = 0)
      ∧ (s.dmaThread ≠ none → ∀ m ∈ mdl, w.heldOn ≠ some m)

instance (w : AudioWorld) : (a : AudioAction) → Decidable (InStep w a)
  | .setState .run _ => inferInstanceAs (Decidable (∀ s ∈ w.rk, (_ → _) ∧ (_ → _ ∨ _ ∨ _)))
  | .setState .stop _ | .setState .pause _ => inferInstanceAs (Decidable (∀ s ∈ w.rk, _ → _))
  | .setState .acquire _ => .isTrue trivial
  | .allocate _ _ => inferInstanceAs (Decidable (∀ s ∈ w.rk, _ → _ ∨ _))
  | .free mdl => inferInstanceAs (Decidable (∀ s ∈ w.rk, (_ → _) ∧ (_ → ∀ m ∈ mdl, _)))

/-! ## 4. One call

The invariant has three cases, by whether a channel is held and whether it has a program.  Each
call is looked at in each case, and where the result could be unsafe the lemma says that it is so
exactly when the call was out of step; so the condition cannot be widened. -/

/-- **What ties the three facts together**, for the `rk_stream` of the wave stream: it holds no
channel; or one that is not programmed and not active, after a submit that failed; or an active
one. -/
structure Tied (w : AudioWorld) (s : RkStream) : Prop where
  active : s.isActive = true → ∃ handle ∈ s.dmaThread, ∃ mdl ∈ w.stream.mdl, w.programs handle
    = some (w.hw.submitArgs (w.deviceType == .input) mdl.address w.stream.dmaBufferSize)
  current : s.isActive = true → w.heldOn = w.stream.mdl
  unprogrammed : s.isActive = false → ∀ handle ∈ s.dmaThread, w.programs handle = none
  held : s.dmaThread ≠ none → ∃ mdl ∈ w.heldOn, mdl ∈ w.allocated
  stopped : w.last = some .stop ∨ w.last = some .pause →
    s.dmaThread = none ∧ s.isActive = false

/-- **The invariant.** -/
def StreamInv (w : AudioWorld) : Prop := ∀ s ∈ w.rk, Tied w s

theorem StreamInv.safe {w : AudioWorld} (h : StreamInv w) : StreamSafe w :=
  ⟨fun s hs => (h s hs).active, fun hlast s hs => (h s hs).stopped hlast,
    fun s hs => (h s hs).held⟩

section Step

variable {w : AudioWorld} {s : RkStream} {answers : DmaAnswers}

theorem StreamInv.of_rk {t : RkStream} (hrk : w.rk = some t) (h : Tied w t) : StreamInv w := by
  intro s hs
  rw [hrk, Option.mem_some_iff] at hs
  exact hs ▸ h

/-- A stream without a channel is tied, whatever the observer says. -/
theorem Tied.of_idle (hheld : s.dmaThread = none) (hactive : s.isActive = false) : Tied w s := by
  refine ⟨fun h => ?_, fun h => ?_, fun _ handle h => ?_, fun h => absurd hheld h,
    fun _ => ⟨hheld, hactive⟩⟩
  · rw [hactive] at h
    exact absurd h Bool.false_ne_true
  · rw [hactive] at h
    exact absurd h Bool.false_ne_true
  · rw [hheld] at h
    exact absurd h (by simp)

theorem Tied.inactive_of_none (h : Tied w s) (hheld : s.dmaThread = none) :
    s.isActive = false := by
  refine Bool.eq_false_iff.mpr fun hactive => ?_
  obtain ⟨handle, hmem, -⟩ := h.active hactive
  rw [hheld] at hmem
  exact absurd hmem (by simp)

/-- `RUN` that programs a channel, or finds one held. -/
theorem setState_run_success
    (hstatus : (rk3xProgramDma w.hw w.deviceType answers w.stream.dmaBufferSize).1 = .success) :
    w.setState .run answers = { w with
      stream := { w.stream with ksState := .run }
      hw := (rk3xPlay (rk3xProgramDma w.hw w.deviceType answers
        w.stream.dmaBufferSize).2.1 w.deviceType).2
      heldOn := if w.rk.any (·.dmaThread.isSome) then w.heldOn else w.stream.mdl
      programs := (rk3xProgramDma w.hw w.deviceType answers
        w.stream.dmaBufferSize).2.2.foldl observe w.programs
      last := some .run } := by
  unfold AudioWorld.setState WaveStream.setState
  dsimp only
  rw [if_neg (not_not.mpr hstatus)]

/-- `RUN` that fails. -/
theorem setState_run_failed
    (hstatus : (rk3xProgramDma w.hw w.deviceType answers w.stream.dmaBufferSize).1 ≠ .success) :
    w.setState .run answers = { w with
      hw := (rk3xProgramDma w.hw w.deviceType answers w.stream.dmaBufferSize).2.1
      heldOn := if w.rk.any (·.dmaThread.isSome) then w.heldOn else w.stream.mdl
      programs := (rk3xProgramDma w.hw w.deviceType answers
        w.stream.dmaBufferSize).2.2.foldl observe w.programs
      last := some .run } := by
  unfold AudioWorld.setState WaveStream.setState
  dsimp only
  rw [if_pos hstatus]

/-- **`RUN` on a stream that holds a channel**: it must be running. -/
theorem Tied.run_held (h : Tied w s) (hrk : w.rk = some s) (hheld : s.dmaThread ≠ none)
    (answers : DmaAnswers) :
    (s.isActive = true → StreamInv (w.setState .run answers))
      ∧ (StreamSafe (w.setState .run answers) → s.isActive = true) := by
  have hget : w.hw.rkGetStream w.deviceType = some s := hrk
  have hsome := Option.isSome_iff_ne_none.mpr hheld
  have hprogram : rk3xProgramDma w.hw w.deviceType answers w.stream.dmaBufferSize
      = (.success, w.hw, []) := rk3xProgramDma_held hget hsome
  have hany : w.rk.any (·.dmaThread.isSome) = true := by simp [hrk, hsome]
  rw [setState_run_success (by rw [hprogram]), hprogram, hany]
  cases hactive : s.isActive with
  | true =>
    rw [rk3xPlay_active hget hheld hactive]
    exact ⟨fun _ => .of_rk hrk ⟨h.active, h.current, h.unprogrammed, h.held,
      fun hlast => absurd hlast (by simp)⟩, fun _ => rfl⟩
  | false =>
    refine ⟨fun hfalse => absurd hfalse Bool.false_ne_true, fun hsafe => ?_⟩
    -- the channel is started without a program
    obtain ⟨handle, hmem, mdl, -, hprograms⟩ := hsafe.active_programmed { s with isActive := true }
      (rk3xPlay_starts hget hheld hactive).1 rfl
    have hnone : w.programs handle = none := h.unprogrammed hactive handle hmem
    exact absurd (hnone.symm.trans hprograms) (by simp)

/-- `RUN` on a stream that holds no channel, and takes none. -/
theorem Tied.run_none (h : Tied w s) (hrk : w.rk = some s) (hheld : s.dmaThread = none)
    (hnone : answers.pageCount < 1 ∨ answers.channel = none) :
    StreamInv (w.setState .run answers) := by
  obtain ⟨hstatus, t, hget, hthread, hactive⟩ :=
    rk3xProgramDma_none hrk hheld w.stream.dmaBufferSize hnone
  rw [setState_run_failed hstatus]
  exact .of_rk hget (.of_idle hthread (hactive.trans (h.inactive_of_none hheld)))

/-- **`RUN` takes a channel**: for a buffer that is allocated.  Whether the submit succeeds
decides only if the channel runs. -/
theorem Tied.run_takes (h : Tied w s) (hrk : w.rk = some s) (hheld : s.dmaThread = none)
    (hanswers : w.Answers answers) (hpages : ¬ answers.pageCount < 1) {handle : Nat}
    (hchannel : answers.channel = some handle) :
    (w.BufferLive → StreamInv (w.setState .run answers))
      ∧ (StreamSafe (w.setState .run answers) → w.BufferLive) := by
  have hget : w.hw.rkGetStream w.deviceType = some s := hrk
  have hactive := h.inactive_of_none hheld
  have hprogram := rk3xProgramDma_takes hget hheld w.stream.dmaBufferSize hpages hchannel
  have hany : w.rk.any (·.dmaThread.isSome) = false := by simp [hrk, hheld]
  have hset := CsAudioHw.rkGetStream_setStream (t := s.program (w.deviceType == .input)
    answers.pageAddress w.stream.dmaBufferSize (some handle)) hget
  cases hstarted : answers.started with
  | false =>
    rw [hstarted, if_neg Bool.false_ne_true] at hprogram
    rw [setState_run_failed (by rw [hprogram]; simp), hprogram, hany, if_neg Bool.false_ne_true]
    refine ⟨fun hlive => .of_rk hset ⟨fun hact => ?_, fun hact => ?_, ?_, fun _ => hlive,
      by simp⟩, fun hsafe => hsafe.held_allocated _ hset (by simp [RkStream.program])⟩
    · exact absurd (hactive.symm.trans hact) Bool.false_ne_true
    · exact absurd (hactive.symm.trans hact) Bool.false_ne_true
    · intro _ handle' hmem
      obtain rfl : handle = handle' := Option.mem_some_iff.mp hmem
      exact Function.update_self ..
  | true =>
    rw [hstarted, if_pos rfl] at hprogram
    obtain ⟨hplay, haddr⟩ := rk3xPlay_starts hset (by simp [RkStream.program]) hactive
    rw [setState_run_success (by rw [hprogram]), hprogram, hany, if_neg Bool.false_ne_true]
    refine ⟨?_, fun hsafe => hsafe.held_allocated _ hplay (by simp [RkStream.program])⟩
    rintro ⟨mdl, hmdl, hallocated⟩
    obtain ⟨-, haddress⟩ := hanswers mdl hmdl hallocated
    refine .of_rk hplay ⟨fun _ => ⟨handle, rfl, mdl, hmdl, ?_⟩, fun _ => rfl,
      fun hfalse => absurd hfalse (by simp), fun _ => ⟨mdl, hmdl, hallocated⟩, by simp⟩
    rw [CsAudioHw.submitArgs_congr (haddr.trans CsAudioHw.physAddr_setStream), ← haddress]
    exact Function.update_self ..

/-- **`STOP` and `PAUSE` give back the channel of a stream that is active**, and no other. -/
theorem Tied.stop (h : Tied w s) (hrk : w.rk = some s) {state : KsState}
    (hstate : state = .stop ∨ state = .pause) :
    ((s.dmaThread ≠ none → s.isActive = true) → StreamInv (w.setState state answers))
      ∧ (StreamSafe (w.setState state answers) → s.dmaThread ≠ none → s.isActive = true) := by
  have hget : w.hw.rkGetStream w.deviceType = some s := hrk
  have hhw : (w.setState state answers).rk
      = (rk3xStop w.hw w.deviceType answers).2.1.rkGetStream w.deviceType := by
    rcases hstate with rfl | rfl
    · rfl
    · rfl
  have hlast : (w.setState state answers).last = some .stop
      ∨ (w.setState state answers).last = some .pause := by
    rcases hstate with rfl | rfl
    · exact .inl rfl
    · exact .inr rfl
  cases hactive : s.isActive with
  | true =>
    have hheld : s.dmaThread ≠ none := by
      obtain ⟨handle, hmem, -⟩ := h.active hactive
      exact Option.ne_none_iff_exists'.mpr ⟨handle, hmem⟩
    obtain ⟨t, ht, hthread, hinactive⟩ := rk3xStop_active hget hactive hheld answers
    exact ⟨fun _ => .of_rk (hhw.trans ht) (.of_idle hthread hinactive), fun _ _ => rfl⟩
  | false =>
    rw [rk3xStop_inactive hget hactive] at hhw
    refine ⟨fun hin => ?_, fun hsafe hheld => ?_⟩
    · have hnone : s.dmaThread = none := by
        by_contra hheld
        exact absurd (hin hheld) Bool.false_ne_true
      exact .of_rk (hhw.trans hget) (.of_idle hnone hactive)
    · exact absurd (hsafe.stopped hlast s (hhw.trans hget)).1 hheld

theorem Tied.acquire (h : Tied w s) (hrk : w.rk = some s) :
    StreamInv (w.setState .acquire answers) := by
  cases hheld : s.dmaThread with
  | none => exact .of_rk hrk (.of_idle hheld (h.inactive_of_none hheld))
  | some handle =>
    have hany : w.rk.any (·.dmaThread.isSome) = true := by simp [hrk, hheld]
    unfold AudioWorld.setState WaveStream.setState
    dsimp only
    rw [hany]
    exact .of_rk hrk ⟨h.active, h.current, h.unprogrammed, h.held, by simp⟩

/-- **A new buffer**: not under an active stream. -/
theorem Tied.allocate (h : Tied w s) (hrk : w.rk = some s) {requestedSize : Nat}
    {address : Option (BitVec 32)} (hfresh : ∀ mdl ∈ w.allocated, some mdl.address ≠ address) :
    ((s.isActive = true → bufferSize w.stream.blockAlign requestedSize = none ∨ address = none) →
        StreamInv (w.allocate requestedSize address))
      ∧ (StreamSafe (w.allocate requestedSize address) → s.isActive = true →
        bufferSize w.stream.blockAlign requestedSize = none ∨ address = none) := by
  have hallocated : ∀ mdl ∈ w.allocated, mdl ∈ (w.allocate requestedSize address).allocated := by
    intro mdl hmdl
    unfold AudioWorld.allocate
    dsimp only
    split
    · exact List.mem_append_right _ hmdl
    · exact hmdl
  have hheld : s.dmaThread ≠ none → ∃ mdl ∈ (w.allocate requestedSize address).heldOn,
      mdl ∈ (w.allocate requestedSize address).allocated := by
    intro hne
    obtain ⟨mdl, hmdl, hmem⟩ := h.held hne
    exact ⟨mdl, hmdl, hallocated mdl hmem⟩
  have hlast : ¬ ((w.allocate requestedSize address).last = some .stop
      ∨ (w.allocate requestedSize address).last = some .pause) := by
    simp [AudioWorld.allocate]
  by_cases hfails : bufferSize w.stream.blockAlign requestedSize = none ∨ address = none
  · refine ⟨fun _ => .of_rk hrk ?_, fun _ _ => hfails⟩
    have hstream : (w.allocate requestedSize address).stream = w.stream := by
      unfold AudioWorld.allocate WaveStream.allocateAudioBuffer
      rcases hfails with hsize | rfl
      · simp [hsize]
      · cases bufferSize w.stream.blockAlign requestedSize <;> rfl
    refine ⟨?_, ?_, h.unprogrammed, hheld, fun hl => absurd hl hlast⟩
    · rw [hstream]
      exact h.active
    · rw [hstream]
      exact h.current
  · obtain ⟨hsize, haddress⟩ := not_or.mp hfails
    obtain ⟨size, hsize⟩ := Option.ne_none_iff_exists'.mp hsize
    obtain ⟨a, rfl⟩ := Option.ne_none_iff_exists'.mp haddress
    refine ⟨fun hin => ?_, fun hsafe hactive => ?_⟩
    · have hinactive : s.isActive = false :=
        Bool.eq_false_iff.mpr fun hactive => hfails (hin hactive)
      refine .of_rk hrk ⟨fun hact => ?_, fun hact => ?_, h.unprogrammed, hheld,
        fun hl => absurd hl hlast⟩
      · exact absurd (hinactive.symm.trans hact) Bool.false_ne_true
      · exact absurd (hinactive.symm.trans hact) Bool.false_ne_true
    · -- the program is for the buffer before, which is at another address
      exfalso
      obtain ⟨handle, hmem, mdl, hmdl, hprogram⟩ := h.active hactive
      obtain ⟨handle', hmem', mdl', hmdl', hprogram'⟩ := hsafe.active_programmed s hrk hactive
      obtain ⟨mdl'', hheldOn, hlive⟩ := h.held (Option.ne_none_iff_exists'.mpr ⟨handle, hmem⟩)
      rw [h.current hactive] at hheldOn
      obtain rfl : mdl = mdl'' := Option.mem_unique hmdl hheldOn
      obtain rfl : handle = handle' := Option.mem_unique hmem hmem'
      have hstream : (w.allocate requestedSize (some a)).stream.mdl = some ⟨w.serial, a⟩ := by
        unfold AudioWorld.allocate WaveStream.allocateAudioBuffer
        simp [hsize]
      rw [hstream, Option.mem_some_iff] at hmdl'
      subst hmdl'
      have hargs := Option.some.inj (hprogram.symm.trans hprogram')
      exact hfresh mdl hlive (congrArg some (CsAudioHw.submitArgs_inj hargs).1)

/-- **A buffer is freed**: not the one a channel is held on, and not under an active stream. -/
theorem Tied.free (h : Tied w s) (hrk : w.rk = some s) {mdl : Option AudioMdl} :
    ((s.isActive = true → w.stream.dmaBufferSize = 0)
        ∧ (s.dmaThread ≠ none → ∀ m ∈ mdl, w.heldOn ≠ some m) → StreamInv (w.free mdl))
      ∧ (StreamSafe (w.free mdl) → (s.isActive = true → w.stream.dmaBufferSize = 0)
        ∧ (s.dmaThread ≠ none → ∀ m ∈ mdl, w.heldOn ≠ some m)) := by
  constructor
  · rintro ⟨hsize, hother⟩
    refine .of_rk hrk ⟨fun hactive => ?_, h.current, h.unprogrammed, fun hheld => ?_,
      by simp [AudioWorld.free]⟩
    · obtain ⟨handle, hmem, m, hm, hprogram⟩ := h.active hactive
      rw [hsize hactive] at hprogram
      exact ⟨handle, hmem, m, hm, hprogram⟩
    · obtain ⟨m, hm, hlive⟩ := h.held hheld
      refine ⟨m, hm, List.mem_filter.mpr ⟨hlive, ?_⟩⟩
      rw [bne_iff_ne]
      rintro rfl
      exact hother hheld m rfl hm
  · intro hsafe
    refine ⟨fun hactive => ?_, fun hheld m hm hheldOn => ?_⟩
    · obtain ⟨handle, hmem, m, hm, hprogram⟩ := h.active hactive
      obtain ⟨handle', hmem', m', hm', hprogram'⟩ := hsafe.active_programmed s hrk hactive
      obtain rfl : handle = handle' := Option.mem_unique hmem hmem'
      have hargs := Option.some.inj (hprogram.symm.trans hprogram')
      exact (CsAudioHw.submitArgs_inj hargs).2
    · obtain ⟨m', hm', hlive⟩ := hsafe.held_allocated s hrk hheld
      have hsame : some m' = some m := hm'.symm.trans hheldOn
      have hne := (List.mem_filter.mp hlive).2
      rw [bne_iff_ne, hsame] at hne
      exact hne hm.symm

/-- A device without a stream: `rk_get_stream` is `NULL`. -/
theorem AudioWorld.deviceType_of_rk (h : w.rk = none) : w.deviceType = .max := by
  cases hdevice : w.deviceType with
  | max => rfl
  | output | input =>
    rw [AudioWorld.rk, hdevice] at h
    exact absurd h (by simp [CsAudioHw.rkGetStream])

theorem AudioWorld.rk_of_deviceType (h : w.deviceType = .max) : w.rk = none := by
  rw [AudioWorld.rk, h]
  rfl

/-- What a call does, and when it can happen. -/
theorem audioStep_cases {a : AudioAction} {w' : AudioWorld} (hstep : audioStep w a = some w') :
    (∃ state answers, a = .setState state answers ∧ w.Answers answers
        ∧ w' = w.setState state answers)
      ∨ (∃ requestedSize address, a = .allocate requestedSize address
        ∧ (∀ mdl ∈ w.allocated, some mdl.address ≠ address)
        ∧ w' = w.allocate requestedSize address)
      ∨ ∃ mdl, a = .free mdl ∧ w' = w.free mdl := by
  cases a with
  | setState state answers =>
    rw [audioStep] at hstep
    obtain ⟨hanswers, heq⟩ := Option.ite_none_right_eq_some.mp hstep
    exact .inl ⟨state, answers, rfl, hanswers, (Option.some.inj heq).symm⟩
  | allocate requestedSize address =>
    rw [audioStep] at hstep
    obtain ⟨hfresh, heq⟩ := Option.ite_none_right_eq_some.mp hstep
    exact .inr (.inl ⟨requestedSize, address, rfl, hfresh, (Option.some.inj heq).symm⟩)
  | free mdl =>
    rw [audioStep] at hstep
    obtain ⟨-, heq⟩ := Option.ite_none_right_eq_some.mp hstep
    exact .inr (.inr ⟨mdl, rfl, (Option.some.inj heq).symm⟩)

/-- No call makes one device another. -/
theorem audioStep_deviceType {a : AudioAction} {w' : AudioWorld}
    (hstep : audioStep w a = some w') : w'.deviceType = w.deviceType := by
  obtain ⟨_, _, -, -, rfl⟩ | ⟨_, _, -, -, rfl⟩ | ⟨_, -, rfl⟩ := audioStep_cases hstep
  · rfl
  · rfl
  · rfl

/-- **`SetState`**, in both directions. -/
theorem Tied.setState (h : Tied w s) (hrk : w.rk = some s) (state : KsState)
    (hanswers : w.Answers answers) :
    (InStep w (.setState state answers) → StreamInv (w.setState state answers))
      ∧ (StreamSafe (w.setState state answers) → InStep w (.setState state answers)) := by
  cases state with
  | acquire => exact ⟨fun _ => h.acquire hrk, fun _ => trivial⟩
  | stop =>
    simp only [InStep, hrk, Option.mem_some_iff, forall_eq']
    exact h.stop hrk (.inl rfl)
  | pause =>
    simp only [InStep, hrk, Option.mem_some_iff, forall_eq']
    exact h.stop hrk (.inr rfl)
  | run =>
    simp only [InStep, hrk, Option.mem_some_iff, forall_eq']
    by_cases hheld : s.dmaThread = none
    · by_cases hnone : answers.pageCount < 1 ∨ answers.channel = none
      · refine ⟨fun _ => h.run_none hrk hheld hnone, fun _ => ⟨absurd hheld, fun _ => ?_⟩⟩
        exact hnone.imp_right .inl
      · obtain ⟨hpages, hchannel⟩ := not_or.mp hnone
        obtain ⟨handle, hhandle⟩ := Option.ne_none_iff_exists'.mp hchannel
        have htakes := h.run_takes hrk hheld hanswers hpages hhandle
        refine ⟨fun hin => htakes.1 ?_, fun hsafe => ⟨absurd hheld, fun _ => ?_⟩⟩
        · exact ((hin.2 hheld).resolve_left hpages).resolve_left hchannel
        · exact .inr (.inr (htakes.2 hsafe))
    · have hruns := h.run_held hrk hheld answers
      exact ⟨fun hin => hruns.1 (hin.1 hheld),
        fun hsafe => ⟨fun _ => hruns.2 hsafe, fun hnone => absurd hnone hheld⟩⟩

/-- **The step lemma, in both directions.** -/
theorem StreamInv.step (h : StreamInv w) {a : AudioAction} {w' : AudioWorld}
    (hstep : audioStep w a = some w') :
    (InStep w a → StreamInv w') ∧ (StreamSafe w' → InStep w a) := by
  cases hrk : w.rk with
  | none =>
    have hnone : w'.rk = none := AudioWorld.rk_of_deviceType
      ((audioStep_deviceType hstep).trans (AudioWorld.deviceType_of_rk hrk))
    refine ⟨fun _ s hs => ?_, fun _ => ?_⟩
    · rw [hnone] at hs
      exact absurd hs (by simp)
    · match a with
      | .setState .run _ | .setState .stop _ | .setState .pause _ | .allocate _ _ | .free _ =>
        intro s hs
        rw [hrk] at hs
        exact absurd hs (by simp)
      | .setState .acquire _ => trivial
  | some s =>
    have ht := h s hrk
    obtain ⟨state, answers, rfl, hanswers, rfl⟩ | ⟨requestedSize, address, rfl, hfresh, rfl⟩
      | ⟨mdl, rfl, rfl⟩ := audioStep_cases hstep
    · exact ht.setState hrk state hanswers
    · simp only [InStep, hrk, Option.mem_some_iff, forall_eq']
      exact ht.allocate hrk hfresh
    · simp only [InStep, hrk, Option.mem_some_iff, forall_eq']
      exact ht.free hrk

theorem started_streamInv (h : w.Started) : StreamInv w := fun s hs =>
  .of_idle (h.1 s hs).1 (h.1 s hs).2

end Step

/-- **The stream and its channel stay in step, in every run of calls that keep them in step**, and
the next call keeps them so exactly when it meets the condition too.  A stream holds no channel, or
an active one that runs its program, or one that a failed submit has left; each call is looked at
in each of these cases, in both directions. -/
theorem stream_in_step (w : AudioWorld) (h : ReachIf AudioWorld.Started audioStep InStep w) :
    StreamSafe w ∧ ∀ a w', audioStep w a = some w' → (StreamSafe w' ↔ InStep w a) := by
  have hinv : StreamInv w := h.invariant (fun _ => started_streamInv)
    fun _ _ _ hw hin hstep => (hw.step hstep).1 hin
  exact ⟨hinv.safe, fun a w' hstep =>
    ⟨(hinv.step hstep).2, fun hin => ((hinv.step hstep).1 hin).safe⟩⟩

/-! ## 5. Two runs

A run through all states with every call in step, and a run of two calls that is not. -/

/-- A render stream of 16-bit stereo, just created. -/
def renderWorld : AudioWorld where
  deviceType := .output
  hw := ⟨0x2A600000, 0, 0, 1, 0, ⟨0, false, 0, false, none⟩, ⟨0, false, 0, false, none⟩⟩
  stream := ⟨4, none, 0, .stop, 0, 0⟩
  allocated := []
  serial := 0
  heldOn := none
  programs := fun _ => none
  last := none

/-- Everything succeeds, or everything but the submit. -/
def renderAnswers (started : Bool) : DmaAnswers := ⟨1, 0x10000000, some 7, started, true, 0, 0⟩

theorem renderWorld_started : renderWorld.Started :=
  ⟨fun s hs => by obtain rfl := Option.mem_some_iff.mp hs; exact ⟨rfl, rfl⟩,
    rfl, rfl, rfl, rfl, rfl⟩

/-- A buffer allocated, played, paused, played again, stopped and freed. -/
theorem stream_in_step_of_run : ∃ w, ReachIf AudioWorld.Started audioStep InStep w
    ∧ w.stream.ksState = .stop ∧ w.serial = 1 ∧ StreamSafe w := by
  obtain ⟨w, hw, hends⟩ := exists_reachIf_of_runIf audioStep InStep renderWorld_started
    [.allocate 4098 (some 0x10000000), .setState .acquire (renderAnswers true),
      .setState .run (renderAnswers true), .setState .pause (renderAnswers true),
      .setState .run (renderAnswers true), .setState .stop (renderAnswers true),
      .free (some ⟨0, 0x10000000⟩)]
    (fun w => w.stream.ksState == .stop && w.serial == 1) (by decide +kernel)
  rw [Bool.and_eq_true, beq_iff_eq, beq_iff_eq] at hends
  exact ⟨w, hw, hends.1, hends.2, (stream_in_step w hw).1⟩

/-- **A failed submit, and `STOP`**: the channel is still held. -/
theorem stop_keeps_channel : ∃ w, Reach AudioWorld.Started audioStep w ∧ ¬ StreamSafe w := by
  obtain ⟨w, hw, hends⟩ := exists_reach_of_run audioStep renderWorld_started
    [.allocate 4096 (some 0x10000000), .setState .run (renderAnswers false),
      .setState .stop (renderAnswers true)]
    (fun w => w.last == some .stop && w.rk.any (·.dmaThread.isSome)) (by decide +kernel)
  rw [Bool.and_eq_true, beq_iff_eq] at hends
  obtain ⟨s, hs, hheld⟩ := Option.any_eq_true _ _ |>.mp hends.2
  refine ⟨w, hw, fun hsafe => ?_⟩
  rw [(hsafe.stopped (.inl hends.1) s hs).1] at hheld
  exact absurd hheld (by simp)

end WoaRk3576.Audio
