/-
# Starting and stopping dwc_eqos: `DevicePrepareHardware` and `DeviceReleaseHardware`

The station's own address lives in the device.  `DevicePrepareHardware` reads it from
`Mac_Address[0]` as the permanent address, chooses the current address, and resets the device,
which puts the current address into the register; `DeviceReleaseHardware` resets the device again
to put the permanent address back, so that the next start finds it.

A run is any order of starts (complete or not), filter requests and stops.

* `receiveFilter_exact`: in every state of every run the frames let through are those asked for.  A
  start that succeeds has gone through the reset (`prepareDevice_cases`), which clears every
  address register but the first and leaves what lets through the initial filter
  (`programmed_reset`); a filter request then writes what it asks for, whatever was there
  (`Net/ReceiveFilter.lean`).
* `permanentMacAddress_restored`: the address survives every run whose stops find it read and whose
  resets end.  It is in one of two places, in the context while the registers are mapped and else
  in the device (`AddressInv`).  A start takes it from the one to the other, unless it maps the
  registers and stops before it has read the address: then the stop puts back what the context
  holds.
* `prepareHardware_interrupt_iff`: a start that succeeds has a live interrupt if and only if its
  resources have one.  The handle in the context is tested, which no stop clears, so that a restart
  without an interrupt passes the test with the handle of the start before it.

`DeviceReset` may run into its time-out, and `STATUS_TIMEOUT` is one of the success codes: a start
then goes on with a device that has not left reset, and only the second result cares.
-/
import Mathlib.Data.Fin.VecNotation
import WoaRk3576.Acpi.Evaluation
import WoaRk3576.Lib.Transition
import WoaRk3576.Net.ReceiveFilter

namespace WoaRk3576.Net

open WoaRk3576.Lib
open WoaRk3576.Acpi (NTSTATUS ntSuccess statusSuccess statusInsufficientResources)

/-! ## 1. Status codes

What the caller of `DevicePrepareHardware` looks at is whether the status is a success, and that of
a time-out is one. -/

def statusDeviceConfigurationError : NTSTATUS := 0xC0000182

theorem not_ntSuccess_configurationError : ntSuccess statusDeviceConfigurationError = false := by
  decide

/-- The codes that `DeviceReset` returns; `STATUS_TIMEOUT` is one of the success codes. -/
def ResetStatus.toNtStatus : ResetStatus → NTSTATUS
  | .success => statusSuccess
  | .timeout => 0x00000102

theorem ntSuccess_resetStatus (status : ResetStatus) : ntSuccess status.toNtStatus = true := by
  cases status with
  | success => rfl
  | timeout => rfl

/-! ## 2. The device under a reset

A write of the reset bit gives all registers their reset values, and the address is written behind
it.  So what the registers hold is a fold of the writes over the values they had. -/

/-- What the registers hold after a software reset. -/
def resetRegs : FilterRegs
  | .packetFilter => 0
  | .mac .dmaMode => 0
  | .mac (.macAddressHigh _) => 0xFFFF
  | .mac (.macAddressLow _) => 0xFFFFFFFF

/-- One write of `DeviceReset`, as the device takes it. -/
def deviceWrite (regs : FilterRegs) : ResetReg × BitVec 32 → FilterRegs
  | (.dmaMode, value) =>
    if value.getLsbD 0 then resetRegs else Function.update regs (.mac .dmaMode) value
  | (reg, value) => Function.update regs (.mac reg) value

/-- The address in the first address register. -/
def stationAddress (regs : FilterRegs) : MacAddress := fun k =>
  lane (regs (.mac (if k.val < 4 then .macAddressLow 0 else .macAddressHigh 0))) (k.val % 4)

/-! ## 3. The state

The context is kept from one start to the next, and the framework deletes the interrupt object
after a stop without the driver knowing of it.  So the handle in the context and the object that
exists are two fields. -/

/-- What the resources of a start are bound to. -/
structure Binding where
  regsMapped : Bool
  /-- `context->interrupt`, a handle. -/
  interrupt : Option Nat
  /-- The interrupt object that exists; the framework deletes it after a stop. -/
  liveInterrupt : Option Nat
  interruptsCreated : Nat
  deriving DecidableEq

inductive HardwarePhase
  | released
  | failed
  | started
  deriving DecidableEq, Repr

/-- The device, its context, and what was asked for last. -/
structure NetDevice where
  regs : FilterRegs
  inReset : Bool
  binding : Binding
  permanentMacAddress : MacAddress
  currentMacAddress : MacAddress
  feature0 : BitVec 32
  phase : HardwarePhase
  filter : ReceiveFilter

/-- `CM_PARTIAL_RESOURCE_DESCRIPTOR`, with what mapping it or creating its interrupt comes to. -/
inductive ResourceDesc
  | memory (length : BitVec 32) (mapped : Bool)
  | interrupt (created : NTSTATUS) (cleared : Bool)
  | other
  deriving DecidableEq

def ResourceDesc.isInterrupt : ResourceDesc → Bool
  | .interrupt _ _ => true
  | _ => false

/-- `sizeof(MacRegisters)`. -/
def sizeofMacRegisters : BitVec 32 := 0x1200

/-- What a start is given and what it is answered. -/
structure PrepareInput where
  openConfiguration : NTSTATUS
  linkLayerAddress : Option LinkLayerAddress
  resources : List ResourceDesc
  random : Fin 4 → BitVec 8
  macVersion : BitVec 32
  feature0 : BitVec 32
  feature1 : BitVec 32
  dmaEnablerCreate : NTSTATUS
  dmaMode : Nat → BitVec 32
  adapterStart : NTSTATUS

/-! ## 4. `DevicePrepareHardware`

A start may fail in several places, and what it did before stays done: the registers may be mapped
and the address read, or not.  The function returns the status with the device as it is then. -/

/-- The address of the configuration, unless it is missing or not one for a station. -/
def configuredAddress : Option LinkLayerAddress → Option MacAddress
  | none => none
  | some a =>
    if a.length ≠ 6 then none
    else if ethIsMulticast a.address || ethIsBroadcast a.address then none
    else some a.address

/-- The loop over the resources; `some status` is a jump to the end. -/
def configureResources : List ResourceDesc → Nat → Binding → Option NTSTATUS × Binding
  | [], _, b => (none, b)
  | .memory length mapped :: rest, interruptsFound, b =>
    if b.regsMapped then configureResources rest interruptsFound b
    else if length < sizeofMacRegisters then configureResources rest interruptsFound b
    else if mapped then configureResources rest interruptsFound { b with regsMapped := true }
    else (some statusInsufficientResources, b)
  | .interrupt created cleared :: rest, interruptsFound, b =>
    if interruptsFound = 0 then
      if ntSuccess created then
        configureResources rest (interruptsFound + 1)
          { b with
            interrupt := some b.interruptsCreated
            liveInterrupt := some b.interruptsCreated
            interruptsCreated := b.interruptsCreated + 1 }
      else (some created, if cleared then { b with interrupt := none } else b)
    else configureResources rest (interruptsFound + 1) b
  | .other :: rest, interruptsFound, b => configureResources rest interruptsFound b

/-- The current address where the configuration has none: the permanent one, unless it is no
address at all, without its group bit. -/
def ownAddress (low high : BitVec 32) (permanent : MacAddress) (random : Fin 4 → BitVec 8) :
    MacAddress :=
  if (low = 0xFFFFFFFF ∧ high.setWidth 16 = 0xFFFF#16)
      ∨ (low = 0 ∧ high.setWidth 16 = 0#16) then
    ![0xF2, 0x00, random 0, random 1, random 2, random 3]
  else if ethIsMulticast permanent then
    Function.update permanent firstOctet (permanent firstOctet &&& ~~~1)
  else permanent

/-- Both addresses, from the first address register. -/
def readMacAddress (configHasMacAddress : Bool) (random : Fin 4 → BitVec 8) (d : NetDevice) :
    NetDevice :=
  let permanent := stationAddress d.regs
  { d with
    permanentMacAddress := permanent
    currentMacAddress :=
      if configHasMacAddress then d.currentMacAddress
      else ownAddress (d.regs (.mac (.macAddressLow 0))) (d.regs (.mac (.macAddressHigh 0)))
        permanent random }

/-- `RkVer` and `UserVer`, `SaVlanIns`, the checksum offloads and `TsoEn`. -/
def featuresSupported (macVersion feature0 feature1 : BitVec 32) : Bool :=
  !(decide (macVersion.extractLsb' 0 8 < 0x51#8) || decide (0x52#8 < macVersion.extractLsb' 8 8))
    && feature0.getLsbD 27 && feature0.getLsbD 14 && feature0.getLsbD 16 && feature1.getLsbD 18

/-- `AddressWidth` is one of 32, 40 and 48 bits. -/
def addressWidthKnown (feature1 : BitVec 32) : Bool := decide (feature1.extractLsb' 14 2 < 3#2)

/-- `DeviceReset` on the device. -/
def resetDevice (mac0 : MacAddress) (dmaMode : Nat → BitVec 32) (d : NetDevice) : NetDevice :=
  let run := deviceReset mac0 dmaMode
  { d with
    regs := run.writes.foldl deviceWrite d.regs
    inReset := decide (run.status = .timeout) }

/-- The part behind the resources. -/
def prepareDevice (i : PrepareInput) (configHasMacAddress : Bool) (d : NetDevice) :
    NTSTATUS × NetDevice :=
  if d.binding.regsMapped = false then (statusDeviceConfigurationError, d)
  else if d.binding.interrupt = none then (statusDeviceConfigurationError, d)
  else
    let d := { readMacAddress configHasMacAddress i.random d with feature0 := i.feature0 }
    if featuresSupported i.macVersion i.feature0 i.feature1 = false then
      (statusDeviceConfigurationError, d)
    else if addressWidthKnown i.feature1 = false then (statusDeviceConfigurationError, d)
    else if ntSuccess i.dmaEnablerCreate = false then (i.dmaEnablerCreate, d)
    else
      let status := (deviceReset d.currentMacAddress i.dmaMode).status.toNtStatus
      let d := resetDevice d.currentMacAddress i.dmaMode d
      if ntSuccess status = false then (status, d) else (i.adapterStart, d)

/-- **`DevicePrepareHardware`**. -/
def prepareHardware (i : PrepareInput) (d : NetDevice) : NTSTATUS × NetDevice :=
  if ntSuccess i.openConfiguration = false then (i.openConfiguration, d)
  else
    let configured := configuredAddress i.linkLayerAddress
    let d := { d with currentMacAddress := configured.getD d.currentMacAddress }
    match configureResources i.resources 0 d.binding with
    | (some status, binding) => (status, { d with binding })
    | (none, binding) => prepareDevice i configured.isSome { d with binding }

/-- **`DeviceReleaseHardware`**. -/
def releaseHardware (dmaMode : Nat → BitVec 32) (d : NetDevice) : NetDevice :=
  if d.binding.regsMapped then
    let d := resetDevice d.permanentMacAddress dmaMode d
    { d with binding := { d.binding with regsMapped := false } }
  else d

/-! ## 5. Runs

A run starts with a device of the firmware and a context of zeros.  The framework calls
`ReleaseHardware` after every `PrepareHardware`, successful or not, so a failed start is not a
state of its own. -/

inductive HardwareAction
  | prepareHardware (i : PrepareInput)
  | setReceiveFilter (f : ReceiveFilter)
  | releaseHardware (dmaMode : Nat → BitVec 32)

/-- What the registers of a device that was just reset ask for: the station and broadcasts. -/
def initialFilter : ReceiveFilter where
  directed := true
  multicast := false
  allMulticast := false
  broadcast := true
  promiscuous := false
  multicastAddresses := []

/-- One callback.  A stop follows every start, also one that failed. -/
def hardwareStep (d : NetDevice) : HardwareAction → Option NetDevice
  | .prepareHardware i =>
    if d.phase = .released then
      let r := prepareHardware i d
      some { r.2 with
        phase := if ntSuccess r.1 then .started else .failed
        filter := initialFilter }
    else none
  | .setReceiveFilter f =>
    if d.phase = .started then
      some { d with
        regs := applyWrites d.regs (adapterSetReceiveFilter d.currentMacAddress d.feature0 f)
        filter := f }
    else none
  | .releaseHardware dmaMode =>
    if d.phase = .released then none
    else
      let d := releaseHardware dmaMode d
      some { d with phase := .released, binding := { d.binding with liveInterrupt := none } }

/-- A device whose firmware has put the address `firmware` into it, and a context of zeros. -/
structure HardwareStart (firmware : MacAddress) (d : NetDevice) : Prop where
  address : stationAddress d.regs = firmware
  released : d.phase = .released
  leftReset : d.inReset = false
  unmapped : d.binding.regsMapped = false
  noInterrupt : d.binding.interrupt = none
  noLive : d.binding.liveInterrupt = none
  permanent : d.permanentMacAddress = fun _ => 0

/-! ## 6. A reset

A device that left the reset lets through the frames to its station and broadcasts, as the other
address registers are disabled by then. -/

section Reset

variable (mac0 : MacAddress) (dmaMode : Nat → BitVec 32) (d : NetDevice)

/-- **The registers after `DeviceReset`.** -/
theorem foldl_deviceReset (regs : FilterRegs) :
    (deviceReset mac0 dmaMode).writes.foldl deviceWrite regs
      = if (deviceReset mac0 dmaMode).status = .success then
          applyWrites resetRegs (writeMacAddress 0 mac0 true)
        else resetRegs := by
  rw [deviceReset_writes, List.foldl_cons]
  split
  · rfl
  · rfl

theorem resetDevice_success (h : (resetDevice mac0 dmaMode d).inReset = false) :
    (resetDevice mac0 dmaMode d).regs = applyWrites resetRegs (writeMacAddress 0 mac0 true) := by
  have hne : (deviceReset mac0 dmaMode).status ≠ .timeout := of_decide_eq_false h
  have hsuccess : (deviceReset mac0 dmaMode).status = .success := by
    cases hstatus : (deviceReset mac0 dmaMode).status with
    | success => rfl
    | timeout => exact absurd hstatus hne
  exact (foldl_deviceReset mac0 dmaMode d.regs).trans (if_pos hsuccess)

/-- **A reset that ends** leaves its address in the first address register. -/
theorem stationAddress_resetDevice (hclear : ∃ k < resetPolls, resetCleared (dmaMode k) = true) :
    stationAddress (resetDevice mac0 dmaMode d).regs = mac0 := by
  have hsuccess : (deviceReset mac0 dmaMode).status = .success := by
    obtain ⟨reads, ok, hpolled, hrun⟩ := deviceReset_polled mac0 dmaMode
    rw [hrun]
    cases hpolled with
    | found => rfl
    | expired h =>
      obtain ⟨k, hk, hcleared⟩ := hclear
      rw [h k hk] at hcleared
      cases hcleared
  have hregs : (resetDevice mac0 dmaMode d).regs
      = applyWrites resetRegs (writeMacAddress 0 mac0 true) :=
    (foldl_deviceReset mac0 dmaMode d.regs).trans (if_pos hsuccess)
  obtain ⟨hhigh, hlow⟩ := applyWrites_writeMacAddress resetRegs 0 mac0 true
  rw [hregs]
  exact (matches_iff hhigh hlow).mp fun _ => rfl

/-- **The registers of a device that was just reset** let through what the initial filter asks
for. -/
theorem programmed_reset (feature0 : BitVec 32) :
    Programmed mac0 feature0 initialFilter
      (applyWrites resetRegs (writeMacAddress 0 mac0 true)) := by
  obtain ⟨hhigh, hlow⟩ := applyWrites_writeMacAddress resetRegs 0 mac0 true
  have hslot : ∀ i, (initialFilter.slot i).2 = false := fun _ => rfl
  refine ⟨?_, ⟨true, hhigh⟩, hlow, fun i hi _ => ?_, fun i _ _ hon => ?_⟩
  · rw [applyWrites_of_ne]
    · rfl
    · intro w hw
      rcases mem_writeMacAddress hw with h | h
      · simp [h]
      · simp [h]
  · rw [applyWrites_of_ne]
    · exact (by decide : addressEnable 0xFFFF = false)
    · intro w hw
      rcases mem_writeMacAddress hw with h | h
      · simpa [h] using Ne.symm hi
      · simp [h]
  · rw [hslot] at hon
    cases hon

end Reset

/-! ## 7. A start

`prepareHardware_cases` is the only place in which the callback is unfolded.  It says for each of
the ways out how far the start has come, and later proofs ask for the way they need. -/

/-- What a start has read where it goes beyond the resources. -/
def NetDevice.ready (d : NetDevice) (i : PrepareInput) (configHasMacAddress : Bool) : NetDevice :=
  { readMacAddress configHasMacAddress i.random d with feature0 := i.feature0 }

/-- **What the part behind the resources comes to**: it stops before it has read the address,
behind it, or after the reset, and a start that succeeds has gone through the reset. -/
theorem prepareDevice_cases (i : PrepareInput) (c : Bool) (d : NetDevice) :
    ((d.binding.regsMapped = false ∨ d.binding.interrupt = none)
      ∧ (prepareDevice i c d).2 = d ∧ ntSuccess (prepareDevice i c d).1 = false)
    ∨ ((d.binding.regsMapped = true ∧ d.binding.interrupt ≠ none)
      ∧ (((prepareDevice i c d).2 = d.ready i c ∧ ntSuccess (prepareDevice i c d).1 = false)
        ∨ (prepareDevice i c d).2
          = resetDevice (d.ready i c).currentMacAddress i.dmaMode (d.ready i c))) := by
  unfold prepareDevice
  by_cases hmapped : d.binding.regsMapped = false
  · rw [if_pos hmapped]
    exact Or.inl ⟨Or.inl hmapped, rfl, not_ntSuccess_configurationError⟩
  rw [if_neg hmapped]
  by_cases hinterrupt : d.binding.interrupt = none
  · rw [if_pos hinterrupt]
    exact Or.inl ⟨Or.inr hinterrupt, rfl, not_ntSuccess_configurationError⟩
  rw [if_neg hinterrupt]
  refine Or.inr ⟨⟨(Bool.not_eq_false _).mp hmapped, hinterrupt⟩, ?_⟩
  dsimp only
  split
  · exact Or.inl ⟨rfl, not_ntSuccess_configurationError⟩
  split
  · exact Or.inl ⟨rfl, not_ntSuccess_configurationError⟩
  split
  · rename_i hdma
    exact Or.inl ⟨rfl, hdma⟩
  · rw [if_neg (by rw [ntSuccess_resetStatus]; decide)]
    exact Or.inr rfl

/-- **What a start comes to.** -/
theorem prepareHardware_cases (i : PrepareInput) (d : NetDevice) :
    ((prepareHardware i d).2 = d ∧ ntSuccess (prepareHardware i d).1 = false
      ∧ ntSuccess i.openConfiguration = false)
    ∨ (ntSuccess i.openConfiguration = true ∧ ∃ status binding,
      configureResources i.resources 0 d.binding = (status, binding)
      ∧ ((status.isSome = true ∧ (prepareHardware i d).1 = status.getD statusSuccess
          ∧ (prepareHardware i d).2 = { d with
            currentMacAddress := (configuredAddress i.linkLayerAddress).getD d.currentMacAddress
            binding })
        ∨ (status = none ∧ prepareHardware i d
          = prepareDevice i (configuredAddress i.linkLayerAddress).isSome { d with
            currentMacAddress := (configuredAddress i.linkLayerAddress).getD d.currentMacAddress
            binding }))) := by
  unfold prepareHardware
  cases hopen : ntSuccess i.openConfiguration with
  | false => exact Or.inl ⟨rfl, hopen, rfl⟩
  | true =>
    refine Or.inr ⟨rfl, ?_⟩
    rw [if_neg (by decide)]
    dsimp only
    cases hresources : configureResources i.resources 0 d.binding with
    | mk status binding =>
      refine ⟨status, binding, rfl, ?_⟩
      cases status with
      | some status => exact Or.inl ⟨rfl, rfl, rfl⟩
      | none => exact Or.inr ⟨rfl, rfl⟩

/-! ## 8. The frames that are let through

The registers and the last filter agree whenever the device is started and out of reset: a reset
asks for the station and broadcasts, and each later call writes what it is asked for.  The address
is that of a station whichever its source is: the configured one is tested for the group bit, the
permanent one has it cleared, and the made-up one begins with 0xF2. -/

theorem configuredAddress_unicast {a : Option LinkLayerAddress} {addr : MacAddress}
    (h : configuredAddress a = some addr) : ethIsMulticast addr = false := by
  cases a with
  | none => cases h
  | some a =>
    rw [configuredAddress, Option.ite_none_left_eq_some, Option.ite_none_left_eq_some] at h
    obtain ⟨-, hnot, hsome⟩ := h
    rw [Bool.or_eq_true, not_or] at hnot
    rw [← Option.some.inj hsome]
    exact (Bool.not_eq_true _).mp hnot.1

theorem ownAddress_unicast (low high : BitVec 32) (permanent : MacAddress)
    (random : Fin 4 → BitVec 8) :
    ethIsMulticast (ownAddress low high permanent random) = false := by
  unfold ownAddress
  split
  · exact (by decide : (0xF2#8).getLsbD 0 = false)
  · split
    · simp [ethIsMulticast]
    · rename_i hnot
      exact (Bool.not_eq_true _).mp hnot

/-- **The current address of a device that is ready is that of one station.** -/
theorem ready_unicast (i : PrepareInput) (d : NetDevice) (binding : Binding) :
    ethIsMulticast (NetDevice.ready { d with
      currentMacAddress := (configuredAddress i.linkLayerAddress).getD d.currentMacAddress
      binding } i (configuredAddress i.linkLayerAddress).isSome).currentMacAddress = false := by
  cases hconfigured : configuredAddress i.linkLayerAddress with
  | none => exact ownAddress_unicast _ _ _ _
  | some addr => exact configuredAddress_unicast hconfigured

/-- A start that succeeds ends with the reset of a device that is ready. -/
theorem prepareHardware_success {i : PrepareInput} {d : NetDevice}
    (h : ntSuccess (prepareHardware i d).1 = true) (hstatus : ∀ status binding,
      configureResources i.resources 0 d.binding = (some status, binding) →
        ntSuccess status = false) : ∃ binding : Binding,
    configureResources i.resources 0 d.binding = (none, binding) ∧ binding.regsMapped = true
      ∧ binding.interrupt ≠ none
      ∧ ∃ d', d' = NetDevice.ready { d with
          currentMacAddress := (configuredAddress i.linkLayerAddress).getD d.currentMacAddress
          binding } i (configuredAddress i.linkLayerAddress).isSome
        ∧ (prepareHardware i d).2 = resetDevice d'.currentMacAddress i.dmaMode d' := by
  rcases prepareHardware_cases i d with ⟨-, hfails, -⟩ | ⟨-, status, binding, hresources, hcase⟩
  · rw [hfails] at h
    cases h
  rcases hcase with ⟨hsome, hanswer, -⟩ | ⟨rfl, hdevice⟩
  · obtain ⟨status, rfl⟩ := Option.isSome_iff_exists.mp hsome
    rw [hanswer, Option.getD_some, hstatus status binding hresources] at h
    cases h
  rw [hdevice] at h ⊢
  rcases prepareDevice_cases i (configuredAddress i.linkLayerAddress).isSome { d with
      currentMacAddress := (configuredAddress i.linkLayerAddress).getD d.currentMacAddress
      binding } with ⟨-, -, hfails⟩ | ⟨⟨hmapped, hinterrupt⟩, ⟨-, hfails⟩ | hreset⟩
  · rw [hfails] at h
    cases h
  · rw [hfails] at h
    cases h
  · exact ⟨binding, hresources, hmapped, hinterrupt, _, rfl, hreset⟩

/-- The loop over the resources jumps to the end only with an error. -/
theorem configureResources_fails : ∀ (rs : List ResourceDesc) (n : Nat) (b b' : Binding)
    (status : NTSTATUS), configureResources rs n b = (some status, b') → ntSuccess status = false
  | [], _, _, _, _, h => by cases h
  | .memory length mapped :: rest, n, b, b', status, h => by
    unfold configureResources at h
    split at h
    · exact configureResources_fails rest n b b' status h
    split at h
    · exact configureResources_fails rest n b b' status h
    split at h
    · exact configureResources_fails rest n _ b' status h
    · cases h
      decide
  | .interrupt created cleared :: rest, n, b, b', status, h => by
    unfold configureResources at h
    split at h
    · split at h
      · exact configureResources_fails rest _ _ b' status h
      · rename_i hfails
        cases h
        exact (Bool.not_eq_true _).mp hfails
    · exact configureResources_fails rest _ b b' status h
  | .other :: rest, n, b, b', status, h =>
    configureResources_fails rest n b b' status h

/-- **What a started device that has left reset keeps.** -/
structure FilterInv (d : NetDevice) : Prop where
  slots : SlotsBeyondOff d.regs d.feature0
  exact : ∀ dest, accepts d.regs dest ↔ d.filter.Wants d.currentMacAddress d.feature0 dest
  unicast : ethIsMulticast d.currentMacAddress = false

/-- One callback. -/
theorem hardwareStep_filterInv {d d' : NetDevice} {a : HardwareAction}
    (h : d.phase = .started → d.inReset = false → FilterInv d)
    (hstep : hardwareStep d a = some d') : d'.phase = .started → d'.inReset = false →
      FilterInv d' := by
  cases a with
  | prepareHardware i =>
    rw [hardwareStep, Option.ite_none_right_eq_some] at hstep
    obtain ⟨-, heq⟩ := hstep
    cases heq
    intro hstarted hleft
    have hsuccess : ntSuccess (prepareHardware i d).1 = true := by
      by_contra hnot
      rw [if_neg hnot] at hstarted
      cases hstarted
    obtain ⟨binding, -, -, -, ready, hready, hreset⟩ := prepareHardware_success hsuccess
      fun status binding => configureResources_fails i.resources 0 d.binding binding status
    have hunicast := ready_unicast i d binding
    rw [← hready] at hunicast
    dsimp only at hleft ⊢
    rw [hreset] at hleft ⊢
    have hp := programmed_reset ready.currentMacAddress ready.feature0
    rw [← resetDevice_success ready.currentMacAddress i.dmaMode ready hleft] at hp
    exact ⟨fun i hi hle => hp.slotOff i hi (Or.inl hle), hp.accepts_iff rfl, hunicast⟩
  | setReceiveFilter f =>
    rw [hardwareStep, Option.ite_none_right_eq_some] at hstep
    obtain ⟨hstarted, heq⟩ := hstep
    cases heq
    intro _ hleft
    have hinv := h hstarted hleft
    exact ⟨slotsBeyondOff_after hinv.slots, accepts_iff_wants hinv.slots, hinv.unicast⟩
  | releaseHardware dmaMode =>
    rw [hardwareStep, Option.ite_none_left_eq_some] at hstep
    obtain ⟨-, heq⟩ := hstep
    cases heq
    intro hstarted
    cases hstarted

/-- **In every state of every run** of a started device that has left reset, the frames let through
are those that the last filter asks for, and the station has an address of its own.  The reset
leaves registers that let through the initial filter, and a request writes all that it asks for,
whatever was there. -/
theorem receiveFilter_exact {d : NetDevice}
    (h : Reach (fun d => ∃ firmware, HardwareStart firmware d) hardwareStep d)
    (hstarted : d.phase = .started) (hleft : d.inReset = false) :
    (∀ dest, accepts d.regs dest ↔ d.filter.Wants d.currentMacAddress d.feature0 dest)
      ∧ ethIsMulticast d.currentMacAddress = false := by
  have hinv : d.phase = .started → d.inReset = false → FilterInv d := by
    refine h.invariant (fun d hd hstarted => ?_) fun d a d' hd => hardwareStep_filterInv hd
    obtain ⟨firmware, hd⟩ := hd
    rw [hd.released] at hstarted
    cases hstarted
  exact ⟨(hinv hstarted hleft).exact, (hinv hstarted hleft).unicast⟩

/-- A device of the firmware, 02:11:22:33:44:55. -/
def coldDevice : NetDevice where
  regs
    | .mac (.macAddressLow 0) => 0x33221102
    | .mac (.macAddressHigh 0) => 0x5544
    | _ => 0
  inReset := false
  binding := ⟨false, none, none, 0⟩
  permanentMacAddress := fun _ => 0
  currentMacAddress := fun _ => 0
  feature0 := 0
  phase := .released
  filter := initialFilter

theorem coldDevice_start : HardwareStart ![0x02, 0x11, 0x22, 0x33, 0x44, 0x55] coldDevice :=
  ⟨by decide, rfl, rfl, rfl, rfl, rfl, rfl⟩

/-- A start of a device with two address registers. -/
def completeStart (resources : List ResourceDesc) : PrepareInput where
  openConfiguration := 0
  linkLayerAddress := none
  resources := resources
  random := fun _ => 0
  macVersion := 0x3051
  feature0 := 0x08094000
  feature1 := 0x00044000
  dmaEnablerCreate := 0
  dmaMode := fun _ => 0
  adapterStart := 0

/-- A station that asks for one group, 01:00:5E:00:00:FB. -/
def oneGroup : ReceiveFilter where
  directed := true
  multicast := true
  allMulticast := false
  broadcast := false
  promiscuous := false
  multicastAddresses := [⟨6, ![0x01, 0x00, 0x5E, 0x00, 0x00, 0xFB]⟩]

theorem receiveFilter_exact_oneGroup : ∃ d : NetDevice, d.filter = oneGroup
    ∧ accepts d.regs ![0x01, 0x00, 0x5E, 0x00, 0x00, 0xFB]
    ∧ ¬ accepts d.regs fun _ => 0xFF := by
  have hcold : Reach (fun d => ∃ firmware, HardwareStart firmware d) hardwareStep coldDevice :=
    .start ⟨_, coldDevice_start⟩
  have hstarted := hcold.after
    (.prepareHardware (completeStart [.memory 0x10000 true, .interrupt 0 true])) rfl trivial
  have hfilter := hstarted.after (.setReceiveFilter oneGroup) rfl trivial
  have hexact := (receiveFilter_exact hfilter (by decide) (by decide)).1
  refine ⟨_, rfl, (hexact _).mpr ?_, fun hbroadcast => ?_⟩
  · exact Or.inr (by
      rw [if_neg (by decide)]
      exact Or.inr (Or.inr (by decide)))
  · rcases (hexact _).mp hbroadcast with hprom | hbroad
    · cases hprom
    · rw [if_pos (by decide)] at hbroad
      cases hbroad

/-! ## 9. The permanent address

The first start reads the address of the firmware out of the register that the driver overwrites
with the current one, and a stop writes it back.  A start that maps the registers and stops before
the address was read breaks this: the stop then writes what the context has, which is zeros if no
start came further before. -/

/-- The start maps the registers and stops before it has read the address. -/
def MapsAndStops (i : PrepareInput) (d : NetDevice) : Prop :=
  ntSuccess i.openConfiguration = true
    ∧ (configureResources i.resources 0 d.binding).2.regsMapped = true
    ∧ ((configureResources i.resources 0 d.binding).1 ≠ none
      ∨ (configureResources i.resources 0 d.binding).2.interrupt = none)

/-- **The steps that keep the address**: a start that stops before it has read it comes after one
that did, and the reset of a stop ends. -/
def Restores (d : NetDevice) : HardwareAction → Prop
  | .prepareHardware i => MapsAndStops i d → d.permanentMacAddress ≠ fun _ => 0
  | .setReceiveFilter _ => True
  | .releaseHardware dmaMode => ∃ k < resetPolls, resetCleared (dmaMode k) = true

/-- Where the address of the firmware is: in the context while the registers are mapped, else in the
device. -/
structure AddressInv (firmware : MacAddress) (d : NetDevice) : Prop where
  context : d.permanentMacAddress = (fun _ => 0) ∨ d.permanentMacAddress = firmware
  mapped : d.binding.regsMapped = true → d.permanentMacAddress = firmware
  unmapped : d.binding.regsMapped = false → stationAddress d.regs = firmware
  released : d.phase = .released → d.binding.regsMapped = false
  started : d.phase = .started → d.binding.regsMapped = true

/-- A start. -/
theorem AddressInv.prepare {firmware : MacAddress} {d : NetDevice} {i : PrepareInput}
    (h : AddressInv firmware d) (hreleased : d.phase = .released)
    (hreads : MapsAndStops i d → d.permanentMacAddress ≠ fun _ => 0) :
    ((prepareHardware i d).2.permanentMacAddress = (fun _ => 0)
        ∨ (prepareHardware i d).2.permanentMacAddress = firmware)
      ∧ ((prepareHardware i d).2.binding.regsMapped = true →
        (prepareHardware i d).2.permanentMacAddress = firmware)
      ∧ ((prepareHardware i d).2.binding.regsMapped = false →
        stationAddress (prepareHardware i d).2.regs = firmware)
      ∧ (ntSuccess (prepareHardware i d).1 = true →
        (prepareHardware i d).2.binding.regsMapped = true) := by
  have hstation : stationAddress d.regs = firmware := h.unmapped (h.released hreleased)
  rcases prepareHardware_cases i d with ⟨heq, hfails, -⟩ | ⟨hopen, status, binding, hres, hcase⟩
  · rw [heq, hfails]
    exact ⟨h.context, h.mapped, h.unmapped, nofun⟩
  have hstops : binding.regsMapped = true → status ≠ none ∨ binding.interrupt = none →
      d.permanentMacAddress = firmware := by
    intro hmapped hstop
    refine h.context.resolve_left (hreads ⟨hopen, ?_⟩)
    rw [hres]
    exact ⟨hmapped, hstop⟩
  rcases hcase with ⟨hsome, hanswer, heq⟩ | ⟨rfl, hdevice⟩
  · obtain ⟨status, rfl⟩ := Option.isSome_iff_exists.mp hsome
    have hfails := configureResources_fails _ _ _ _ _ hres
    rw [hanswer, Option.getD_some, hfails, heq]
    exact ⟨h.context, fun hmapped => hstops hmapped (Or.inl (Option.some_ne_none _)),
      fun _ => hstation, nofun⟩
  rw [hdevice]
  rcases prepareDevice_cases i (configuredAddress i.linkLayerAddress).isSome { d with
      currentMacAddress := (configuredAddress i.linkLayerAddress).getD d.currentMacAddress
      binding } with ⟨hnot, heq, hfails⟩ | ⟨⟨hmapped, -⟩, ⟨heq, -⟩ | heq⟩
  · rw [heq, hfails]
    refine ⟨h.context, fun hmapped => hstops hmapped (Or.inr ?_), fun _ => hstation, nofun⟩
    refine hnot.resolve_left fun hunmapped => ?_
    rw [hunmapped] at hmapped
    cases hmapped
  · rw [heq]
    refine ⟨Or.inr hstation, fun _ => hstation, fun hunmapped => ?_, fun _ => hmapped⟩
    exact absurd (hunmapped.symm.trans hmapped) (by decide)
  · rw [heq]
    refine ⟨Or.inr hstation, fun _ => hstation, fun hunmapped => ?_, fun _ => hmapped⟩
    exact absurd (hunmapped.symm.trans hmapped) (by decide)

/-- One callback. -/
theorem hardwareStep_addressInv {firmware : MacAddress} {d d' : NetDevice} {a : HardwareAction}
    (h : AddressInv firmware d) (hkeeps : Restores d a) (hstep : hardwareStep d a = some d') :
    AddressInv firmware d' := by
  cases a with
  | prepareHardware i =>
    rw [hardwareStep, Option.ite_none_right_eq_some] at hstep
    obtain ⟨hreleased, heq⟩ := hstep
    obtain ⟨hcontext, hmapped, hunmapped, hsuccess⟩ := h.prepare hreleased hkeeps
    cases heq
    refine ⟨hcontext, hmapped, hunmapped, fun hphase => ?_, fun hphase => hsuccess ?_⟩
    · dsimp only at hphase
      split at hphase
      · cases hphase
      · cases hphase
    · dsimp only at hphase
      by_contra hnot
      rw [if_neg hnot] at hphase
      cases hphase
  | setReceiveFilter f =>
    rw [hardwareStep, Option.ite_none_right_eq_some] at hstep
    obtain ⟨hstarted, heq⟩ := hstep
    cases heq
    refine ⟨h.context, h.mapped, fun hunmapped => ?_, h.released, h.started⟩
    exact absurd (hunmapped.symm.trans (h.started hstarted)) (by decide)
  | releaseHardware dmaMode =>
    rw [hardwareStep, Option.ite_none_left_eq_some] at hstep
    obtain ⟨-, heq⟩ := hstep
    cases heq
    cases hmap : d.binding.regsMapped with
    | false =>
      have hrel : releaseHardware dmaMode d = d := by
        rw [releaseHardware, hmap]
        rfl
      rw [hrel]
      exact ⟨h.context, h.mapped, h.unmapped, fun _ => hmap, nofun⟩
    | true =>
      have hperm := h.mapped hmap
      have hstation := stationAddress_resetDevice d.permanentMacAddress dmaMode d hkeeps
      rw [releaseHardware, hmap, if_pos rfl]
      exact ⟨Or.inr hperm, nofun, fun _ => hstation.trans hperm, fun _ => rfl, nofun⟩

/-- **The address of the firmware survives every run whose steps all keep it**: each start that
succeeds has it as the permanent address, and each stop leaves it in the device.  While the
registers are mapped the context has it and otherwise the device, and each step hands it on. -/
theorem permanentMacAddress_restored {firmware : MacAddress} {d : NetDevice}
    (h : ReachIf (HardwareStart firmware) hardwareStep Restores d) :
    (d.phase = .started → d.permanentMacAddress = firmware)
      ∧ (d.phase = .released → stationAddress d.regs = firmware) := by
  have hinv : AddressInv firmware d := by
    refine h.invariant (fun d hd => ?_) fun d a d' hd => hardwareStep_addressInv hd
    refine ⟨Or.inl hd.permanent, fun hmapped => ?_, fun _ => hd.address, fun _ => hd.unmapped,
      fun hstarted => ?_⟩
    · exact absurd (hd.unmapped.symm.trans hmapped) (by decide)
    · rw [hd.released] at hstarted
      cases hstarted
  exact ⟨fun hphase => hinv.mapped (hinv.started hphase),
    fun hphase => hinv.unmapped (hinv.released hphase)⟩

theorem permanentMacAddress_restored_restart : ∃ d : NetDevice, d.phase = .released
    ∧ stationAddress d.regs = ![0x02, 0x11, 0x22, 0x33, 0x44, 0x55] := by
  have hcold : ReachIf (HardwareStart ![0x02, 0x11, 0x22, 0x33, 0x44, 0x55]) hardwareStep Restores
      coldDevice := .start coldDevice_start
  have hstarted := hcold.after
    (.prepareHardware (completeStart [.memory 0x10000 true, .interrupt 0 true])) rfl
    (fun h => absurd h.2.2 (by decide))
  have hfilter := hstarted.after (.setReceiveFilter oneGroup) rfl trivial
  have hreleased := hfilter.after (.releaseHardware fun _ => 0) rfl ⟨0, by decide, by decide⟩
  exact ⟨_, rfl, (permanentMacAddress_restored hreleased).2 rfl⟩

/-- **A start without an interrupt loses the address** of a device whose context has not read it
yet: the stop puts the zeros of the context into the register. -/
example : ((run hardwareStep coldDevice
    [.prepareHardware (completeStart [.memory 0x10000 true]), .releaseHardware fun _ => 0]).map
      fun d => stationAddress d.regs) = some fun _ => 0 := by
  decide

/-! ## 10. The interrupt

The loop over the resources creates an interrupt for the first interrupt resource only.  If there
is none, the context's handle is that of an earlier start, and the test behind the loop does not
notice. -/

/-- What the loop over the resources comes to where it reaches the end. -/
theorem configureResources_interrupt : ∀ (rs : List ResourceDesc) (n : Nat) (b b' : Binding),
    configureResources rs n b = (none, b') →
      (n = 0 ∧ rs.any ResourceDesc.isInterrupt = true
        ∧ b'.interrupt.isSome = true ∧ b'.liveInterrupt = b'.interrupt)
      ∨ ((n ≠ 0 ∨ rs.any ResourceDesc.isInterrupt = false)
        ∧ b'.interrupt = b.interrupt ∧ b'.liveInterrupt = b.liveInterrupt)
  | [], _, _, _, h => by
    cases h
    exact Or.inr ⟨Or.inr rfl, rfl, rfl⟩
  | .memory length mapped :: rest, n, b, b', h => by
    unfold configureResources at h
    simp only [List.any_cons, ResourceDesc.isInterrupt, Bool.false_or]
    split at h
    · exact configureResources_interrupt rest n b b' h
    split at h
    · exact configureResources_interrupt rest n b b' h
    split at h
    · exact configureResources_interrupt rest n { b with regsMapped := true } b' h
    · cases h
  | .interrupt created cleared :: rest, n, b, b', h => by
    unfold configureResources at h
    simp only [List.any_cons, ResourceDesc.isInterrupt, Bool.true_or]
    split at h
    · rename_i hn
      split at h
      · rcases configureResources_interrupt rest _ _ b' h with ⟨hzero, -⟩ | ⟨-, hint, hlive⟩
        · cases hzero
        · exact Or.inl ⟨hn, trivial, by rw [hint]; rfl, by rw [hint, hlive]⟩
      · cases h
    · rename_i hn
      rcases configureResources_interrupt rest _ b b' h with ⟨hzero, -⟩ | ⟨-, hint, hlive⟩
      · cases hzero
      · exact Or.inr ⟨Or.inl hn, hint, hlive⟩
  | .other :: rest, n, b, b', h => by
    simp only [List.any_cons, ResourceDesc.isInterrupt, Bool.false_or]
    exact configureResources_interrupt rest n b b' h

/-- A device that is stopped has no interrupt object. -/
theorem hardwareStep_noLive {d d' : NetDevice} {a : HardwareAction}
    (hstep : hardwareStep d a = some d') : d'.phase = .released → d'.binding.liveInterrupt = none := by
  intro hphase
  cases a with
  | prepareHardware i =>
    rw [hardwareStep, Option.ite_none_right_eq_some] at hstep
    obtain ⟨-, heq⟩ := hstep
    cases heq
    dsimp only at hphase
    split at hphase
    · cases hphase
    · cases hphase
  | setReceiveFilter f =>
    rw [hardwareStep, Option.ite_none_right_eq_some] at hstep
    obtain ⟨hstarted, heq⟩ := hstep
    cases heq
    exact absurd (hphase.symm.trans hstarted) (by decide)
  | releaseHardware dmaMode =>
    rw [hardwareStep, Option.ite_none_left_eq_some] at hstep
    obtain ⟨-, heq⟩ := hstep
    cases heq
    rfl

/-- **A start that succeeds has a live interrupt if and only if its resources have one.**  Without
one it takes the handle that an earlier start has left in the context. -/
theorem prepareHardware_interrupt_iff {d : NetDevice} {i : PrepareInput}
    (h : Reach (fun d => ∃ firmware, HardwareStart firmware d) hardwareStep d)
    (hreleased : d.phase = .released) (hsuccess : ntSuccess (prepareHardware i d).1 = true) :
    (prepareHardware i d).2.binding.interrupt.isSome = true
      ∧ ((prepareHardware i d).2.binding.liveInterrupt = (prepareHardware i d).2.binding.interrupt
        ↔ i.resources.any ResourceDesc.isInterrupt = true)
      ∧ (i.resources.any ResourceDesc.isInterrupt = false →
        (prepareHardware i d).2.binding.interrupt = d.binding.interrupt) := by
  have hlive : d.phase = .released → d.binding.liveInterrupt = none :=
    h.invariant (fun d hd _ => hd.elim fun _ hd => hd.noLive)
      fun d a d' _ hstep => hardwareStep_noLive hstep
  obtain ⟨binding, hres, -, hne, d', rfl, heq⟩ := prepareHardware_success hsuccess
    fun status binding => configureResources_fails i.resources 0 d.binding binding status
  have hbinding : (prepareHardware i d).2.binding = binding := by
    rw [heq]
    rfl
  rw [hbinding]
  refine ⟨Option.isSome_iff_ne_none.mpr hne, ?_⟩
  rcases configureResources_interrupt _ _ _ _ hres with ⟨-, hany, -, hsame⟩ | ⟨hany, hint, hold⟩
  · rw [hany, hsame]
    exact ⟨⟨fun _ => rfl, fun _ => rfl⟩, nofun⟩
  · have hnone := hany.resolve_left (fun hne => hne rfl)
    rw [hnone, hold, hlive hreleased]
    refine ⟨⟨fun hsame => absurd hsame.symm hne, nofun⟩, fun _ => hint⟩

/-- A restart without an interrupt keeps the handle of the first start. -/
theorem prepareHardware_interrupt_iff_stale : ∃ d : NetDevice, d.phase = .released
    ∧ (prepareHardware (completeStart [.memory 0x10000 true]) d).2.binding.interrupt = some 0
    ∧ (prepareHardware (completeStart [.memory 0x10000 true]) d).2.binding.liveInterrupt
      ≠ some 0 := by
  have hcold : Reach (fun d => ∃ firmware, HardwareStart firmware d) hardwareStep coldDevice :=
    .start ⟨_, coldDevice_start⟩
  have hstarted := hcold.after
    (.prepareHardware (completeStart [.memory 0x10000 true, .interrupt 0 true])) rfl trivial
  have hreleased := hstarted.after (.releaseHardware fun _ => 0) rfl trivial
  obtain ⟨-, hiff, hkeeps⟩ := prepareHardware_interrupt_iff
    (i := completeStart [.memory 0x10000 true]) hreleased rfl (by decide)
  have hhandle := (hkeeps rfl).trans rfl
  refine ⟨_, rfl, hhandle, fun hlive => ?_⟩
  exact absurd (hiff.mp (hlive.trans hhandle.symm)) (by decide)

end WoaRk3576.Net
