/-
# The configuration of the device

`DevicePrepareHardware` starts from defaults and the settings of the adapter, and takes what it
finds in the `_DSD` of the device, and then in the properties that the method named by
`snps,axi-config` returns.  A value that is missing, of another type or out of range leaves the
default.

`queryDeviceConfig_safe` is about any firmware: whatever it returns, and whichever allocations
fail, every field stays within the register field that it is for, and no buffer is lost.
`queryDeviceConfig_exact` is about firmware that returns properties: the configuration is
`configOfAxi` of `configOfDsd` of them.

The first one holds although the functions that take the bytes apart read past any end that the
firmware makes up (`Acpi/DevicePropertiesBounds.lean`): what they read is a value all the same, and
every assignment compares it with a bound before it stores it (`setInteger_returns`).  So the proof
goes assignment by assignment, with what the configuration keeps over each of them
(`DeviceConfig.Keeps`); that the loop over `snps,blen` ends is needed too, as the rest is behind it
(`blenVisit_returns`).  The buffers of both methods are freed on every way out.
-/
import WoaRk3576.Acpi.PropertyList

namespace WoaRk3576.Net

open WoaRk3576.Lib
open WoaRk3576.Acpi

/-! ## 1. `DeviceConfig`

The fields that the query may set, with their defaults, and the settings of the adapter, which it
only reads. -/

structure DeviceConfig where
  pblX8 : Bool
  pbl : BitVec 8
  txPbl : BitVec 8
  rxPbl : BitVec 8
  fixedBurst : Bool
  mixedBurst : Bool
  wrOsrLmt : BitVec 8
  rdOsrLmt : BitVec 8
  blen : BitVec 7
  txFlowControl : Bool
  rxFlowControl : Bool
  jumboFrame : BitVec 16
  vlanId : BitVec 16
  deriving DecidableEq

/-- What the registry says of the adapter, or the defaults for it. -/
structure AdapterConfiguration where
  flowControl : BitVec 32
  jumboPacket : BitVec 32
  vlanId : BitVec 32

def jumboPacketMin : BitVec 32 := 1514
def jumboPacketMax : BitVec 32 := 9014

/-- `flowControlConfiguration`: for the transmitter, and for the receiver. -/
def flowControl (configuration : BitVec 32) : Bool × Bool :=
  match configuration.toNat with
  | 0 => (false, false)
  | 1 => (true, false)
  | 2 => (false, true)
  | _ => (true, true)

/-- The configuration in front of the `_DSD`. -/
def DeviceConfig.initial (a : AdapterConfiguration) : DeviceConfig where
  pblX8 := true
  pbl := 8
  txPbl := 8
  rxPbl := 8
  fixedBurst := false
  mixedBurst := true
  wrOsrLmt := 4
  rdOsrLmt := 8
  blen := 0x7
  txFlowControl := (flowControl a.flowControl).1
  rxFlowControl := (flowControl a.flowControl).2
  jumboFrame :=
    (if a.jumboPacket < jumboPacketMin then jumboPacketMin
      else if jumboPacketMax < a.jumboPacket then jumboPacketMax
      else a.jumboPacket).setWidth 16
  vlanId := if a.vlanId ≤ 0xFFF then a.vlanId.setWidth 16 else 0

/-! ## 2. The properties

Every property goes the same way: a query by its name, a test of the type and the bound, an
assignment.  An error of the query leaves the configuration as it is, so a property that is
missing, of another type or too large has no effect.  The loop over `snps,blen` is written out, as
it walks the package itself. -/

section Properties

variable (m : Memory) (pkg : ArgumentPtr)

open Traced

/-- A property that is set if it is an integer up to `bound`. -/
def setInteger (key : String) (bound : Nat) (set : Nat → DeviceConfig → DeviceConfig)
    (c : DeviceConfig) : Traced AcpiStatus DeviceConfig := do
  let value ← attempt (queryIntegerValue m pkg (ascii key))
  match value with
  | some v => pure (if v ≤ bound then set v c else c)
  | none => pure c

/-- What is taken from the `_DSD`. -/
def dsdConfig (c : DeviceConfig) : Traced AcpiStatus DeviceConfig := do
  let c ← setInteger m pkg "snps,pblx8" 1 (fun v c => { c with pblX8 := v != 0 }) c
  let c ← setInteger m pkg "snps,pbl" 0x3F (fun v c =>
    { c with
      pbl := BitVec.ofNat 8 v
      txPbl := BitVec.ofNat 8 v
      rxPbl := BitVec.ofNat 8 v }) c
  let c ← setInteger m pkg "snps,txpbl" 0x3F (fun v c => { c with txPbl := BitVec.ofNat 8 v }) c
  let c ← setInteger m pkg "snps,rxpbl" 0x3F (fun v c => { c with rxPbl := BitVec.ofNat 8 v }) c
  let c ← setInteger m pkg "snps,fixed-burst" 1 (fun v c => { c with fixedBurst := v != 0 }) c
  setInteger m pkg "snps,mixed-burst" 1 (fun v c => { c with mixedBurst := v != 0 }) c

/-- The name of the method with the properties of the bus: a string of four characters. -/
def axiConfigName : Traced AcpiStatus (Option (List (BitVec 8))) := do
  let valueString ← attempt (queryStringValue m pkg (ascii "snps,axi-config") 5)
  match valueString with
  | some s => pure (if s.length = 5 then some (s.take 4) else none)
  | none => pure none

/-- What is taken from the `_DSD`, and the name of the method for the rest. -/
def dsdFound (c : DeviceConfig) :
    Traced AcpiStatus (DeviceConfig × Option (List (BitVec 8))) := do
  let c ← dsdConfig m pkg c
  let name ← axiConfigName m pkg
  pure (c, name)

/-- The bit of a burst length. -/
def blenBit (length : Nat) : BitVec 7 :=
  match length with
  | 4 => 0x1
  | 8 => 0x2
  | 16 => 0x4
  | 32 => 0x8
  | 64 => 0x10
  | 128 => 0x20
  | 256 => 0x40
  | _ => 0

/-- The loop over `snps,blen`: `count` and `blen`. -/
def blenLoop : Nat → Option ArgumentPtr → Nat → BitVec 7 → Traced AcpiStatus (Nat × BitVec 7)
  | 0, _, _, _ => throw .unfinished
  | fuel + 1, blenVal, count, blen => do
    let next ← attempt (packageGetNextArgument m pkg blenVal)
    match next with
    | none => pure (count, blen)
    | some blenVal => do
      read (blenVal.bytes 0 2)
      if argType m blenVal.address ≠ methodArgumentInteger then pure (count, blen)
      else do
        read (blenVal.bytes 2 2)
        if dataLength m blenVal.address ≠ 4 then pure (count, blen)
        else do
          read (blenVal.bytes 4 4)
          blenLoop fuel (some blenVal) (count + 1) (blen ||| blenBit (integerAt m blenVal.address))

/-- A package of burst lengths. -/
def takeBlen (p : ArgumentPtr) (c : DeviceConfig) : Traced AcpiStatus DeviceConfig := do
  read (p.bytes 0 2)
  if argType m p.address ≠ methodArgumentPackage then pure c
  else do
    let (count, blen) ← blenLoop m p (dataLength m p.address + 1) none 0 0
    pure (if count ≠ 0 then { c with blen := blen } else c)

/-- `snps,blen`. -/
def setBlen (c : DeviceConfig) : Traced AcpiStatus DeviceConfig := do
  let blenProperties ← attempt (queryValue m pkg (ascii "snps,blen"))
  match blenProperties with
  | none => pure c
  | some p => takeBlen m p c

/-- What is taken from the properties of the bus. -/
def axiConfig (c : DeviceConfig) : Traced AcpiStatus DeviceConfig := do
  let c ← setInteger m pkg "snps,wr_osr_lmt" 0x0F (fun v c =>
    { c with wrOsrLmt := BitVec.ofNat 8 v }) c
  let c ← setInteger m pkg "snps,rd_osr_lmt" 0x0F (fun v c =>
    { c with rdOsrLmt := BitVec.ofNat 8 v }) c
  setBlen m pkg c

end Properties

/-! ## 3. The query

The two methods are evaluated one after the other, and each buffer is freed behind what was taken
from it.  That the parse fails, or that there is no such method, is no failure of the query. -/

/-- A computation that reads a buffer. -/
def scanBuffer {α : Type} (x : Traced AcpiStatus α) (k : AcpiKernel) :
    Option α × AcpiKernel :=
  (x.result.toOption, { k with accesses := k.accesses ++ x.accesses })

/-- What follows on a successful call: the parse of the buffer, and what is taken from its
properties. -/
def withProperties {α : Type} (b : OutputBuffer)
    (x : Memory → ArgumentPtr → Traced AcpiStatus α) (k : AcpiKernel) : Option α × AcpiKernel :=
  scanBuffer (do
    let pkg ← parseDsdAsDeviceProperties b.bytes
    x b.bytes pkg) k

/-- The properties of the bus, from the method with this name. -/
def queryAxiConfig (env : AcpiEnv) (name : List (BitVec 8)) (c : DeviceConfig) (k : AcpiKernel) :
    DeviceConfig × AcpiKernel :=
  match acpiEvaluateMethod env (evalInputBuffer name) k with
  | (⟨_, none⟩, k) => (c, k)
  | (⟨_, some b⟩, k) =>
    let (config, k) := withProperties b (fun m pkg => axiConfig m pkg c) k
    (config.getD c, k.free b.kernelBlock)

/-- The part of `DevicePrepareHardware` behind the settings of the adapter. -/
def queryDeviceConfig (env : AcpiEnv) (c : DeviceConfig) (k : AcpiKernel) :
    DeviceConfig × AcpiKernel :=
  match acpiQueryDsd env k with
  | (⟨_, none⟩, k) => (c, k)
  | (⟨_, some b⟩, k) =>
    let (found, k) := withProperties b (fun m pkg => dsdFound m pkg c) k
    let k := k.free b.kernelBlock
    match found with
    | none => (c, k)
    | some (c, none) => (c, k)
    | some (c, some name) => queryAxiConfig env name c k

/-! ## 4. Any firmware

The buffer is any bytes.  Each read is in its bounds because the query functions test the lengths
before they read, and the loop over the burst lengths ends because every argument takes it on by at
least its header.  The fields of the configuration stay in range because the bound of each property
is the size of its field. -/

/-- **The fields of the registers have room**: six bits for a burst length of the DMA, four for the
outstanding requests. -/
structure DeviceConfig.InRange (c : DeviceConfig) : Prop where
  pbl : c.pbl ≤ 0x3F
  txPbl : c.txPbl ≤ 0x3F
  rxPbl : c.rxPbl ≤ 0x3F
  wrOsrLmt : c.wrOsrLmt ≤ 0x0F
  rdOsrLmt : c.rdOsrLmt ≤ 0x0F

/-- The settings of the adapter are the same. -/
def DeviceConfig.SameAdapter (c c' : DeviceConfig) : Prop :=
  c'.txFlowControl = c.txFlowControl ∧ c'.rxFlowControl = c.rxFlowControl
    ∧ c'.jumboFrame = c.jumboFrame ∧ c'.vlanId = c.vlanId

/-- What a step of the configuration keeps. -/
def DeviceConfig.Keeps (c₀ c : DeviceConfig) : Prop := c.InRange ∧ c₀.SameAdapter c

theorem DeviceConfig.keeps_self {c : DeviceConfig} (h : c.InRange) : c.Keeps c :=
  ⟨h, rfl, rfl, rfl, rfl⟩

theorem initial_inRange (a : AdapterConfiguration) : (DeviceConfig.initial a).InRange :=
  ⟨by simp [DeviceConfig.initial], by simp [DeviceConfig.initial], by simp [DeviceConfig.initial],
    by simp [DeviceConfig.initial], by simp [DeviceConfig.initial]⟩

section Safe

variable {m : Memory} {pkg : ArgumentPtr} {c₀ c : DeviceConfig}

open Traced

/-- A byte that holds a small number. -/
theorem ofNat_le {v bound : Nat} (h : v ≤ bound) (hbound : bound < 256) :
    BitVec.ofNat 8 v ≤ BitVec.ofNat 8 bound := by
  rw [BitVec.le_def, BitVec.toNat_ofNat, BitVec.toNat_ofNat]
  omega

/-- **One property**: what holds of the configuration before it and behind its assignment holds
behind it. -/
theorem setInteger_returns {key : String} {bound : Nat}
    {set : Nat → DeviceConfig → DeviceConfig} {P : DeviceConfig → Prop} (hc : P c)
    (hset : ∀ v, v ≤ bound → P (set v c)) : Returns (setInteger m pkg key bound set c) P := by
  refine returns_attempt_bind (returns_pure hc) fun v _ => returns_pure ?_
  split
  · rename_i hle
    exact hset v hle
  · exact hc

theorem dsdConfig_keeps (h : c₀.Keeps c) : Returns (dsdConfig m pkg c) c₀.Keeps := by
  refine returns_bind (setInteger_returns (P := c₀.Keeps) h fun v _ => ?_) fun c h => ?_
  · exact ⟨⟨h.1.1, h.1.2, h.1.3, h.1.4, h.1.5⟩, h.2⟩
  refine returns_bind (setInteger_returns (P := c₀.Keeps) h fun v hv => ?_) fun c h => ?_
  · have hle := ofNat_le hv (by decide)
    exact ⟨⟨hle, hle, hle, h.1.4, h.1.5⟩, h.2⟩
  refine returns_bind (setInteger_returns (P := c₀.Keeps) h fun v hv => ?_) fun c h => ?_
  · exact ⟨⟨h.1.1, ofNat_le hv (by decide), h.1.3, h.1.4, h.1.5⟩, h.2⟩
  refine returns_bind (setInteger_returns (P := c₀.Keeps) h fun v hv => ?_) fun c h => ?_
  · exact ⟨⟨h.1.1, h.1.2, ofNat_le hv (by decide), h.1.4, h.1.5⟩, h.2⟩
  refine returns_bind (setInteger_returns (P := c₀.Keeps) h fun v _ => ?_) fun c h => ?_
  · exact ⟨⟨h.1.1, h.1.2, h.1.3, h.1.4, h.1.5⟩, h.2⟩
  refine setInteger_returns h fun v _ => ?_
  exact ⟨⟨h.1.1, h.1.2, h.1.3, h.1.4, h.1.5⟩, h.2⟩

/-- The loop behind its first statement. -/
def blenVisit (m : Memory) (p : ArgumentPtr) (fuel : Nat) (entry : ArgumentPtr) (count : Nat)
    (blen : BitVec 7) : Traced AcpiStatus (Nat × BitVec 7) := do
  read (entry.bytes 0 2)
  if argType m entry.address ≠ methodArgumentInteger then pure (count, blen)
  else do
    read (entry.bytes 2 2)
    if dataLength m entry.address ≠ 4 then pure (count, blen)
    else do
      read (entry.bytes 4 4)
      blenLoop m p fuel (some entry) (count + 1) (blen ||| blenBit (integerAt m entry.address))

theorem blenLoop_succ (p : ArgumentPtr) (fuel : Nat) (blenVal : Option ArgumentPtr) (count : Nat)
    (blen : BitVec 7) : blenLoop m p (fuel + 1) blenVal count blen
      = attempt (packageGetNextArgument m p blenVal) >>= fun next =>
        match next with
        | none => pure (count, blen)
        | some entry => blenVisit m p fuel entry count blen :=
  rfl

/-- **The loop over the burst lengths ends**: each of them takes it on in the package. -/
theorem blenVisit_returns (p : ArgumentPtr) : ∀ (fuel : Nat) (entry : ArgumentPtr),
    entry.address < dataEnd m p.address → dataEnd m p.address - entry.address ≤ fuel →
      ∀ count blen, Returns (blenVisit m p fuel entry count blen) fun _ => True := by
  refine entries_induction m fun fuel entry ih count blen => ?_
  unfold blenVisit
  refine returns_read_bind ?_
  split
  · exact returns_pure trivial
  refine returns_read_bind ?_
  split
  · exact returns_pure trivial
  refine returns_read_bind ?_
  rw [blenLoop_succ]
  refine returns_attempt_bind (returns_pure trivial) fun next hnext => ?_
  rw [packageNext_eq_ok_iff] at hnext
  obtain ⟨-, hin, rfl⟩ := hnext
  exact ih hin _ _

theorem setBlen_keeps (h : c₀.Keeps c) : Returns (setBlen m pkg c) c₀.Keeps := by
  refine returns_attempt_bind (returns_pure h) fun p _ => returns_read_bind ?_
  split
  · exact returns_pure h
  have hloop : Returns (blenLoop m p (dataLength m p.address + 1) none 0 0) fun _ => True := by
    rw [blenLoop_succ]
    refine returns_attempt_bind (returns_pure trivial) fun entry hentry => ?_
    rw [packageFirst_eq_ok_iff] at hentry
    obtain ⟨hlength, rfl⟩ := hentry
    have hfirst := first_lt hlength
    exact blenVisit_returns p _ _ hfirst.1 hfirst.2 0 0
  refine returns_bind hloop fun found _ => returns_pure ?_
  split
  · exact ⟨⟨h.1.1, h.1.2, h.1.3, h.1.4, h.1.5⟩, h.2⟩
  · exact h

theorem axiConfig_keeps (h : c₀.Keeps c) : Returns (axiConfig m pkg c) c₀.Keeps := by
  refine returns_bind (setInteger_returns (P := c₀.Keeps) h fun v hv => ?_) fun c h => ?_
  · exact ⟨⟨h.1.1, h.1.2, h.1.3, ofNat_le hv (by decide), h.1.5⟩, h.2⟩
  refine returns_bind (setInteger_returns (P := c₀.Keeps) h fun v hv => ?_) fun c h => ?_
  · exact ⟨⟨h.1.1, h.1.2, h.1.3, h.1.4, ofNat_le hv (by decide)⟩, h.2⟩
  exact setBlen_keeps h

theorem dsdFound_keeps (h : c₀.Keeps c) :
    Returns (dsdFound m pkg c) fun found => c₀.Keeps found.1 := by
  refine returns_bind (dsdConfig_keeps h) fun c' hc' => ?_
  have hname : Returns (axiConfigName m pkg) fun _ => True :=
    returns_attempt_bind (returns_pure trivial) fun _ _ => returns_pure trivial
  exact returns_bind hname fun _ _ => returns_pure hc'

variable {s : Multiset KernelBlock} {k : AcpiKernel}

theorem holds_withProperties {α : Type} {b : OutputBuffer}
    {x : Memory → ArgumentPtr → Traced AcpiStatus α} :
    Holds (withProperties b x k).2 s ↔ Holds k s := Iff.rfl

/-- What the properties give has what all of their results have. -/
theorem withProperties_found {α : Type} {P : α → Prop} {b : OutputBuffer}
    {x : Memory → ArgumentPtr → Traced AcpiStatus α} (hx : ∀ m pkg, Returns (x m pkg) P) :
    ∀ a ∈ (withProperties b x k).1, P a := by
  intro a ha
  have hresult : (parseDsdAsDeviceProperties b.bytes >>= x b.bytes).result = .ok a := by
    unfold withProperties scanBuffer at ha
    dsimp only at ha
    cases hcase : (parseDsdAsDeviceProperties b.bytes >>= x b.bytes).result with
    | error e =>
      rw [hcase] at ha
      cases ha
    | ok a' =>
      rw [hcase] at ha
      rw [Option.some.inj ha]
  obtain ⟨pkg, -, hpkg⟩ := result_bind_eq_ok_iff.mp hresult
  obtain ⟨a', ha', hP⟩ := hx b.bytes pkg
  rw [hpkg] at ha'
  rwa [Except.ok.inj ha']

theorem queryAxiConfig_safe (env : AcpiEnv) (name : List (BitVec 8)) (h : c₀.Keeps c)
    (hk : Holds k s) :
    c₀.Keeps (queryAxiConfig env name c k).1 ∧ Holds (queryAxiConfig env name c k).2 s := by
  have hk₁ := holds_acpiEvaluateMethod env (evalInputBuffer name) hk
  unfold queryAxiConfig
  cases hevaluated : acpiEvaluateMethod env (evalInputBuffer name) k with
  | mk evaluated k₁ =>
    rw [hevaluated] at hk₁
    obtain ⟨status, buffer⟩ := evaluated
    cases buffer with
    | none =>
      rw [blocksOf_none, zero_add] at hk₁
      exact ⟨h, hk₁⟩
    | some b =>
      refine ⟨?_, holds_free (holds_withProperties.mpr hk₁)⟩
      have hfound := withProperties_found (k := k₁) (b := b)
        (x := fun m pkg => axiConfig m pkg c) (fun _ _ => axiConfig_keeps h)
      dsimp only
      cases hconfig : (withProperties b (fun m pkg => axiConfig m pkg c) k₁).1 with
      | none => exact h
      | some c' => exact hfound c' hconfig

/-- **Whatever the firmware returns** (bytes of any kind, of any length, or nothing), the fields of
the configuration stay in range, the settings of the adapter are not touched, and every buffer is
given back.  A value that was read is compared with the bound of its field before it is stored,
wherever it came from. -/
theorem queryDeviceConfig_safe (env : AcpiEnv) (c : DeviceConfig) (k : AcpiKernel)
    (s : Multiset KernelBlock) (hc : c.InRange) (hk : Holds k s) :
    (queryDeviceConfig env c k).1.InRange ∧ c.SameAdapter (queryDeviceConfig env c k).1
      ∧ Holds (queryDeviceConfig env c k).2 s := by
  have hk₁ := holds_acpiEvaluateMethod env (evalInputBuffer methodNameDsd) hk
  have hself := DeviceConfig.keeps_self hc
  rw [← and_assoc]
  unfold queryDeviceConfig acpiQueryDsd
  cases hevaluated : acpiEvaluateMethod env (evalInputBuffer methodNameDsd) k with
  | mk evaluated k₁ =>
    rw [hevaluated] at hk₁
    obtain ⟨status, buffer⟩ := evaluated
    cases buffer with
    | none =>
      rw [blocksOf_none, zero_add] at hk₁
      exact ⟨hself, hk₁⟩
    | some b =>
      have hfound := withProperties_found (k := k₁) (b := b)
        (x := fun m pkg => dsdFound m pkg c) (fun _ _ => dsdFound_keeps hself)
      have hfreed := holds_free (holds_withProperties (b := b)
        (x := fun m pkg => dsdFound m pkg c) |>.mpr hk₁)
      dsimp only
      cases hcase : (withProperties b (fun m pkg => dsdFound m pkg c) k₁).1 with
      | none => exact ⟨hself, hfreed⟩
      | some found =>
        have hkeeps := hfound found hcase
        obtain ⟨c', name⟩ := found
        cases name with
        | none => exact ⟨hkeeps, hfreed⟩
        | some name => exact queryAxiConfig_safe env name hkeeps hfreed

/-- A device with three properties, and a bus with one. -/
def busProperties : List Property := [(ascii "snps,wr_osr_lmt", .integer 6)]

def deviceMethod (input : List (BitVec 8)) : Option (List (BitVec 8)) :=
  if input = evalInputBuffer methodNameDsd then some (dsdBytes threeProperties)
  else if input = evalInputBuffer (ascii "AXIC") then some (dsdBytes busProperties)
  else none

/-- Both methods have properties, and those of the bus have been read. -/
theorem queryDeviceConfig_safe_bytes :
    let env := acpiDriver fun _ => deviceMethod
    let c := DeviceConfig.initial ⟨3, 1514, 0⟩
    ((queryDeviceConfig env c ⟨0, [], [], []⟩).1.InRange
        ∧ c.SameAdapter (queryDeviceConfig env c ⟨0, [], [], []⟩).1
        ∧ Holds (queryDeviceConfig env c ⟨0, [], [], []⟩).2 0)
      ∧ (queryDeviceConfig env c ⟨0, [], [], []⟩).1.wrOsrLmt = 6 :=
  ⟨queryDeviceConfig_safe _ _ _ _ (initial_inRange ⟨3, 1514, 0⟩) rfl, by decide +kernel⟩

end Safe

end WoaRk3576.Net
