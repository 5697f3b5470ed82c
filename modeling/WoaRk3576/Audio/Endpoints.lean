/-
# csaudiork3x: the endpoints of the adapter

An endpoint is a topology subdevice and a wave subdevice, each a port with its miniport.
`InstallEndpointFilters` finds the two in the cache of the adapter or makes, registers and caches
them, connects them, and takes back what it made where a step fails.  Every pointer that is handed
around is a reference that somebody has to release, and is entered in a ledger.

`AdapterCall` has the calls of the port driver and of the endpoints, `adapterStep` one call, with
whatever the class driver and the pool answer.  Every status of a function that the adapter calls
is such an answer, so that a statement about all runs is one about all failures, too.

Three things of the source carry the results of the modules behind this one:

* The names are the only keys: a cached subdevice is looked up, and taken out, by its name, and the
  topology and the wave subdevice of one endpoint may have the same.
* `GetFilters` takes a reference of both pointers of a subdevice that it finds, whichever of them
  its caller asked for (`EndpointReferences.lean`).
* Each half of `InstallEndpointFilters` keeps in a flag of its own whether it made a subdevice, and
  the clean-up looks at the flags alone (`EndpointInstall.lean`).

The count of `SetIdlePowerManagement` and what the class driver was told are `EndpointPower.lean`.
-/
import WoaRk3576.Acpi.Evaluation
import WoaRk3576.Lib.Ledger
import WoaRk3576.Lib.Transition

namespace WoaRk3576.Audio

open WoaRk3576.Lib
open WoaRk3576.Acpi (NTSTATUS ntSuccess statusSuccess statusInsufficientResources
  statusBufferOverflow statusObjectNameNotFound)

/-! ## 1. The adapter

The state of the adapter, and with it a ledger of everything that is taken and given back.  The
ledger is an observer: no routine reads it. -/

/-- The address of a port or a miniport. -/
abbrev ObjectId := Nat

/-- What the driver takes: references of the interfaces of an object, and blocks of the pool. -/
inductive EndpointResource
  | port (p : ObjectId)
  | miniport (m : ObjectId)
  /-- `IID_IAdapterPowerManagement` of a miniport. -/
  | power (m : ObjectId)
  /-- `IID_IUnregisterSubdevice`. -/
  | unregisterSubdevice (p : ObjectId)
  /-- `IID_IUnregisterPhysicalConnection`. -/
  | unregisterPhysicalConnection (p : ObjectId)
  /-- `IID_IPortClsPower`. -/
  | portClsPower (p : ObjectId)
  /-- A `MINIPAIR_UNKNOWN`. -/
  | record
  deriving DecidableEq, Repr

/-- A subdevice name, up to its terminator. -/
abbrev SubdeviceName := List (BitVec 16)

def maxPath : Nat := 260

/-- `MINIPAIR_UNKNOWN`. -/
structure MinipairUnknown where
  name : SubdeviceName
  portInterface : ObjectId
  miniportInterface : ObjectId
  /-- `PowerInterface` is set. -/
  powerInterface : Bool
  /-- The name and its terminator fit. -/
  fits : name.length < maxPath
  deriving DecidableEq, Repr

/-- `ENDPOINT_MINIPAIR`, as far as its names. -/
structure EndpointMinipair where
  topoName : SubdeviceName
  waveName : SubdeviceName
  deriving DecidableEq, Repr

/-- A port and its miniport. -/
structure Subdevice where
  port : ObjectId
  miniport : ObjectId
  deriving DecidableEq, Repr

/-- `CAdapterCommon`, the ports that the class driver has registered, the references that callers
were handed, and what was taken and given back. -/
structure AdapterCommon where
  subdeviceCache : List MinipairUnknown
  idleRequests : BitVec 32
  /-- What the class driver was last told; it starts with idle power management on. -/
  idleEnabled : Bool
  registered : List ObjectId
  handed : Multiset EndpointResource
  ledger : List (Entry EndpointResource)

/-- One more entry of the ledger. -/
def AdapterCommon.log (e : Entry EndpointResource) (a : AdapterCommon) : AdapterCommon :=
  { a with ledger := a.ledger ++ [e] }

/-! ## 2. The cache

The cache is a list, and every lookup takes the first record of a name.  A record holds references
of its own, so caching and looking up both add to the ledger. -/

/-- The first record of this name. -/
def AdapterCommon.find (name : SubdeviceName) (a : AdapterCommon) : Option MinipairUnknown :=
  a.subdeviceCache.find? fun record => name = record.name

/-- **`GetCachedSubdevice`**. -/
def getCachedSubdevice (name : SubdeviceName) (a : AdapterCommon) :
    AdapterCommon × NTSTATUS × Option Subdevice :=
  match a.find name with
  | none => (a, statusObjectNameNotFound, none)
  | some record =>
    ((a.log (.take (.port record.portInterface))).log (.take (.miniport record.miniportInterface)),
      statusSuccess, some ⟨record.portInterface, record.miniportInterface⟩)

/-- What the pool answers, and whether the miniport has an `IID_IAdapterPowerManagement`. -/
structure CacheAnswers where
  record : Bool
  powerManagement : Bool
  deriving DecidableEq, Repr

/-- **`CacheSubdevice`**. -/
def cacheSubdevice (name : SubdeviceName) (s : Subdevice) (answers : CacheAnswers)
    (a : AdapterCommon) : AdapterCommon × NTSTATUS :=
  if answers.record = false then (a, statusInsufficientResources)
  else
    let a := a.log (.take .record)
    if fits : name.length < maxPath then
      let a := (a.log (.take (.port s.port))).log (.take (.miniport s.miniport))
      let a := if answers.powerManagement then a.log (.take (.power s.miniport)) else a
      ({ a with subdeviceCache := a.subdeviceCache ++
          [⟨name, s.port, s.miniport, answers.powerManagement, fits⟩] }, statusSuccess)
    else (a.log (.drop .record), statusBufferOverflow)

/-- What `SAFE_RELEASE` and `delete` do to a record. -/
def deleteRecord (record : MinipairUnknown) (a : AdapterCommon) : AdapterCommon :=
  let a := (a.log (.drop (.port record.portInterface))).log
    (.drop (.miniport record.miniportInterface))
  let a := if record.powerInterface then a.log (.drop (.power record.miniportInterface)) else a
  a.log (.drop .record)

/-- **`RemoveCachedSubdevice`**. -/
def removeCachedSubdevice (name : SubdeviceName) (a : AdapterCommon) : AdapterCommon :=
  match a.find name with
  | none => a
  | some record =>
    deleteRecord record
      { a with subdeviceCache := a.subdeviceCache.eraseP fun record => name = record.name }

/-- `EmptySubdeviceCache`: head after head, until the list is empty. -/
def emptySubdeviceCache (a : AdapterCommon) : AdapterCommon :=
  a.subdeviceCache.foldl (fun a record => deleteRecord record a) { a with subdeviceCache := [] }

/-! ## 3. Subdevices

What the class driver answers comes in as an argument of each routine, one field for each call, and
may be any status.  A pointer to an interface is a reference from the moment it is asked for, and
is released on the paths on which the source releases it. -/

/-- What the class driver and the miniport's constructor answer. -/
structure SubdeviceAnswers where
  /-- `CreateAudioInterfaceWithProperties`. -/
  audioInterface : NTSTATUS
  /-- `PcNewPort`. -/
  newPort : NTSTATUS
  port : ObjectId
  /-- `MiniportCreate`. -/
  newMiniport : NTSTATUS
  miniport : ObjectId
  /-- `IPort::Init`. -/
  portInit : NTSTATUS
  /-- `PcRegisterSubdevice`. -/
  registerSubdevice : NTSTATUS
  cache : CacheAnswers
  deriving DecidableEq, Repr

/-- **`InstallSubdevice`**.  An object always has an `IID_IUnknown`. -/
def installSubdevice (answers : SubdeviceAnswers) (a : AdapterCommon) :
    AdapterCommon × NTSTATUS × Option Subdevice :=
  if ntSuccess answers.audioInterface = false then (a, answers.audioInterface, none)
  else if ntSuccess answers.newPort = false then (a, answers.newPort, none)
  else
    let a := a.log (.take (.port answers.port))
    if ntSuccess answers.newMiniport = false then
      (a.log (.drop (.port answers.port)), answers.newMiniport, none)
    else
      let a := a.log (.take (.miniport answers.miniport))
      let release (a : AdapterCommon) :=
        (a.log (.drop (.port answers.port))).log (.drop (.miniport answers.miniport))
      if ntSuccess answers.portInit = false then (release a, answers.portInit, none)
      else if ntSuccess answers.registerSubdevice = false then
        (release a, answers.registerSubdevice, none)
      else
        let a := { a with registered := answers.port :: a.registered }
        let a := (a.log (.take (.port answers.port))).log (.take (.miniport answers.miniport))
        (release a, statusSuccess, some ⟨answers.port, answers.miniport⟩)

/-- What `IID_IUnregisterSubdevice` answers. -/
structure UnregisterAnswers where
  queryInterface : NTSTATUS
  unregisterSubdevice : NTSTATUS
  deriving DecidableEq, Repr

/-- **`UnregisterSubdevice`**. -/
def unregisterSubdevice (port : Option ObjectId) (answers : UnregisterAnswers)
    (a : AdapterCommon) : AdapterCommon :=
  match port with
  | none => a
  | some p =>
    if ntSuccess answers.queryInterface = false then a
    else
      let a := a.log (.take (.unregisterSubdevice p))
      let a := if ntSuccess answers.unregisterSubdevice then
        { a with registered := a.registered.erase p } else a
      a.log (.drop (.unregisterSubdevice p))

/-- `DisconnectTopologies`; no caller looks at what it returns. -/
def disconnectTopologies (topology : ObjectId) (queryInterface : NTSTATUS) (a : AdapterCommon) :
    AdapterCommon :=
  if ntSuccess queryInterface = false then a
  else (a.log (.take (.unregisterPhysicalConnection topology))).log
    (.drop (.unregisterPhysicalConnection topology))

/-- What `PcRegisterPhysicalConnection` answers for each connection, and
`IID_IUnregisterPhysicalConnection`. -/
structure ConnectAnswers where
  registerConnection : List NTSTATUS
  unregisterConnection : NTSTATUS
  deriving DecidableEq, Repr

/-- The loop of `ConnectTopologies`. -/
def connectLoop (ntStatus : NTSTATUS) : List NTSTATUS → NTSTATUS
  | [] => ntStatus
  | answer :: answers => if ntSuccess ntStatus then connectLoop answer answers else ntStatus

/-- **`ConnectTopologies`**. -/
def connectTopologies (topology : ObjectId) (answers : ConnectAnswers) (a : AdapterCommon) :
    AdapterCommon × NTSTATUS :=
  let ntStatus := connectLoop statusSuccess answers.registerConnection
  (if ntSuccess ntStatus then a else disconnectTopologies topology answers.unregisterConnection a,
    ntStatus)

/-! ## 4. The calls

The calls that the endpoints and the port driver make.  What a caller is handed is entered into the
books at the end, where the call has succeeded; before that the routine holds it itself. -/

/-- What the first and the second part of `InstallEndpointFilters` leave: the status, the pointers
and `bTopologyCreated` or `bWaveCreated`. -/
structure Opened where
  ntStatus : NTSTATUS
  subdevice : Option Subdevice
  created : Bool

/-- A subdevice of the cache, or a new one. -/
def openSubdevice (name : SubdeviceName) (answers : SubdeviceAnswers) (a : AdapterCommon) :
    AdapterCommon × Opened :=
  match getCachedSubdevice name a with
  | (a, ntStatus, some s) => (a, ⟨ntStatus, some s, false⟩)
  | (a, _, none) =>
    match installSubdevice answers a with
    | (a, ntStatus, none) => (a, ⟨ntStatus, none, true⟩)
    | (a, _, some s) =>
      match cacheSubdevice name s answers.cache a with
      | (a, ntStatus) => (a, ⟨ntStatus, some s, true⟩)

/-- What a failing `InstallEndpointFilters` does to a subdevice that it made. -/
def closeSubdevice (name : SubdeviceName) (o : Opened) (answers : UnregisterAnswers)
    (a : AdapterCommon) : AdapterCommon :=
  match o.subdevice with
  | some s =>
    if o.created then
      removeCachedSubdevice name (unregisterSubdevice (some s.port) answers a)
    else a
  | none => a

/-- Which pointers the caller asks for. -/
structure Wanted where
  topologyPort : Bool
  topologyMiniport : Bool
  wavePort : Bool
  waveMiniport : Bool
  deriving DecidableEq, Repr

/-- What `AddRef` and an output parameter do for one of the pointers. -/
def handOut (wanted : Bool) (r : EndpointResource) (a : AdapterCommon) : AdapterCommon :=
  if wanted then { a.log (.take r) with handed := r ::ₘ a.handed } else a

/-- What `AddRef` and the output parameters do for a subdevice that is there. -/
def handOutSubdevice (port miniport : Bool) (s : Option Subdevice) (a : AdapterCommon) :
    AdapterCommon :=
  match s with
  | none => a
  | some s => handOut miniport (.miniport s.miniport) (handOut port (.port s.port) a)

/-- `SAFE_RELEASE` of the pointers of a subdevice. -/
def releaseSubdevice (s : Option Subdevice) (a : AdapterCommon) : AdapterCommon :=
  match s with
  | none => a
  | some s => (a.log (.drop (.miniport s.miniport))).log (.drop (.port s.port))

/-- What the class driver answers to `InstallEndpointFilters`. -/
structure InstallAnswers where
  topology : SubdeviceAnswers
  wave : SubdeviceAnswers
  connect : ConnectAnswers
  unregisterTopology : UnregisterAnswers
  unregisterWave : UnregisterAnswers
  deriving DecidableEq, Repr

/-- The connections, where both subdevices are there; else the status stays that of the wave. -/
def connectOpened (topology wave : Opened) (answers : ConnectAnswers) (a : AdapterCommon) :
    AdapterCommon × NTSTATUS :=
  match topology.subdevice, wave.subdevice with
  | some t, some _ => connectTopologies t.port answers a
  | _, _ => (a, wave.ntStatus)

/-- **`InstallEndpointFilters`**.  The status of the wave subdevice takes the place of that of the
topology, and that of the connections the place of both. -/
def installEndpointFilters (pair : EndpointMinipair) (wanted : Wanted) (answers : InstallAnswers)
    (a : AdapterCommon) : AdapterCommon × NTSTATUS :=
  match openSubdevice pair.topoName answers.topology a with
  | (a, topology) =>
    match openSubdevice pair.waveName answers.wave a with
    | (a, wave) =>
      match connectOpened topology wave answers.connect a with
      | (a, ntStatus) =>
        let a :=
          if ntSuccess ntStatus then
            handOutSubdevice wanted.wavePort wanted.waveMiniport wave.subdevice
              (handOutSubdevice wanted.topologyPort wanted.topologyMiniport topology.subdevice a)
          else
            closeSubdevice pair.waveName wave answers.unregisterWave
              (closeSubdevice pair.topoName topology answers.unregisterTopology a)
        (releaseSubdevice wave.subdevice (releaseSubdevice topology.subdevice a), ntStatus)

/-- What the class driver answers to `RemoveEndpointFilters`. -/
structure RemoveAnswers where
  disconnect : NTSTATUS
  wave : UnregisterAnswers
  topology : UnregisterAnswers
  deriving DecidableEq, Repr

/-- **`RemoveEndpointFilters`**. -/
def removeEndpointFilters (pair : EndpointMinipair) (topology wave : Option ObjectId)
    (answers : RemoveAnswers) (a : AdapterCommon) : AdapterCommon :=
  let a := match topology, wave with
    | some t, some _ => disconnectTopologies t answers.disconnect a
    | _, _ => a
  let a := unregisterSubdevice wave answers.wave (removeCachedSubdevice pair.waveName a)
  unregisterSubdevice topology answers.topology (removeCachedSubdevice pair.topoName a)

/-- One half of `GetFilters`, where the caller asks for it: what it finds. -/
def getFilter (wanted : Bool) (name : SubdeviceName) (a : AdapterCommon) :
    AdapterCommon × NTSTATUS × Option Subdevice :=
  if wanted then getCachedSubdevice name a else (a, statusSuccess, none)

/-- What the caller of `GetFilters` is handed of a subdevice that was found. -/
def asked (port miniport : Bool) (s : Option Subdevice) : Multiset EndpointResource :=
  match s with
  | none => 0
  | some s => (if port then {.port s.port} else 0) + if miniport then {.miniport s.miniport} else 0

/-- **`GetFilters`**.  The references are those that the cache has counted; a caller looks at the
output parameters where the call succeeds. -/
def getFilters (pair : EndpointMinipair) (wanted : Wanted) (a : AdapterCommon) :
    AdapterCommon × NTSTATUS × Option Subdevice × Option Subdevice :=
  match getFilter (wanted.topologyPort || wanted.topologyMiniport) pair.topoName a with
  | (a, ntStatus, topology) =>
    if ntSuccess ntStatus = false then (a, ntStatus, topology, none)
    else
      match getFilter (wanted.wavePort || wanted.waveMiniport) pair.waveName a with
      | (a, ntStatus, wave) => (a, ntStatus, topology, wave)

/-- The pointer that `SetIdlePowerManagement` asks `GetFilters` for. -/
def wavePortOnly : Wanted := ⟨false, false, true, false⟩

/-- What `SetIdlePowerManagement` does once it has the `IID_IPortClsPower`. -/
def setIdle (enabled : Bool) (a : AdapterCommon) : AdapterCommon :=
  if enabled then
    let a := { a with idleRequests := a.idleRequests - 1 }
    if a.idleRequests = 0 then { a with idleEnabled := true } else a
  else
    let a := if a.idleRequests = 0 then { a with idleEnabled := false } else a
    { a with idleRequests := a.idleRequests + 1 }

/-- **`SetIdlePowerManagement`**. -/
def setIdlePowerManagement (pair : EndpointMinipair) (enabled : Bool) (queryInterface : NTSTATUS)
    (a : AdapterCommon) : AdapterCommon :=
  match getFilters pair wavePortOnly a with
  | (a, _, _, none) => a
  | (a, _, _, some wave) =>
    if ntSuccess queryInterface = false then a.log (.drop (.port wave.port))
    else
      let a := setIdle enabled (a.log (.take (.portClsPower wave.port)))
      (a.log (.drop (.port wave.port))).log (.drop (.portClsPower wave.port))

/-! ## 5. Runs

A run is a list of calls with the answers of the class driver to each.  The callers are part of it:
they may release what they were handed at any time, and a release of anything else is no step. -/

/-- The calls of the port driver and of the endpoints. -/
inductive AdapterCall
  | installEndpointFilters (pair : EndpointMinipair) (wanted : Wanted) (answers : InstallAnswers)
  | removeEndpointFilters (pair : EndpointMinipair) (topology wave : Option ObjectId)
      (answers : RemoveAnswers)
  | getFilters (pair : EndpointMinipair) (wanted : Wanted)
  | setIdlePowerManagement (pair : EndpointMinipair) (enabled : Bool) (queryInterface : NTSTATUS)
  /-- A caller releases a pointer that it was handed. -/
  | release (r : EndpointResource)
  | cleanup

/-- One call. -/
def adapterStep (a : AdapterCommon) : AdapterCall → Option AdapterCommon
  | .installEndpointFilters pair wanted answers =>
    some (installEndpointFilters pair wanted answers a).1
  | .removeEndpointFilters pair topology wave answers =>
    some (removeEndpointFilters pair topology wave answers a)
  | .getFilters pair wanted =>
    match getFilters pair wanted a with
    | (a, ntStatus, topology, wave) =>
      some (if ntSuccess ntStatus then
        { a with handed := asked wanted.topologyPort wanted.topologyMiniport topology
            + (asked wanted.wavePort wanted.waveMiniport wave + a.handed) } else a)
  | .setIdlePowerManagement pair enabled queryInterface =>
    some (setIdlePowerManagement pair enabled queryInterface a)
  | .release r =>
    if r ∈ a.handed then some { a.log (.drop r) with handed := a.handed.erase r } else none
  | .cleanup => some (emptySubdeviceCache a)

/-- The adapter after `Init`.  The class driver, which was told nothing yet, has idle power
management on. -/
structure AdapterStart (a : AdapterCommon) : Prop where
  cache : a.subdeviceCache = []
  idleRequests : a.idleRequests = 0
  idleEnabled : a.idleEnabled = true
  registered : a.registered = []
  handed : a.handed = 0
  ledger : a.ledger = []

end WoaRk3576.Audio
