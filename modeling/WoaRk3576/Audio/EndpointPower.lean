/-
# csaudiork3x: idle power management of the endpoints

Each endpoint asks for idle power management to be switched off and on in pairs.  The adapter
counts the requests that are granted, and passes the first one and the last one on to the class
driver.

`idlePower_agrees`: the class driver was told to switch it off exactly as long as a request has no
partner.

Only `SetIdlePowerManagement` touches the count and what the class driver was told, and only where
the request is granted; each of the other calls is shown to leave both alone (`adapterStep_idle`).
A run therefore comes to a fold of `requestIdle` over its granted requests (`run_idle`), and the
fold keeps the count at the number of requests without a partner, with the class driver told to
switch it on just at zero (`foldl_requestIdle`).

Two things are assumed.  The class driver starts with idle power management on, before it is told
anything (`AdapterStart.idleEnabled`): the first request that the adapter passes on is to switch it
off.  And the granted requests are paired: an endpoint that switches it on once too often makes the
count wrap around.
-/
import WoaRk3576.Audio.EndpointInstall

namespace WoaRk3576.Audio

open WoaRk3576.Lib
open WoaRk3576.Acpi (NTSTATUS ntSuccess statusSuccess)

/-! ## 1. Requests

The count of an adapter is reduced to the requests that reach it.  A run gives a list of granted
requests, and that they come in pairs is a condition on the list alone: no request to switch it on
comes before its partner, and there are never 2 ^ 32 without one. -/

/-- The count of the requests and what the class driver was told. -/
def AdapterCommon.idle (a : AdapterCommon) : BitVec 32 × Bool := (a.idleRequests, a.idleEnabled)

/-- The requests of `SetIdlePowerManagement` that are granted: the endpoint is cached and its port
has an `IID_IPortClsPower`. -/
def granted (a : AdapterCommon) : AdapterCall → List Bool
  | .setIdlePowerManagement pair enabled queryInterface =>
    if (a.cached pair.waveName).isSome && ntSuccess queryInterface then [enabled] else []
  | _ => []

/-- Those of a run, in their order. -/
def grantedAlong : AdapterCommon → List AdapterCall → List Bool
  | _, [] => []
  | a, call :: calls =>
    granted a call ++ match adapterStep a call with
      | none => []
      | some b => grantedAlong b calls

/-- **Requests in pairs**, where `open` requests to switch it off have no partner yet: one to switch
it on has a partner, and the count has 32 bits. -/
def Paired : Nat → List Bool → Prop
  | _, [] => True
  | unpaired, false :: requests => unpaired + 1 < 2 ^ 32 ∧ Paired (unpaired + 1) requests
  | unpaired, true :: requests => 0 < unpaired ∧ Paired (unpaired - 1) requests

/-- What `setIdle` does to the count and to the class driver. -/
def requestIdle (p : BitVec 32 × Bool) (enabled : Bool) : BitVec 32 × Bool :=
  if enabled then (p.1 - 1, if p.1 - 1 = 0 then true else p.2)
  else (p.1 + 1, if p.1 = 0 then false else p.2)

/-! ## 2. What the calls do to the count

No call but `SetIdlePowerManagement` touches the count, and that one only through the class driver
of the endpoint that it finds.  An induction over the requests then says that the count is the
number of those without a partner; the class driver is told only at the change from and to 0. -/

section Idle

variable (a : AdapterCommon)

theorem setIdle_idle (enabled : Bool) : (setIdle enabled a).idle = requestIdle a.idle enabled := by
  unfold setIdle requestIdle AdapterCommon.idle
  cases enabled with
  | true =>
    simp only [if_true]
    split
    · rfl
    · rfl
  | false =>
    simp only [Bool.false_eq_true, if_false]
    split
    · rfl
    · rfl

@[simp]
theorem disconnectTopologies_idle (topology : ObjectId) (queryInterface : NTSTATUS) :
    (disconnectTopologies topology queryInterface a).idle = a.idle := by
  unfold disconnectTopologies
  split
  · rfl
  · rfl

@[simp]
theorem removeCachedSubdevice_idle (name : SubdeviceName) :
    (removeCachedSubdevice name a).idle = a.idle := by
  rw [removeCachedSubdevice_same]
  rfl

@[simp]
theorem unregisterSubdevice_idle (port : Option ObjectId) (answers : UnregisterAnswers) :
    (unregisterSubdevice port answers a).idle = a.idle := by
  unfold unregisterSubdevice
  cases port with
  | none => rfl
  | some p =>
    dsimp only
    split
    · rfl
    · split
      · rfl
      · rfl

@[simp]
theorem closeSubdevice_idle (name : SubdeviceName) (o : Opened) (answers : UnregisterAnswers) :
    (closeSubdevice name o answers a).idle = a.idle := by
  unfold closeSubdevice
  cases o.subdevice with
  | none => rfl
  | some s =>
    dsimp only
    split
    · simp
    · rfl

@[simp]
theorem handOutSubdevice_idle (port miniport : Bool) (s : Option Subdevice) :
    (handOutSubdevice port miniport s a).idle = a.idle := by
  have hone : ∀ (wanted : Bool) (r : EndpointResource) (b : AdapterCommon),
      (handOut wanted r b).idle = b.idle := by
    intro wanted r b
    cases wanted with
    | false => rfl
    | true => rfl
  cases s with
  | none => rfl
  | some s => exact (hone _ _ _).trans (hone _ _ _)

@[simp]
theorem releaseSubdevice_idle (s : Option Subdevice) : (releaseSubdevice s a).idle = a.idle := by
  obtain ⟨es, h⟩ := releaseSubdevice_same a s
  rw [h]
  rfl

theorem emptySubdeviceCache_idle : (emptySubdeviceCache a).idle = a.idle := by
  have hloop : ∀ (cache : List MinipairUnknown) (b : AdapterCommon),
      (cache.foldl (fun a record => deleteRecord record a) b).idle = b.idle := by
    intro cache
    induction cache with
    | nil => exact fun _ => rfl
    | cons record cache ih =>
      intro b
      rw [List.foldl_cons, ih, deleteRecord_same]
      rfl
  exact hloop _ _

theorem installEndpointFilters_idle (pair : EndpointMinipair) (wanted : Wanted)
    (answers : InstallAnswers) :
    (installEndpointFilters pair wanted answers a).1.idle = a.idle := by
  have hopen : ∀ (name : SubdeviceName) (answers : SubdeviceAnswers) (b : AdapterCommon),
      (openSubdevice name answers b).1.idle = b.idle := by
    intro name answers b
    obtain ⟨records, hopens⟩ := openSubdevice_opens b name answers
    rw [hopens.same]
    rfl
  have hboth : (openSubdevice pair.waveName answers.wave
      (openSubdevice pair.topoName answers.topology a).1).1.idle = a.idle := by
    rw [hopen, hopen]
  unfold installEndpointFilters
  rcases hopened : openSubdevice pair.topoName answers.topology a with ⟨b, topology⟩
  rw [hopened] at hboth
  dsimp only at hboth ⊢
  rcases hopened' : openSubdevice pair.waveName answers.wave b with ⟨c, wave⟩
  rw [hopened'] at hboth
  dsimp only at hboth ⊢
  have hconnected : (connectOpened topology wave answers.connect c).1.idle = c.idle := by
    rw [connectOpened_same]
    rfl
  rcases hconnect : connectOpened topology wave answers.connect c with ⟨d, ntStatus⟩
  rw [hconnect] at hconnected
  dsimp only
  rw [← hboth, ← hconnected]
  split
  · simp
  · simp

theorem removeEndpointFilters_idle (pair : EndpointMinipair) (topology wave : Option ObjectId)
    (answers : RemoveAnswers) :
    (removeEndpointFilters pair topology wave answers a).idle = a.idle := by
  unfold removeEndpointFilters
  cases topology with
  | none => simp
  | some t =>
    cases wave with
    | none => simp
    | some w => simp

theorem getFilters_idle (pair : EndpointMinipair) (wanted : Wanted) :
    (getFilters pair wanted a).1.idle = a.idle := by
  have hone : ∀ (wanted : Bool) (name : SubdeviceName) (b : AdapterCommon),
      (getFilter wanted name b).1.idle = b.idle := by
    intro wanted name b
    unfold getFilter
    split
    · rw [getCachedSubdevice_same]
      rfl
    · rfl
  rw [getFilters_eq a pair wanted rfl rfl]
  split
  · exact (hone _ _ _).trans (hone _ _ _)
  · exact hone _ _ _

/-- A request that is granted reaches the count. -/
theorem setIdlePowerManagement_idle (pair : EndpointMinipair) (enabled : Bool)
    (queryInterface : NTSTATUS) :
    (setIdlePowerManagement pair enabled queryInterface a).idle
      = (granted a (.setIdlePowerManagement pair enabled queryInterface)).foldl requestIdle
          a.idle := by
  rw [setIdlePowerManagement, granted, getFilters_wavePortOnly, getCachedSubdevice,
    AdapterCommon.cached]
  cases hfind : a.find pair.waveName with
  | none => rfl
  | some record =>
    dsimp only
    rw [Option.map_some, Option.isSome_some, Bool.true_and]
    cases hquery : ntSuccess queryInterface with
    | false => rfl
    | true => exact setIdle_idle _ enabled

/-- One call. -/
theorem adapterStep_idle {a b : AdapterCommon} {call : AdapterCall}
    (hstep : adapterStep a call = some b) :
    b.idle = (granted a call).foldl requestIdle a.idle := by
  cases call with
  | installEndpointFilters pair wanted answers =>
    rw [← Option.some.inj hstep]
    exact installEndpointFilters_idle _ _ _ _
  | removeEndpointFilters pair topology wave answers =>
    rw [← Option.some.inj hstep]
    exact removeEndpointFilters_idle _ _ _ _ _
  | getFilters pair wanted =>
    have hidle := getFilters_idle a pair wanted
    rcases hget : getFilters pair wanted a with ⟨c, ntStatus, topology, wave⟩
    rw [hget] at hidle
    rw [adapterStep, hget] at hstep
    rw [← Option.some.inj hstep]
    refine Eq.trans ?_ hidle
    dsimp only
    split
    · rfl
    · rfl
  | setIdlePowerManagement pair enabled queryInterface =>
    rw [← Option.some.inj hstep]
    exact setIdlePowerManagement_idle _ _ _ _
  | release r =>
    rw [adapterStep, Option.ite_none_right_eq_some] at hstep
    rw [← Option.some.inj hstep.2]
    rfl
  | cleanup =>
    rw [← Option.some.inj hstep]
    exact emptySubdeviceCache_idle _

theorem run_idle : ∀ (calls : List AdapterCall) {a b : AdapterCommon},
    run adapterStep a calls = some b →
    b.idle = (grantedAlong a calls).foldl requestIdle a.idle := by
  intro calls
  induction calls with
  | nil =>
    intro a b h
    rw [run, Option.some.injEq] at h
    rw [← h]
    rfl
  | cons call calls ih =>
    intro a b h
    obtain ⟨c, hstep, hrest⟩ := Option.bind_eq_some_iff.mp h
    rw [grantedAlong, hstep]
    dsimp only
    rw [List.foldl_append, ← adapterStep_idle hstep]
    exact ih hrest

/-- **The count is that of the requests without a partner**, and the class driver was told to switch
off as long as there is one. -/
theorem foldl_requestIdle : ∀ (requests : List Bool) (unpaired : Nat), unpaired < 2 ^ 32 →
    Paired unpaired requests → ∃ left, left + requests.count true
        = unpaired + requests.count false
      ∧ requests.foldl requestIdle (BitVec.ofNat 32 unpaired, decide (unpaired = 0))
        = (BitVec.ofNat 32 left, decide (left = 0)) := by
  intro requests
  induction requests with
  | nil => exact fun unpaired _ _ => ⟨unpaired, rfl, rfl⟩
  | cons enabled requests ih =>
    intro unpaired hlt hpaired
    have hzero : BitVec.ofNat 32 unpaired = 0 ↔ unpaired = 0 := by
      constructor
      · intro h
        have htoNat := congrArg BitVec.toNat h
        rwa [BitVec.toNat_ofNat, Nat.mod_eq_of_lt hlt] at htoNat
      · rintro rfl
        rfl
    cases enabled with
    | false =>
      obtain ⟨hroom, hrest⟩ := hpaired
      obtain ⟨left, hcount, hfold⟩ := ih (unpaired + 1) hroom hrest
      refine ⟨left, ?_, ?_⟩
      · rw [List.count_cons_of_ne (by decide), List.count_cons_self]
        omega
      · rw [List.foldl_cons, ← hfold, requestIdle, if_neg Bool.false_ne_true]
        have hnow : (if BitVec.ofNat 32 unpaired = 0 then false else decide (unpaired = 0))
            = decide (unpaired + 1 = 0) := by
          rw [decide_eq_false (Nat.succ_ne_zero unpaired)]
          split
          · rfl
          · rename_i hne
            exact decide_eq_false (mt hzero.mpr hne)
        have hmore : BitVec.ofNat 32 unpaired + 1 = BitVec.ofNat 32 (unpaired + 1) :=
          (BitVec.ofNat_add ..).symm
        dsimp only
        rw [hnow, hmore]
    | true =>
      obtain ⟨hpos, hrest⟩ := hpaired
      obtain ⟨left, hcount, hfold⟩ := ih (unpaired - 1) (by omega) hrest
      refine ⟨left, ?_, ?_⟩
      · rw [List.count_cons_self, List.count_cons_of_ne (by decide)]
        omega
      · rw [List.foldl_cons, ← hfold, requestIdle, if_pos rfl]
        have hless : BitVec.ofNat 32 unpaired - 1 = BitVec.ofNat 32 (unpaired - 1) := by
          apply BitVec.eq_of_toNat_eq
          rw [BitVec.toNat_sub, BitVec.toNat_ofNat, BitVec.toNat_ofNat, Nat.mod_eq_of_lt hlt]
          change (2 ^ 32 - 1 + unpaired) % 2 ^ 32 = (unpaired - 1) % 2 ^ 32
          omega
        have hzero' : BitVec.ofNat 32 (unpaired - 1) = 0 ↔ unpaired - 1 = 0 := by
          rw [← BitVec.toNat_inj, BitVec.toNat_ofNat, Nat.mod_eq_of_lt (by omega)]
          rfl
        have hnow : (if BitVec.ofNat 32 (unpaired - 1) = 0 then true else decide (unpaired = 0))
            = decide (unpaired - 1 = 0) := by
          split
          · rename_i heq
            exact (decide_eq_true (hzero'.mp heq)).symm
          · rename_i hne
            rw [decide_eq_false (mt hzero'.mpr hne)]
            exact decide_eq_false (Nat.ne_of_gt hpos)
        dsimp only
        rw [hless, hnow]

end Idle

/-- **Idle power management is off exactly as long as a request has no partner.** In every run in
which the granted requests come in pairs, it is on if and only if as many requests to switch it on
were granted as to switch it off.  The class driver has it on at the start, where it was told
nothing, and from there on as it was last told; it is told at the first request without a partner,
and when none is left. -/
theorem idlePower_agrees {a b : AdapterCommon} (calls : List AdapterCall) (hstart : AdapterStart a)
    (hrun : run adapterStep a calls = some b) (hpaired : Paired 0 (grantedAlong a calls)) :
    b.idleEnabled = true
      ↔ (grantedAlong a calls).count true = (grantedAlong a calls).count false := by
  obtain ⟨left, hcount, hfold⟩ := foldl_requestIdle (grantedAlong a calls) 0 (by decide) hpaired
  have hidle := run_idle calls hrun
  have hfirst : a.idle = (BitVec.ofNat 32 0, decide (0 = 0)) := by
    rw [AdapterCommon.idle, hstart.idleRequests, hstart.idleEnabled]
    rfl
  rw [hfirst, hfold] at hidle
  have henabled : b.idleEnabled = decide (left = 0) := congrArg Prod.snd hidle
  rw [henabled, decide_eq_true_iff]
  omega

/-- An endpoint asks twice to switch it off and once to switch it on. -/
def idleCalls : List AdapterCall :=
  [.installEndpointFilters endpointPair ⟨true, false, true, false⟩ (installAnswers statusSuccess),
    .setIdlePowerManagement endpointPair false statusSuccess,
    .setIdlePowerManagement endpointPair false statusSuccess,
    .setIdlePowerManagement endpointPair true statusSuccess]

theorem grantedAlong_idleCalls : grantedAlong emptyAdapter idleCalls = [false, false, true] := by
  rfl

theorem paired_idleCalls : Paired 0 (grantedAlong emptyAdapter idleCalls) :=
  grantedAlong_idleCalls ▸ ⟨by decide, by decide, by decide, trivial⟩

/-- The second request to switch it off is left without a partner. -/
theorem idlePower_agrees_unpaired : ∃ b, run adapterStep emptyAdapter idleCalls = some b
    ∧ (b.idleEnabled = true ↔ (grantedAlong emptyAdapter idleCalls).count true
      = (grantedAlong emptyAdapter idleCalls).count false) :=
  ⟨_, rfl, idlePower_agrees _ emptyAdapter_start rfl paired_idleCalls⟩

end WoaRk3576.Audio
