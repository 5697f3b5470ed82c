/-
# csaudiork3x: the references of the endpoints

The references that the adapter takes are those of its cache, those of the callers, and those that
a routine holds while it runs.  `AdapterMoves a u b v` says that a routine which holds `u` in the
state `a` holds `v` in the state `b`, besides the books; every routine of the adapter has one lemma
of this form, and the calls put them together (`Lib/Accounts.lean`).

`endpointReferences_accounted` is that of a run: what is referenced is what the cache holds, what
callers were handed and have not released, and what `lostBy` says that a call loses.  That `settle`
has a value at all says that nothing was released twice; that the value is this one says that
nothing else is kept.

* A record that enters the cache or leaves it takes its references along (`moves_cache`,
  `moves_uncache`), so emptying the cache comes to nothing (`emptySubdeviceCache_moves`).
* `InstallEndpointFilters` holds what it found or made until its end and gives it back there on
  every path, since its `SAFE_RELEASE`s stand behind the join of all of them
  (`installEndpointFilters_moves`).
* Two kinds of calls lose something: a `GetFilters` for one pointer of a subdevice, or one that
  finds the topology and no wave subdevice; and a `SetIdlePowerManagement`, which asks `GetFilters`
  for the wave port alone and so loses the miniport (`getFilters_lost`,
  `setIdlePowerManagement_moves`).
-/
import WoaRk3576.Audio.Endpoints
import WoaRk3576.Lib.Accounts

namespace WoaRk3576.Audio

open WoaRk3576.Lib
open WoaRk3576.Acpi (NTSTATUS ntSuccess statusSuccess statusObjectNameNotFound)

/-! ## 1. The books

The books have three columns: what the cache holds, what the callers were handed, and what a
routine holds while it runs.  A move from one state to the next says what entered and what left the
third, so that routines compose by adding what they hold. -/

/-- What the references and blocks that are held come to. -/
def AdapterCommon.Holds (a : AdapterCommon) (t : Multiset EndpointResource) : Prop :=
  settle 0 a.ledger = some t

/-- The two references of a subdevice. -/
def subdeviceRefs (s : Option Subdevice) : Multiset EndpointResource :=
  match s with
  | none => 0
  | some s => {.port s.port} + {.miniport s.miniport}

/-- What a record of the cache holds, itself included. -/
def recordRefs (record : MinipairUnknown) : Multiset EndpointResource :=
  {.record} + ({.port record.portInterface} + ({.miniport record.miniportInterface}
    + if record.powerInterface then {.power record.miniportInterface} else 0))

def cacheRefs (cache : List MinipairUnknown) : Multiset EndpointResource :=
  (cache.map recordRefs).sum

/-- What is accounted for: the cache and the callers. -/
def AdapterCommon.books (a : AdapterCommon) : Multiset EndpointResource :=
  cacheRefs a.subdeviceCache + a.handed

/-- **From `a` to `b`, where the routine holds `u` before and `v` behind**, besides the books. -/
abbrev AdapterMoves (a : AdapterCommon) (u : Multiset EndpointResource) (b : AdapterCommon)
    (v : Multiset EndpointResource) : Prop :=
  Moves AdapterCommon.books AdapterCommon.ledger a u b v

section Moves

variable {a : AdapterCommon} {u : Multiset EndpointResource}

theorem moves_take (r : EndpointResource) : AdapterMoves a u (a.log (.take r)) ({r} + u) :=
  Moves.of_take r rfl rfl

theorem moves_drop (r : EndpointResource) : AdapterMoves a ({r} + u) (a.log (.drop r)) u :=
  Moves.of_drop r rfl rfl

/-- A record that leaves the cache. -/
theorem moves_uncache {record : MinipairUnknown} {cache : List MinipairUnknown}
    (h : cacheRefs a.subdeviceCache = recordRefs record + cacheRefs cache) :
    AdapterMoves a u { a with subdeviceCache := cache } (recordRefs record + u) := by
  refine Moves.of_books ?_ rfl
  rw [AdapterCommon.books, AdapterCommon.books, h]
  abel

/-- A record that enters it. -/
theorem moves_cache (record : MinipairUnknown) :
    AdapterMoves a (recordRefs record + u)
      { a with subdeviceCache := a.subdeviceCache ++ [record] } u := by
  refine Moves.of_books ?_ rfl
  simp only [AdapterCommon.books, cacheRefs, List.map_append, List.map_cons, List.map_nil,
    List.sum_append, List.sum_cons, List.sum_nil]
  abel

end Moves

/-! ## 2. What each routine holds

One lemma for each routine, in the order in which they call each other.  A routine that fails in
the middle holds something for a moment; that it gives all of it back is the last step of its
lemma. -/

section Parts

variable (a : AdapterCommon) (u : Multiset EndpointResource) (name : SubdeviceName)

theorem getCachedSubdevice_moves : AdapterMoves a u (getCachedSubdevice name a).1
    (subdeviceRefs (getCachedSubdevice name a).2.2 + u) := by
  unfold getCachedSubdevice
  cases a.find name with
  | none => exact Moves.refl.congr (zero_add u).symm
  | some record =>
    refine ((moves_take _).trans (moves_take _)).congr ?_
    rw [subdeviceRefs]
    abel

theorem cacheSubdevice_moves (s : Subdevice) (answers : CacheAnswers) :
    AdapterMoves a u (cacheSubdevice name s answers a).1 u := by
  unfold cacheSubdevice
  split
  · exact Moves.refl
  dsimp only
  split
  · rename_i fits
    refine Moves.trans ?_
      (moves_cache ⟨name, s.port, s.miniport, answers.powerManagement, fits⟩)
    have htaken := ((moves_take (a := a) (u := u) .record).trans (moves_take (.port s.port))).trans
      (moves_take (.miniport s.miniport))
    cases hpower : answers.powerManagement with
    | false =>
      refine htaken.congr ?_
      simp only [recordRefs, Bool.false_eq_true, if_false]
      abel
    | true =>
      refine (htaken.trans (moves_take (.power s.miniport))).congr ?_
      simp only [recordRefs, if_true]
      abel
  · exact (moves_take _).trans (moves_drop _)

theorem deleteRecord_moves (record : MinipairUnknown) :
    AdapterMoves a (recordRefs record + u) (deleteRecord record a) u := by
  unfold deleteRecord
  have hreorder : recordRefs record + u = {.port record.portInterface}
      + ({.miniport record.miniportInterface}
        + ((if record.powerInterface then {.power record.miniportInterface} else 0)
          + ({.record} + u))) := by
    rw [recordRefs]
    abel
  rw [hreorder]
  refine (((moves_drop _).trans (moves_drop _)).trans ?_).trans (moves_drop _)
  split
  · exact moves_drop _
  · exact Moves.refl.congr (zero_add _)

/-- The record that is found is the one that leaves the cache. -/
theorem cacheRefs_find {record : MinipairUnknown} :
    ∀ {cache : List MinipairUnknown},
      cache.find? (fun record => name = record.name) = some record →
      cacheRefs cache
        = recordRefs record + cacheRefs (cache.eraseP fun record => name = record.name) := by
  intro cache
  induction cache with
  | nil =>
    intro h
    cases h
  | cons head cache ih =>
    intro h
    by_cases hname : name = head.name
    · rw [List.find?_cons_of_pos (by simpa using hname), Option.some.injEq] at h
      rw [List.eraseP_cons_of_pos (by simpa using hname), ← h]
      rfl
    · rw [List.find?_cons_of_neg (by simpa using hname)] at h
      rw [List.eraseP_cons_of_neg (by simpa using hname)]
      calc cacheRefs (head :: cache) = recordRefs head + cacheRefs cache := rfl
        _ = recordRefs head + (recordRefs record + cacheRefs _) := congrArg _ (ih h)
        _ = recordRefs record + (recordRefs head + cacheRefs _) := add_left_comm _ _ _

theorem removeCachedSubdevice_moves : AdapterMoves a u (removeCachedSubdevice name a) u := by
  unfold removeCachedSubdevice
  cases hfind : a.find name with
  | none => exact Moves.refl
  | some record =>
    exact (moves_uncache (cacheRefs_find name hfind)).trans (deleteRecord_moves _ _ _)

/-- Each round deletes the head of what is left. -/
theorem emptySubdeviceCache_moves : AdapterMoves a u (emptySubdeviceCache a) u := by
  have hloop : ∀ (cache : List MinipairUnknown) (b : AdapterCommon),
      AdapterMoves b (cacheRefs cache + u)
        (cache.foldl (fun a record => deleteRecord record a) b) u := by
    intro cache
    induction cache with
    | nil => exact fun b => Moves.refl.congr (zero_add u)
    | cons record cache ih =>
      intro b
      have hhead := deleteRecord_moves b (cacheRefs cache + u) record
      rw [← add_assoc] at hhead
      exact hhead.trans (ih _)
  refine Moves.trans ?_ (hloop a.subdeviceCache _)
  refine Moves.of_books ?_ rfl
  rw [AdapterCommon.books, AdapterCommon.books]
  change _ = 0 + a.handed + _
  abel

theorem installSubdevice_moves (answers : SubdeviceAnswers) :
    AdapterMoves a u (installSubdevice answers a).1
      (subdeviceRefs (installSubdevice answers a).2.2 + u) := by
  unfold installSubdevice
  have hnone : subdeviceRefs none + u = u := zero_add u
  split
  · exact Moves.refl.congr hnone.symm
  split
  · exact Moves.refl.congr hnone.symm
  dsimp only
  split
  · exact ((moves_take _).trans (moves_drop _)).congr hnone.symm
  have hboth : ∀ {b : AdapterCommon} {v : Multiset EndpointResource},
      AdapterMoves b v
        ((b.log (.take (.port answers.port))).log (.take (.miniport answers.miniport)))
        ({.miniport answers.miniport} + ({.port answers.port} + v)) :=
    (moves_take _).trans (moves_take _)
  -- The port goes before the miniport.
  have hrelease : ∀ {b : AdapterCommon} {v : Multiset EndpointResource},
      AdapterMoves b ({.miniport answers.miniport} + ({.port answers.port} + v))
        ((b.log (.drop (.port answers.port))).log (.drop (.miniport answers.miniport))) v := by
    intro b v
    rw [add_left_comm]
    exact (moves_drop _).trans (moves_drop _)
  split
  · exact (hboth.trans hrelease).congr hnone.symm
  split
  · exact (hboth.trans hrelease).congr hnone.symm
  · have hreorder : subdeviceRefs (some ⟨answers.port, answers.miniport⟩) + u
        = {.miniport answers.miniport} + ({.port answers.port} + u) := by
      rw [subdeviceRefs]
      abel
    rw [hreorder]
    exact ((hboth.trans (Moves.of_same rfl rfl)).trans hboth).trans hrelease

theorem unregisterSubdevice_moves (port : Option ObjectId) (answers : UnregisterAnswers) :
    AdapterMoves a u (unregisterSubdevice port answers a) u := by
  unfold unregisterSubdevice
  cases port with
  | none => exact Moves.refl
  | some p =>
    dsimp only
    split
    · exact Moves.refl
    · refine ((moves_take (.unregisterSubdevice p)).trans ?_).trans (moves_drop _)
      split
      · exact Moves.of_same rfl rfl
      · exact Moves.refl

theorem disconnectTopologies_moves (topology : ObjectId) (queryInterface : NTSTATUS) :
    AdapterMoves a u (disconnectTopologies topology queryInterface a) u := by
  unfold disconnectTopologies
  split
  · exact Moves.refl
  · exact (moves_take _).trans (moves_drop _)

theorem connectTopologies_moves (topology : ObjectId) (answers : ConnectAnswers) :
    AdapterMoves a u (connectTopologies topology answers a).1 u := by
  unfold connectTopologies
  dsimp only
  split
  · exact Moves.refl
  · exact disconnectTopologies_moves _ _ _ _

theorem connectOpened_moves (topology wave : Opened) (answers : ConnectAnswers) :
    AdapterMoves a u (connectOpened topology wave answers a).1 u := by
  unfold connectOpened
  cases topology.subdevice with
  | none => exact Moves.refl
  | some t =>
    cases wave.subdevice with
    | none => exact Moves.refl
    | some w => exact connectTopologies_moves _ _ _ _

theorem openSubdevice_moves (answers : SubdeviceAnswers) :
    AdapterMoves a u (openSubdevice name answers a).1
      (subdeviceRefs (openSubdevice name answers a).2.subdevice + u) := by
  have hcached := getCachedSubdevice_moves a u name
  unfold openSubdevice
  rcases hget : getCachedSubdevice name a with ⟨b, ntStatus, _ | s⟩
  · rw [hget] at hcached
    have hinstalled := installSubdevice_moves b u answers
    dsimp only
    rcases hinstall : installSubdevice answers b with ⟨c, ntStatus', _ | s⟩
    · rw [hinstall] at hinstalled
      exact (hcached.congr (zero_add u)).trans hinstalled
    · rw [hinstall] at hinstalled
      exact ((hcached.congr (zero_add u)).trans hinstalled).trans (cacheSubdevice_moves _ _ _ _ _)
  · rw [hget] at hcached
    exact hcached

theorem closeSubdevice_moves (o : Opened) (answers : UnregisterAnswers) :
    AdapterMoves a u (closeSubdevice name o answers a) u := by
  unfold closeSubdevice
  cases o.subdevice with
  | none => exact Moves.refl
  | some s =>
    dsimp only
    split
    · exact (unregisterSubdevice_moves _ _ _ _).trans (removeCachedSubdevice_moves _ _ _)
    · exact Moves.refl

/-- What a caller is handed is accounted for in the books. -/
theorem handOut_moves (wanted : Bool) (r : EndpointResource) :
    AdapterMoves a u (handOut wanted r a) u := by
  unfold handOut
  split
  · refine (moves_take r).trans (Moves.of_books ?_ rfl)
    rw [AdapterCommon.books, AdapterCommon.books, ← Multiset.singleton_add]
    change cacheRefs a.subdeviceCache + a.handed + _
      = cacheRefs a.subdeviceCache + ({r} + a.handed) + _
    abel
  · exact Moves.refl

theorem handOutSubdevice_moves (port miniport : Bool) (s : Option Subdevice) :
    AdapterMoves a u (handOutSubdevice port miniport s a) u := by
  unfold handOutSubdevice
  cases s with
  | none => exact Moves.refl
  | some s => exact (handOut_moves _ _ _ _).trans (handOut_moves _ _ _ _)

theorem releaseSubdevice_moves (s : Option Subdevice) :
    AdapterMoves a (subdeviceRefs s + u) (releaseSubdevice s a) u := by
  unfold releaseSubdevice
  cases s with
  | none => exact Moves.refl.congr (zero_add u)
  | some s =>
    have hreorder : subdeviceRefs (some s) + u = {.miniport s.miniport} + ({.port s.port} + u) := by
      rw [subdeviceRefs]
      abel
    rw [hreorder]
    exact (moves_drop _).trans (moves_drop _)

theorem getFilter_moves (wanted : Bool) : AdapterMoves a u (getFilter wanted name a).1
    (subdeviceRefs (getFilter wanted name a).2.2 + u) := by
  unfold getFilter
  split
  · exact getCachedSubdevice_moves _ _ _
  · exact Moves.refl.congr (zero_add u).symm

theorem getFilters_moves (pair : EndpointMinipair) (wanted : Wanted) :
    AdapterMoves a u (getFilters pair wanted a).1 (subdeviceRefs (getFilters pair wanted a).2.2.1
      + (subdeviceRefs (getFilters pair wanted a).2.2.2 + u)) := by
  have htopology := getFilter_moves a u pair.topoName
    (wanted.topologyPort || wanted.topologyMiniport)
  unfold getFilters
  rcases hget : getFilter (wanted.topologyPort || wanted.topologyMiniport) pair.topoName a with
    ⟨b, ntStatus, topology⟩
  rw [hget] at htopology
  dsimp only
  split
  · exact htopology.congr (congrArg _ (zero_add u).symm)
  · exact (htopology.trans (getFilter_moves b _ _ _)).congr (add_left_comm _ _ _)

theorem setIdle_moves (enabled : Bool) : AdapterMoves a u (setIdle enabled a) u := by
  unfold setIdle
  dsimp only
  split
  · split
    · exact Moves.of_same rfl rfl
    · exact Moves.of_same rfl rfl
  · split
    · exact Moves.of_same rfl rfl
    · exact Moves.of_same rfl rfl

/-- **A call of `InstallEndpointFilters` keeps the books**, whatever fails. -/
theorem installEndpointFilters_moves (pair : EndpointMinipair) (wanted : Wanted)
    (answers : InstallAnswers) :
    AdapterMoves a u (installEndpointFilters pair wanted answers a).1 u := by
  have htopology := openSubdevice_moves a u pair.topoName answers.topology
  unfold installEndpointFilters
  rcases hopen : openSubdevice pair.topoName answers.topology a with ⟨b, topology⟩
  rw [hopen] at htopology
  have hwave := openSubdevice_moves b (subdeviceRefs topology.subdevice + u) pair.waveName
    answers.wave
  dsimp only
  rcases hopen' : openSubdevice pair.waveName answers.wave b with ⟨c, wave⟩
  rw [hopen'] at hwave
  dsimp only
  have hconnected := connectOpened_moves c
    (subdeviceRefs wave.subdevice + (subdeviceRefs topology.subdevice + u)) topology wave
    answers.connect
  rcases hconnect : connectOpened topology wave answers.connect c with ⟨d, ntStatus⟩
  rw [hconnect] at hconnected
  refine ((htopology.trans hwave).trans hconnected).trans ?_
  refine Moves.trans ?_ (releaseSubdevice_moves _ u wave.subdevice)
  refine Moves.trans ?_
    (releaseSubdevice_moves _ (subdeviceRefs wave.subdevice + u) topology.subdevice)
  refine Moves.congr ?_ (add_left_comm _ _ _)
  dsimp only
  split
  · exact (handOutSubdevice_moves _ _ _ _ _).trans (handOutSubdevice_moves _ _ _ _ _)
  · exact (closeSubdevice_moves _ _ _ _ _).trans (closeSubdevice_moves _ _ _ _ _)

theorem removeEndpointFilters_moves (pair : EndpointMinipair) (topology wave : Option ObjectId)
    (answers : RemoveAnswers) :
    AdapterMoves a u (removeEndpointFilters pair topology wave answers a) u := by
  unfold removeEndpointFilters
  refine Moves.trans ?_ (((removeCachedSubdevice_moves _ _ _).trans
    (unregisterSubdevice_moves _ _ _ _)).trans
      ((removeCachedSubdevice_moves _ _ _).trans (unregisterSubdevice_moves _ _ _ _)))
  cases topology with
  | none => exact Moves.refl
  | some t =>
    cases wave with
    | none => exact Moves.refl
    | some w => exact disconnectTopologies_moves _ _ _ _

end Parts

/-! ## 3. What is lost

`GetCachedSubdevice` takes a reference of the port and of the miniport, and some callers ask for
one of them only.  What they do not ask for is not released, and the same goes for the topology if
the wave is not found.  `lostBy` computes from the state and the call what is lost this way, and
the moves of `GetFilters` and `SetIdlePowerManagement` have exactly this beyond the books. -/

/-- What `GetCachedSubdevice` finds. -/
def AdapterCommon.cached (name : SubdeviceName) (a : AdapterCommon) : Option Subdevice :=
  (a.find name).map fun record => ⟨record.portInterface, record.miniportInterface⟩

/-- The references of a subdevice that a caller who asks for these pointers does not get. -/
def notAsked (port miniport : Bool) (s : Option Subdevice) : Multiset EndpointResource :=
  match s with
  | none => 0
  | some s => (if port then 0 else {.port s.port}) + if miniport then 0 else {.miniport s.miniport}

/-- What a call of `GetFilters` loses: the pointer beside the one that was asked for, and what was
found of the topology where the wave subdevice is not. -/
def lostByGetFilters (pair : EndpointMinipair) (wanted : Wanted) (a : AdapterCommon) :
    Multiset EndpointResource :=
  let topology := if wanted.topologyPort || wanted.topologyMiniport then a.cached pair.topoName
    else none
  let wave := if wanted.wavePort || wanted.waveMiniport then a.cached pair.waveName else none
  if (wanted.topologyPort || wanted.topologyMiniport) && topology.isNone then 0
  else if (wanted.wavePort || wanted.waveMiniport) && wave.isNone then subdeviceRefs topology
  else notAsked wanted.topologyPort wanted.topologyMiniport topology
    + notAsked wanted.wavePort wanted.waveMiniport wave

/-- **The references that nobody will release.**  `SetIdlePowerManagement` asks `GetFilters` for
the wave port alone. -/
def lostBy (a : AdapterCommon) : AdapterCall → Multiset EndpointResource
  | .getFilters pair wanted => lostByGetFilters pair wanted a
  | .setIdlePowerManagement pair _ _ => lostByGetFilters pair wavePortOnly a
  | _ => 0

/-- What the calls lose one after another. -/
def lostAlong : AdapterCommon → List AdapterCall → Multiset EndpointResource
  | _, [] => 0
  | a, call :: calls =>
    lostBy a call + match adapterStep a call with
      | none => 0
      | some b => lostAlong b calls

theorem asked_add_notAsked (port miniport : Bool) (s : Option Subdevice) :
    asked port miniport s + notAsked port miniport s = subdeviceRefs s := by
  cases s with
  | none => rfl
  | some s =>
    rw [asked, notAsked, subdeviceRefs]
    cases port with
    | false =>
      cases miniport with
      | false => simp only [Bool.false_eq_true, if_false, zero_add]
      | true => simp only [Bool.false_eq_true, if_false, if_true, zero_add, add_comm]
    | true =>
      cases miniport with
      | false => simp only [Bool.false_eq_true, if_false, if_true, zero_add, add_zero]
      | true => simp only [if_true, add_zero]

section Lost

variable (a : AdapterCommon) (name : SubdeviceName)

theorem not_ntSuccess_objectNameNotFound : ntSuccess statusObjectNameNotFound = false := by
  decide

/-- What one half of `GetFilters` answers. -/
theorem getFilter_answer (wanted : Bool) :
    (getFilter wanted name a).2.2 = (if wanted then a.cached name else none)
      ∧ ntSuccess (getFilter wanted name a).2.1 = !(wanted && (a.cached name).isNone) := by
  cases wanted with
  | false => exact ⟨rfl, Acpi.ntSuccess_statusSuccess⟩
  | true =>
    simp only [getFilter, if_true, getCachedSubdevice, AdapterCommon.cached, Bool.true_and]
    cases a.find name with
    | none => simp only [Option.map_none, not_ntSuccess_objectNameNotFound, Option.isNone_none,
        Bool.not_true, and_self]
    | some record => simp only [Option.map_some, Acpi.ntSuccess_statusSuccess, Option.isNone_some,
        Bool.not_false, and_self]

/-- A half of `GetFilters` fails where it is asked for a subdevice and finds none. -/
theorem getFilter_failed {wanted : Bool} {b : AdapterCommon} {ntStatus : NTSTATUS}
    {s : Option Subdevice} (h : getFilter wanted name a = (b, ntStatus, s)) :
    (wanted && s.isNone) = !ntSuccess ntStatus := by
  obtain ⟨hfound, hstatus⟩ := getFilter_answer a name wanted
  rw [h] at hfound hstatus
  dsimp only at hfound hstatus
  rw [hfound, hstatus]
  cases wanted with
  | false => rfl
  | true => rw [if_pos rfl, Bool.not_not]

/-- A lookup does not change the cache. -/
theorem getFilter_cached (wanted : Bool) (name' : SubdeviceName) :
    (getFilter wanted name a).1.cached name' = a.cached name' := by
  unfold getFilter
  split
  · unfold getCachedSubdevice
    cases a.find name with
    | none => rfl
    | some record => rfl
  · rfl

/-- The two halves of `GetFilters`, one behind the other. -/
theorem getFilters_eq (pair : EndpointMinipair) (wanted : Wanted) {b c : AdapterCommon}
    {ntStatus ntStatus' : NTSTATUS} {topology wave : Option Subdevice}
    (htopology : getFilter (wanted.topologyPort || wanted.topologyMiniport) pair.topoName a
      = (b, ntStatus, topology))
    (hwave : getFilter (wanted.wavePort || wanted.waveMiniport) pair.waveName b
      = (c, ntStatus', wave)) :
    getFilters pair wanted a = if ntSuccess ntStatus then (c, ntStatus', topology, wave)
      else (b, ntStatus, topology, none) := by
  rw [getFilters, htopology]
  dsimp only
  rw [hwave]
  cases ntSuccess ntStatus with
  | false => rfl
  | true => rfl

/-- **What `GetFilters` takes and its caller does not get.** -/
theorem getFilters_lost (pair : EndpointMinipair) (wanted : Wanted) :
    lostByGetFilters pair wanted a
      = if ntSuccess (getFilters pair wanted a).2.1 then
          notAsked wanted.topologyPort wanted.topologyMiniport (getFilters pair wanted a).2.2.1
            + notAsked wanted.wavePort wanted.waveMiniport (getFilters pair wanted a).2.2.2
        else subdeviceRefs (getFilters pair wanted a).2.2.1
          + subdeviceRefs (getFilters pair wanted a).2.2.2 := by
  obtain ⟨b, ntStatus, topology, htopology⟩ : ∃ b ntStatus topology, getFilter
      (wanted.topologyPort || wanted.topologyMiniport) pair.topoName a = (b, ntStatus, topology) :=
    ⟨_, _, _, rfl⟩
  obtain ⟨c, ntStatus', wave, hwave⟩ : ∃ c ntStatus' wave, getFilter
      (wanted.wavePort || wanted.waveMiniport) pair.waveName b = (c, ntStatus', wave) :=
    ⟨_, _, _, rfl⟩
  have hfound := (getFilter_answer a pair.topoName
    (wanted.topologyPort || wanted.topologyMiniport)).1
  have hfound' := (getFilter_answer b pair.waveName (wanted.wavePort || wanted.waveMiniport)).1
  have hcached := getFilter_cached a pair.topoName
    (wanted.topologyPort || wanted.topologyMiniport) pair.waveName
  rw [htopology] at hfound hcached
  rw [hwave, hcached] at hfound'
  dsimp only at hfound hfound'
  have hlost : lostByGetFilters pair wanted a
      = if (wanted.topologyPort || wanted.topologyMiniport) && topology.isNone then 0
        else if (wanted.wavePort || wanted.waveMiniport) && wave.isNone then subdeviceRefs topology
        else notAsked wanted.topologyPort wanted.topologyMiniport topology
          + notAsked wanted.wavePort wanted.waveMiniport wave := by
    rw [hfound, hfound']
    rfl
  rw [getFilters_eq a pair wanted htopology hwave, hlost, getFilter_failed a _ htopology,
    getFilter_failed b _ hwave]
  have hnone : ∀ {asked : Bool} {s : Option Subdevice},
      (asked && s.isNone) = true → s = none := by
    intro asked s h
    rw [Bool.and_eq_true, Option.isNone_iff_eq_none] at h
    exact h.2
  cases hsuccess : ntSuccess ntStatus with
  | false =>
    have htopo : topology = none :=
      hnone ((getFilter_failed a _ htopology).trans (congrArg not hsuccess))
    rw [htopo]
    simp [hsuccess, subdeviceRefs]
  | true =>
    cases hsuccess' : ntSuccess ntStatus' with
    | false =>
      have hwav : wave = none :=
        hnone ((getFilter_failed b _ hwave).trans (congrArg not hsuccess'))
      rw [hwav]
      simp [hsuccess', subdeviceRefs]
    | true => simp [hsuccess']

/-- `GetFilters` for the wave port alone is a lookup. -/
theorem getFilters_wavePortOnly (pair : EndpointMinipair) :
    getFilters pair wavePortOnly a = ((getCachedSubdevice pair.waveName a).1,
      (getCachedSubdevice pair.waveName a).2.1, none, (getCachedSubdevice pair.waveName a).2.2) :=
  (getFilters_eq a pair wavePortOnly rfl rfl).trans (if_pos Acpi.ntSuccess_statusSuccess)

/-- **`SetIdlePowerManagement` gives the wave port back**, not the miniport that `GetFilters` took
beside it. -/
theorem setIdlePowerManagement_moves (u : Multiset EndpointResource) (pair : EndpointMinipair)
    (enabled : Bool) (queryInterface : NTSTATUS) :
    AdapterMoves a u (setIdlePowerManagement pair enabled queryInterface a)
      (lostByGetFilters pair wavePortOnly a + u) := by
  have hmoves := getFilters_moves a u pair wavePortOnly
  have hlost := getFilters_lost a pair wavePortOnly
  unfold setIdlePowerManagement
  rw [getFilters_wavePortOnly] at hmoves hlost ⊢
  unfold getCachedSubdevice at hmoves hlost ⊢
  cases hfind : a.find pair.waveName with
  | none =>
    rw [hfind] at hmoves hlost
    simp only [not_ntSuccess_objectNameNotFound, Bool.false_eq_true, if_false, subdeviceRefs,
      add_zero] at hlost
    rw [hlost, zero_add]
    exact Moves.refl
  | some record =>
    rw [hfind] at hmoves hlost
    have hminiport : lostByGetFilters pair wavePortOnly a
        = {.miniport record.miniportInterface} := by
      rw [hlost]
      simp only [Acpi.ntSuccess_statusSuccess, if_true, wavePortOnly, notAsked, zero_add,
        Bool.false_eq_true, if_false]
    simp only [subdeviceRefs, zero_add, add_assoc] at hmoves
    rw [hminiport]
    dsimp only
    refine hmoves.trans ?_
    split
    · exact moves_drop _
    · have hpower : ∀ (b : AdapterCommon) (v : Multiset EndpointResource), AdapterMoves b v
          (setIdle enabled (b.log (.take (.portClsPower record.portInterface))))
          ({.portClsPower record.portInterface} + v) :=
        fun _ _ => (moves_take _).trans (setIdle_moves _ _ _)
      exact ((hpower _ _).congr (add_left_comm _ _ _)).trans
        ((moves_drop _).trans (moves_drop _))

end Lost

/-! ## 4. Runs

A run adds up what its calls have lost.  Every reference is then in one of the places, and as the
ledger settles none is released that was not held. -/

/-- **One call**: what is taken beyond the books is what the call loses. -/
theorem adapterStep_moves {a b : AdapterCommon} {call : AdapterCall}
    (hstep : adapterStep a call = some b) (u : Multiset EndpointResource) :
    AdapterMoves a u b (lostBy a call + u) := by
  have hnothing : ∀ {c : AdapterCommon}, AdapterMoves a u c u → AdapterMoves a u c (0 + u) :=
    fun h => h.congr (zero_add u).symm
  cases call with
  | installEndpointFilters pair wanted answers =>
    rw [← Option.some.inj hstep]
    exact hnothing (installEndpointFilters_moves _ _ _ _ _)
  | removeEndpointFilters pair topology wave answers =>
    rw [← Option.some.inj hstep]
    exact hnothing (removeEndpointFilters_moves _ _ _ _ _ _)
  | getFilters pair wanted =>
    have hmoves := getFilters_moves a u pair wanted
    have hlost := getFilters_lost a pair wanted
    rw [lostBy, hlost]
    rcases hget : getFilters pair wanted a with ⟨c, ntStatus, topology, wave⟩
    rw [hget] at hmoves
    rw [adapterStep, hget] at hstep
    dsimp only at hmoves hstep ⊢
    rw [← Option.some.inj hstep]
    split
    · refine hmoves.trans (Moves.of_books ?_ rfl)
      rw [AdapterCommon.books, AdapterCommon.books,
        ← asked_add_notAsked wanted.topologyPort wanted.topologyMiniport topology,
        ← asked_add_notAsked wanted.wavePort wanted.waveMiniport wave]
      dsimp only
      abel
    · exact hmoves.congr (add_assoc _ _ _).symm
  | setIdlePowerManagement pair enabled queryInterface =>
    rw [← Option.some.inj hstep]
    exact setIdlePowerManagement_moves a u pair enabled queryInterface
  | release r =>
    rw [adapterStep, Option.ite_none_right_eq_some] at hstep
    obtain ⟨hheld, heq⟩ := hstep
    rw [← Option.some.inj heq]
    -- The reference leaves the books before it is released.
    have hbooks : AdapterMoves a u { a with handed := a.handed.erase r } ({r} + u) := by
      refine Moves.of_books ?_ rfl
      calc a.books + u
        _ = cacheRefs a.subdeviceCache + ({r} + a.handed.erase r) + u := by
          rw [Multiset.singleton_add, Multiset.cons_erase hheld]
          rfl
        _ = cacheRefs a.subdeviceCache + a.handed.erase r + ({r} + u) := by abel
    exact hnothing (hbooks.trans (moves_drop r))
  | cleanup =>
    rw [← Option.some.inj hstep]
    exact hnothing (emptySubdeviceCache_moves _ _)

theorem run_moves : ∀ (calls : List AdapterCall) {a b : AdapterCommon}
    (_ : run adapterStep a calls = some b) (u : Multiset EndpointResource),
    AdapterMoves a u b (lostAlong a calls + u) := by
  intro calls
  induction calls with
  | nil =>
    intro a b h u
    rw [run, Option.some.injEq] at h
    rw [← h]
    exact Moves.refl.congr (zero_add u).symm
  | cons call calls ih =>
    intro a b h u
    obtain ⟨c, hstep, hrest⟩ := Option.bind_eq_some_iff.mp h
    refine ((adapterStep_moves hstep u).trans (ih hrest _)).congr ?_
    rw [lostAlong, hstep]
    dsimp only
    abel

/-- **Every reference is accounted for.** In every run of the calls, whatever the class driver and
the pool answer, what is held is what the cache holds, what callers were handed and have not
released, and what the calls lost; nothing is released twice.  Each routine gives back on every
path what it holds itself, so the books change only by what enters the cache, leaves it or is
handed out. -/
theorem endpointReferences_accounted {a b : AdapterCommon} (calls : List AdapterCall)
    (hstart : AdapterStart a) (hrun : run adapterStep a calls = some b) :
    b.Holds (cacheRefs b.subdeviceCache + b.handed + lostAlong a calls) := by
  have hempty : a.Holds (a.books + (0 + 0)) := by
    rw [AdapterCommon.Holds, AdapterCommon.books, hstart.cache, hstart.handed, hstart.ledger]
    rfl
  have hheld := run_moves calls hrun 0 0 hempty
  rwa [add_zero, add_zero] at hheld

/-- What a class driver answers that makes the objects `port` and `miniport`. -/
def madeSubdevice (port miniport : ObjectId) : SubdeviceAnswers :=
  ⟨statusSuccess, statusSuccess, port, statusSuccess, miniport, statusSuccess, statusSuccess,
    ⟨true, true⟩⟩

/-- An installation of the subdevices 1 and 3, whose first connection answers `connection`. -/
def installAnswers (connection : NTSTATUS) : InstallAnswers :=
  ⟨madeSubdevice 1 2, madeSubdevice 3 4, ⟨[connection, statusSuccess], statusSuccess⟩,
    ⟨statusSuccess, statusSuccess⟩, ⟨statusSuccess, statusSuccess⟩⟩

/-- The endpoint "T", "W". -/
def endpointPair : EndpointMinipair := ⟨[0x54], [0x57]⟩

def emptyAdapter : AdapterCommon := ⟨[], 0, true, [], 0, []⟩

theorem emptyAdapter_start : AdapterStart emptyAdapter := ⟨rfl, rfl, rfl, rfl, rfl, rfl⟩

/-- An endpoint is installed for a caller, and its idle power management is switched off: the wave
miniport 4 stays referenced. -/
theorem endpointReferences_accounted_idle : ∃ b,
    run adapterStep emptyAdapter
      [.installEndpointFilters endpointPair ⟨true, false, true, false⟩
        (installAnswers statusSuccess),
      .setIdlePowerManagement endpointPair false statusSuccess] = some b
    ∧ b.Holds (cacheRefs b.subdeviceCache + b.handed + lostAlong emptyAdapter
      [.installEndpointFilters endpointPair ⟨true, false, true, false⟩
        (installAnswers statusSuccess),
      .setIdlePowerManagement endpointPair false statusSuccess]) :=
  ⟨_, rfl, endpointReferences_accounted _ emptyAdapter_start rfl⟩

end WoaRk3576.Audio
