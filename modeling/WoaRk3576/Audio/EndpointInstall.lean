/-
# csaudiork3x: an installation that fails

`InstallEndpointFilters` may have found one subdevice in the cache and made the other one, may have
registered one that the cache has no room for, and may find the two of one name.  On an error it
closes what it made itself, and releases what it holds.  `installEndpointFilters_atomic`: the
adapter is then as it was.

The argument is that each step has an inverse, and that the clean-up runs just the inverses of the
steps that were taken.

  * `Opens` says what the opening of a subdevice has changed: nothing if the subdevice was in the
    cache, and otherwise one port that is registered and at most one record behind the others.  A
    record is added only under a name that the cache did not have (`Opens.fresh`), so that
    `closeSubdevice`, which takes the first record of the name out, takes out that one.
  * Both subdevices are opened before the first is closed.  With two names the records do not meet;
    with one name the second opening has found the record of the first and made nothing, or the
    first record was never cached and the first close takes the record of the second out, for
    which the second close then finds nothing to do.  `eraseP_records_append` covers both.
  * Connections change nothing but the ledger (`connectOpened_same`), and the ledger is the subject
    of `installEndpointFilters_moves`: what a failing call takes it gives back.

`UnregisterAnswers.Succeeds` is assumed of both subdevices.  A class driver that refuses to take
one back leaves it registered, and there is nothing that the adapter could do about it.
-/
import WoaRk3576.Audio.EndpointReferences

namespace WoaRk3576.Audio

open WoaRk3576.Lib
open WoaRk3576.Acpi (NTSTATUS ntSuccess statusInsufficientResources)

/-! ## 1. What is made and taken back

Opening a subdevice registers it and may put a record into the cache, and closing it takes away
what was registered and the first record of its name.  If the cache had no record of the name
before, the two cancel out; a subdevice that was found in the cache is left alone. -/

/-- What was made, where `InstallSubdevice` succeeded. -/
def Opened.made (o : Opened) : Option Subdevice := if o.created then o.subdevice else none

def UnregisterAnswers.Succeeds (answers : UnregisterAnswers) : Prop :=
  ntSuccess answers.queryInterface = true ∧ ntSuccess answers.unregisterSubdevice = true

section Effects

variable (a : AdapterCommon) (name : SubdeviceName)

theorem getCachedSubdevice_same :
    (getCachedSubdevice name a).1 = { a with ledger := (getCachedSubdevice name a).1.ledger } := by
  unfold getCachedSubdevice
  cases a.find name with
  | none => rfl
  | some record => rfl

theorem getCachedSubdevice_none {b : AdapterCommon} {ntStatus : NTSTATUS}
    (h : getCachedSubdevice name a = (b, ntStatus, none)) : a.find name = none ∧ b = a := by
  unfold getCachedSubdevice at h
  cases hfind : a.find name with
  | none =>
    rw [hfind] at h
    exact ⟨rfl, (congrArg Prod.fst h).symm⟩
  | some record =>
    rw [hfind] at h
    cases congrArg (fun x => x.2.2) h

theorem installSubdevice_same (answers : SubdeviceAnswers) :
    (installSubdevice answers a).1 = { a with
      ledger := (installSubdevice answers a).1.ledger
      registered := ((installSubdevice answers a).2.2.map Subdevice.port).toList
        ++ a.registered } := by
  unfold installSubdevice
  dsimp only
  split
  · rfl
  split
  · rfl
  split
  · rfl
  split
  · rfl
  split
  · rfl
  · rfl

/-- `CacheSubdevice` adds a record of this name, or none. -/
theorem cacheSubdevice_same (s : Subdevice) (answers : CacheAnswers) :
    ∃ records : List MinipairUnknown, (∀ r ∈ records, r.name = name) ∧ records.length ≤ 1
      ∧ (cacheSubdevice name s answers a).1 = { a with
        ledger := (cacheSubdevice name s answers a).1.ledger
        subdeviceCache := a.subdeviceCache ++ records } := by
  have hnothing : ∀ es, { a with ledger := es }
      = { a with ledger := es, subdeviceCache := a.subdeviceCache ++ [] } := by
    intro es
    rw [List.append_nil]
  unfold cacheSubdevice
  split
  · exact ⟨[], fun _ hr => absurd hr List.not_mem_nil, Nat.zero_le 1, hnothing a.ledger⟩
  dsimp only
  split
  · rename_i fits
    refine ⟨[⟨name, s.port, s.miniport, answers.powerManagement, fits⟩], ?_, Nat.le_refl 1, ?_⟩
    · intro r hr
      rw [List.mem_singleton.mp hr]
    · split
      · rfl
      · rfl
  · exact ⟨[], fun _ hr => absurd hr List.not_mem_nil, Nat.zero_le 1, hnothing _⟩

/-- **What opening a subdevice changes**, the ledger apart: where one was made, it is registered,
and a record of its name, which the cache did not have, may have been added. -/
structure Opens (a : AdapterCommon) (name : SubdeviceName) (b : AdapterCommon) (o : Opened)
    (records : List MinipairUnknown) : Prop where
  same : b = { a with
    ledger := b.ledger
    subdeviceCache := a.subdeviceCache ++ records
    registered := (o.made.map Subdevice.port).toList ++ a.registered }
  names : ∀ r ∈ records, r.name = name
  length : records.length ≤ 1
  fresh : o.made ≠ none → a.find name = none
  noRecord : o.made = none → records = []

/-- Nothing but the ledger changed. -/
theorem Opens.of_same {b : AdapterCommon} {o : Opened} (hmade : o.made = none)
    (h : b = { a with ledger := b.ledger }) : Opens a name b o [] := by
  refine ⟨?_, fun _ hr => absurd hr List.not_mem_nil, Nat.zero_le 1, fun hne => absurd hmade hne,
    fun _ => rfl⟩
  rw [hmade, List.append_nil]
  exact h

theorem openSubdevice_opens (answers : SubdeviceAnswers) :
    ∃ records, Opens a name (openSubdevice name answers a).1 (openSubdevice name answers a).2
      records := by
  unfold openSubdevice
  rcases hget : getCachedSubdevice name a with ⟨b, ntStatus, _ | s⟩
  · obtain ⟨hfind, rfl⟩ := getCachedSubdevice_none a name hget
    have hinstalled := installSubdevice_same b answers
    dsimp only
    rcases hinstall : installSubdevice answers b with ⟨c, ntStatus', _ | s⟩
    · rw [hinstall] at hinstalled
      exact ⟨[], Opens.of_same b name rfl hinstalled⟩
    · rw [hinstall] at hinstalled
      obtain ⟨records, hnames, hlength, hcached⟩ := cacheSubdevice_same c name s answers.cache
      refine ⟨records, ?_, hnames, hlength, fun _ => hfind, nofun⟩
      dsimp only at hinstalled ⊢
      rw [hcached, hinstalled]
      rfl
  · have hsame := getCachedSubdevice_same a name
    rw [hget] at hsame
    exact ⟨[], Opens.of_same a name rfl hsame⟩

theorem connectTopologies_same (topology : ObjectId) (answers : ConnectAnswers) :
    (connectTopologies topology answers a).1
      = { a with ledger := (connectTopologies topology answers a).1.ledger } := by
  unfold connectTopologies disconnectTopologies
  dsimp only
  split
  · rfl
  · split
    · rfl
    · rfl

theorem connectOpened_same (topology wave : Opened) (answers : ConnectAnswers) :
    (connectOpened topology wave answers a).1
      = { a with ledger := (connectOpened topology wave answers a).1.ledger } := by
  unfold connectOpened
  cases topology.subdevice with
  | none => rfl
  | some t =>
    cases wave.subdevice with
    | none => rfl
    | some w => exact connectTopologies_same a _ _

theorem deleteRecord_same (record : MinipairUnknown) :
    deleteRecord record a = { a with ledger := (deleteRecord record a).ledger } := by
  unfold deleteRecord
  split
  · rfl
  · rfl

theorem removeCachedSubdevice_same : removeCachedSubdevice name a = { a with
    ledger := (removeCachedSubdevice name a).ledger
    subdeviceCache := a.subdeviceCache.eraseP fun record => name = record.name } := by
  unfold removeCachedSubdevice
  cases hfind : a.find name with
  | none =>
    rw [AdapterCommon.find, List.find?_eq_none] at hfind
    rw [List.eraseP_of_forall_not hfind]
  | some record => exact deleteRecord_same _ _

theorem unregisterSubdevice_same {answers : UnregisterAnswers} (h : answers.Succeeds)
    (p : ObjectId) : unregisterSubdevice (some p) answers a = { a with
      ledger := (unregisterSubdevice (some p) answers a).ledger
      registered := a.registered.erase p } := by
  have hquery : ¬ ntSuccess answers.queryInterface = false := by
    rw [h.1]
    decide
  unfold unregisterSubdevice
  dsimp only
  rw [if_neg hquery, if_pos h.2]
  rfl

/-- **What a failing installation takes back.** -/
theorem closeSubdevice_same (o : Opened) {answers : UnregisterAnswers} (h : answers.Succeeds) :
    ∃ es, closeSubdevice name o answers a = { a with
      ledger := es
      subdeviceCache := match o.made with
        | none => a.subdeviceCache
        | some _ => a.subdeviceCache.eraseP fun record => name = record.name
      registered := match o.made with
        | none => a.registered
        | some s => a.registered.erase s.port } := by
  obtain ⟨ntStatus, subdevice, created⟩ := o
  cases subdevice with
  | none =>
    cases created with
    | false => exact ⟨a.ledger, rfl⟩
    | true => exact ⟨a.ledger, rfl⟩
  | some s =>
    cases created with
    | false => exact ⟨a.ledger, rfl⟩
    | true =>
      have hsame := unregisterSubdevice_same a h s.port
      refine ⟨(removeCachedSubdevice name (unregisterSubdevice (some s.port) answers a)).ledger,
        (removeCachedSubdevice_same _ name).trans ?_⟩
      rw [AdapterCommon.mk.injEq]
      rw [hsame]
      exact ⟨rfl, rfl, rfl, rfl, rfl, rfl⟩

theorem releaseSubdevice_same (s : Option Subdevice) :
    ∃ es, releaseSubdevice s a = { a with ledger := es } := by
  cases s with
  | none => exact ⟨a.ledger, rfl⟩
  | some s => exact ⟨_, rfl⟩

variable {a name} {records : List MinipairUnknown}

/-- The records that were added are the ones that leave. -/
theorem eraseP_records (hnames : ∀ r ∈ records, r.name = name) (hlength : records.length ≤ 1) :
    (records.eraseP fun record => name = record.name) = [] := by
  cases records with
  | nil => rfl
  | cons r rest =>
    have hrest : rest = [] := List.length_eq_zero_iff.mp (Nat.le_zero.mp
      (Nat.le_of_succ_le_succ hlength))
    have hname := hnames r (List.mem_cons_self ..)
    rw [hrest, List.eraseP_cons_of_pos (by simpa using hname.symm)]

/-- What is behind the records that leave stays, or less. -/
theorem eraseP_records_append (hnames : ∀ r ∈ records, r.name = name)
    (hlength : records.length ≤ 1) (rest : List MinipairUnknown) :
    ((records ++ rest).eraseP fun record => name = record.name).Sublist rest := by
  cases records with
  | nil => exact List.eraseP_sublist
  | cons r tail =>
    have htail : tail = [] := List.length_eq_zero_iff.mp (Nat.le_zero.mp
      (Nat.le_of_succ_le_succ hlength))
    have hname := hnames r (List.mem_cons_self ..)
    rw [htail, List.singleton_append, List.eraseP_cons_of_pos (by simpa using hname.symm)]

/-- What the cache had before is not found. -/
theorem eraseP_cache (hfind : a.find name = none) (records : List MinipairUnknown) :
    ((a.subdeviceCache ++ records).eraseP fun record => name = record.name)
      = a.subdeviceCache ++ records.eraseP fun record => name = record.name := by
  rw [AdapterCommon.find, List.find?_eq_none] at hfind
  exact List.eraseP_append_right _ hfind

end Effects

/-! ## 2. The failing installation

The routine opens both subdevices, whatever the first opening comes to, and connects them.  On a
failure the openings are undone in the order in which they were made, not in the reverse one, so
the records that both have added are looked at together: each closing takes one of them out,
whether the names differ or not. -/

/-- Where an installation fails, everything but the ledger is as before. -/
theorem installEndpointFilters_same (a : AdapterCommon) (pair : EndpointMinipair)
    (wanted : Wanted) (answers : InstallAnswers)
    (hfail : ntSuccess (installEndpointFilters pair wanted answers a).2 = false)
    (htopology : answers.unregisterTopology.Succeeds)
    (hwave : answers.unregisterWave.Succeeds) :
    ∃ es, (installEndpointFilters pair wanted answers a).1 = { a with ledger := es } := by
  obtain ⟨records, hopens⟩ := openSubdevice_opens a pair.topoName answers.topology
  unfold installEndpointFilters at hfail ⊢
  rcases hopen : openSubdevice pair.topoName answers.topology a with ⟨b, topology⟩
  rw [hopen] at hopens hfail
  obtain ⟨records', hopens'⟩ := openSubdevice_opens b pair.waveName answers.wave
  dsimp only at hopens hfail ⊢
  rcases hopen' : openSubdevice pair.waveName answers.wave b with ⟨c, wave⟩
  rw [hopen'] at hopens' hfail
  dsimp only at hopens' hfail ⊢
  have hconnected := connectOpened_same c topology wave answers.connect
  rcases hconnect : connectOpened topology wave answers.connect c with ⟨d, ntStatus⟩
  rw [hconnect] at hconnected hfail
  dsimp only at hconnected hfail ⊢
  rw [if_neg (by rw [hfail]; decide)]
  obtain ⟨es₁, hclose⟩ := closeSubdevice_same d pair.topoName topology htopology
  obtain ⟨es₂, hclose'⟩ := closeSubdevice_same
    (closeSubdevice pair.topoName topology answers.unregisterTopology d) pair.waveName wave hwave
  obtain ⟨es₃, hrelease⟩ := releaseSubdevice_same
    (closeSubdevice pair.waveName wave answers.unregisterWave
      (closeSubdevice pair.topoName topology answers.unregisterTopology d)) topology.subdevice
  obtain ⟨es₄, hrelease'⟩ := releaseSubdevice_same (releaseSubdevice topology.subdevice
    (closeSubdevice pair.waveName wave answers.unregisterWave
      (closeSubdevice pair.topoName topology answers.unregisterTopology d))) wave.subdevice
  refine ⟨es₄, ?_⟩
  rw [hrelease', hrelease, hclose', hclose, hconnected, hopens'.same, hopens.same]
  rw [AdapterCommon.mk.injEq]
  dsimp only
  have hb : b.subdeviceCache = a.subdeviceCache ++ records :=
    congrArg AdapterCommon.subdeviceCache hopens.same
  -- The topology is closed first.
  cases htopo : topology.made with
  | none =>
    have hrecords := hopens.noRecord htopo
    cases hwav : wave.made with
    | none =>
      rw [hrecords, hopens'.noRecord hwav, List.append_nil, List.append_nil]
      exact ⟨rfl, rfl, rfl, rfl, rfl, rfl⟩
    | some w =>
      have hnone := hopens'.fresh (by rw [hwav]; exact nofun)
      have herase := eraseP_cache hnone records'
      rw [hb, eraseP_records hopens'.names hopens'.length, hrecords, List.append_nil,
        List.append_nil] at herase
      rw [hrecords, List.append_nil, herase]
      exact ⟨rfl, rfl, rfl, List.erase_cons_head .., rfl, rfl⟩
  | some t =>
    have hnone := hopens.fresh (by rw [htopo]; exact nofun)
    have herased := eraseP_records hopens.names hopens.length
    cases hwav : wave.made with
    | none =>
      rw [hopens'.noRecord hwav, List.append_nil, eraseP_cache hnone, herased, List.append_nil]
      exact ⟨rfl, rfl, rfl, List.erase_cons_head .., rfl, rfl⟩
    | some w =>
      have hnone' := hopens'.fresh (by rw [hwav]; exact nofun)
      have hwaveNone : a.find pair.waveName = none := by
        rw [AdapterCommon.find, hb, List.find?_append, Option.or_eq_none_iff] at hnone'
        exact hnone'.1
      -- What the first erases of the second is nothing the second looks for.
      have hsub := eraseP_records_append hopens.names hopens.length records'
      have hrest := eraseP_records (fun r hr => hopens'.names r (hsub.subset hr))
        (hsub.length_le.trans hopens'.length)
      rw [List.append_assoc, eraseP_cache hnone, eraseP_cache hwaveNone, hrest, List.append_nil]
      refine ⟨rfl, rfl, rfl, ?_, rfl, rfl⟩
      change (([w.port] ++ ([t.port] ++ a.registered)).erase t.port).erase w.port = a.registered
      rw [List.erase_comm]
      exact (congrArg (List.erase · t.port) (List.erase_cons_head ..)).trans
        (List.erase_cons_head ..)

/-- **A failing installation leaves the adapter as it was**: whatever failed and wherever, the
cache, the subdevices that the class driver has, the references of the callers and the requests are
those from before, and no reference is kept, as long as the class driver takes the subdevices back.
The clean-up undoes the two openings in the order in which they were done; it does not have to know
how far the call has come, because each opening says what it has made. -/
theorem installEndpointFilters_atomic (a : AdapterCommon) (pair : EndpointMinipair)
    (wanted : Wanted) (answers : InstallAnswers)
    (hfail : ntSuccess (installEndpointFilters pair wanted answers a).2 = false)
    (htopology : answers.unregisterTopology.Succeeds)
    (hwave : answers.unregisterWave.Succeeds) :
    ∃ es, (installEndpointFilters pair wanted answers a).1 = { a with ledger := es }
      ∧ ∀ t, settle 0 a.ledger = some (a.books + t) → settle 0 es = some (a.books + t) := by
  obtain ⟨es, hsame⟩ := installEndpointFilters_same a pair wanted answers hfail htopology hwave
  refine ⟨es, hsame, fun t ht => ?_⟩
  have hmoves := installEndpointFilters_moves a 0 pair wanted answers t
  rw [hsame, zero_add] at hmoves
  exact hmoves ht

/-- The second connection is not tried where the first one fails. -/
theorem installEndpointFilters_atomic_connection :
    ∃ es, (installEndpointFilters endpointPair ⟨true, true, true, true⟩
        (installAnswers statusInsufficientResources) emptyAdapter).1
        = { emptyAdapter with ledger := es }
      ∧ ∀ t, settle 0 emptyAdapter.ledger = some (emptyAdapter.books + t) →
        settle 0 es = some (emptyAdapter.books + t) :=
  installEndpointFilters_atomic _ _ _ _ (by decide) ⟨by decide, by decide⟩ ⟨by decide, by decide⟩

end WoaRk3576.Audio
