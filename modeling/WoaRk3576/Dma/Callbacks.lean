/-
# Notification callbacks: `RegisterNotificationCallback`, `UnregisterNotificationCallback`

Each channel thread has a table of `MAX_NOTIF_EVENTS` slots.  A client registers a callback with a
context and its device object, which gets a reference; the same callback may be registered with
several contexts, one a stream.

Beside the tables the observer keeps the registry that a client may expect: for each thread the
multiset of the pairs that were registered and not yet unregistered.

`unregisterLoop` goes past a slot only if it is in use and differs from the arguments in BOTH
fields, so it stops at a free slot and at a slot that shares one field.

  * `callbacks_kept` is the result: as long as no unregistration stops at such a slot, the tables
    are the registry.  A table is an array of optional pairs, in which a registration fills the
    first slot that is empty (`registerLoop_values`) and an unregistration that stops at its pair
    empties one that has it; of the order of the slots nothing depends, so the multisets follow.
  * The reference counts are words of 32 bits.  What is counted in them is the number of slots that
    name the device object, over all tables; it need not be small, since both sides wrap alike.
  * `unregister_disturbs` says that each unregistration that stops elsewhere breaks the registry.
  * `dispatch_registered` joins the tables with the dispatch of events: as long as they are kept,
    the callbacks that an event calls are those that the registry has for its thread.
-/
import WoaRk3576.Dma.Events
import WoaRk3576.Lib.Slots
import WoaRk3576.Lib.Transition
import Mathlib.Data.Multiset.AddSub
import Mathlib.Data.Multiset.Count
import Mathlib.Algebra.BigOperators.Group.Finset.Piecewise
import Mathlib.Algebra.BigOperators.Intervals

namespace WoaRk3576.Dma

open WoaRk3576.Lib

/-! ## 1. The tables

Each thread has a table of sixteen slots.  What a table stands for is the multiset of the pairs in
its slots in use: the order in which they are called is that of the slots, and the same pair may be
there twice. -/

/-- A slot of zeroed memory. -/
def ThreadCallback.zero : ThreadCallback := ⟨false, none, 0, 0⟩

def maxNotifEvents : Nat := 16

/-- A callback and its context. -/
abbrev CallbackPair := BitVec 64 × BitVec 64

def ThreadCallback.pair (slot : ThreadCallback) : CallbackPair :=
  (slot.notificationCallback, slot.callbackContext)

/-- The slot is in use for the pair. -/
def ThreadCallback.Holds (slot : ThreadCallback) (pair : CallbackPair) : Prop :=
  slot.inUse = true ∧ slot.pair = pair

instance ThreadCallback.decidableHolds (slot : ThreadCallback) (pair : CallbackPair) :
    Decidable (slot.Holds pair) :=
  inferInstanceAs (Decidable (_ ∧ _))

/-- The condition under which the loop of `UnregisterNotificationCallback` goes on. -/
def ThreadCallback.passed (slot : ThreadCallback) (pair : CallbackPair) : Bool :=
  slot.inUse && slot.notificationCallback != pair.1 && slot.callbackContext != pair.2

/-- The loop of `RegisterNotificationCallback`: the first free slot is taken. -/
def registerLoop (new : ThreadCallback) : List ThreadCallback → Option (List ThreadCallback)
  | [] => none
  | slot :: slots =>
    if slot.inUse then (registerLoop new slots).map (slot :: ·) else some (new :: slots)

/-- The loop of `UnregisterNotificationCallback`: the slot it stops at is zeroed, and its device
object loses a reference. -/
def unregisterLoop (pair : CallbackPair) :
    List ThreadCallback → Option (ThreadCallback × List ThreadCallback)
  | [] => none
  | slot :: slots =>
    if slot.passed pair then
      (unregisterLoop pair slots).map fun found => (found.1, slot :: found.2)
    else some (slot, ThreadCallback.zero :: slots)

/-- The pairs of the slots in use. -/
def tablePairs (slots : List ThreadCallback) : Multiset CallbackPair :=
  ((inUseCallbacks slots).map ThreadCallback.pair : List CallbackPair)

/-- The references that the slots in use have on a device object. -/
def tableReferences (fdo : Nat) (slots : List ThreadCallback) : Nat :=
  slots.countP fun slot => slot.inUse && slot.fdo == some fdo

/-- The slots in use, and no others, have a device object. -/
def TableOwned (slots : List ThreadCallback) : Prop :=
  ∀ slot ∈ slots, slot.fdo.isSome = slot.inUse

@[simp] theorem tablePairs_nil : tablePairs [] = 0 := rfl

theorem tablePairs_cons (slot : ThreadCallback) (slots : List ThreadCallback) :
    tablePairs (slot :: slots)
      = if slot.inUse then slot.pair ::ₘ tablePairs slots else tablePairs slots := by
  unfold tablePairs inUseCallbacks
  by_cases huse : slot.inUse = true <;> simp [huse]

/-- A slot as a place for a pair. -/
def ThreadCallback.value (slot : ThreadCallback) : Option CallbackPair :=
  if slot.inUse then some slot.pair else none

/-- **The pairs of a table** are the values of its slots. -/
theorem tablePairs_eq (slots : List ThreadCallback) :
    tablePairs slots = slotValues (slots.map ThreadCallback.value) := by
  induction slots with
  | nil => rfl
  | cons slot slots ih =>
    rw [tablePairs_cons, ih, List.map_cons, ThreadCallback.value]
    split
    · rw [slotValues_some]
    · rw [slotValues_none]

theorem tableReferences_cons (fdo : Nat) (slot : ThreadCallback) (slots : List ThreadCallback) :
    tableReferences fdo (slot :: slots)
      = tableReferences fdo slots
        + if slot.inUse = true ∧ slot.fdo = some fdo then 1 else 0 := by
  simp [tableReferences, List.countP_cons]

theorem card_tablePairs (slots : List ThreadCallback) :
    (tablePairs slots).card = slots.countP (·.inUse) := by
  simp [tablePairs, inUseCallbacks, List.countP_eq_length_filter]

/-- A pair is in the table if a slot holds it. -/
theorem mem_tablePairs {slots : List ThreadCallback} {pair : CallbackPair} :
    pair ∈ tablePairs slots ↔ ∃ slot ∈ slots, slot.Holds pair := by
  simp [tablePairs, inUseCallbacks, ThreadCallback.Holds, and_assoc]

/-! ## 2. What the loops do to a table

A registration takes the first free slot, which is `Lib/Slots.lean` once a slot is seen as a place
for a pair.  An unregistration passes a slot only if it is in use and both its callback and its
context differ, so it may stop at a free slot, or at one that has only one of the two.  Its lemma
speaks of the slot at which it stops, whichever that is. -/

/-- **The loop of a registration fills the first empty slot**, and fails where there is none. -/
theorem registerLoop_values {new : ThreadCallback} (huse : new.inUse = true)
    (slots : List ThreadCallback) :
    (registerLoop new slots).map (List.map ThreadCallback.value)
      = if none ∈ slots.map ThreadCallback.value
        then some (fillSlot new.pair (slots.map ThreadCallback.value)) else none := by
  induction slots with
  | nil => rfl
  | cons slot slots ih =>
    unfold registerLoop
    cases hslot : slot.inUse with
    | true =>
      have hvalue : slot.value = some slot.pair := if_pos hslot
      rw [if_pos rfl, Option.map_map, List.map_cons, hvalue, fillSlot]
      have hcons : List.map ThreadCallback.value ∘ (slot :: ·)
          = (some slot.pair :: ·) ∘ List.map ThreadCallback.value := by
        funext rest
        rw [Function.comp_apply, List.map_cons, hvalue]
        rfl
      rw [hcons, ← Option.map_map, ih]
      by_cases hroom : none ∈ slots.map ThreadCallback.value
      · rw [if_pos hroom, if_pos (List.mem_cons_of_mem _ hroom)]
        rfl
      · rw [if_neg hroom, if_neg (by simpa using hroom)]
        rfl
    | false =>
      have hvalue : slot.value = none := if_neg (by rw [hslot]; decide)
      have hnew : new.value = some new.pair := if_pos huse
      rw [if_neg Bool.false_ne_true, List.map_cons, hvalue, fillSlot,
        if_pos List.mem_cons_self, Option.map_some, List.map_cons, hnew]

/-- The reference of a registration is one more. -/
theorem registerLoop_references {new : ThreadCallback} (huse : new.inUse = true) :
    ∀ {slots after : List ThreadCallback}, registerLoop new slots = some after → ∀ fdo,
      tableReferences fdo after
        = tableReferences fdo slots + if new.fdo = some fdo then 1 else 0
  | [], _, h, _ => by cases h
  | slot :: slots, after, h, fdo => by
    unfold registerLoop at h
    split at h
    · obtain ⟨rest, hrest, rfl⟩ := Option.map_eq_some_iff.mp h
      rw [tableReferences_cons, tableReferences_cons, registerLoop_references huse hrest fdo]
      omega
    · rename_i hslot
      cases h
      simp [tableReferences_cons, hslot, huse]

/-- The slots in use stay those with a device object. -/
theorem registerLoop_owned {new : ThreadCallback} (hnew : new.fdo.isSome = new.inUse) :
    ∀ {slots after : List ThreadCallback}, registerLoop new slots = some after →
      TableOwned slots → TableOwned after
  | [], _, h, _ => by cases h
  | slot :: slots, after, h, howns => by
    unfold registerLoop at h
    split at h
    · obtain ⟨rest, hrest, rfl⟩ := Option.map_eq_some_iff.mp h
      have howned := registerLoop_owned hnew hrest fun s hs => howns s (List.mem_cons_of_mem _ hs)
      exact List.forall_mem_cons.2 ⟨howns slot List.mem_cons_self, howned⟩
    · cases h
      exact List.forall_mem_cons.2 ⟨hnew, fun s hs => howns s (List.mem_cons_of_mem _ hs)⟩

/-- **A registration**: it fails only on a full table, and adds the pair and one reference. -/
theorem registerLoop_spec (new : ThreadCallback) (huse : new.inUse = true)
    (slots : List ThreadCallback) :
    match registerLoop new slots with
    | none => (tablePairs slots).card = slots.length
    | some after =>
      after.length = slots.length ∧ (tablePairs slots).card < slots.length
        ∧ tablePairs after = new.pair ::ₘ tablePairs slots
        ∧ (∀ fdo, tableReferences fdo after
            = tableReferences fdo slots + if new.fdo = some fdo then 1 else 0)
        ∧ (TableOwned slots → new.fdo.isSome = new.inUse → TableOwned after) := by
  have hvalues := registerLoop_values huse slots
  have hroom := none_mem_iff (slots.map ThreadCallback.value)
  rw [← tablePairs_eq, List.length_map] at hroom
  cases hloop : registerLoop new slots with
  | none =>
    rw [hloop] at hvalues
    have hfull : none ∉ slots.map ThreadCallback.value := by
      intro hmem
      rw [if_pos hmem] at hvalues
      cases hvalues
    have hle : (tablePairs slots).card ≤ slots.length := by
      rw [card_tablePairs]
      exact List.countP_le_length
    exact le_antisymm hle (not_lt.mp (mt hroom.mpr hfull))
  | some after =>
    rw [hloop, Option.map_some] at hvalues
    have hempty : none ∈ slots.map ThreadCallback.value := by
      by_contra hfull
      rw [if_neg hfull] at hvalues
      cases hvalues
    rw [if_pos hempty] at hvalues
    have hafter := Option.some.inj hvalues
    refine ⟨?_, hroom.mp hempty, ?_, registerLoop_references huse hloop,
      fun howns hnew => registerLoop_owned hnew hloop howns⟩
    · have hlength := congrArg List.length hafter
      rwa [length_fillSlot, List.length_map, List.length_map] at hlength
    · rw [tablePairs_eq, hafter, slotValues_fillSlot _ hempty, ← tablePairs_eq]

/-- The slot the unregistration stops at, if it stops. -/
def stopsAt (pair : CallbackPair) (slots : List ThreadCallback) : Option ThreadCallback :=
  slots.find? fun slot => !slot.passed pair

theorem unregisterLoop_stopsAt (pair : CallbackPair) (slots : List ThreadCallback) :
    (unregisterLoop pair slots).map (·.1) = stopsAt pair slots := by
  induction slots with
  | nil => rfl
  | cons slot slots ih =>
    unfold unregisterLoop stopsAt
    by_cases hpassed : slot.passed pair = true
    · rw [if_pos hpassed, List.find?_cons_of_neg (by simp [hpassed])]
      rw [← stopsAt, ← ih]
      cases unregisterLoop pair slots <;> rfl
    · rw [if_neg hpassed, List.find?_cons_of_pos (by simp [hpassed])]
      rfl

/-- A slot that holds the pair is not passed. -/
theorem ThreadCallback.Holds.not_passed {slot : ThreadCallback} {pair : CallbackPair}
    (h : slot.Holds pair) : slot.passed pair = false := by
  obtain ⟨_, hpair⟩ := h
  simp [ThreadCallback.passed, ← hpair, ThreadCallback.pair]

/-- Where nothing stops the loop the pair is not registered. -/
theorem not_mem_of_stopsAt_none {pair : CallbackPair} {slots : List ThreadCallback}
    (h : stopsAt pair slots = none) : pair ∉ tablePairs slots := by
  intro hmem
  obtain ⟨slot, hslot, hholds⟩ := mem_tablePairs.mp hmem
  have hpassed := List.find?_eq_none.mp h slot hslot
  simp [hholds.not_passed] at hpassed

/-- **An unregistration**: the slot it stops at is one of the table, and its pair and its
reference go with it. -/
theorem unregisterLoop_spec (pair : CallbackPair) (slots after : List ThreadCallback)
    (slot : ThreadCallback) (h : unregisterLoop pair slots = some (slot, after)) :
    slot ∈ slots ∧ after.length = slots.length
      ∧ tablePairs slots
        = (if slot.inUse then slot.pair ::ₘ tablePairs after else tablePairs after)
      ∧ (∀ fdo, tableReferences fdo slots = tableReferences fdo after
          + if slot.inUse = true ∧ slot.fdo = some fdo then 1 else 0)
      ∧ (TableOwned slots → TableOwned after) := by
  induction slots generalizing after with
  | nil => simp [unregisterLoop] at h
  | cons s slots ih =>
    unfold unregisterLoop at h
    split at h
    · obtain ⟨⟨found, rest⟩, hfound, heq⟩ := Option.map_eq_some_iff.mp h
      obtain ⟨rfl, rfl⟩ := Prod.mk.inj heq
      obtain ⟨hmem, hlength, hpairs, hrefs, howned⟩ := ih rest hfound
      refine ⟨by simp [hmem], by simpa using hlength, ?_, ?_, ?_⟩
      · rw [tablePairs_cons, tablePairs_cons, hpairs]
        split <;> split <;> first | rfl | exact Multiset.cons_swap _ _ _
      · intro fdo
        rw [tableReferences_cons, tableReferences_cons, hrefs]
        dsimp only
        omega
      · intro howns t ht
        rcases List.mem_cons.mp ht with rfl | ht
        · exact howns t (by simp)
        · exact howned (fun t ht => howns t (by simp [ht])) t ht
    · obtain ⟨rfl, rfl⟩ := Prod.mk.inj (Option.some.inj h)
      refine ⟨by simp, by simp, ?_, ?_, ?_⟩
      · simp [tablePairs_cons, ThreadCallback.zero]
      · intro fdo
        simp [tableReferences_cons, ThreadCallback.zero]
      · intro howns t ht
        rcases List.mem_cons.mp ht with rfl | ht
        · rfl
        · exact howns t (by simp [ht])

/-! ## 3. The calls

A registration also takes a reference on the device object, and an unregistration gives one back.
The observer keeps what was registered and not unregistered, by thread, with no slots. -/

/-- The status a call returns. -/
inductive CallbackStatus
  | success
  | invalidParameter
  | insufficientResources
  deriving DecidableEq, Repr

/-- The tables of the channel threads and the reference counts of the device objects.  The
observer's part: what each count was at first, the pairs registered on each thread and not yet
unregistered, and what the last call had to return. -/
structure CallbackWorld where
  numChan : Nat
  registeredCallbacks : Nat → List ThreadCallback
  referenceCount : Nat → BitVec 32
  faulted : Bool
  status : CallbackStatus
  initialCount : Nat → BitVec 32
  registry : Nat → Multiset CallbackPair
  expected : CallbackStatus

/-- A call with its arguments; `none` is a null thread. -/
inductive CallbackCall
  | register (thread : Option Nat) (fdo : Nat) (pair : CallbackPair)
  | unregister (thread : Option Nat) (pair : CallbackPair)
  deriving DecidableEq, Repr

/-- After `ResetThread` of every channel, on zeroed memory. -/
def CallbackWorld.reset (numChan : Nat) (initialCount : Nat → BitVec 32) : CallbackWorld where
  numChan := numChan
  registeredCallbacks := fun _ => List.replicate maxNotifEvents .zero
  referenceCount := initialCount
  faulted := false
  status := .success
  initialCount := initialCount
  registry := fun _ => 0
  expected := .success

def CallbackWorld.Reset (w : CallbackWorld) : Prop :=
  ∃ numChan initialCount, w = .reset numChan initialCount

/-- `RegisterNotificationCallback`, with the entry the observer makes. -/
def registerNotificationCallback (w : CallbackWorld) (thread : Option Nat) (fdo : Nat)
    (pair : CallbackPair) : CallbackWorld :=
  match thread with
  | none => { w with status := .invalidParameter, expected := .invalidParameter }
  | some t =>
    let room := (w.registry t).card < maxNotifEvents
    let seen : CallbackWorld :=
      { w with
        registry := if room then Function.update w.registry t (pair ::ₘ w.registry t)
          else w.registry
        expected := if room then .success else .insufficientResources }
    match registerLoop ⟨true, some fdo, pair.1, pair.2⟩ (w.registeredCallbacks t) with
    | none => { seen with status := .insufficientResources }
    | some after =>
      { seen with
        registeredCallbacks := Function.update w.registeredCallbacks t after
        referenceCount := Function.update w.referenceCount fdo (w.referenceCount fdo + 1#32)
        status := .success }

/-- `UnregisterNotificationCallback`.  The count of a null device object is not memory. -/
def unregisterNotificationCallback (w : CallbackWorld) (thread : Option Nat)
    (pair : CallbackPair) : CallbackWorld :=
  match thread with
  | none => { w with status := .invalidParameter, expected := .invalidParameter }
  | some t =>
    let seen : CallbackWorld :=
      { w with
        registry := Function.update w.registry t ((w.registry t).erase pair)
        expected := if pair ∈ w.registry t then .success else .invalidParameter }
    match unregisterLoop pair (w.registeredCallbacks t) with
    | none => { seen with status := .invalidParameter }
    | some (slot, after) =>
      match slot.fdo with
      | none => { seen with faulted := true }
      | some fdo =>
        { seen with
          registeredCallbacks := Function.update w.registeredCallbacks t after
          referenceCount := Function.update w.referenceCount fdo (w.referenceCount fdo - 1#32)
          status := .success }

/-- The threads that a call can name are those of the controller's channels. -/
def CallbackCall.Valid (w : CallbackWorld) : CallbackCall → Prop
  | .register thread _ _ | .unregister thread _ => ∀ t, thread = some t → t < w.numChan

instance CallbackCall.decidableValid (w : CallbackWorld) (call : CallbackCall) :
    Decidable (call.Valid w) :=
  match call with
  | .register none _ _ | .unregister none _ => isTrue fun _ ht => by cases ht
  | .register (some t) _ _ | .unregister (some t) _ =>
    decidable_of_iff (t < w.numChan)
      ⟨fun h _ heq => Option.some.inj heq ▸ h, fun h => h t rfl⟩

def callbackStep (w : CallbackWorld) (call : CallbackCall) : Option CallbackWorld :=
  if w.faulted = false ∧ call.Valid w then
    match call with
    | .register thread fdo pair => some (registerNotificationCallback w thread fdo pair)
    | .unregister thread pair => some (unregisterNotificationCallback w thread pair)
  else none

/-! ## 4. The registry is kept

Each call changes one table and one entry of the observer.  A registration adds the same pair to
both, or to none of them if the table is full; an unregistration takes the pair out of both if it
stops at it, or at nothing. -/

/-- The references that all tables have on a device object. -/
def CallbackWorld.references (w : CallbackWorld) (fdo : Nat) : Nat :=
  ∑ t ∈ Finset.range w.numChan, tableReferences fdo (w.registeredCallbacks t)

/-- **The tables are the registry**: every table holds the pairs registered on its thread and not
yet unregistered, at most as many as it has slots; a device object has one reference for each
of its registrations; and the call returned what it had to. -/
structure CallbacksKept (w : CallbackWorld) : Prop where
  not_faulted : w.faulted = false
  pairs : ∀ t, tablePairs (w.registeredCallbacks t) = w.registry t
  bounded : ∀ t, (w.registry t).card ≤ maxNotifEvents
  counted : ∀ fdo, w.referenceCount fdo = w.initialCount fdo + BitVec.ofNat 32 (w.references fdo)
  returned : w.status = w.expected

/-- **The condition on a call**: if an unregistration stops at a slot, that slot holds the
pair. -/
def StopsAtPair (w : CallbackWorld) : CallbackCall → Prop
  | .register _ _ _ => True
  | .unregister none _ => True
  | .unregister (some t) pair =>
    ∀ slot ∈ stopsAt pair (w.registeredCallbacks t), slot.Holds pair

instance StopsAtPair.decidable (w : CallbackWorld) (call : CallbackCall) :
    Decidable (StopsAtPair w call) :=
  match call with
  | .register _ _ _ | .unregister none _ => isTrue trivial
  | .unregister (some t) pair =>
    inferInstanceAs (Decidable (∀ slot ∈ stopsAt pair (w.registeredCallbacks t), slot.Holds pair))

/-- The invariant: the tables are the registry, have their length, and the slots in use are those
with a device object. -/
structure CallbackInv (w : CallbackWorld) : Prop where
  kept : CallbacksKept w
  length : ∀ t, (w.registeredCallbacks t).length = maxNotifEvents
  owned : ∀ t, TableOwned (w.registeredCallbacks t)

variable {w w' : CallbackWorld}

theorem reset_callbackInv (h : w.Reset) : CallbackInv w := by
  obtain ⟨numChan, initialCount, rfl⟩ := h
  have hpairs : tablePairs (List.replicate maxNotifEvents ThreadCallback.zero) = 0 := by decide
  have hnone : ∀ fdo, tableReferences fdo (List.replicate maxNotifEvents ThreadCallback.zero) = 0 :=
    fun _ => rfl
  refine ⟨⟨rfl, fun _ => hpairs, fun _ => by simp [CallbackWorld.reset], ?_, rfl⟩, ?_, ?_⟩
  · intro fdo
    simp [CallbackWorld.references, CallbackWorld.reset, hnone]
  · intro t
    simp [CallbackWorld.reset]
  · intro t slot hslot
    rw [List.eq_of_mem_replicate hslot]
    rfl

/-- The references of all tables after one of them was replaced. -/
theorem references_update {f : Nat → List ThreadCallback} {numChan t fdo m n : Nat}
    {after : List ThreadCallback} (ht : t < numChan)
    (htable : tableReferences fdo after + m = tableReferences fdo (f t) + n) :
    (∑ i ∈ Finset.range numChan, tableReferences fdo (Function.update f t after i)) + m
      = (∑ i ∈ Finset.range numChan, tableReferences fdo (f i)) + n := by
  have hmem : t ∈ Finset.range numChan := Finset.mem_range.mpr ht
  have hrest : ∑ i ∈ Finset.range numChan \ {t},
        tableReferences fdo (Function.update f t after i)
      = ∑ i ∈ Finset.range numChan \ {t}, tableReferences fdo (f i) := by
    refine Finset.sum_congr rfl ?_
    intro i hi
    rw [Function.update_of_ne (by simpa using (Finset.mem_sdiff.mp hi).2)]
  rw [Finset.sum_eq_add_sum_sdiff_singleton_of_mem hmem, hrest, Function.update_self,
    Finset.sum_eq_add_sum_sdiff_singleton_of_mem hmem (fun i => tableReferences fdo (f i))]
  omega

/-- A table and the registry of its thread replaced together. -/
theorem pairs_update {f : Nat → List ThreadCallback} {g : Nat → Multiset CallbackPair} {t : Nat}
    {after : List ThreadCallback} {pairs : Multiset CallbackPair} (h : ∀ i, tablePairs (f i) = g i)
    (hafter : tablePairs after = pairs) (i : Nat) :
    tablePairs (Function.update f t after i) = Function.update g t pairs i := by
  by_cases hi : i = t
  · rw [hi, Function.update_self, Function.update_self, hafter]
  · rw [Function.update_of_ne hi, Function.update_of_ne hi, h]

/-- A registration keeps the invariant. -/
theorem CallbackInv.register (h : CallbackInv w) (thread : Option Nat) (fdo : Nat)
    (pair : CallbackPair) (hvalid : ∀ t, thread = some t → t < w.numChan) :
    CallbackInv (registerNotificationCallback w thread fdo pair) := by
  unfold registerNotificationCallback
  cases thread with
  | none => exact ⟨{ h.kept with returned := rfl }, h.length, h.owned⟩
  | some t =>
    dsimp only
    have hspec := registerLoop_spec ⟨true, some fdo, pair.1, pair.2⟩ rfl (w.registeredCallbacks t)
    rw [h.kept.pairs, h.length] at hspec
    cases hloop : registerLoop ⟨true, some fdo, pair.1, pair.2⟩ (w.registeredCallbacks t) with
    | none =>
      rw [hloop] at hspec
      have hfull : ¬ (w.registry t).card < maxNotifEvents := Nat.not_lt.mpr hspec.ge
      simp only [hfull, if_false]
      exact ⟨{ h.kept with returned := rfl }, h.length, h.owned⟩
    | some after =>
      rw [hloop] at hspec
      obtain ⟨hlength, hroom, hpairs, hrefs, howned⟩ := hspec
      simp only [hroom, if_true]
      refine ⟨⟨h.kept.not_faulted, pairs_update h.kept.pairs hpairs,
        forall_update (p := fun pairs : Multiset CallbackPair => pairs.card ≤ maxNotifEvents) ?_
          h.kept.bounded, ?_, rfl⟩,
        forall_update (p := fun slots : List ThreadCallback => slots.length = maxNotifEvents) hlength
          h.length,
        forall_update (howned (h.owned t) rfl) h.owned⟩
      · rw [Multiset.card_cons]
        exact hroom
      · intro fdo'
        have htotal := references_update (m := 0) (hvalid t rfl) (hrefs fdo')
        have hcounted := h.kept.counted fdo'
        simp only [CallbackWorld.references] at hcounted ⊢
        rw [Nat.add_zero] at htotal
        rw [htotal, BitVec.ofNat_add, ← BitVec.add_assoc, ← hcounted]
        by_cases hfdo : fdo' = fdo
        · subst hfdo
          simp
        · have hne : fdo ≠ fdo' := fun heq => hfdo heq.symm
          simp [hne, Function.update_of_ne hfdo]

/-- An unregistration that stops at the pair, or nowhere, keeps the invariant. -/
theorem CallbackInv.unregister (h : CallbackInv w) (thread : Option Nat) (pair : CallbackPair)
    (hvalid : ∀ t, thread = some t → t < w.numChan)
    (hstops : StopsAtPair w (.unregister thread pair)) :
    CallbackInv (unregisterNotificationCallback w thread pair) := by
  unfold unregisterNotificationCallback
  cases thread with
  | none => exact ⟨{ h.kept with returned := rfl }, h.length, h.owned⟩
  | some t =>
    dsimp only
    have hstop := unregisterLoop_stopsAt pair (w.registeredCallbacks t)
    cases hloop : unregisterLoop pair (w.registeredCallbacks t) with
    | none =>
      have hnot : pair ∉ w.registry t := by
        rw [hloop] at hstop
        rw [← h.kept.pairs]
        exact not_mem_of_stopsAt_none hstop.symm
      rw [Multiset.erase_of_notMem hnot, Function.update_eq_self, if_neg hnot]
      exact ⟨{ h.kept with returned := rfl }, h.length, h.owned⟩
    | some found =>
      obtain ⟨slot, after⟩ := found
      rw [hloop] at hstop
      obtain ⟨huse, hpair⟩ : slot.Holds pair := hstops slot hstop.symm
      obtain ⟨hmem, hlength, hpairs, hrefs, howned⟩ := unregisterLoop_spec pair _ _ _ hloop
      rw [if_pos huse, hpair, h.kept.pairs] at hpairs
      have hregistered : pair ∈ w.registry t := by
        rw [hpairs]
        exact Multiset.mem_cons_self pair _
      have hafter : tablePairs after = (w.registry t).erase pair := by
        rw [hpairs, Multiset.erase_cons_head]
      obtain ⟨fdo, hfdo⟩ := Option.isSome_iff_exists.mp ((h.owned t slot hmem).trans huse)
      dsimp only
      rw [hfdo, if_pos hregistered]
      refine ⟨⟨h.kept.not_faulted, pairs_update h.kept.pairs hafter,
        forall_update (p := fun pairs : Multiset CallbackPair => pairs.card ≤ maxNotifEvents) ?_
          h.kept.bounded, ?_, rfl⟩,
        forall_update (p := fun slots : List ThreadCallback => slots.length = maxNotifEvents)
          (hlength.trans (h.length t)) h.length,
        forall_update (howned (h.owned t)) h.owned⟩
      · exact (Multiset.card_le_card (Multiset.erase_le pair _)).trans (h.kept.bounded t)
      · intro fdo'
        have htotal := references_update (n := 0) (hvalid t rfl) (hrefs fdo').symm
        have hcounted := h.kept.counted fdo'
        simp only [CallbackWorld.references] at hcounted ⊢
        rw [Nat.add_zero] at htotal
        rw [← htotal, BitVec.ofNat_add, ← BitVec.add_assoc] at hcounted
        by_cases heq : fdo' = fdo
        · subst heq
          rw [if_pos ⟨huse, hfdo⟩] at hcounted
          rw [Function.update_self, hcounted, BitVec.add_sub_cancel]
        · have hne : ¬ (slot.inUse = true ∧ slot.fdo = some fdo') := by
            rw [hfdo]
            exact fun hsame => heq (Option.some.inj hsame.2).symm
          rw [if_neg hne] at hcounted
          rw [Function.update_of_ne heq, hcounted]
          simp

theorem callbackStep_callbackInv (h : CallbackInv w) (call : CallbackCall)
    (hstops : StopsAtPair w call) (hs : callbackStep w call = some w') : CallbackInv w' := by
  unfold callbackStep at hs
  split at hs
  · rename_i hready
    cases call with
    | register thread fdo pair =>
      rw [← Option.some.inj hs]
      exact h.register thread fdo pair hready.2
    | unregister thread pair =>
      rw [← Option.some.inj hs]
      exact h.unregister thread pair hready.2 hstops
  · cases hs

/-- **The tables are the registry, if every unregistration stops at its pair.** In every run in
which no unregistration comes first to a free slot, or to one that has the callback or the context
of another pair, each call does to the multiset of a table what it does to the registry, and the
order of the slots does not matter. -/
theorem callbacks_kept (h : ReachIf CallbackWorld.Reset callbackStep StopsAtPair w) :
    CallbacksKept w :=
  (ReachIf.invariant (I := CallbackInv) (fun _ => reset_callbackInv)
    (fun _ call _ hinv hG hs => callbackStep_callbackInv hinv call hG hs) h).kept

/-- **Any other unregistration breaks the registry**: a null device object is taken for one, or
another pair is taken out. -/
theorem unregister_disturbs (h : CallbackInv w) (t : Nat) (pair : CallbackPair)
    (hstops : ¬ StopsAtPair w (.unregister (some t) pair)) :
    ¬ CallbacksKept (unregisterNotificationCallback w (some t) pair) := by
  have hstop := unregisterLoop_stopsAt pair (w.registeredCallbacks t)
  unfold unregisterNotificationCallback
  dsimp only
  cases hloop : unregisterLoop pair (w.registeredCallbacks t) with
  | none =>
    rw [hloop] at hstop
    refine absurd ?_ hstops
    intro slot hslot
    rw [← hstop] at hslot
    cases hslot
  | some found =>
    obtain ⟨slot, after⟩ := found
    rw [hloop] at hstop
    have hwrong : ¬ slot.Holds pair := by
      intro hholds
      refine hstops fun s hs => ?_
      rw [← hstop] at hs
      cases hs
      exact hholds
    obtain ⟨hmem, -, hpairs, -, -⟩ := unregisterLoop_spec pair _ _ _ hloop
    have howned := h.owned t slot hmem
    intro hkept
    dsimp only at hkept
    cases hfdo : slot.fdo with
    | none =>
      rw [hfdo] at hkept
      exact absurd hkept.not_faulted (by simp)
    | some fdo =>
      rw [hfdo] at hkept howned
      have huse : slot.inUse = true := howned.symm
      rw [if_pos huse, h.kept.pairs] at hpairs
      have hafter : tablePairs after = (w.registry t).erase pair := by
        have hall := hkept.pairs t
        simpa using hall
      have hregistered : pair ∈ w.registry t := by
        by_contra hnot
        have hreturned := hkept.returned
        simp [hnot] at hreturned
      have hcons : slot.pair ::ₘ tablePairs after = pair ::ₘ tablePairs after := by
        rw [← hpairs, hafter, Multiset.cons_erase hregistered]
      exact hwrong ⟨huse, (Multiset.cons_inj_left _).mp hcons⟩

/-! ## 5. The tables and the dispatch of events

The world of events has the same tables, and lets anything be registered at any time.  So the calls
of this module are steps of it, and what is dispatched there is what is registered here. -/

/-- A call changes one table at most. -/
theorem callbackStep_tables {call : CallbackCall} (hs : callbackStep w call = some w') :
    w'.registeredCallbacks = w.registeredCallbacks
      ∨ ∃ t after, w'.registeredCallbacks = Function.update w.registeredCallbacks t after := by
  unfold callbackStep at hs
  split at hs
  · cases call with
    | register thread fdo pair =>
      cases hs
      unfold registerNotificationCallback
      cases thread with
      | none => exact .inl rfl
      | some t =>
        dsimp only
        split
        · exact .inl rfl
        · exact .inr ⟨t, _, rfl⟩
    | unregister thread pair =>
      cases hs
      unfold unregisterNotificationCallback
      cases thread with
      | none => exact .inl rfl
      | some t =>
        dsimp only
        split
        · exact .inl rfl
        · split
          · exact .inl rfl
          · exact .inr ⟨t, _, rfl⟩
  · cases hs

/-- **Each call is a step in the world of events**, or none, between any two of its other steps. -/
theorem callbackStep_registers {call : CallbackCall} (hs : callbackStep w call = some w')
    (v : DmaWorld) (hv : v.registeredCallbacks = w.registeredCallbacks) :
    ∃ as v', run dmaStep v as = some v' ∧ v'.registeredCallbacks = w'.registeredCallbacks := by
  rcases callbackStep_tables hs with hsame | ⟨t, after, hafter⟩
  · exact ⟨[], v, rfl, hv.trans hsame.symm⟩
  · refine ⟨[.registerCallbacks t after], _, rfl, ?_⟩
    rw [hafter, ← hv]

/-- **A dispatch calls what is registered**: where the tables are the registry, an event that a DPC
run takes off its list has had just the pairs called that are registered on its thread. -/
theorem dispatch_registered (h : CallbacksKept w) {v v' : DmaWorld} (hv : v.Delivered)
    (htables : v.registeredCallbacks = w.registeredCallbacks) {a : DmaAction}
    (hs : dmaStep v a = some v') {i ev : Nat} (hev : ev ∈ v.due i) (hgone : ev ∉ v'.due i) :
    ∃ called, v'.notified = v.notified ++ called
      ∧ (called.map ThreadCallback.pair : Multiset CallbackPair) = w.registry ev := by
  refine ⟨_, hv.dispatched a v' hs i ev hev hgone, ?_⟩
  rw [htables]
  exact h.pairs ev

/-! ## 6. Two runs

Two streams with one callback are enough for an unregistration to take the wrong slot, since the
callback is shared and only the contexts differ. -/

/-- Two streams register the same callback and the second goes first: the slot of the first is
cleared. -/
theorem unregister_takes_other :
    ∃ w, Reach CallbackWorld.Reset callbackStep w
      ∧ ¬ tablePairs (w.registeredCallbacks 0) = w.registry 0 := by
  have hstart : (CallbackWorld.reset 1 fun _ => 1).Reset := ⟨1, fun _ => 1, rfl⟩
  obtain ⟨w, hreach, hwrong⟩ := exists_reach_of_run callbackStep hstart
    [.register (some 0) 0 (7, 1), .register (some 0) 0 (7, 2), .unregister (some 0) (7, 2)]
    (fun w => decide (¬ tablePairs (w.registeredCallbacks 0) = w.registry 0)) (by decide)
  exact ⟨w, hreach, of_decide_eq_true hwrong⟩

/-- Two pairs that share nothing, registered and unregistered in order. -/
theorem callbacks_kept_run :
    ∃ w, ReachIf CallbackWorld.Reset callbackStep StopsAtPair w ∧ CallbacksKept w
      ∧ w.registry 0 = {(8, 2)} := by
  have hstart : (CallbackWorld.reset 1 fun _ => 1).Reset := ⟨1, fun _ => 1, rfl⟩
  obtain ⟨w, hreach, hleft⟩ := exists_reachIf_of_runIf callbackStep StopsAtPair hstart
    [.register (some 0) 0 (7, 1), .register (some 0) 0 (8, 2), .unregister (some 0) (7, 1)]
    (fun w => decide (w.registry 0 = {(8, 2)})) (by decide)
  exact ⟨w, hreach, callbacks_kept hreach, of_decide_eq_true hleft⟩

end WoaRk3576.Dma
