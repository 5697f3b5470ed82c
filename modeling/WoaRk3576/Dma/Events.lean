/-
# Event delivery of pl330dma: `pl330_dma_irq`, `pl330_dma_dpc`

A channel raises event `ev` with `DMASEV`.  The ISR reads the event status into `irqLastEvents`,
clears the enabled events one by one and queues the DPC; the DPC copies `irqLastEvents` and calls
the callbacks of the channels whose bit is set.

The driver creates two interrupt objects with the same ISR, and only the first has a DPC.  The ISR
of one object may run beside the ISR of the other, and a DPC may be queued again while it runs, so
there may be any number of running DPCs.  Every access to a register or to `irqLastEvents` is a
step of its own.

The observer keeps the events that ISR runs cleared and no DPC run dispatched yet.

* `events_delivered` is the result: as long as `irqLastEvents` is not overwritten before the DPC
  took what was cleared, no cleared event is left behind, and what leaves the observer's list has
  had the callbacks of its slots in use called.
* An event goes through three places, `clearing`, `owed` and `due`.  `EventInv` says of each why it
  moves on: an ISR run that has cleared something queues the DPC, so a DPC run will start; until it
  reads `irqLastEvents` the event stays there, which is the condition on the steps; and once it has
  been read, the run comes to it because its cursor is not past it.
* `dpc_run` is a DPC run that nothing interrupts: it calls the callbacks of just the entries that
  `pl330_dma_dpc` lists.
* `events_lost` is a run in which an event is left behind.
-/
import WoaRk3576.Dma.Config
import WoaRk3576.Lib.Transition

namespace WoaRk3576.Dma

open WoaRk3576.Lib

/-! ## 1. The system

Program counters stand for the places in the two routines, with what they have in local variables.
One ISR runs for each interrupt object, and any number of DPC runs are numbered.  The observer
moves an event from one list to the next as it is cleared, owed and due, and takes it off when it
is dispatched; `notified` is what the callbacks were called for. -/

/-- The two interrupt objects of `Pl330DmaEvtDeviceAdd`. -/
inductive InterruptObject
  | interrupt
  | interrupt2
  deriving DecidableEq, Repr

/-- The object was created with `pl330_dma_dpc`. -/
def InterruptObject.hasDpc : InterruptObject → Bool
  | .interrupt => true
  | .interrupt2 => false

/-- `PL330DMA_THREAD_CALLBACK`.  A device object is a number, `none` is the null pointer. -/
structure ThreadCallback where
  inUse : Bool
  fdo : Option Nat
  notificationCallback : BitVec 64
  callbackContext : BitVec 64
  deriving DecidableEq, Repr

/-- The callbacks of a thread that the dispatch of its event calls. -/
def inUseCallbacks (slots : List ThreadCallback) : List ThreadCallback := slots.filter (·.inUse)

/-- Where `pl330_dma_irq` is, with its local variables. -/
inductive DmaIrq
  | idle
  | store (val : BitVec 32)
  | scan (val : BitVec 32) (ev : Nat) (queueDPC : Bool)
  | clear (val : BitVec 32) (ev : Nat) (queueDPC : Bool)
  deriving DecidableEq, Repr

/-- Where `pl330_dma_dpc` is, with its local variables. -/
inductive DmaDpc
  | idle
  | started
  | dispatch (val : BitVec 32) (ev : Nat)
  deriving DecidableEq, Repr

/-- The controller and its driver.  The observer's part: `clearing` has the events that the
running ISR cleared, `owed` those of the ISR runs that are over, `due` those that were owed when
the DPC run started; a dispatch takes its event from what is due to its run. -/
structure DmaWorld where
  numEvents : Nat
  es : BitVec 32
  inten : BitVec 32
  irqLastEvents : BitVec 32
  registeredCallbacks : Nat → List ThreadCallback
  irq : InterruptObject → DmaIrq
  dpcQueued : Bool
  dpc : Nat → DmaDpc
  notified : List ThreadCallback
  clearing : InterruptObject → List Nat
  owed : List Nat
  due : Nat → List Nat

/-- Besides the ISRs and the DPCs: channels raise events, `_trigger` and `_stop` write `INTEN`,
`_stop` clears an event itself, and callbacks come and go. -/
inductive DmaAction
  | raise (events : BitVec 32)
  | writeInten (inten : BitVec 32)
  | stopClear (ev : Nat)
  | registerCallbacks (ev : Nat) (callbacks : List ThreadCallback)
  | irq (o : InterruptObject)
  | dpcStart (i : Nat)
  | dpc (i : Nat)

/-- Nothing raised, nothing running. -/
def DmaWorld.start (numEvents : Nat) : DmaWorld where
  numEvents := numEvents
  es := 0
  inten := 0
  irqLastEvents := 0
  registeredCallbacks := fun _ => []
  irq := fun _ => .idle
  dpcQueued := false
  dpc := fun _ => .idle
  notified := []
  clearing := fun _ => []
  owed := []
  due := fun _ => []

/-- `NumEvents` is a field of five bits, plus one. -/
def DmaWorld.Started (w : DmaWorld) : Prop := ∃ numEvents ≤ 32, w = .start numEvents

/-- One step of `pl330_dma_irq`. -/
def pl330_dma_irqStep (w : DmaWorld) (o : InterruptObject) : DmaWorld :=
  match w.irq o with
  | .idle => { w with irq := Function.update w.irq o (.store w.es) }
  | .store val =>
    { w with irqLastEvents := val, irq := Function.update w.irq o (.scan val 0 false) }
  | .scan val ev queueDPC =>
    if ev < w.numEvents then
      { w with
        irq := Function.update w.irq o
          (if val.getLsbD ev && w.inten.getLsbD ev then .clear val ev queueDPC
            else .scan val (ev + 1) queueDPC) }
    else
      { w with
        irq := Function.update w.irq o .idle
        dpcQueued := w.dpcQueued || (queueDPC && o.hasDpc)
        clearing := Function.update w.clearing o []
        owed := w.owed ++ w.clearing o }
  | .clear val ev _ =>
    { w with
      es := w.es &&& ~~~BitVec.twoPow 32 ev
      irq := Function.update w.irq o (.scan val (ev + 1) true)
      clearing := Function.update w.clearing o
        (if w.es.getLsbD ev then w.clearing o ++ [ev] else w.clearing o) }

/-- One step of a running `pl330_dma_dpc`. -/
def pl330_dma_dpcStep (w : DmaWorld) (i : Nat) : Option DmaWorld :=
  match w.dpc i with
  | .idle => none
  | .started => some { w with dpc := Function.update w.dpc i (.dispatch w.irqLastEvents 0) }
  | .dispatch val ev =>
    if ev < w.numEvents then
      if val.getLsbD ev then
        some { w with
          dpc := Function.update w.dpc i (.dispatch val (ev + 1))
          notified := w.notified ++ inUseCallbacks (w.registeredCallbacks ev)
          due := Function.update w.due i ((w.due i).erase ev) }
      else some { w with dpc := Function.update w.dpc i (.dispatch val (ev + 1)) }
    else
      some { w with
        dpc := Function.update w.dpc i .idle
        owed := w.owed ++ w.due i
        due := Function.update w.due i [] }

def dmaStep (w : DmaWorld) : DmaAction → Option DmaWorld
  | .raise events => some { w with es := w.es ||| events }
  | .writeInten inten => some { w with inten := inten }
  | .stopClear ev => some { w with es := w.es &&& ~~~BitVec.twoPow 32 ev }
  | .registerCallbacks ev callbacks =>
    some { w with registeredCallbacks := Function.update w.registeredCallbacks ev callbacks }
  | .irq o => some (pl330_dma_irqStep w o)
  | .dpcStart i =>
    if w.dpcQueued = true ∧ w.dpc i = .idle then
      some { w with
        dpcQueued := false
        dpc := Function.update w.dpc i .started
        owed := []
        due := Function.update w.due i w.owed }
    else none
  | .dpc i => pl330_dma_dpcStep w i

/-! ## 2. What must not be lost

`Delivered` says where each event of the observer's lists is in the driver, and that leaving the
last list means to have been dispatched, with the callbacks called.  At rest the lists are empty. -/

/-- Event `ev` was cleared and no DPC run started since. -/
def DmaWorld.Unstarted (w : DmaWorld) (ev : Nat) : Prop :=
  ev ∈ w.owed ∨ ∃ o, ev ∈ w.clearing o

/-- Event `ev` was cleared and the DPC run to dispatch it did not read `irqLastEvents` yet. -/
def DmaWorld.Untaken (w : DmaWorld) (ev : Nat) : Prop :=
  w.Unstarted ev ∨ ∃ i, w.dpc i = .started ∧ ev ∈ w.due i

/-- The running ISR of the object queues the DPC when it ends. -/
def DmaIrq.Queues : DmaIrq → Prop
  | .scan _ _ queueDPC => queueDPC = true
  | .clear _ _ _ => True
  | _ => False

/-- A DPC run will start. -/
def DmaWorld.WillStart (w : DmaWorld) : Prop :=
  w.dpcQueued = true ∨ (w.irq .interrupt).Queues

/-- DPC run `i` has still to dispatch event `ev`. -/
def DmaWorld.WillDispatch (w : DmaWorld) (i ev : Nat) : Prop :=
  (w.dpc i = .started ∧ w.irqLastEvents.getLsbD ev = true)
    ∨ ∃ val ev', w.dpc i = .dispatch val ev' ∧ ev' ≤ ev ∧ val.getLsbD ev = true

/-- Nothing is running and no DPC is queued. -/
def DmaWorld.AtRest (w : DmaWorld) : Prop :=
  (∀ o, w.irq o = .idle) ∧ w.dpcQueued = false ∧ ∀ i, w.dpc i = .idle

/-- **No cleared event is left behind**: what the ISR runs cleared is on its way to a DPC run
that starts afterwards, every run dispatches all that is due to it, an event is no longer due only
once the callbacks in use were called for it, and at rest there is nothing left to dispatch. -/
structure DmaWorld.Delivered (w : DmaWorld) : Prop where
  owed_willStart : w.owed ≠ [] → w.WillStart
  due_willDispatch : ∀ i, ∀ ev ∈ w.due i, ev < w.numEvents ∧ w.WillDispatch i ev
  due_nodup : ∀ i, (w.due i).Nodup
  dispatched : ∀ a w', dmaStep w a = some w' → ∀ i, ∀ ev ∈ w.due i, ev ∉ w'.due i →
    w'.notified = w.notified ++ inUseCallbacks (w.registeredCallbacks ev)
  rest : w.AtRest → w.owed = [] ∧ (∀ o, w.clearing o = []) ∧ ∀ i, w.due i = []

/-- **The condition on a step.**  `irqLastEvents` is overwritten only by a value that has the
events no DPC run took yet; an event is cleared only while `irqLastEvents` has it and no earlier
clear of it waits for a DPC run to start; an ISR run of an object without a DPC that cleared
something ends only when a DPC run will start. -/
def EventKept (w : DmaWorld) : DmaAction → Prop
  | .irq o =>
    match w.irq o with
    | .idle => True
    | .store val => ∀ ev, w.Untaken ev → val.getLsbD ev = true
    | .scan _ ev _ =>
      ¬ ev < w.numEvents → o.hasDpc = false → w.clearing o ≠ [] → w.WillStart
    | .clear _ ev _ =>
      w.es.getLsbD ev = true → w.irqLastEvents.getLsbD ev = true ∧ ¬ w.Unstarted ev
  | _ => True

/-! ## 3. The invariant

A DPC run is the right one for an event if it starts after the clear and its copy has the event's
bit.  The copy is made of `irqLastEvents` after the start, so the bit has to stay there until then;
and the loop has to come to it, so it must lie ahead of the cursor. -/

/-- **The invariant.** -/
structure EventInv (w : DmaWorld) : Prop where
  kept : ∀ ev, w.Untaken ev → w.irqLastEvents.getLsbD ev = true
  bound : ∀ ev, w.Unstarted ev → ev < w.numEvents
  once : (w.owed ++ (w.clearing .interrupt ++ w.clearing .interrupt2)).Nodup
  clearing_queues : ∀ o, w.clearing o ≠ [] → (w.irq o).Queues
  cursor : ∀ o val ev queueDPC, w.irq o = .clear val ev queueDPC → ev < w.numEvents
  owed_willStart : w.owed ≠ [] → w.WillStart
  due_willDispatch : ∀ i, ∀ ev ∈ w.due i, ev < w.numEvents ∧ w.WillDispatch i ev
  due_nodup : ∀ i, (w.due i).Nodup

variable {w w' : DmaWorld}

theorem started_eventInv (h : w.Started) : EventInv w := by
  obtain ⟨numEvents, -, rfl⟩ := h
  constructor
  · rintro ev ((hev | ⟨o, hev⟩) | ⟨i, -, hev⟩) <;> cases hev
  · rintro ev (hev | ⟨o, hev⟩) <;> cases hev
  · exact List.nodup_nil
  · exact fun o ho => absurd rfl ho
  · exact nofun
  · exact fun ho => absurd rfl ho
  · exact fun i ev hev => by cases hev
  · exact fun i => List.nodup_nil

/-- A DPC run that is idle has nothing due. -/
theorem EventInv.due_idle (h : EventInv w) {i : Nat} (hi : w.dpc i = .idle) : w.due i = [] := by
  refine List.eq_nil_iff_forall_not_mem.2 fun ev hev => ?_
  rcases (h.due_willDispatch i ev hev).2 with ⟨hstarted, -⟩ | ⟨val, ev', hdispatch, -⟩
  · rw [hi] at hstarted
    cases hstarted
  · rw [hi] at hdispatch
    cases hdispatch

/-- What is due to a dispatching run lies ahead of it and is in its copy of `irqLastEvents`. -/
theorem EventInv.due_ahead (h : EventInv w) {i cur : Nat} {val : BitVec 32}
    (hi : w.dpc i = .dispatch val cur) : ∀ ev ∈ w.due i, cur ≤ ev ∧ val.getLsbD ev = true := by
  intro ev hev
  rcases (h.due_willDispatch i ev hev).2 with ⟨hstarted, -⟩ | ⟨val', ev', hdispatch, hle, hset⟩
  · rw [hi] at hstarted
    cases hstarted
  · rw [hi] at hdispatch
    cases hdispatch
    exact ⟨hle, hset⟩

/-- A DPC run that is through all events has nothing due. -/
theorem EventInv.due_through (h : EventInv w) {i cur : Nat} {val : BitVec 32}
    (hi : w.dpc i = .dispatch val cur) (hend : ¬ cur < w.numEvents) : w.due i = [] := by
  refine List.eq_nil_iff_forall_not_mem.2 fun ev hev => ?_
  have hbound := (h.due_willDispatch i ev hev).1
  have hle := (h.due_ahead hi ev hev).1
  omega

theorem pl330_dma_irqStep_due (w : DmaWorld) (o : InterruptObject) :
    (pl330_dma_irqStep w o).due = w.due := by
  unfold pl330_dma_irqStep
  cases w.irq o with
  | idle => rfl
  | store val => rfl
  | clear val ev queueDPC => rfl
  | scan val ev queueDPC =>
    dsimp only
    split
    · rfl
    · rfl

/-- **An event is no longer due only once its callbacks were called**: of all steps only the
dispatch of an event that the DPC run has in its copy takes one off. -/
theorem EventInv.dispatched (h : EventInv w) {a : DmaAction} (hs : dmaStep w a = some w')
    {i ev : Nat} (hev : ev ∈ w.due i) (hgone : ev ∉ w'.due i) :
    w'.notified = w.notified ++ inUseCallbacks (w.registeredCallbacks ev) := by
  -- a DPC run changes no list but its own
  have hother : ∀ {j : Nat} (due : List Nat), i ≠ j → ev ∈ Function.update w.due j due i := by
    intro j due hij
    rw [Function.update_of_ne hij]
    exact hev
  cases a with
  | raise events | writeInten inten | stopClear ev' | registerCallbacks ev' callbacks =>
    cases hs
    exact absurd hev hgone
  | irq o =>
    cases hs
    rw [pl330_dma_irqStep_due] at hgone
    exact absurd hev hgone
  | dpcStart j =>
    simp only [dmaStep] at hs
    split at hs
    · rename_i hqueued
      cases hs
      by_cases hij : i = j
      · rw [hij, h.due_idle hqueued.2] at hev
        cases hev
      · exact absurd (hother _ hij) hgone
    · cases hs
  | dpc j =>
    simp only [dmaStep, pl330_dma_dpcStep] at hs
    cases hj : w.dpc j with
    | idle =>
      simp only [hj] at hs
      cases hs
    | started =>
      simp only [hj] at hs
      cases hs
      exact absurd hev hgone
    | dispatch val cur =>
      simp only [hj] at hs
      split at hs
      · split at hs
        · cases hs
          have hij : i = j := by
            by_contra hij
            exact hgone (hother _ hij)
          subst hij
          have hcur : ev = cur := by
            by_contra hne
            refine hgone ?_
            dsimp only
            rw [Function.update_self]
            exact (List.mem_erase_of_ne hne).2 hev
          rw [hcur]
        · cases hs
          exact absurd hev hgone
      · rename_i hend
        cases hs
        by_cases hij : i = j
        · rw [hij, h.due_through hj hend] at hev
          cases hev
        · exact absurd (hother _ hij) hgone

/-- **What the invariant says of the cleared events.** -/
theorem EventInv.delivered (h : EventInv w) : w.Delivered := by
  constructor
  · exact h.owed_willStart
  · exact h.due_willDispatch
  · exact h.due_nodup
  · exact fun _ _ hs _ _ hev hgone => h.dispatched hs hev hgone
  · rintro ⟨hirq, hqueued, hdpc⟩
    refine ⟨?_, fun o => ?_, fun i => h.due_idle (hdpc i)⟩
    · by_contra hne
      rcases h.owed_willStart hne with hw | hw
      · rw [hqueued] at hw
        cases hw
      · rw [hirq] at hw
        exact hw
    · by_contra hne
      have hqueues := h.clearing_queues o hne
      rw [hirq] at hqueues
      exact hqueues

/-- What the controller and the other functions of the driver change does not matter. -/
theorem EventInv.environment (h : EventInv w) (es inten : BitVec 32)
    (registeredCallbacks : Nat → List ThreadCallback) (notified : List ThreadCallback) :
    EventInv { w with
      es := es
      inten := inten
      registeredCallbacks := registeredCallbacks
      notified := notified } :=
  ⟨h.kept, h.bound, h.once, h.clearing_queues, h.cursor, h.owed_willStart, h.due_willDispatch,
    h.due_nodup⟩

/-! ### The ISR

The store is the step that may take bits away from `irqLastEvents`; the clear puts a new event into
the observer's list; the end queues the DPC. -/

/-- A step of the ISR that changes its program counter and neither clears nor ends. -/
theorem EventInv.irq_moved (h : EventInv w) {o : InterruptObject} {irq : DmaIrq}
    (hqueues : (w.irq o).Queues → irq.Queues)
    (hcursor : ∀ val ev queueDPC, irq = .clear val ev queueDPC → ev < w.numEvents) :
    EventInv { w with irq := Function.update w.irq o irq } := by
  have hmono : ∀ o', (w.irq o').Queues → (Function.update w.irq o irq o').Queues := by
    intro o' ho'
    by_cases heq : o' = o
    · subst heq
      rw [Function.update_self]
      exact hqueues ho'
    · rwa [Function.update_of_ne heq]
  constructor
  · exact h.kept
  · exact h.bound
  · exact h.once
  · exact fun o' ho' => hmono o' (h.clearing_queues o' ho')
  · intro o' val ev queueDPC ho'
    by_cases heq : o' = o
    · subst heq
      exact hcursor val ev queueDPC ((Function.update_self ..).symm.trans ho')
    · exact h.cursor o' val ev queueDPC ((Function.update_of_ne heq ..).symm.trans ho')
  · exact fun ho => (h.owed_willStart ho).imp_right (hmono _)
  · exact h.due_willDispatch
  · exact h.due_nodup

/-- The ISR overwrites `irqLastEvents`. -/
theorem EventInv.irq_store (h : EventInv w) {val : BitVec 32}
    (hkept : ∀ ev, w.Untaken ev → val.getLsbD ev = true) :
    EventInv { w with irqLastEvents := val } := by
  refine { h with
    kept := hkept
    due_willDispatch := fun i ev hev => ?_ }
  obtain ⟨hbound, hdispatch⟩ := h.due_willDispatch i ev hev
  refine ⟨hbound, hdispatch.imp_left fun hstarted => ?_⟩
  exact ⟨hstarted.1, hkept ev (.inr ⟨i, hstarted.1, hev⟩)⟩

/-- The ISR clears event `ev` in the controller. -/
theorem EventInv.irq_clear (h : EventInv w) {o : InterruptObject} {ev : Nat} (es : BitVec 32)
    (hqueues : (w.irq o).Queues) (hbound : ev < w.numEvents)
    (hlast : w.irqLastEvents.getLsbD ev = true) (hfree : ¬ w.Unstarted ev) :
    EventInv { w with
      es := es
      clearing := Function.update w.clearing o (w.clearing o ++ [ev]) } := by
  have hmem : ∀ o' ev', ev' ∈ Function.update w.clearing o (w.clearing o ++ [ev]) o' →
      ev' = ev ∨ ev' ∈ w.clearing o' := by
    intro o' ev' hev'
    by_cases heq : o' = o
    · subst heq
      rw [Function.update_self, List.mem_append, List.mem_singleton] at hev'
      exact hev'.symm
    · rw [Function.update_of_ne heq] at hev'
      exact .inr hev'
  constructor
  · rintro ev' ((hev' | ⟨o', hev'⟩) | hev')
    · exact h.kept ev' (.inl (.inl hev'))
    · rcases hmem o' ev' hev' with rfl | hev'
      · exact hlast
      · exact h.kept ev' (.inl (.inr ⟨o', hev'⟩))
    · exact h.kept ev' (.inr hev')
  · rintro ev' (hev' | ⟨o', hev'⟩)
    · exact h.bound ev' (.inl hev')
    · rcases hmem o' ev' hev' with rfl | hev'
      · exact hbound
      · exact h.bound ev' (.inr ⟨o', hev'⟩)
  · have hnot : ev ∉ w.owed ++ (w.clearing .interrupt ++ w.clearing .interrupt2) := by
      intro hev
      rcases List.mem_append.1 hev with hev | hev
      · exact hfree (.inl hev)
      · rcases List.mem_append.1 hev with hev | hev
        · exact hfree (.inr ⟨_, hev⟩)
        · exact hfree (.inr ⟨_, hev⟩)
    have hcons : (ev :: (w.owed ++ (w.clearing .interrupt ++ w.clearing .interrupt2))).Nodup :=
      List.nodup_cons.2 ⟨hnot, h.once⟩
    refine (List.Perm.nodup_iff ?_).1 hcons
    cases o with
    | interrupt =>
      show List.Perm _ (w.owed ++ ((w.clearing .interrupt ++ [ev]) ++ w.clearing .interrupt2))
      rw [List.append_assoc, ← List.append_assoc w.owed, ← List.append_assoc w.owed]
      exact List.perm_middle.symm
    | interrupt2 =>
      show List.Perm _ (w.owed ++ (w.clearing .interrupt ++ (w.clearing .interrupt2 ++ [ev])))
      rw [← List.append_assoc, ← List.append_assoc, ← List.append_assoc]
      exact (List.perm_append_singleton ev _).symm
  · intro o' ho'
    by_cases heq : o' = o
    · rw [heq]
      exact hqueues
    · exact h.clearing_queues o' fun hnil => ho' ((Function.update_of_ne heq ..).trans hnil)
  · exact h.cursor
  · exact h.owed_willStart
  · exact h.due_willDispatch
  · exact h.due_nodup

/-- The ISR ends: what it cleared is owed. -/
theorem EventInv.irq_end (h : EventInv w) {o : InterruptObject} {val : BitVec 32} {ev : Nat}
    {queueDPC : Bool} (ho : w.irq o = .scan val ev queueDPC)
    (hstart : o.hasDpc = false → w.clearing o ≠ [] → w.WillStart) :
    EventInv { w with
      irq := Function.update w.irq o .idle
      dpcQueued := w.dpcQueued || (queueDPC && o.hasDpc)
      clearing := Function.update w.clearing o []
      owed := w.owed ++ w.clearing o } := by
  have hunstarted : ∀ ev, (ev ∈ w.owed ++ w.clearing o ∨
      ∃ o', ev ∈ Function.update w.clearing o [] o') → w.Unstarted ev := by
    rintro ev (hev | ⟨o', hev⟩)
    · exact (List.mem_append.1 hev).imp_right fun hev => ⟨o, hev⟩
    · by_cases heq : o' = o
      · rw [heq, Function.update_self] at hev
        cases hev
      · rw [Function.update_of_ne heq] at hev
        exact .inr ⟨o', hev⟩
  constructor
  · rintro ev (hev | hev)
    · exact h.kept ev (.inl (hunstarted ev hev))
    · exact h.kept ev (.inr hev)
  · exact fun ev hev => h.bound ev (hunstarted ev hev)
  · refine (List.Perm.nodup_iff ?_).1 h.once
    cases o with
    | interrupt =>
      show List.Perm _ ((w.owed ++ w.clearing .interrupt) ++ ([] ++ w.clearing .interrupt2))
      rw [List.nil_append, List.append_assoc]
    | interrupt2 =>
      show List.Perm _ ((w.owed ++ w.clearing .interrupt2) ++ (w.clearing .interrupt ++ []))
      rw [List.append_nil, List.append_assoc]
      exact List.perm_append_comm.append_left _
  · intro o' ho'
    have hne : o' ≠ o := by
      rintro rfl
      exact ho' (Function.update_self ..)
    have hclearing : w.clearing o' ≠ [] := fun hnil =>
      ho' ((Function.update_of_ne hne ..).trans hnil)
    show (Function.update w.irq o .idle o').Queues
    rw [Function.update_of_ne hne]
    exact h.clearing_queues o' hclearing
  · intro o' val' ev' queueDPC' ho'
    have hne : o' ≠ o := by
      rintro rfl
      have hidle := (Function.update_self ..).symm.trans ho'
      cases hidle
    exact h.cursor o' val' ev' queueDPC' ((Function.update_of_ne hne ..).symm.trans ho')
  · intro howed
    -- either an earlier run is owed something, or this one cleared something
    have hwill : w.WillStart ∨ (o.hasDpc = true ∧ queueDPC = true) := by
      by_cases hclearing : w.clearing o = []
      · rw [hclearing, List.append_nil] at howed
        exact .inl (h.owed_willStart howed)
      · cases hdpc : o.hasDpc with
        | false => exact .inl (hstart hdpc hclearing)
        | true =>
          have hqueues := h.clearing_queues o hclearing
          rw [ho] at hqueues
          exact .inr ⟨rfl, hqueues⟩
    rcases hwill with (hqueued | hirq) | ⟨hdpc, hqueue⟩
    · refine .inl ?_
      rw [hqueued, Bool.true_or]
    · cases o with
      | interrupt =>
        rw [ho] at hirq
        refine .inl ?_
        show (w.dpcQueued || (queueDPC && true)) = true
        rw [show queueDPC = true from hirq, Bool.true_and, Bool.or_true]
      | interrupt2 => exact .inr hirq
    · refine .inl ?_
      rw [hdpc, hqueue, Bool.true_and, Bool.or_true]
  · exact h.due_willDispatch
  · exact h.due_nodup

/-- **A step of the ISR keeps the invariant.** -/
theorem EventInv.irq (h : EventInv w) {o : InterruptObject} (hG : EventKept w (.irq o)) :
    EventInv (pl330_dma_irqStep w o) := by
  unfold pl330_dma_irqStep
  cases ho : w.irq o with
  | idle =>
    refine h.irq_moved (fun hqueues => ?_) nofun
    rw [ho] at hqueues
    exact hqueues.elim
  | store val =>
    simp only [EventKept, ho] at hG
    refine (h.irq_store hG).irq_moved (fun hqueues => ?_) nofun
    rw [show DmaWorld.irq { w with irqLastEvents := val } o = .store val from ho] at hqueues
    exact hqueues.elim
  | scan val ev queueDPC =>
    simp only [EventKept, ho] at hG
    by_cases hev : ev < w.numEvents
    · simp only [hev, if_true]
      refine h.irq_moved (fun hqueues => ?_) (fun val' ev' queueDPC' heq => ?_)
      · rw [ho] at hqueues
        split
        · exact trivial
        · exact hqueues
      · split at heq
        · cases heq
          exact hev
        · cases heq
    · simp only [hev, if_false]
      exact h.irq_end ho (hG hev)
  | clear val ev queueDPC =>
    simp only [EventKept, ho] at hG
    have hqueues : (w.irq o).Queues := by
      rw [ho]
      exact trivial
    have hbound := h.cursor o val ev queueDPC ho
    dsimp only
    cases hes : w.es.getLsbD ev with
    | false =>
      rw [if_neg Bool.false_ne_true, Function.update_eq_self]
      have hes := h.environment (w.es &&& ~~~BitVec.twoPow 32 ev) w.inten w.registeredCallbacks
        w.notified
      refine @EventInv.irq_moved _ hes o (.scan val (ev + 1) true) (fun _ => ?_) nofun
      exact rfl
    | true =>
      obtain ⟨hlast, hfree⟩ := hG hes
      rw [if_pos rfl]
      have hclear := h.irq_clear (w.es &&& ~~~BitVec.twoPow 32 ev) hqueues hbound hlast hfree
      refine @EventInv.irq_moved _ hclear o (.scan val (ev + 1) true) (fun _ => ?_) nofun
      exact rfl

/-! ### The DPC

The start of a run takes over what is owed.  Whatever another run has still to dispatch stays with
that run. -/

/-- What is due to another run is still on its way. -/
theorem DmaWorld.WillDispatch.update {i j ev : Nat} {d : DmaDpc} (h : w.WillDispatch j ev)
    (hne : j ≠ i) : DmaWorld.WillDispatch { w with dpc := Function.update w.dpc i d } j ev := by
  rcases h with ⟨hstarted, hlast⟩ | ⟨val, ev', hdispatch, hev⟩
  · exact .inl ⟨(Function.update_of_ne hne ..).trans hstarted, hlast⟩
  · exact .inr ⟨val, ev', (Function.update_of_ne hne ..).trans hdispatch, hev⟩

/-- A DPC run moves on: what stays due to it is a part of what was due. -/
theorem EventInv.dpc_moved (h : EventInv w) {i : Nat} {d : DmaDpc} {due : List Nat}
    (hd : d ≠ .started) (hsub : List.Sublist due (w.due i))
    (hdue : ∀ ev ∈ due, DmaWorld.WillDispatch { w with dpc := Function.update w.dpc i d } i ev) :
    EventInv { w with
      dpc := Function.update w.dpc i d
      due := Function.update w.due i due } := by
  constructor
  · rintro ev (hev | ⟨j, hj, hev⟩)
    · exact h.kept ev (.inl hev)
    · rcases of_update (q := (· = DmaDpc.started)) hj with ⟨-, hj⟩ | ⟨hne, hj⟩
      · exact absurd hj hd
      · have hev : ev ∈ w.due j := by
          rcases of_update (q := (ev ∈ ·)) hev with ⟨heq, -⟩ | ⟨-, hev⟩
          · exact absurd heq hne
          · exact hev
        exact h.kept ev (.inr ⟨j, hj, hev⟩)
  · exact h.bound
  · exact h.once
  · exact h.clearing_queues
  · exact h.cursor
  · exact h.owed_willStart
  · intro j ev hev
    rcases of_update (q := (ev ∈ ·)) hev with ⟨rfl, hmem⟩ | ⟨hne, hev⟩
    · exact ⟨(h.due_willDispatch j ev (hsub.subset hmem)).1, hdue ev hmem⟩
    · obtain ⟨hbound, hwill⟩ := h.due_willDispatch j ev hev
      exact ⟨hbound, hwill.update hne⟩
  · exact forall_update ((h.due_nodup i).sublist hsub) h.due_nodup

/-- A DPC run starts: what is owed is due to it. -/
theorem EventInv.dpcStart (h : EventInv w) {i : Nat} (hi : w.dpc i = .idle) :
    EventInv { w with
      dpcQueued := false
      dpc := Function.update w.dpc i .started
      owed := []
      due := Function.update w.due i w.owed } := by
  constructor
  · rintro ev ((hev | hev) | ⟨j, hj, hev⟩)
    · cases hev
    · exact h.kept ev (.inl (.inr hev))
    · rcases of_update (q := (ev ∈ ·)) hev with ⟨-, hev⟩ | ⟨hne, hev⟩
      · exact h.kept ev (.inl (.inl hev))
      · exact h.kept ev (.inr ⟨j, (Function.update_of_ne hne ..).symm.trans hj, hev⟩)
  · rintro ev (hev | hev)
    · cases hev
    · exact h.bound ev (.inr hev)
  · exact (List.nodup_append.1 h.once).2.1
  · exact h.clearing_queues
  · exact h.cursor
  · exact fun hne => absurd rfl hne
  · intro j ev hev
    rcases of_update (q := (ev ∈ ·)) hev with ⟨rfl, hmem⟩ | ⟨hne, hev⟩
    · refine ⟨h.bound ev (.inl hmem), .inl ⟨Function.update_self .., ?_⟩⟩
      exact h.kept ev (.inl (.inl hmem))
    · obtain ⟨hbound, hwill⟩ := h.due_willDispatch j ev hev
      exact ⟨hbound, hwill.update hne⟩
  · exact forall_update (List.nodup_append.1 h.once).1 h.due_nodup

/-- **A step of a DPC keeps the invariant.** -/
theorem EventInv.dpc (h : EventInv w) {i : Nat} (hs : pl330_dma_dpcStep w i = some w') :
    EventInv w' := by
  unfold pl330_dma_dpcStep at hs
  cases hi : w.dpc i with
  | idle =>
    simp only [hi] at hs
    cases hs
  | started =>
    simp only [hi] at hs
    cases hs
    have hmoved := h.dpc_moved (i := i) (d := .dispatch w.irqLastEvents 0) nofun
      (List.Sublist.refl (w.due i)) fun ev hev => by
        refine .inr ⟨w.irqLastEvents, 0, Function.update_self .., Nat.zero_le ev, ?_⟩
        exact h.kept ev (.inr ⟨i, hi, hev⟩)
    rwa [Function.update_eq_self] at hmoved
  | dispatch val cur =>
    have hdue := h.due_ahead hi
    simp only [hi] at hs
    split at hs
    · split at hs
      · cases hs
        have hsub : List.Sublist ((w.due i).erase cur) (w.due i) := List.erase_sublist
        have hmoved := h.dpc_moved (i := i) (d := .dispatch val (cur + 1)) nofun hsub
          fun ev hev => by
            obtain ⟨hne, hev⟩ := (h.due_nodup i).mem_erase_iff.1 hev
            obtain ⟨hle, hset⟩ := hdue ev hev
            exact .inr ⟨val, cur + 1, Function.update_self .., by omega, hset⟩
        exact hmoved.environment w.es w.inten w.registeredCallbacks _
      · rename_i hclear
        cases hs
        have hmoved := h.dpc_moved (i := i) (d := .dispatch val (cur + 1)) nofun
          (List.Sublist.refl (w.due i)) fun ev hev => by
            obtain ⟨hle, hset⟩ := hdue ev hev
            have hne : ev ≠ cur := by
              rintro rfl
              exact hclear hset
            exact .inr ⟨val, cur + 1, Function.update_self .., by omega, hset⟩
        rwa [Function.update_eq_self] at hmoved
    · rename_i hend
      cases hs
      rw [h.due_through hi hend, List.append_nil]
      exact h.dpc_moved nofun (List.nil_sublist _) nofun

/-! ## 4. Whole runs

One lemma for each kind of step, and the rule for runs with a condition (`Lib/Transition.lean`). -/

/-- **A step that meets the condition keeps the invariant.** -/
theorem EventInv.step (h : EventInv w) {a : DmaAction} (hG : EventKept w a)
    (hs : dmaStep w a = some w') : EventInv w' := by
  cases a with
  | raise events =>
    cases hs
    exact h.environment _ _ _ _
  | writeInten inten =>
    cases hs
    exact h.environment _ _ _ _
  | stopClear ev =>
    cases hs
    exact h.environment _ _ _ _
  | registerCallbacks ev callbacks =>
    cases hs
    exact h.environment _ _ _ _
  | irq o =>
    cases hs
    exact h.irq hG
  | dpcStart i =>
    simp only [dmaStep] at hs
    split at hs
    · rename_i hqueued
      cases hs
      exact h.dpcStart hqueued.2
    · cases hs
  | dpc i => exact h.dpc hs

/-- **Events are delivered in every run whose steps keep them**: whatever the ISR runs cleared is
on its way to a DPC run that starts afterwards, and at rest nothing is left.  An ISR run that has
cleared an event queues the DPC, and the DPC run that reads `irqLastEvents` next has not gone past
the event's channel. -/
theorem events_delivered (w : DmaWorld) (h : ReachIf DmaWorld.Started dmaStep EventKept w) :
    w.Delivered := by
  refine EventInv.delivered ?_
  exact ReachIf.invariant (fun _ hw => started_eventInv hw)
    (fun _ _ _ hw hG hs => hw.step hG hs) h

/-! ## 5. A DPC run

Without interruptions the steps of a DPC run can be counted, and it does what the function on the
whole list does. -/

/-- The rest of a run, with `m` events to come. -/
theorem dispatch_run {i : Nat} {val : BitVec 32} : ∀ (m ev : Nat) (w : DmaWorld),
    w.numEvents = ev + m → w.dpc i = .dispatch val ev →
      ∃ w', run dmaStep w (List.replicate (m + 1) (.dpc i)) = some w' ∧ w'.dpc i = .idle
        ∧ w'.notified = w.notified ++ ((List.range' ev m).filter val.getLsbD).flatMap
          fun ev => inUseCallbacks (w.registeredCallbacks ev)
  | 0, ev, w, hnum, hi => by
    have hend : ¬ ev < w.numEvents := by omega
    let through : DmaWorld := { w with
      dpc := Function.update w.dpc i .idle
      owed := w.owed ++ w.due i
      due := Function.update w.due i [] }
    refine ⟨through, ?_, Function.update_self .., (List.append_nil _).symm⟩
    show run dmaStep w [.dpc i] = some through
    simp only [run, dmaStep, pl330_dma_dpcStep, hi, hend, if_false, Option.bind_some]
    rfl
  | m + 1, ev, w, hnum, hi => by
    have hmore : ev < w.numEvents := by omega
    cases hset : val.getLsbD ev with
    | true =>
      obtain ⟨w', hrun, hidle, hnotified⟩ := dispatch_run m (ev + 1)
        { w with
          dpc := Function.update w.dpc i (.dispatch val (ev + 1))
          notified := w.notified ++ inUseCallbacks (w.registeredCallbacks ev)
          due := Function.update w.due i ((w.due i).erase ev) }
        (by dsimp only; omega) (Function.update_self ..)
      refine ⟨w', ?_, hidle, ?_⟩
      · rw [List.replicate_succ, run]
        simp only [dmaStep, pl330_dma_dpcStep, hi, hmore, hset, if_true, Option.bind_some]
        exact hrun
      · rw [hnotified, List.range'_succ, List.filter_cons_of_pos hset, List.flatMap_cons,
          List.append_assoc]
    | false =>
      obtain ⟨w', hrun, hidle, hnotified⟩ := dispatch_run m (ev + 1)
        { w with dpc := Function.update w.dpc i (.dispatch val (ev + 1)) }
        (by dsimp only; omega) (Function.update_self ..)
      refine ⟨w', ?_, hidle, ?_⟩
      · rw [List.replicate_succ, run]
        simp only [dmaStep, pl330_dma_dpcStep, hi, hmore, hset, if_true, Bool.false_eq_true,
          if_false, Option.bind_some]
        exact hrun
      · rw [hnotified, List.range'_succ, List.filter_cons_of_neg (by rw [hset]; decide)]

/-- **A DPC run that nothing interrupts** calls the callbacks of the entries that `pl330_dma_dpc`
dispatches to, in their order. -/
theorem dpc_run {w : DmaWorld} {i : Nat} (numEvents : BitVec 6)
    (hnum : w.numEvents = numEvents.toNat) (hi : w.dpc i = .started) :
    ∃ w', run dmaStep w (List.replicate (w.numEvents + 2) (.dpc i)) = some w' ∧ w'.dpc i = .idle
      ∧ w'.notified = w.notified ++ (pl330_dma_dpc numEvents w.irqLastEvents).flatMap
        fun ev => inUseCallbacks (w.registeredCallbacks ev) := by
  obtain ⟨w', hrun, hidle, hnotified⟩ := dispatch_run w.numEvents 0
    { w with dpc := Function.update w.dpc i (.dispatch w.irqLastEvents 0) }
    (Nat.zero_add _).symm (Function.update_self ..)
  refine ⟨w', ?_, hidle, ?_⟩
  · rw [List.replicate_succ, run]
    simp only [dmaStep, pl330_dma_dpcStep, hi, Option.bind_some]
    exact hrun
  · rw [hnotified, pl330_dma_dpc, List.range_eq_range', hnum]

/-! ## 6. Events that are delivered, and one that is not

The second run is the shortest that loses an event: an ISR run between the end of another and the
DPC run that it has queued, with a different event. -/

/-- One event, cleared and dispatched: `events_delivered` at the state in which the DPC runs. -/
theorem events_delivered_of_run : ∃ w : DmaWorld, w.due 0 = [0] ∧ w.Delivered := by
  have hstart : ReachIf DmaWorld.Started dmaStep EventKept (.start 1) :=
    .start ⟨1, by decide, rfl⟩
  have hraise := hstart.after (.raise 1) rfl trivial
  have henable := hraise.after (.writeInten 1) rfl trivial
  have hread := henable.after (.irq .interrupt) rfl trivial
  have hstore := hread.after (.irq .interrupt) rfl (by
    rintro ev ((hev | ⟨o, hev⟩) | ⟨i, -, hev⟩) <;> cases hev)
  have hscan := hstore.after (.irq .interrupt) rfl fun hend => absurd (by decide) hend
  have hclear := hscan.after (.irq .interrupt) rfl (by
    refine fun _ => ⟨by decide, ?_⟩
    rintro (hev | ⟨o, hev⟩) <;> cases hev)
  have hend := hclear.after (.irq .interrupt) rfl fun _ hdpc => by cases hdpc
  have hdpc := hend.after (.dpcStart 0) rfl trivial
  exact ⟨_, rfl, events_delivered _ hdpc⟩

/-- An ISR run that clears event 0. -/
def clearFirst : List DmaAction :=
  [.raise 1, .writeInten 3, .irq .interrupt, .irq .interrupt, .irq .interrupt, .irq .interrupt,
    .irq .interrupt, .irq .interrupt]

/-- An ISR run that clears event 1, and the DPC run after it. -/
def clearSecond : List DmaAction :=
  [.raise 2, .irq .interrupt, .irq .interrupt, .irq .interrupt, .irq .interrupt, .irq .interrupt,
    .irq .interrupt, .dpcStart 0, .dpc 0, .dpc 0, .dpc 0, .dpc 0]

/-- **The second ISR run overwrites what the DPC did not read yet**: event 0 is never
dispatched. -/
theorem events_lost : ∃ w, Reach DmaWorld.Started dmaStep w ∧ ¬ w.Delivered := by
  refine ⟨_, reach_of_run (clearFirst ++ clearSecond) (.start 2) _ (.start ⟨2, by decide, rfl⟩) rfl,
    fun h => ?_⟩
  have hrest := h.rest ⟨fun o => by cases o <;> rfl, rfl, fun i => ?_⟩
  · cases hrest.1
  · cases i with
    | zero => rfl
    | succ i => rfl

end WoaRk3576.Dma
