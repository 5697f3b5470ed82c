/-
# The runs of the link state are runs of interrupt delivery

`Net/LinkState.lean` and `Net/Interrupt.lean` both contain `DeviceInterruptIsr` and
`DeviceInterruptDpc`, each with the accesses that its result depends on.  The link state needs
the ISR's test of the link bit and its read of the PHY's status as two steps, and the DPC's read
and its request for the work item; it leaves the packet queues out.  The notifications need the
queue pointers and who is armed, and take the ISR's test and read as one step.

`linkStep_interrupts` says that both are the same driver.  `LinkWorld.interrupts` is the state
of interrupt delivery that a state of the link model shows, and every step of the link model is
a run of interrupt delivery on it:

* an ISR that found the link bit and has not read the PHY's status is still `idle`; when it
  reads, the bit is set again and the ISR takes its first step;
* a DPC that reads the PHY's status or asks for the work item has already notified the queues,
  and only `Interrupt_Enable` is left to write;
* a work item that reads the PHY's status clears the device's bit and does nothing else.

`Reach.simulates` carries this over whole runs, so what `Net/Interrupt.lean` keeps invariant is
kept in the link model too.  `linkWorld_enable` is one instance: whatever the work items do, the
enable register holds what is wanted, or nothing is enabled but the summary bit.
-/
import WoaRk3576.Net.LinkState

namespace WoaRk3576.Net

open WoaRk3576.Lib

/-! ## 1. The state that both have

The link model has fewer steps than interrupt delivery in some places and more in others: it
notifies no queue, and it reads the PHY and runs work items.  So a step of it is followed by a run
of interrupt delivery, of no step, of one, or of two.  What it does not have, the queue pointers
and the observer, may be anything. -/

/-- Where the ISR of `Net/Interrupt.lean` is: at its start until the PHY's status is read. -/
def LinkIsr.interrupts : LinkIsr → Isr
  | .idle | .readPhyIf => .idle
  | .readStatus new => .readStatus new
  | .acknowledge channel0 new => .acknowledge channel0 new
  | .mask new => .mask new
  | .post new => .post new
  | .queueDpc => .queueDpc

/-- Where the DPC of `Net/Interrupt.lean` is. -/
def LinkDpc.interrupts : LinkDpc → Dpc
  | .idle => .idle
  | .exchange => .exchange
  | .readPhyIf | .enqueue | .enable => .enable

/-- The state of interrupt delivery, with queue pointers that the link model does not have and no
call of `DeviceSetNotification*Queue` between its two steps. -/
def LinkWorld.interrupts (l : LinkWorld Nat) (queue armed raised : QueueKind → Bool) :
    InterruptWorld where
  regs := l.regs
  interruptStatus := l.interruptStatus
  interruptsWanted := l.interruptsWanted
  queue := queue
  isr := l.isr.interrupts
  dpcQueued := l.dpcQueued
  dpc := LinkDpc.interrupts ∘ l.dpc
  setNotification := fun _ => .idle
  armed := armed
  raised := raised

/-- `w` is what interrupt delivery shows of `l`. -/
def LinkWorld.Shows (l : LinkWorld Nat) (w : InterruptWorld) : Prop :=
  ∃ queue armed raised, w = l.interrupts queue armed raised

/-- `l` is followed by a run of interrupt delivery that ends in what it shows of `l'`. -/
def LinkWorld.Follows (l l' : LinkWorld Nat) : Prop :=
  ∀ w, l.Shows w → ∃ bs w', run interruptStep w bs = some w' ∧ l'.Shows w'

variable {l l' : LinkWorld Nat}

/-- A step that changes nothing of what is shown. -/
theorem LinkWorld.Follows.silent
    (h : ∀ queue armed raised,
      l.interrupts queue armed raised = l'.interrupts queue armed raised) : l.Follows l' := by
  rintro w ⟨queue, armed, raised, rfl⟩
  exact ⟨[], _, rfl, queue, armed, raised, h queue armed raised⟩

/-- A step that interrupt delivery takes too, and that leaves the queue pointers alone. -/
theorem LinkWorld.Follows.same (a : InterruptAction)
    (h : ∀ queue armed raised, interruptStep (l.interrupts queue armed raised) a
      = some (l'.interrupts queue armed raised)) : l.Follows l' := by
  rintro w ⟨queue, armed, raised, rfl⟩
  refine ⟨[a], _, ?_, queue, armed, raised, rfl⟩
  rw [run, h]
  rfl

/-- What is shown of a DPC that moved. -/
theorem interrupts_update (dpc : Nat → LinkDpc) (i : Nat) (d : LinkDpc) :
    Function.update (LinkDpc.interrupts ∘ dpc) i d.interrupts
      = LinkDpc.interrupts ∘ Function.update dpc i d :=
  (Function.comp_update LinkDpc.interrupts dpc i d).symm

/-! ## 2. The ISR and the DPC

The ISR is the same, access by access.  The DPC notifies first and reads the PHY then, so at the
exchange interrupt delivery has two steps where the link model has one. -/

/-- **The ISR.** -/
theorem linkIsrStep_interrupts (l : LinkWorld Nat) : l.Follows (linkIsrStep l) := by
  unfold linkIsrStep
  cases hisr : l.isr with
  | idle =>
    cases hlink : l.regs.macLinkStatus with
    | true =>
      refine .silent fun queue armed raised => ?_
      simp only [LinkWorld.interrupts, hisr, LinkIsr.interrupts, if_true]
    | false =>
      refine .same .isr fun queue armed raised => ?_
      obtain ⟨_, ⟨_, _, _, _⟩⟩ := l
      cases hlink
      cases hisr
      rfl
  | readPhyIf =>
    -- the bit that the ISR found may have been cleared by a DPC or by a work item since
    rintro w ⟨queue, armed, raised, rfl⟩
    refine ⟨[.linkChange, .isr], _, rfl, queue, armed, raised, ?_⟩
    simp only [isrStep, LinkWorld.interrupts, hisr, LinkIsr.interrupts, readPhyIf, if_true]
  | readStatus new =>
    refine .same .isr fun queue armed raised => ?_
    simp only [interruptStep, isrStep, LinkWorld.interrupts, hisr, LinkIsr.interrupts]
    split <;> rfl
  | acknowledge channel0 new =>
    refine .same .isr fun queue armed raised => ?_
    simp only [interruptStep, isrStep, LinkWorld.interrupts, hisr, LinkIsr.interrupts]
  | mask new =>
    refine .same .isr fun queue armed raised => ?_
    simp only [interruptStep, isrStep, LinkWorld.interrupts, hisr, LinkIsr.interrupts]
  | post new =>
    refine .same .isr fun queue armed raised => ?_
    simp only [interruptStep, isrStep, LinkWorld.interrupts, hisr, LinkIsr.interrupts]
  | queueDpc =>
    refine .same .isr fun queue armed raised => ?_
    simp only [interruptStep, isrStep, LinkWorld.interrupts, hisr, LinkIsr.interrupts]

/-- **What a DPC takes out of `interruptStatus`.**  Interrupt delivery notifies the queues at once,
so the DPC is on its way to `Interrupt_Enable` whether or not it has the PHY's status to read. -/
theorem exchange_interrupts (queue armed raised : QueueKind → Bool) {i : Nat}
    (hi : l.dpc i = .exchange) (hne : l.interruptStatus ≠ 0) {d : LinkDpc}
    (hd : d.interrupts = .enable) :
    ∃ bs w', run interruptStep (l.interrupts queue armed raised) bs = some w'
      ∧ LinkWorld.Shows { l with interruptStatus := 0, dpc := Function.update l.dpc i d } w' := by
  have hexchange : (l.interrupts queue armed raised).dpc i = .exchange :=
    congrArg LinkDpc.interrupts hi
  have hdpc : Function.update (LinkDpc.interrupts ∘ l.dpc) i .enable
      = LinkDpc.interrupts ∘ Function.update l.dpc i d := by
    rw [← hd, interrupts_update]
  have hstep : interruptStep (l.interrupts queue armed raised) (.dpc i) = some
      { l.interrupts queue armed raised with
        interruptStatus := 0
        dpc := Function.update (LinkDpc.interrupts ∘ l.dpc) i
          (if QueueKind.rx.isSet l.interruptStatus || QueueKind.tx.isSet l.interruptStatus then
            .notify l.interruptStatus else .enable) } := by
    rw [interruptStep, dpcStep, hexchange]
    exact if_neg hne
  split at hstep
  · -- a queue's bit is set as well: it is notified in the next step
    refine ⟨[.dpc i, .dpc i], ?notified, ?hrun, ?hshows⟩
    case hrun =>
      rw [run, hstep, Option.bind_some, run, interruptStep, dpcStep]
      simp only [Function.update_self, Function.update_idem, Option.bind_some, run, hdpc]
      rfl
    case hshows => exact ⟨_, _, _, rfl⟩
  · refine ⟨[.dpc i], _, ?_, queue, armed, raised, rfl⟩
    rw [run, hstep, hdpc]
    rfl

/-- **The DPC.** -/
theorem linkDpcStep_interrupts {i : Nat} (hs : linkDpcStep l i = some l') : l.Follows l' := by
  unfold linkDpcStep at hs
  cases hi : l.dpc i with
  | idle =>
    rw [hi] at hs
    cases hs
  | exchange =>
    simp only [hi] at hs
    split at hs
    · rename_i hzero
      cases hs
      refine .same (.dpc i) fun queue armed raised => ?_
      simp only [interruptStep, dpcStep, LinkWorld.interrupts, Function.comp_apply, hi,
        LinkDpc.interrupts, hzero, if_true, ← interrupts_update]
    · rename_i hne
      cases hs
      rintro w ⟨queue, armed, raised, rfl⟩
      refine exchange_interrupts queue armed raised hi hne ?_
      split <;> rfl
  | readPhyIf =>
    rw [hi] at hs
    cases hs
    refine .same .linkRead fun queue armed raised => ?_
    simp only [interruptStep, LinkWorld.interrupts, readPhyIf, ← interrupts_update]
    rw [Function.update_eq_self_iff.mpr]
    simp [hi, LinkDpc.interrupts]
  | enqueue =>
    rw [hi] at hs
    cases hs
    refine .silent fun queue armed raised => ?_
    simp only [LinkWorld.interrupts, ← interrupts_update]
    rw [Function.update_eq_self_iff.mpr]
    simp [hi, LinkDpc.interrupts]
  | enable =>
    simp only [hi] at hs
    split at hs
    · rename_i hidle
      cases hs
      refine .same (.dpc i) fun queue armed raised => ?_
      simp only [interruptStep, dpcStep, LinkWorld.interrupts, Function.comp_apply, hi, hidle,
        LinkDpc.interrupts, LinkIsr.interrupts, if_true, ← interrupts_update]
    · cases hs

/-! ## 3. Every step

What an ISR, a DPC and a call of the class extension do to the link model, they do to the interrupt
model; the work items and the PHY change only the link bit there, if anything.  So every step is
answered by a short run of the other system, which may be empty. -/

/-- A work item reads the PHY's status, or does what interrupt delivery does not see. -/
theorem linkWorkItemStep_interrupts {i : Nat} (hs : linkWorkItemStep l i = some l') :
    l.Follows l' := by
  unfold linkWorkItemStep at hs
  cases hi : l.workItem i with
  | idle =>
    rw [hi] at hs
    cases hs
  | read =>
    rw [hi] at hs
    cases hs
    exact .same .linkRead fun _ _ _ => rfl
  | acquire =>
    rw [hi] at hs
    cases hs
    exact .silent fun _ _ _ => rfl
  | configure controlStatus =>
    rw [hi] at hs
    cases hs
    exact .silent fun _ _ _ => rfl
  | report controlStatus =>
    rw [hi] at hs
    cases hs
    exact .silent fun _ _ _ => rfl
  | release =>
    rw [hi] at hs
    cases hs
    exact .silent fun _ _ _ => rfl

/-- **A call of `DeviceSetNotification*Queue`**: the pointer is written, then the interrupt is
wanted or not. -/
theorem setInterrupts_interrupts (k : QueueKind) (enabled : Bool) (hidle : l.isr = .idle) :
    l.Follows (setLinkInterrupts l (newInterruptsWanted k enabled l.interruptsWanted)) := by
  rintro w ⟨queue, armed, raised, rfl⟩
  have hisr : l.isr.interrupts = .idle := congrArg LinkIsr.interrupts hidle
  refine ⟨[.setQueue k enabled, .setInterrupts k], ?applied, ?hrun, ?hshows⟩
  case hrun =>
    simp only [run, interruptStep, LinkWorld.interrupts, if_true, Option.bind_some,
      Function.update_self, Function.update_idem, if_pos hisr, Function.update_eq_self]
    rfl
  case hshows =>
    unfold deviceInterruptChange setLinkInterrupts
    split
    · exact ⟨_, _, _, rfl⟩
    · exact ⟨_, _, _, rfl⟩

/-- **Every step of the link model is a run of interrupt delivery.** -/
theorem linkStep_interrupts (a : LinkAction Nat) (hs : linkStep l a = some l') :
    l.Follows l' := by
  cases a with
  | phyChange phy =>
    cases hs
    exact .same .linkChange fun _ _ _ => rfl
  | raise bits =>
    cases hs
    rintro w ⟨queue, armed, raised, rfl⟩
    exact ⟨[.raise bits], _, rfl, _, _, _, rfl⟩
  | isr =>
    cases hs
    exact linkIsrStep_interrupts l
  | dpcStart i =>
    dsimp only [linkStep] at hs
    split at hs
    · rename_i hready
      cases hs
      refine .same (.dpcStart i) fun queue armed raised => ?_
      simp only [interruptStep, LinkWorld.interrupts, Function.comp_apply, hready.1, hready.2,
        LinkDpc.interrupts, and_self, if_true, ← interrupts_update]
    · cases hs
  | dpc i => exact linkDpcStep_interrupts hs
  | workItemStart i =>
    dsimp only [linkStep] at hs
    split at hs
    · cases hs
      exact .silent fun _ _ _ => rfl
    · cases hs
  | workItem i => exact linkWorkItemStep_interrupts hs
  | setInterrupts k enabled =>
    dsimp only [linkStep] at hs
    split at hs
    · rename_i hidle
      cases hs
      exact setInterrupts_interrupts k enabled hidle
    · cases hs

/-! ## 4. Whole runs

The simulation rule turns the lemma of a step into one of runs.  What interrupt delivery says of
its registers is then true of those of the link model. -/

/-- After `DeviceD0Entry`, with the interrupts as it leaves them: only the state interrupts are
wanted and enabled. -/
structure LinkWorld.StartedEnabled (l : LinkWorld Nat) : Prop where
  started : l.Started
  interruptsWanted : l.interruptsWanted = interruptsState
  regs : ∃ regs, l.regs = deviceInterruptSet_Locked regs interruptsState
  dpcQueued : l.dpcQueued = false

/-- The start of interrupt delivery shows the start of the link model. -/
theorem LinkWorld.StartedEnabled.shows (h : l.StartedEnabled) :
    ∃ w, InterruptWorld.Started w ∧ l.Shows w := by
  obtain ⟨regs, hregs⟩ := h.regs
  refine ⟨.start regs, ⟨regs, rfl⟩, fun _ => false, fun _ => false, fun _ => false, ?_⟩
  have hdpc : LinkDpc.interrupts ∘ l.dpc = fun _ => .idle :=
    funext fun i => congrArg LinkDpc.interrupts (h.started.dpc i)
  simp only [InterruptWorld.start, LinkWorld.interrupts, hdpc, hregs, h.interruptsWanted,
    h.started.interruptStatus, h.started.isr, h.dpcQueued, LinkIsr.interrupts]

/-- **Every run of the link model is a run of interrupt delivery.** -/
theorem linkWorld_interrupts (h : Reach LinkWorld.StartedEnabled linkStep l) :
    ∃ w, Reach InterruptWorld.Started interruptStep w ∧ l.Shows w :=
  h.simulates (fun _ hl => hl.shows) fun _ w a _ hw hs => linkStep_interrupts a hs w hw

/-- **The work items do not disturb the interrupts**: in every state the channel's enable register
is what `interruptsWanted` asks for, or all is masked. -/
theorem linkWorld_enable (h : Reach LinkWorld.StartedEnabled linkStep l) :
    l.regs.interruptEnable = makeChannelInterruptEnable l.interruptsWanted
      ∨ l.regs.interruptEnable = makeChannelInterruptEnable interruptsNone := by
  obtain ⟨w, hreach, queue, armed, raised, rfl⟩ := linkWorld_interrupts h
  exact (reach_interruptInv hreach).enable_or_none

end WoaRk3576.Net
