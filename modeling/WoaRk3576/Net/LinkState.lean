/-
# The link state of dwc_eqos: `UpdateLinkState`, `DeviceLinkStateWorkItem`

A change of the PHY's link sets `LinkStatus` in `Mac_Interrupt_Status`.  The ISR leaves the bit to
the DPC, the DPC enqueues a work item, and the work item reads the PHY's status and reports it.
Reading the status clears the bit, and the ISR and the DPC read it too.

A work item may be enqueued again while it runs, and then runs a second time beside itself.  The
busy flag lets only one of the two update the link state; the other returns at once.  That is right
as long as the one that updates has not read the PHY's status yet, or has read what is still true.
If the link changed after it read, the change is lost, and no interrupt comes to correct it.

`link_state_exact` is the result: without such a work item the reported link state is the PHY's in
every quiescent state.  `change_lost` is the counterexample.

What carries it is that a read of the PHY's status is to come (`LinkWorld.Coming`).  A change of
the link makes it true; the ISR and the DPC hand the bit on and keep it so, at last to the work
item (`linkIsrStep_coming`, `LinkInv.dpcStep`); and only the read of the work item makes it false,
which then holds what is true (`LinkInv.read`).  The invariant says of what was reported, and of
each status that was read and not reported yet, that it is the PHY's or that a read is to come.  In
a quiescent state nothing is to come.  A work item that finds the flag busy passes the read on to
the one that has it, and the condition on the steps is that this one can still make it.

Every access that another processor can come between is a step of its own, as in
`Net/Interrupt.lean`.  `ι` are the processors.  What the ISR and the DPC do for the packet queues
is left out, but for the interrupts they want; `LinkInterrupts.lean` connects the two.
-/
import Mathlib.Data.Fintype.Basic
import WoaRk3576.Net.Interrupt

namespace WoaRk3576.Net

open WoaRk3576.Lib

/-! ## 1. The PHY's status and the reported state

What is reported is a function of the status that was read, and so is the configuration of the MAC
but for an unknown speed.  Two statuses may give the same link state, so being in step is said of
the link state and not of the status. -/

/-- `MacPhyIfControlStatus_t`: the fields that are read. -/
structure MacPhyIfControlStatus where
  fullDuplex : Bool
  speed : BitVec 2
  linkUp : Bool
  deriving DecidableEq, Repr

/-- `PortSelectSpeed_t`. -/
inductive PortSelectSpeed
  | speed1000M
  | speed2500M
  | speed10M
  | speed100M
  deriving DecidableEq, Repr

/-- `MacConfiguration_t`: the fields that `UpdateLinkState` writes. -/
structure MacConfiguration where
  fullDuplex : Bool
  portSelectSpeed : PortSelectSpeed
  deriving DecidableEq, Repr

/-- `NET_ADAPTER_LINK_STATE`: speed, media connect state and media duplex state. -/
structure NetAdapterLinkState where
  speed : Nat
  connected : Bool
  fullDuplex : Bool
  deriving DecidableEq, Repr

/-- `speed` in `UpdateLinkState`. -/
def linkSpeed (controlStatus : MacPhyIfControlStatus) : Nat :=
  match controlStatus.speed with
  | 0 => 10000000
  | 1 => 100000000
  | 2 => 1000000000
  | _ => 0

/-- `clockVal` in `UpdateLinkState`. -/
def linkClock (controlStatus : MacPhyIfControlStatus) : Nat :=
  match controlStatus.speed with
  | 0 => 10
  | 1 => 100
  | _ => 1000

/-- `newConfig` in `UpdateLinkState`; an unknown speed keeps the old selection. -/
def linkConfig (controlStatus : MacPhyIfControlStatus) (oldConfig : MacConfiguration) :
    MacConfiguration where
  fullDuplex := controlStatus.fullDuplex
  portSelectSpeed :=
    match controlStatus.speed with
    | 0 => .speed10M
    | 1 => .speed100M
    | 2 => .speed1000M
    | _ => oldConfig.portSelectSpeed

/-- What `UpdateLinkState` reports. -/
def linkStateOf (controlStatus : MacPhyIfControlStatus) : NetAdapterLinkState where
  speed := linkSpeed controlStatus
  connected := controlStatus.linkUp
  fullDuplex := controlStatus.fullDuplex

/-! ## 2. The system

The link's part of the interrupt goes on to a work item, which reads the status again, configures
the MAC and reports.  A busy flag keeps two work items from doing this at once: the second one
returns without a look at the PHY.  Any number of processors may run DPCs and work items. -/

/-- Where the ISR is, with its local variables. -/
inductive LinkIsr
  | idle
  | readPhyIf
  | readStatus (newInterruptStatus : BitVec 32)
  | acknowledge (channel0 newInterruptStatus : BitVec 32)
  | mask (newInterruptStatus : BitVec 32)
  | post (newInterruptStatus : BitVec 32)
  | queueDpc
  deriving DecidableEq, Repr

/-- Where a DPC is; it is at `readPhyIf` and `enqueue` only with the link bit. -/
inductive LinkDpc
  | idle
  | exchange
  | readPhyIf
  | enqueue
  | enable
  deriving DecidableEq, Repr

/-- Where a run of `DeviceLinkStateWorkItem` is, with the status that it read. -/
inductive LinkWorkItem
  | idle
  | acquire
  | read
  | configure (controlStatus : MacPhyIfControlStatus)
  | report (controlStatus : MacPhyIfControlStatus)
  | release
  deriving DecidableEq, Repr

/-- The PHY, the device and the driver. -/
structure LinkWorld (ι : Type) where
  phy : MacPhyIfControlStatus
  regs : InterruptRegs
  macConfiguration : MacConfiguration
  txClock : Nat
  interruptStatus : BitVec 32
  interruptsWanted : InterruptsWanted
  isr : LinkIsr
  dpcQueued : Bool
  dpc : ι → LinkDpc
  workItemQueued : Bool
  workItem : ι → LinkWorkItem
  updateLinkStateBusy : Bool
  reported : NetAdapterLinkState

inductive LinkAction (ι : Type)
  | phyChange (phy : MacPhyIfControlStatus)
  | raise (bits : BitVec 32)
  | isr
  | dpcStart (i : ι)
  | dpc (i : ι)
  | workItemStart (i : ι)
  | workItem (i : ι)
  | setInterrupts (k : QueueKind) (enabled : Bool)

/-- After `DeviceD0Entry`: the link state is reported, and nothing is pending. -/
structure LinkWorld.Started {ι : Type} (w : LinkWorld ι) : Prop where
  reported : w.reported = linkStateOf w.phy
  interruptStatus : w.interruptStatus = 0
  isr : w.isr = .idle
  dpc : ∀ i, w.dpc i = .idle
  workItem : ∀ i, w.workItem i = .idle
  updateLinkStateBusy : w.updateLinkStateBusy = false

section System

variable {ι : Type} [DecidableEq ι]

/-- `newInterruptStatus` has the bit `InterruptLinkStatus`. -/
def linkIsSet (newInterruptStatus : BitVec 32) : Bool :=
  newInterruptStatus &&& interruptLinkStatus ≠ 0

/-- `Read32(&regs->Mac_PhyIf_Control_Status)`: it clears the interrupt status. -/
def readPhyIf (regs : InterruptRegs) : InterruptRegs := { regs with macLinkStatus := false }

/-- One step of `DeviceInterruptIsr`. -/
def linkIsrStep (w : LinkWorld ι) : LinkWorld ι :=
  match w.isr with
  | .idle => { w with isr := if w.regs.macLinkStatus then .readPhyIf else .readStatus 0 }
  | .readPhyIf => { w with regs := readPhyIf w.regs, isr := .readStatus interruptLinkStatus }
  | .readStatus new =>
    if isrStatus new w.regs.status = 0 then { w with isr := .idle }
    else { w with isr := .acknowledge w.regs.status (isrStatus new w.regs.status) }
  | .acknowledge channel0 new =>
    { w with
      regs := { w.regs with status := w.regs.status &&& ~~~channel0 }
      isr := .mask new }
  | .mask new =>
    { w with
      regs := deviceInterruptSet_Locked w.regs interruptsNone
      interruptsWanted := isrWanted new w.interruptsWanted
      isr := .post new }
  | .post new => { w with interruptStatus := w.interruptStatus ||| new, isr := .queueDpc }
  | .queueDpc => { w with dpcQueued := true, isr := .idle }

/-- One step of a running `DeviceInterruptDpc`. -/
def linkDpcStep (w : LinkWorld ι) (i : ι) : Option (LinkWorld ι) :=
  match w.dpc i with
  | .idle => none
  | .exchange =>
    if w.interruptStatus = 0 then some { w with dpc := Function.update w.dpc i .idle }
    else some { w with
      interruptStatus := 0
      dpc := Function.update w.dpc i
        (if linkIsSet w.interruptStatus then .readPhyIf else .enable) }
  | .readPhyIf =>
    some { w with regs := readPhyIf w.regs, dpc := Function.update w.dpc i .enqueue }
  | .enqueue =>
    some { w with workItemQueued := true, dpc := Function.update w.dpc i .enable }
  | .enable =>
    if w.isr = .idle then
      some { w with
        regs := if w.interruptsWanted ≠ interruptsNone then
          deviceInterruptSet_Locked w.regs w.interruptsWanted else w.regs
        dpc := Function.update w.dpc i .exchange }
    else none

/-- One step of a running `DeviceLinkStateWorkItem`; from `read` to `report` it is in
`UpdateLinkState`. -/
def linkWorkItemStep (w : LinkWorld ι) (i : ι) : Option (LinkWorld ι) :=
  match w.workItem i with
  | .idle => none
  | .acquire =>
    some { w with
      updateLinkStateBusy := true
      workItem := Function.update w.workItem i
        (if w.updateLinkStateBusy then .idle else .read) }
  | .read =>
    some { w with
      regs := readPhyIf w.regs
      workItem := Function.update w.workItem i (.configure w.phy) }
  | .configure controlStatus =>
    some { w with
      txClock := linkClock controlStatus
      macConfiguration := linkConfig controlStatus w.macConfiguration
      workItem := Function.update w.workItem i (.report controlStatus) }
  | .report controlStatus =>
    some { w with
      reported := linkStateOf controlStatus
      workItem := Function.update w.workItem i .release }
  | .release =>
    some { w with
      updateLinkStateBusy := false
      workItem := Function.update w.workItem i .idle }

/-- `DeviceInterruptEnable` and `DeviceInterruptDisable` for a packet queue. -/
def setLinkInterrupts (w : LinkWorld ι) (newWanted : InterruptsWanted) : LinkWorld ι :=
  if w.interruptsWanted ≠ newWanted then
    { w with
      regs := deviceInterruptSet_Locked w.regs newWanted
      interruptsWanted := newWanted }
  else w

def linkStep (w : LinkWorld ι) : LinkAction ι → Option (LinkWorld ι)
  | .phyChange phy =>
    some { w with phy := phy, regs := { w.regs with macLinkStatus := true } }
  | .raise bits => some { w with regs := { w.regs with status := w.regs.status ||| bits } }
  | .isr => some (linkIsrStep w)
  | .dpcStart i =>
    if w.dpcQueued = true ∧ w.dpc i = .idle then
      some { w with dpcQueued := false, dpc := Function.update w.dpc i .exchange }
    else none
  | .dpc i => linkDpcStep w i
  | .workItemStart i =>
    if w.workItemQueued = true ∧ w.workItem i = .idle then
      some { w with
        workItemQueued := false
        workItem := Function.update w.workItem i .acquire }
    else none
  | .workItem i => linkWorkItemStep w i
  | .setInterrupts k enabled =>
    if w.isr = .idle then
      some (setLinkInterrupts w (newInterruptsWanted k enabled w.interruptsWanted))
    else none

end System

/-! ## 3. Where a change of the link is

A change is noticed if a read of the PHY is still to come after it.  `Coming` lists the places from
which one comes.  The busy flag is the weak point: a work item that finds it set takes its change
with it, and this is harmless if the one that has the flag reads afterwards, or has read what is
still true (`SkipsFresh`). -/

/-- The ISR has found the link bit. -/
def LinkIsr.HasLink : LinkIsr → Prop
  | .readPhyIf => True
  | .readStatus new | .acknowledge _ new | .mask new | .post new => linkIsSet new = true
  | .idle | .queueDpc => False

def LinkDpc.HasLink : LinkDpc → Prop
  | .readPhyIf | .enqueue => True
  | .idle | .exchange | .enable => False

/-- The work item has the PHY's status still to read. -/
def LinkWorkItem.WillRead : LinkWorkItem → Prop
  | .acquire | .read => True
  | _ => False

/-- The work item has read a status and not reported it. -/
def LinkWorkItem.Holds (controlStatus : MacPhyIfControlStatus) (item : LinkWorkItem) : Prop :=
  item = .configure controlStatus ∨ item = .report controlStatus

/-- The work item has the busy flag. -/
def LinkWorkItem.Busy : LinkWorkItem → Prop
  | .read | .configure _ | .report _ | .release => True
  | .idle | .acquire => False

instance decidableBusy : (item : LinkWorkItem) → Decidable item.Busy
  | .read | .configure _ | .report _ | .release => inferInstanceAs (Decidable True)
  | .idle | .acquire => inferInstanceAs (Decidable False)

variable {ι : Type} {w w' : LinkWorld ι}

/-- **A read of the PHY's status is to come**: the bit is pending, on its way to a DPC, in a DPC
before it enqueues the work item, or the work item is queued or has not read yet. -/
def LinkWorld.Coming (w : LinkWorld ι) : Prop :=
  w.regs.macLinkStatus = true
    ∨ w.isr.HasLink
    ∨ linkIsSet w.interruptStatus = true
    ∨ (∃ i, (w.dpc i).HasLink)
    ∨ w.workItemQueued = true
    ∨ ∃ i, (w.workItem i).WillRead

/-- What was reported is the PHY's link state, or a work item is about to report that. -/
def LinkWorld.InStep (w : LinkWorld ι) : Prop :=
  w.reported = linkStateOf w.phy
    ∨ ∃ i c, (w.workItem i).Holds c ∧ linkStateOf c = linkStateOf w.phy

/-- The work item has read a status that is not the PHY's any more. -/
def LinkWorkItem.Stale (w : LinkWorld ι) : LinkWorkItem → Prop
  | .configure c | .report c => linkStateOf c ≠ linkStateOf w.phy
  | .release => w.reported ≠ linkStateOf w.phy
  | .idle | .acquire | .read => False

instance decidableStale (w : LinkWorld ι) : (item : LinkWorkItem) → Decidable (item.Stale w)
  | .configure _ | .report _ | .release => inferInstanceAs (Decidable (_ ≠ _))
  | .idle | .acquire | .read => inferInstanceAs (Decidable False)

/-- **The condition on a step**: a work item that finds the flag busy finds it so for another
that has not read the PHY's status yet, or has read what is still true. -/
def SkipsFresh (w : LinkWorld ι) : LinkAction ι → Prop
  | .workItem i =>
    w.workItem i = .acquire ∧ w.updateLinkStateBusy = true → ∀ j, ¬ (w.workItem j).Stale w
  | _ => True

instance decidableSkipsFresh [Fintype ι] (w : LinkWorld ι) :
    (a : LinkAction ι) → Decidable (SkipsFresh w a)
  | .workItem _ => inferInstanceAs (Decidable (_ ∧ _ → _))
  | .phyChange _ | .raise _ | .isr | .dpcStart _ | .dpc _ | .workItemStart _
  | .setInterrupts _ _ => inferInstanceAs (Decidable True)

/-- **Quiescent**: no pending interrupt bit, no ISR or DPC queued or running, and no work item
queued or running. -/
structure LinkWorld.Quiescent (w : LinkWorld ι) : Prop where
  macLinkStatus : w.regs.macLinkStatus = false
  isr : w.isr = .idle
  dpcQueued : w.dpcQueued = false
  dpc : ∀ i, w.dpc i = .idle
  workItemQueued : w.workItemQueued = false
  workItem : ∀ i, w.workItem i = .idle

/-! ### Bits

The link bit among the others of a status word, which the ISR and the DPC put together and take
apart. -/

theorem linkIsSet_eq (status : BitVec 32) : linkIsSet status = status.getLsbD 31 := by
  have hbit : interruptLinkStatus = BitVec.twoPow 32 31 := by decide
  have hne : BitVec.twoPow 32 31 ≠ 0#32 := by decide
  unfold linkIsSet
  rw [hbit, BitVec.and_twoPow]
  cases status.getLsbD 31 <;> simp [hne]

theorem linkIsSet_or (a b : BitVec 32) : linkIsSet (a ||| b) = (linkIsSet a || linkIsSet b) := by
  rw [linkIsSet_eq, linkIsSet_eq, linkIsSet_eq, BitVec.getLsbD_or]

/-- The channel status does not have the bit. -/
theorem linkIsSet_isrStatus (new channel0 : BitVec 32) :
    linkIsSet (isrStatus new channel0) = linkIsSet new := by
  have hmask : interruptChannel0StatusMask.getLsbD 31 = false := by decide
  unfold isrStatus
  rw [linkIsSet_or, linkIsSet_eq (channel0 &&& _), BitVec.getLsbD_and, hmask, Bool.and_false,
    Bool.or_false]

theorem linkIsSet_ne_zero {status : BitVec 32} (h : linkIsSet status = true) : status ≠ 0 := by
  rintro rfl
  revert h
  decide

/-! ## 4. The invariant

Either what was reported is the state of the PHY, or it is about to be, or a read is to come.  A
change of the PHY sets its interrupt bit, so after it a read is to come; each step of the ISR and
of a DPC hands that on; a work item that reads makes what it holds true. -/

/-- **The invariant.**  A status that is not reported yet is the PHY's, or another read is to
come; the same for what was reported; one work item at most has the flag; and what is in
`interruptStatus` has a DPC. -/
structure LinkInv (w : LinkWorld ι) : Prop where
  held : ∀ i c, (w.workItem i).Holds c → linkStateOf c = linkStateOf w.phy ∨ w.Coming
  in_step : w.InStep ∨ w.Coming
  one_busy : ∀ i j, (w.workItem i).Busy → (w.workItem j).Busy → i = j
  busy : w.updateLinkStateBusy = true ↔ ∃ i, (w.workItem i).Busy
  posted : w.interruptStatus ≠ 0 → w.isr = .queueDpc ∨ w.dpcQueued = true ∨ ∃ i, w.dpc i ≠ .idle

theorem LinkWorkItem.Holds.busy {c : MacPhyIfControlStatus} {item : LinkWorkItem}
    (h : item.Holds c) : item.Busy := by
  rcases h with rfl | rfl <;> trivial

/-- **Quiescence**: nothing is to come, so what was reported is the PHY's. -/
theorem LinkInv.reported (h : LinkInv w) (hq : w.Quiescent) :
    w.reported = linkStateOf w.phy := by
  have hstatus : w.interruptStatus = 0 := by
    by_contra hne
    rcases h.posted hne with hisr | hqueued | ⟨i, hi⟩
    · rw [hq.isr] at hisr
      cases hisr
    · rw [hq.dpcQueued] at hqueued
      cases hqueued
    · exact hi (hq.dpc i)
  rcases h.in_step with (hreported | ⟨i, c, hholds, -⟩)
    | hmac | hisr | hset | ⟨i, hi⟩ | hqueued | ⟨i, hi⟩
  · exact hreported
  · rw [hq.workItem i] at hholds
    exact hholds.busy.elim
  · rw [hq.macLinkStatus] at hmac
    cases hmac
  · rw [hq.isr] at hisr
    exact hisr.elim
  · exact absurd hstatus (linkIsSet_ne_zero hset)
  · rw [hq.dpc i] at hi
    exact hi.elim
  · rw [hq.workItemQueued] at hqueued
    cases hqueued
  · rw [hq.workItem i] at hi
    exact hi.elim

theorem started_linkInv (h : w.Started) : LinkInv w := by
  constructor
  · intro i c hholds
    rw [h.workItem i] at hholds
    exact hholds.busy.elim
  · exact .inl (.inl h.reported)
  · intro i _ hi
    rw [h.workItem i] at hi
    exact hi.elim
  · rw [h.updateLinkStateBusy]
    refine ⟨nofun, ?_⟩
    rintro ⟨i, hi⟩
    rw [h.workItem i] at hi
    exact hi.elim
  · exact fun hne => absurd h.interruptStatus hne

/-- A step that touches neither the work items nor the PHY, and loses no read that is to come. -/
theorem LinkInv.of_coming (h : LinkInv w) (hitem : w'.workItem = w.workItem)
    (hphy : w'.phy = w.phy) (hreported : w'.reported = w.reported)
    (hbusy : w'.updateLinkStateBusy = w.updateLinkStateBusy) (hcoming : w.Coming → w'.Coming)
    (hposted : w'.interruptStatus ≠ 0 →
      w'.isr = .queueDpc ∨ w'.dpcQueued = true ∨ ∃ i, w'.dpc i ≠ .idle) : LinkInv w' := by
  constructor
  · rw [hitem, hphy]
    intro i c hholds
    exact (h.held i c hholds).imp_right hcoming
  · unfold LinkWorld.InStep
    rw [hitem, hphy, hreported]
    exact h.in_step.imp_right hcoming
  · rw [hitem]
    exact h.one_busy
  · rw [hitem, hbusy]
    exact h.busy
  · exact hposted

/-- A step after which a read is to come. -/
theorem LinkInv.of_now_coming (hcoming : w'.Coming)
    (hone : ∀ i j, (w'.workItem i).Busy → (w'.workItem j).Busy → i = j)
    (hbusy : w'.updateLinkStateBusy = true ↔ ∃ i, (w'.workItem i).Busy)
    (hposted : w'.interruptStatus ≠ 0 →
      w'.isr = .queueDpc ∨ w'.dpcQueued = true ∨ ∃ i, w'.dpc i ≠ .idle) : LinkInv w' :=
  ⟨fun _ _ _ => .inr hcoming, .inr hcoming, hone, hbusy, hposted⟩

/-- A change of the link is a read to come. -/
theorem LinkInv.phyChange (h : LinkInv w) (phy : MacPhyIfControlStatus) :
    LinkInv { w with phy := phy, regs := { w.regs with macLinkStatus := true } } :=
  .of_now_coming (.inl rfl) h.one_busy h.busy h.posted

/-! ### The ISR and the DPC

Both carry the bit from one place to the next: from the register to what the ISR found, from there
to the DPC, and from there to a work item.  At each move the read stays to come, as one of the
places has the bit. -/

/-- The ISR moves on with what it found. -/
theorem coming_update_isr (h : w.Coming)
    (hmac : w'.regs.macLinkStatus = w.regs.macLinkStatus)
    (hlink : w.isr.HasLink → w'.isr.HasLink ∨ linkIsSet w'.interruptStatus = true)
    (hstatus : linkIsSet w.interruptStatus = true → linkIsSet w'.interruptStatus = true)
    (hdpc : w'.dpc = w.dpc) (hqueued : w'.workItemQueued = w.workItemQueued)
    (hitem : w'.workItem = w.workItem) : w'.Coming := by
  rcases h with hm | hfound | hset | hother | hq | hread
  · exact .inl (hmac.trans hm)
  · rcases hlink hfound with hisr | hset
    · exact .inr (.inl hisr)
    · exact .inr (.inr (.inl hset))
  · exact .inr (.inr (.inl (hstatus hset)))
  · exact .inr (.inr (.inr (.inl (hdpc ▸ hother))))
  · exact .inr (.inr (.inr (.inr (.inl (hqueued.trans hq)))))
  · exact .inr (.inr (.inr (.inr (.inr (hitem ▸ hread)))))

/-- **A step of the ISR** hands the bit on. -/
theorem linkIsrStep_coming (w : LinkWorld ι) (h : w.Coming) : (linkIsrStep w).Coming := by
  unfold linkIsrStep
  cases hisr : w.isr with
  | idle =>
    refine coming_update_isr h rfl ?_ id rfl rfl rfl
    rw [hisr]
    exact False.elim
  | readPhyIf =>
    have hset : linkIsSet interruptLinkStatus = true := by decide
    exact .inr (.inl hset)
  | readStatus new =>
    have hfound : linkIsSet new = true → linkIsSet (isrStatus new w.regs.status) = true :=
      (linkIsSet_isrStatus new w.regs.status).trans
    dsimp only
    split
    · rename_i hzero
      refine coming_update_isr h rfl ?_ id rfl rfl rfl
      rw [hisr]
      exact fun hset => absurd hzero (linkIsSet_ne_zero (hfound hset))
    · refine coming_update_isr h rfl ?_ id rfl rfl rfl
      rw [hisr]
      exact fun hset => .inl (hfound hset)
  | acknowledge channel0 new =>
    refine coming_update_isr h rfl ?_ id rfl rfl rfl
    rw [hisr]
    exact .inl
  | mask new =>
    refine coming_update_isr h rfl ?_ id rfl rfl rfl
    rw [hisr]
    exact .inl
  | post new =>
    refine coming_update_isr h rfl ?_ ?_ rfl rfl rfl
    · rw [hisr]
      intro hset
      right
      dsimp only
      rw [linkIsSet_or, hset, Bool.or_true]
    · intro hset
      dsimp only
      rw [linkIsSet_or, hset, Bool.true_or]
  | queueDpc =>
    refine coming_update_isr h rfl ?_ id rfl rfl rfl
    rw [hisr]
    exact False.elim

theorem linkIsrStep_posted (h : LinkInv w) (hne : (linkIsrStep w).interruptStatus ≠ 0) :
    (linkIsrStep w).isr = .queueDpc ∨ (linkIsrStep w).dpcQueued = true
      ∨ ∃ i, (linkIsrStep w).dpc i ≠ .idle := by
  have hbefore : w.isr ≠ .queueDpc → w.interruptStatus ≠ 0 →
      w.dpcQueued = true ∨ ∃ i, w.dpc i ≠ .idle := fun hisr hstatus =>
    (h.posted hstatus).resolve_left hisr
  unfold linkIsrStep at hne ⊢
  cases hisr : w.isr with
  | queueDpc => exact .inr (.inl rfl)
  | post new => exact .inl rfl
  | readStatus new =>
    have hother : w.isr ≠ .queueDpc := by
      rw [hisr]
      exact nofun
    rw [hisr] at hne
    dsimp only at hne ⊢
    split at hne
    · rename_i hzero
      rw [if_pos hzero]
      exact .inr (hbefore hother hne)
    · rename_i hzero
      rw [if_neg hzero]
      exact .inr (hbefore hother hne)
  | _ =>
    have hother : w.isr ≠ .queueDpc := by
      rw [hisr]
      exact nofun
    rw [hisr] at hne
    exact .inr (hbefore hother hne)

theorem linkIsrStep_frame (w : LinkWorld ι) :
    (linkIsrStep w).workItem = w.workItem ∧ (linkIsrStep w).phy = w.phy
      ∧ (linkIsrStep w).reported = w.reported
      ∧ (linkIsrStep w).updateLinkStateBusy = w.updateLinkStateBusy := by
  unfold linkIsrStep
  cases w.isr with
  | readStatus new =>
    dsimp only
    split <;> exact ⟨rfl, rfl, rfl, rfl⟩
  | _ => exact ⟨rfl, rfl, rfl, rfl⟩

theorem LinkInv.isr (h : LinkInv w) : LinkInv (linkIsrStep w) := by
  obtain ⟨hitem, hphy, hreported, hbusy⟩ := linkIsrStep_frame w
  exact h.of_coming hitem hphy hreported hbusy (linkIsrStep_coming w) (linkIsrStep_posted h)

section Steps

variable [DecidableEq ι]

/-- A read that is to come apart from the DPC `i`. -/
theorem coming_update_dpc {i : ι} {d : LinkDpc} (hi : ¬ (w.dpc i).HasLink) (h : w.Coming)
    (hmac : w'.regs.macLinkStatus = w.regs.macLinkStatus) (hisr : w'.isr = w.isr)
    (hstatus : linkIsSet w.interruptStatus = true → linkIsSet w'.interruptStatus = true ∨ d.HasLink)
    (hdpc : w'.dpc = Function.update w.dpc i d) (hqueued : w'.workItemQueued = w.workItemQueued)
    (hitem : w'.workItem = w.workItem) : w'.Coming := by
  rcases h with hm | hlink | hset | hother | hq | hread
  · exact .inl (hmac.trans hm)
  · exact .inr (.inl (hisr ▸ hlink))
  · rcases hstatus hset with hset' | hd
    · exact .inr (.inr (.inl hset'))
    · refine .inr (.inr (.inr (.inl ?_)))
      rw [hdpc]
      exact exists_update_of_self hd
  · refine .inr (.inr (.inr (.inl ?_)))
    rw [hdpc]
    exact exists_update_of_not hi hother
  · exact .inr (.inr (.inr (.inr (.inl (hqueued.trans hq)))))
  · exact .inr (.inr (.inr (.inr (.inr (hitem ▸ hread)))))

/-- **A step of a DPC** hands the bit on, at last to the work item. -/
theorem LinkInv.dpcStep (h : LinkInv w) {i : ι} (hs : linkDpcStep w i = some w') :
    LinkInv w' := by
  have hself : ∀ d : LinkDpc, d ≠ .idle → ∃ j, Function.update w.dpc i d j ≠ .idle :=
    fun d hd => ⟨i, by rwa [Function.update_self]⟩
  unfold linkDpcStep at hs
  cases hdpc : w.dpc i with
  | idle =>
    rw [hdpc] at hs
    cases hs
  | exchange =>
    have hnot : ¬ (w.dpc i).HasLink := by
      rw [hdpc]
      exact id
    rw [hdpc] at hs
    dsimp only at hs
    split at hs
    · rename_i hzero
      cases hs
      exact h.of_coming rfl rfl rfl rfl
        (fun hc => coming_update_dpc hnot hc rfl rfl .inl rfl rfl rfl) (fun hne => absurd hzero hne)
    · cases hs
      refine h.of_coming rfl rfl rfl rfl (fun hc => ?_) (fun hne => absurd rfl hne)
      refine coming_update_dpc hnot hc rfl rfl (fun hset => .inr ?_) rfl rfl rfl
      rw [if_pos hset]
      trivial
  | readPhyIf =>
    rw [hdpc] at hs
    cases hs
    refine h.of_coming rfl rfl rfl rfl (fun _ => ?_) (fun _ => .inr (.inr (hself _ nofun)))
    exact .inr (.inr (.inr (.inl (exists_update_of_self trivial))))
  | enqueue =>
    rw [hdpc] at hs
    cases hs
    refine h.of_coming rfl rfl rfl rfl (fun _ => ?_) (fun _ => .inr (.inr (hself _ nofun)))
    exact .inr (.inr (.inr (.inr (.inl rfl))))
  | enable =>
    have hnot : ¬ (w.dpc i).HasLink := by
      rw [hdpc]
      exact id
    rw [hdpc] at hs
    dsimp only at hs
    split at hs
    · cases hs
      refine h.of_coming rfl rfl rfl rfl (fun hc => ?_) (fun _ => .inr (.inr (hself _ nofun)))
      refine coming_update_dpc hnot hc ?_ rfl .inl rfl rfl rfl
      dsimp only
      split <;> rfl
    · cases hs

theorem LinkInv.dpcStart (h : LinkInv w) {i : ι} (hi : w.dpc i = .idle) :
    LinkInv { w with dpcQueued := false, dpc := Function.update w.dpc i .exchange } := by
  have hnot : ¬ (w.dpc i).HasLink := by
    rw [hi]
    exact id
  exact h.of_coming rfl rfl rfl rfl
    (fun hc => coming_update_dpc hnot hc rfl rfl .inl rfl rfl rfl)
    (fun _ => .inr (.inr ⟨i, by simp⟩))

/-! ### The work items

A work item takes the flag, reads the PHY, reports and gives the flag back, with any of the other
steps in between.  One that finds the flag taken returns, and leaves its read to the one that has
it. -/

/-- A work item that was idle starts. -/
theorem LinkInv.workItemStart (h : LinkInv w) {i : ι} (hi : w.workItem i = .idle) :
    LinkInv { w with
      workItemQueued := false
      workItem := Function.update w.workItem i .acquire } := by
  have hbusy : ∀ j, (Function.update w.workItem i LinkWorkItem.acquire j).Busy
      ↔ (w.workItem j).Busy := by
    intro j
    by_cases hj : j = i
    · rw [hj, Function.update_self, hi]
      exact Iff.rfl
    · rw [Function.update_of_ne hj]
  refine .of_now_coming ?_ ?_ ?_ h.posted
  · exact .inr (.inr (.inr (.inr (.inr (exists_update_of_self trivial)))))
  · intro j k hj hk
    exact h.one_busy j k ((hbusy j).mp hj) ((hbusy k).mp hk)
  · exact h.busy.trans (exists_congr fun j => (hbusy j).symm)

/-- The work item `i` has the flag, before and after the step. -/
theorem busy_update {i : ι} (h : LinkInv w) (hi : (w.workItem i).Busy) (item : LinkWorkItem)
    (hitem : item.Busy) :
    (∀ j k, (Function.update w.workItem i item j).Busy →
      (Function.update w.workItem i item k).Busy → j = k)
    ∧ (w.updateLinkStateBusy = true ↔ ∃ j, (Function.update w.workItem i item j).Busy) := by
  have hbusy : ∀ j, (Function.update w.workItem i item j).Busy ↔ (w.workItem j).Busy := by
    intro j
    by_cases hj : j = i
    · rw [hj, Function.update_self]
      exact iff_of_true hitem hi
    · rw [Function.update_of_ne hj]
  refine ⟨fun j k hj hk => h.one_busy j k ((hbusy j).mp hj) ((hbusy k).mp hk), ?_⟩
  exact h.busy.trans (exists_congr fun j => (hbusy j).symm)

/-- A status that is held after the work item `i` has moved is its own, as no other has the
flag. -/
theorem LinkInv.holds_update (h : LinkInv w) {i j : ι} {item : LinkWorkItem}
    {c : MacPhyIfControlStatus} (hi : (w.workItem i).Busy)
    (hholds : (Function.update w.workItem i item j).Holds c) : item.Holds c := by
  rcases of_update (q := LinkWorkItem.Holds c) hholds with ⟨-, hself⟩ | ⟨hne, hother⟩
  · exact hself
  · exact absurd (h.one_busy j i hother.busy hi) hne

/-- A read that is to come apart from the work item `i`. -/
theorem coming_update_item {i : ι} {item : LinkWorkItem} (hi : ¬ (w.workItem i).WillRead)
    (h : w.Coming) (hmac : w'.regs.macLinkStatus = w.regs.macLinkStatus) (hisr : w'.isr = w.isr)
    (hstatus : w'.interruptStatus = w.interruptStatus) (hdpc : w'.dpc = w.dpc)
    (hqueued : w'.workItemQueued = w.workItemQueued)
    (hitem : w'.workItem = Function.update w.workItem i item) : w'.Coming := by
  rcases h with hm | hlink | hset | hother | hq | hread
  · exact .inl (hmac.trans hm)
  · exact .inr (.inl (hisr ▸ hlink))
  · exact .inr (.inr (.inl (hstatus ▸ hset)))
  · exact .inr (.inr (.inr (.inl (hdpc ▸ hother))))
  · exact .inr (.inr (.inr (.inr (.inl (hqueued.trans hq)))))
  · refine .inr (.inr (.inr (.inr (.inr ?_))))
    rw [hitem]
    exact exists_update_of_not hi hread

/-- **The flag is taken**, or found busy for one that is not stale. -/
theorem LinkInv.acquire (h : LinkInv w) {i : ι} (hi : w.workItem i = .acquire)
    (hfresh : w.updateLinkStateBusy = true → ∀ j, ¬ (w.workItem j).Stale w) :
    LinkInv { w with
      updateLinkStateBusy := true
      workItem := Function.update w.workItem i
        (if w.updateLinkStateBusy then .idle else .read) } := by
  have hnot : ¬ (w.workItem i).Busy := by
    rw [hi]
    exact id
  cases hflag : w.updateLinkStateBusy with
  | false =>
    have hfree : ∀ j, ¬ (w.workItem j).Busy := by
      intro j hj
      rw [h.busy.mpr ⟨j, hj⟩] at hflag
      cases hflag
    refine .of_now_coming ?_ ?_ ?_ h.posted
    · exact .inr (.inr (.inr (.inr (.inr (exists_update_of_self trivial)))))
    · intro j k hj hk
      rcases of_update (q := LinkWorkItem.Busy) hj with ⟨rfl, -⟩ | ⟨-, hother⟩
      · rcases of_update (q := LinkWorkItem.Busy) hk with ⟨rfl, -⟩ | ⟨-, hother⟩
        · rfl
        · exact absurd hother (hfree k)
      · exact absurd hother (hfree j)
    · exact iff_of_true rfl ⟨i, by simp [LinkWorkItem.Busy]⟩
  | true =>
    obtain ⟨j, hj⟩ := h.busy.mp hflag
    have hji : j ≠ i := fun heq => hnot (heq ▸ hj)
    have hsame : Function.update w.workItem i LinkWorkItem.idle j = w.workItem j :=
      Function.update_of_ne hji _ _
    have hstale := hfresh hflag j
    have hkept : ∀ k, (Function.update w.workItem i LinkWorkItem.idle k).Busy
        ↔ (w.workItem k).Busy := by
      intro k
      by_cases hk : k = i
      · rw [hk, Function.update_self, hi]
        exact Iff.rfl
      · rw [Function.update_of_ne hk]
    have hholder : ∀ k c, (Function.update w.workItem i LinkWorkItem.idle k).Holds c →
        (w.workItem j).Holds c := by
      intro k c hholds
      have hk := h.one_busy k j ((hkept k).mp hholds.busy) hj
      rw [hk, hsame] at hholds
      exact hholds
    have hcurrent : ∀ c, (w.workItem j).Holds c → linkStateOf c = linkStateOf w.phy := by
      rintro c (hc | hc)
      · rw [hc] at hstale
        exact not_not.mp hstale
      · rw [hc] at hstale
        exact not_not.mp hstale
    constructor
    · intro k c hholds
      exact .inl (hcurrent c (hholder k c hholds))
    · cases hstate : w.workItem j with
      | idle =>
        rw [hstate] at hj
        exact hj.elim
      | acquire =>
        rw [hstate] at hj
        exact hj.elim
      | read =>
        refine .inr (.inr (.inr (.inr (.inr (.inr ⟨j, ?_⟩)))))
        dsimp only
        rw [if_pos rfl, hsame, hstate]
        trivial
      | configure c =>
        refine .inl (.inr ⟨j, c, ?_, hcurrent c (.inl hstate)⟩)
        dsimp only
        rw [if_pos rfl, hsame, hstate]
        exact .inl rfl
      | report c =>
        refine .inl (.inr ⟨j, c, ?_, hcurrent c (.inr hstate)⟩)
        dsimp only
        rw [if_pos rfl, hsame, hstate]
        exact .inr rfl
      | release =>
        rw [hstate] at hstale
        exact .inl (.inl (not_not.mp hstale))
    · intro k l hk hl
      exact h.one_busy k l ((hkept k).mp hk) ((hkept l).mp hl)
    · exact iff_of_true rfl ⟨j, (hkept j).mpr hj⟩
    · exact h.posted

/-- **The PHY's status is read**: what is held from then on is what it is. -/
theorem LinkInv.read (h : LinkInv w) {i : ι} (hi : w.workItem i = .read) :
    LinkInv { w with
      regs := readPhyIf w.regs
      workItem := Function.update w.workItem i (.configure w.phy) } := by
  have hbusy : (w.workItem i).Busy := by
    rw [hi]
    trivial
  obtain ⟨hone, hflag⟩ := busy_update h hbusy (.configure w.phy) trivial
  refine ⟨fun j c hholds => .inl ?_, .inl (.inr ⟨i, w.phy, ?_, rfl⟩), hone, hflag, h.posted⟩
  · rcases h.holds_update hbusy hholds with hc | hc
    · cases hc
      rfl
    · cases hc
  · dsimp only
    rw [Function.update_self]
    exact .inl rfl

/-- The configuration is written; the status is still to be reported. -/
theorem LinkInv.configure (h : LinkInv w) {i : ι} {controlStatus : MacPhyIfControlStatus}
    (hi : w.workItem i = .configure controlStatus) :
    LinkInv { w with
      txClock := linkClock controlStatus
      macConfiguration := linkConfig controlStatus w.macConfiguration
      workItem := Function.update w.workItem i (.report controlStatus) } := by
  have hbusy : (w.workItem i).Busy := by
    rw [hi]
    trivial
  have hnot : ¬ (w.workItem i).WillRead := by
    rw [hi]
    exact id
  obtain ⟨hone, hflag⟩ := busy_update h hbusy (.report controlStatus) trivial
  refine ⟨fun j c hholds => ?_, ?_, hone, hflag, h.posted⟩
  · obtain rfl : c = controlStatus := by
      rcases h.holds_update hbusy hholds with hc | hc <;> cases hc
      rfl
    exact (h.held i c (hi ▸ .inl rfl)).imp_right
      fun hc => coming_update_item hnot hc rfl rfl rfl rfl rfl rfl
  · rcases h.held i controlStatus (hi ▸ .inl rfl) with hcurrent | hcoming
    · refine .inl (.inr ⟨i, controlStatus, ?_, hcurrent⟩)
      dsimp only
      rw [Function.update_self]
      exact .inr rfl
    · exact .inr (coming_update_item hnot hcoming rfl rfl rfl rfl rfl rfl)

/-- **The status is reported.** -/
theorem LinkInv.report (h : LinkInv w) {i : ι} {controlStatus : MacPhyIfControlStatus}
    (hi : w.workItem i = .report controlStatus) :
    LinkInv { w with
      reported := linkStateOf controlStatus
      workItem := Function.update w.workItem i .release } := by
  have hbusy : (w.workItem i).Busy := by
    rw [hi]
    trivial
  have hnot : ¬ (w.workItem i).WillRead := by
    rw [hi]
    exact id
  obtain ⟨hone, hflag⟩ := busy_update h hbusy .release trivial
  refine ⟨fun j c hholds => ?_, ?_, hone, hflag, h.posted⟩
  · rcases h.holds_update hbusy hholds with hc | hc <;> cases hc
  · rcases h.held i controlStatus (hi ▸ .inr rfl) with hcurrent | hcoming
    · exact .inl (.inl hcurrent)
    · exact .inr (coming_update_item hnot hcoming rfl rfl rfl rfl rfl rfl)

/-- The flag is given back. -/
theorem LinkInv.release (h : LinkInv w) {i : ι} (hi : w.workItem i = .release) :
    LinkInv { w with
      updateLinkStateBusy := false
      workItem := Function.update w.workItem i .idle } := by
  have hbusy : (w.workItem i).Busy := by
    rw [hi]
    trivial
  have hnot : ¬ (w.workItem i).WillRead := by
    rw [hi]
    exact id
  have hfree : ∀ j, ¬ (Function.update w.workItem i LinkWorkItem.idle j).Busy := by
    intro j hj
    rcases of_update (q := LinkWorkItem.Busy) hj with ⟨-, hself⟩ | ⟨hne, hother⟩
    · exact hself
    · exact hne (h.one_busy j i hother hbusy)
  refine ⟨fun j c hholds => absurd hholds.busy (hfree j), ?_, fun j _ hj => absurd hj (hfree j),
    iff_of_false Bool.false_ne_true (fun ⟨j, hj⟩ => hfree j hj), h.posted⟩
  rcases h.in_step with (hreported | ⟨j, c, hholds, -⟩) | hcoming
  · exact .inl (.inl hreported)
  · rw [h.one_busy j i hholds.busy hbusy, hi] at hholds
    rcases hholds with hc | hc <;> cases hc
  · exact .inr (coming_update_item hnot hcoming rfl rfl rfl rfl rfl rfl)

theorem LinkInv.workItemStep (h : LinkInv w) {i : ι} (hfresh : SkipsFresh w (.workItem i))
    (hs : linkWorkItemStep w i = some w') : LinkInv w' := by
  unfold linkWorkItemStep at hs
  cases hi : w.workItem i with
  | idle =>
    rw [hi] at hs
    cases hs
  | acquire =>
    rw [hi] at hs
    cases hs
    exact h.acquire hi fun hflag => hfresh ⟨hi, hflag⟩
  | read =>
    rw [hi] at hs
    cases hs
    exact h.read hi
  | configure controlStatus =>
    rw [hi] at hs
    cases hs
    exact h.configure hi
  | report controlStatus =>
    rw [hi] at hs
    cases hs
    exact h.report hi
  | release =>
    rw [hi] at hs
    cases hs
    exact h.release hi

/-! ## 5. Runs

In a quiescent state nothing is to come and nothing is held, so what is left of the invariant is
the result. -/

/-- **Every step that meets the condition keeps the invariant.** -/
theorem linkStep_linkInv (h : LinkInv w) (a : LinkAction ι) (hfresh : SkipsFresh w a)
    (hs : linkStep w a = some w') : LinkInv w' := by
  cases a with
  | phyChange phy =>
    cases hs
    exact h.phyChange phy
  | raise bits =>
    cases hs
    exact h.of_coming rfl rfl rfl rfl id h.posted
  | isr =>
    cases hs
    exact h.isr
  | dpcStart i =>
    dsimp only [linkStep] at hs
    split at hs
    · rename_i hready
      cases hs
      exact h.dpcStart hready.2
    · cases hs
  | dpc i => exact h.dpcStep hs
  | workItemStart i =>
    dsimp only [linkStep] at hs
    split at hs
    · rename_i hready
      cases hs
      exact h.workItemStart hready.2
    · cases hs
  | workItem i => exact h.workItemStep hfresh hs
  | setInterrupts k enabled =>
    dsimp only [linkStep, setLinkInterrupts] at hs
    split at hs
    · cases hs
      split
      · exact h.of_coming rfl rfl rfl rfl id h.posted
      · exact h
    · cases hs

/-- **The reported link state is the PHY's in every quiescent state** of every run in which no work
item returns at once while the one that has the flag has read a status that is no longer true.  A
change of the link makes a read of the PHY's status to come, which the ISR, the DPC and the work
item hand on, and at rest none is to come. -/
theorem link_state_exact (h : ReachIf LinkWorld.Started linkStep SkipsFresh w)
    (hq : w.Quiescent) : w.reported = linkStateOf w.phy :=
  (h.invariant (fun _ => started_linkInv)
    (fun _ a _ hinv hfresh hs => linkStep_linkInv hinv a hfresh hs)).reported hq

end Steps

/-! ## 6. Two runs on two processors

Two changes in a row, with the second one noticed while the work item of the first has read but not
reported. -/

/-- A link that is up at 1 Gb/s. -/
def gigabit : MacPhyIfControlStatus := ⟨true, 2, true⟩

/-- The same link, down. -/
def linkDown : MacPhyIfControlStatus := ⟨true, 2, false⟩

/-- The driver started on the link that is up. -/
def startedWorld : LinkWorld (Fin 2) where
  phy := gigabit
  regs := deviceInterruptSet_Locked ⟨false, false, 0, 0⟩ interruptsState
  macConfiguration := ⟨true, .speed1000M⟩
  txClock := 1000
  interruptStatus := 0
  interruptsWanted := interruptsState
  isr := .idle
  dpcQueued := false
  dpc := fun _ => .idle
  workItemQueued := false
  workItem := fun _ => .idle
  updateLinkStateBusy := false
  reported := linkStateOf gigabit

theorem startedWorld_started : startedWorld.Started :=
  ⟨rfl, rfl, rfl, fun _ => rfl, fun _ => rfl, rfl⟩

/-- From a change of the link to the work item in the queue: the ISR, then the DPC, which finds
nothing in its second round. -/
def deliverChange (phy : MacPhyIfControlStatus) : List (LinkAction (Fin 2)) :=
  [.phyChange phy, .isr, .isr, .isr, .isr, .isr, .isr, .isr, .dpcStart 0, .dpc 0, .dpc 0, .dpc 0,
    .dpc 0, .dpc 0]

instance decidableQuiescent (w : LinkWorld (Fin 2)) : Decidable w.Quiescent :=
  decidable_of_iff
    (w.regs.macLinkStatus = false ∧ w.isr = .idle ∧ w.dpcQueued = false ∧ (∀ i, w.dpc i = .idle)
      ∧ w.workItemQueued = false ∧ ∀ i, w.workItem i = .idle)
    ⟨fun ⟨h₁, h₂, h₃, h₄, h₅, h₆⟩ => ⟨h₁, h₂, h₃, h₄, h₅, h₆⟩,
      fun ⟨h₁, h₂, h₃, h₄, h₅, h₆⟩ => ⟨h₁, h₂, h₃, h₄, h₅, h₆⟩⟩

/-- The link goes down and comes up again: the work item of the first change has read "down"
when that of the second finds the flag busy.  The link is reported down for good. -/
theorem change_lost :
    ∃ w : LinkWorld (Fin 2), Reach LinkWorld.Started linkStep w ∧ w.Quiescent
      ∧ w.reported ≠ linkStateOf w.phy := by
  obtain ⟨w, hreach, hlost⟩ := exists_reach_of_run (linkStep (ι := Fin 2)) startedWorld_started
    (deliverChange linkDown ++ [.workItemStart 0, .workItem 0, .workItem 0]
      ++ deliverChange gigabit ++ [.workItemStart 1, .workItem 1]
      ++ [.workItem 0, .workItem 0, .workItem 0])
    (fun w => decide (w.Quiescent ∧ w.reported ≠ linkStateOf w.phy)) (by decide)
  obtain ⟨hq, hne⟩ := of_decide_eq_true hlost
  exact ⟨w, hreach, hq, hne⟩

/-- The link goes down, and the work item runs to its end. -/
theorem link_state_exact_down :
    ∃ w : LinkWorld (Fin 2), ReachIf LinkWorld.Started linkStep SkipsFresh w ∧ w.Quiescent
      ∧ w.phy = linkDown ∧ w.reported = linkStateOf w.phy := by
  obtain ⟨w, hreach, hend⟩ := exists_reachIf_of_runIf (linkStep (ι := Fin 2)) SkipsFresh
    startedWorld_started
    (deliverChange linkDown
      ++ [.workItemStart 0, .workItem 0, .workItem 0, .workItem 0, .workItem 0, .workItem 0])
    (fun w => decide (w.Quiescent ∧ w.phy = linkDown)) (by decide)
  obtain ⟨hq, hphy⟩ := of_decide_eq_true hend
  exact ⟨w, hreach, hq, hphy, link_state_exact hreach hq⟩

end WoaRk3576.Net
