/-
# Channel ownership of pl330dma: `GetHandle`, `SubmitAudioDMA`, `StopThread`, `FreeHandle`

`ReqRunning` is the driver's idea of whether the program in a channel's microcode buffer runs.  The
controller is told to start and to stop a channel by debug instructions (`DMAGO`, `DMAKILL`), which
need the manager to be idle; the driver learns what a channel does from its status register, which
may change between any two reads.

The calls come one after the other, and the controller moves between any two of their accesses: a
read of the status register is a step, a debug instruction with the polling before it is one.  A
program is known by the number of the build that wrote it.

`channels_safe` is the result: as long as the debug instructions find the manager idle, a program
is built only for a held channel that runs nothing, and no channel stops by itself, `ReqRunning`
says what the controller does.  `channels_unsafe` is what a timeout does to it.

`ChannelInv` goes through a call access by access.  Between the calls `ReqRunning` is set just
where `DMAGO` was accepted and no `DMAKILL` since; inside `SubmitAudioDMA` it lags behind for the
one channel of the call, which is held and runs nothing, so that the program that is written is not
one that runs.  Each condition on the steps is needed at one access: the manager's idleness where a
debug instruction is given, the caller's part where the build begins, and the controller's part
where its status changes.

`GetHandle` looks the channel up in the array of `AllocThreads`
(`ChannelWorld.getHandleIndexed_eq`).
-/
import WoaRk3576.Dma.Config
import WoaRk3576.Lib.Transition

namespace WoaRk3576.Dma

open WoaRk3576.Lib

/-! ## 1. The controller

The states of a channel thread are those that the driver tells apart.  By itself a channel may
complete or fault, and may wait in between, but it neither starts nor restarts. -/

/-- `PL330_STATE_*`. -/
inductive PL330State
  | stopped
  | executing
  | wfe
  | faulting
  | completing
  | wfp
  | killing
  | faultCompleting
  | cachemiss
  | updtpc
  | atbarrier
  | queuebusy
  | invalid
  deriving DecidableEq, Repr

/-- `_state` of a channel thread: the state for the low bits of its status register. -/
def pl330State (val : BitVec 4) : PL330State :=
  match val.toNat with
  | 0x0 => .stopped
  | 0x1 => .executing
  | 0x2 => .cachemiss
  | 0x3 => .updtpc
  | 0x4 => .wfe
  | 0xf => .faulting
  | 0x5 => .atbarrier
  | 0x6 => .queuebusy
  | 0x7 => .wfp
  | 0x8 => .killing
  | 0x9 => .completing
  | 0xe => .faultCompleting
  | _ => .invalid

/-- The channel is in the middle of its program. -/
def PL330State.executes : PL330State → Bool
  | .stopped | .faulting | .completing | .killing | .faultCompleting => false
  | _ => true

/-- What a channel can do by itself: it leaves `stopped` only by `DMAGO` and `faulting` only by
`DMAKILL`, and what completes or is killed ends stopped. -/
def PL330State.next : PL330State → PL330State → Bool
  | .stopped, t => t == .stopped
  | .faulting, t => t == .faulting
  | .killing, t => t == .killing || t == .stopped
  | .completing, t => t == .completing || t == .stopped
  | .faultCompleting, t => t == .faultCompleting || t == .faulting || t == .killing
  | _, _ => true

/-- No channel starts to execute by itself. -/
theorem PL330State.executes_of_next (s t : PL330State) (hnext : s.next t = true)
    (ht : t.executes = true) : s.executes = true := by
  revert hnext ht
  cases s <;> cases t <;> decide

/-- What `DMAGO` and `DMAKILL` leave in the status register. -/
def dsStExec : BitVec 4 := 0x1

def dsStKill : BitVec 4 := 0x8

/-! ## 2. The calls

A call is a sequence of reads of the status register with at most one debug instruction.  Where the
driver polls, every poll is a step, and giving up is one of the things that the poll may come to.
So a state that was read may be old when the driver acts on it. -/

/-- Who called `_stop`. -/
inductive StopCaller
  | start
  | stopThread
  deriving DecidableEq, Repr

/-- Where `_start` is; the last two are `_trigger`. -/
inductive StartPc
  | switch
  | faultWait
  | faultCheck
  | faultKilled
  | untilStopped
  | trigger
  | triggerGo
  deriving DecidableEq, Repr

/-- Where `_stop` is: at one of its reads of the state, or at the debug instruction. -/
inductive StopPc
  | fault
  | faultWait
  | completing
  | killing
  | stopped
  | kill
  deriving DecidableEq, Repr

/-- The call in progress. -/
inductive Call
  | idle
  | start (i : Nat) (pc : StartPc)
  | stop (i : Nat) (caller : StopCaller) (pc : StopPc)
  deriving DecidableEq, Repr

/-- What the last step returned. -/
inductive Returned
  | nothing
  | getHandle (handle : Option Nat)
  | submitAudioDMA (i : Nat) (started : Bool)
  | stopThread (i : Nat)
  | freeHandle (i : Nat) (freed : Bool)
  deriving DecidableEq, Repr

/-- The controller and its driver: status register and loaded program of every channel; `Free`,
`ReqRunning` and the build in the microcode buffer of every thread.  The observer's part:
`goAccepted` is set when the controller accepted a `DMAGO` for the program in the buffer and the
channel was neither killed nor seen stopped since, `rewritten` when a buffer was written while
its channel executed. -/
structure ChannelWorld where
  numChan : Nat
  inten : BitVec 32
  cs : Nat → BitVec 4
  loaded : Nat → Nat
  free : Nat → Bool
  reqRunning : Nat → Bool
  microcode : Nat → Nat
  call : Call
  returned : Returned
  goAccepted : Nat → Bool
  rewritten : Bool

inductive ChannelAction
  | getHandle (idx : BitVec 32)
  | submitAudioDMA (i : Nat)
  | stopThread (i : Nat)
  | freeHandle (i : Nat)
  | read
  | debug (idle : Bool)
  | hardware (i : Nat) (cs : BitVec 4)

def ChannelWorld.state (w : ChannelWorld) (i : Nat) : PL330State := pl330State (w.cs i)

/-- After `AllocResources`: every channel is stopped and free. -/
def ChannelWorld.fresh (numChan : Nat) : ChannelWorld where
  numChan := numChan
  inten := 0
  cs := fun _ => 0
  loaded := fun _ => 0
  free := fun _ => true
  reqRunning := fun _ => false
  microcode := fun _ => 0
  call := .idle
  returned := .nothing
  goAccepted := fun _ => false
  rewritten := false

/-- `NumChan` is a field of three bits, plus one. -/
def ChannelWorld.Started (w : ChannelWorld) : Prop := ∃ numChan ≤ 8, w = .fresh numChan

/-- The loop of `GetHandle`. -/
def ChannelWorld.findFree (w : ChannelWorld) (idx : BitVec 32) : Option Nat :=
  (List.range w.numChan).find? fun i => w.free i && (i == idx.toNat || idx == -1)

def getHandle (w : ChannelWorld) (idx : BitVec 32) : ChannelWorld :=
  match w.findFree idx with
  | some i =>
    { w with free := Function.update w.free i false, returned := .getHandle (some i) }
  | none => { w with returned := .getHandle none }

/-- The loop over the entries finds the first index that `GetHandle` may give. -/
theorem getHandleFrom_result {channels : List Pl330Thread} {free : Nat → Bool} (idx : BitVec 32)
    (is : List Nat)
    (h : ∀ i ∈ is, (BitVec.ofNat 32 i).toNat = i ∧ (channels[i]?.map (·.free)).getD false = free i) :
    (getHandleFrom channels idx is).result
      = is.find? fun i => free i && (i == idx.toNat || idx == -1) := by
  induction is with
  | nil => rfl
  | cons i is ih =>
    obtain ⟨⟨hfits, hfree⟩, hrest⟩ := List.forall_mem_cons.1 h
    have hindex : BitVec.ofNat 32 i = idx ↔ i = idx.toNat := by
      rw [← BitVec.toNat_inj, hfits]
    have htest : (free i = true ∧ (BitVec.ofNat 32 i = idx ∨ idx = -1))
        ↔ (free i && (i == idx.toNat || idx == -1)) = true := by
      rw [hindex, Bool.and_eq_true, Bool.or_eq_true, beq_iff_eq, beq_iff_eq]
    rw [getHandleFrom, hfree]
    by_cases hgiven : free i = true ∧ (BitVec.ofNat 32 i = idx ∨ idx = -1)
    · rw [if_pos hgiven]
      refine Eq.symm (List.find?_cons_of_pos ?_)
      exact htest.mp hgiven
    · rw [if_neg hgiven]
      refine (ih hrest).trans (Eq.symm (List.find?_cons_of_neg ?_))
      exact mt htest.mpr hgiven

/-- **The handle is the index of the entry**: what the array says of the channels is what `free`
says of them. -/
theorem ChannelWorld.getHandleIndexed_eq (w : ChannelWorld) {channels : List Pl330Thread}
    {numChan : BitVec 4} (hnum : w.numChan = numChan.toNat)
    (hfree : ∀ i < w.numChan, (channels[i]?.map (·.free)).getD false = w.free i)
    (idx : BitVec 32) : (getHandleIndexed channels numChan idx).result = w.findFree idx := by
  rw [getHandleIndexed, ChannelWorld.findFree, ← hnum]
  refine getHandleFrom_result idx _ fun i hi => ?_
  have hlt := List.mem_range.1 hi
  have hbound := numChan.isLt
  refine ⟨?_, hfree i hlt⟩
  rw [BitVec.toNat_ofNat]
  exact Nat.mod_eq_of_lt (by omega)

/-- `SubmitAudioDMA` up to `_start`: the program is written into the buffer. -/
def submitAudioDMA (w : ChannelWorld) (i : Nat) : ChannelWorld :=
  { w with
    microcode := Function.update w.microcode i (w.microcode i + 1)
    call := .start i .switch
    returned := .nothing
    goAccepted := Function.update w.goAccepted i false
    rewritten := w.rewritten || (w.state i).executes }

@[simp] theorem submitAudioDMA_goAccepted (w : ChannelWorld) (i : Nat) :
    (submitAudioDMA w i).goAccepted = Function.update w.goAccepted i false := rfl

@[simp] theorem submitAudioDMA_rewritten (w : ChannelWorld) (i : Nat) :
    (submitAudioDMA w i).rewritten = (w.rewritten || (w.state i).executes) := rfl

def freeHandle (w : ChannelWorld) (i : Nat) : ChannelWorld :=
  if w.reqRunning i then { w with returned := .freeHandle i false }
  else { w with free := Function.update w.free i true, returned := .freeHandle i true }

/-- The driver read the state of channel `i` and goes on at `call`. -/
def ChannelWorld.readTo (w : ChannelWorld) (i : Nat) (call : Call) (returned : Returned) :
    ChannelWorld :=
  { w with
    call := call
    returned := returned
    goAccepted :=
      if w.state i = .stopped then Function.update w.goAccepted i false else w.goAccepted }

/-- A read of the state in `_start` or `_trigger`. -/
def startRead (w : ChannelWorld) (i : Nat) : StartPc → Option ChannelWorld
  | .switch =>
    match w.state i with
    | .faultCompleting => some (w.readTo i (.start i .faultWait) .nothing)
    | .faulting => some (w.readTo i (.stop i .start .fault) .nothing)
    | .killing | .completing => some (w.readTo i (.start i .untilStopped) .nothing)
    | .stopped => some (w.readTo i (.start i .trigger) .nothing)
    | .wfp | .queuebusy | .atbarrier | .updtpc | .cachemiss | .executing =>
      some (w.readTo i .idle (.submitAudioDMA i true))
    | .wfe | .invalid => some (w.readTo i .idle (.submitAudioDMA i false))
  | .faultWait =>
    some (w.readTo i (.start i
      (if w.state i = .faulting ∨ w.state i = .killing then .faultCheck else .faultWait)) .nothing)
  | .faultCheck =>
    if w.state i = .killing then some (w.readTo i (.start i .faultKilled) .nothing)
    else some (w.readTo i (.stop i .start .fault) .nothing)
  | .faultKilled =>
    if w.state i = .stopped then some (w.readTo i (.stop i .start .fault) .nothing)
    else some (w.readTo i (.start i .faultKilled) .nothing)
  | .untilStopped =>
    some (w.readTo i
      (.start i (if w.state i = .stopped then .trigger else .untilStopped)) .nothing)
  | .trigger =>
    if w.state i ≠ .stopped ∨ w.reqRunning i = true then
      some (w.readTo i .idle (.submitAudioDMA i true))
    else some (w.readTo i (.start i .triggerGo) .nothing)
  | .triggerGo => none

/-- `_stop` is over. -/
def stopReturn (i : Nat) : StopCaller → Call × Returned
  | .start => (.start i .untilStopped, .nothing)
  | .stopThread => (.idle, .stopThread i)

/-- `_stop` returns at once in the state `s`, or goes on. -/
def ChannelWorld.stopUnless (w : ChannelWorld) (i : Nat) (caller : StopCaller) (s : PL330State)
    (pc : StopPc) : ChannelWorld :=
  if w.state i = s then w.readTo i (stopReturn i caller).1 (stopReturn i caller).2
  else w.readTo i (.stop i caller pc) .nothing

/-- A read of the state in `_stop`. -/
def stopRead (w : ChannelWorld) (i : Nat) (caller : StopCaller) : StopPc → Option ChannelWorld
  | .fault =>
    some (w.readTo i (.stop i caller
      (if w.state i = .faultCompleting then .faultWait else .completing)) .nothing)
  | .faultWait =>
    some (w.readTo i (.stop i caller
      (if w.state i = .faulting ∨ w.state i = .killing then .completing else .faultWait)) .nothing)
  | .completing => some (w.stopUnless i caller .completing .killing)
  | .killing => some (w.stopUnless i caller .killing .stopped)
  | .stopped => some (w.stopUnless i caller .stopped .kill)
  | .kill => none

/-- The end of `_trigger`: `_execute_DBGINSN` with `DMAGO`, when `idle` is what `UntilDmacIdle`
found.  The controller accepts it for a stopped channel. -/
def triggerGo (w : ChannelWorld) (i : Nat) (idle : Bool) : ChannelWorld :=
  let accepted := idle && w.state i == .stopped
  { w with
    inten := w.inten ||| BitVec.twoPow 32 i
    cs := if accepted then Function.update w.cs i dsStExec else w.cs
    loaded := if accepted then Function.update w.loaded i (w.microcode i) else w.loaded
    reqRunning := Function.update w.reqRunning i true
    call := .idle
    returned := .submitAudioDMA i true
    goAccepted := if accepted then Function.update w.goAccepted i true else w.goAccepted }

@[simp] theorem triggerGo_reqRunning (w : ChannelWorld) (i : Nat) (idle : Bool) :
    (triggerGo w i idle).reqRunning = Function.update w.reqRunning i true := rfl

/-- The end of `_stop`: `_execute_DBGINSN` with `DMAKILL`. -/
def stopKill (w : ChannelWorld) (i : Nat) (caller : StopCaller) (idle : Bool) : ChannelWorld :=
  { w with
    inten := w.inten &&& ~~~BitVec.twoPow 32 i
    cs := if idle && w.state i != .stopped then Function.update w.cs i dsStKill else w.cs
    reqRunning := Function.update w.reqRunning i false
    call := (stopReturn i caller).1
    returned := (stopReturn i caller).2
    goAccepted := if idle then Function.update w.goAccepted i false else w.goAccepted }

@[simp] theorem stopKill_reqRunning (w : ChannelWorld) (i : Nat) (caller : StopCaller)
    (idle : Bool) : (stopKill w i caller idle).reqRunning = Function.update w.reqRunning i false :=
  rfl

@[simp] theorem stopKill_goAccepted (w : ChannelWorld) (i : Nat) (caller : StopCaller) :
    (stopKill w i caller true).goAccepted = Function.update w.goAccepted i false := rfl

def channelStep (w : ChannelWorld) : ChannelAction → Option ChannelWorld
  | .getHandle idx => if w.call = .idle then some (getHandle w idx) else none
  | .submitAudioDMA i =>
    if w.call = .idle ∧ i < w.numChan then some (submitAudioDMA w i) else none
  | .stopThread i =>
    if w.call = .idle ∧ i < w.numChan then
      some { w with call := .stop i .stopThread .fault, returned := .nothing }
    else none
  | .freeHandle i => if w.call = .idle ∧ i < w.numChan then some (freeHandle w i) else none
  | .read =>
    match w.call with
    | .idle => none
    | .start i pc => startRead w i pc
    | .stop i caller pc => stopRead w i caller pc
  | .debug idle =>
    match w.call with
    | .start i .triggerGo => some (triggerGo w i idle)
    | .stop i caller .kill => some (stopKill w i caller idle)
    | _ => none
  | .hardware i cs =>
    if (w.state i).next (pl330State cs) = true then
      some { w with cs := Function.update w.cs i cs, returned := .nothing }
    else none

/-! ## 3. What the calls promise

For each channel, `ReqRunning` is compared with what the controller was told and with what it does.
A caller relies on more: a channel that is freed can be had again and started, and a start that
reports success has started something. -/

/-- Freed, taken again and given a program, the channel gets a `DMAGO` for it. -/
def ChannelWorld.Restarts (w : ChannelWorld) (i : Nat) : Prop :=
  ∃ freed restarted : ChannelWorld, channelStep w (.freeHandle i) = some freed
    ∧ freed.returned = .freeHandle i true
    ∧ run channelStep freed
        [.getHandle (BitVec.ofNat 32 i), .submitAudioDMA i, .read, .read, .debug true]
      = some restarted
    ∧ restarted.returned = .submitAudioDMA i true ∧ restarted.goAccepted i = true
    ∧ restarted.loaded i = restarted.microcode i

/-- **`ReqRunning` says what the controller does**, and what follows for the callers. -/
structure ChannelsSafe (w : ChannelWorld) : Prop where
  reqRunning_iff : w.call = .idle → ∀ i, w.reqRunning i = true ↔ w.goAccepted i = true
  submitted : ∀ i, w.returned = .submitAudioDMA i true →
    w.loaded i = w.microcode i ∧ (w.state i).executes = true ∧ w.goAccepted i = true
  not_rewritten : w.rewritten = false
  given : ∀ i, w.returned = .getHandle (some i) → (w.state i).executes = false
  restarts : w.call = .idle → ∀ i < w.numChan, w.state i = .stopped → w.Restarts i

/-- **The condition on a step**: a program is built only for a held channel that executes
nothing, the manager is idle when a debug instruction is to be written, and a channel does not
stop by itself while `ReqRunning` is set. -/
def Undisturbed (w : ChannelWorld) : ChannelAction → Prop
  | .submitAudioDMA i => w.free i = false ∧ (w.state i).executes = false
  | .debug idle => idle = true
  | .hardware i cs => pl330State cs = .stopped → w.reqRunning i = false
  | _ => True

instance (w : ChannelWorld) (a : ChannelAction) : Decidable (Undisturbed w a) :=
  match a with
  | .getHandle _ | .stopThread _ | .freeHandle _ | .read => isTrue trivial
  | .submitAudioDMA i => inferInstanceAs (Decidable (w.free i = false ∧ _))
  | .debug idle => inferInstanceAs (Decidable (idle = true))
  | .hardware i cs =>
    inferInstanceAs (Decidable (pl330State cs = .stopped → w.reqRunning i = false))

/-! ## 4. The invariant

The call in progress is the exception in every clause, and only for its own channel.  That channel
is held by the caller and executes nothing when its program is built, which is what the condition
asks of the caller; from then on the driver knows that it has stopped before it comes to `DMAGO`. -/

/-- The call is a `SubmitAudioDMA` of channel `i`. -/
def Call.Submits (i : Nat) : Call → Prop
  | .idle => False
  | .start j _ => j = i
  | .stop j caller _ => j = i ∧ caller = .start

/-- The call is in `_trigger` for channel `i`. -/
def Call.Triggers (i : Nat) : Call → Prop
  | .start j pc => j = i ∧ (pc = .trigger ∨ pc = .triggerGo)
  | _ => False

/-- **The invariant.**  `ReqRunning` is set while the channel executes and clear when it is
stopped or free, and it says whether a `DMAGO` was accepted, except for the channel that
`SubmitAudioDMA` is at: that one is held and executes nothing, and it is stopped once
`_trigger` is reached. -/
structure ChannelInv (w : ChannelWorld) : Prop where
  numChan_le : w.numChan ≤ 8
  executes_req : ∀ i, (w.state i).executes = true → w.reqRunning i = true
  stopped_req : ∀ i, w.state i = .stopped → w.reqRunning i = false
  free_req : ∀ i, w.free i = true → w.reqRunning i = false
  req_iff : ∀ i, ¬ w.call.Submits i → (w.reqRunning i = true ↔ w.goAccepted i = true)
  submits : ∀ i, w.call.Submits i → w.free i = false ∧ (w.state i).executes = false
  triggers : ∀ i, w.call.Triggers i → w.state i = .stopped
  submitted : ∀ i, w.returned = .submitAudioDMA i true →
    w.loaded i = w.microcode i ∧ (w.state i).executes = true ∧ w.goAccepted i = true
  not_rewritten : w.rewritten = false
  given : ∀ i, w.returned = .getHandle (some i) → (w.state i).executes = false

variable {w w' : ChannelWorld}

theorem started_channelInv (h : w.Started) : ChannelInv w := by
  obtain ⟨numChan, hle, rfl⟩ := h
  constructor
  · exact hle
  · exact fun i hi => by cases hi
  · exact fun i _ => rfl
  · exact fun i _ => rfl
  · exact fun i _ => Iff.rfl
  · exact fun i hi => hi.elim
  · exact fun i hi => hi.elim
  · exact fun i hi => by cases hi
  · rfl
  · exact fun i hi => by cases hi

/-- **A read of the state.**  The driver goes on with the same call, and is in `_trigger` only
if it saw the channel stopped. -/
theorem ChannelInv.readTo (h : ChannelInv w) (i : Nat) {call : Call} {returned : Returned}
    (hsubmits : ∀ j, call.Submits j ↔ w.call.Submits j)
    (htriggers : ∀ j, call.Triggers j → w.state j = .stopped)
    (hreturned : returned = .nothing ∨ returned = .stopThread i) :
    ChannelInv (w.readTo i call returned) := by
  have hgo : ∀ j, ¬ w.call.Submits j →
      (w.reqRunning j = true ↔ (w.readTo i call returned).goAccepted j = true) := by
    intro j hj
    show _ ↔ (if w.state i = .stopped then _ else _ : Nat → Bool) j = true
    by_cases hstopped : w.state i = .stopped
    · rw [if_pos hstopped]
      by_cases hji : j = i
      · subst hji
        rw [Function.update_self, h.stopped_req j hstopped]
      · rw [Function.update_of_ne hji]
        exact h.req_iff j hj
    · rw [if_neg hstopped]
      exact h.req_iff j hj
  constructor
  · exact h.numChan_le
  · exact h.executes_req
  · exact h.stopped_req
  · exact h.free_req
  · exact fun j hj => hgo j fun hcall => hj ((hsubmits j).2 hcall)
  · exact fun j hj => h.submits j ((hsubmits j).1 hj)
  · exact htriggers
  · rintro j hj
    rcases hreturned with heq | heq <;> cases heq.symm.trans hj
  · exact h.not_rewritten
  · rintro j hj
    rcases hreturned with heq | heq <;> cases heq.symm.trans hj

/-- **A read in `_start` or `_trigger`.** -/
theorem ChannelInv.startRead (h : ChannelInv w) {i : Nat} {pc : StartPc}
    (hcall : w.call = .start i pc) (hs : startRead w i pc = some w') : ChannelInv w' := by
  have hsubmits : w.call.Submits i := by
    rw [hcall]
    exact rfl
  have hheld := (h.submits i hsubmits).2
  have hstart : ∀ (pc' : StartPc) j, (Call.start i pc').Submits j ↔ w.call.Submits j := by
    intro pc' j
    rw [hcall]
    exact Iff.rfl
  have hstop : ∀ (pc' : StopPc) j, (Call.stop i .start pc').Submits j ↔ w.call.Submits j := by
    intro pc' j
    rw [hcall]
    exact and_iff_left rfl
  have hstarted : ∀ pc', (pc' = .trigger ∨ pc' = .triggerGo → w.state i = .stopped) →
      ChannelInv (w.readTo i (.start i pc') .nothing) := by
    intro pc' hpc
    refine h.readTo i (hstart pc') ?_ (.inl rfl)
    rintro j ⟨rfl, hj⟩
    exact hpc hj
  have hstopped : ChannelInv (w.readTo i (.stop i .start .fault) .nothing) :=
    h.readTo i (hstop .fault) (fun j hj => hj.elim) (.inl rfl)
  cases pc with
  | switch =>
    simp only [Dma.startRead] at hs
    cases hstate : w.state i with
    | faultCompleting =>
      simp only [hstate] at hs
      cases hs
      exact hstarted _ (by rintro (hpc | hpc) <;> cases hpc)
    | faulting =>
      simp only [hstate] at hs
      cases hs
      exact hstopped
    | killing =>
      simp only [hstate] at hs
      cases hs
      exact hstarted _ (by rintro (hpc | hpc) <;> cases hpc)
    | completing =>
      simp only [hstate] at hs
      cases hs
      exact hstarted _ (by rintro (hpc | hpc) <;> cases hpc)
    | stopped =>
      simp only [hstate] at hs
      cases hs
      exact hstarted _ fun _ => hstate
    | _ =>
      -- the channel executes, which the condition on `SubmitAudioDMA` excludes
      rw [hstate] at hheld
      cases hheld
  | faultWait =>
    cases hs
    refine hstarted _ ?_
    split <;> rintro (hpc | hpc) <;> cases hpc
  | faultCheck =>
    simp only [Dma.startRead] at hs
    split at hs <;> cases hs
    · exact hstarted _ (by rintro (hpc | hpc) <;> cases hpc)
    · exact hstopped
  | faultKilled =>
    simp only [Dma.startRead] at hs
    split at hs <;> cases hs
    · exact hstopped
    · exact hstarted _ (by rintro (hpc | hpc) <;> cases hpc)
  | untilStopped =>
    cases hs
    refine hstarted _ ?_
    split
    · rename_i hstate
      exact fun _ => hstate
    · rintro (hpc | hpc) <;> cases hpc
  | trigger =>
    have hstate : w.state i = .stopped := h.triggers i (by
      rw [hcall]
      exact ⟨rfl, .inl rfl⟩)
    have hnot : ¬ (w.state i ≠ .stopped ∨ w.reqRunning i = true) := by
      rintro (hne | hreq)
      · exact hne hstate
      · rw [h.stopped_req i hstate] at hreq
        cases hreq
    simp only [Dma.startRead, if_neg hnot] at hs
    cases hs
    exact hstarted _ fun _ => hstate
  | triggerGo => cases hs

/-- **A read in `_stop`.** -/
theorem ChannelInv.stopRead (h : ChannelInv w) {i : Nat} {caller : StopCaller} {pc : StopPc}
    (hcall : w.call = .stop i caller pc) (hs : stopRead w i caller pc = some w') :
    ChannelInv w' := by
  have hstop : ∀ pc', ChannelInv (w.readTo i (.stop i caller pc') .nothing) := by
    intro pc'
    refine h.readTo i (fun j => ?_) (fun j hj => hj.elim) (.inl rfl)
    rw [hcall]
    exact Iff.rfl
  have hreturn : ChannelInv (w.readTo i (stopReturn i caller).1 (stopReturn i caller).2) := by
    cases caller with
    | start =>
      refine h.readTo i (fun j => ?_) ?_ (.inl rfl)
      · rw [hcall]
        exact (and_iff_left rfl).symm
      · rintro j ⟨-, hpc | hpc⟩ <;> cases hpc
    | stopThread =>
      refine h.readTo i (fun j => ?_) (fun j hj => hj.elim) (.inr rfl)
      rw [hcall]
      exact ⟨False.elim, fun hj => by cases hj.2⟩
  have hunless : ∀ s pc', ChannelInv (w.stopUnless i caller s pc') := by
    intro s pc'
    unfold ChannelWorld.stopUnless
    split
    · exact hreturn
    · exact hstop pc'
  cases pc with
  | fault =>
    cases hs
    exact hstop _
  | faultWait =>
    cases hs
    exact hstop _
  | completing =>
    cases hs
    exact hunless _ _
  | killing =>
    cases hs
    exact hunless _ _
  | stopped =>
    cases hs
    exact hunless _ _
  | kill => cases hs

/-! ### The debug instructions

With an idle manager the controller takes the instruction: `DMAGO` starts the program in the
channel's buffer, `DMAKILL` stops the channel. -/

/-- What a debug instruction leaves in the status register of channel `i`. -/
theorem ChannelWorld.state_update (w : ChannelWorld) (i j : Nat) (val : BitVec 4) :
    pl330State (Function.update w.cs i val j) = if j = i then pl330State val else w.state j := by
  by_cases hji : j = i
  · rw [hji, Function.update_self, if_pos rfl]
  · rw [Function.update_of_ne hji, if_neg hji]
    rfl

section Go

variable {i : Nat} (hstopped : w.state i = .stopped)

include hstopped

theorem triggerGo_cs : (triggerGo w i true).cs = Function.update w.cs i dsStExec := by
  unfold triggerGo
  rw [hstopped]
  rfl

/-- A stopped channel executes after `DMAGO`, and no other changes its state. -/
theorem triggerGo_state (j : Nat) :
    (triggerGo w i true).state j = if j = i then .executing else w.state j := by
  rw [ChannelWorld.state, triggerGo_cs hstopped]
  exact w.state_update i j dsStExec

theorem triggerGo_goAccepted :
    (triggerGo w i true).goAccepted = Function.update w.goAccepted i true := by
  unfold triggerGo
  rw [hstopped]
  rfl

theorem triggerGo_loaded :
    (triggerGo w i true).loaded = Function.update w.loaded i (w.microcode i) := by
  unfold triggerGo
  rw [hstopped]
  rfl

end Go

/-- **`DMAGO` for a stopped channel** starts the program in its buffer. -/
theorem ChannelInv.triggerGo (h : ChannelInv w) {i : Nat} (hcall : w.call = .start i .triggerGo) :
    ChannelInv (triggerGo w i true) := by
  have hsubmits : w.call.Submits i := by
    rw [hcall]
    exact rfl
  have hfree := (h.submits i hsubmits).1
  have hstopped : w.state i = .stopped := h.triggers i (by
    rw [hcall]
    exact ⟨rfl, .inr rfl⟩)
  constructor
  · exact h.numChan_le
  · intro j hj
    rw [triggerGo_reqRunning]
    by_cases hji : j = i
    · rw [hji, Function.update_self]
    · rw [triggerGo_state hstopped, if_neg hji] at hj
      rw [Function.update_of_ne hji]
      exact h.executes_req j hj
  · intro j hj
    rw [triggerGo_state hstopped] at hj
    rw [triggerGo_reqRunning]
    by_cases hji : j = i
    · rw [if_pos hji] at hj
      cases hj
    · rw [if_neg hji] at hj
      rw [Function.update_of_ne hji]
      exact h.stopped_req j hj
  · intro j hj
    have hji : j ≠ i := by
      rintro rfl
      cases hfree.symm.trans hj
    rw [triggerGo_reqRunning, Function.update_of_ne hji]
    exact h.free_req j hj
  · intro j _
    rw [triggerGo_reqRunning, triggerGo_goAccepted hstopped]
    by_cases hji : j = i
    · rw [hji, Function.update_self, Function.update_self]
    · rw [Function.update_of_ne hji, Function.update_of_ne hji]
      refine h.req_iff j ?_
      rw [hcall]
      exact fun heq => hji heq.symm
  · exact fun j hj => hj.elim
  · exact fun j hj => hj.elim
  · intro j hj
    cases hj
    rw [triggerGo_loaded hstopped, triggerGo_state hstopped, triggerGo_goAccepted hstopped,
      if_pos rfl, Function.update_self, Function.update_self]
    exact ⟨rfl, rfl, rfl⟩
  · exact h.not_rewritten
  · exact fun j hj => by cases hj

theorem stopKill_state (w : ChannelWorld) (i j : Nat) (caller : StopCaller) :
    (stopKill w i caller true).state j
      = if j = i ∧ w.state i ≠ .stopped then .killing else w.state j := by
  show pl330State ((if (true && w.state i != .stopped) = true then _ else _ : Nat → _) j) = _
  by_cases hstopped : w.state i = .stopped
  · rw [hstopped, if_neg (by decide), if_neg fun hand => hand.2 rfl]
    rfl
  · rw [bne_iff_ne.2 hstopped, Bool.and_self, if_pos rfl, w.state_update]
    by_cases hji : j = i
    · rw [if_pos hji, if_pos ⟨hji, hstopped⟩]
      rfl
    · rw [if_neg hji, if_neg fun hand => hji hand.1]

/-- **`DMAKILL`.** -/
theorem ChannelInv.stopKill (h : ChannelInv w) {i : Nat} {caller : StopCaller}
    (hcall : w.call = .stop i caller .kill) : ChannelInv (stopKill w i caller true) := by
  have hexecutes : ∀ j, ((Dma.stopKill w i caller true).state j).executes = true →
      j ≠ i ∧ (w.state j).executes = true := by
    intro j hj
    rw [stopKill_state] at hj
    split at hj
    · cases hj
    · rename_i hnot
      refine ⟨?_, hj⟩
      rintro rfl
      rw [not_not.1 fun hne => hnot ⟨rfl, hne⟩] at hj
      cases hj
  have hstopped : ∀ j, (Dma.stopKill w i caller true).state j = .stopped →
      w.state j = .stopped := by
    intro j hj
    rw [stopKill_state] at hj
    split at hj
    · cases hj
    · exact hj
  have hreq : ∀ j, w.reqRunning j = false →
      (Dma.stopKill w i caller true).reqRunning j = false := by
    intro j hj
    rw [stopKill_reqRunning]
    by_cases hji : j = i
    · rw [hji, Function.update_self]
    · rwa [Function.update_of_ne hji]
  have hsubmits : ∀ j, ((stopReturn i caller).1.Submits j ↔ w.call.Submits j) := by
    intro j
    rw [hcall]
    cases caller with
    | start => exact (and_iff_left rfl).symm
    | stopThread => exact ⟨False.elim, fun hj => by cases hj.2⟩
  constructor
  · exact h.numChan_le
  · intro j hj
    obtain ⟨hji, hj⟩ := hexecutes j hj
    rw [stopKill_reqRunning, Function.update_of_ne hji]
    exact h.executes_req j hj
  · exact fun j hj => hreq j (h.stopped_req j (hstopped j hj))
  · exact fun j hj => hreq j (h.free_req j hj)
  · intro j hj
    rw [stopKill_reqRunning, stopKill_goAccepted]
    by_cases hji : j = i
    · rw [hji, Function.update_self, Function.update_self]
    · rw [Function.update_of_ne hji, Function.update_of_ne hji]
      exact h.req_iff j fun hcall => hj ((hsubmits j).2 hcall)
  · intro j hj
    obtain ⟨hfree, hnot⟩ := h.submits j ((hsubmits j).1 hj)
    refine ⟨hfree, Bool.eq_false_iff.2 fun hexec => ?_⟩
    rw [(hexecutes j hexec).2] at hnot
    cases hnot
  · intro j hj
    cases caller with
    | start =>
      obtain ⟨-, hpc | hpc⟩ := hj <;> cases hpc
    | stopThread => exact hj.elim
  · intro j hj
    cases caller <;> cases hj
  · exact h.not_rewritten
  · intro j hj
    cases caller <;> cases hj

/-! ### The calls and the controller

A call changes little at its beginning: `GetHandle` takes a channel, `SubmitAudioDMA` builds its
program, and the rest comes access by access.  The controller may change the status of a channel at
any time; the condition is that none stops by itself while `ReqRunning` is set. -/

theorem ChannelInv.getHandle (h : ChannelInv w) (hidle : w.call = .idle) (idx : BitVec 32) :
    ChannelInv (getHandle w idx) := by
  have hnot : ∀ j, ¬ w.call.Submits j := fun j hj => by
    rw [hidle] at hj
    exact hj
  unfold Dma.getHandle
  cases hfind : w.findFree idx with
  | none =>
    exact { h with
      submitted := fun j hj => by cases hj
      given := fun j hj => by cases hj }
  | some i =>
    have hfree : w.free i = true := by
      have hfound := List.find?_some hfind
      exact (Bool.and_eq_true _ _ ▸ hfound).1
    have hnoexec : (w.state i).executes = false := Bool.eq_false_iff.2 fun hexec => by
      have hreq := h.executes_req i hexec
      rw [h.free_req i hfree] at hreq
      cases hreq
    refine { h with
      free_req := fun j hj => ?_
      submits := fun j hj => absurd hj (hnot j)
      submitted := fun j hj => by cases hj
      given := fun j hj => ?_ }
    · rcases of_update (q := (· = true)) hj with ⟨-, hj⟩ | ⟨-, hj⟩
      · cases hj
      · exact h.free_req j hj
    · cases hj
      exact hnoexec

theorem ChannelInv.submitAudioDMA (h : ChannelInv w) (hidle : w.call = .idle) {i : Nat}
    (hheld : w.free i = false) (hnot : (w.state i).executes = false) :
    ChannelInv (submitAudioDMA w i) := by
  refine { h with
    req_iff := fun j hj => ?_
    submits := ?_
    triggers := ?_
    submitted := fun j hj => by cases hj
    not_rewritten := ?_
    given := fun j hj => by cases hj }
  · have hji : j ≠ i := fun heq => hj heq.symm
    rw [submitAudioDMA_goAccepted, Function.update_of_ne hji]
    refine h.req_iff j ?_
    rw [hidle]
    exact id
  · rintro j rfl
    exact ⟨hheld, hnot⟩
  · rintro j ⟨-, hpc | hpc⟩ <;> cases hpc
  · rw [submitAudioDMA_rewritten, h.not_rewritten, hnot]
    rfl

theorem ChannelInv.stopThread (h : ChannelInv w) (hidle : w.call = .idle) (i : Nat) :
    ChannelInv { w with call := .stop i .stopThread .fault, returned := .nothing } := by
  refine { h with
    req_iff := fun j _ => h.req_iff j ?_
    submits := fun j hj => by cases hj.2
    triggers := fun j hj => hj.elim
    submitted := fun j hj => by cases hj
    given := fun j hj => by cases hj }
  rw [hidle]
  exact id

theorem ChannelInv.freeHandle (h : ChannelInv w) (hidle : w.call = .idle) (i : Nat) :
    ChannelInv (freeHandle w i) := by
  unfold Dma.freeHandle
  split
  · exact { h with
      submitted := fun j hj => by cases hj
      given := fun j hj => by cases hj }
  · rename_i hreq
    refine { h with
      free_req := fun j hj => ?_
      submits := fun j hj => ?_
      submitted := fun j hj => by cases hj
      given := fun j hj => by cases hj }
    · rcases of_update (q := (· = true)) hj with ⟨rfl, -⟩ | ⟨-, hj⟩
      · exact Bool.eq_false_iff.2 hreq
      · exact h.free_req j hj
    · rw [show ChannelWorld.call _ = .idle from hidle] at hj
      exact hj.elim

/-- The status of a channel changes by itself. -/
theorem ChannelInv.hardware (h : ChannelInv w) {i : Nat} {cs : BitVec 4}
    (hnext : (w.state i).next (pl330State cs) = true)
    (hstop : pl330State cs = .stopped → w.reqRunning i = false) :
    ChannelInv { w with cs := Function.update w.cs i cs, returned := .nothing } := by
  have hexecutes : ∀ j, (pl330State (Function.update w.cs i cs j)).executes = true →
      (w.state j).executes = true := by
    intro j hj
    rw [w.state_update] at hj
    split at hj
    · rename_i hji
      rw [hji]
      exact PL330State.executes_of_next _ _ hnext hj
    · exact hj
  refine { h with
    executes_req := fun j hj => h.executes_req j (hexecutes j hj)
    stopped_req := fun j hj => ?_
    submits := fun j hj => ⟨(h.submits j hj).1, Bool.eq_false_iff.2 fun hj' => ?_⟩
    triggers := fun j hj => ?_
    submitted := fun j hj => by cases hj
    given := fun j hj => by cases hj }
  · rw [ChannelWorld.state, w.state_update] at hj
    split at hj
    · rename_i hji
      rw [hji]
      exact hstop hj
    · exact h.stopped_req j hj
  · have hnot := (h.submits j hj).2
    rw [hexecutes j hj'] at hnot
    cases hnot
  · have hstopped := h.triggers j hj
    rw [ChannelWorld.state, w.state_update]
    split
    · rename_i hji
      rw [← hji, hstopped] at hnext
      exact eq_of_beq hnext
    · exact hstopped

/-! ## 5. Whole runs

The promise of a restart is an existence: there is a run from here that frees the channel, takes it
and starts it.  It is given step by step, for any state in which the channel is stopped. -/

/-- **A step that meets the condition keeps the invariant.** -/
theorem ChannelInv.step (h : ChannelInv w) {a : ChannelAction} (hG : Undisturbed w a)
    (hs : channelStep w a = some w') : ChannelInv w' := by
  cases a with
  | getHandle idx =>
    simp only [channelStep] at hs
    split at hs <;> cases hs
    exact h.getHandle ‹_› idx
  | submitAudioDMA i =>
    simp only [channelStep] at hs
    split at hs <;> cases hs
    rename_i hidle
    exact h.submitAudioDMA hidle.1 hG.1 hG.2
  | stopThread i =>
    simp only [channelStep] at hs
    split at hs <;> cases hs
    rename_i hidle
    exact h.stopThread hidle.1 i
  | freeHandle i =>
    simp only [channelStep] at hs
    split at hs <;> cases hs
    rename_i hidle
    exact h.freeHandle hidle.1 i
  | read =>
    cases hcall : w.call with
    | idle =>
      simp only [channelStep, hcall] at hs
      cases hs
    | start i pc =>
      simp only [channelStep, hcall] at hs
      exact h.startRead hcall hs
    | stop i caller pc =>
      simp only [channelStep, hcall] at hs
      exact h.stopRead hcall hs
  | debug idle =>
    rw [show idle = true from hG] at hs
    simp only [channelStep] at hs
    split at hs <;> cases hs
    · exact h.triggerGo ‹_›
    · exact h.stopKill ‹_›
  | hardware i cs =>
    simp only [channelStep] at hs
    split at hs <;> cases hs
    exact h.hardware ‹_› hG

/-- `GetHandle` with the number of a free channel. -/
theorem ChannelWorld.findFree_self (w : ChannelWorld) {i : Nat} (hi : i < w.numChan)
    (hle : w.numChan ≤ 8) (hfree : w.free i = true) : w.findFree (BitVec.ofNat 32 i) = some i := by
  have htoNat : (BitVec.ofNat 32 i).toNat = i := by
    rw [BitVec.toNat_ofNat]
    exact Nat.mod_eq_of_lt (by omega)
  have hne : (BitVec.ofNat 32 i == -1) = false := by
    refine beq_eq_false_iff_ne.2 fun heq => ?_
    have htop := congrArg BitVec.toNat heq
    rw [htoNat] at htop
    have : (-1 : BitVec 32).toNat = 4294967295 := by decide
    omega
  refine List.find?_range_eq_some.2 ⟨?_, List.mem_range.2 hi, fun j hj => ?_⟩
  · rw [hfree, htoNat, beq_self_eq_true]
    rfl
  · rw [htoNat, hne, beq_eq_false_iff_ne.2 (Nat.ne_of_lt hj), Bool.or_self, Bool.and_false]
    rfl

/-- **A stopped channel can be freed and started again.** -/
theorem channel_restarts (h : ChannelInv w) (hidle : w.call = .idle) {i : Nat}
    (hi : i < w.numChan) (hstopped : w.state i = .stopped) : w.Restarts i := by
  have hreq := h.stopped_req i hstopped
  have hnotReq : ¬ w.reqRunning i = true := by
    rw [hreq]
    exact Bool.false_ne_true
  let freed : ChannelWorld :=
    { w with free := Function.update w.free i true, returned := .freeHandle i true }
  let given : ChannelWorld :=
    { freed with free := Function.update freed.free i false, returned := .getHandle (some i) }
  let built := submitAudioDMA given i
  let seen := built.readTo i (.start i .trigger) .nothing
  let armed := seen.readTo i (.start i .triggerGo) .nothing
  have hfreed : channelStep w (.freeHandle i) = some freed := by
    rw [channelStep, if_pos ⟨hidle, hi⟩, freeHandle, if_neg hnotReq]
  have hgiven : channelStep freed (.getHandle (BitVec.ofNat 32 i)) = some given := by
    have hfind : freed.findFree (BitVec.ofNat 32 i) = some i :=
      freed.findFree_self hi h.numChan_le (Function.update_self ..)
    rw [channelStep, if_pos hidle, getHandle, hfind]
  have hbuilt : channelStep given (.submitAudioDMA i) = some built := by
    rw [channelStep, if_pos ⟨hidle, hi⟩]
  have hseen : channelStep built .read = some seen := by
    show startRead built i .switch = some seen
    rw [startRead, show built.state i = .stopped from hstopped]
  have harmed : channelStep seen .read = some armed := by
    show startRead seen i .trigger = some armed
    rw [startRead, if_neg]
    rintro (hne | hrunning)
    · exact hne hstopped
    · exact hnotReq hrunning
  have haccepted : (true && armed.state i == .stopped) = true := by
    rw [show armed.state i = .stopped from hstopped]
    rfl
  refine ⟨freed, triggerGo armed i true, hfreed, rfl, ?_, rfl, ?_, ?_⟩
  · rw [run, hgiven, Option.bind_some, run, hbuilt, Option.bind_some, run, hseen,
      Option.bind_some, run, harmed, Option.bind_some]
    rfl
  · simp only [triggerGo, haccepted, if_true, Function.update_self]
  · simp only [triggerGo, haccepted, if_true, Function.update_self]

theorem ChannelInv.safe (h : ChannelInv w) : ChannelsSafe w where
  reqRunning_iff hidle i := h.req_iff i (by
    rw [hidle]
    exact id)
  submitted := h.submitted
  not_rewritten := h.not_rewritten
  given := h.given
  restarts hidle _ hi hstopped := channel_restarts h hidle hi hstopped

/-- **Channels are safe in every run whose steps leave them undisturbed.** `ReqRunning` changes
just where a debug instruction is accepted, except inside of a build, whose channel is held and
runs nothing; so no program is written over that runs, and none is taken for running that does not.
-/
theorem channels_safe (w : ChannelWorld)
    (h : ReachIf ChannelWorld.Started channelStep Undisturbed w) : ChannelsSafe w := by
  refine ChannelInv.safe ?_
  exact ReachIf.invariant (fun _ hw => started_channelInv hw)
    (fun _ _ _ hw hG hs => hw.step hG hs) h

/-- A channel taken, started, stopped and taken again. -/
theorem channels_safe_of_run : ∃ w : ChannelWorld,
    w.returned = .getHandle (some 0) ∧ w.microcode 0 = 1 ∧ ChannelsSafe w := by
  have hstarted : ChannelWorld.Started (.fresh 8) := ⟨8, Nat.le_refl 8, rfl⟩
  obtain ⟨w, hreach, hw⟩ := exists_reachIf_of_runIf channelStep Undisturbed hstarted
    [.getHandle (-1), .submitAudioDMA 0, .read, .read, .debug true, .hardware 0 0x7,
      .stopThread 0, .read, .read, .read, .read, .debug true, .hardware 0 0x0, .freeHandle 0,
      .getHandle 0]
    (fun w => w.returned == .getHandle (some 0) && w.microcode 0 == 1) (by decide)
  rw [Bool.and_eq_true, beq_iff_eq, beq_iff_eq] at hw
  exact ⟨w, hw.1, hw.2, channels_safe w hreach⟩

/-- **The manager does not become idle in time**: `SubmitAudioDMA` reports success and
`ReqRunning` is set, and no `DMAGO` was issued. -/
theorem channels_unsafe : ∃ w, Reach ChannelWorld.Started channelStep w ∧ ¬ ChannelsSafe w := by
  have hstarted : ChannelWorld.Started (.fresh 8) := ⟨8, Nat.le_refl 8, rfl⟩
  obtain ⟨w, hreach, hw⟩ := exists_reach_of_run channelStep hstarted
    [.getHandle 0, .submitAudioDMA 0, .read, .read, .debug false]
    (fun w => w.returned == .submitAudioDMA 0 true && !(w.state 0).executes) (by decide)
  rw [Bool.and_eq_true, beq_iff_eq, Bool.not_eq_true'] at hw
  refine ⟨w, hreach, fun h => ?_⟩
  have hexec := (h.submitted 0 hw.1).2.1
  rw [hw.2] at hexec
  cases hexec

end WoaRk3576.Dma
