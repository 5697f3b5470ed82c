/-
# The busy worker of dwcmshc

A request whose card stays busy is completed later, by a worker.  The work item carries only the
extension: `MshcCompleteRequestBusyWorker` takes whatever request is outstanding when it runs.

`worker_exact` is what holds of a run in which nothing replaces the outstanding request between the
queueing and the worker (`WorkerKept`): every run of the worker hands on the request that it was
queued for, as it was issued, and no issue is completed twice.  `worker_null` is a run with a reset
in between.

The invariant (`WorkerInv`) ties what the work item does not carry to what is in the extension.
While it is queued, the request it was queued for is the outstanding one, it is the last issue, it
waits for nothing, and this issue was not completed.  So the worker finds it, and its completion is
the first.  A DPC that comes meanwhile finds a request that waits for nothing and returns early;
this is why the condition on the steps need not exclude it.

An issue is told from another one of the same request by a number, which the observer counts.  "Not
twice" is then that the numbers of the completed issues are different, and each completion adds the
present one: `completeRequest_workerInv` is the one lemma about all of them.
-/
import Mathlib.Data.List.Nodup
import WoaRk3576.Lib.Transition
import WoaRk3576.Sd.MshcStop

namespace WoaRk3576.Sd

open WoaRk3576.Lib

/-! ## 1. The steps of a slot

A step is a whole call of the driver, as the port driver serializes the calls for a slot.  What is
asked of a run of the worker is a statement about its record: the request that it handed on is the
one it was queued for, as it was issued then, and it was completed by this. -/

/-- What happens to a slot.  A reset takes the request back, and its stop command is issued like
the other local requests; `request` is what the caller has filled in. -/
inductive SlotStep
  | issue (c : CallContext) (r : RequestId) (request : SdRequest)
  | portDpc (c : CallContext) (r : RequestId) (events : Finset SdEvent) (errors : Finset SdError)
  | activity (a : Activity)
  | reset
  | beginWait
  | endWait (r : RequestId) (timedOut : Bool)

def slotStep (h : MshcHost) : SlotStep → Option MshcHost
  | .issue c r request => some (mshcSlotIssueRequest c r (h.put r request)).1
  | .portDpc c r events errors => some (mshcRequestDpc c r events errors h)
  | .activity a => some (a.run h)
  | .reset => some { h with outstandingRequest := none }
  | .beginWait => some { h with localRequestPending := true }
  | .endWait r timedOut => some (endWait r (h, timedOut))

/-- A slot that has not been used. -/
def MshcHost.Fresh (h : MshcHost) : Prop :=
  h.outstandingRequest = none ∧ h.busyWorker = none ∧ h.workerRuns = [] ∧ h.ended = []

/-- **Every run of the worker hands on the request it was queued for**, as it was issued, and ends
it; no issue is completed twice. -/
def WorkerExact (h : MshcHost) : Prop :=
  (∀ run ∈ h.workerRuns, run.passed = some run.queuedFor ∧ run.queuedFor ∈ h.ended)
    ∧ h.ended.Nodup

/-- **The condition on a step.**  While the worker is queued no request is issued and no reset takes
the request back; and the port driver's DPC comes for the outstanding request or for one
that waits for nothing. -/
def WorkerKept (h : MshcHost) : SlotStep → Prop
  | .issue .. | .reset => h.busyWorker = none
  | .portDpc _ r _ _ =>
    h.outstandingRequest = none ∨ h.outstandingRequest = some r
      ∨ (h.requests r).requiredEvents = ∅
  | _ => True

instance (h : MshcHost) (step : SlotStep) : Decidable (WorkerKept h step) :=
  match step with
  | .issue .. | .reset => inferInstanceAs (Decidable (h.busyWorker = none))
  | .portDpc _ r _ _ => inferInstanceAs (Decidable (h.outstandingRequest = none
      ∨ h.outstandingRequest = some r ∨ (h.requests r).requiredEvents = ∅))
  | .activity _ | .beginWait | .endWait .. => inferInstanceAs (Decidable True)

/-! ## 2. The invariant

While the worker is queued, the request it was queued for is outstanding, waits for nothing, and is
the last one that was issued.  The worker completes whatever is outstanding, so this is what makes
it complete the right one.  `Completing` is the state inside a completion, which may queue the
worker or call it. -/

/-- The queued worker is for the outstanding request, which waits for nothing and has not been
completed since it was issued; an issue that was completed is not completed again. -/
structure WorkerInv (h : MshcHost) : Prop where
  queued : ∀ t, h.busyWorker = some t → h.outstandingRequest = some t.request
    ∧ t.issue = h.issues ∧ (h.requests t.request).requiredEvents = ∅
    ∧ ∀ u ∈ h.ended, u.issue < h.issues
  runs : ∀ run ∈ h.workerRuns, run.passed = some run.queuedFor ∧ run.queuedFor ∈ h.ended
  nodup : h.ended.Nodup
  past : ∀ u ∈ h.ended, u.issue ≤ h.issues
  spent : (∃ u ∈ h.ended, u.issue = h.issues) →
    ∀ q, h.outstandingRequest = some q → (h.requests q).requiredEvents = ∅

/-- The outstanding request is about to be completed; the runs of the worker that it has called
itself are not over yet. -/
structure Completing (r : RequestId) (h : MshcHost) : Prop where
  outstanding : h.outstandingRequest = some r
  worker : h.busyWorker = none
  runs : ∀ run ∈ h.workerRuns, run.passed = some run.queuedFor
    ∧ (run.queuedFor ∈ h.ended ∨ run.queuedFor = ⟨r, h.issues⟩)
  nodup : h.ended.Nodup
  past : ∀ u ∈ h.ended, u.issue < h.issues

/-- What a step that completes nothing leaves alone. -/
theorem WorkerInv.of_eq {h h' : MshcHost} (hi : WorkerInv h)
    (hout : h'.outstandingRequest = h.outstandingRequest) (hworker : h'.busyWorker = h.busyWorker)
    (hissues : h'.issues = h.issues) (hruns : h'.workerRuns = h.workerRuns)
    (hended : h'.ended = h.ended)
    (hrequired : ∀ q, h.outstandingRequest = some q → (h.requests q).requiredEvents = ∅ →
      (h'.requests q).requiredEvents = ∅) : WorkerInv h' where
  queued := by
    intro t ht
    obtain ⟨ho, hn, he, hp⟩ := hi.queued t (hworker ▸ ht)
    rw [hout, hissues, hended]
    exact ⟨ho, hn, hrequired _ ho he, hp⟩
  runs := by
    rw [hruns, hended]
    exact hi.runs
  nodup := hended ▸ hi.nodup
  past := by
    rw [hended, hissues]
    exact hi.past
  spent := by
    rw [hended, hissues, hout]
    exact fun hs q hq => hrequired q hq (hi.spent hs q hq)

/-- A request that is outstanding and still waits has not been completed. -/
theorem WorkerInv.completing {r : RequestId} {h : MshcHost} (hi : WorkerInv h)
    (hout : h.outstandingRequest = some r) (hrequired : (h.requests r).requiredEvents ≠ ∅) :
    Completing r h where
  outstanding := hout
  worker := by
    cases hb : h.busyWorker with
    | none => rfl
    | some t =>
      obtain ⟨ho, -, he, -⟩ := hi.queued t hb
      have ht : t.request = r := Option.some.inj (ho.symm.trans hout)
      exact absurd (ht ▸ he) hrequired
  runs := fun run hrun => ⟨(hi.runs run hrun).1, Or.inl (hi.runs run hrun).2⟩
  nodup := hi.nodup
  past := by
    intro u hu
    refine Nat.lt_of_le_of_ne (hi.past u hu) fun he => ?_
    exact hrequired (hi.spent ⟨u, hu, he⟩ r hout)

/-- The end of the completion. -/
theorem Completing.finish {r : RequestId} {h : MshcHost} (hc : Completing r h) (inserted : Bool)
    {status : NtStatus} (hstatus : status.Releases ∨ (h.requests r).requiredEvents = ∅) :
    WorkerInv (finishRequest inserted r (h.setStatus r status)) := by
  have hended := finishRequest_ended inserted r (h.setStatus r status)
  have hissues := finishRequest_issues inserted r (h.setStatus r status)
  have hruns := finishRequest_workerRuns inserted r (h.setStatus r status)
  have hworker := finishRequest_busyWorker inserted r (h.setStatus r status)
  have hout := finishRequest_outstanding inserted r (h.setStatus r status)
  rw [MshcHost.setStatus_requests] at hout
  constructor
  · intro t ht
    cases (hworker.trans hc.worker).symm.trans ht
  · intro run hrun
    rw [hruns] at hrun
    rw [hended]
    obtain ⟨hpassed, hold | hnew⟩ := hc.runs run hrun
    · exact ⟨hpassed, List.mem_append_left _ hold⟩
    · exact ⟨hpassed, List.mem_append_right _ (List.mem_singleton.2 hnew)⟩
  · rw [hended]
    refine List.nodup_append.2 ⟨hc.nodup, List.nodup_singleton _, ?_⟩
    rintro u hu v hv rfl
    rw [List.mem_singleton.1 hv] at hu
    exact Nat.lt_irrefl _ (hc.past _ hu)
  · intro u hu
    rw [hended] at hu
    rw [hissues]
    rcases List.mem_append.1 hu with hold | hnew
    · exact Nat.le_of_lt (hc.past u hold)
    · rw [List.mem_singleton.1 hnew]
  · intro _ q hq
    rw [finishRequest_required, MshcHost.setStatus_required]
    rcases hstatus with hok | hempty
    · rw [hout, if_pos hok] at hq
      cases hq
    · split at hout
      · cases hout.symm.trans hq
      · have hr : r = q := Option.some.inj ((hout.trans hc.outstanding).symm.trans hq)
        exact hr ▸ hempty

/-- A run of the worker that the completion calls itself. -/
theorem Completing.recordRun {r : RequestId} {h : MshcHost} (hc : Completing r h) :
    Completing r (h.recordRun ⟨r, h.issues⟩) where
  outstanding := hc.outstanding
  worker := hc.worker
  runs := by
    intro run hrun
    rcases List.mem_append.1 hrun with hold | hnew
    · exact hc.runs run hold
    · rw [List.mem_singleton.1 hnew, hc.outstanding]
      exact ⟨rfl, Or.inr rfl⟩
  nodup := hc.nodup
  past := hc.past

theorem Completing.setStatus {r : RequestId} {h : MshcHost} (hc : Completing r h)
    (status : NtStatus) : Completing r (h.setStatus r status) :=
  ⟨hc.outstanding, hc.worker, hc.runs, hc.nodup, hc.past⟩

/-- The worker is queued for the request. -/
theorem Completing.queue {r : RequestId} {h : MshcHost} (hc : Completing r h)
    (hrequired : (h.requests r).requiredEvents = ∅)
    (hclosed : ∀ run ∈ h.workerRuns, run.queuedFor ∈ h.ended) :
    WorkerInv { h with busyWorker := some ⟨r, h.issues⟩ } where
  queued := by
    intro t ht
    cases ht
    exact ⟨hc.outstanding, rfl, hrequired, hc.past⟩
  runs := fun run hrun => ⟨(hc.runs run hrun).1, hclosed run hrun⟩
  nodup := hc.nodup
  past := fun u hu => Nat.le_of_lt (hc.past u hu)
  spent := fun ⟨u, hu, he⟩ => absurd he (Nat.ne_of_lt (hc.past u hu))

/-- **A completion of the outstanding request** ends it or queues the worker for it. -/
theorem completeRequest_workerInv (inserted dispatch : Bool) (data : DataLine) {r : RequestId}
    {status : NtStatus} {h : MshcHost} (hc : Completing r h)
    (hstatus : status.Releases ∨ (h.requests r).requiredEvents = ∅)
    (hclosed : h.Queues dispatch → ∀ run ∈ h.workerRuns, run.queuedFor ∈ h.ended) :
    WorkerInv (completeRequest inserted dispatch data r status h) := by
  refine completeRequest_rule (A := fun r status g => Completing r g
    ∧ (status.Releases ∨ (g.requests r).requiredEvents = ∅)
    ∧ (g.Queues dispatch → ∀ run ∈ g.workerRuns, run.queuedFor ∈ g.ended))
    ?_ ?_ ?_ ?_ data ⟨hc, hstatus, hclosed⟩
  · rintro r status g ⟨hc, hstatus, -⟩
    exact hc.finish inserted hstatus
  · rintro r status g ⟨hc, -, hclosed⟩ hwaits hqueue
    exact (hc.setStatus status).queue hwaits.2.1 (hclosed hqueue)
  · rintro r status g ⟨hc, -, -⟩ hnone
    cases hc.outstanding.symm.trans hnone
  · rintro r status g r' ⟨hc, -, -⟩ hwaits hno hout status' -
    obtain rfl : r = r' := Option.some.inj (hc.outstanding.symm.trans hout)
    exact ⟨(hc.setStatus status).recordRun, Or.inr hwaits.2.1, fun hqueue => absurd hqueue hno⟩

/-! ## 3. A step of each kind

Steps that complete nothing leave alone what the invariant speaks of (`SameWorker`).  An issue
makes a new request the outstanding one and takes no notice of the worker, and a reset takes the
request away; these are the two that the condition keeps from happening while the worker is queued.
-/

theorem failRequest_workerInv (c : CallContext) {r : RequestId} (errors : Finset SdError)
    {h : MshcHost} (hi : WorkerInv h) (hc : Completing r h) :
    WorkerInv (failRequest c r errors h) := by
  unfold failRequest mshcCompleteRequest
  dsimp only
  generalize hcount : (if h.tuningPerformed = true ∧ SdError.dataCrcError ∈ errors then
    { h with dataCrcErrorsSinceLastTuning := h.dataCrcErrorsSinceLastTuning + 1 } else h) = g
  have hg : Completing r g ∧ ∀ run ∈ g.workerRuns, run.queuedFor ∈ g.ended := by
    rw [← hcount]
    split
    · exact ⟨⟨hc.outstanding, hc.worker, hc.runs, hc.nodup, hc.past⟩,
        fun run hrun => (hi.runs run hrun).2⟩
    · exact ⟨hc, fun run hrun => (hi.runs run hrun).2⟩
  refine completeRequest_workerInv c.inserted c.dispatch c.data
    ⟨hg.1.outstanding, hg.1.worker, hg.1.runs, hg.1.nodup, hg.1.past⟩ (Or.inr ?_) fun _ => hg.2
  exact congrArg SdRequest.requiredEvents (g.setRequired_requests r ∅)

theorem advanceRequest_workerInv (c : CallContext) {r : RequestId} (events : Finset SdEvent)
    {h : MshcHost} (hi : WorkerInv h) (hc : Completing r h) :
    WorkerInv (advanceRequest c r events h) := by
  have hset : ∀ required : Finset SdEvent, Completing r (h.setRequired r required) :=
    fun _ => ⟨hc.outstanding, hc.worker, hc.runs, hc.nodup, hc.past⟩
  have hkeep : ∀ required : Finset SdEvent, WorkerInv (h.setRequired r required) := by
    intro required
    refine ⟨?_, hi.runs, hi.nodup, hi.past, ?_⟩
    · intro t ht
      cases hc.worker.symm.trans ht
    · rintro ⟨u, hu, he⟩
      exact absurd he (Nat.ne_of_lt (hc.past u hu))
  unfold advanceRequest
  dsimp only
  split
  · split
    · exact hkeep _
    · exact failRequest_workerInv c _ (hkeep _) (hset _)
  · split
    · rename_i hempty
      exact completeRequest_workerInv c.inserted c.dispatch c.data (hset _) (Or.inr hempty)
        fun _ run hrun => (hi.runs run hrun).2
    · exact hkeep _

theorem mshcRequestDpc_workerInv (c : CallContext) {r : RequestId} (events : Finset SdEvent)
    (errors : Finset SdError) {h : MshcHost} (hi : WorkerInv h)
    (hkept : h.outstandingRequest = none ∨ h.outstandingRequest = some r
      ∨ (h.requests r).requiredEvents = ∅) : WorkerInv (mshcRequestDpc c r events errors h) := by
  unfold mshcRequestDpc
  split
  · exact hi
  · rename_i hguard
    have hrecord : WorkerInv { h with
        currentEvents := h.currentEvents ∪ events
        currentErrors := h.currentErrors ∪ errors } :=
      hi.of_eq rfl rfl rfl rfl rfl fun _ _ he => he
    dsimp only
    split
    · exact hrecord
    · rename_i hsome
      have hrequired : (h.requests r).requiredEvents ≠ ∅ := fun he => hguard (Or.inr he)
      rcases hkept with hnone | hr | he
      · exact absurd hnone hsome
      · exact advanceRequest_workerInv c events hrecord (hrecord.completing hr hrequired)
      · exact absurd he hrequired

theorem worker_workerInv (wait : DataWait) (inserted : Bool) {h : MshcHost} (hi : WorkerInv h) :
    WorkerInv (mshcCompleteRequestBusyWorker inserted wait h) := by
  unfold mshcCompleteRequestBusyWorker
  cases hb : h.busyWorker with
  | none => exact hi
  | some t =>
    obtain ⟨hout, hissue, hempty, hpast⟩ := hi.queued t hb
    have hticket : t = ⟨t.request, h.issues⟩ := by rw [← hissue]
    have hc : Completing t.request (({ h with busyWorker := none } : MshcHost).recordRun t) := by
      refine ⟨hout, rfl, ?_, hi.nodup, hpast⟩
      intro run hrun
      rcases List.mem_append.1 hrun with hold | hnew
      · exact ⟨(hi.runs run hold).1, Or.inl (hi.runs run hold).2⟩
      · rw [List.mem_singleton.1 hnew]
        refine ⟨?_, Or.inr hticket⟩
        rw [hout]
        exact congrArg some hticket.symm
    dsimp only
    rw [show (({ h with busyWorker := none } : MshcHost).recordRun t).outstandingRequest
      = some t.request from hout]
    cases wait with
    | timeout =>
      exact completeRequest_workerInv inserted false .idle hc (Or.inr hempty)
        fun hq => by cases hq.2
    | idle again =>
      exact completeRequest_workerInv inserted false again hc (Or.inr hempty)
        fun hq => by cases hq.2

theorem Activity.run_workerInv (a : Activity) {h : MshcHost} (hi : WorkerInv h) :
    WorkerInv (a.run h) := by
  cases a with
  | interrupt events errors cardChange =>
    simp only [Activity.run, mshcSlotInterrupt]
    split
    · exact hi.of_eq rfl rfl rfl rfl rfl fun _ _ he => he
    · exact hi
  | localDpc data inserted =>
    simp only [Activity.run, mshcLocalRequestDpc]
    split
    · have hdequeue : WorkerInv { h with localRequestDpc := false } :=
        hi.of_eq rfl rfl rfl rfl rfl fun _ _ he => he
      split
      · exact hdequeue
      · rename_i r hr
        exact mshcRequestDpc_workerInv _ _ _ hdequeue (Or.inr (Or.inl hr))
    · exact hi
  | busyWorker wait inserted => exact worker_workerInv wait inserted hi

/-- What the worker depends on, but for the required events. -/
structure SameWorker (h h' : MshcHost) : Prop where
  outstanding : h'.outstandingRequest = h.outstandingRequest
  worker : h'.busyWorker = h.busyWorker
  issues : h'.issues = h.issues
  runs : h'.workerRuns = h.workerRuns
  ended : h'.ended = h.ended

theorem SameWorker.refl (h : MshcHost) : SameWorker h h := ⟨rfl, rfl, rfl, rfl, rfl⟩

theorem SameWorker.trans {h h' h'' : MshcHost} (s : SameWorker h h') (s' : SameWorker h' h'') :
    SameWorker h h'' :=
  ⟨s'.outstanding.trans s.outstanding, s'.worker.trans s.worker, s'.issues.trans s.issues,
    s'.runs.trans s.runs, s'.ended.trans s.ended⟩

/-- A request that has been issued and not completed; no run of the worker is under way. -/
structure Issued (r : RequestId) (h : MshcHost) : Prop extends Completing r h where
  closed : ∀ run ∈ h.workerRuns, run.queuedFor ∈ h.ended

theorem Issued.of_same {r : RequestId} {h h' : MshcHost} (hi : Issued r h)
    (hs : SameWorker h h') : Issued r h' where
  outstanding := hs.outstanding.trans hi.outstanding
  worker := hs.worker.trans hi.worker
  runs := by
    rw [hs.runs, hs.ended, hs.issues]
    exact hi.runs
  nodup := hs.ended ▸ hi.nodup
  past := by
    rw [hs.ended, hs.issues]
    exact hi.past
  closed := by
    rw [hs.runs, hs.ended]
    exact hi.closed

theorem Issued.workerInv {r : RequestId} {h : MshcHost} (hi : Issued r h) : WorkerInv h where
  queued := fun t ht => by cases hi.worker.symm.trans ht
  runs := fun run hrun => ⟨(hi.runs run hrun).1, hi.closed run hrun⟩
  nodup := hi.nodup
  past := fun u hu => Nat.le_of_lt (hi.past u hu)
  spent := fun ⟨u, hu, he⟩ => absurd he (Nat.ne_of_lt (hi.past u hu))

/-- A request that has just been published has not been completed. -/
theorem WorkerInv.publish {h : MshcHost} (hi : WorkerInv h) (hworker : h.busyWorker = none)
    (r : RequestId) (request : SdRequest) : Issued r ((h.put r request).publish r) where
  outstanding := rfl
  worker := hworker
  runs := fun run hrun => ⟨(hi.runs run hrun).1, Or.inl (hi.runs run hrun).2⟩
  nodup := hi.nodup
  past := fun u hu => Nat.lt_succ_of_le (hi.past u hu)
  closed := fun run hrun => (hi.runs run hrun).2

theorem mshcSendCommand_sameWorker (r : RequestId) (h : MshcHost) :
    SameWorker h (mshcSendCommand r h).1 := by
  have hbuild : SameWorker h (mshcBuildTransfer r h).1 := by
    unfold mshcBuildTransfer
    dsimp only
    split
    · exact ⟨rfl, rfl, rfl, rfl, rfl⟩
    · exact ⟨rfl, rfl, rfl, rfl, rfl⟩
    · exact ⟨rfl, rfl, rfl, rfl, rfl⟩
  have hsend : ∀ g : MshcHost, SameWorker g (sendBuiltCommand r g).1 := by
    intro g
    unfold sendBuiltCommand
    split
    · exact SameWorker.refl g
    · exact ⟨rfl, rfl, rfl, rfl, rfl⟩
  unfold mshcSendCommand
  split
  · dsimp only
    split
    · exact hbuild.trans (hsend _)
    · exact hbuild
  · exact hsend h

/-- The start of a transfer, which may complete the request. -/
theorem mshcStartTransfer_workerInv (c : CallContext) {r : RequestId} {h : MshcHost}
    (hi : Issued r h) : WorkerInv (mshcStartTransfer c r h).1 := by
  have hcomplete : ∀ g : MshcHost, SameWorker h g →
      WorkerInv (mshcCompleteRequest c r .success g) := by
    intro g hs
    have hg := hi.of_same hs
    exact completeRequest_workerInv c.inserted c.dispatch c.data hg.toCompleting
      (Or.inl (Or.inl rfl)) fun _ => hg.closed
  have hkeep : ∀ g : MshcHost, SameWorker h g → WorkerInv g :=
    fun g hs => (hi.of_same hs).workerInv
  unfold mshcStartTransfer
  split
  · unfold mshcStartPioTransfer
    dsimp only
    split
    · exact hkeep _ ⟨rfl, rfl, rfl, rfl, rfl⟩
    · split
      · exact hcomplete _ ⟨rfl, rfl, rfl, rfl, rfl⟩
      · exact hkeep _ ⟨rfl, rfl, rfl, rfl, rfl⟩
  · exact hcomplete _ ⟨rfl, rfl, rfl, rfl, rfl⟩
  · exact hi.workerInv

theorem mshcSlotIssueRequest_workerInv (c : CallContext) {r : RequestId} {request : SdRequest}
    {h : MshcHost} (hi : WorkerInv h) (hworker : h.busyWorker = none) :
    WorkerInv (mshcSlotIssueRequest c r (h.put r request)).1 := by
  have hissued := hi.publish hworker r request
  unfold mshcSlotIssueRequest
  dsimp only
  split
  · exact (hissued.of_same (mshcSendCommand_sameWorker ..)).workerInv
  · exact (hissued.of_same (mshcSendCommand_sameWorker ..)).workerInv
  · exact mshcStartTransfer_workerInv c hissued
  · exact hissued.workerInv

/-- **Every step that meets the condition keeps the invariant.** -/
theorem slotStep_workerInv {h h' : MshcHost} {step : SlotStep} (hi : WorkerInv h)
    (hkept : WorkerKept h step) (hs : slotStep h step = some h') : WorkerInv h' := by
  cases step with
  | issue c r request => exact Option.some.inj hs ▸ mshcSlotIssueRequest_workerInv c hi hkept
  | portDpc c r events errors =>
    exact Option.some.inj hs ▸ mshcRequestDpc_workerInv c events errors hi hkept
  | activity a => exact Option.some.inj hs ▸ a.run_workerInv hi
  | reset =>
    have hworker : h.busyWorker = none := hkept
    refine Option.some.inj hs ▸ ⟨?_, hi.runs, hi.nodup, hi.past, ?_⟩
    · intro t ht
      cases hworker.symm.trans ht
    · intro _ q hq
      cases hq
  | beginWait =>
    exact Option.some.inj hs ▸ hi.of_eq rfl rfl rfl rfl rfl fun _ _ he => he
  | endWait r timedOut =>
    refine Option.some.inj hs ▸ ?_
    unfold endWait
    dsimp only
    split
    · exact hi.of_eq rfl rfl rfl rfl rfl fun q _ he => (MshcHost.setStatus_required ..).trans he
    · exact hi.of_eq rfl rfl rfl rfl rfl fun _ _ he => he

/-! ## 4. Runs

Every step keeps the invariant, and a worker that runs completes the request of its ticket; the
reset is the step that the condition leaves out while a worker is queued. -/

/-- **The worker completes exactly the request it was queued for**, in every run in which nothing
replaces that request while the worker is queued.  The request is then still the outstanding one
when the worker takes it, waits for nothing, and was not completed before. -/
theorem worker_exact {h : MshcHost} (hr : ReachIf MshcHost.Fresh slotStep WorkerKept h) :
    WorkerExact h := by
  have hinv : WorkerInv h := by
    refine ReachIf.invariant ?_ (fun s a t hi hG hst => slotStep_workerInv hi hG hst) hr
    rintro s ⟨hout, hworker, hruns, hended⟩
    refine ⟨?_, ?_, ?_, ?_, ?_⟩
    · intro t ht
      cases hworker.symm.trans ht
    · rw [hruns]
      exact fun run hrun => absurd hrun List.not_mem_nil
    · rw [hended]
      exact List.nodup_nil
    · rw [hended]
      exact fun u hu => absurd hu List.not_mem_nil
    · intro _ q hq
      cases hout.symm.trans hq
  exact ⟨hinv.runs, hinv.nodup⟩

/-- A command of the port driver with a busy signal, from its issue to the queued worker. -/
def busySteps : List SlotStep :=
  [.issue ⟨.idle, true, true⟩ (.port 0) stopRequest,
    .portDpc ⟨.busyIdle .idle, true, true⟩ (.port 0) {.cardResponse} ∅]

def workerStep : SlotStep := .activity (.busyWorker (.idle .idle) true)

/-- The worker runs, and has completed its request. -/
theorem worker_exact_of_run : ∃ h : MshcHost,
    h.workerRuns = [⟨⟨.port 0, 1⟩, some ⟨.port 0, 1⟩⟩] ∧ WorkerExact h := by
  obtain ⟨h, hr, hp⟩ := exists_reachIf_of_runIf slotStep WorkerKept
    (show MshcHost.Fresh idleHost from ⟨rfl, rfl, rfl, rfl⟩) (busySteps ++ [workerStep])
    (fun h => decide (h.workerRuns = [⟨⟨.port 0, 1⟩, some ⟨.port 0, 1⟩⟩])) (by decide)
  exact ⟨h, of_decide_eq_true hp, worker_exact hr⟩

/-- **A reset while the worker is queued**: the worker hands a null pointer on. -/
theorem worker_null :
    ¬ ∀ h : MshcHost, Reach MshcHost.Fresh slotStep h → WorkerExact h := by
  intro hall
  obtain ⟨h, hr, hp⟩ := exists_reach_of_run slotStep
    (show MshcHost.Fresh idleHost from ⟨rfl, rfl, rfl, rfl⟩)
    (busySteps ++ [.reset, workerStep])
    (fun h => decide (h.workerRuns = [⟨⟨.port 0, 1⟩, none⟩])) (by decide)
  have hrun := of_decide_eq_true hp
  have hexact := (hall h hr).1 ⟨⟨.port 0, 1⟩, none⟩ (hrun ▸ List.mem_singleton_self _)
  cases hexact.1

end WoaRk3576.Sd
