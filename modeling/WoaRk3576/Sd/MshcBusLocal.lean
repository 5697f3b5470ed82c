/-
# The local commands of the bus operations are those of `Sd/MshcLocal.lean`

`MshcIssueRequestSynchronously`, the three commands and `MshcResetHost` are modelled twice.  In
`Sd/MshcLocal.lean` the wait for a command is the list of interrupts, DPCs and workers that run
meanwhile, so that what they leave behind can be asked.  In `Sd/MshcBus.lean` it is one answer of
the hardware (`LocalWait`), as only what comes of the wait matters to the bus.

This module proves that every answer is the outcome of such a list, and so that every command of
the bus is a run of the local commands:

* `Shows` relates the two states: what both keep of the extension is the same, and the slot is
  taken for a request with data on both sides or on neither.
* `answerActivities` are an interrupt and the DPC that takes its events, or nothing for a
  time-out.  A data line that stays busy is answered by an error with the same status: a command
  that does not wait for it cannot tell the difference, and no CRC error is counted.
* The stop command, the command without data and the phases of the tuning command are issued the
  same way on both sides, so `Waiting.shows` carries each over its wait, and the resets of the
  recovery over what follows a failure.

`mshcSendStopCommand_shows`, `mshcSendStatusCommand_shows` and `mshcSendTuningCommand_shows` are
the results, the last while no tuning was performed, as in a search for the sample phase.
-/
import WoaRk3576.Sd.MshcLocal
import WoaRk3576.Sd.MshcRecovery

namespace WoaRk3576.Sd.Bus

/-! ## 1. The two states

The bus model has what bus operations read, the local model what requests depend on.  `Shows` is
what both have, and on it they have to agree: the flags, the counter of CRC errors, who is
outstanding, and the transfer that is going on. -/

/-- **What the bus shows of the slot.** -/
structure Shows (p : MshcSlot) (h : MshcHost) (s : MshcBus) : Prop where
  initialized : s.initialized = h.initialized
  tuningPerformed : s.tuningPerformed = h.tuningPerformed
  crcErrors : s.dataCrcErrorsSinceLastTuning = h.dataCrcErrorsSinceLastTuning
  pending : s.localRequestPending = h.localRequestPending
  outstanding : s.outstandingRequest
    = h.outstandingRequest.map fun r => decide (h.requests r).command.isData
  remaining : s.currentTransferRemainingLength = h.currentTransferRemainingLength
  threshold : BitVec.ofNat 32 s.fifoThreshold = h.fifoThreshold
  optimal : h.optimalFifoThreshold = BitVec.ofNat 32 p.optimalFifoThreshold

/-- Settings that the local commands do not look at. -/
theorem Shows.of_eq {p : MshcSlot} {h : MshcHost} {s s' : MshcBus} (hs : Shows p h s)
    (hinitialized : s'.initialized = s.initialized)
    (htuning : s'.tuningPerformed = s.tuningPerformed)
    (hcrc : s'.dataCrcErrorsSinceLastTuning = s.dataCrcErrorsSinceLastTuning)
    (hpending : s'.localRequestPending = s.localRequestPending)
    (hout : s'.outstandingRequest = s.outstandingRequest)
    (hremaining : s'.currentTransferRemainingLength = s.currentTransferRemainingLength)
    (hthreshold : s'.fifoThreshold = s.fifoThreshold) : Shows p h s' where
  initialized := hinitialized.trans hs.initialized
  tuningPerformed := htuning.trans hs.tuningPerformed
  crcErrors := hcrc.trans hs.crcErrors
  pending := hpending.trans hs.pending
  outstanding := hout.trans hs.outstanding
  remaining := hremaining.trans hs.remaining
  threshold := (congrArg (BitVec.ofNat 32) hthreshold).trans hs.threshold
  optimal := hs.optimal

/-! ## 2. The wait

The bus model takes the end of a wait from the hardware's answer.  For each answer there are
interrupts and a DPC that bring it about in the local model, all before the first poll.  So an
answer stands for nothing that could not happen. -/

/-- A local request was issued, and nothing was reported yet. -/
structure Waiting (r : RequestId) (h : MshcHost) : Prop where
  outstanding : h.outstandingRequest = some r
  pending : h.localRequestPending = true
  events : h.currentEvents = ∅
  errors : h.currentErrors = ∅
  required : (h.requests r).requiredEvents ≠ ∅
  status : (h.requests r).status = .success
    ∨ (h.requests r).status = .moreProcessingRequired

/-- The errors that are reported; a busy line is answered by a time-out. -/
def answerErrors (errors : Finset SdError) (busy : Bool) : Finset SdError :=
  if errors = ∅ ∧ busy = true then {.cmdTimeout} else errors

/-- The events that are reported: what is waited for, and with an error what it is not held back
for. -/
def answerEvents (required : Finset SdEvent) (errors : Finset SdError) : Finset SdEvent :=
  if errors = ∅ then required else required ∪ {.cardResponse, .cardRwEnd}

/-- What runs during the wait. -/
def answerActivities (required : Finset SdEvent) : LocalWait → List Activity
  | .timeout => []
  | .completed errors busy removed =>
    [.interrupt (answerEvents required (answerErrors errors busy)) (answerErrors errors busy) false,
      .localDpc .idle !removed]

/-- It runs before the first poll. -/
def answerPolls (timeoutUs : Nat) (required : Finset SdEvent) (wait : LocalWait) (n : Nat) :
    List Activity :=
  if n = pollCount timeoutUs then answerActivities required wait else []

/-- What a wait leaves for the next request: nothing of its errors, and only events that were waited
for. -/
structure WaitLeaves (r : RequestId) (h h' : MshcHost) : Prop where
  errors : h'.currentErrors = ∅
  events : h'.currentEvents ⊆ (h.requests r).requiredEvents
  request : ∃ required ⊆ (h.requests r).requiredEvents, ∃ status,
    h'.requests = Function.update h.requests r { h.requests r with
      requiredEvents := required
      status := status }

/-- What a wait does to the extension. -/
structure WaitEnds (r : RequestId) (released : Prop) [Decidable released] (crcErrors : Nat)
    (h h' : MshcHost) : Prop extends WaitLeaves r h h' where
  extension : h'.toMshcExtension = { h.toMshcExtension with
    outstandingRequest := if released then none else some r
    localRequestPending := false
    dataCrcErrorsSinceLastTuning := crcErrors
    currentEvents := h'.currentEvents
    currentErrors := ∅ }

/-- The errors of an answer are those that were reported, or no CRC error. -/
theorem mem_answerErrors (errors : Finset SdError) (busy : Bool) :
    SdError.dataCrcError ∈ answerErrors errors busy ↔ SdError.dataCrcError ∈ errors := by
  unfold answerErrors
  split
  · rename_i hbusy
    rw [hbusy.1]
    decide
  · exact Iff.rfl

/-- What the errors of an answer are converted to. -/
theorem convert_answerErrors (errors : Finset SdError) (busy : Bool) (status : NtStatus) :
    (if answerErrors errors busy = ∅ then status
      else mshcConvertStandardErrorToStatus (answerErrors errors busy))
      = completionStatus errors busy status := by
  unfold answerErrors completionStatus
  by_cases herrors : errors = ∅
  · subst herrors
    cases busy <;> simp [mshcConvertStandardErrorToStatus]
  · simp [herrors]

/-- With all that was waited for, the request ends. -/
theorem advanceRequest_answer {c : CallContext} {r : RequestId} {events : Finset SdEvent}
    {g : MshcHost} (hsub : (g.requests r).requiredEvents ⊆ events)
    (hheld : g.currentErrors ≠ ∅ → ¬ HeldBack events g.currentErrors) :
    advanceRequest c r events g
      = if g.currentErrors ≠ ∅ then failRequest c r g.currentErrors (g.setRequired r ∅)
        else mshcCompleteRequest c r
          (if (g.requests r).status = .moreProcessingRequired then .moreProcessingRequired
            else .success) (g.setRequired r ∅) := by
  have herrors : (g.setRequired r ∅).currentErrors = g.currentErrors := rfl
  unfold advanceRequest
  simp only [MshcHost.setRequired_requests, Finset.sdiff_eq_empty_iff_subset.mpr hsub, if_true,
    herrors]
  split
  · rename_i hne
    rw [if_neg (hheld hne)]
  · rfl

section Answer

variable {r : RequestId} {h : MshcHost} (hw : Waiting r h)
include hw

/-- The interrupt leaves its events and errors for the DPC. -/
theorem Waiting.interrupt {events : Finset SdEvent} (hevents : events ≠ ∅)
    (errors : Finset SdError) :
    Activity.run (.interrupt events errors false) h = { h with
      currentEvents := events
      currentErrors := errors
      localRequestDpc := true } := by
  unfold Activity.run mshcSlotInterrupt
  dsimp only
  rw [if_pos ⟨.inl hevents, hw.pending⟩, hw.events, hw.errors, Finset.empty_union,
    Finset.empty_union]

/-- The events of an answer are all that is waited for, so no error is held back. -/
theorem Waiting.answerEvents_spec (errors : Finset SdError) :
    (h.requests r).requiredEvents ⊆ answerEvents (h.requests r).requiredEvents errors
      ∧ answerEvents (h.requests r).requiredEvents errors ≠ ∅
      ∧ (errors ≠ ∅ → ¬ HeldBack (answerEvents (h.requests r).requiredEvents errors) errors) := by
  have hsub : (h.requests r).requiredEvents
      ⊆ answerEvents (h.requests r).requiredEvents errors := by
    unfold answerEvents
    split
    · exact Finset.Subset.refl _
    · exact Finset.subset_union_left
  refine ⟨hsub, fun hempty => hw.required (Finset.subset_empty.mp (hempty ▸ hsub)), ?_⟩
  intro herrors
  unfold answerEvents
  rw [if_neg herrors]
  rintro (⟨-, hnot⟩ | ⟨-, hnot⟩)
  · exact hnot (Finset.mem_union_right _ (by decide))
  · exact hnot (Finset.mem_union_right _ (by decide))

/-- **The DPC**: it takes the events and ends the request. -/
theorem Waiting.localDpc (errors : Finset SdError) (inserted : Bool) :
    ∃ g : MshcHost, Activity.run (.localDpc .idle inserted) { h with
          currentEvents := answerEvents (h.requests r).requiredEvents errors
          currentErrors := errors
          localRequestDpc := true }
        = finishRequest inserted r (g.setStatus r (if errors = ∅ then (h.requests r).status
            else mshcConvertStandardErrorToStatus errors))
      ∧ g.toMshcExtension = { h.toMshcExtension with
          dataCrcErrorsSinceLastTuning :=
            if h.tuningPerformed ∧ .dataCrcError ∈ errors then h.dataCrcErrorsSinceLastTuning + 1
            else h.dataCrcErrorsSinceLastTuning
          currentEvents := g.currentEvents
          currentErrors := ∅ }
      ∧ g.currentEvents ⊆ (h.requests r).requiredEvents
      ∧ g.requests = Function.update h.requests r { h.requests r with requiredEvents := ∅ } := by
  obtain ⟨hsub, hne, hheld⟩ := hw.answerEvents_spec errors
  unfold Activity.run mshcLocalRequestDpc
  dsimp only
  rw [if_pos rfl, hw.outstanding]
  dsimp only
  unfold mshcRequestDpc
  rw [if_neg (by rintro (hnone | hnone); exacts [hne hnone.1, hw.required hnone])]
  dsimp only
  rw [if_neg (Option.some_ne_none r)]
  simp only [Finset.union_self]
  rw [advanceRequest_answer (g := { h with
    outstandingRequest := some r
    currentEvents := answerEvents (h.requests r).requiredEvents errors
    currentErrors := errors
    localRequestDpc := false }) hsub hheld]
  by_cases herrors : errors = ∅
  · subst herrors
    have hsame : (if (h.requests r).status = .moreProcessingRequired then
        NtStatus.moreProcessingRequired else .success) = (h.requests r).status := by
      rcases hw.status with hstatus | hstatus <;> rw [hstatus] <;> rfl
    rw [if_neg (not_not.mpr rfl), if_pos rfl]
    dsimp only
    rw [hsame]
    refine ⟨_, rfl, ?_, ?_, rfl⟩
    · simp [MshcHost.setRequired, MshcHost.put]
    · exact Finset.Subset.refl _
  · rw [if_pos herrors, if_neg herrors]
    refine ⟨_, rfl, ?_, ?_, ?_⟩
    · split <;> simp_all [MshcHost.setRequired, MshcHost.put]
    · exact Finset.empty_subset _
    · split <;> simp [MshcHost.setRequired, MshcHost.put]

/-- **A completion** during the wait: what was reported decides the status, and a card that is gone
comes after that. -/
theorem Waiting.completed (errors : Finset SdError) (busy removed : Bool) :
    let h' := runAll (answerActivities (h.requests r).requiredEvents
      (.completed errors busy removed)) h
    let status := completionStatus errors busy (h.requests r).status
    WaitEnds r status.Releases
        (if h.tuningPerformed ∧ .dataCrcError ∈ errors then h.dataCrcErrorsSinceLastTuning + 1
          else h.dataCrcErrorsSinceLastTuning) h h'
      ∧ (h'.requests r).status = if removed then .ioDeviceError else status := by
  obtain ⟨-, hne, -⟩ := hw.answerEvents_spec (answerErrors errors busy)
  obtain ⟨g, hrun, hext, hevents, hrequests⟩ := hw.localDpc (answerErrors errors busy) (!removed)
  dsimp only [answerActivities, runAll]
  rw [hw.interrupt hne, hrun, convert_answerErrors]
  generalize completionStatus errors busy (h.requests r).status = status
  simp only [mem_answerErrors] at hext
  have hset : (g.setStatus r status).requests = Function.update h.requests r { h.requests r with
      requiredEvents := ∅
      status := status } := by
    rw [MshcHost.setStatus, MshcHost.put, hrequests]
    simp
  have hstatus : ((g.setStatus r status).requests r).status = status := by
    rw [MshcHost.setStatus_requests]
  have hextension := finishRequest_extension (!removed) r (g.setStatus r status)
  rw [hstatus, MshcHost.setStatus_toMshcExtension, hext] at hextension
  have hfinish := finishRequest_requests (!removed) r (g.setStatus r status)
  refine ⟨⟨⟨?_, ?_, ?_⟩, ?_⟩, ?_⟩
  · rw [hextension]
  · rw [finishRequest_currentEvents]
    exact hevents
  · cases removed with
    | true =>
      refine ⟨∅, Finset.empty_subset _, .ioDeviceError, ?_⟩
      rw [hfinish, Bool.not_true, if_neg Bool.false_ne_true, MshcHost.setStatus, MshcHost.put, hset]
      simp
    | false => exact ⟨∅, Finset.empty_subset _, status, hfinish.trans hset⟩
  · rw [hextension, hw.outstanding]
  · rw [hfinish]
    cases removed with
    | true => simp
    | false => exact hstatus

/-- Nothing runs, and the time is up. -/
theorem Waiting.pollLoop_idle {polls : Nat → List Activity} (hpolls : ∀ n, polls n = [])
    (count : Nat) : pollLoop polls count h = (h, true) := by
  induction count with
  | zero => rw [pollLoop, hpolls, runAll]
  | succ count ih =>
    rw [pollLoop, hpolls, runAll, if_neg (by simp [hw.pending]), ih]

/-- **A time-out**: the request stays outstanding. -/
theorem Waiting.timeout :
    WaitEnds r False h.dataCrcErrorsSinceLastTuning h (endWait r (h, true))
      ∧ ((endWait r (h, true)).requests r).status = .ioTimeout := by
  refine ⟨⟨⟨hw.errors, ?_, ?_⟩, ?_⟩, ?_⟩
  · exact hw.events.subset.trans (Finset.empty_subset _)
  · exact ⟨_, Finset.Subset.refl _, .ioTimeout, rfl⟩
  · rw [← hw.errors, ← hw.outstanding]
    rfl
  · rw [endWait, if_pos rfl, MshcHost.setStatus_requests]

end Answer

/-- The state that a wait leaves is shown by the bus, where the bus says the same of it. -/
theorem Shows.waitEnds {p : MshcSlot} {h h' : MshcHost} {s s' : MshcBus} {r : RequestId}
    {released : Prop} [Decidable released] {crcErrors : Nat} (hs : Shows p h s)
    (hout : h.outstandingRequest = some r) (hends : WaitEnds r released crcErrors h h')
    (hs' : s' = { s with
      outstandingRequest := if released then none else s.outstandingRequest
      localRequestPending := false
      dataCrcErrorsSinceLastTuning := crcErrors
      tick := s'.tick }) : Shows p h' s' := by
  obtain ⟨required, -, status, hrequests⟩ := hends.request
  have hext := hends.extension
  rw [hs']
  constructor
  · exact hs.initialized.trans (congrArg MshcExtension.initialized hext).symm
  · exact hs.tuningPerformed.trans (congrArg MshcExtension.tuningPerformed hext).symm
  · exact (congrArg MshcExtension.dataCrcErrorsSinceLastTuning hext).symm
  · exact (congrArg MshcExtension.localRequestPending hext).symm
  · have hout' := congrArg MshcExtension.outstandingRequest hext
    dsimp only at hout' ⊢
    rw [hout', hs.outstanding, hout, hrequests]
    split
    · rfl
    · simp
  · exact hs.remaining.trans (congrArg MshcExtension.currentTransferRemainingLength hext).symm
  · exact hs.threshold.trans (congrArg MshcExtension.fifoThreshold hext).symm
  · exact (congrArg MshcExtension.optimalFifoThreshold hext).trans hs.optimal

/-- The bus after a time-out. -/
theorem waitLocal_timeout {hw : Nat → HwAnswer} {s : MshcBus} (status : NtStatus)
    (hwait : (hw s.tick).wait = .timeout) :
    waitLocal hw status s = (.ioTimeout,
      { s with localRequestPending := false, tick := s.tick + 1 }) := by
  unfold waitLocal
  rw [hwait]
  rfl

/-- The bus after a completion. -/
theorem waitLocal_completed {hw : Nat → HwAnswer} {s : MshcBus} (status : NtStatus)
    {errors : Finset SdError} {busy removed : Bool}
    (hwait : (hw s.tick).wait = .completed errors busy removed) :
    waitLocal hw status s
      = (if removed then .ioDeviceError else completionStatus errors busy status,
        { s with
          outstandingRequest :=
            if (completionStatus errors busy status).Releases then none else s.outstandingRequest
          localRequestPending := false
          dataCrcErrorsSinceLastTuning :=
            if s.tuningPerformed ∧ .dataCrcError ∈ errors then s.dataCrcErrorsSinceLastTuning + 1
            else s.dataCrcErrorsSinceLastTuning
          tick := s.tick + 1 }) := by
  unfold waitLocal
  rw [hwait]
  unfold MshcBus.countCrcErrors NtStatus.Releases
  dsimp only [MshcBus.asked]
  congr 1
  split <;> rfl

/-- The first poll finds the request completed. -/
theorem pollLoop_completed {r : RequestId} {h : MshcHost} {polls : Nat → List Activity}
    {timeoutUs : Nat} (hcount : 0 < pollCount timeoutUs)
    (hdone : (runAll (polls (pollCount timeoutUs)) h).localRequestPending = false) :
    endWait r (pollLoop polls (pollCount timeoutUs) h)
      = runAll (polls (pollCount timeoutUs)) h := by
  obtain ⟨count, hcount⟩ := Nat.exists_eq_succ_of_ne_zero hcount.ne'
  rw [hcount] at hdone ⊢
  rw [pollLoop, if_pos hdone, endWait, if_neg Bool.false_ne_true]
  generalize runAll (polls (count + 1)) h = h' at hdone
  rw [← hdone]

/-- **Every answer of the hardware is the outcome of a wait.** -/
theorem Waiting.shows {p : MshcSlot} {h : MshcHost} {s : MshcBus} {r : RequestId}
    (hwaiting : Waiting r h) (hs : Shows p h s) (hw : Nat → HwAnswer) {timeoutUs : Nat}
    (hcount : 0 < pollCount timeoutUs) :
    ∃ polls, Shows p (endWait r (pollLoop polls (pollCount timeoutUs) h))
          (waitLocal hw (h.requests r).status s).2
        ∧ ((endWait r (pollLoop polls (pollCount timeoutUs) h)).requests r).status
          = (waitLocal hw (h.requests r).status s).1
        ∧ WaitLeaves r h (endWait r (pollLoop polls (pollCount timeoutUs) h)) := by
  refine ⟨answerPolls timeoutUs (h.requests r).requiredEvents (hw s.tick).wait, ?_⟩
  cases hanswer : (hw s.tick).wait with
  | timeout =>
    obtain ⟨hends, hstatus⟩ := hwaiting.timeout
    have hnothing : ∀ n, answerPolls timeoutUs (h.requests r).requiredEvents .timeout n = [] :=
      fun n => ite_self []
    rw [hwaiting.pollLoop_idle hnothing, waitLocal_timeout _ hanswer]
    refine ⟨hs.waitEnds hwaiting.outstanding hends ?_, hstatus, hends.toWaitLeaves⟩
    rw [← hs.crcErrors]
    rfl
  | completed errors busy removed =>
    obtain ⟨hends, hstatus⟩ := hwaiting.completed errors busy removed
    have hpolls : answerPolls timeoutUs (h.requests r).requiredEvents
        (.completed errors busy removed) (pollCount timeoutUs)
        = answerActivities (h.requests r).requiredEvents (.completed errors busy removed) :=
      if_pos rfl
    have hdone := congrArg MshcExtension.localRequestPending hends.extension
    rw [pollLoop_completed hcount (by rw [hpolls]; exact hdone), hpolls,
      waitLocal_completed _ hanswer]
    refine ⟨hs.waitEnds hwaiting.outstanding hends ?_, hstatus, hends.toWaitLeaves⟩
    rw [hs.crcErrors, hs.tuningPerformed]

/-! ## 3. The issue

A local request is accepted, as its caller fills it in properly, and then the two models do the
same assignments. -/

/-- The request of a command. -/
def LocalCommand.id : LocalCommand → RequestId
  | .stop => .stop
  | .status => .status
  | .tuning => .tuning

/-- What the caller fills in. -/
def LocalCommand.request (busWidth8Bit : Bool) : LocalCommand → SdRequest
  | .stop => stopRequest
  | .status => statusRequest
  | .tuning => tuningRequest busWidth8Bit

/-- What the tuning block's PIO threshold is, in words. -/
theorem tuningThreshold (p : MshcSlot) (hdepth : p.fifoDepth < 2 ^ 32) (busWidth8Bit : Bool) :
    BitVec.ofNat 32 (min ((if busWidth8Bit then 128 else 64) / 4) p.optimalFifoThreshold)
      = if (if busWidth8Bit then 128#32 else 64#32) / 4 < BitVec.ofNat 32 p.optimalFifoThreshold
        then (if busWidth8Bit then 128#32 else 64#32) / 4
        else BitVec.ofNat 32 p.optimalFifoThreshold := by
  have hsmall : p.optimalFifoThreshold % 2 ^ 32 = p.optimalFifoThreshold :=
    Nat.mod_eq_of_lt (by unfold MshcSlot.optimalFifoThreshold; omega)
  cases busWidth8Bit with
  | true =>
    have hlt : (128#32 / 4 < BitVec.ofNat 32 p.optimalFifoThreshold)
        ↔ 32 < p.optimalFifoThreshold := by
      rw [BitVec.lt_def, BitVec.toNat_ofNat, hsmall]
      rfl
    simp only [if_true, hlt]
    split
    · rw [min_eq_left (by omega)]
      rfl
    · rw [min_eq_right (by omega)]
  | false =>
    have hlt : (64#32 / 4 < BitVec.ofNat 32 p.optimalFifoThreshold)
        ↔ 16 < p.optimalFifoThreshold := by
      rw [BitVec.lt_def, BitVec.toNat_ofNat, hsmall]
      rfl
    simp only [Bool.false_eq_true, if_false, hlt]
    split
    · rw [min_eq_left (by omega)]
      rfl
    · rw [min_eq_right (by omega)]

/-- What an issue makes of its request, and of the others nothing. -/
structure Issued (p : MshcSlot) (r : RequestId) (request : SdRequest) (h h' : MshcHost)
    (s' : MshcBus) : Prop where
  shows : Shows p h' s'
  outstanding : h'.outstandingRequest = some r
  pending : h'.localRequestPending = true
  events : h'.currentEvents = ∅
  errors : h'.currentErrors = ∅
  requests : h'.requests = Function.update h.requests r request

/-- It waits, if it waits for anything. -/
theorem Issued.waiting {p : MshcSlot} {r : RequestId} {request : SdRequest} {h h' : MshcHost}
    {s' : MshcBus} (hi : Issued p r request h h' s') (hrequired : request.requiredEvents ≠ ∅)
    (hstatus : request.status = .success ∨ request.status = .moreProcessingRequired) :
    Waiting r h' := by
  have hrequest : h'.requests r = request := by rw [hi.requests, Function.update_self]
  exact ⟨hi.outstanding, hi.pending, hi.events, hi.errors, hrequest ▸ hrequired,
    hrequest ▸ hstatus⟩

/-- What a command waits for. -/
def LocalCommand.issuedRequest (busWidth8Bit : Bool) (command : LocalCommand) : SdRequest :=
  { command.request busWidth8Bit with
    requiredEvents := (command.request busWidth8Bit).command.commandEvents }

theorem LocalCommand.issuedRequest_spec (busWidth8Bit : Bool) (command : LocalCommand) :
    (command.issuedRequest busWidth8Bit).requiredEvents ≠ ∅
      ∧ SdEvent.cardRwEnd ∉ (command.issuedRequest busWidth8Bit).requiredEvents
      ∧ (command.issuedRequest busWidth8Bit).status = .success := by
  cases command <;> cases busWidth8Bit <;> decide

/-- A request that was just filled in waits for `required`. -/
theorem setRequired_put {h g : MshcHost} {r : RequestId} {request : SdRequest}
    (hg : g.requests = Function.update h.requests r request) (required : Finset SdEvent) :
    (g.setRequired r required).requests
      = Function.update h.requests r { request with requiredEvents := required } := by
  rw [MshcHost.setRequired, MshcHost.put, hg]
  simp

/-- A request that waits for more, with the status that it has from now on. -/
theorem setRequired_setStatus (h : MshcHost) (r : RequestId) (status : NtStatus)
    (events : Finset SdEvent) :
    ((h.setRequired r ((h.requests r).requiredEvents ∪ events)).setStatus r status).requests
      = Function.update h.requests r { h.requests r with
          requiredEvents := (h.requests r).requiredEvents ∪ events
          status := status } := by
  simp [MshcHost.setRequired, MshcHost.setStatus, MshcHost.put]

theorem setStatus_setRequired (h : MshcHost) (r : RequestId) (status : NtStatus)
    (events : Finset SdEvent) :
    ((h.setStatus r status).setRequired r
        (((h.setStatus r status).requests r).requiredEvents ∪ events)).requests
      = Function.update h.requests r { h.requests r with
          requiredEvents := (h.requests r).requiredEvents ∪ events
          status := status } := by
  simp [MshcHost.setRequired, MshcHost.setStatus, MshcHost.put]

/-- The transfer of the tuning block. -/
theorem buildTransfer_tuning {g : MshcHost} {busWidth8Bit : Bool}
    (hrequest : g.requests .tuning = tuningRequest busWidth8Bit) :
    mshcBuildTransfer .tuning g
      = ({ g with
          currentTransferRemainingLength := if busWidth8Bit then 128#32 else 64#32
          fifoThreshold :=
            if (if busWidth8Bit then 128#32 else 64#32) / 4 < g.optimalFifoThreshold
            then (if busWidth8Bit then 128#32 else 64#32) / 4 else g.optimalFifoThreshold },
        .success) := by
  unfold mshcBuildTransfer
  dsimp only
  rw [hrequest]
  cases busWidth8Bit <;> rfl

theorem LocalCommand.issuedRequest_data (busWidth8Bit : Bool) (command : LocalCommand) :
    (command.issuedRequest busWidth8Bit).command.isData
      ↔ (LocalRequest.command command).isData = true := by
  cases command <;> cases busWidth8Bit <;> decide

/-- **A command is issued the same way.** -/
theorem issueCommand_issued {p : MshcSlot} {h : MshcHost} {s : MshcBus} (hs : Shows p h s)
    (hdepth : p.fifoDepth < 2 ^ 32) (c : CallContext) (command : LocalCommand) :
    let busWidth8Bit := decide (s.busWidth = .width8Bit)
    ∃ h', mshcSlotIssueRequest c command.id
          { h.put command.id (command.request busWidth8Bit) with localRequestPending := true }
          = (h', .pending)
      ∧ Issued p command.id (command.issuedRequest busWidth8Bit) h h'
        (issueCommand p command { s with localRequestPending := true }) := by
  dsimp only
  generalize hwidth : decide (s.busWidth = .width8Bit) = busWidth8Bit
  cases command with
  | stop =>
    refine ⟨_, rfl, ?_, rfl, rfl, rfl, rfl, ?_⟩
    · exact ⟨hs.initialized, hs.tuningPerformed, hs.crcErrors, rfl, rfl, hs.remaining,
        hs.threshold, hs.optimal⟩
    · exact setRequired_put rfl _
  | status =>
    refine ⟨_, rfl, ?_, rfl, rfl, rfl, rfl, ?_⟩
    · exact ⟨hs.initialized, hs.tuningPerformed, hs.crcErrors, rfl, rfl, hs.remaining,
        hs.threshold, hs.optimal⟩
    · exact setRequired_put rfl _
  | tuning =>
    have hbuild := buildTransfer_tuning
      (g := { h.put .tuning (tuningRequest busWidth8Bit) with
        localRequestPending := true
        outstandingRequest := some .tuning
        issues := h.issues + 1 }) (h.put_requests .tuning (tuningRequest busWidth8Bit))
    have hlength : s.tuningLength = if busWidth8Bit then 128 else 64 := by
      rw [← hwidth]
      simp [MshcBus.tuningLength]
    refine ⟨_, (congrArg (fun built => if built.2.ntSuccess then sendBuiltCommand .tuning built.1
      else built) hbuild).trans rfl, ?_, rfl, rfl, rfl, rfl, ?_⟩
    · refine ⟨hs.initialized, hs.tuningPerformed, hs.crcErrors, rfl, rfl, ?_, ?_, hs.optimal⟩
      · change BitVec.ofNat 32 s.tuningLength = _
        rw [hlength]
        cases busWidth8Bit <;> rfl
      · change BitVec.ofNat 32 (min (s.tuningLength / 4) p.optimalFifoThreshold) = _
        rw [hlength, tuningThreshold p hdepth]
        dsimp only
        rw [← hs.optimal]
        rfl
    · exact setRequired_put rfl _

/-- The slot is taken for a request with data. -/
theorem outstanding_data {h : MshcHost} {r : RequestId} (hout : h.outstandingRequest = some r)
    (hdata : (h.requests r).command.isData) :
    some true = h.outstandingRequest.map fun r => decide (h.requests r).command.isData := by
  rw [hout, Option.map_some, decide_eq_true hdata]

/-- What the tuning command leaves for the transfer of its block, and a part of the transfer for the
next: nothing that would end the part before the card has answered. -/
structure Transfers (h : MshcHost) : Prop where
  type : (h.requests .tuning).type = .startTransfer
  command : ∃ busWidth8Bit, (h.requests .tuning).command = (tuningRequest busWidth8Bit).command
  required : SdEvent.cardRwEnd ∉ (h.requests .tuning).requiredEvents
  events : SdEvent.cardRwEnd ∉ h.currentEvents
  errors : h.currentErrors = ∅

/-- **A part of the transfer is issued the same way.** -/
theorem issueTransfer_issued {p : MshcSlot} {h : MshcHost} {s : MshcBus} (hs : Shows p h s)
    (ht : Transfers h) (c : CallContext) :
    let issued := issueTransfer { s with localRequestPending := true }
    ∃ h' required, mshcSlotIssueRequest c .tuning { h with localRequestPending := true }
          = (h', .pending)
      ∧ Issued p .tuning { h.requests .tuning with
          requiredEvents := required
          status := issued.1 } h h' issued.2
      ∧ required ≠ ∅
      ∧ (issued.1 = .moreProcessingRequired → SdEvent.cardRwEnd ∉ required)
      ∧ (issued.1 = .success ∨ issued.1 = .moreProcessingRequired) := by
  obtain ⟨busWidth8Bit, hcommand⟩ := ht.command
  have hpio : (h.requests .tuning).command.transferMethod = .pio := by rw [hcommand]; rfl
  have hread : (h.requests .tuning).command.transferDirection = .read := by rw [hcommand]; rfl
  have hdata : (h.requests .tuning).command.isData := by
    rw [hcommand]
    cases busWidth8Bit <;> decide
  have hremaining : s.currentTransferRemainingLength - BitVec.ofNat 32 (s.fifoThreshold * 4)
      = h.currentTransferRemainingLength - h.fifoThreshold * 4 := by
    rw [hs.remaining, ← hs.threshold, BitVec.ofNat_mul]
    rfl
  have hissue : mshcSlotIssueRequest c .tuning { h with localRequestPending := true }
      = mshcStartPioTransfer c .tuning { h with
          localRequestPending := true
          outstandingRequest := some .tuning
          issues := h.issues + 1 } := by
    unfold mshcSlotIssueRequest mshcStartTransfer
    simp only [ht.type, hpio]
  rw [hissue]
  unfold mshcStartPioTransfer issueTransfer
  dsimp only
  rw [hremaining]
  by_cases hmore : h.currentTransferRemainingLength - h.fifoThreshold * 4 = 0
  · rw [if_neg (not_not.mpr hmore), if_neg (not_not.mpr hmore), if_neg ht.events]
    have hrequests := setStatus_setRequired { h with
      localRequestPending := true
      outstandingRequest := some .tuning
      issues := h.issues + 1
      currentEvents := ∅
      currentTransferRemainingLength := h.currentTransferRemainingLength - h.fifoThreshold * 4 }
      .tuning .success {SdEvent.cardRwEnd}
    refine ⟨_, (h.requests .tuning).requiredEvents ∪ {SdEvent.cardRwEnd}, rfl,
      ⟨?_, rfl, rfl, rfl, ht.errors, hrequests⟩, ?_, ?_, .inl rfl⟩
    · exact ⟨hs.initialized, hs.tuningPerformed, hs.crcErrors, rfl, outstanding_data rfl hdata,
        rfl, hs.threshold, hs.optimal⟩
    · simp
    · exact fun hfalse => nomatch hfalse
  · rw [if_pos hmore, if_pos hmore, if_pos hread]
    have hrequests := setRequired_setStatus { h with
      localRequestPending := true
      outstandingRequest := some .tuning
      issues := h.issues + 1
      currentEvents := ∅
      currentTransferRemainingLength := h.currentTransferRemainingLength - h.fifoThreshold * 4 }
      .tuning .moreProcessingRequired {SdEvent.bufferFull}
    refine ⟨_, (h.requests .tuning).requiredEvents ∪ {SdEvent.bufferFull}, rfl,
      ⟨?_, rfl, rfl, rfl, ht.errors, hrequests⟩, ?_, ?_, .inr rfl⟩
    · exact ⟨hs.initialized, hs.tuningPerformed, hs.crcErrors, rfl, outstanding_data rfl hdata,
        rfl, hs.threshold, hs.optimal⟩
    · simp
    · intro _ hmem
      rcases Finset.mem_union.mp hmem with hold | hbuffer
      · exact ht.required hold
      · exact absurd hbuffer (by decide)

/-- What is left of an issued request after its wait. -/
structure Waited (r : RequestId) (request : SdRequest) (h h' : MshcHost) : Prop where
  errors : h'.currentErrors = ∅
  events : h'.currentEvents ⊆ request.requiredEvents
  requests : ∃ required ⊆ request.requiredEvents, ∃ status,
    h'.requests = Function.update h.requests r { request with
      requiredEvents := required
      status := status }

/-- **An issued request is waited for the same way.** -/
theorem Issued.wait {p : MshcSlot} {r : RequestId} {request : SdRequest} {h h' : MshcHost}
    {s' : MshcBus} (hi : Issued p r request h h' s') (hrequired : request.requiredEvents ≠ ∅)
    (hstatus : request.status = .success ∨ request.status = .moreProcessingRequired)
    (hw : Nat → HwAnswer) (timeoutUs : Nat) (hcount : 0 < pollCount timeoutUs) :
    ∃ polls, Shows p (endWait r (pollLoop polls (pollCount timeoutUs) h'))
          (waitLocal hw request.status s').2
        ∧ ((endWait r (pollLoop polls (pollCount timeoutUs) h')).requests r).status
          = (waitLocal hw request.status s').1
        ∧ Waited r request h (endWait r (pollLoop polls (pollCount timeoutUs) h')) := by
  have hrequest : h'.requests r = request := by rw [hi.requests, Function.update_self]
  obtain ⟨polls, hshows, hend, hleaves⟩ :=
    (hi.waiting hrequired hstatus).shows hi.shows hw hcount
  rw [hrequest] at hshows hend
  refine ⟨polls, hshows, hend, hleaves.errors, hrequest ▸ hleaves.events, ?_⟩
  obtain ⟨required, hsub, status, hrequests⟩ := hleaves.request
  refine ⟨required, hrequest ▸ hsub, status, ?_⟩
  rw [hrequests, hrequest, hi.requests, Function.update_idem]

/-! ## 4. The resets of the recovery

The data reset is the one that matters: it takes the request back, sends the stop command, and
leaves the request of the caller alone. -/

/-- What a part of the recovery leaves alone. -/
structure Recovered (r : RequestId) (h h' : MshcHost) : Prop where
  request : h'.requests r = h.requests r
  errors : h.currentErrors = ∅ → h'.currentErrors = ∅
  events : SdEvent.cardRwEnd ∉ h.currentEvents → SdEvent.cardRwEnd ∉ h'.currentEvents

theorem Recovered.refl (r : RequestId) (h : MshcHost) : Recovered r h h := ⟨rfl, id, id⟩

theorem Recovered.trans {r : RequestId} {h h' h'' : MshcHost} (hr : Recovered r h h')
    (hr' : Recovered r h' h'') : Recovered r h h'' :=
  ⟨hr'.request.trans hr.request, hr'.errors ∘ hr.errors, hr'.events ∘ hr.events⟩

/-- A synchronous call once its request is issued. -/
theorem sync_eq {c : CallContext} {r : RequestId} {h h' : MshcHost}
    (hissue : mshcSlotIssueRequest c r { h with localRequestPending := true } = (h', .pending))
    (busOperation : ResetType → MshcHost → MshcHost) (polls : Nat → List Activity)
    (timeoutUs : Nat) (errorRecovery : Bool) :
    Sd.mshcIssueRequestSynchronously busOperation c polls r timeoutUs errorRecovery h
      = let w := endWait r (pollLoop polls (pollCount timeoutUs) h')
        let g := if errorRecovery = true ∧ (w.requests r).status.ntSuccess = false then
          recoverRequest busOperation r w else w
        (g, (g.requests r).status) := by
  unfold Sd.mshcIssueRequestSynchronously
  rw [hissue]
  rfl

/-- **The stop command** leaves the other requests alone, and nothing that ends a transfer. -/
theorem mshcSendStopCommand_shows {p : MshcSlot} {h : MshcHost} {s : MshcBus} (hs : Shows p h s)
    (hdepth : p.fifoDepth < 2 ^ 32) (hw : Nat → HwAnswer) {r : RequestId} (hr : r ≠ .stop) :
    ∃ input, Shows p (Sd.mshcSendStopCommand input h).1 (runLocal p hw (.command .stop) s).2
      ∧ (Sd.mshcSendStopCommand input h).2 = (runLocal p hw (.command .stop) s).1
      ∧ Recovered r h (Sd.mshcSendStopCommand input h).1 := by
  obtain ⟨hrequired, hrwEnd, hstatus⟩ :=
    LocalCommand.issuedRequest_spec (decide (s.busWidth = .width8Bit)) .stop
  obtain ⟨h', hissue, hissued⟩ := issueCommand_issued hs hdepth ⟨.idle, true, true⟩ .stop
  obtain ⟨polls, hshows, hend, hwaited⟩ :=
    hissued.wait hrequired (.inl hstatus) hw 1000000 (by decide)
  rw [hstatus] at hshows hend
  have hsync : Sd.mshcSendStopCommand ⟨⟨.idle, true, true⟩, polls⟩ h = _ :=
    sync_eq hissue _ polls _ false
  obtain ⟨required, -, status, hrequests⟩ := hwaited.requests
  refine ⟨⟨⟨.idle, true, true⟩, polls⟩, ?_⟩
  rw [hsync]
  dsimp only
  rw [if_neg fun hrecovery => Bool.false_ne_true hrecovery.1]
  refine ⟨hshows, hend, ?_, fun _ => hwaited.errors, fun _ hmem => hrwEnd (hwaited.events hmem)⟩
  exact (congrFun hrequests r).trans (Function.update_of_ne hr _ _)

section Resets

variable {p : MshcSlot} {h : MshcHost} {s : MshcBus}

/-- The reset of the controller does not show in the extension. -/
theorem resetController_shows (hs : Shows p h s) (hw : Nat → HwAnswer) :
    Shows p h (resetController p hw s).2 := by
  unfold resetController
  dsimp only
  split
  · exact hs.of_eq rfl rfl rfl rfl rfl rfl rfl
  · split
    · exact hs.of_eq rfl rfl rfl rfl rfl rfl rfl
    · exact hs.of_eq rfl rfl rfl rfl rfl rfl rfl

/-- The request is taken back. -/
theorem Shows.takeBack (hs : Shows p h s) :
    Shows p { h with outstandingRequest := none } { s with outstandingRequest := none } :=
  ⟨hs.initialized, hs.tuningPerformed, hs.crcErrors, hs.pending, rfl, hs.remaining, hs.threshold,
    hs.optimal⟩

/-- The command reset of the local commands: it takes the request back, and sends nothing. -/
def commandReset (h : MshcHost) : MshcHost :=
  if h.initialized then { h with outstandingRequest := none } else h

theorem commandReset_eq (retune setSignaling : MshcHost → MshcHost)
    (resets : ResetType → ResetInput) (h : MshcHost) :
    Sd.mshcSlotIssueBusOperation retune setSignaling resets .cmd h = commandReset h := rfl

theorem commandReset_recovered (r : RequestId) (h : MshcHost) :
    Recovered r h (commandReset h) := by
  unfold commandReset
  split
  · exact ⟨rfl, id, id⟩
  · exact .refl r h

/-- **The command reset.** -/
theorem resetHost_cmd_shows (hs : Shows p h s) (hw : Nat → HwAnswer) (depth : Nat) :
    ∃ status s', mshcSlotIssueBusOperation p hw (depth + 2) (.resetHost .cmd) s
        = .ok (status, s')
      ∧ s'.tuningPerformed = s.tuningPerformed ∧ Shows p (commandReset h) s' := by
  unfold mshcSlotIssueBusOperation commandReset
  rw [hs.initialized]
  cases hinit : h.initialized with
  | false =>
    rw [if_pos rfl, if_neg Bool.false_ne_true]
    exact ⟨_, _, rfl, rfl, hs⟩
  | true =>
    rw [if_neg (by decide), if_pos rfl, ← hinit]
    dsimp only
    have hreset := resetController_shows hs.takeBack hw
    have hkeeps := (resetController_keeps p hw { s with outstandingRequest := none }).tuningPerformed
    unfold mshcResetHost
    dsimp only
    split
    · exact ⟨_, _, rfl, rfl, hs.takeBack⟩
    · split
      · exact ⟨_, _, rfl, hkeeps, hreset⟩
      · rw [if_neg (by simp [MshcBus.retunes])]
        exact ⟨_, _, rfl, hkeeps, hreset⟩

/-- **The data reset** while no tuning was performed: it sends the stop command. -/
theorem resetHost_dat_shows (hs : Shows p h s) (hdepth : p.fifoDepth < 2 ^ 32)
    (hw : Nat → HwAnswer) (depth : Nat) (htuning : s.tuningPerformed = false)
    (retune setSignaling : MshcHost → MshcHost) {r : RequestId} (hr : r ≠ .stop) :
    ∃ (input : ResetInput) (status : NtStatus) (s' : MshcBus),
      mshcSlotIssueBusOperation p hw (depth + 4) (.resetHost .dat) s = .ok (status, s')
      ∧ s'.tuningPerformed = false
      ∧ Shows p (Sd.mshcSlotIssueBusOperation retune setSignaling (fun _ => input) .dat h) s'
      ∧ Recovered r h
        (Sd.mshcSlotIssueBusOperation retune setSignaling (fun _ => input) .dat h) := by
  unfold mshcSlotIssueBusOperation Sd.mshcSlotIssueBusOperation
  rw [hs.initialized]
  cases h.initialized with
  | false =>
    rw [if_pos rfl]
    exact ⟨⟨true, ⟨.idle, true, true⟩, fun _ => []⟩, _, _, rfl, htuning, hs, .refl r h⟩
  | true =>
    rw [if_neg (by decide)]
    obtain ⟨stop, hstopped, -, hrecovered⟩ := mshcSendStopCommand_shows hs.takeBack hdepth hw hr
    have hreset := resetController_shows hstopped hw
    have hflag := (stopAndReset_keeps p hw s).tuningPerformed.trans htuning
    have hlocal : Sd.mshcResetHost retune setSignaling ⟨true, stop⟩ .dat h
        = (Sd.mshcSendStopCommand stop { h with outstandingRequest := none }).1 := by
      have hnot := hreset.tuningPerformed.symm.trans hflag
      unfold Sd.mshcResetHost
      dsimp only
      rw [if_neg (by decide), if_neg fun hretune => by rw [hnot] at hretune; cases hretune.1]
    refine ⟨⟨true, stop⟩, ?_⟩
    dsimp only
    rw [if_pos rfl, hlocal, mshcResetHost_dat_eq]
    split
    · exact ⟨_, _, rfl, hflag, hreset, hrecovered.request, hrecovered.errors, hrecovered.events⟩
    · rw [retunes_of_not_performed hflag]
      exact ⟨_, _, rfl, hflag, hreset, hrecovered.request, hrecovered.errors, hrecovered.events⟩

/-- **The recovery**: the command reset, and the data reset for a request with data. -/
theorem recover_shows (hs : Shows p h s) (hdepth : p.fifoDepth < 2 ^ 32) (hw : Nat → HwAnswer)
    (depth : Nat) (retune setSignaling : MshcHost → MshcHost) {r : RequestId} (hr : r ≠ .stop)
    (hdata : (h.requests r).command.isData → s.tuningPerformed = false) (status : NtStatus) :
    ∃ resets s',
      (match mshcSlotIssueBusOperation p hw (depth + 4) (.resetHost .cmd) s with
        | .error fault => .error fault
        | .ok (_, s) =>
          if (h.requests r).command.isData then
            match mshcSlotIssueBusOperation p hw (depth + 4) (.resetHost .dat) s with
            | .error fault => .error fault
            | .ok (_, s) => .ok (status, s)
          else .ok (status, s) : MshcResult) = .ok (status, s')
      ∧ s'.tuningPerformed = s.tuningPerformed
      ∧ Shows p (recoverRequest (Sd.mshcSlotIssueBusOperation retune setSignaling resets) r h) s'
      ∧ Recovered r h
        (recoverRequest (Sd.mshcSlotIssueBusOperation retune setSignaling resets) r h) := by
  obtain ⟨_, s₁, hissue, hflag, hshows⟩ := resetHost_cmd_shows hs hw (depth + 2)
  have hrecovered := commandReset_recovered r h
  rw [hissue]
  unfold recoverRequest
  simp only [commandReset_eq, hrecovered.request]
  by_cases hd : (h.requests r).command.isData
  · obtain ⟨input, _, s₂, hissue', hflag', hshows', hrecovered'⟩ :=
      resetHost_dat_shows hshows hdepth hw depth (hflag.trans (hdata hd)) retune setSignaling hr
    refine ⟨fun _ => input, s₂, ?_, hflag'.trans (hdata hd).symm, ?_⟩
    · rw [if_pos hd, hissue']
    · rw [if_pos hd]
      exact ⟨hshows', hrecovered.trans hrecovered'⟩
  · refine ⟨fun _ => ⟨true, ⟨.idle, true, true⟩, fun _ => []⟩, s₁, ?_, hflag, ?_⟩
    · rw [if_neg hd]
    · rw [if_neg hd]
      exact ⟨hshows, hrecovered⟩

end Resets

/-! ## 5. The commands

A synchronous call is an issue, a wait and a recovery, so it is put together from the three
sections above; the tuning command is a sequence of such calls, as long as there is more to
transfer. -/

/-- **A synchronous call with error recovery**: what is issued and waited for the same way recovers
the same way. -/
theorem sync_shows {p : MshcSlot} {h h₀ h' : MshcHost} {s s' : MshcBus} {r : RequestId}
    {request : SdRequest} {c : CallContext}
    (hissue : mshcSlotIssueRequest c r { h with localRequestPending := true } = (h', .pending))
    (hissued : Issued p r request h₀ h' s') (hrequired : request.requiredEvents ≠ ∅)
    (hstatus : request.status = .success ∨ request.status = .moreProcessingRequired)
    (hw : Nat → HwAnswer) (phase : LocalRequest)
    (hrun : runLocal p hw phase s = waitLocal hw request.status s')
    (hdepth : p.fifoDepth < 2 ^ 32) (hr : r ≠ .stop)
    (hdata : request.command.isData ↔ phase.isData = true)
    (htuning : phase.isData = true → s'.tuningPerformed = false)
    (retune setSignaling : MshcHost → MshcHost) (timeoutUs : Nat) (hcount : 0 < pollCount timeoutUs)
    (depth : Nat) :
    ∃ (polls : Nat → List Activity) (resets : ResetType → ResetInput) (s'' : MshcBus),
      mshcIssueRequestSynchronously p hw (depth + 5) phase true s
          = .ok ((runLocal p hw phase s).1, s'')
        ∧ s''.tuningPerformed = s'.tuningPerformed
        ∧ ∃ g, Sd.mshcIssueRequestSynchronously
            (Sd.mshcSlotIssueBusOperation retune setSignaling resets) c polls r timeoutUs true h
            = (g, (runLocal p hw phase s).1)
          ∧ Shows p g s'' ∧ g.currentErrors = ∅
          ∧ (SdEvent.cardRwEnd ∉ request.requiredEvents → SdEvent.cardRwEnd ∉ g.currentEvents)
          ∧ ∃ required ⊆ request.requiredEvents, ∃ status, g.requests r = { request with
              requiredEvents := required
              status := status } := by
  obtain ⟨polls, hshows, hend, hwaited⟩ := hissued.wait hrequired hstatus hw timeoutUs hcount
  have hkeeps := (waitLocal_keeps hw request.status s').tuningPerformed
  rw [← hrun] at hshows hend hkeeps
  generalize hwait : endWait r (pollLoop polls (pollCount timeoutUs) h') = w at *
  obtain ⟨required, hsub, status, hrequests⟩ := hwaited.requests
  have hrequest : w.requests r = { request with requiredEvents := required, status := status } := by
    rw [hrequests, Function.update_self]
  have hcommand : (w.requests r).command = request.command := by rw [hrequest]
  have hsync := fun busOperation => sync_eq hissue busOperation polls timeoutUs true
  simp only [hwait, true_and] at hsync
  unfold mshcIssueRequestSynchronously
  simp only [Bool.true_and, Bool.not_eq_true']
  by_cases hok : (runLocal p hw phase s).1.ntSuccess = false
  · obtain ⟨resets, s'', hreset, hflag, hshows', hrecovered⟩ := recover_shows hshows hdepth hw depth
      retune setSignaling hr (fun hd => hkeeps.trans (htuning (hdata.mp (hcommand ▸ hd))))
      (runLocal p hw phase s).1
    refine ⟨polls, resets, s'', ?_, hflag.trans hkeeps, _, (hsync _).trans ?_, hshows', ?_⟩
    · rw [hcommand] at hreset
      simp only [hdata] at hreset
      rw [if_pos hok]
      exact hreset
    · rw [hend, if_pos hok, hrecovered.request, hend]
    · refine ⟨hrecovered.errors hwaited.errors,
        fun hrw => hrecovered.events fun hmem => hrw (hwaited.events hmem), required, hsub, status,
        hrecovered.request.trans hrequest⟩
  · refine ⟨polls, fun _ => ⟨true, ⟨.idle, true, true⟩, fun _ => []⟩, _, if_neg hok, hkeeps, w,
      (hsync _).trans ?_, hshows, hwaited.errors,
      fun hrw hmem => hrw (hwaited.events hmem), required, hsub, status, hrequest⟩
    rw [hend, if_neg hok, hend]

section Commands

variable {p : MshcSlot} {h : MshcHost} {s : MshcBus}

/-- **The status command.** -/
theorem mshcSendStatusCommand_shows (hs : Shows p h s) (hdepth : p.fifoDepth < 2 ^ 32)
    (hw : Nat → HwAnswer) (depth : Nat) (retune setSignaling : MshcHost → MshcHost) :
    ∃ (input : SyncInput) (status : NtStatus) (s' : MshcBus) (g : MshcHost),
      mshcSendStatusCommand p hw (depth + 6) s = .ok (status, s')
        ∧ Sd.mshcSendStatusCommand retune setSignaling input h = (g, status) ∧ Shows p g s' := by
  obtain ⟨hrequired, -, hstatus⟩ :=
    LocalCommand.issuedRequest_spec (decide (s.busWidth = .width8Bit)) .status
  obtain ⟨h', hissue, hissued⟩ := issueCommand_issued hs hdepth ⟨.idle, true, true⟩ .status
  obtain ⟨polls, resets, s', hsent, -, g, hlocal, hshows, -⟩ := sync_shows hissue hissued hrequired
    (.inl hstatus) hw (.command .status) (by rw [hstatus]; rfl) hdepth (by decide)
    (LocalCommand.issuedRequest_data _ _) (fun hdata => nomatch hdata) retune setSignaling
    50000 (by decide) depth
  exact ⟨⟨⟨⟨.idle, true, true⟩, polls⟩, resets⟩, _, s', g, hsent, hlocal, hshows⟩

/-- **A part of the transfer**, and with more to come the next part can be started. -/
theorem transfer_shows (hs : Shows p h s) (ht : Transfers h) (htuning : s.tuningPerformed = false)
    (hdepth : p.fifoDepth < 2 ^ 32) (hw : Nat → HwAnswer) (depth : Nat)
    (retune setSignaling : MshcHost → MshcHost) :
    ∃ (input : SyncInput) (status : NtStatus) (s' : MshcBus) (g : MshcHost),
      mshcIssueRequestSynchronously p hw (depth + 5) .transfer true s = .ok (status, s')
        ∧ sendTuningRequest retune setSignaling input h = (g, status) ∧ Shows p g s'
        ∧ s'.tuningPerformed = false ∧ (status = .moreProcessingRequired → Transfers g) := by
  obtain ⟨h', required, hissue, hissued, hrequired, hmore, hstatus⟩ :=
    issueTransfer_issued hs ht ⟨.idle, true, true⟩
  obtain ⟨busWidth8Bit, hcommand⟩ := ht.command
  obtain ⟨polls, resets, s', hsent, hflag, g, hlocal, hshows, herrors, hevents, required', hsub,
    status, hrequest⟩ := sync_shows hissue hissued hrequired hstatus hw .transfer rfl
    hdepth (by decide)
    (iff_of_true (by rw [hcommand]; cases busWidth8Bit <;> decide) rfl) (fun _ => htuning) retune
    setSignaling 1000000 (by decide) depth
  refine ⟨⟨⟨⟨.idle, true, true⟩, polls⟩, resets⟩, _, s', g, hsent, hlocal, hshows,
    hflag.trans htuning, fun hcontinues => ?_⟩
  have hissuedMore : (issueTransfer { s with localRequestPending := true }).1
      = .moreProcessingRequired := by
    by_contra hne
    exact waitLocal_status hw hne _ hcontinues
  have hnot := hmore hissuedMore
  refine ⟨?_, ⟨busWidth8Bit, ?_⟩, ?_, hevents hnot, herrors⟩
  · rw [hrequest]
    exact ht.type
  · rw [hrequest]
    exact hcommand
  · rw [hrequest]
    exact fun hmem => hnot (hsub hmem)

/-- The type of a request is not what the slot shows. -/
theorem Shows.putType (hs : Shows p h s) (r : RequestId) (type : RequestType) :
    Shows p (h.put r { h.requests r with type }) s := by
  refine { hs with outstanding := hs.outstanding.trans ?_ }
  change h.outstandingRequest.map _ = h.outstandingRequest.map _
  congr 1
  funext r'
  by_cases hr : r' = r
  · subst hr
    rw [MshcHost.put_requests]
  · rw [h.put_requests_ne hr]

/-- **The command phase of the tuning command**, after which the transfer can be started. -/
theorem tuningPhase_shows (hs : Shows p h s) (htuning : s.tuningPerformed = false)
    (hdepth : p.fifoDepth < 2 ^ 32) (hw : Nat → HwAnswer) (depth : Nat)
    (retune setSignaling : MshcHost → MshcHost) :
    ∃ (input : SyncInput) (status : NtStatus) (s' : MshcBus) (g : MshcHost),
      mshcIssueRequestSynchronously p hw (depth + 5) (.command .tuning) true s = .ok (status, s')
        ∧ sendTuningRequest retune setSignaling input
          (h.put .tuning (tuningRequest (decide (s.busWidth = .width8Bit)))) = (g, status)
        ∧ Shows p g s' ∧ s'.tuningPerformed = false
        ∧ Transfers (g.put .tuning { g.requests .tuning with type := .startTransfer }) := by
  obtain ⟨hrequired, hrwEnd, hstatus⟩ :=
    LocalCommand.issuedRequest_spec (decide (s.busWidth = .width8Bit)) .tuning
  obtain ⟨h', hissue, hissued⟩ := issueCommand_issued hs hdepth ⟨.idle, true, true⟩ .tuning
  obtain ⟨polls, resets, s', hsent, hflag, g, hlocal, hshows, herrors, hevents, required, hsub,
    status, hrequest⟩ := sync_shows hissue hissued hrequired (.inl hstatus) hw
    (.command .tuning) (by rw [hstatus]; rfl) hdepth (by decide)
    (LocalCommand.issuedRequest_data _ _) (fun _ => htuning) retune setSignaling
    1000000 (by decide) depth
  refine ⟨⟨⟨⟨.idle, true, true⟩, polls⟩, resets⟩, _, s', g, hsent, hlocal, hshows,
    hflag.trans htuning, ?_⟩
  have hcommand := congrArg SdRequest.command hrequest
  have hrequired' : (g.requests .tuning).requiredEvents = required :=
    congrArg SdRequest.requiredEvents hrequest
  refine ⟨?_, ⟨decide (s.busWidth = .width8Bit), ?_⟩, ?_, hevents hrwEnd, herrors⟩
  · rw [MshcHost.put_requests]
  · rw [MshcHost.put_requests]
    exact hcommand
  · rw [MshcHost.put_requests]
    dsimp only
    rw [hrequired']
    exact fun hmem => hrwEnd (hsub hmem)

/-- **The loop over the transfer**, by induction on the parts that the bus allows it. -/
theorem transferLoop_shows (hdepth : p.fifoDepth < 2 ^ 32) (hw : Nat → HwAnswer) (depth : Nat)
    (retune setSignaling : MshcHost → MshcHost) {status : NtStatus} {s' : MshcBus} (fuel : Nat) :
    ∀ {h : MshcHost} {s : MshcBus}, Shows p h s → Transfers h → s.tuningPerformed = false →
      transferLoop (fun s => mshcIssueRequestSynchronously p hw (depth + 5) .transfer true s) fuel s
        = .ok (status, s') →
      ∃ inputs g, tuningTransfer retune setSignaling inputs h = some g ∧ Shows p g s' := by
  induction fuel with
  | zero =>
    intro h s _ _ _ hloop
    cases hloop
  | succ fuel ih =>
    intro h s hs ht htuning hloop
    obtain ⟨input, status₁, s₁, g, hsent, hlocal, hshows, hflag, hcontinues⟩ :=
      transfer_shows hs ht htuning hdepth hw depth retune setSignaling
    rw [transferLoop, hsent] at hloop
    dsimp only at hloop
    split at hloop
    · rename_i hmore
      obtain ⟨inputs, g', htransfer, hshows'⟩ := ih hshows (hcontinues hmore) hflag hloop
      refine ⟨input :: inputs, g', ?_, hshows'⟩
      rw [tuningTransfer, hlocal]
      dsimp only
      rw [if_pos hmore, htransfer]
    · rename_i hdone
      cases hloop
      refine ⟨[input], g, ?_, hshows⟩
      rw [tuningTransfer, hlocal]
      dsimp only
      rw [if_neg hdone]

/-- The speeds that are tuned, as the local commands tell them apart. -/
def tuningSpeed : BusSpeed → TuningSpeed
  | .sdr50 | .sdr104 => .sd
  | .hs200 | .hs400 => .emmc
  | _ => .unexpected

theorem tuningSpeed_unexpected (speed : BusSpeed) :
    tuningSpeed speed = .unexpected ↔ hasTuningCommand speed = false := by
  cases speed <;> decide

/-- **The tuning command** while no tuning was performed: where it returns on the bus, some run of
the local command ends in a state that the bus shows. -/
theorem mshcSendTuningCommand_shows (hs : Shows p h s) (htuning : s.tuningPerformed = false)
    (hdepth : p.fifoDepth < 2 ^ 32) (hw : Nat → HwAnswer) (depth : Nat)
    (retune setSignaling : MshcHost → MshcHost) {status : NtStatus} {s' : MshcBus}
    (hsend : mshcSendTuningCommand p hw (depth + 6) s = .ok (status, s')) :
    ∃ input inputs g, Sd.mshcSendTuningCommand retune setSignaling (tuningSpeed s.busSpeed)
        (decide (s.busWidth = .width8Bit)) input inputs h = some g
      ∧ Shows p g s' := by
  obtain ⟨input, status₁, s₁, g, hsent, hlocal, hshows, hflag, htransfers⟩ :=
    tuningPhase_shows hs htuning hdepth hw depth retune setSignaling
  refine ⟨input, ?_⟩
  unfold Sd.mshcSendTuningCommand
  unfold mshcSendTuningCommand at hsend
  rw [hlocal]
  dsimp only
  split at hsend
  · rename_i hspeed
    cases hsend
    exact ⟨[], h, if_pos ((tuningSpeed_unexpected _).mpr hspeed), hs⟩
  · rename_i hspeed
    simp only [if_neg (mt (tuningSpeed_unexpected _).mp hspeed)]
    rw [hsent] at hsend
    dsimp only at hsend
    split at hsend
    · rename_i hfail
      cases hsend
      exact ⟨[], g, if_pos hfail, hshows⟩
    · rename_i hok
      simp only [if_neg hok]
      split at hsend
      · cases hsend
      · rename_i status₂ s₂ hloop
        obtain ⟨inputs, g', htransfer, hshows'⟩ := transferLoop_shows hdepth hw depth retune
          setSignaling (2 ^ 32) (hshows.putType .tuning .startTransfer) htransfers hflag hloop
        refine ⟨inputs, g', htransfer, ?_⟩
        split at hsend
        · cases hsend
          exact hshows'
        · cases hsend
          exact hshows'.of_eq rfl rfl rfl rfl rfl rfl rfl

end Commands

end WoaRk3576.Sd.Bus
