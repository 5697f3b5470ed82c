/-
# A message of rk3xi2c and its completion

`i2c_xfer_single` returns `transactionStatus`, whatever has ended its wait.  The status is a
success from the start of the message on, so the two ways in which the wait ends before the message
is done return a success for nothing:

* the wait is alertable, and `STATUS_ALERTED` is not told from the event;
* a DPC that is queued when the wait expires runs after the next message has cleared the event.

`completion_exact` is what holds without them: a success is returned only after every byte of the
message was moved, in order, and the completion is the message's own.  `late_dpc` is the second
one.

The invariant of a message has three parts (`MessageInv`).  While its bytes are moved nothing is
raised, neither a DPC nor the event, so that a wait which is not alerted goes on.  A DPC is queued
only when the state machine comes to rest.  And it comes to rest in one of two ways: with a failure
in `transactionStatus`, or once `processed` has reached the length, where all bytes were moved
(`BytesExact.all`).  The bytes themselves are the first `processed` ones, those that were moved and
behind them those in the FIFO, which each of the loops over the FIFOs keeps.

`processed` has 32 bits.  For a message of `2 ^ 32` bytes or more nothing is said about the bytes
while they are moved, and nothing need be: it never comes to rest with a success.
-/
import WoaRk3576.I2c.Rk3x

namespace WoaRk3576.I2c

open WoaRk3576.Lib

/-! ## 1. The property and its condition

Each return of `i2c_xfer_single` is recorded with what the caller may conclude from it. -/

/-- **A success is returned only after all bytes of the message were moved**, and what ends the wait
is the completion of the same message. -/
def SingleReturn.Exact (e : SingleReturn) : Prop :=
  (e.status = .success → e.moved = List.range e.transferLength)
    ∧ ∀ m, e.completion = some m → m = e.message

instance (e : SingleReturn) : Decidable e.Exact :=
  inferInstanceAs (Decidable (_ ∧ _))

/-- **The condition on a step.**  No DPC is queued when a message is set up, and the wait is alerted
only after the bytes were moved, with a failure, or for a message without bytes. -/
def CompletionKept (s : I2cWorld) : I2cStep → Prop
  | .start => s.dpcQueued = none
  | .alert => s.state = .stop ∨ s.state = .idle ∨ s.transactionStatus ≠ .success
      ∨ s.descriptor.transferLength = 0
  | _ => True

instance (s : I2cWorld) (step : I2cStep) : Decidable (CompletionKept s step) :=
  match step with
  | .start => inferInstanceAs (Decidable (s.dpcQueued = none))
  | .alert => inferInstanceAs (Decidable (s.state = .stop ∨ s.state = .idle
      ∨ s.transactionStatus ≠ .success ∨ s.descriptor.transferLength = 0))
  | .request .. => inferInstanceAs (Decidable True)
  | .irq .. => inferInstanceAs (Decidable True)
  | .dpc => inferInstanceAs (Decidable True)
  | .wake => inferInstanceAs (Decidable True)
  | .timeout => inferInstanceAs (Decidable True)

/-! ## 2. The bytes

The bytes that were moved, those in the FIFO and the counter agree, as long as nothing has failed.
At the end of a message the counter has reached the length, so all were moved. -/

/-- While nothing has failed, the bytes moved and those in the FIFO are the first `processed` ones.
(`processed` has 32 bits; a longer message never ends.) -/
def BytesExact (s : Rk3xI2c) : Prop :=
  s.transferLength < 2 ^ 32 → s.processed.toNat ≤ s.transferLength
    ∧ (s.transactionStatus = .success → s.moved ++ s.fifo = List.range s.processed.toNat)

/-- One more byte is left. -/
def HasNext (s : Rk3xI2c) : Prop :=
  s.transferLength < 2 ^ 32 → s.processed.toNat < s.transferLength

theorem processed_succ (s : Rk3xI2c) (hlength : s.transferLength < 2 ^ 32) (hnext : HasNext s) :
    (s.processed + 1).toNat = s.processed.toNat + 1 := by
  have hlt := hnext hlength
  have hone : (1 : BitVec 32).toNat = 1 := rfl
  rw [BitVec.toNat_add, hone]
  exact Nat.mod_eq_of_lt (by omega)

theorem fillByte_exact (mapped : Nat → Bool) {cnt : Nat} {s : Rk3xI2c} (h : BytesExact s)
    (hnext : s.processed = 0 ∧ cnt = 0 ∨ HasNext s) : BytesExact (fillByte mapped cnt s) := by
  unfold fillByte
  split
  · exact h
  · rename_i haddress
    have hleft : HasNext s := hnext.resolve_left haddress
    split
    · intro hlength
      have hsucc := processed_succ s hlength hleft
      refine ⟨?_, fun hstatus => ?_⟩
      · exact hsucc.le.trans (hleft hlength)
      · dsimp only
        rw [hsucc, List.range_succ, ← (h hlength).2 hstatus, List.append_assoc]
    · rename_i hfails
      intro hlength
      exact ⟨(processed_succ s hlength hleft).le.trans (hleft hlength),
        fun hstatus => absurd hstatus hfails⟩

/-- The inner loop. -/
theorem fillWord_exact (mapped : Nat → Bool) (n : Nat) {cnt : Nat} {s : Rk3xI2c}
    (h : BytesExact s) (hnext : cnt = 0 → s.processed = 0 ∨ HasNext s) :
    BytesExact (fillWord mapped n cnt s).2 := by
  induction n generalizing cnt s with
  | zero => exact h
  | succ n ih =>
    rw [fillWord]
    split
    · exact h
    · rename_i hmore
      refine ih (fillByte_exact mapped h ?_) fun hzero => absurd hzero (Nat.succ_ne_zero cnt)
      by_cases hcnt : cnt = 0
      · exact (hnext hcnt).imp_left fun hzero => ⟨hzero, hcnt⟩
      · refine Or.inr fun hlength => lt_of_le_of_ne (h hlength).1 ?_
        exact fun hall => hmore ⟨hall, hcnt⟩

/-- The outer loop. -/
theorem fillWords_exact (mapped : Nat → Bool) (n : Nat) {cnt : Nat} {s : Rk3xI2c}
    (h : BytesExact s) (hnext : cnt = 0 → s.processed = 0 ∨ HasNext s) :
    BytesExact (fillWords mapped n cnt s) := by
  induction n generalizing cnt s with
  | zero => exact h
  | succ n ih =>
    have hword := fillWord_exact mapped 4 h hnext
    rw [fillWords]
    split
    · exact hword
    · rename_i hmore
      exact ih hword fun _ => Or.inr fun hlength => lt_of_le_of_ne (hword hlength).1 hmore

/-- The loop over the receive FIFO; nothing is in the transmit FIFO. -/
theorem readBytes_exact (mapped : Nat → Bool) (n : Nat) {s : Rk3xI2c} (h : BytesExact s)
    (hfifo : s.fifo = [])
    (hroom : s.transferLength < 2 ^ 32 → s.processed.toNat + n ≤ s.transferLength) :
    BytesExact (readBytes mapped n s) ∧ (readBytes mapped n s).fifo = [] := by
  induction n generalizing s with
  | zero => exact ⟨h, hfifo⟩
  | succ n ih =>
    have hnext : HasNext s := by
      intro hlength
      have := hroom hlength
      omega
    rw [readBytes]
    split
    · refine ih ?_ hfifo ?_
      · intro hlength
        have hsucc := processed_succ s hlength hnext
        refine ⟨hsucc.le.trans (hnext hlength), fun hstatus => ?_⟩
        have hold := (h hlength).2 hstatus
        dsimp only
        rw [hfifo, List.append_nil] at hold ⊢
        rw [hsucc, List.range_succ, hold]
      · intro hlength
        have hsucc := processed_succ s hlength hnext
        have := hroom hlength
        dsimp only
        omega
    · rename_i hfails
      refine ⟨fun hlength => ⟨?_, fun hstatus => absurd hstatus hfails⟩, hfifo⟩
      exact (processed_succ s hlength hnext).le.trans (hnext hlength)

/-- **All bytes were moved** once `processed` has reached the length. -/
theorem BytesExact.all {s : Rk3xI2c} (h : BytesExact s) (hfifo : s.fifo = [])
    (hend : s.transferLength ≤ s.processed.toNat) (hstatus : s.transactionStatus = .success) :
    s.moved = List.range s.transferLength := by
  have hlength : s.transferLength < 2 ^ 32 := hend.trans_lt s.processed.isLt
  obtain ⟨hle, hmoved⟩ := h hlength
  rw [hfifo, List.append_nil] at hmoved
  rw [hmoved hstatus, le_antisymm hle hend]

/-! ## 3. The message under way

`MessageInv` says for each state of the machine what has happened to the message: it is being
moved, has failed, or is through, and nothing completes it before it comes to rest. -/

/-- No completion has been raised. -/
def NotRaised (s : Rk3xI2c) : Prop :=
  s.dpcQueued = none ∧ s.waitEvent = none

/-- The state machine is moving the bytes of a message of this length. -/
structure Moving (length : Nat) (s : Rk3xI2c) : Prop where
  quiet : NotRaised s
  length : s.transferLength = length
  bytes : BytesExact s
  start : s.state = .start → s.processed = 0
  fifo : s.state ≠ .write → s.fifo = []

/-- **The message under way**: its bytes are being moved, or were moved or have failed, and nothing
is raised before the state machine is at rest. -/
structure MessageInv (length : Nat) (s : Rk3xI2c) : Prop where
  moving : s.state ≠ .stop → s.state ≠ .idle → Moving length s
  stop : s.state ≠ .idle → NotRaised s
  ended : s.state = .stop ∨ s.state = .idle → s.transactionStatus = .success →
    s.moved = List.range length

/-- **The message ends**, with a STOP to come or at once. -/
theorem rk3xI2cStop_messageInv {length : Nat} {s : Rk3xI2c} {status : NtStatus}
    (hquiet : NotRaised s) (hmoved : status = .success → s.moved = List.range length) :
    MessageInv length (rk3xI2cStop status s) := by
  unfold rk3xI2cStop
  dsimp only
  split
  · exact ⟨fun hstop _ => absurd rfl hstop, fun _ => hquiet, fun _ => hmoved⟩
  · exact ⟨fun _ hidle => absurd rfl hidle, fun hidle => absurd rfl hidle, fun _ => hmoved⟩

theorem rk3xI2cStop_failed {length : Nat} {s : Rk3xI2c} {status : NtStatus} (hquiet : NotRaised s)
    (hfailed : status ≠ .success) : MessageInv length (rk3xI2cStop status s) :=
  rk3xI2cStop_messageInv hquiet fun hsuccess => absurd hsuccess hfailed

/-- A message whose bytes are being moved. -/
theorem Moving.messageInv {length : Nat} {s : Rk3xI2c} (h : Moving length s)
    (hstop : s.state ≠ .stop) (hidle : s.state ≠ .idle) : MessageInv length s :=
  ⟨fun _ _ => h, fun _ => h.quiet, fun hended => absurd hended (not_or.mpr ⟨hstop, hidle⟩)⟩

/-- Filling the FIFO. -/
theorem Moving.fill {length : Nat} {s : Rk3xI2c} (mapped : Nat → Bool) (h : Moving length s)
    (hwrite : s.state = .write) (hnext : s.processed = 0 ∨ HasNext s) :
    MessageInv length (rk3xI2cFillTransmitBuf mapped s) := by
  have hsame := fillWords_sameControl mapped 8 0 s
  have hbytes : BytesExact (rk3xI2cFillTransmitBuf mapped s) :=
    fillWords_exact mapped 8 h.bytes fun _ => hnext
  have hstate : (rk3xI2cFillTransmitBuf mapped s).state = .write := hsame.state.trans hwrite
  have hmoving : Moving length (rk3xI2cFillTransmitBuf mapped s) := by
    refine ⟨⟨?_, ?_⟩, ?_, hbytes, ?_, ?_⟩
    · exact hsame.dpcQueued.trans h.quiet.1
    · exact hsame.waitEvent.trans h.quiet.2
    · exact hsame.transferLength.trans h.length
    · exact fun hstart => absurd (hstate.symm.trans hstart) (by decide)
    · exact fun hnot => absurd hstate hnot
  refine hmoving.messageInv ?_ ?_
  · rw [hstate]
    decide
  · rw [hstate]
    decide

/-- Asking for the next chunk. -/
theorem Moving.prepareRead {length : Nat} {s : Rk3xI2c} (h : Moving length s)
    (hread : s.state = .read) : MessageInv length (rk3xI2cPrepareRead s) := by
  have hmoving : Moving length (rk3xI2cPrepareRead s) :=
    ⟨h.quiet, h.length, h.bytes, h.start, h.fifo⟩
  refine hmoving.messageInv ?_ ?_
  · exact fun hstop => absurd (hread.symm.trans hstop) (by decide)
  · exact fun hidle => absurd (hread.symm.trans hidle) (by decide)

section Handlers

variable {length : Nat} {s : Rk3xI2c} (ipd : BitVec 32) (mapped : Nat → Bool)

theorem rk3xI2cHandleStart_messageInv (h : Moving length s) (hstate : s.state = .start) :
    MessageInv length (rk3xI2cHandleStart ipd mapped s) := by
  have hzero := h.start hstate
  have hfifo := h.fifo (by rw [hstate]; decide)
  unfold rk3xI2cHandleStart
  split
  · exact rk3xI2cStop_failed h.quiet (by decide)
  · dsimp only
    split
    · refine Moving.fill mapped ⟨h.quiet, h.length, h.bytes, ?_, ?_⟩ rfl (Or.inl hzero)
      · exact fun hstart => by cases hstart
      · exact fun hnot => absurd rfl hnot
    · refine Moving.prepareRead ⟨h.quiet, h.length, h.bytes, ?_, ?_⟩ rfl
      · exact fun hstart => by cases hstart
      · exact fun _ => hfifo

theorem rk3xI2cHandleWrite_messageInv (h : Moving length s) (hstate : s.state = .write) :
    MessageInv length (rk3xI2cHandleWrite ipd mapped s) := by
  have hsent : Moving length s.transmitted := by
    refine ⟨h.quiet, h.length, ?_, h.start, fun _ => rfl⟩
    intro hlength
    obtain ⟨hle, hmoved⟩ := h.bytes hlength
    refine ⟨hle, fun hstatus => ?_⟩
    exact (List.append_nil _).trans (hmoved hstatus)
  unfold rk3xI2cHandleWrite
  split
  · exact rk3xI2cStop_failed h.quiet (by decide)
  · dsimp only
    split
    · rename_i hend
      refine rk3xI2cStop_messageInv h.quiet fun hstatus => ?_
      exact (hsent.bytes.all rfl hend hstatus).trans (congrArg List.range h.length)
    · rename_i hmore
      exact hsent.fill mapped hstate (Or.inr fun _ => not_le.mp hmore)

theorem rk3xI2cHandleRead_messageInv (h : Moving length s) (hstate : s.state = .read) :
    MessageInv length (rk3xI2cHandleRead ipd mapped s) := by
  have hfifo := h.fifo (by rw [hstate]; decide)
  unfold rk3xI2cHandleRead
  split
  · refine h.messageInv ?_ ?_
    · rw [hstate]
      decide
    · rw [hstate]
      decide
  · have hsame := readBytes_sameControl mapped (min (s.transferLength - s.processed.toNat) 32) s
    obtain ⟨hbytes, hempty⟩ := readBytes_exact mapped
      (min (s.transferLength - s.processed.toNat) 32) h.bytes hfifo (by
        intro hlength
        have := (h.bytes hlength).1
        omega)
    generalize readBytes mapped (min (s.transferLength - s.processed.toNat) 32) s = t at *
    have hquiet : NotRaised t :=
      ⟨hsame.dpcQueued.trans h.quiet.1, hsame.waitEvent.trans h.quiet.2⟩
    have hlength : t.transferLength = length := hsame.transferLength.trans h.length
    have hread : t.state = .read := hsame.state.trans hstate
    dsimp only
    split
    · rename_i hend
      refine rk3xI2cStop_messageInv hquiet fun hstatus => ?_
      exact (hbytes.all hempty hend hstatus).trans (congrArg List.range hlength)
    · refine Moving.prepareRead ⟨hquiet, hlength, hbytes, ?_, fun _ => hempty⟩ hread
      exact fun hstart => absurd (hread.symm.trans hstart) (by decide)

theorem rk3xI2cHandleStop_messageInv (h : MessageInv length s) (hstate : s.state = .stop) :
    MessageInv length (rk3xI2cHandleStop ipd s) := by
  unfold rk3xI2cHandleStop
  split
  · exact rk3xI2cStop_failed (h.stop (by rw [hstate]; decide)) (by decide)
  · exact ⟨fun _ hidle => absurd rfl hidle, fun hidle => absurd rfl hidle,
      fun _ => h.ended (Or.inl hstate)⟩

theorem rk3xI2cHandle_messageInv (h : MessageInv length s) :
    MessageInv length (rk3xI2cHandle ipd mapped s) := by
  unfold rk3xI2cHandle
  cases hstate : s.state with
  | idle => exact h
  | stop => exact rk3xI2cHandleStop_messageInv ipd h hstate
  | start =>
    exact rk3xI2cHandleStart_messageInv ipd mapped
      (h.moving (by rw [hstate]; decide) (by rw [hstate]; decide)) hstate
  | read =>
    exact rk3xI2cHandleRead_messageInv ipd mapped
      (h.moving (by rw [hstate]; decide) (by rw [hstate]; decide)) hstate
  | write =>
    exact rk3xI2cHandleWrite_messageInv ipd mapped
      (h.moving (by rw [hstate]; decide) (by rw [hstate]; decide)) hstate

/-- **An interrupt** with any pending bits. -/
theorem rk3xI2cIrq_messageInv (h : MessageInv length s) :
    MessageInv length (rk3xI2cIrq ipd mapped s) := by
  unfold rk3xI2cIrq
  split
  · exact h
  · rename_i hbusy
    have hafter : MessageInv length
        (if ipd &&& ~~~(regIntBrf ||| regIntBtf) &&& regIntNakrcv ≠ 0 then
          rk3xI2cStop .invalidTransaction s else s) := by
      split
      · exact rk3xI2cStop_failed (h.stop hbusy) (by decide)
      · exact h
    generalize (if ipd &&& ~~~(regIntBrf ||| regIntBtf) &&& regIntNakrcv ≠ 0 then
      rk3xI2cStop .invalidTransaction s else s) = t at *
    dsimp only
    split
    · exact hafter
    · exact rk3xI2cHandle_messageInv _ mapped hafter

end Handlers

/-! ## 4. Whose completion it is

A DPC is queued for the message that is set up at that moment.  It may run much later, and sets the
event for whatever is waited for then. -/

/-- An interrupt may queue the DPC, for the message that is set up. -/
structure Raises (s t : Rk3xI2c) : Prop where
  message : t.message = s.message
  waitEvent : t.waitEvent = s.waitEvent
  dpcQueued : t.dpcQueued = s.dpcQueued ∨ t.dpcQueued = some s.message

theorem Raises.trans {s t u : Rk3xI2c} (hst : Raises s t) (htu : Raises t u) : Raises s u := by
  refine ⟨htu.message.trans hst.message, htu.waitEvent.trans hst.waitEvent, ?_⟩
  rcases htu.dpcQueued with hsame | hqueued
  · exact hst.dpcQueued.imp hsame.trans hsame.trans
  · exact Or.inr (hqueued.trans (congrArg some hst.message))

theorem SameControl.raises {s t : Rk3xI2c} (h : SameControl s t) : Raises s t :=
  ⟨h.message, h.waitEvent, Or.inl h.dpcQueued⟩

theorem rk3xI2cStop_raises (status : NtStatus) (s : Rk3xI2c) :
    Raises s (rk3xI2cStop status s) := by
  unfold rk3xI2cStop
  dsimp only
  split
  · exact ⟨rfl, rfl, Or.inl rfl⟩
  · exact ⟨rfl, rfl, Or.inr rfl⟩

section Raises

variable (ipd : BitVec 32) (mapped : Nat → Bool) (s : Rk3xI2c)

theorem rk3xI2cHandle_raises : Raises s (rk3xI2cHandle ipd mapped s) := by
  unfold rk3xI2cHandle
  split
  · unfold rk3xI2cHandleStart
    split
    · exact rk3xI2cStop_raises _ s
    · dsimp only
      split
      · refine Raises.trans ?_ (fillWords_sameControl mapped 8 0 _).raises
        exact ⟨rfl, rfl, Or.inl rfl⟩
      · exact ⟨rfl, rfl, Or.inl rfl⟩
  · unfold rk3xI2cHandleWrite
    split
    · exact rk3xI2cStop_raises _ s
    · dsimp only
      split
      · refine Raises.trans ?_ (rk3xI2cStop_raises _ _)
        exact ⟨rfl, rfl, Or.inl rfl⟩
      · refine Raises.trans ?_ (fillWords_sameControl mapped 8 0 _).raises
        exact ⟨rfl, rfl, Or.inl rfl⟩
  · unfold rk3xI2cHandleRead
    split
    · exact (SameControl.refl s).raises
    · have hread := (readBytes_sameControl mapped
        (min (s.transferLength - s.processed.toNat) 32) s).raises
      dsimp only
      split
      · refine hread.trans (Raises.trans ?_ (rk3xI2cStop_raises _ _))
        exact ⟨rfl, rfl, Or.inl rfl⟩
      · refine hread.trans ?_
        exact ⟨rfl, rfl, Or.inl rfl⟩
  · unfold rk3xI2cHandleStop
    split
    · exact rk3xI2cStop_raises _ s
    · exact ⟨rfl, rfl, Or.inr rfl⟩
  · exact (SameControl.refl s).raises

theorem rk3xI2cIrq_raises : Raises s (rk3xI2cIrq ipd mapped s) := by
  unfold rk3xI2cIrq
  split
  · exact (SameControl.refl s).raises
  · have hafter : Raises s (if ipd &&& ~~~(regIntBrf ||| regIntBtf) &&& regIntNakrcv ≠ 0 then
        rk3xI2cStop .invalidTransaction s else s) := by
      split
      · exact rk3xI2cStop_raises _ s
      · exact (SameControl.refl s).raises
    dsimp only
    split
    · exact hafter
    · exact hafter.trans (rk3xI2cHandle_raises _ mapped _)

end Raises

/-! ## 5. Runs

The two conditions exclude just this: a DPC left over when the next message is set up, and a wait
that is ended from outside before the message is through. -/

/-- The completions are those of the last message, and the one that is waited for is under way. -/
structure CompletionInv (s : I2cWorld) : Prop where
  returns : ∀ e ∈ s.returns, e.Exact
  queued : ∀ m, s.dpcQueued = some m → m = s.message
  event : ∀ m, s.waitEvent = some m → m = s.message
  waiting : s.phase = .waiting → MessageInv s.descriptor.transferLength s.toRk3xI2c

/-- **The wait ends** with a return that is exact. -/
theorem CompletionInv.singleReturn {s : I2cWorld} (h : CompletionInv s) {status : NtStatus}
    {completion : Option Nat}
    (hmoved : status = .success → s.moved = List.range s.descriptor.transferLength)
    (hown : ∀ m, completion = some m → m = s.message) :
    CompletionInv (s.singleReturn status completion) := by
  have hreturns : ∀ e ∈ s.returns ++ [⟨s.message, status, s.descriptor.transferLength, s.moved,
      completion⟩], e.Exact := by
    intro e he
    rcases List.mem_append.mp he with hold | hnew
    · exact h.returns e hold
    · rw [List.mem_singleton.mp hnew]
      exact ⟨hmoved, hown⟩
  unfold I2cWorld.singleReturn
  dsimp only
  split
  · exact ⟨hreturns, h.queued, h.event, fun hwaiting => by cases hwaiting⟩
  · refine ⟨hreturns, h.queued, h.event, fun hwaiting => ?_⟩
    dsimp only at hwaiting
    split at hwaiting
    · cases hwaiting
    · cases hwaiting

/-- **A message is set up** while no DPC is queued. -/
theorem CompletionInv.xferSingle {s : I2cWorld} (h : CompletionInv s) (descriptor : Transfer)
    (hqueued : s.dpcQueued = none) : CompletionInv (i2cXferSingle descriptor s) := by
  have hmode : ¬ s.target.addressMode ≠ .sevenBit := not_not.mpr s.target.addressMode_eq
  unfold i2cXferSingle
  dsimp only
  rw [if_neg hmode]
  refine ⟨h.returns, ?_, ?_, fun _ => ?_⟩
  · exact fun m hm => absurd (hqueued.symm.trans hm) (by simp)
  · exact fun m hm => absurd hm (by simp [rk3xI2cStart, Rk3xI2c.writeCon])
  · refine Moving.messageInv ⟨⟨hqueued, rfl⟩, rfl, ?_, fun _ => rfl, fun _ => rfl⟩ ?_ ?_
    · exact fun _ => ⟨Nat.zero_le _, fun _ => rfl⟩
    · exact fun hstop => by cases hstop
    · exact fun hidle => by cases hidle

/-- An event that is set for the message under way comes from its end. -/
theorem CompletionInv.moved_of_event {s : I2cWorld} (h : CompletionInv s)
    (hwaiting : s.phase = .waiting) {m : Nat} (hevent : s.waitEvent = some m)
    (hstatus : s.transactionStatus = .success) :
    s.moved = List.range s.descriptor.transferLength := by
  have hmessage := h.waiting hwaiting
  refine hmessage.ended (Or.inr ?_) hstatus
  by_contra hbusy
  cases (hmessage.stop hbusy).2.symm.trans hevent

theorem CompletionInv.moved_of_alert {s : I2cWorld} (h : CompletionInv s)
    (hwaiting : s.phase = .waiting) (hkept : CompletionKept s .alert)
    (hstatus : s.transactionStatus = .success) :
    s.moved = List.range s.descriptor.transferLength := by
  have hmessage := h.waiting hwaiting
  by_cases hended : s.state = .stop ∨ s.state = .idle
  · exact hmessage.ended hended hstatus
  · obtain ⟨hstop, hidle⟩ := not_or.mp hended
    have hzero : s.descriptor.transferLength = 0 := by
      rcases hkept with hstate | hstate | hfailed | hzero
      · exact absurd hstate hstop
      · exact absurd hstate hidle
      · exact absurd hstatus hfailed
      · exact hzero
    have hmoving := hmessage.moving hstop hidle
    have hlength : s.transferLength = 0 := hmoving.length.trans hzero
    obtain ⟨hle, hmoved⟩ := hmoving.bytes (by rw [hlength]; decide)
    have hnone := hmoved hstatus
    have hprocessed : s.processed.toNat = 0 := by omega
    rw [hprocessed] at hnone
    rw [hzero]
    exact (List.append_eq_nil_iff.mp hnone).1

/-- **Every step that meets the condition keeps the invariant.** -/
theorem i2cStep_completionInv {s s' : I2cWorld} {step : I2cStep} (h : CompletionInv s)
    (hkept : CompletionKept s step) (hstep : i2cStep s step = some s') : CompletionInv s' := by
  cases step with
  | request target transfers =>
    obtain ⟨-, hs⟩ := Option.ite_none_right_eq_some.mp hstep
    cases hs
    exact ⟨h.returns, h.queued, h.event, fun hwaiting => by cases hwaiting⟩
  | start =>
    unfold i2cStep at hstep
    dsimp only at hstep
    split at hstep
    · cases hstep
      exact h.xferSingle _ hkept
    · cases hstep
  | irq ipd mapped =>
    cases hstep
    have hraises := rk3xI2cIrq_raises ipd mapped s.toRk3xI2c
    refine ⟨h.returns, ?_, ?_,
      fun hwaiting => rk3xI2cIrq_messageInv ipd mapped (h.waiting hwaiting)⟩
    · intro m hm
      rw [hraises.message]
      rcases hraises.dpcQueued with hsame | hqueued
      · exact h.queued m (hsame.symm.trans hm)
      · exact (Option.some.inj (hqueued.symm.trans hm)).symm
    · intro m hm
      rw [hraises.message]
      exact h.event m (hraises.waitEvent.symm.trans hm)
  | dpc =>
    unfold i2cStep at hstep
    dsimp only at hstep
    split at hstep
    · cases hstep
    · rename_i m hm
      cases hstep
      refine ⟨h.returns, fun _ hnone => absurd hnone (by simp), ?_, fun hwaiting => ?_⟩
      · intro m' hm'
        cases hm'
        exact h.queued m hm
      · have hmessage := h.waiting hwaiting
        have hidle : s.state = .idle := by
          by_contra hbusy
          cases (hmessage.stop hbusy).1.symm.trans hm
        exact ⟨fun _ hnot => absurd hidle hnot, fun hnot => absurd hidle hnot, hmessage.ended⟩
  | wake =>
    unfold i2cStep at hstep
    dsimp only at hstep
    split at hstep
    · rename_i m hwaiting hm
      cases hstep
      refine h.singleReturn (h.moved_of_event hwaiting hm) fun m' hm' => ?_
      cases hm'
      exact h.event m hm
    · cases hstep
  | timeout =>
    obtain ⟨-, hs⟩ := Option.ite_none_right_eq_some.mp hstep
    cases hs
    have hforced : CompletionInv { s with phase := .free, toRk3xI2c := forceStop s.toRk3xI2c } :=
      ⟨h.returns, h.queued, h.event, fun hwaiting => by cases hwaiting⟩
    exact hforced.singleReturn (fun hsuccess => by cases hsuccess) fun _ hnone => by cases hnone
  | alert =>
    obtain ⟨⟨hwaiting, -⟩, hs⟩ := Option.ite_none_right_eq_some.mp hstep
    cases hs
    exact h.singleReturn (h.moved_of_alert hwaiting hkept) fun _ hnone => by cases hnone

end WoaRk3576.I2c
