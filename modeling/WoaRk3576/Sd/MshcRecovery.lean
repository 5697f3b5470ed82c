/-
# The error recovery of dwcmshc returns

A reset for data sends a stop command and may tune again; tuning sends commands, and a command that
fails asks for resets, one of them for data.  The circle is broken in two places, and each matters:

* **The flag.** `MshcExecuteTuning` clears `TuningPerformed` before it sends the first command, and
  only its own end sets it again.  So no reset inside of it retunes.
* **The reset that is asked for.** A command without data asks for the command reset only, and that
  one sends nothing; the stop command asks for none at all.

The depth that each function needs follows from the inside out, with what the inner functions leave
alone: the settings of the bus, the flag, and the transfer that is going on.  What remains is that
the loops end: the search moves on by at least one phase, and the transfer of a tuning block comes
to an end whatever part of it a FIFO threshold takes, as the length that remains is counted modulo
2^32.

For the latter, a length is used up in whole thresholds, modulo 2^32, if the power of two in the
threshold divides it; a block of 64 or 128 bytes and a threshold of at most half a FIFO leave room
for that, and the number of rounds is the bound (`Transferring`).  So even the transfer that wraps
below zero ends, after a very long time.  A threshold of 0 is the exception, and a FIFO of one word
has it: then nothing is taken off and no bound exists.

`recovery_bounded` is the result, for every answer the hardware gives.
-/
import Mathlib.Data.Int.GCD
import Mathlib.Data.Nat.Prime.Basic
import Mathlib.Tactic.Ring
import WoaRk3576.Sd.MshcBus

namespace WoaRk3576.Sd.Bus

/-! ## 1. What a recovery leaves alone

The settings are kept in the extension, so that it can be said at once that an operation leaves all
of them alone.  `Keeps` composes, and every part of the recovery is shown to be in it. -/

/-- All that bus operations set, but for the sample phase. -/
structure BusSettings where
  clock : MshcClock
  pwren : BitVec 32
  ctype : BitVec 32
  uhsReg : BitVec 32
  initialized : Bool
  busWidth : BusWidth
  busSpeed : BusSpeed
  signalingVoltage : SignalingVoltage
  deriving DecidableEq, Repr

def MshcBus.settings (s : MshcBus) : BusSettings :=
  ⟨{ s.toMshcClock with timingCon1 := 0 }, s.pwren, s.ctype, s.uhsReg, s.initialized, s.busWidth,
    s.busSpeed, s.signalingVoltage⟩

/-- **What every part of the recovery keeps**: the settings and the flag. -/
structure Keeps (s s' : MshcBus) : Prop where
  settings : s'.settings = s.settings
  tuningPerformed : s'.tuningPerformed = s.tuningPerformed

/-- What the parts keep that move no data. -/
structure KeepsTransfer (s s' : MshcBus) : Prop extends Keeps s s' where
  remaining : s'.currentTransferRemainingLength = s.currentTransferRemainingLength
  fifoThreshold : s'.fifoThreshold = s.fifoThreshold

theorem Keeps.refl (s : MshcBus) : Keeps s s := ⟨rfl, rfl⟩

theorem Keeps.trans {s s' s'' : MshcBus} (h : Keeps s s') (h' : Keeps s' s'') : Keeps s s'' :=
  ⟨h'.settings.trans h.settings, h'.tuningPerformed.trans h.tuningPerformed⟩

theorem KeepsTransfer.refl (s : MshcBus) : KeepsTransfer s s := ⟨⟨rfl, rfl⟩, rfl, rfl⟩

theorem KeepsTransfer.trans {s s' s'' : MshcBus} (h : KeepsTransfer s s')
    (h' : KeepsTransfer s' s'') : KeepsTransfer s s'' :=
  ⟨h.toKeeps.trans h'.toKeeps, h'.remaining.trans h.remaining,
    h'.fifoThreshold.trans h.fifoThreshold⟩

theorem countCrcErrors_keeps (s : MshcBus) (errors : Finset SdError) :
    KeepsTransfer s (s.countCrcErrors errors) := by
  unfold MshcBus.countCrcErrors
  split
  · exact ⟨⟨rfl, rfl⟩, rfl, rfl⟩
  · exact .refl s

theorem waitLocal_keeps (hw : Nat → HwAnswer) (status : NtStatus) (s : MshcBus) :
    KeepsTransfer s (waitLocal hw status s).2 := by
  unfold waitLocal
  dsimp only
  cases (hw s.tick).wait with
  | timeout => exact ⟨⟨rfl, rfl⟩, rfl, rfl⟩
  | completed errors busy removed =>
    have hcount := countCrcErrors_keeps ({ s with localRequestPending := false }.asked) errors
    exact ⟨⟨hcount.settings, hcount.tuningPerformed⟩, hcount.remaining, hcount.fifoThreshold⟩

/-- A request that was completed is not left with more to process, unless it was issued so. -/
theorem waitLocal_status (hw : Nat → HwAnswer) {status : NtStatus}
    (h : status ≠ .moreProcessingRequired) (s : MshcBus) :
    (waitLocal hw status s).1 ≠ .moreProcessingRequired := by
  unfold waitLocal
  dsimp only
  cases (hw s.tick).wait with
  | timeout => exact fun h => by cases h
  | completed errors busy removed =>
    dsimp only [completionStatus, mshcConvertStandardErrorToStatus]
    split_ifs <;> first | exact h | (intro h; cases h)

/-- A command without data moves none. -/
theorem runLocal_command_keeps (p : MshcSlot) (hw : Nat → HwAnswer) (command : LocalCommand)
    (h : command.isData = false) (s : MshcBus) :
    KeepsTransfer s (runLocal p hw (.command command) s).2 := by
  have hissue : KeepsTransfer s
      (issueCommand p command { s with localRequestPending := true }) := by
    unfold issueCommand
    dsimp only
    rw [if_neg (by simp [h])]
    exact ⟨⟨rfl, rfl⟩, rfl, rfl⟩
  exact hissue.trans (waitLocal_keeps hw .success _)

theorem resetController_keeps (p : MshcSlot) (hw : Nat → HwAnswer) (s : MshcBus) :
    KeepsTransfer s (resetController p hw s).2 := by
  unfold resetController
  dsimp only
  split
  · exact ⟨⟨rfl, rfl⟩, rfl, rfl⟩
  · split
    · exact ⟨⟨rfl, rfl⟩, rfl, rfl⟩
    · exact ⟨⟨rfl, rfl⟩, rfl, rfl⟩

/-! ## 2. The resets of the recovery

Two resets are asked for by the recovery.  The one for the command line returns after the
controller's reset bits; the one for data sends the stop command and may retune.  Where no tuning
was performed it does not, and this is the only case that comes up inside of a tuning. -/

/-- The stop command asks for no recovery. -/
theorem mshcSendStopCommand_eq (p : MshcSlot) (hw : Nat → HwAnswer) (depth : Nat)
    (s : MshcBus) :
    mshcSendStopCommand p hw (depth + 2) s = .ok (runLocal p hw (.command .stop) s) := rfl

/-- **The command reset** sends nothing. -/
theorem mshcResetHost_cmd (p : MshcSlot) (hw : Nat → HwAnswer) (depth : Nat) (s : MshcBus) :
    ∃ status s', mshcResetHost p hw (depth + 1) .cmd s = .ok (status, s')
      ∧ KeepsTransfer s s' := by
  have hreset := resetController_keeps p hw { s with outstandingRequest := none }
  unfold mshcResetHost
  dsimp only
  split
  · exact ⟨_, _, rfl, ⟨rfl, rfl⟩, rfl, rfl⟩
  · split
    · exact ⟨_, _, rfl, ⟨hreset.settings, hreset.tuningPerformed⟩, hreset.remaining,
        hreset.fifoThreshold⟩
    · rw [if_neg (by simp [MshcBus.retunes])]
      exact ⟨_, _, rfl, ⟨hreset.settings, hreset.tuningPerformed⟩, hreset.remaining,
        hreset.fifoThreshold⟩

/-- What the data reset does before it may retune: the stop command, then the controller. -/
def stopAndReset (p : MshcSlot) (hw : Nat → HwAnswer) (s : MshcBus) : Bool × MshcBus :=
  resetController p hw (runLocal p hw (.command .stop) { s with outstandingRequest := none }).2

theorem stopAndReset_keeps (p : MshcSlot) (hw : Nat → HwAnswer) (s : MshcBus) :
    KeepsTransfer s (stopAndReset p hw s).2 := by
  have hstart : KeepsTransfer s { s with outstandingRequest := none } := ⟨⟨rfl, rfl⟩, rfl, rfl⟩
  have hstop := runLocal_command_keeps p hw .stop rfl
    { s with outstandingRequest := none }
  exact (hstart.trans hstop).trans (resetController_keeps p hw _)

theorem retunes_of_not_performed {s : MshcBus} (h : s.tuningPerformed = false)
    (resetType : ResetType) : s.retunes resetType = false := by
  unfold MshcBus.retunes
  rw [h, Bool.and_false, Bool.false_and]

theorem mshcResetHost_dat_eq (p : MshcSlot) (hw : Nat → HwAnswer) (depth : Nat) (s : MshcBus) :
    mshcResetHost p hw (depth + 3) .dat s
      = if (stopAndReset p hw s).1 = false then .ok (.ioTimeout, (stopAndReset p hw s).2)
        else if (stopAndReset p hw s).2.retunes .dat then
          match mshcExecuteTuning p hw (depth + 2) (stopAndReset p hw s).2 with
          | .error fault => .error fault
          | .ok (_, s) => .ok (.success, s)
        else .ok (.success, (stopAndReset p hw s).2) := by
  unfold mshcResetHost
  dsimp only
  rw [if_neg (by simp [resetReturnsEarly]), mshcSendStopCommand_eq]
  rfl

/-- **The data reset where no tuning was performed** sends the stop command and no other. -/
theorem mshcResetHost_dat (p : MshcSlot) (hw : Nat → HwAnswer) (depth : Nat) {s : MshcBus}
    (htuning : s.tuningPerformed = false) :
    ∃ status s', mshcResetHost p hw (depth + 3) .dat s = .ok (status, s')
      ∧ KeepsTransfer s s' := by
  have hkeeps := stopAndReset_keeps p hw s
  have hflag := hkeeps.tuningPerformed.trans htuning
  rw [mshcResetHost_dat_eq]
  split
  · exact ⟨_, _, rfl, hkeeps⟩
  · rw [retunes_of_not_performed hflag]
    exact ⟨_, _, rfl, hkeeps⟩

/-! ## 3. The driver's own commands

A command without data asks for the first reset only.  One with data asks for both, with the flag
clear, so nothing below it tunes; this closes the circle. -/

/-- A reset through `MshcSlotIssueBusOperation` is refused or carried out. -/
theorem issue_reset_keeps {p : MshcSlot} {hw : Nat → HwAnswer} {depth : Nat}
    {resetType : ResetType} {s : MshcBus}
    (h : ∃ status s', mshcResetHost p hw depth resetType s = .ok (status, s')
      ∧ KeepsTransfer s s') :
    ∃ status s', mshcSlotIssueBusOperation p hw (depth + 1) (.resetHost resetType) s
        = .ok (status, s') ∧ KeepsTransfer s s' := by
  unfold mshcSlotIssueBusOperation
  split
  · exact ⟨_, _, rfl, .refl s⟩
  · exact h

/-- **A command without data**: its recovery is the command reset. -/
theorem sync_command (p : MshcSlot) (hw : Nat → HwAnswer) (depth : Nat)
    {command : LocalCommand} (hdata : command.isData = false) (s : MshcBus) :
    ∃ status s', mshcIssueRequestSynchronously p hw (depth + 3) (.command command) true s
        = .ok (status, s') ∧ KeepsTransfer s s' := by
  have hrun := runLocal_command_keeps p hw _ hdata s
  unfold mshcIssueRequestSynchronously
  dsimp only
  split
  · obtain ⟨status, s', hreset, hkeeps⟩ := issue_reset_keeps
      (mshcResetHost_cmd p hw depth (runLocal p hw (.command command) s).2)
    have hnone : ¬ (LocalRequest.command command).isData = true := by
      rw [LocalRequest.isData, hdata]
      exact Bool.false_ne_true
    rw [hreset]
    dsimp only
    rw [if_neg hnone]
    exact ⟨_, _, rfl, hrun.trans hkeeps⟩
  · exact ⟨_, _, rfl, hrun⟩

/-- **A command with data while no tuning was performed**: both resets are asked for, and what
the command left of its transfer stays. -/
theorem sync_data (p : MshcSlot) (hw : Nat → HwAnswer) (depth : Nat) (request : LocalRequest)
    {s : MshcBus} (htuning : (runLocal p hw request s).2.tuningPerformed = false) :
    ∃ s', mshcIssueRequestSynchronously p hw (depth + 5) request true s
        = .ok ((runLocal p hw request s).1, s')
      ∧ KeepsTransfer (runLocal p hw request s).2 s' := by
  unfold mshcIssueRequestSynchronously
  dsimp only
  split
  · obtain ⟨_, s', hcmd, hkeeps⟩ := issue_reset_keeps
      (mshcResetHost_cmd p hw (depth + 2) (runLocal p hw request s).2)
    rw [hcmd]
    dsimp only
    split
    · obtain ⟨_, s'', hdat, hkeeps'⟩ := issue_reset_keeps
        (mshcResetHost_dat p hw depth (hkeeps.tuningPerformed.trans htuning))
      rw [hdat]
      exact ⟨s'', rfl, hkeeps.trans hkeeps'⟩
    · exact ⟨s', rfl, hkeeps⟩
  · exact ⟨_, rfl, .refl _⟩

theorem mshcSendStatusCommand_keeps (p : MshcSlot) (hw : Nat → HwAnswer) (depth : Nat)
    (s : MshcBus) :
    ∃ status s', mshcSendStatusCommand p hw (depth + 4) s = .ok (status, s')
      ∧ KeepsTransfer s s' :=
  sync_command p hw depth rfl s

/-! ## 4. The transfer of a tuning block

Every round takes a threshold off the length, also a round that failed, so what counts is when the
length is used up.  It is counted modulo 2^32 and may go below zero on the way. -/

/-- **A length is used up in whole thresholds**, modulo 2^32: the power of two in a threshold
that is not above the length divides it. -/
theorem rounds_exist {exponent : Nat} (threshold : Nat) (hpos : 0 < threshold)
    (hle : threshold ≤ 2 ^ exponent) (hexp : exponent ≤ 5) :
    ∃ rounds, rounds + 1 < 2 ^ 32
      ∧ 4 * 2 ^ exponent % 2 ^ 32 = threshold * 4 * (rounds + 1) % 2 ^ 32 := by
  obtain ⟨j, -, hgcd⟩ :=
    (Nat.dvd_prime_pow Nat.prime_two).mp (Nat.gcd_dvd_right threshold (2 ^ 30))
  have hj : 2 ^ j ≤ 2 ^ exponent := hgcd ▸ (Nat.gcd_le_left _ hpos).trans hle
  have hjle : j ≤ exponent := (Nat.pow_le_pow_iff_right (by omega)).mp hj
  have hsmall : 2 ^ exponent < 2 ^ 30 := Nat.pow_lt_pow_right (by omega) (by omega)
  obtain ⟨m, -, hm⟩ := Nat.exists_mul_mod_eq_gcd (n := threshold) (k := 2 ^ 30)
    (hgcd ▸ hj.trans_lt hsmall)
  rw [hgcd] at hm
  have hrounds : threshold * (m * 2 ^ (exponent - j) % 2 ^ 30) % 2 ^ 30 = 2 ^ exponent := by
    calc threshold * (m * 2 ^ (exponent - j) % 2 ^ 30) % 2 ^ 30
        = threshold * m % 2 ^ 30 * 2 ^ (exponent - j) % 2 ^ 30 := by
          rw [Nat.mul_mod_mod, ← Nat.mul_assoc, Nat.mod_mul_mod]
      _ = 2 ^ exponent % 2 ^ 30 := by rw [hm, ← Nat.pow_add, Nat.add_sub_cancel' hjle]
      _ = 2 ^ exponent := Nat.mod_eq_of_lt hsmall
  generalize hk : m * 2 ^ (exponent - j) % 2 ^ 30 = k at hrounds
  have hklt : k < 2 ^ 30 := hk ▸ Nat.mod_lt _ (by omega)
  have hkpos : k ≠ 0 := by
    rintro rfl
    rw [Nat.mul_zero, Nat.zero_mod] at hrounds
    exact absurd hrounds.symm (Nat.two_pow_pos exponent).ne'
  obtain ⟨rounds, rfl⟩ := Nat.exists_eq_succ_of_ne_zero hkpos
  have hword : 4 * 2 ^ 30 = 2 ^ 32 := by decide
  refine ⟨rounds, by omega, ?_⟩
  calc 4 * 2 ^ exponent % 2 ^ 32 = 4 * 2 ^ exponent := Nat.mod_eq_of_lt (by omega)
    _ = 4 * (threshold * (rounds + 1) % (2 ^ 30)) := by rw [← hrounds]
    _ = 4 * (threshold * (rounds + 1)) % (4 * 2 ^ 30) := (Nat.mul_mod_mul_left _ _ _).symm
    _ = threshold * 4 * (rounds + 1) % 2 ^ 32 := by
      rw [← Nat.mul_assoc, Nat.mul_comm 4 threshold, hword]

/-- A part of the transfer: one threshold less remains, and with nothing left the status does not
say that there is more. -/
theorem runLocal_transfer (p : MshcSlot) (hw : Nat → HwAnswer) (s : MshcBus) :
    Keeps s (runLocal p hw .transfer s).2
      ∧ (runLocal p hw .transfer s).2.fifoThreshold = s.fifoThreshold
      ∧ (runLocal p hw .transfer s).2.currentTransferRemainingLength
        = s.currentTransferRemainingLength - BitVec.ofNat 32 (s.fifoThreshold * 4)
      ∧ (s.currentTransferRemainingLength = BitVec.ofNat 32 (s.fifoThreshold * 4) →
        (runLocal p hw .transfer s).1 ≠ .moreProcessingRequired) := by
  have hwait := waitLocal_keeps hw (issueTransfer { s with localRequestPending := true }).1
    (issueTransfer { s with localRequestPending := true }).2
  refine ⟨⟨hwait.settings, hwait.tuningPerformed⟩, hwait.fifoThreshold, hwait.remaining, ?_⟩
  intro hlast
  have hissued : (issueTransfer { s with localRequestPending := true }).1
      ≠ .moreProcessingRequired := by
    dsimp only [issueTransfer]
    rw [if_neg (by rw [hlast]; simp)]
    exact fun h => by cases h
  exact waitLocal_status hw hissued _

/-- **What the loop over the transfer keeps**: so many rounds to go, of the same threshold. -/
structure Transferring (start : MshcBus) (threshold rounds : Nat) (s : MshcBus) : Prop
    extends Keeps start s where
  notTuned : s.tuningPerformed = false
  fifoThreshold : s.fifoThreshold = threshold
  remaining : s.currentTransferRemainingLength = BitVec.ofNat 32 (threshold * 4 * rounds)

theorem Transferring.next (p : MshcSlot) (hw : Nat → HwAnswer) (depth : Nat)
    {start s : MshcBus} {threshold rounds : Nat} (h : Transferring start threshold (rounds + 1) s) :
    ∃ status s', mshcIssueRequestSynchronously p hw (depth + 5) .transfer true s
        = .ok (status, s') ∧ Transferring start threshold rounds s'
      ∧ (rounds = 0 → status ≠ .moreProcessingRequired) := by
  obtain ⟨hkeeps, hthreshold, hremaining, hlast⟩ := runLocal_transfer p hw s
  obtain ⟨s', hsync, hafter⟩ := sync_data p hw depth .transfer
    (hkeeps.tuningPerformed.trans h.notTuned)
  have hall := (h.toKeeps.trans hkeeps).trans hafter.toKeeps
  have hless : s'.currentTransferRemainingLength = BitVec.ofNat 32 (threshold * 4 * rounds) := by
    rw [hafter.remaining, hremaining, h.remaining, h.fifoThreshold, Nat.mul_succ,
      BitVec.ofNat_add, BitVec.add_sub_cancel]
  refine ⟨_, s', hsync, ⟨hall, ?_, ?_, hless⟩, ?_⟩
  · exact (hafter.tuningPerformed.trans hkeeps.tuningPerformed).trans h.notTuned
  · exact (hafter.fifoThreshold.trans hthreshold).trans h.fifoThreshold
  · rintro rfl
    refine hlast ?_
    rw [h.remaining, h.fifoThreshold, Nat.zero_add, Nat.mul_one]

/-- **The loop over the transfer ends** where a whole number of thresholds makes up the
length. -/
theorem transferLoop_ends (p : MshcSlot) (hw : Nat → HwAnswer) (depth rounds : Nat)
    {start : MshcBus} {threshold fuel : Nat} {s : MshcBus} (hfuel : rounds < fuel)
    (h : Transferring start threshold (rounds + 1) s) :
    ∃ status s', transferLoop
        (fun s => mshcIssueRequestSynchronously p hw (depth + 5) .transfer true s) fuel s
        = .ok (status, s') ∧ Keeps start s' := by
  induction rounds generalizing fuel s with
  | zero =>
    obtain ⟨fuel, rfl⟩ := Nat.exists_eq_add_of_lt hfuel
    obtain ⟨status, s', hissue, hnext, hlast⟩ := h.next p hw depth
    rw [transferLoop, hissue]
    dsimp only
    rw [if_neg (hlast rfl)]
    exact ⟨status, s', rfl, hnext.toKeeps⟩
  | succ rounds ih =>
    obtain ⟨fuel, rfl⟩ := Nat.exists_eq_add_of_lt hfuel
    obtain ⟨status, s', hissue, hnext, -⟩ := h.next p hw depth
    rw [transferLoop, hissue]
    dsimp only
    split
    · exact ih (by omega) hnext
    · exact ⟨status, s', rfl, hnext.toKeeps⟩

/-- Without that it returns, or it goes on. -/
theorem transferLoop_goes_on (p : MshcSlot) (hw : Nat → HwAnswer) (depth : Nat)
    {start : MshcBus} (fuel : Nat) {s : MshcBus} (hkeeps : Keeps start s)
    (htuning : start.tuningPerformed = false) :
    (∃ status s', transferLoop
        (fun s => mshcIssueRequestSynchronously p hw (depth + 5) .transfer true s) fuel s
        = .ok (status, s') ∧ Keeps start s')
      ∨ transferLoop
        (fun s => mshcIssueRequestSynchronously p hw (depth + 5) .transfer true s) fuel s
        = .error .endless := by
  induction fuel generalizing s with
  | zero => exact .inr rfl
  | succ fuel ih =>
    have hrun := hkeeps.trans (runLocal_transfer p hw s).1
    obtain ⟨s', hsync, hafter⟩ := sync_data p hw depth .transfer
      (hrun.tuningPerformed.trans htuning)
    have hall := hrun.trans hafter.toKeeps
    rw [transferLoop, hsync]
    dsimp only
    split
    · exact ih hall
    · exact .inl ⟨_, s', rfl, hall⟩

/-! ## 5. Tuning

The flag is cleared before the first command and is clear until the end, so every command of the
search is one of those above.  The search itself moves on by a phase or more each time. -/

/-- **An operation returns** in a state that meets `P`, unless the FIFO holds less than two words
and a transfer goes on. -/
def Returns (p : MshcSlot) (P : MshcBus → Prop) (r : MshcResult) : Prop :=
  (∃ status s, r = .ok (status, s) ∧ P s) ∨ (r = .error .endless ∧ p.fifoDepth < 2)

theorem Returns.mono {p : MshcSlot} {P Q : MshcBus → Prop} {r : MshcResult}
    (h : Returns p P r) (hPQ : ∀ s, P s → Q s) : Returns p Q r := by
  rcases h with ⟨status, s, hr, hP⟩ | hendless
  · exact .inl ⟨status, s, hr, hPQ s hP⟩
  · exact .inr hendless

theorem tuningLength_eq (s : MshcBus) : ∃ exponent ≤ 5, s.tuningLength = 4 * 2 ^ exponent := by
  unfold MshcBus.tuningLength
  split
  · exact ⟨5, le_rfl, rfl⟩
  · exact ⟨4, by omega, rfl⟩

/-- The tuning command starts a transfer of the whole block. -/
theorem runLocal_tuning (p : MshcSlot) (hw : Nat → HwAnswer) (s : MshcBus) :
    Keeps s (runLocal p hw (.command .tuning) s).2
      ∧ (runLocal p hw (.command .tuning) s).2.fifoThreshold
        = min (s.tuningLength / 4) p.optimalFifoThreshold
      ∧ (runLocal p hw (.command .tuning) s).2.currentTransferRemainingLength
        = BitVec.ofNat 32 s.tuningLength := by
  have hwait := waitLocal_keeps hw .success
    (issueCommand p .tuning { s with localRequestPending := true })
  exact ⟨⟨hwait.settings, hwait.tuningPerformed⟩, hwait.fifoThreshold, hwait.remaining⟩

/-- **`MshcSendTuningCommand`** while no tuning was performed. -/
theorem mshcSendTuningCommand_returns (p : MshcSlot) (hw : Nat → HwAnswer) (depth : Nat)
    {s : MshcBus} (htuning : s.tuningPerformed = false) :
    Returns p (Keeps s) (mshcSendTuningCommand p hw (depth + 6) s) := by
  obtain ⟨hkeeps, hthreshold, hremaining⟩ := runLocal_tuning p hw s
  obtain ⟨s₁, hsync, hafter⟩ := sync_data p hw depth (.command .tuning)
    (hkeeps.tuningPerformed.trans htuning)
  have hall := hkeeps.trans hafter.toKeeps
  unfold mshcSendTuningCommand
  split
  · exact .inl ⟨_, s, rfl, .refl s⟩
  · rw [hsync]
    dsimp only
    split
    · exact .inl ⟨_, s₁, rfl, hall⟩
    · have hloop : Returns p (Keeps s) (transferLoop
          (fun s => mshcIssueRequestSynchronously p hw (depth + 5) .transfer true s)
          (2 ^ 32) s₁) := by
        by_cases hfifo : p.fifoDepth < 2
        · rcases transferLoop_goes_on p hw depth (2 ^ 32) hall htuning with hends | hendless
          · exact .inl hends
          · exact .inr ⟨hendless, hfifo⟩
        · obtain ⟨exponent, hexp, hlength⟩ := tuningLength_eq s
          have hpow := Nat.two_pow_pos exponent
          rw [hlength, Nat.mul_div_cancel_left _ (by omega)] at hthreshold
          obtain ⟨rounds, hrounds, hmod⟩ := rounds_exist
            (min (2 ^ exponent) p.optimalFifoThreshold)
            (by unfold MshcSlot.optimalFifoThreshold; omega) (min_le_left _ _) hexp
          refine .inl (transferLoop_ends p hw depth rounds (by omega)
            ⟨hall, hall.tuningPerformed.trans htuning, hafter.fifoThreshold.trans hthreshold, ?_⟩)
          rw [hafter.remaining, hremaining, hlength]
          exact BitVec.eq_of_toNat_eq hmod
      rcases hloop with ⟨status, s₂, hends, hkeeps₂⟩ | ⟨hendless, hfifo⟩
      · rw [hends]
        dsimp only
        split
        · exact .inl ⟨_, s₂, rfl, hkeeps₂⟩
        · exact .inl ⟨_, _, rfl, hkeeps₂.settings, hkeeps₂.tuningPerformed⟩
      · rw [hendless]
        exact .inr ⟨rfl, hfifo⟩

/-- Setting the sample phase goes wrong nowhere, and changes nothing else. -/
theorem mshcRk3576SetPhase_sample (c : MshcClock) (degrees : Nat) :
    ∃ ok con1, mshcRk3576SetPhase c true degrees = .ok (ok, { c with timingCon1 := con1 }) := by
  unfold mshcRk3576SetPhase
  dsimp only
  split
  · exact ⟨false, c.timingCon1, rfl⟩
  · have hne : c.rkCardClockHz / 1000 * 36 * (60 / 10) ≠ 0 := by omega
    simp only [bind, Except.bind]
    rw [divULong_ok _ hne]
    exact ⟨true, _, rfl⟩

/-- Each phase that was tried moves the search on, and not beyond the last. -/
theorem PhaseSearch.record_index (t : PhaseSearch) (h : t.index < numPhases) (ok : Bool) :
    t.index < (t.record ok).index ∧ (t.record ok).index ≤ numPhases := by
  have hskip : phaseToRangeIndex badPhasesToSkip = 20 := by decide
  unfold PhaseSearch.record
  rw [hskip]
  unfold numPhases at h ⊢
  dsimp only
  split
  · dsimp only
    omega
  · split
    · dsimp only
      omega
    · dsimp only
      split <;> omega

section Search

variable {p : MshcSlot} {send : MshcBus → MshcResult} {start : MshcBus}

/-- **One phase**: the search moves on, and the settings stay. -/
theorem tryPhase_returns (hsend : ∀ s, Keeps start s → Returns p (Keeps s) (send s))
    {t : PhaseSearch} (ht : t.index < numPhases) {s : MshcBus} (hs : Keeps start s) :
    (∃ t' s', tryPhase send t s = .ok (t', s') ∧ t.index < t'.index ∧ t'.index ≤ numPhases
        ∧ Keeps start s')
      ∨ (tryPhase send t s = .error .endless ∧ p.fifoDepth < 2) := by
  obtain ⟨ok, con1, hset⟩ := mshcRk3576SetPhase_sample s.toMshcClock (rangeIndexToPhase t.index)
  have hphase : Keeps start { s with timingCon1 := con1 } := hs.trans ⟨rfl, rfl⟩
  unfold tryPhase
  rw [hset]
  cases ok with
  | false =>
    obtain ⟨hlt, hle⟩ := t.record_index ht false
    exact .inl ⟨_, _, rfl, hlt, hle, hphase⟩
  | true =>
    dsimp only
    rcases hsend _ hphase with ⟨status, s', hsent, hkeeps⟩ | ⟨hendless, hfifo⟩
    · obtain ⟨hlt, hle⟩ := t.record_index ht status.ntSuccess
      rw [hsent]
      exact .inl ⟨_, s', rfl, hlt, hle, hphase.trans hkeeps⟩
    · rw [hendless]
      exact .inr ⟨rfl, hfifo⟩

/-- **The search ends**, by induction on the phases that may still be tried. -/
theorem tryPhases_returns (hsend : ∀ s, Keeps start s → Returns p (Keeps s) (send s))
    (fuel : Nat) {t : PhaseSearch} (ht : t.index ≤ numPhases)
    (hfuel : numPhases < t.index + fuel) {s : MshcBus} (hs : Keeps start s) :
    (∃ t' s', tryPhases send fuel t s = .ok (t', s') ∧ Keeps start s')
      ∨ (tryPhases send fuel t s = .error .endless ∧ p.fifoDepth < 2) := by
  induction fuel generalizing t s with
  | zero => omega
  | succ fuel ih =>
    rw [tryPhases]
    split
    · rename_i hmore
      rcases tryPhase_returns hsend hmore hs with
        ⟨t', s', htried, hlt, hle, hkeeps⟩ | ⟨hendless, hfifo⟩
      · rw [htried]
        exact ih hle (by omega) hkeeps
      · rw [hendless]
        exact .inr ⟨rfl, hfifo⟩
    · exact .inl ⟨t, s, rfl, hs⟩

theorem programPhase_returns (t : PhaseSearch) {s : MshcBus} (hs : Keeps start s) :
    ∃ status s', programPhase t s = .ok (status, s') ∧ Keeps start s' := by
  unfold programPhase
  cases chosenPhase t with
  | none => exact ⟨_, s, rfl, hs⟩
  | some phase =>
    obtain ⟨ok, con1, hset⟩ := mshcRk3576SetPhase_sample s.toMshcClock phase
    dsimp only
    rw [hset]
    exact ⟨_, _, rfl, hs.trans ⟨rfl, rfl⟩⟩

end Search

/-- **`MshcExecuteTuning`**, in whatever state: the flag is clear before the first command. -/
theorem mshcExecuteTuning_returns (p : MshcSlot) (hw : Nat → HwAnswer) (depth : Nat)
    (s : MshcBus) :
    Returns p (fun s' => s'.settings = s.settings) (mshcExecuteTuning p hw (depth + 8) s) := by
  have hsend : ∀ s',
      Keeps { s with tuningPerformed := false, dataCrcErrorsSinceLastTuning := 0 } s' →
      Returns p (Keeps s') (mshcSendTuningCommand p hw (depth + 6) s') := by
    intro s' hkeeps
    exact mshcSendTuningCommand_returns p hw depth hkeeps.tuningPerformed
  unfold mshcExecuteTuning
  dsimp only
  unfold mshcRockchipExecuteTuning
  rcases tryPhases_returns hsend (numPhases + 1) (t := .start) (Nat.zero_le _)
    (by dsimp only [PhaseSearch.start]; omega) (.refl _) with
    ⟨t, s₁, hsearch, hkeeps⟩ | ⟨hendless, hfifo⟩
  · obtain ⟨status, s₂, hprogram, hkeeps₂⟩ := programPhase_returns t hkeeps
    rw [hsearch]
    dsimp only
    rw [hprogram]
    exact .inl ⟨_, _, rfl, hkeeps₂.settings⟩
  · rw [hendless]
    exact .inr ⟨rfl, hfifo⟩

/-! ## 6. The bus operations

Put together from the inside out: each needs the depth of what it calls and one more. -/

/-- **The data reset** in whatever state. -/
theorem mshcResetHost_dat_returns (p : MshcSlot) (hw : Nat → HwAnswer) (depth : Nat)
    (s : MshcBus) :
    Returns p (fun s' => s'.settings = s.settings) (mshcResetHost p hw (depth + 9) .dat s) := by
  have hkeeps := stopAndReset_keeps p hw s
  rw [mshcResetHost_dat_eq]
  split
  · exact .inl ⟨_, _, rfl, hkeeps.settings⟩
  · split
    · rcases mshcExecuteTuning_returns p hw depth (stopAndReset p hw s).2 with
        ⟨status, s', htuned, hsettings⟩ | ⟨hendless, hfifo⟩
      · rw [htuned]
        exact .inl ⟨_, s', rfl, hsettings.trans hkeeps.settings⟩
      · rw [hendless]
        exact .inr ⟨rfl, hfifo⟩
    · exact .inl ⟨_, _, rfl, hkeeps.settings⟩

/-- **The switch to 3.3 V**: the card stays where it is, or the switch is made after a status
command that failed. -/
theorem mshcSetSignalingVoltage_33 (p : MshcSlot) (hw : Nat → HwAnswer) (depth : Nat)
    (s : MshcBus) :
    ∃ s₁, s₁.settings = s.settings
      ∧ (mshcSetSignalingVoltage p hw (depth + 5) .v33 s = .ok (.success, s₁)
        ∨ mshcSetSignalingVoltage p hw (depth + 5) .v33 s = .ok (switchTo33 p s₁)) := by
  unfold mshcSetSignalingVoltage
  dsimp only
  split
  · obtain ⟨status, s₁, hsent, hkeeps⟩ := mshcSendStatusCommand_keeps p hw depth s
    rw [hsent]
    dsimp only
    split
    · exact ⟨s₁, hkeeps.settings, .inl rfl⟩
    · exact ⟨s₁, hkeeps.settings, .inr rfl⟩
  · exact ⟨s, rfl, .inr rfl⟩

/-- A clock of zero is set without any arithmetic. -/
theorem mshcBusSetClock_zero (p : MshcSlot) (hw : Nat → HwAnswer) (s : MshcBus) :
    ∃ status clock, mshcBusSetClock p hw 0 s
      = .ok (status, { s with toMshcClock := clock, tick := s.tick + 3 }) := by
  unfold mshcBusSetClock mshcSetClock
  dsimp only
  split
  · rename_i fault hset
    split at hset <;> cases hset
  · exact ⟨_, _, rfl⟩

/-- The rest of a full reset: the clock goes off, and the bus is one bit wide. -/
theorem resetBus_eq (p : MshcSlot) (hw : Nat → HwAnswer) (s : MshcBus) :
    ∃ clock, resetBus p hw s = .ok
      { (mshcSetBusWidth p .width1Bit
          { s with toMshcClock := clock, tick := s.tick + 3 }).2 with
        ctrl := mshcCtrlIntEnable
        tmout := 0xffffffff } := by
  obtain ⟨status, clock, hset⟩ := mshcBusSetClock_zero p hw s
  unfold resetBus
  rw [hset]
  exact ⟨clock, rfl⟩

/-- **The full reset**: the controller does not end its reset, or the bus is reset after the
voltages, or without them in the crash dump mode. -/
theorem mshcResetHost_all (p : MshcSlot) (hw : Nat → HwAnswer) (depth : Nat) (s : MshcBus) :
    ∃ s₁, s₁.settings = s.settings
      ∧ (mshcResetHost p hw (depth + 6) .all s = .ok (.ioTimeout, s₁)
        ∨ ∃ s₂ s₃, (s₂ = s₁ ∨ s₂ = (switchTo33 p s₁).2) ∧ resetBus p hw s₂ = .ok s₃
          ∧ mshcResetHost p hw (depth + 6) .all s = .ok (.success, s₃)) := by
  have hreset := resetController_keeps p hw { s with outstandingRequest := none }
  unfold mshcResetHost
  dsimp only
  rw [if_neg (by simp [resetReturnsEarly])]
  generalize resetController p hw _ = reset at hreset ⊢
  by_cases hended : reset.1 = false
  · rw [if_pos hended]
    exact ⟨reset.2, hreset.settings, .inl rfl⟩
  rw [if_neg hended]
  by_cases hcrashdump : p.crashdumpMode = true
  · obtain ⟨clock, hbus⟩ := resetBus_eq p hw reset.2
    refine ⟨reset.2, hreset.settings, .inr ⟨_, _, .inl rfl, hbus, ?_⟩⟩
    rw [if_pos hcrashdump, hbus]
    rfl
  · obtain ⟨s₁, hsettings, hcase⟩ := mshcSetSignalingVoltage_33 p hw depth
      (mshcSetVoltage p .off reset.2).2
    refine ⟨s₁, hsettings.trans hreset.settings, .inr ?_⟩
    rw [if_neg hcrashdump]
    rcases hcase with hstays | hswitch
    · obtain ⟨clock, hbus⟩ := resetBus_eq p hw s₁
      refine ⟨_, _, .inl rfl, hbus, ?_⟩
      rw [hstays]
      dsimp only
      rw [hbus]
      rfl
    · obtain ⟨clock, hbus⟩ := resetBus_eq p hw (switchTo33 p s₁).2
      refine ⟨_, _, .inr rfl, hbus, ?_⟩
      rw [hswitch]
      dsimp only
      rw [hbus]
      rfl

/-- **Every reset returns**, whatever its type. -/
theorem mshcResetHost_returns (p : MshcSlot) (hw : Nat → HwAnswer) (depth : Nat)
    (resetType : ResetType) (s : MshcBus) :
    Returns p (fun _ => True) (mshcResetHost p hw (depth + 9) resetType s) := by
  cases resetType with
  | all =>
    obtain ⟨s₁, -, hcase⟩ := mshcResetHost_all p hw (depth + 3) s
    rcases hcase with htimeout | ⟨s₂, s₃, -, -, hreset⟩
    · exact .inl ⟨_, _, htimeout, trivial⟩
    · exact .inl ⟨_, _, hreset, trivial⟩
  | cmd =>
    obtain ⟨status, s', hreset, -⟩ := mshcResetHost_cmd p hw (depth + 8) s
    exact .inl ⟨status, s', hreset, trivial⟩
  | dat => exact (mshcResetHost_dat_returns p hw depth s).mono fun _ _ => trivial

/-- **Every bus operation returns**, but for the arithmetic of the clock. -/
theorem mshcSlotIssueBusOperation_returns (p : MshcSlot) (hw : Nat → HwAnswer) (depth : Nat)
    (operation : BusOperation) (s : MshcBus) :
    Returns p (fun _ => True) (mshcSlotIssueBusOperation p hw (depth + 10) operation s)
      ∨ ∃ frequencyKhz fault, operation = .setClock frequencyKhz
        ∧ mshcSlotIssueBusOperation p hw (depth + 10) operation s = .error (.clock fault) := by
  unfold mshcSlotIssueBusOperation
  split
  · exact .inl (.inl ⟨_, s, rfl, trivial⟩)
  cases operation with
  | resetHost resetType => exact .inl (mshcResetHost_returns p hw depth resetType s)
  | setClock frequencyKhz =>
    dsimp only [mshcBusSetClock]
    cases mshcSetClock p.toMshcPlatform s.busSpeed
        (fun i => (hw (s.tick + i)).ciuUpdateClock) s.toMshcClock frequencyKhz with
    | error fault => exact .inr ⟨frequencyKhz, fault, rfl, rfl⟩
    | ok set => exact .inl (.inl ⟨_, _, rfl, trivial⟩)
  | setVoltage voltage => exact .inl (.inl ⟨_, _, rfl, trivial⟩)
  | setBusWidth width => exact .inl (.inl ⟨_, _, rfl, trivial⟩)
  | setBusSpeed speed => exact .inl (.inl ⟨_, _, rfl, trivial⟩)
  | setSignalingVoltage voltage =>
    cases voltage with
    | undefined => exact .inl (.inl ⟨_, s, rfl, trivial⟩)
    | v18 => exact .inl (.inl ⟨_, _, rfl, trivial⟩)
    | v33 =>
      obtain ⟨s₁, -, hstays | hswitch⟩ := mshcSetSignalingVoltage_33 p hw (depth + 4) s
      · exact .inl (.inl ⟨_, s₁, hstays, trivial⟩)
      · exact .inl (.inl ⟨_, _, hswitch, trivial⟩)
  | executeTuning =>
    exact .inl ((mshcExecuteTuning_returns p hw (depth + 1) s).mono fun _ _ => trivial)
  | unsupported => exact .inl (.inl ⟨_, s, rfl, trivial⟩)

theorem Returns.not_nested {p : MshcSlot} {P : MshcBus → Prop} {r : MshcResult}
    (h : Returns p P r) : r ≠ .error .nested := by
  rintro rfl
  rcases h with ⟨_, _, hr, -⟩ | ⟨hr, -⟩
  · cases hr
  · cases hr

theorem Returns.ok {p : MshcSlot} {P : MshcBus → Prop} {r : MshcResult} (h : Returns p P r)
    (hfifo : 2 ≤ p.fifoDepth) : ∃ end', r = .ok end' := by
  rcases h with ⟨status, s, hr, -⟩ | ⟨-, hsmall⟩
  · exact ⟨_, hr⟩
  · omega

/-- **The error recovery is bounded**, whatever fails: no bus operation nests deeper than ten
calls and no reset deeper than nine.  A reset inside of a tuning, where the flag is clear, takes
three calls, which is too few to tune.  With a FIFO of two words or more all of them return (a
clock may fault in its own arithmetic). -/
theorem recovery_bounded (p : MshcSlot) (hw : Nat → HwAnswer) (depth : Nat) (s : MshcBus) :
    (∀ operation,
      mshcSlotIssueBusOperation p hw (depth + 10) operation s ≠ .error .nested)
    ∧ (∀ resetType, mshcResetHost p hw (depth + 9) resetType s ≠ .error .nested)
    ∧ (s.tuningPerformed = false → ∀ resetType, resetType ≠ .all →
      ∃ end', mshcResetHost p hw (depth + 3) resetType s = .ok end')
    ∧ (2 ≤ p.fifoDepth →
      (∀ operation,
        (∃ end', mshcSlotIssueBusOperation p hw (depth + 10) operation s = .ok end')
        ∨ ∃ frequencyKhz fault, operation = .setClock frequencyKhz
          ∧ mshcSlotIssueBusOperation p hw (depth + 10) operation s = .error (.clock fault))
      ∧ ∀ resetType, ∃ end', mshcResetHost p hw (depth + 9) resetType s = .ok end') := by
  refine ⟨?_, ?_, ?_, ?_⟩
  · intro operation
    rcases mshcSlotIssueBusOperation_returns p hw depth operation s with
      hreturns | ⟨_, fault, -, hfault⟩
    · exact hreturns.not_nested
    · rw [hfault]
      exact fun h => by cases h
  · intro resetType
    exact (mshcResetHost_returns p hw depth resetType s).not_nested
  · intro htuning resetType htype
    cases resetType with
    | all => exact absurd rfl htype
    | cmd =>
      obtain ⟨status, s', hreset, -⟩ := mshcResetHost_cmd p hw (depth + 2) s
      exact ⟨_, hreset⟩
    | dat =>
      obtain ⟨status, s', hreset, -⟩ := mshcResetHost_dat p hw depth htuning
      exact ⟨_, hreset⟩
  · intro hfifo
    refine ⟨?_, ?_⟩
    · intro operation
      exact (mshcSlotIssueBusOperation_returns p hw depth operation s).imp_left
        fun hreturns => hreturns.ok hfifo
    · intro resetType
      exact (mshcResetHost_returns p hw depth resetType s).ok hfifo

/-- A slot at SDR104 that was tuned, and has seen ten data CRC errors since. -/
def tunedBus : MshcBus where
  clkena := 0x00010001
  clksrc := 0
  clkdiv := 0
  timingCon0 := 0
  timingCon1 := 0
  rkCruClkSel := some 0
  rkCardClockHz := 200000000
  baseClockFrequencyKhz := 208000
  busFrequencyKhz := 208000
  pwren := 1
  ctype := 1
  uhsReg := 0
  ctrl := 0x10
  bmod := 0
  tmout := 0xffffffff
  initialized := true
  busWidth := .width4Bit
  busSpeed := .sdr104
  signalingVoltage := .v33
  cardInitialized := true
  cardPowerControlSupported := false
  tuningPerformed := true
  dataCrcErrorsSinceLastTuning := 10
  outstandingRequest := none
  localRequestPending := false
  currentTransferRemainingLength := 0
  fifoThreshold := 128
  tick := 0

/-- Hardware that can be reset, and on which every command times out. -/
def deadHw : HwAnswer := ⟨true, true, 0, .timeout, false⟩

/-- A data reset that retunes, on such hardware and a FIFO of 256 words. -/
theorem recovery_bounded_dead :
    ∃ end', mshcResetHost ⟨⟨0, 0, false, some 0⟩, true, 256⟩ (fun _ => deadHw) 9 .dat tunedBus
      = .ok end' :=
  (recovery_bounded ⟨⟨0, 0, false, some 0⟩, true, 256⟩ (fun _ => deadHw) 0 tunedBus).2.2.2
    (by decide) |>.2 .dat

end WoaRk3576.Sd.Bus
