/-
# The reset of dwc_eqos: `DeviceReset`

`DeviceReset` sets the software-reset bit of `Dma_Mode` and polls the register every 20 µs until
the device clears it.  The loop runs until `retry` is 1000, from 0, and takes one off each time: it
passes through the whole word, and a device that stays in reset is polled 4294966296 times
(`resetPolls`), for almost a day.

* `deviceReset_polled`: what the loop comes to, for every sequence of values read;
* `deviceReset_bounded_iff`: the thousand polls are kept exactly where one of the first thousand
  values has the bit clear.

`retry` is the number of values read, negated, so it is 1000 after `2 ^ 32 - 1000` of them and not
before (`neg_eq_resetMaxRetry_iff`).  With this the loop is one that polls up to a bound and stops
at the first value that is ready (`Lib/Polling.lean`), though not with the bound that was meant.
Its answer is right for any number of polls: it is a success if and only if one of the values that
were read has the bit clear (`deviceReset_success_iff`), and the address is written in this case
only.
-/
import Mathlib.Data.BitVec
import Mathlib.Tactic.IntervalCases
import WoaRk3576.Lib.Polling
import WoaRk3576.Lib.Lanes

namespace WoaRk3576.Net

open WoaRk3576.Lib

/-! ## 1. `SetOneMacAddress`

The address of the station goes into two registers behind the reset.  They are described by the
bytes of the address that they hold. -/

/-- The registers that are written. -/
inductive ResetReg
  | dmaMode
  | macAddressHigh (index : Nat)
  | macAddressLow (index : Nat)
  deriving DecidableEq, Repr

/-- `MacAddressHigh_t`: `Addr4`, `Addr5` and `AddressEnable`. -/
def macAddressHigh (addr : Fin 6 → BitVec 8) (enable : Bool) : BitVec 32 :=
  (addr 4).setWidth 32 ||| (addr 5).setWidth 32 <<< 8 ||| (BitVec.ofBool enable).setWidth 32 <<< 31

/-- `MacAddressLow_t`: `Addr0` to `Addr3`. -/
def macAddressLow (addr : Fin 6 → BitVec 8) : BitVec 32 :=
  (addr 0).setWidth 32 ||| (addr 1).setWidth 32 <<< 8 ||| (addr 2).setWidth 32 <<< 16
    ||| (addr 3).setWidth 32 <<< 24

/-- **`SetOneMacAddress`**: what it writes, in order. -/
def setOneMacAddress (index : Nat) (addr : Fin 6 → BitVec 8) (enable : Bool) :
    List (ResetReg × BitVec 32) :=
  [(.macAddressHigh index, macAddressHigh addr enable), (.macAddressLow index, macAddressLow addr)]

/-- **The registers hold the bytes of the address**, four in the low one and two in the high one. -/
theorem lane_macAddress (addr : Fin 6 → BitVec 8) (enable : Bool) (k : Fin 6) :
    lane (if k.val < 4 then macAddressLow addr else macAddressHigh addr enable) (k.val % 4)
      = addr k := by
  refine BitVec.eq_of_getLsbD_eq fun i hi => ?_
  obtain ⟨k, hk⟩ := k
  interval_cases k <;>
    simp (disch := omega) [lane, macAddressLow, macAddressHigh, BitVec.getLsbD_of_ge] <;> grind

/-! ## 2. `DeviceReset`

The loop counts `retry` down from 0 in 32 bits and compares it with a bound above it, so it goes
round almost once before it ends.  It is modelled with the count as it is, and how often the device
is asked is part of the result. -/

inductive ResetStatus
  | success
  | timeout
  deriving DecidableEq, Repr

/-- `retry`, and what the loop has done: `cleared` says that it returned from its body. -/
structure ResetPoll where
  retry : BitVec 32
  reads : Nat
  stalledUs : Nat
  cleared : Bool
  deriving DecidableEq, Repr

/-- The bound of the loop. -/
def resetMaxRetry : BitVec 32 := 1000

/-- The software-reset bit is clear. -/
def resetCleared (dmaMode : BitVec 32) : Bool := 0 == dmaMode &&& 1

/-- One iteration: `dmaMode i` is what the `i`-th read of `Dma_Mode` gives. -/
def resetPollStep (dmaMode : Nat → BitVec 32) (s : ResetPoll) : Option ResetPoll :=
  if s.cleared then none
  else if s.retry = resetMaxRetry then none
  else
    let value := dmaMode s.reads
    let s := { s with reads := s.reads + 1, stalledUs := s.stalledUs + 20 }
    if resetCleared value then some { s with cleared := true }
    else some { s with retry := s.retry - 1 }

/-- The loop; no word counts more than 2 ^ 32 steps. -/
def resetLoop (dmaMode : Nat → BitVec 32) : ResetPoll :=
  loop (resetPollStep dmaMode) (2 ^ 32)
    { retry := 0, reads := 0, stalledUs := 0, cleared := false }

/-- What a call of `DeviceReset` did. -/
structure DeviceResetRun where
  status : ResetStatus
  reads : Nat
  stalledUs : Nat
  writes : List (ResetReg × BitVec 32)
  deriving DecidableEq, Repr

/-- **`DeviceReset`**. -/
def deviceReset (mac0 : Fin 6 → BitVec 8) (dmaMode : Nat → BitVec 32) : DeviceResetRun :=
  let s := resetLoop dmaMode
  { status := if s.cleared then .success else .timeout
    reads := s.reads
    stalledUs := s.stalledUs
    writes := (.dmaMode, 1) :: if s.cleared then setOneMacAddress 0 mac0 true else [] }

/-! ## 3. What the loop comes to

The values of `retry` are the negatives of the counts, and the bound is one of them: the one after
2^32 - 1000 steps.  So the loop is a poll with that bound (`Lib/Polling.lean`), whatever the device
answers. -/

/-- The steps down from 0 to the bound. -/
def resetPolls : Nat := 2 ^ 32 - 1000

/-- After `k` values with the bit set. -/
def ResetPoll.waiting (k : Nat) : ResetPoll where
  retry := -BitVec.ofNat 32 k
  reads := k
  stalledUs := 20 * k
  cleared := false

/-- After `k` values, the last of them with the bit clear. -/
def ResetPoll.found (k : Nat) : ResetPoll where
  retry := -BitVec.ofNat 32 (k - 1)
  reads := k
  stalledUs := 20 * k
  cleared := true

/-- `retry` reaches the bound after `resetPolls` steps and not before. -/
theorem neg_eq_resetMaxRetry_iff {k : Nat} (hk : k ≤ resetPolls) :
    -BitVec.ofNat 32 k = resetMaxRetry ↔ k = resetPolls := by
  unfold resetPolls at hk ⊢
  have hmax : resetMaxRetry.toNat = 1000 := rfl
  rw [← BitVec.toNat_inj, BitVec.toNat_neg, BitVec.toNat_ofNat, hmax]
  omega

theorem neg_ofNat_succ (k : Nat) : -BitVec.ofNat 32 (k + 1) = -BitVec.ofNat 32 k - 1 := by
  rw [BitVec.ofNat_add, BitVec.neg_add]
  rfl

section Poll

variable (mac0 : Fin 6 → BitVec 8) (dmaMode : Nat → BitVec 32)

/-- One iteration. -/
theorem resetPollStep_waiting {k : Nat} (hk : k < resetPolls) :
    resetPollStep dmaMode (.waiting k)
      = some (bif resetCleared (dmaMode k) then .found (k + 1) else .waiting (k + 1)) := by
  have hretry : -BitVec.ofNat 32 k ≠ resetMaxRetry := by
    rw [Ne, neg_eq_resetMaxRetry_iff (Nat.le_of_lt hk)]
    exact Nat.ne_of_lt hk
  cases hclear : resetCleared (dmaMode k) with
  | true => simp [resetPollStep, ResetPoll.waiting, ResetPoll.found, hretry, hclear, Nat.mul_succ]
  | false =>
    simp [resetPollStep, ResetPoll.waiting, hretry, hclear, neg_ofNat_succ, Nat.mul_succ]

theorem resetPollStep_found (k : Nat) : resetPollStep dmaMode (.found k) = none := by
  simp [resetPollStep, ResetPoll.found]

theorem resetPollStep_expired : resetPollStep dmaMode (.waiting resetPolls) = none := by
  have hretry := (neg_eq_resetMaxRetry_iff (Nat.le_refl _)).mpr rfl
  simp [resetPollStep, ResetPoll.waiting, hretry]

/-- **What the loop comes to**; it ends by itself, within the bound of the model. -/
theorem resetLoop_polled : resetPollStep dmaMode (resetLoop dmaMode) = none ∧ ∃ reads ok,
    Polled (fun k => resetCleared (dmaMode k)) resetPolls reads ok
      ∧ resetLoop dmaMode = bif ok then .found reads else .waiting reads := by
  have hstart : ResetPoll.mk 0 0 0 false = .waiting 0 := rfl
  rw [resetLoop, hstart]
  exact loop_polled ResetPoll.waiting ResetPoll.found
    (fun k hk => loop_some (resetPollStep_waiting dmaMode hk) 0)
    (fun k _ _ => resetPollStep_found dmaMode (k + 1)) (resetPollStep_expired dmaMode)
    (Nat.sub_le _ _)

/-- **What `DeviceReset` comes to**: it polls up to `resetPolls` values, 20 µs each, and writes the
address where it found the bit clear. -/
theorem deviceReset_polled : ∃ reads ok,
    Polled (fun k => resetCleared (dmaMode k)) resetPolls reads ok
      ∧ deviceReset mac0 dmaMode
        = { status := bif ok then .success else .timeout
            reads := reads
            stalledUs := 20 * reads
            writes := (.dmaMode, 1) :: bif ok then setOneMacAddress 0 mac0 true else [] } := by
  obtain ⟨-, reads, ok, hpolled, hloop⟩ := resetLoop_polled dmaMode
  refine ⟨reads, ok, hpolled, ?_⟩
  rw [deviceReset, hloop]
  cases ok with
  | true => rfl
  | false => rfl

/-! ## 4. The answer and the bound

The answer is right in every case, as it only says what the last value was.  The bound of a
thousand reads is kept if the device leaves its reset within them, and otherwise only the much
larger one is. -/

/-- **The reset was polled within its bound**: at most a thousand reads, and the answer says
whether one of them shows the bit clear. -/
structure ResetBounded (run : DeviceResetRun) : Prop where
  reads_le : run.reads ≤ 1000
  success_iff : run.status = .success ↔ ∃ k < run.reads, resetCleared (dmaMode k) = true
  timeout_iff : run.status = .timeout ↔ ∀ k < run.reads, resetCleared (dmaMode k) = false

/-- The answer is always right about the values that were read. -/
theorem deviceReset_success_iff : (deviceReset mac0 dmaMode).status = .success
    ↔ ∃ k < (deviceReset mac0 dmaMode).reads, resetCleared (dmaMode k) = true := by
  obtain ⟨reads, ok, hpolled, hrun⟩ := deviceReset_polled mac0 dmaMode
  rw [hrun, ← hpolled.ok_iff (Nat.le_refl reads) hpolled.reads_le]
  cases ok with
  | true => simp
  | false => simp

theorem deviceReset_timeout_iff : (deviceReset mac0 dmaMode).status = .timeout
    ↔ ∀ k < (deviceReset mac0 dmaMode).reads, resetCleared (dmaMode k) = false := by
  have hnot : (deviceReset mac0 dmaMode).status = .timeout
      ↔ ¬ (deviceReset mac0 dmaMode).status = .success := by
    cases (deviceReset mac0 dmaMode).status with
    | success => simp
    | timeout => simp
  rw [hnot, deviceReset_success_iff]
  simp

/-- The address is written if and only if the device left reset. -/
theorem deviceReset_writes : (deviceReset mac0 dmaMode).writes = (.dmaMode, 1) ::
    if (deviceReset mac0 dmaMode).status = .success then setOneMacAddress 0 mac0 true else [] := by
  obtain ⟨reads, ok, -, hrun⟩ := deviceReset_polled mac0 dmaMode
  rw [hrun]
  cases ok with
  | true => rfl
  | false => rfl

/-- **A device that stays in reset** is polled `resetPolls` times. -/
theorem deviceReset_of_stuck (hstuck : ∀ k < resetPolls, resetCleared (dmaMode k) = false) :
    (deviceReset mac0 dmaMode).status = .timeout ∧ (deviceReset mac0 dmaMode).reads = resetPolls
      ∧ (deviceReset mac0 dmaMode).stalledUs = 20 * resetPolls := by
  obtain ⟨reads, ok, hpolled, hrun⟩ := deviceReset_polled mac0 dmaMode
  rw [hrun]
  cases hpolled with
  | found hk hbefore h =>
    rw [hstuck _ hk] at h
    exact nomatch h
  | expired h => exact ⟨rfl, rfl, rfl⟩

/-- **The bound is kept exactly where one of the first thousand values has the bit clear.** The
loop reads until a value has it clear or `retry` is 1000, which from 0 downwards is four thousand
million values away, so below that it is the values alone that end it. -/
theorem deviceReset_bounded_iff : ResetBounded dmaMode (deviceReset mac0 dmaMode)
    ↔ ∃ k < 1000, resetCleared (dmaMode k) = true := by
  obtain ⟨reads, ok, hpolled, hrun⟩ := deviceReset_polled mac0 dmaMode
  have hreads : (deviceReset mac0 dmaMode).reads ≤ 1000
      ↔ ∃ k < 1000, resetCleared (dmaMode k) = true := by
    rw [hrun]
    exact hpolled.reads_le_iff (by decide)
  rw [← hreads]
  constructor
  · exact fun h => h.reads_le
  · intro hle
    exact ⟨hle, deviceReset_success_iff mac0 dmaMode, deviceReset_timeout_iff mac0 dmaMode⟩

end Poll

/-- A device that never leaves reset. -/
theorem deviceReset_not_bounded : (deviceReset (fun _ => 0) fun _ => 1).reads = 4294966296
    ∧ ¬ ResetBounded (fun _ => 1) (deviceReset (fun _ => 0) fun _ => 1) := by
  obtain ⟨-, hreads, -⟩ := deviceReset_of_stuck (fun _ => 0) (fun _ => 1) fun _ _ => rfl
  refine ⟨hreads, fun hbounded => ?_⟩
  have hle := hbounded.reads_le
  rw [hreads] at hle
  exact absurd hle (by decide)

end WoaRk3576.Net
