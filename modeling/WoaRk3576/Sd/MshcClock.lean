/-
# The card clock of dwcmshc: `MshcSetClock`, `MshcRockchipSetClock`

The card clock comes from the CRU, which divides one of three parents by 1 to 64, and the
controller divides what it gets by two.  `MshcSetClock` is asked for a frequency in kHz and limits
it by `MaxFrequency`, which the firmware gives in Hz; `MshcRockchipSetClock` looks for the parent
and the divider that come closest, and says that the controller's base clock is what was asked, so
that the controller's own divider stays at bypass.

The arithmetic is on `ULONG`.  It is written here with a test at each operation that could go wrong
(`ClockFault`), so that "nothing overflows and nothing is divided by zero" is part of what is
computed.

`set_clock_exact` is the result: the clock is the best the hardware has under the limit, unless
`MaxFrequency` is below 1 kHz, or a clock lies between it and the whole kHz below.

* The search computes in whole kHz and compares in Hz.  For a target of whole kHz nothing is lost
  by this: the quotients that come out whole, or one more, are exact (`quotient_exact`, a fact
  about the three parents and 64 dividers), so the divider that the code takes for a parent is at
  least as good as any (`parentDiv_best`).
* Of the parents the loop keeps the one whose clock is the highest within the target (`BestOf`);
  where none is, the slowest clock of all is what is left, the crystal divided by 64.
* A limit that is cut to whole kHz is a lower limit.  The best clock for the one is the best for
  the other exactly when no clock but the slowest lies between them (`bestClock_limit_iff`), and a
  limit below 1 kHz is cut to 0, by which the search divides.
* The register is written under a mask, and what is read back of its two fields is what was written
  (`cruWrite_field`).
-/
import Mathlib.Algebra.Order.Floor.Div
import Mathlib.Data.List.Basic
import WoaRk3576.Sd.Port

namespace WoaRk3576.Sd

/-! ## 1. `ULONG` arithmetic

The driver computes in unsigned words of 32 bits and checks nothing.  So every operation here says
whether its result fits, and that nothing goes wrong is a part of each result; a division by zero
is a fault of its own. -/

/-- What can go wrong in an operation. -/
inductive ClockFault
  | divideByZero
  | overflow
  deriving DecidableEq, Repr

/-- A computation on `ULONG` values in which no operation goes wrong. -/
abbrev Checked := Except ClockFault

def mulULong (a b : Nat) : Checked Nat :=
  if a * b < 2 ^ 32 then .ok (a * b) else .error .overflow

def addULong (a b : Nat) : Checked Nat :=
  if a + b < 2 ^ 32 then .ok (a + b) else .error .overflow

def divULong (a b : Nat) : Checked Nat :=
  if b = 0 then .error .divideByZero else .ok (a / b)

/-- `DIV_CEIL`. -/
def divCeil (x y : Nat) : Checked Nat := do
  let sum ← addULong x y
  divULong (sum - 1) y

theorem mulULong_ok {a b : Nat} (h : a * b < 2 ^ 32) : mulULong a b = .ok (a * b) := if_pos h

theorem addULong_ok {a b : Nat} (h : a + b < 2 ^ 32) : addULong a b = .ok (a + b) := if_pos h

theorem divULong_ok (a : Nat) {b : Nat} (h : b ≠ 0) : divULong a b = .ok (a / b) := if_neg h

/-! ## 2. The registers

The CRU register is mapped when it is needed first, and the mapping may fail.  A slot's enable bits
lie in a register with those of the other slots. -/

/-- What the clock depends on: the controller's clock and timing registers, the register of the
CRU once it is mapped, and the frequencies in the extension. -/
structure MshcClock where
  clkena : BitVec 32
  clksrc : BitVec 32
  clkdiv : BitVec 32
  timingCon0 : BitVec 32
  timingCon1 : BitVec 32
  rkCruClkSel : Option (BitVec 32)
  rkCardClockHz : Nat
  baseClockFrequencyKhz : Nat
  busFrequencyKhz : Nat
  deriving DecidableEq, Repr

/-- `SDPORT_BUS_SPEED`. -/
inductive BusSpeed
  | undefined
  | normal
  | high
  | sdr12
  | sdr25
  | sdr50
  | ddr50
  | sdr104
  | hs200
  | hs400
  deriving DecidableEq, Repr

/-- What does not change while the driver runs: the slot, `MaxFrequency`, the crash dump mode,
and the CRU register where `MmMapIoSpaceEx` can map it. -/
structure MshcPlatform where
  slotId : Nat
  maxFrequency : Nat
  crashdumpMode : Bool
  mapIoSpace : Option (BitVec 32)
  deriving DecidableEq, Repr

/-- `MSHC_CLKENA_CCLK_ENABLE`. -/
def mshcClkenaCclkEnable (slotId : Nat) : BitVec 32 := BitVec.twoPow 32 slotId

/-- `MSHC_CLKENA_CCLK_LOW_POWER`. -/
def mshcClkenaCclkLowPower (slotId : Nat) : BitVec 32 := BitVec.twoPow 32 (16 + slotId)

/-! ## 3. `MshcRockchipSetClock`

The loop tries three parents and takes the fastest clock that does not exceed the target.  The
hardware divides what it selects by two, so the target is twice the frequency. -/

/-- `CRU_SD_CLKGEN_DIV`. -/
def cruSdClkgenDiv : Nat := 2

/-- `RK3576_SDMMC_DIV_MAX`. -/
def rk3576SdmmcDivMax : Nat := 64

/-- `Rk3576SdmmcParentHz`. -/
def rk3576SdmmcParentHz : List Nat := [1188000000, 1000000000, 24000000]

/-- The fields of `CCLK_SRC_SDMMC0`. -/
def rk3576SdmmcMuxField : BitVec 32 := 0x3#32 <<< 13

def rk3576SdmmcDivField : BitVec 32 := 0x3f#32 <<< 7

/-- `RK3576_SDMMC_WRITE_MASK`. -/
def rk3576SdmmcWriteMask : BitVec 32 := (rk3576SdmmcMuxField ||| rk3576SdmmcDivField) <<< 16

/-- A write to a CRU register: the upper half enables the bits of the lower half. -/
def cruWrite (old val : BitVec 32) : BitVec 32 :=
  (old &&& ~~~(val >>> 16)) ||| (val &&& (val >>> 16))

/-- `BestHz`, `BestMux` and `BestDiv`. -/
structure CruChoice where
  hz : Nat
  mux : Nat
  div : Nat
  deriving DecidableEq, Repr

/-- The body of the loop over the parents. -/
def tryParent (targetHz : Nat) (best : CruChoice) (mux parentHz : Nat) : Checked CruChoice := do
  let sum ← addULong parentHz targetHz
  let ceil ← divULong (sum - 1) targetHz
  let div := if ceil < 1 then 1 else ceil
  let div := if div > rk3576SdmmcDivMax then rk3576SdmmcDivMax else div
  let hz ← divULong parentHz div
  return if hz ≤ targetHz ∧ best.hz < hz then ⟨hz, mux, div⟩ else best

/-- The loop, from the parent of index `mux` on. -/
def tryParents (targetHz : Nat) : CruChoice → Nat → List Nat → Checked CruChoice
  | best, _, [] => return best
  | best, mux, parentHz :: parents => do
    let best ← tryParent targetHz best mux parentHz
    tryParents targetHz best (mux + 1) parents

/-- What is written to the CRU. -/
def cruSelect (mux div : Nat) : BitVec 32 :=
  rk3576SdmmcWriteMask ||| (BitVec.ofNat 32 mux <<< 13) ||| (BitVec.ofNat 32 (div - 1) <<< 7)

/-- `MshcRk3576SetPhase`, and whether it succeeded.  The delay is computed in 64 bits. -/
def mshcRk3576SetPhase (c : MshcClock) (sample : Bool) (degrees : Nat) :
    Checked (Bool × MshcClock) := do
  let rate := c.rkCardClockHz
  if rate < 1000 then return (false, c)
  let nineties := degrees % 360 / 90
  let remainder := degrees % 360 % 90
  let denominator := rate / 1000 * 36 * (60 / 10)
  let delay ← divULong (10000000 * remainder + denominator / 2) denominator
  let delayNum := if delay > 255 then 255 else delay
  let rawValue : BitVec 32 :=
    (if delayNum ≠ 0 then 1#32 <<< 10 else 0) ||| (BitVec.ofNat 32 delayNum <<< 2)
      ||| BitVec.ofNat 32 nineties
  let val : BitVec 32 := ((rawValue <<< 1) &&& 0x0FFE#32) ||| (0x0FFE#32 <<< 16)
  return (true, if sample then { c with timingCon1 := val } else { c with timingCon0 := val })

/-- The mapping of the CRU register on first use. -/
def MshcClock.mapped (p : MshcPlatform) (c : MshcClock) : Option (BitVec 32) :=
  match c.rkCruClkSel with
  | some cru => some cru
  | none => if p.crashdumpMode then none else p.mapIoSpace

/-- `BestHz` after the loop: where no parent fits, the crystal with the largest divider. -/
def cruFinalHz (best : CruChoice) : Checked Nat :=
  if best.hz = 0 then divULong (rk3576SdmmcParentHz.getD best.mux 0) best.div else .ok best.hz

/-- The sample phase goes back to its default at the identification frequency. -/
def resetSamplePhase (c : MshcClock) (frequencyKhz : Nat) : Checked MshcClock :=
  if frequencyKhz ≤ 400 then (·.2) <$> mshcRk3576SetPhase c true 0 else .ok c

/-- `MshcRockchipSetClock`. -/
def mshcRockchipSetClock (p : MshcPlatform) (c : MshcClock) (frequencyKhz : Nat) :
    Checked (NtStatus × MshcClock) := do
  match c.mapped p with
  | none => return (.notSupported, c)
  | some cru =>
    let targetHz ← mulULong frequencyKhz 1000
    let targetHz ← mulULong targetHz cruSdClkgenDiv
    let best ← tryParents targetHz ⟨0, 2, rk3576SdmmcDivMax⟩ 0 rk3576SdmmcParentHz
    let bestHz ← cruFinalHz best
    let sampled ← resetSamplePhase
      { c with
        rkCruClkSel := some (cruWrite cru (cruSelect best.mux best.div))
        rkCardClockHz := bestHz / cruSdClkgenDiv
        baseClockFrequencyKhz := frequencyKhz } frequencyKhz
    let driven ← mshcRk3576SetPhase sampled false (if frequencyKhz ≥ 100000 then 180 else 90)
    return (.success, driven.2)

/-! ## 4. `MshcSetClock`

The frequency is first limited, in kHz, by the `MaxFrequency` of the firmware, which is in Hz.  The
platform then sets the clock, and the controller's own divider is computed from what that says it
has set. -/

/-- The frequency that the crash dump mode replaces the requested one with. -/
def crashdumpFrequencyKhz (frequencyKhz : Nat) : BusSpeed → Nat
  | .normal => 25000
  | .high | .ddr50 => 50000
  | .sdr50 => 100000
  | _ => frequencyKhz

/-- The requested frequency, limited by `MaxFrequency`. -/
def limitedKhz (maxFrequency frequencyKhz : Nat) : Nat :=
  if maxFrequency ≠ 0 ∧ maxFrequency / 1000 < frequencyKhz then maxFrequency / 1000
  else frequencyKhz

/-- `Divisor`: the controller's own divider, 0 for bypass. -/
def mshcDivisor (baseClockFrequencyKhz frequencyKhz : Nat) : Checked Nat :=
  if frequencyKhz ≠ baseClockFrequencyKhz then do
    let twice ← mulULong frequencyKhz 2
    divCeil baseClockFrequencyKhz twice
  else .ok 0

/-- The second half of `MshcSetClock`: the clock is set and enabled.  `ciu i` says whether the
`i`-th `MshcCiuUpdateClock` of the call succeeds. -/
def mshcEnableClock (p : MshcPlatform) (ciu : Nat → Bool) (c : MshcClock) (frequencyKhz : Nat) :
    Checked (NtStatus × MshcClock) := do
  let set ← mshcRockchipSetClock p c frequencyKhz
  if set.1.ntSuccess = false then return set
  let divisor ← mshcDivisor set.2.baseClockFrequencyKhz frequencyKhz
  let c := { set.2 with clkdiv := BitVec.ofNat 32 divisor }
  if ciu 1 = false then return (.ioTimeout, c)
  let c := { c with
    clkena := c.clkena ||| mshcClkenaCclkEnable p.slotId ||| mshcClkenaCclkLowPower p.slotId }
  if ciu 2 = false then return (.ioTimeout, c)
  return (.success, { c with busFrequencyKhz := frequencyKhz })

/-- `MshcSetClock`. -/
def mshcSetClock (p : MshcPlatform) (busSpeed : BusSpeed) (ciu : Nat → Bool) (c : MshcClock)
    (frequencyKhz : Nat) : Checked (NtStatus × MshcClock) := do
  let c := { c with
    clkena := c.clkena &&& ~~~mshcClkenaCclkEnable p.slotId &&& ~~~mshcClkenaCclkLowPower p.slotId
    clksrc := 0
    clkdiv := 0 }
  if ciu 0 = false then return (.ioTimeout, c)
  if frequencyKhz = 0 then return (.success, { c with busFrequencyKhz := 0 })
  let frequencyKhz :=
    if p.crashdumpMode then crashdumpFrequencyKhz frequencyKhz busSpeed else frequencyKhz
  mshcEnableClock p ciu c (limitedKhz p.maxFrequency frequencyKhz)

/-! ## 5. The card clock

What is asked for is stated of the hardware: the list of all clocks that can be selected, and the
best of them under a limit.  The register is read back by fields, so a choice that is written into
the wrong bits would not be right. -/

/-- The card clocks that the hardware offers: a parent divided by 1 to 64, in whole Hz, and
divided by two. -/
def cardClocks : List Nat :=
  rk3576SdmmcParentHz.flatMap fun parentHz =>
    (List.range rk3576SdmmcDivMax).map fun i => parentHz / (i + 1) / cruSdClkgenDiv

/-- The fields of the CRU register, as the hardware reads them. -/
def cruMux (cru : BitVec 32) : Nat := ((cru &&& rk3576SdmmcMuxField) >>> 13).toNat

def cruDiv (cru : BitVec 32) : Nat := ((cru &&& rk3576SdmmcDivField) >>> 7).toNat + 1

/-- The clock of the card, where the controller's own divider is at bypass. -/
def cardClockHz (cru : BitVec 32) : Nat :=
  rk3576SdmmcParentHz.getD (cruMux cru) 0 / cruDiv cru / cruSdClkgenDiv

/-- `min(requested, MaxFrequency when non-zero)`, in Hz. -/
def clockLimitHz (maxFrequency frequencyKhz : Nat) : Nat :=
  if maxFrequency = 0 then frequencyKhz * 1000 else min (frequencyKhz * 1000) maxFrequency

/-- **The best clock under a limit**: the highest that does not exceed it, or the slowest where
all do. -/
def BestClock (limit hz : Nat) : Prop :=
  hz ∈ cardClocks
    ∧ ((hz ≤ limit ∧ ∀ other ∈ cardClocks, other ≤ limit → other ≤ hz)
      ∨ ((∀ other ∈ cardClocks, limit < other) ∧ ∀ other ∈ cardClocks, hz ≤ other))

/-- **What `MshcSetClock` has to do**: nothing goes wrong on the way, and on success the
controller's divider is at bypass and the card clock is the best under the limit. -/
def ClockSet (limit : Nat) : Checked (NtStatus × MshcClock) → Prop
  | .error _ => False
  | .ok (status, c) =>
    status = .success →
      c.clkdiv = 0 ∧ ∃ cru, c.rkCruClkSel = some cru ∧ BestClock limit (cardClockHz cru)

/-! ## 6. The search finds the best clock

For one parent the least divider within the target is the best, and of the three results the loop
keeps the fastest.  A quotient is cut off to whole Hz before it is compared, so a divider might be
accepted for a clock that is a little too fast; for limits of whole kHz and these three parents it
is not (`quotient_exact`). -/

/-- `Div` for a parent: the least divider that does not exceed the target, as far as it is one
of the hardware's. -/
def parentDiv (targetHz parentHz : Nat) : Nat :=
  min (max (parentHz ⌈/⌉ targetHz) 1) rk3576SdmmcDivMax

theorem parentDiv_bounds (targetHz parentHz : Nat) :
    1 ≤ parentDiv targetHz parentHz ∧ parentDiv targetHz parentHz ≤ 64 := by
  unfold parentDiv rk3576SdmmcDivMax
  omega

theorem tryParent_ok {targetHz parentHz : Nat} (best : CruChoice) (mux : Nat)
    (htarget : targetHz ≠ 0) (hsum : parentHz + targetHz < 2 ^ 32) :
    tryParent targetHz best mux parentHz
      = .ok (if parentHz / parentDiv targetHz parentHz ≤ targetHz
            ∧ best.hz < parentHz / parentDiv targetHz parentHz
          then ⟨parentHz / parentDiv targetHz parentHz, mux, parentDiv targetHz parentHz⟩
          else best) := by
  have hdiv : (if (if (parentHz + targetHz - 1) / targetHz < 1 then 1
        else (parentHz + targetHz - 1) / targetHz) > rk3576SdmmcDivMax then rk3576SdmmcDivMax
      else if (parentHz + targetHz - 1) / targetHz < 1 then 1
        else (parentHz + targetHz - 1) / targetHz) = parentDiv targetHz parentHz := by
    unfold parentDiv
    rw [Nat.ceilDiv_eq_add_pred_div]
    generalize (parentHz + targetHz - 1) / targetHz = ceil
    unfold rk3576SdmmcDivMax
    split <;> split <;> omega
  have hpos : parentDiv targetHz parentHz ≠ 0 := by
    have := (parentDiv_bounds targetHz parentHz).1
    omega
  unfold tryParent
  rw [addULong_ok hsum]
  simp only [bind, Except.bind]
  rw [divULong_ok _ htarget]
  simp only [hdiv]
  rw [divULong_ok _ hpos]
  rfl

/-- **What the loop keeps**: nothing was chosen and no parent seen has a clock within the
target, or the choice is one of them and none is faster. -/
structure BestOf (targetHz : Nat) (seen : List Nat) (best : CruChoice) : Prop where
  chosen : best = ⟨0, 2, rk3576SdmmcDivMax⟩
    ∨ ∃ parentHz, seen[best.mux]? = some parentHz ∧ best.div = parentDiv targetHz parentHz
      ∧ best.hz = parentHz / best.div ∧ best.hz ≤ targetHz ∧ 0 < best.hz
  fastest : ∀ parentHz ∈ seen, parentHz / parentDiv targetHz parentHz ≤ targetHz →
    parentHz / parentDiv targetHz parentHz ≤ best.hz

theorem BestOf.nil (targetHz : Nat) : BestOf targetHz [] ⟨0, 2, rk3576SdmmcDivMax⟩ :=
  ⟨.inl rfl, by simp⟩

theorem BestOf.next {targetHz : Nat} {seen : List Nat} {best : CruChoice}
    (h : BestOf targetHz seen best) (parentHz : Nat) :
    BestOf targetHz (seen ++ [parentHz])
      (if parentHz / parentDiv targetHz parentHz ≤ targetHz
          ∧ best.hz < parentHz / parentDiv targetHz parentHz
        then ⟨parentHz / parentDiv targetHz parentHz, seen.length, parentDiv targetHz parentHz⟩
        else best) := by
  split
  · rename_i hbetter
    obtain ⟨hwithin, hfaster⟩ := hbetter
    constructor
    · exact .inr ⟨parentHz, by simp, rfl, rfl, hwithin, by dsimp only; omega⟩
    · intro other hother hlimit
      rcases List.mem_append.mp hother with hother | hother
      · have := h.fastest other hother hlimit
        dsimp only
        omega
      · rw [List.mem_singleton.mp hother]
  · rename_i hnot
    constructor
    · rcases h.chosen with hnone | ⟨p, hp, hrest⟩
      · exact .inl hnone
      · exact .inr ⟨p, by rw [List.getElem?_append_left (List.getElem?_eq_some_iff.mp hp).1, hp],
          hrest⟩
    · intro other hother hlimit
      rcases List.mem_append.mp hother with hother | hother
      · exact h.fastest other hother hlimit
      · rw [List.mem_singleton.mp hother] at hlimit ⊢
        omega

/-- The loop finds the best of all parents. -/
theorem tryParents_bestOf {targetHz : Nat} (htarget : targetHz ≠ 0) (parents : List Nat)
    (hsum : ∀ parentHz ∈ parents, parentHz + targetHz < 2 ^ 32) (seen : List Nat)
    (best : CruChoice) (h : BestOf targetHz seen best) :
    ∃ found, tryParents targetHz best seen.length parents = .ok found
      ∧ BestOf targetHz (seen ++ parents) found := by
  induction parents generalizing seen best with
  | nil => exact ⟨best, rfl, by simpa using h⟩
  | cons parentHz parents ih =>
    obtain ⟨found, hfound, hbest⟩ := ih (fun p hp => hsum p (by simp [hp])) (seen ++ [parentHz])
      _ (h.next parentHz)
    refine ⟨found, ?_, by simpa using hbest⟩
    unfold tryParents
    rw [tryParent_ok best seen.length htarget (hsum parentHz (by simp))]
    rw [List.length_append, List.length_singleton] at hfound
    exact hfound

/-- **The finite fact about the hardware**: a quotient that is a whole number of double kHz, or
one more, is exact. -/
theorem quotient_exact : ∀ parentHz ∈ rk3576SdmmcParentHz, ∀ i < 64,
    parentHz / (i + 1) % 2000 ≤ 1 → parentHz % (i + 1) = 0 ∧ parentHz / (i + 1) % 2000 = 0 := by
  decide +kernel

/-- A clock within a limit of whole kHz comes from a quotient that reaches its parent. -/
theorem le_mul_of_within {parentHz i khz : Nat} (hparent : parentHz ∈ rk3576SdmmcParentHz)
    (hi : i < 64) (hwithin : parentHz / (i + 1) / cruSdClkgenDiv ≤ khz * 1000) :
    parentHz ≤ khz * 1000 * 2 * (i + 1) := by
  have hle : parentHz / (i + 1) ≤ khz * 1000 * 2 + 1 := by
    unfold cruSdClkgenDiv at hwithin
    omega
  rcases Nat.lt_or_ge (parentHz / (i + 1)) (khz * 1000 * 2) with hlt | hge
  · exact Nat.le_of_lt ((Nat.div_lt_iff_lt_mul (by omega)).mp hlt)
  · obtain ⟨hrem, hwhole⟩ := quotient_exact parentHz hparent i hi (by omega)
    have heq : parentHz / (i + 1) = khz * 1000 * 2 := by omega
    calc parentHz = (i + 1) * (parentHz / (i + 1)) :=
          (Nat.mul_div_cancel' (Nat.dvd_of_mod_eq_zero hrem)).symm
      _ = (i + 1) * (khz * 1000 * 2) := by rw [heq]
      _ ≤ khz * 1000 * 2 * (i + 1) := by rw [Nat.mul_comm]

/-- The divider that the code takes for a parent is at least as good as any within the limit. -/
theorem parentDiv_best {parentHz i khz : Nat} (hkhz : 0 < khz)
    (hparent : parentHz ∈ rk3576SdmmcParentHz) (hi : i < 64)
    (hwithin : parentHz / (i + 1) / cruSdClkgenDiv ≤ khz * 1000) :
    parentHz / (i + 1) ≤ parentHz / parentDiv (khz * 1000 * 2) parentHz
      ∧ parentHz / parentDiv (khz * 1000 * 2) parentHz ≤ khz * 1000 * 2 := by
  have htarget : 0 < khz * 1000 * 2 := by omega
  have hmul := le_mul_of_within hparent hi hwithin
  have hceil : parentHz ⌈/⌉ (khz * 1000 * 2) ≤ i + 1 := (ceilDiv_le_iff_le_mul htarget).mpr hmul
  have hpos : 0 < parentHz ⌈/⌉ (khz * 1000 * 2) := by
    by_contra hzero
    have hle := (ceilDiv_le_iff_le_mul htarget).mp (Nat.le_of_not_lt hzero)
    have hne : parentHz ≠ 0 := by
      revert hparent
      unfold rk3576SdmmcParentHz
      simp only [List.mem_cons, List.not_mem_nil, or_false]
      omega
    omega
  have hdiv : parentDiv (khz * 1000 * 2) parentHz = parentHz ⌈/⌉ (khz * 1000 * 2) := by
    unfold parentDiv rk3576SdmmcDivMax
    omega
  rw [hdiv]
  constructor
  · exact Nat.div_le_div_left hceil hpos
  · rw [Nat.div_le_iff_le_mul_add_pred hpos]
    have hself := (ceilDiv_le_iff_le_mul (c := parentHz ⌈/⌉ (khz * 1000 * 2)) htarget).mp le_rfl
    rw [Nat.mul_comm] at hself
    omega

theorem mem_cardClocks {hz : Nat} :
    hz ∈ cardClocks ↔ ∃ parentHz ∈ rk3576SdmmcParentHz, ∃ i < 64,
      parentHz / (i + 1) / cruSdClkgenDiv = hz := by
  simp [cardClocks, rk3576SdmmcDivMax]

/-- The slowest card clock: the crystal divided by 64. -/
def slowestClock : Nat := 187500

theorem slowestClock_mem : slowestClock ∈ cardClocks :=
  mem_cardClocks.mpr ⟨24000000, by decide, 63, by decide, by decide⟩

theorem slowestClock_le : ∀ hz ∈ cardClocks, slowestClock ≤ hz := by
  decide +kernel

/-- `BestHz` as it is after the loop. -/
def CruChoice.finalHz (best : CruChoice) : Nat :=
  if best.hz = 0 then rk3576SdmmcParentHz.getD best.mux 0 / best.div else best.hz

/-- **The choice is the best under the limit**: the parent and the divider of one clock, which
is the best for a limit of whole kHz. -/
theorem BestOf.bestClock {khz : Nat} {best : CruChoice} (hkhz : 0 < khz)
    (h : BestOf (khz * 1000 * 2) rk3576SdmmcParentHz best) :
    best.mux < 3 ∧ 1 ≤ best.div ∧ best.div ≤ 64
      ∧ best.finalHz = rk3576SdmmcParentHz.getD best.mux 0 / best.div
      ∧ BestClock (khz * 1000) (best.finalHz / cruSdClkgenDiv) := by
  have hothers : ∀ other ∈ cardClocks, other ≤ khz * 1000 →
      other ≤ best.hz / cruSdClkgenDiv := by
    intro other hother hwithin
    obtain ⟨p, hp, i, hi, rfl⟩ := mem_cardClocks.mp hother
    obtain ⟨hdiv, htarget⟩ := parentDiv_best hkhz hp hi hwithin
    exact Nat.div_le_div_right (hdiv.trans (h.fastest p hp htarget))
  rcases h.chosen with rfl | ⟨p, hp, hdiv, hhz, hle, hpos⟩
  · refine ⟨by decide, by decide, by decide, rfl, slowestClock_mem, .inr ⟨?_, slowestClock_le⟩⟩
    intro other hother
    by_contra hwithin
    have hzero := hothers other hother (by omega)
    have hslow := slowestClock_le other hother
    have hnone : (0 : Nat) / cruSdClkgenDiv = 0 := by decide
    dsimp only at hzero
    rw [hnone] at hzero
    unfold slowestClock at hslow
    omega
  · obtain ⟨hmux, hget⟩ := List.getElem?_eq_some_iff.mp hp
    have hbounds := parentDiv_bounds (khz * 1000 * 2) p
    rw [← hdiv] at hbounds
    have hfinal : best.finalHz = best.hz := if_neg (by omega)
    have hgetD : rk3576SdmmcParentHz.getD best.mux 0 = p := by
      rw [List.getD_eq_getElem?_getD, hp]
      rfl
    rw [hfinal, hgetD]
    refine ⟨hmux, hbounds.1, hbounds.2, hhz, ?_, .inl ⟨?_, hothers⟩⟩
    · refine mem_cardClocks.mpr ⟨p, hget ▸ List.getElem_mem hmux, best.div - 1, by omega, ?_⟩
      rw [hhz, Nat.sub_add_cancel hbounds.1]
    · unfold cruSdClkgenDiv
      omega

/-! ## 7. The register says what was chosen

The upper half of a CRU word enables the bits of the lower half, so fields are written one beside
the other, and a field that was written is read back. -/

/-- A field under the write mask is what was written. -/
theorem cruWrite_field (old val field : BitVec 32) (h : field &&& (val >>> 16) = field) :
    cruWrite old val &&& field = val &&& field := by
  unfold cruWrite
  generalize val >>> 16 = mask at h ⊢
  apply BitVec.eq_of_getLsbD_eq
  intro i hi
  have hbit := congrArg (fun v => BitVec.getLsbD v i) h
  simp only [BitVec.getLsbD_and, BitVec.getLsbD_or, BitVec.getLsbD_not, hi] at hbit ⊢
  cases hfield : field.getLsbD i with
  | false => simp
  | true =>
    rw [hfield] at hbit
    have hmask : mask.getLsbD i = true := by simpa using hbit
    simp [hmask]

theorem cruSelect_fields : ∀ mux < 3, ∀ i < 64,
    rk3576SdmmcMuxField &&& (cruSelect mux (i + 1) >>> 16) = rk3576SdmmcMuxField
      ∧ rk3576SdmmcDivField &&& (cruSelect mux (i + 1) >>> 16) = rk3576SdmmcDivField
      ∧ cruMux (cruSelect mux (i + 1)) = mux ∧ cruDiv (cruSelect mux (i + 1)) = i + 1 := by
  decide +kernel

theorem cardClockHz_cruWrite (old : BitVec 32) {mux div : Nat} (hmux : mux < 3) (hpos : 1 ≤ div)
    (hdiv : div ≤ 64) :
    cardClockHz (cruWrite old (cruSelect mux div))
      = rk3576SdmmcParentHz.getD mux 0 / div / cruSdClkgenDiv := by
  obtain ⟨i, rfl⟩ : ∃ i, div = i + 1 := ⟨div - 1, by omega⟩
  obtain ⟨hmuxField, hdivField, hmuxEq, hdivEq⟩ := cruSelect_fields mux hmux i (by omega)
  have hm : cruMux (cruWrite old (cruSelect mux (i + 1))) = mux := by
    unfold cruMux
    rw [cruWrite_field _ _ _ hmuxField]
    exact hmuxEq
  have hd : cruDiv (cruWrite old (cruSelect mux (i + 1))) = i + 1 := by
    unfold cruDiv
    rw [cruWrite_field _ _ _ hdivField]
    exact hdivEq
  unfold cardClockHz
  rw [hm, hd]

/-- `MshcRk3576SetPhase` goes wrong nowhere, and changes the timing registers only. -/
theorem mshcRk3576SetPhase_ok (c : MshcClock) (sample : Bool) (degrees : Nat) :
    ∃ ok con0 con1, mshcRk3576SetPhase c sample degrees
      = .ok (ok, { c with timingCon0 := con0, timingCon1 := con1 }) := by
  unfold mshcRk3576SetPhase
  dsimp only
  split
  · exact ⟨false, _, _, rfl⟩
  · have hne : c.rkCardClockHz / 1000 * 36 * (60 / 10) ≠ 0 := by omega
    simp only [bind, Except.bind]
    rw [divULong_ok _ hne]
    cases sample with
    | true => exact ⟨true, _, _, rfl⟩
    | false => exact ⟨true, _, _, rfl⟩

theorem resetSamplePhase_ok (c : MshcClock) (frequencyKhz : Nat) :
    ∃ con0 con1, resetSamplePhase c frequencyKhz
      = .ok { c with timingCon0 := con0, timingCon1 := con1 } := by
  unfold resetSamplePhase
  split
  · obtain ⟨ok, con0, con1, hset⟩ := mshcRk3576SetPhase_ok c true 0
    rw [hset]
    exact ⟨con0, con1, rfl⟩
  · exact ⟨_, _, rfl⟩

/-! ## 8. The two routines together

The limit in kHz is the limit in Hz, rounded down.  Rounding loses a clock only if one lies between
the two, and 0 kHz is not a clock at all; this is the condition (`LimitInKhz`). -/

/-- **`MshcRockchipSetClock`** for a frequency that is not zero: it succeeds, and the clock is
the best that does not exceed it. -/
theorem mshcRockchipSetClock_ok (p : MshcPlatform) (c : MshcClock) {cru : BitVec 32}
    (hmapped : c.mapped p = some cru) {khz : Nat} (hpos : 0 < khz) (hle : khz ≤ 400000) :
    ∃ set cru', mshcRockchipSetClock p c khz = .ok (.success, set)
      ∧ set.rkCruClkSel = some cru' ∧ BestClock (khz * 1000) (cardClockHz cru')
      ∧ set.baseClockFrequencyKhz = khz := by
  have hsum : ∀ parentHz ∈ rk3576SdmmcParentHz, parentHz + khz * 1000 * 2 < 2 ^ 32 := by
    unfold rk3576SdmmcParentHz
    simp only [List.mem_cons, List.not_mem_nil, or_false]
    omega
  obtain ⟨best, hfound, hbest⟩ := tryParents_bestOf (by omega) rk3576SdmmcParentHz hsum [] _
    (BestOf.nil (khz * 1000 * 2))
  obtain ⟨hmux, hdivPos, hdivLe, hhz, hclock⟩ := hbest.bestClock hpos
  rw [hhz, ← cardClockHz_cruWrite cru hmux hdivPos hdivLe] at hclock
  have hfinal : cruFinalHz best = .ok best.finalHz := by
    unfold cruFinalHz CruChoice.finalHz
    split
    · exact divULong_ok _ (by omega)
    · rfl
  have hloop : tryParents (khz * 1000 * 2) ⟨0, 2, rk3576SdmmcDivMax⟩ 0 rk3576SdmmcParentHz
      = .ok best := hfound
  unfold mshcRockchipSetClock
  rw [hmapped]
  simp only [bind, Except.bind]
  rw [mulULong_ok (by omega)]
  dsimp only [cruSdClkgenDiv]
  rw [mulULong_ok (by omega)]
  dsimp only
  rw [hloop]
  dsimp only
  rw [hfinal]
  dsimp only
  generalize hset : MshcClock.mk _ _ _ _ _ _ _ _ _ = set
  obtain ⟨con0, con1, hsampled⟩ := resetSamplePhase_ok set khz
  rw [hsampled]
  dsimp only
  obtain ⟨ok, con0', con1', hdriven⟩ := mshcRk3576SetPhase_ok
    { set with timingCon0 := con0, timingCon1 := con1 } false (if khz ≥ 100000 then 180 else 90)
  rw [hdriven]
  subst hset
  exact ⟨_, _, rfl, rfl, hclock, rfl⟩

/-- For a frequency of zero it divides by it. -/
theorem mshcRockchipSetClock_zero (p : MshcPlatform) (c : MshcClock) {cru : BitVec 32}
    (hmapped : c.mapped p = some cru) :
    mshcRockchipSetClock p c 0 = .error .divideByZero := by
  unfold mshcRockchipSetClock
  rw [hmapped]
  rfl

/-- **The second half of `MshcSetClock`**: the controller's divider stays at bypass, whatever
the controller answers. -/
theorem mshcEnableClock_clockSet (p : MshcPlatform) (ciu : Nat → Bool) (c : MshcClock)
    {cru : BitVec 32} (hmapped : c.mapped p = some cru) {khz limit : Nat} (hpos : 0 < khz)
    (hle : khz ≤ 400000) (hbest : ∀ hz, BestClock (khz * 1000) hz → BestClock limit hz) :
    ClockSet limit (mshcEnableClock p ciu c khz) := by
  obtain ⟨set, cru', hset, hcru, hclock, hbase⟩ := mshcRockchipSetClock_ok p c hmapped hpos hle
  have hdivisor : mshcDivisor set.baseClockFrequencyKhz khz = .ok 0 :=
    if_neg fun hne => hne hbase.symm
  unfold mshcEnableClock
  rw [hset]
  simp only [bind, Except.bind]
  rw [hdivisor]
  cases ciu 1 with
  | false => exact fun hsuccess => by cases hsuccess
  | true =>
    cases ciu 2 with
    | false => exact fun hsuccess => by cases hsuccess
    | true => exact fun _ => ⟨rfl, cru', hcru, hbest _ hclock⟩

/-- **The condition on the firmware's limit**: it is at least 1 kHz, and where it is below the
request no clock but the slowest lies between it and the whole kHz below. -/
def LimitInKhz (maxFrequency frequencyKhz : Nat) : Prop :=
  maxFrequency = 0 ∨ (1000 ≤ maxFrequency ∧ (maxFrequency / 1000 < frequencyKhz →
    ∀ hz ∈ cardClocks, hz ≤ maxFrequency → hz ≤ maxFrequency / 1000 * 1000 ∨ hz ≤ slowestClock))

instance (maxFrequency frequencyKhz : Nat) : Decidable (LimitInKhz maxFrequency frequencyKhz) :=
  inferInstanceAs (Decidable (_ ∨ (_ ∧ (_ → ∀ hz ∈ cardClocks, _ → _))))

/-- A best clock for the lower of two limits is one for the higher, exactly when no clock but
the slowest lies between them. -/
theorem bestClock_limit_iff {low high hz : Nat} (hle : low ≤ high) (h : BestClock low hz) :
    BestClock high hz
      ↔ ∀ other ∈ cardClocks, other ≤ high → other ≤ low ∨ other ≤ slowestClock := by
  obtain ⟨hmem, hcase⟩ := h
  have hslow := slowestClock_le hz hmem
  constructor
  · rintro ⟨-, hhigh⟩ other hother hwithin
    rcases hhigh with ⟨-, hfastest⟩ | ⟨hnone, -⟩
    · have hfast := hfastest other hother hwithin
      rcases hcase with ⟨hlow, -⟩ | ⟨-, hslowest⟩
      · exact .inl (hfast.trans hlow)
      · exact .inr (hfast.trans (hslowest _ slowestClock_mem))
    · have := hnone other hother
      omega
  · intro hclear
    rcases hcase with ⟨hlow, hfastest⟩ | ⟨hnone, hslowest⟩
    · refine ⟨hmem, .inl ⟨hlow.trans hle, ?_⟩⟩
      intro other hother hwithin
      rcases hclear other hother hwithin with hbelow | hbelow
      · exact hfastest other hother hbelow
      · exact hbelow.trans hslow
    · rcases Nat.lt_or_ge high hz with hlt | hge
      · refine ⟨hmem, .inr ⟨?_, hslowest⟩⟩
        intro other hother
        exact Nat.lt_of_lt_of_le hlt (hslowest other hother)
      · refine ⟨hmem, .inl ⟨hge, ?_⟩⟩
        intro other hother hwithin
        rcases hclear other hother hwithin with hbelow | hbelow
        · have := hnone other hother
          omega
        · exact hbelow.trans hslow

/-- The limited frequency in Hz, against the limit. -/
theorem limitedKhz_cases (maxFrequency frequencyKhz : Nat) :
    (maxFrequency ≠ 0 ∧ maxFrequency / 1000 < frequencyKhz
        ∧ limitedKhz maxFrequency frequencyKhz = maxFrequency / 1000
        ∧ clockLimitHz maxFrequency frequencyKhz = maxFrequency)
      ∨ ((maxFrequency = 0 ∨ frequencyKhz ≤ maxFrequency / 1000)
        ∧ limitedKhz maxFrequency frequencyKhz = frequencyKhz
        ∧ clockLimitHz maxFrequency frequencyKhz = frequencyKhz * 1000) := by
  unfold limitedKhz clockLimitHz
  by_cases hzero : maxFrequency = 0
  · right
    simp [hzero]
  · by_cases hlt : maxFrequency / 1000 < frequencyKhz
    · left
      refine ⟨hzero, hlt, if_pos ⟨hzero, hlt⟩, ?_⟩
      rw [if_neg hzero]
      omega
    · right
      refine ⟨.inr (by omega), if_neg (fun h => hlt h.2), ?_⟩
      rw [if_neg hzero]
      omega

/-- **`MshcSetClock` does what it has to exactly when the firmware's limit is in whole kHz**, as
far as the clocks can tell: for every frequency of the port driver, every `MaxFrequency`, and
whatever the controller answers to the clock updates.  The search finds the best clock for a target
in whole kHz, so what is left is whether cutting the limit to kHz takes a clock away. -/
theorem set_clock_exact (p : MshcPlatform) (busSpeed : BusSpeed) (c : MshcClock)
    (frequencyKhz : Nat) (hcrashdump : p.crashdumpMode = false)
    (hmapped : (c.mapped p).isSome = true) (hpos : 1 ≤ frequencyKhz)
    (hle : frequencyKhz ≤ 400000) :
    (∀ ciu, ClockSet (clockLimitHz p.maxFrequency frequencyKhz)
        (mshcSetClock p busSpeed ciu c frequencyKhz))
      ↔ LimitInKhz p.maxFrequency frequencyKhz := by
  obtain ⟨cru, hcru⟩ := Option.isSome_iff_exists.mp hmapped
  have hstep : ∀ ciu, ciu 0 = true → mshcSetClock p busSpeed ciu c frequencyKhz
      = mshcEnableClock p ciu
          { c with
            clkena := c.clkena &&& ~~~mshcClkenaCclkEnable p.slotId
              &&& ~~~mshcClkenaCclkLowPower p.slotId
            clksrc := 0
            clkdiv := 0 } (limitedKhz p.maxFrequency frequencyKhz) := by
    intro ciu hciu
    unfold mshcSetClock
    rw [if_neg (by simp [hciu]), if_neg (by omega), hcrashdump]
    rfl
  have hinner : ({ c with
      clkena := c.clkena &&& ~~~mshcClkenaCclkEnable p.slotId
        &&& ~~~mshcClkenaCclkLowPower p.slotId
      clksrc := 0
      clkdiv := 0 } : MshcClock).mapped p = some cru := hcru
  constructor
  · intro h
    have hall := h fun _ => true
    rw [hstep _ rfl] at hall
    rcases limitedKhz_cases p.maxFrequency frequencyKhz with
      ⟨hmax, hlt, hkhz, hlimit⟩ | ⟨hmax, -, -⟩
    · rw [hkhz, hlimit] at hall
      rcases Nat.lt_or_ge p.maxFrequency 1000 with hsmall | hlarge
      · rw [Nat.div_eq_of_lt hsmall] at hall
        unfold mshcEnableClock at hall
        rw [mshcRockchipSetClock_zero p _ hinner] at hall
        exact hall.elim
      · refine .inr ⟨hlarge, fun _ => ?_⟩
        obtain ⟨set, cru', hset, hcru', hclock, hbase⟩ := mshcRockchipSetClock_ok p _ hinner
          (show 0 < p.maxFrequency / 1000 by omega) (by omega)
        have hdivisor : mshcDivisor set.baseClockFrequencyKhz (p.maxFrequency / 1000) = .ok 0 :=
          if_neg fun hne => hne hbase.symm
        unfold mshcEnableClock at hall
        rw [hset] at hall
        simp only [bind, Except.bind] at hall
        rw [hdivisor] at hall
        obtain ⟨-, cru'', hcru'', hbest⟩ := hall rfl
        obtain rfl : cru' = cru'' := Option.some.inj (hcru'.symm.trans hcru'')
        exact (bestClock_limit_iff (Nat.div_mul_le_self _ _) hclock).mp hbest
    · rcases hmax with hmax | hmax
      · exact .inl hmax
      · exact .inr ⟨by omega, fun hlt => absurd hlt (by omega)⟩
  · intro hlimit ciu
    cases hciu : ciu 0 with
    | false =>
      unfold mshcSetClock
      rw [if_pos hciu]
      exact fun hsuccess => by cases hsuccess
    | true =>
      rw [hstep ciu hciu]
      rcases limitedKhz_cases p.maxFrequency frequencyKhz with
        ⟨hmax, hlt, hkhz, heq⟩ | ⟨-, hkhz, heq⟩
      · obtain ⟨hlarge, hclear⟩ := hlimit.resolve_left hmax
        rw [hkhz, heq]
        exact mshcEnableClock_clockSet p ciu _ hinner (by omega) (by omega) fun hz hhz =>
          (bestClock_limit_iff (Nat.div_mul_le_self _ _) hhz).mpr (hclear hlt)
      · rw [hkhz, heq]
        exact mshcEnableClock_clockSet p ciu _ hinner (by omega) hle fun _ hhz => hhz

/-- A card limited to 50 MHz, asked for 208 MHz. -/
theorem set_clock_50mhz :
    ClockSet (clockLimitHz 50000000 208000)
      (mshcSetClock ⟨0, 50000000, false, some 0⟩ .sdr104 (fun _ => true)
        ⟨0, 0, 0, 0, 0, none, 0, 0, 0⟩ 208000) :=
  (set_clock_exact ⟨0, 50000000, false, some 0⟩ .sdr104 ⟨0, 0, 0, 0, 0, none, 0, 0, 0⟩ 208000 rfl
    rfl (by omega) (by omega)).mpr (by decide +kernel) fun _ => true

/-- A limit of 500 Hz is a frequency of zero, by which `MshcRockchipSetClock` divides. -/
theorem limit_below_khz :
    mshcSetClock ⟨0, 500, false, some 0⟩ .normal (fun _ => true) ⟨0, 0, 0, 0, 0, none, 0, 0, 0⟩
        400 = .error .divideByZero
      ∧ ¬ ClockSet (clockLimitHz 500 400) (mshcSetClock ⟨0, 500, false, some 0⟩ .normal
          (fun _ => true) ⟨0, 0, 0, 0, 0, none, 0, 0, 0⟩ 400) := by
  have hfault : mshcSetClock ⟨0, 500, false, some 0⟩ .normal (fun _ => true)
      ⟨0, 0, 0, 0, 0, none, 0, 0, 0⟩ 400 = .error .divideByZero := by decide
  refine ⟨hfault, ?_⟩
  rw [hfault]
  exact id

end WoaRk3576.Sd
