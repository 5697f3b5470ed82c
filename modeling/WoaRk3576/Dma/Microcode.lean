/-
# The microcode of `SubmitAudioDMA`, byte by byte

`SubmitAudioDMA` writes the program of a channel into the channel's slice of the microcode buffer:
a loop for ever over a loop over periods over loops over bursts.  A loop ends in a jump back by a
distance that the encoder measures with its byte cursor and stores in 8 bits.

The functions here return what the source emits as a list of `_emit_*` calls; `Insn.encode` is the
bytes each of them writes and `codeSize` the cursor.  A jump distance is kept as it was measured,
`Insn.encode` truncates it.

Nothing compares the sizes with any limit.  `JumpsFit` is that no distance was truncated, and
`jumpsFit_loopCyclic` is what it comes to: up to 256 periods are one loop, so the program is a loop
over a period inside the jump for ever, and in a period only the loop over the unrolled bursts has
a jump of any length (`jumpsFit_emitPeriod`).  Each jump goes back over less than the one around
it, so the jump for ever is what fails first, and one inequality about the size of a period decides
on all of them.

`Audio/Submit.lean` puts the buffers of csaudiork3x into that inequality, and `AudioPass.lean` says
what a program does whose jumps fit.
-/
import WoaRk3576.Lib.Loop
import Mathlib.Algebra.Order.BigOperators.Group.List
import Mathlib.Tactic.Ring

namespace WoaRk3576.Dma

open WoaRk3576.Lib

/-! ## 1. The instructions

An `_emit_*` function writes the bytes of one instruction and returns how many these are, whether
it writes them or not.  So the length of a program is known before it is written, and the jumps are
computed from lengths. -/

/-- `pl330_cond`. -/
inductive Pl330Cond
  | single | burst | always
  deriving DecidableEq, Repr

/-- `dmamov_dst`. -/
inductive DmamovDst
  | sar | ccr | dar
  deriving DecidableEq, Repr

/-- A call of an `_emit_*` function, with its arguments; the loop registers are `LC0` and, when
`loop` is set, `LC1`. -/
inductive Insn
  | flushp (peri : BitVec 8)
  | ld (cond : Pl330Cond)
  | ldp (cond : Pl330Cond) (peri : BitVec 8)
  | lp (loop : Bool) (cnt : BitVec 8)
  | lpend (cond : Pl330Cond) (forever loop : Bool) (bjump : Nat)
  | mov (dst : DmamovDst) (val : BitVec 32)
  | sev (ev : BitVec 8)
  | st (cond : Pl330Cond)
  | stp (cond : Pl330Cond) (peri : BitVec 8)
  | wfp (cond : Pl330Cond) (peri : BitVec 8)
  deriving DecidableEq, Repr

def DmamovDst.code : DmamovDst → BitVec 8
  | .sar => 0
  | .ccr => 1
  | .dar => 2

/-- The condition bits of `DMALD`, `DMAST` and `DMALPEND`. -/
def Pl330Cond.bits : Pl330Cond → BitVec 8
  | .single => 1
  | .burst => 3
  | .always => 0

/-- The bit of `DMALDP` and `DMASTP`. -/
def Pl330Cond.peripheralBits : Pl330Cond → BitVec 8
  | .burst => 2
  | _ => 0

/-- The bits of `DMAWFP`. -/
def Pl330Cond.waitBits : Pl330Cond → BitVec 8
  | .single => 0
  | .burst => 2
  | .always => 1

/-- A peripheral or an event, in its byte. -/
def peripheralByte (peri : BitVec 8) : BitVec 8 := (peri &&& 0x1f) <<< 3

/-- **The bytes an `_emit_*` function writes.** -/
def Insn.encode : Insn → List (BitVec 8)
  | .flushp peri => [0x35, peripheralByte peri]
  | .ld cond => [0x04 ||| cond.bits]
  | .ldp cond peri => [0x25 ||| cond.peripheralBits, peripheralByte peri]
  | .lp loop cnt => [0x20 ||| (if loop then 2 else 0), cnt - 1]
  | .lpend cond forever loop bjump =>
    [0x28 ||| (if loop then 4 else 0) ||| (if forever then 0 else 0x10) ||| cond.bits,
      BitVec.ofNat 8 bjump]
  | .mov dst val =>
    [0xbc, dst.code, val.setWidth 8, (val >>> 8).setWidth 8, (val >>> 16).setWidth 8,
      (val >>> 24).setWidth 8]
  | .sev ev => [0x34, peripheralByte ev]
  | .st cond => [0x08 ||| cond.bits]
  | .stp cond peri => [0x29 ||| cond.peripheralBits, peripheralByte peri]
  | .wfp cond peri => [0x30 ||| cond.waitBits, peripheralByte peri]

/-- `SZ_DMA*`: what an `_emit_*` function returns. -/
def Insn.size : Insn → Nat
  | .ld _ | .st _ => 1
  | .mov _ _ => 6
  | _ => 2

/-- The cursor behind `code`. -/
def codeSize (code : List Insn) : Nat := (code.map Insn.size).sum

/-- The bytes of `code`. -/
def encode (code : List Insn) : List (BitVec 8) := code.flatMap Insn.encode

@[simp] theorem codeSize_nil : codeSize [] = 0 := rfl

@[simp] theorem codeSize_cons (i : Insn) (code : List Insn) :
    codeSize (i :: code) = i.size + codeSize code := by
  simp [codeSize]

@[simp] theorem codeSize_append (code code' : List Insn) :
    codeSize (code ++ code') = codeSize code + codeSize code' := by
  simp [codeSize]

/-- Copies of one piece of code. -/
@[simp] theorem codeSize_replicate (n : Nat) (code : List Insn) :
    codeSize (List.replicate n code).flatten = n * codeSize code := by
  induction n with
  | zero => simp
  | succ n ih =>
    rw [List.replicate_succ, List.flatten_cons, codeSize_append, ih]
    ring

theorem Insn.length_encode (i : Insn) : i.encode.length = i.size := by
  cases i <;> rfl

/-- **The cursor counts the bytes.** -/
@[simp] theorem length_encode (code : List Insn) : (encode code).length = codeSize code := by
  induction code with
  | nil => rfl
  | cons i code ih =>
    rw [encode, List.flatMap_cons, List.length_append, Insn.length_encode, codeSize_cons]
    exact congrArg _ ih

/-! ## 2. `SubmitAudioDMA`

The program is a list of instructions: two addresses, the periods of a pass in loops of two levels,
and a jump back to the start for ever.  Its bytes go into the slice of the microcode buffer that
belongs to the thread. -/

/-- `XFER_SPEC`. -/
structure XferSpec where
  ccr : BitVec 32
  involvesDevice : Bool
  toDevice : Bool
  peripheral : BitVec 8
  numPeriods : Nat
  srcAddr : BitVec 32
  dstAddr : BitVec 32
  periodBytes : Nat
  deriving DecidableEq, Repr

/-- `BRST_LEN`. -/
def brstLen (ccr : BitVec 32) : Nat := ((ccr >>> 4) &&& 0xf).toNat + 1

/-- `BRST_SIZE`. -/
def brstSize (ccr : BitVec 32) : Nat := 1 <<< ((ccr >>> 1) &&& 0x7).toNat

/-- `BYTE_TO_BURST`. -/
def byteToBurst (b : Nat) (ccr : BitVec 32) : Nat := b / brstSize ccr / brstLen ccr

/-- `BYTE_MOD_BURST_LEN`. -/
def byteModBurstLen (b : Nat) (ccr : BitVec 32) : Nat := b / brstSize ccr % brstLen ccr

/-- `_ldst_memtomem`. -/
def ldstMemtomem (cyc : Nat) : List Insn :=
  (List.replicate cyc [.ld .always, .st .always]).flatten

/-- `_emit_load`. -/
def emitLoad (cond : Pl330Cond) (pxs : XferSpec) : List Insn :=
  if !pxs.involvesDevice || (pxs.involvesDevice && pxs.toDevice) then [.ld cond]
  else if cond = .always then [.ldp .single pxs.peripheral, .ldp .burst pxs.peripheral]
  else [.ldp cond pxs.peripheral]

/-- `_emit_store`. -/
def emitStore (cond : Pl330Cond) (pxs : XferSpec) : List Insn :=
  if !pxs.involvesDevice || (pxs.involvesDevice && !pxs.toDevice) then [.st cond]
  else if cond = .always then [.stp .single pxs.peripheral, .stp .burst pxs.peripheral]
  else [.stp cond pxs.peripheral]

/-- `_ldst_peripheral`. -/
def ldstPeripheral (pxs : XferSpec) (cyc : Nat) (cond : Pl330Cond) : List Insn :=
  .flushp pxs.peripheral :: (List.replicate cyc
    (.wfp cond pxs.peripheral :: (emitLoad cond pxs ++ emitStore cond pxs))).flatten

/-- `_bursts`. -/
def emitBursts (pxs : XferSpec) (cyc : Nat) : List Insn :=
  if pxs.involvesDevice then ldstPeripheral pxs cyc .burst else ldstMemtomem cyc

/-- `dregs_ccr`: the burst lengths replaced. -/
def dregsCcr (ccr : BitVec 32) (transferLength : Nat) : BitVec 32 :=
  (ccr &&& ~~~((0xf : BitVec 32) <<< 4 ||| (0xf : BitVec 32) <<< 18))
    ||| ((BitVec.ofNat 32 (transferLength - 1) &&& 0xf) <<< 4)
    ||| ((BitVec.ofNat 32 (transferLength - 1) &&& 0xf) <<< 18)

/-- `_dregs`. -/
def emitDregs (pxs : XferSpec) (transferLength : Nat) : List Insn :=
  if transferLength = 0 then []
  else .mov .ccr (dregsCcr pxs.ccr transferLength) ::
    (if pxs.involvesDevice then ldstPeripheral pxs 1 .burst else ldstMemtomem 1)

/-- A loop on `LC1`: `_emit_LP`, the body, `_emit_LPEND` back to the body. -/
def emitLoop1 (cnt : Nat) (body : List Insn) : List Insn :=
  .lp true (BitVec.ofNat 8 cnt) :: (body ++ [.lpend .always false true (codeSize body)])

/-- `lcnt1` of `_period`, for loop 1. -/
def periodCount (bursts : Nat) : Nat := if bursts > 256 then 256 else bursts

/-- `cyc` of `_period`. -/
def periodCyc (bursts : Nat) : Nat := if bursts > 256 then bursts / 256 else 1

/-- `lcnt1` of `_period`, for the remainder. -/
def periodRemainder (bursts : Nat) : Nat := bursts - periodCount bursts * periodCyc bursts

/-- `_period`. -/
def emitPeriod (pxs : XferSpec) (bursts : Nat) (ev : BitVec 8) : List Insn :=
  emitLoop1 (periodCount bursts) (emitBursts pxs (periodCyc bursts))
    ++ (if periodRemainder bursts ≠ 0
        then emitLoop1 (periodRemainder bursts) (emitBursts pxs 1) else [])
    ++ (if byteModBurstLen pxs.periodBytes pxs.ccr ≠ 0
        then emitDregs pxs (byteModBurstLen pxs.periodBytes pxs.ccr) ++ [.mov .ccr pxs.ccr]
        else [])
    ++ [.sev ev]

/-- The loop that finds `periods` and `lcnt0`. -/
def periodsStep (numPeriods : Nat) (s : Nat × Nat) : Option (Nat × Nat) :=
  if s.2 > 256 then some (s.1 + 1, numPeriods / (s.1 + 1)) else none

/-- `periods` and `lcnt0`. -/
def splitPeriods (numPeriods : Nat) : Nat × Nat :=
  loop (periodsStep numPeriods) numPeriods (1, numPeriods)

/-- The loop on `LC0` over the periods. -/
def emitLoop0 (cnt : Nat) (body : List Insn) : List Insn :=
  .lp false (BitVec.ofNat 8 cnt) :: (body ++ [.lpend .always false false (codeSize body)])

/-- `_loop_cyclic`, up to the jump for ever. -/
def emitPass (pxs : XferSpec) (bursts : Nat) (ev : BitVec 8) : List Insn :=
  let split := splitPeriods pxs.numPeriods
  [.mov .sar pxs.srcAddr, .mov .dar pxs.dstAddr]
    ++ emitLoop0 split.2 (List.replicate split.1 (emitPeriod pxs bursts ev)).flatten
    ++ (List.replicate (pxs.numPeriods % split.1) (emitPeriod pxs bursts ev)).flatten

/-- `_loop_cyclic`. -/
def loopCyclic (pxs : XferSpec) (bursts : Nat) (ev : BitVec 8) : List Insn :=
  emitPass pxs bursts ev
    ++ [.lpend .always true true (codeSize (emitPass pxs bursts ev))]

/-- `ccr` in `SubmitAudioDMA`: bursts of 8 beats of 4 bytes, non-secure. -/
def submitCcr (fromDevice : Bool) : BitVec 32 :=
  (if fromDevice then 1 <<< 14 else 1 <<< 0) ||| (1 <<< 9 ||| 1 <<< 23)
    ||| (7 <<< 4) ||| (7 <<< 18) ||| (2 <<< 1) ||| (2 <<< 15)

/-- `pxs` in `SubmitAudioDMA`. -/
def submitSpec (id : BitVec 8) (fromDevice : Bool) (srcAddr dstAddr : BitVec 32)
    (len periodLen : Nat) : XferSpec where
  ccr := submitCcr fromDevice
  involvesDevice := true
  toDevice := !fromDevice
  peripheral := id
  numPeriods := len / periodLen
  srcAddr := srcAddr
  dstAddr := dstAddr
  periodBytes := periodLen

/-- **What `SubmitAudioDMA` emits** for the thread `id`. -/
def submitCode (id : BitVec 8) (fromDevice : Bool) (srcAddr dstAddr : BitVec 32)
    (len periodLen : Nat) : List Insn :=
  .mov .ccr (submitCcr fromDevice)
    :: loopCyclic (submitSpec id fromDevice srcAddr dstAddr len periodLen)
      (byteToBurst periodLen (submitCcr fromDevice)) id

/-- `MCBufSz`. -/
def mcBufSz : Nat := 256 * 2

/-- `MCcpu` of the thread `id`, in the microcode buffer. -/
def mcCpu (id : BitVec 8) : Nat := id.toNat * mcBufSz

/-- Bytes written at `i` and after it. -/
def writeBytes (mem : Nat → BitVec 8) : Nat → List (BitVec 8) → Nat → BitVec 8
  | _, [] => mem
  | i, b :: bs => writeBytes (Function.update mem i b) (i + 1) bs

/-- **`SubmitAudioDMA`, on the microcode buffer**: the buffer afterwards and whether the status
is success, when `_start` returns `started`. -/
def submitMicrocode (mCodeCpu : Nat → BitVec 8) (id : BitVec 8) (fromDevice : Bool)
    (srcAddr dstAddr : BitVec 32) (len periodLen : Nat) (started : Bool) :
    (Nat → BitVec 8) × Bool :=
  (writeBytes mCodeCpu (mcCpu id)
    (encode (submitCode id fromDevice srcAddr dstAddr len periodLen)), started)

/-! ## 3. Sizes

The length of a program depends on how the bursts of a period are divided into a loop and a
remainder, and on whether there are dregs. -/

section Sizes

variable {pxs : XferSpec} {cyc n bursts : Nat} {ev : BitVec 8}

@[simp] theorem codeSize_ldstPeripheral :
    codeSize (ldstPeripheral pxs cyc .burst)
      = 2 + cyc * (2 + (codeSize (emitLoad .burst pxs) + codeSize (emitStore .burst pxs))) := by
  simp [ldstPeripheral, Insn.size]

/-- A burst between a buffer and a device takes three bytes, whatever the direction. -/
theorem codeSize_emitLoad_add_emitStore (h : pxs.involvesDevice = true) :
    codeSize (emitLoad .burst pxs) + codeSize (emitStore .burst pxs) = 3 := by
  cases htoDevice : pxs.toDevice with
  | true => simp [emitLoad, emitStore, h, htoDevice, Insn.size]
  | false => simp [emitLoad, emitStore, h, htoDevice, Insn.size]

theorem codeSize_emitBursts (h : pxs.involvesDevice = true) :
    codeSize (emitBursts pxs cyc) = 2 + cyc * 5 := by
  rw [emitBursts, if_pos h, codeSize_ldstPeripheral, codeSize_emitLoad_add_emitStore h]

theorem codeSize_emitDregs (h : pxs.involvesDevice = true) (hn : n ≠ 0) :
    codeSize (emitDregs pxs n) = 13 := by
  rw [emitDregs, if_neg hn, if_pos h, codeSize_cons, codeSize_ldstPeripheral,
    codeSize_emitLoad_add_emitStore h]
  rfl

@[simp] theorem codeSize_emitLoop1 (cnt : Nat) (body : List Insn) :
    codeSize (emitLoop1 cnt body) = codeSize body + 4 := by
  simp [emitLoop1, Insn.size]
  omega

@[simp] theorem codeSize_emitLoop0 (cnt : Nat) (body : List Insn) :
    codeSize (emitLoop0 cnt body) = codeSize body + 4 := by
  simp [emitLoop0, Insn.size]
  omega

/-- **The size of a period**: the unrolled bursts, the remainder, the dregs. -/
theorem codeSize_emitPeriod (h : pxs.involvesDevice = true) :
    codeSize (emitPeriod pxs bursts ev)
      = 8 + 5 * periodCyc bursts + (if periodRemainder bursts ≠ 0 then 11 else 0)
        + (if byteModBurstLen pxs.periodBytes pxs.ccr ≠ 0 then 19 else 0) := by
  have hrest : codeSize (if periodRemainder bursts ≠ 0
      then emitLoop1 (periodRemainder bursts) (emitBursts pxs 1) else [])
      = if periodRemainder bursts ≠ 0 then 11 else 0 := by
    split
    · rw [codeSize_emitLoop1, codeSize_emitBursts h]
    · rfl
  have hdregs : codeSize (if byteModBurstLen pxs.periodBytes pxs.ccr ≠ 0
      then emitDregs pxs (byteModBurstLen pxs.periodBytes pxs.ccr) ++ [.mov .ccr pxs.ccr]
      else []) = if byteModBurstLen pxs.periodBytes pxs.ccr ≠ 0 then 19 else 0 := by
    split
    · rename_i hne
      rw [codeSize_append, codeSize_emitDregs h hne]
      rfl
    · rfl
  rw [emitPeriod, codeSize_append, codeSize_append, codeSize_append, hrest, hdregs,
    codeSize_emitLoop1, codeSize_emitBursts h]
  simp only [codeSize_cons, codeSize_nil, Insn.size]
  ring

/-- Up to 256 periods are one loop. -/
theorem splitPeriods_of_le {numPeriods : Nat} (h : numPeriods ≤ 256) :
    splitPeriods numPeriods = (1, numPeriods) :=
  loop_none (by rw [periodsStep, if_neg (by omega)]) _

theorem codeSize_emitPass (h : pxs.numPeriods ≤ 256) :
    codeSize (emitPass pxs bursts ev) = 16 + codeSize (emitPeriod pxs bursts ev) := by
  simp only [emitPass, splitPeriods_of_le h, Nat.mod_one, List.replicate_zero,
    List.flatten_nil, List.append_nil, codeSize_append, codeSize_cons, codeSize_nil,
    codeSize_emitLoop0, codeSize_replicate, Insn.size]
  ring

theorem codeSize_loopCyclic (h : pxs.numPeriods ≤ 256) :
    codeSize (loopCyclic pxs bursts ev) = 18 + codeSize (emitPeriod pxs bursts ev) := by
  rw [loopCyclic, codeSize_append, codeSize_emitPass h]
  simp only [codeSize_cons, codeSize_nil, Insn.size]
  ring

end Sizes

/-! ## 4. Jumps

A jump back is one byte long.  In a program of up to 256 periods the longest one goes over the
whole of a period and the loops around it, so one inequality about the size of a period says that
all of them fit. -/

/-- The distance of a jump fits its operand. -/
def Insn.JumpFits : Insn → Prop
  | .lpend _ _ _ bjump => bjump ≤ 255
  | _ => True

/-- **Every jump back is encoded as it was measured.** -/
def JumpsFit (code : List Insn) : Prop := ∀ i ∈ code, i.JumpFits

section Jumps

variable {pxs : XferSpec} {code code' body : List Insn} {cyc cnt n bursts : Nat} {ev : BitVec 8}

@[simp] theorem jumpsFit_nil : JumpsFit [] := fun _ h => absurd h List.not_mem_nil

@[simp] theorem jumpsFit_cons (i : Insn) :
    JumpsFit (i :: code) ↔ i.JumpFits ∧ JumpsFit code := List.forall_mem_cons

@[simp] theorem jumpsFit_append : JumpsFit (code ++ code') ↔ JumpsFit code ∧ JumpsFit code' :=
  List.forall_mem_append

theorem JumpsFit.replicate (h : JumpsFit code) (n : Nat) :
    JumpsFit (List.replicate n code).flatten := by
  intro i hi
  obtain ⟨c, hc, hmem⟩ := List.mem_flatten.mp hi
  rw [List.eq_of_mem_replicate hc] at hmem
  exact h i hmem

@[simp] theorem jumpsFit_emitLoop1 :
    JumpsFit (emitLoop1 cnt body) ↔ JumpsFit body ∧ codeSize body ≤ 255 := by
  simp [emitLoop1, Insn.JumpFits]

@[simp] theorem jumpsFit_emitLoop0 :
    JumpsFit (emitLoop0 cnt body) ↔ JumpsFit body ∧ codeSize body ≤ 255 := by
  simp [emitLoop0, Insn.JumpFits]

/-- Bursts have no jumps. -/
theorem jumpsFit_ldstPeripheral : JumpsFit (ldstPeripheral pxs cyc .burst) := by
  have hload : JumpsFit (emitLoad .burst pxs) := by
    unfold emitLoad
    split
    · simp [Insn.JumpFits]
    · simp [Insn.JumpFits]
  have hstore : JumpsFit (emitStore .burst pxs) := by
    unfold emitStore
    split
    · simp [Insn.JumpFits]
    · simp [Insn.JumpFits]
  rw [ldstPeripheral, jumpsFit_cons]
  refine ⟨trivial, JumpsFit.replicate ?_ _⟩
  rw [jumpsFit_cons, jumpsFit_append]
  exact ⟨trivial, hload, hstore⟩

theorem jumpsFit_ldstMemtomem : JumpsFit (ldstMemtomem cyc) :=
  JumpsFit.replicate (by simp [Insn.JumpFits]) _

theorem jumpsFit_emitBursts : JumpsFit (emitBursts pxs cyc) := by
  unfold emitBursts
  split
  · exact jumpsFit_ldstPeripheral
  · exact jumpsFit_ldstMemtomem

theorem jumpsFit_emitDregs : JumpsFit (emitDregs pxs n) := by
  unfold emitDregs
  split
  · exact jumpsFit_nil
  · rw [jumpsFit_cons]
    refine ⟨trivial, ?_⟩
    split
    · exact jumpsFit_ldstPeripheral
    · exact jumpsFit_ldstMemtomem

/-- In a period only the loop over the unrolled bursts can be too long. -/
theorem jumpsFit_emitPeriod (h : pxs.involvesDevice = true) :
    JumpsFit (emitPeriod pxs bursts ev) ↔ 2 + periodCyc bursts * 5 ≤ 255 := by
  have hrest : JumpsFit (if periodRemainder bursts ≠ 0
      then emitLoop1 (periodRemainder bursts) (emitBursts pxs 1) else []) := by
    split
    · rw [jumpsFit_emitLoop1, codeSize_emitBursts h]
      exact ⟨jumpsFit_emitBursts, by omega⟩
    · exact jumpsFit_nil
  have hdregs : JumpsFit (if byteModBurstLen pxs.periodBytes pxs.ccr ≠ 0
      then emitDregs pxs (byteModBurstLen pxs.periodBytes pxs.ccr) ++ [.mov .ccr pxs.ccr]
      else []) := by
    split
    · simp [jumpsFit_emitDregs, Insn.JumpFits]
    · exact jumpsFit_nil
  rw [emitPeriod, jumpsFit_append, jumpsFit_append, jumpsFit_append, jumpsFit_emitLoop1,
    codeSize_emitBursts h]
  exact ⟨fun hfit => hfit.1.1.1.2, fun hle =>
    ⟨⟨⟨⟨jumpsFit_emitBursts, hle⟩, hrest⟩, hdregs⟩, by simp [Insn.JumpFits]⟩⟩

/-- **The jumps of a program with up to 256 periods**: the longest is the one for ever. -/
theorem jumpsFit_loopCyclic (h : pxs.involvesDevice = true) (hn : pxs.numPeriods ≤ 256) :
    JumpsFit (loopCyclic pxs bursts ev)
      ↔ 16 + codeSize (emitPeriod pxs bursts ev) ≤ 255 := by
  rw [loopCyclic, jumpsFit_append, codeSize_emitPass hn]
  constructor
  · rintro ⟨-, hjump⟩
    exact hjump _ List.mem_cons_self
  · intro hle
    have hperiod := @codeSize_emitPeriod pxs bursts ev h
    have hbody : JumpsFit (emitPeriod pxs bursts ev) :=
      (jumpsFit_emitPeriod h).mpr (by omega)
    refine ⟨?_, by simp [Insn.JumpFits, hle]⟩
    simp only [emitPass, splitPeriods_of_le hn, Nat.mod_one, List.replicate_zero,
      List.flatten_nil, List.append_nil, jumpsFit_append, jumpsFit_cons, jumpsFit_nil,
      jumpsFit_emitLoop0, codeSize_replicate]
    exact ⟨⟨trivial, trivial, trivial⟩, hbody.replicate 1, by omega⟩

end Jumps

/-! ## 5. The slice of the thread

The bytes go to the thread's own part of the microcode buffer, one after another, and nothing else
in the buffer changes. -/

theorem writeBytes_of_outside {mem : Nat → BitVec 8} : ∀ (bs : List (BitVec 8)) (i j : Nat),
    j < i ∨ i + bs.length ≤ j → writeBytes mem i bs j = mem j
  | [], _, _, _ => rfl
  | b :: bs, i, j, h => by
    rw [List.length_cons] at h
    rw [writeBytes, writeBytes_of_outside bs (i + 1) j (by omega),
      Function.update_of_ne (by omega)]

theorem writeBytes_self {mem : Nat → BitVec 8} (b : BitVec 8) (bs : List (BitVec 8)) (i : Nat) :
    writeBytes mem i (b :: bs) i = b := by
  rw [writeBytes, writeBytes_of_outside bs (i + 1) i (by omega), Function.update_self]

end WoaRk3576.Dma
