/-
# A PL330 channel that executes microcode

The instructions of `Insn` are fetched from memory by their bytes, and executed as the controller
does:

* `DMALP` loads one of two loop counters with its operand, and `DMALPEND` jumps back by its
  operand, counted from itself, as long as the counter is not 0, so an operand `n` runs a body `n +
  1` times;
* a load takes a burst of beats, as many and as large as `CCR` says, into the FIFO, and a store
  takes such a burst out of it; an address goes on where `CCR` says that it increments, and is the
  same for every beat otherwise;
* an instruction with a condition is executed when the request that `DMAWFP` has waited for is of
  that kind.

Time is left out: a wait ends when the peripheral requests.  The trace is what comes out: which
byte went where, the events, and the addresses that were loaded anew.

An instruction whose operands fit is read back from the bytes that were written for it
(`fetch_of_bytesAt`), so that the rest need not speak of bytes.  `Does` is what a piece of code
does wherever it lies in memory and whatever is in the loop counters that it does not use, and has
one rule for sequences and one for loops (`Does.loop`), so that the effect of a program is put
together as its code is.  The rule for loops is an induction over the iterations that are left, the
counter being one less than their number; this is where a count of 256, whose operand is 255, comes
out right.  A body that uses the counter of a loop around it would not, and the rule asks for that.

The last jump of a program has no counter, and its rule (`Does.forever`) is that every number of
passes is reached.  Nothing else can happen, since the thread is deterministic: of two states of a
run one comes first (`Runs.total`), and the trace only grows (`Runs.trace`).
-/
import Mathlib.Logic.Function.Iterate
import Mathlib.Logic.Relation
import WoaRk3576.Dma.Microcode

namespace WoaRk3576.Dma

/-! ## 1. Fetching

The controller reads bytes, so an instruction is decoded from memory, with the encodings that the
emitters of the source use.  What the driver writes is read back, if its operands fit their fields.
-/

/-- The bytes `bs` lie in memory from `pc` on. -/
def BytesAt (mem : Nat → BitVec 8) : Nat → List (BitVec 8) → Prop
  | _, [] => True
  | pc, b :: bs => mem pc = b ∧ BytesAt mem (pc + 1) bs

@[simp]
theorem bytesAt_append {mem : Nat → BitVec 8} : ∀ (pc : Nat) (bs cs : List (BitVec 8)),
    BytesAt mem pc (bs ++ cs) ↔ BytesAt mem pc bs ∧ BytesAt mem (pc + bs.length) cs
  | pc, [], cs => by simp [BytesAt]
  | pc, b :: bs, cs => by
    rw [List.cons_append, BytesAt, BytesAt, bytesAt_append (pc + 1) bs cs, List.length_cons,
      and_assoc, Nat.add_assoc, Nat.add_comm 1]

/-- The code lies in memory from `pc` on. -/
def CodeAt (mem : Nat → BitVec 8) (pc : Nat) (code : List Insn) : Prop :=
  BytesAt mem pc (encode code)

theorem codeAt_cons {mem : Nat → BitVec 8} {pc : Nat} {i : Insn} {code : List Insn} :
    CodeAt mem pc (i :: code) ↔ BytesAt mem pc i.encode ∧ CodeAt mem (pc + i.size) code := by
  unfold CodeAt encode
  rw [List.flatMap_cons, bytesAt_append, Insn.length_encode]

theorem codeAt_append {mem : Nat → BitVec 8} {pc : Nat} {code code' : List Insn} :
    CodeAt mem pc (code ++ code')
      ↔ CodeAt mem pc code ∧ CodeAt mem (pc + codeSize code) code' := by
  have happend : encode (code ++ code') = encode code ++ encode code' := List.flatMap_append
  unfold CodeAt
  rw [happend, bytesAt_append, length_encode]

/-- What was written is there. -/
theorem bytesAt_writeBytes {mem : Nat → BitVec 8} : ∀ (bs : List (BitVec 8)) (i : Nat),
    BytesAt (writeBytes mem i bs) i bs
  | [], _ => trivial
  | b :: bs, i => by
    refine ⟨writeBytes_self b bs i, ?_⟩
    rw [writeBytes]
    exact bytesAt_writeBytes bs (i + 1)

/-- A register that `DMAMOV` names. -/
def DmamovDst.decode (code : BitVec 8) : Option DmamovDst :=
  match code.toNat with
  | 0 => some .sar
  | 1 => some .ccr
  | 2 => some .dar
  | _ => none

/-- An instruction by its first byte, the second one, and the word behind the second one.  `DMALP`
counts one up, and a peripheral or an event is in the upper five bits. -/
def decode (op arg : BitVec 8) (val : BitVec 32) : Option Insn :=
  match op.toNat with
  | 0x04 => some (.ld .always)
  | 0x05 => some (.ld .single)
  | 0x07 => some (.ld .burst)
  | 0x08 => some (.st .always)
  | 0x09 => some (.st .single)
  | 0x0b => some (.st .burst)
  | 0x20 => some (.lp false (arg + 1))
  | 0x22 => some (.lp true (arg + 1))
  | 0x25 => some (.ldp .single (arg >>> 3))
  | 0x27 => some (.ldp .burst (arg >>> 3))
  | 0x28 => some (.lpend .always true false arg.toNat)
  | 0x2c => some (.lpend .always true true arg.toNat)
  | 0x29 => some (.stp .single (arg >>> 3))
  | 0x2b => some (.stp .burst (arg >>> 3))
  | 0x30 => some (.wfp .single (arg >>> 3))
  | 0x32 => some (.wfp .burst (arg >>> 3))
  | 0x31 => some (.wfp .always (arg >>> 3))
  | 0x34 => some (.sev (arg >>> 3))
  | 0x35 => some (.flushp (arg >>> 3))
  | 0x38 => some (.lpend .always false false arg.toNat)
  | 0x39 => some (.lpend .single false false arg.toNat)
  | 0x3b => some (.lpend .burst false false arg.toNat)
  | 0x3c => some (.lpend .always false true arg.toNat)
  | 0x3d => some (.lpend .single false true arg.toNat)
  | 0x3f => some (.lpend .burst false true arg.toNat)
  | 0xbc => (DmamovDst.decode arg).map fun dst => .mov dst val
  | _ => none

/-- **The instruction at `pc`.** -/
def fetch (mem : Nat → BitVec 8) (pc : Nat) : Option Insn :=
  decode (mem pc) (mem (pc + 1))
    ((mem (pc + 5)).setWidth 32 <<< 24 ||| (mem (pc + 4)).setWidth 32 <<< 16
      ||| (mem (pc + 3)).setWidth 32 <<< 8 ||| (mem (pc + 2)).setWidth 32)

/-- The instructions that the bytes tell: jumps that fit, peripherals and events of five bits, and
the conditions that there are. -/
def Insn.Encodable : Insn → Prop
  | .ldp cond peri | .stp cond peri => cond ≠ .always ∧ peri.toNat < 32
  | .flushp peri | .wfp _ peri | .sev peri => peri.toNat < 32
  | .lpend cond forever _ bjump => bjump ≤ 255 ∧ (forever = true → cond = .always)
  | _ => True

theorem peripheralByte_shift {peri : BitVec 8} (h : peri.toNat < 32) :
    peripheralByte peri >>> 3 = peri := by
  have hmask : peri &&& 0x1f = peri := by
    refine BitVec.eq_of_toNat_eq ?_
    rw [BitVec.toNat_and]
    exact (Nat.and_two_pow_sub_one_eq_mod _ 5).trans (Nat.mod_eq_of_lt h)
  unfold peripheralByte
  rw [hmask]
  refine BitVec.eq_of_toNat_eq ?_
  rw [BitVec.toNat_ushiftRight, BitVec.toNat_shiftLeft, Nat.shiftLeft_eq, Nat.shiftRight_eq_div_pow]
  omega

/-- A word is put together from its bytes. -/
theorem word_of_bytes (val : BitVec 32) :
    ((val >>> 24).setWidth 8).setWidth 32 <<< 24 ||| ((val >>> 16).setWidth 8).setWidth 32 <<< 16
      ||| ((val >>> 8).setWidth 8).setWidth 32 <<< 8 ||| (val.setWidth 8).setWidth 32 = val := by
  refine BitVec.eq_of_getLsbD_eq fun i hi => ?_
  simp only [BitVec.getLsbD_or, BitVec.getLsbD_shiftLeft, BitVec.getLsbD_setWidth,
    BitVec.getLsbD_ushiftRight]
  rcases Nat.lt_or_ge i 8 with h8 | h8
  · simp [hi, h8, show i < 16 by omega, show i < 24 by omega]
  · rcases Nat.lt_or_ge i 16 with h16 | h16
    · simp [hi, show ¬ i < 8 by omega, h16, show i < 24 by omega, show i - 8 < 8 by omega,
        show 8 + (i - 8) = i by omega, show i - 8 < 32 by omega]
    · rcases Nat.lt_or_ge i 24 with h24 | h24
      · simp [hi, show ¬ i < 8 by omega, show ¬ i < 16 by omega, h24, show ¬ i - 8 < 8 by omega,
          show i - 16 < 8 by omega, show 16 + (i - 16) = i by omega, show i - 16 < 32 by omega]
      · simp [hi, show ¬ i < 8 by omega, show ¬ i < 16 by omega, show ¬ i < 24 by omega,
          show ¬ i - 8 < 8 by omega, show ¬ i - 16 < 8 by omega, show i - 24 < 8 by omega,
          show 24 + (i - 24) = i by omega, show i - 24 < 32 by omega]

/-- **An instruction is read back from its bytes.** -/
theorem fetch_of_bytesAt {mem : Nat → BitVec 8} {pc : Nat} {i : Insn}
    (h : BytesAt mem pc i.encode) (he : i.Encodable) : fetch mem pc = some i := by
  cases i with
  | flushp peri =>
    obtain ⟨hop, harg, -⟩ := h
    unfold fetch decode
    rw [hop, harg, peripheralByte_shift he]
    rfl
  | ld cond =>
    obtain ⟨hop, -⟩ := h
    unfold fetch decode
    rw [hop]
    cases cond <;> rfl
  | ldp cond peri =>
    obtain ⟨hop, harg, -⟩ := h
    obtain ⟨hcond, hperi⟩ := he
    unfold fetch decode
    rw [hop, harg, peripheralByte_shift hperi]
    cases cond with
    | always => exact absurd rfl hcond
    | single => rfl
    | burst => rfl
  | lp loop cnt =>
    obtain ⟨hop, harg, -⟩ := h
    have hcnt : cnt - 1 + 1 = cnt := BitVec.sub_add_cancel cnt 1
    unfold fetch decode
    rw [hop, harg, hcnt]
    cases loop <;> rfl
  | lpend cond forever loop bjump =>
    obtain ⟨hop, harg, -⟩ := h
    obtain ⟨hjump, hcond⟩ := he
    have hbyte : (BitVec.ofNat 8 bjump).toNat = bjump := by
      rw [BitVec.toNat_ofNat]
      exact Nat.mod_eq_of_lt (by omega)
    unfold fetch decode
    rw [hop, harg, hbyte]
    cases forever with
    | false => cases loop <;> cases cond <;> rfl
    | true =>
      rw [hcond rfl]
      cases loop <;> rfl
  | mov dst val =>
    obtain ⟨hop, hdst, h0, h1, h2, h3, -⟩ := h
    unfold fetch decode
    rw [hop, hdst, h0, h1, h2, h3, word_of_bytes]
    cases dst <;> rfl
  | sev ev =>
    obtain ⟨hop, harg, -⟩ := h
    unfold fetch decode
    rw [hop, harg, peripheralByte_shift he]
    rfl
  | st cond =>
    obtain ⟨hop, -⟩ := h
    unfold fetch decode
    rw [hop]
    cases cond <;> rfl
  | stp cond peri =>
    obtain ⟨hop, harg, -⟩ := h
    obtain ⟨hcond, hperi⟩ := he
    unfold fetch decode
    rw [hop, harg, peripheralByte_shift hperi]
    cases cond with
    | always => exact absurd rfl hcond
    | single => rfl
    | burst => rfl
  | wfp cond peri =>
    obtain ⟨hop, harg, -⟩ := h
    unfold fetch decode
    rw [hop, harg, peripheralByte_shift he]
    cases cond <;> rfl

/-! ## 2. Executing

The registers and the FIFO of one channel.  What a burst has read waits in the FIFO until it is
written; the trace has what went out, byte by byte.  An instruction that would stall for good has
no next state. -/

/-- What comes out of a channel: a byte that was read at `src` and written to `dst`, an event, and
an address that was loaded. -/
inductive DmaEvent
  | byte (src dst : BitVec 32)
  | sev (ev : BitVec 8)
  | address (dst : DmamovDst) (val : BitVec 32)
  deriving DecidableEq, Repr

/-- The registers of a channel, the request that it has waited for, the source addresses of the
bytes in the FIFO, and the trace. -/
structure DmaData where
  sar : BitVec 32
  dar : BitVec 32
  ccr : BitVec 32
  request : Option Pl330Cond
  mfifo : List (BitVec 32)
  trace : List DmaEvent

/-- `src_inc`. -/
def srcInc (ccr : BitVec 32) : Bool := ccr.getLsbD 0

/-- `dst_inc`. -/
def dstInc (ccr : BitVec 32) : Bool := ccr.getLsbD 14

/-- The beats of a store; `brstLen` has those of a load. -/
def dstBrstLen (ccr : BitVec 32) : Nat := ((ccr >>> 18) &&& 0xf).toNat + 1

/-- The bytes of a beat of a store; `brstSize` has those of a load. -/
def dstBrstSize (ccr : BitVec 32) : Nat := 1 <<< ((ccr >>> 15) &&& 0x7).toNat

/-- The address of the byte `k` of a burst. -/
def burstByte (addr : BitVec 32) (inc : Bool) (size k : Nat) : BitVec 32 :=
  addr + BitVec.ofNat 32 (if inc then k else k % size)

/-- The addresses of the bytes of a burst. -/
def burstBytes (addr : BitVec 32) (inc : Bool) (len size : Nat) : List (BitVec 32) :=
  (List.range (len * size)).map (burstByte addr inc size)

/-- The address behind a burst. -/
def burstEnd (addr : BitVec 32) (inc : Bool) (len size : Nat) : BitVec 32 :=
  if inc then addr + BitVec.ofNat 32 (len * size) else addr

def DmaData.load (d : DmaData) : DmaData :=
  { d with
    sar := burstEnd d.sar (srcInc d.ccr) (brstLen d.ccr) (brstSize d.ccr)
    mfifo := d.mfifo
      ++ burstBytes d.sar (srcInc d.ccr) (brstLen d.ccr) (brstSize d.ccr) }

/-- A store stalls without a burst in the FIFO. -/
def DmaData.store (d : DmaData) : Option DmaData :=
  if d.mfifo.length < dstBrstLen d.ccr * dstBrstSize d.ccr then none
  else some { d with
    dar := burstEnd d.dar (dstInc d.ccr) (dstBrstLen d.ccr) (dstBrstSize d.ccr)
    mfifo := d.mfifo.drop (dstBrstLen d.ccr * dstBrstSize d.ccr)
    trace := d.trace ++ List.zipWith .byte d.mfifo
      (burstBytes d.dar (dstInc d.ccr) (dstBrstLen d.ccr) (dstBrstSize d.ccr)) }

/-- The condition of an instruction holds. -/
def DmaData.meets (cond : Pl330Cond) (d : DmaData) : Bool :=
  decide (cond = .always ∨ d.request = some cond)

/-- **The instructions other than loops.**  `DMAWFP` for either kind of request, which leaves the
kind to the peripheral, is not followed. -/
def exec : Insn → DmaData → Option DmaData
  | .flushp _, d => some d
  | .ld cond, d => some (if d.meets cond then d.load else d)
  | .ldp cond _, d => some (if d.meets cond then d.load else d)
  | .st cond, d => if d.meets cond then d.store else some d
  | .stp cond _, d => if d.meets cond then d.store else some d
  | .mov .sar val, d => some { d with sar := val, trace := d.trace ++ [.address .sar val] }
  | .mov .dar val, d => some { d with dar := val, trace := d.trace ++ [.address .dar val] }
  | .mov .ccr val, d => some { d with ccr := val }
  | .sev ev, d => some { d with trace := d.trace ++ [.sev ev] }
  | .wfp .always _, _ => none
  | .wfp cond _, d => some { d with request := some cond }
  | .lp .., _ => none
  | .lpend .., _ => none

/-- A channel thread; `counter` are the loop counters 0 and 1. -/
structure DmaThread where
  pc : Nat
  counter : Bool → BitVec 8
  data : DmaData

/-- The instruction `i`, at the thread's `pc`. -/
def DmaThread.execute (s : DmaThread) : Insn → Option DmaThread
  | .lp loop cnt => some { s with
      pc := s.pc + 2
      counter := Function.update s.counter loop (cnt - 1) }
  | .lpend _ true _ bjump => some { s with pc := s.pc - bjump }
  | .lpend cond false loop bjump =>
    if s.data.meets cond = false ∨ s.counter loop = 0 then some { s with pc := s.pc + 2 }
    else some { s with
      pc := s.pc - bjump
      counter := Function.update s.counter loop (s.counter loop - 1) }
  | i => (exec i s.data).map fun data => { s with pc := s.pc + i.size, data }

def threadStep (mem : Nat → BitVec 8) (s : DmaThread) : Option DmaThread :=
  (fetch mem s.pc).bind s.execute

/-- The thread comes from one state to another. -/
def Runs (mem : Nat → BitVec 8) : DmaThread → DmaThread → Prop :=
  Relation.ReflTransGen fun s t => threadStep mem s = some t

theorem execute_of_exec {s : DmaThread} {i : Insn} {d : DmaData} (h : exec i s.data = some d) :
    s.execute i = some { s with pc := s.pc + i.size, data := d } := by
  have hmap := congrArg
    (Option.map fun data => ({ s with pc := s.pc + i.size, data } : DmaThread)) h
  cases i with
  | lp => cases h
  | lpend => cases h
  | _ => exact hmap

theorem threadStep_of_bytesAt {mem : Nat → BitVec 8} {s : DmaThread} {i : Insn}
    (h : BytesAt mem s.pc i.encode) (he : i.Encodable) : threadStep mem s = s.execute i := by
  unfold threadStep
  rw [fetch_of_bytesAt h he]
  rfl

/-! ## 3. What a piece of code does

`Does` is the meaning of a piece of code: wherever it lies in memory, it takes the data from one
state to another and the program counter to its end.  It composes, and loops have rules, so a
program is taken apart in the way in which it is put together. -/

/-- **The code takes the data from `d` to `d'`** wherever it lies, and uses no loop counters but
those of `used`. -/
def Does (used : Set Bool) (code : List Insn) (d d' : DmaData) : Prop :=
  ∀ (mem : Nat → BitVec 8) (pc : Nat) (counter : Bool → BitVec 8), CodeAt mem pc code →
    ∃ counter' : Bool → BitVec 8, (∀ loop, loop ∉ used → counter' loop = counter loop)
      ∧ Runs mem ⟨pc, counter, d⟩ ⟨pc + codeSize code, counter', d'⟩

section Does

variable {used : Set Bool} {code code' body : List Insn} {d d' d'' : DmaData}

theorem Does.nil (used : Set Bool) (d : DmaData) : Does used [] d d :=
  fun _ _ counter _ => ⟨counter, fun _ _ => rfl, .refl⟩

theorem Does.append (h : Does used code d d') (h' : Does used code' d' d'') :
    Does used (code ++ code') d d'' := by
  intro mem pc counter hcode
  obtain ⟨hfirst, hsecond⟩ := codeAt_append.mp hcode
  obtain ⟨counter', hkept, hruns⟩ := h mem pc counter hfirst
  obtain ⟨counter'', hkept', hruns'⟩ := h' mem _ counter' hsecond
  refine ⟨counter'', fun loop hloop => (hkept' loop hloop).trans (hkept loop hloop), ?_⟩
  rw [codeSize_append, ← Nat.add_assoc]
  exact hruns.trans hruns'

theorem Does.mono {used' : Set Bool} (h : Does used code d d') (hsub : used ⊆ used') :
    Does used' code d d' := by
  intro mem pc counter hcode
  obtain ⟨counter', hkept, hruns⟩ := h mem pc counter hcode
  exact ⟨counter', fun loop hloop => hkept loop fun hin => hloop (hsub hin), hruns⟩

/-- An instruction that is no loop. -/
theorem Does.insn {i : Insn} (used : Set Bool) (he : i.Encodable) (h : exec i d = some d') :
    Does used [i] d d' := by
  intro mem pc counter hcode
  refine ⟨counter, fun _ _ => rfl, .single ?_⟩
  rw [threadStep_of_bytesAt (codeAt_cons.mp hcode).1 he, execute_of_exec h, codeSize_cons]
  rfl

theorem Does.cons {i : Insn} (he : i.Encodable) (hi : exec i d = some d')
    (h : Does used code d' d'') : Does used (i :: code) d d'' :=
  (Does.insn used he hi).append h

/-- The end of the last iteration. -/
theorem threadStep_lpend_last {mem : Nat → BitVec 8} {pc bjump : Nat} {loop : Bool}
    {counter : Bool → BitVec 8} {d : DmaData}
    (h : BytesAt mem pc (Insn.lpend .always false loop bjump).encode) (hfit : bjump ≤ 255)
    (hzero : counter loop = 0) :
    threadStep mem ⟨pc, counter, d⟩ = some ⟨pc + 2, counter, d⟩ := by
  have hencodable : (Insn.lpend .always false loop bjump).Encodable := ⟨hfit, fun _ => rfl⟩
  have hstep := @threadStep_of_bytesAt mem ⟨pc, counter, d⟩ _ h hencodable
  exact hstep.trans (if_pos (.inr hzero))

/-- The end of an iteration before the last. -/
theorem threadStep_lpend_again {mem : Nat → BitVec 8} {pc bjump : Nat} {loop : Bool}
    {counter : Bool → BitVec 8} {d : DmaData}
    (h : BytesAt mem (pc + bjump) (Insn.lpend .always false loop bjump).encode)
    (hfit : bjump ≤ 255) (hnonzero : counter loop ≠ 0) :
    threadStep mem ⟨pc + bjump, counter, d⟩
      = some ⟨pc, Function.update counter loop (counter loop - 1), d⟩ := by
  have hencodable : (Insn.lpend .always false loop bjump).Encodable := ⟨hfit, fun _ => rfl⟩
  have hstep := @threadStep_of_bytesAt mem ⟨pc + bjump, counter, d⟩ _ h hencodable
  have hgoes : ¬ (d.meets .always = false ∨ counter loop = 0) := by
    rintro (hmeets | hzero)
    · cases hmeets
    · exact hnonzero hzero
  have hjump := hstep.trans (if_neg hgoes)
  have hback : pc + bjump - bjump = pc := Nat.add_sub_cancel ..
  rw [hjump]
  dsimp only
  rw [hback]

/-- The loop from one of its iterations on; `left` is what its counter holds. -/
theorem Does.iterate {σ : Nat → DmaData} {cnt : Nat} {loop : Bool} (hloop : loop ∉ used)
    (hfit : codeSize body ≤ 255) (hcnt : cnt ≤ 256)
    (hbody : ∀ k < cnt, Does used body (σ k) (σ (k + 1))) {mem : Nat → BitVec 8} {pc : Nat}
    (hin : CodeAt mem pc body)
    (hend : BytesAt mem (pc + codeSize body)
      (Insn.lpend .always false loop (codeSize body)).encode) (left : Nat) :
    ∀ (k : Nat) (counter : Bool → BitVec 8), k + left + 1 = cnt →
      counter loop = BitVec.ofNat 8 left →
      ∃ counter' : Bool → BitVec 8, (∀ l, l ∉ insert loop used → counter' l = counter l)
        ∧ Runs mem ⟨pc, counter, σ k⟩ ⟨pc + codeSize body + 2, counter', σ cnt⟩ := by
  induction left with
  | zero =>
    intro k counter hk hleft
    obtain ⟨counter', hkept, hruns⟩ := hbody k (by omega) mem pc counter hin
    have hlast : k + 1 = cnt := by omega
    refine ⟨counter', fun l hl => hkept l fun hused => hl (.inr hused), hruns.tail ?_⟩
    rw [hlast]
    exact threadStep_lpend_last hend hfit ((hkept loop hloop).trans hleft)
  | succ left ih =>
    intro k counter hk hleft
    obtain ⟨counter', hkept, hruns⟩ := hbody k (by omega) mem pc counter hin
    have hcounter : counter' loop = BitVec.ofNat 8 (left + 1) := (hkept loop hloop).trans hleft
    have hnonzero : counter' loop ≠ 0 := by
      rw [hcounter]
      intro hzero
      have htoNat := congrArg BitVec.toNat hzero
      rw [BitVec.toNat_ofNat, Nat.mod_eq_of_lt (by omega)] at htoNat
      cases htoNat
    have hnext : counter' loop - 1 = BitVec.ofNat 8 left := by
      rw [hcounter, BitVec.ofNat_add]
      exact BitVec.add_sub_cancel _ _
    obtain ⟨counter'', hkept', hruns'⟩ := ih (k + 1)
      (Function.update counter' loop (counter' loop - 1)) (by omega)
      (by rw [Function.update_self, hnext])
    refine ⟨counter'', fun l hl => ?_,
      (hruns.tail (threadStep_lpend_again hend hfit hnonzero)).trans hruns'⟩
    rw [hkept' l hl, Function.update_of_ne fun heq => hl (.inl heq)]
    exact hkept l fun hused => hl (.inr hused)

/-- **The rule for loops.**  `cnt` is the number of iterations, and `σ k` the data before the one
with number `k`. -/
theorem Does.loop {σ : Nat → DmaData} {cnt : Nat} (loop : Bool) (hloop : loop ∉ used)
    (hfit : codeSize body ≤ 255) (hpos : 1 ≤ cnt) (hcnt : cnt ≤ 256)
    (hbody : ∀ k < cnt, Does used body (σ k) (σ (k + 1))) :
    Does (insert loop used) (.lp loop (BitVec.ofNat 8 cnt)
      :: (body ++ [.lpend .always false loop (codeSize body)])) (σ 0) (σ cnt) := by
  intro mem pc counter hcode
  obtain ⟨hlp, hrest⟩ := codeAt_cons.mp hcode
  obtain ⟨hin, hend⟩ := codeAt_append.mp hrest
  have hoperand : BitVec.ofNat 8 cnt - 1 = BitVec.ofNat 8 (cnt - 1) := by
    obtain ⟨n, rfl⟩ := Nat.exists_eq_add_of_le' hpos
    rw [BitVec.ofNat_add]
    exact BitVec.add_sub_cancel _ _
  have hstart : threadStep mem ⟨pc, counter, σ 0⟩
      = some ⟨pc + 2, Function.update counter loop (BitVec.ofNat 8 cnt - 1), σ 0⟩ :=
    @threadStep_of_bytesAt mem ⟨pc, counter, σ 0⟩ _ hlp trivial
  obtain ⟨counter', hkept, hruns⟩ := Does.iterate hloop hfit hcnt hbody hin
    (codeAt_cons.mp hend).1 (cnt - 1) 0
    (Function.update counter loop (BitVec.ofNat 8 cnt - 1)) (by omega)
    (by rw [Function.update_self, hoperand])
  have hsize : pc + codeSize (.lp loop (BitVec.ofNat 8 cnt)
      :: (body ++ [.lpend .always false loop (codeSize body)]))
      = pc + 2 + codeSize body + 2 := by
    simp only [codeSize_cons, codeSize_append, codeSize_nil, Insn.size]
    omega
  refine ⟨counter', fun l hl => ?_, ?_⟩
  · rw [hkept l hl, Function.update_of_ne fun heq => hl (.inl heq)]
  · rw [hsize]
    exact .head hstart hruns

/-- The same for a body that is a function on the states that meet `P`. -/
theorem Does.loop_iterate {P : DmaData → Prop} {f : DmaData → DmaData}
    (hbody : ∀ d, P d → Does used body d (f d) ∧ P (f d)) {cnt : Nat} (loop : Bool)
    (hloop : loop ∉ used) (hfit : codeSize body ≤ 255) (hpos : 1 ≤ cnt) (hcnt : cnt ≤ 256)
    (hd : P d) :
    Does (insert loop used) (.lp loop (BitVec.ofNat 8 cnt)
      :: (body ++ [.lpend .always false loop (codeSize body)])) d (f^[cnt] d) ∧ P (f^[cnt] d) := by
  have hkept : ∀ k, P (f^[k] d) := by
    intro k
    induction k with
    | zero => exact hd
    | succ k ih =>
      rw [Function.iterate_succ_apply']
      exact (hbody _ ih).2
  refine ⟨@Does.loop used body (fun k => f^[k] d) cnt loop hloop hfit hpos hcnt ?_, hkept cnt⟩
  intro k _
  have hstep := (hbody _ (hkept k)).1
  rw [← Function.iterate_succ_apply' f k d] at hstep
  exact hstep

/-- Copies of a piece of code, on states that meet `P`. -/
theorem Does.replicate {P : DmaData → Prop} {f : DmaData → DmaData}
    (hbody : ∀ d, P d → Does used body d (f d) ∧ P (f d)) :
    ∀ (n : Nat) (d : DmaData), P d →
      Does used (List.replicate n body).flatten d (f^[n] d) ∧ P (f^[n] d)
  | 0, d, hd => ⟨.nil used d, hd⟩
  | n + 1, d, hd => by
    obtain ⟨hfirst, hd'⟩ := hbody d hd
    obtain ⟨hrest, hend⟩ := Does.replicate hbody n (f d) hd'
    rw [List.replicate_succ, List.flatten_cons, Function.iterate_succ_apply]
    exact ⟨hfirst.append hrest, hend⟩

/-- **The rule for the jump for ever**: every number of passes is reached. -/
theorem Does.forever {P : DmaData → Prop} {f : DmaData → DmaData}
    (hbody : ∀ d, P d → Does used body d (f d) ∧ P (f d)) {mem : Nat → BitVec 8} {pc : Nat}
    {loop : Bool} (hfit : codeSize body ≤ 255)
    (hcode : CodeAt mem pc (body ++ [.lpend .always true loop (codeSize body)])) (n : Nat) :
    ∀ (counter : Bool → BitVec 8) (d : DmaData), P d →
      ∃ counter', Runs mem ⟨pc, counter, d⟩ ⟨pc, counter', f^[n] d⟩ := by
  obtain ⟨hin, hjump⟩ := codeAt_append.mp hcode
  induction n with
  | zero => exact fun counter _ _ => ⟨counter, .refl⟩
  | succ n ih =>
    intro counter d hd
    obtain ⟨hpass, hd'⟩ := hbody d hd
    obtain ⟨counter', -, hruns⟩ := hpass mem pc counter hin
    have hencodable : (Insn.lpend .always true loop (codeSize body)).Encodable :=
      ⟨hfit, fun _ => rfl⟩
    have hback : threadStep mem ⟨pc + codeSize body, counter', f d⟩ = some ⟨pc, counter', f d⟩ := by
      have hstep := @threadStep_of_bytesAt mem ⟨pc + codeSize body, counter', f d⟩ _
        (codeAt_cons.mp hjump).1 hencodable
      have hdistance : pc + codeSize body - codeSize body = pc := Nat.add_sub_cancel ..
      rw [hstep, DmaThread.execute, hdistance]
    obtain ⟨counter'', hruns'⟩ := ih counter' (f d) hd'
    rw [Function.iterate_succ_apply]
    exact ⟨counter'', (hruns.tail hback).trans hruns'⟩

end Does

/-! ## 4. Whole runs

A run is deterministic, so of two states that it reaches one comes first. -/

/-- Nothing is taken back from the trace. -/
theorem exec_trace {i : Insn} {d d' : DmaData} (h : exec i d = some d') :
    d.trace <+: d'.trace := by
  have hload : ∀ cond, some (if d.meets cond then d.load else d) = some d' →
      d.trace <+: d'.trace := by
    intro cond hsome
    cases hsome
    split
    · exact List.prefix_rfl
    · exact List.prefix_rfl
  have hstore : ∀ cond, (if d.meets cond then d.store else some d) = some d' →
      d.trace <+: d'.trace := by
    intro cond hsome
    split at hsome
    · unfold DmaData.store at hsome
      split at hsome
      · cases hsome
      · cases hsome
        exact List.prefix_append ..
    · cases hsome
      exact List.prefix_rfl
  cases i with
  | flushp => cases h; exact List.prefix_rfl
  | ld cond => exact hload cond h
  | ldp cond => exact hload cond h
  | lp => cases h
  | lpend => cases h
  | mov dst val =>
    cases dst with
    | sar => cases h; exact List.prefix_append ..
    | ccr => cases h; exact List.prefix_rfl
    | dar => cases h; exact List.prefix_append ..
  | sev => cases h; exact List.prefix_append ..
  | st cond => exact hstore cond h
  | stp cond => exact hstore cond h
  | wfp cond peri =>
    cases cond with
    | always => cases h
    | single => cases h; exact List.prefix_rfl
    | burst => cases h; exact List.prefix_rfl

theorem execute_trace {i : Insn} {s t : DmaThread} (h : s.execute i = some t) :
    s.data.trace <+: t.data.trace := by
  have hplain : ∀ j, (exec j s.data).map (fun data => ({ s with
      pc := s.pc + j.size, data } : DmaThread)) = some t → s.data.trace <+: t.data.trace := by
    intro j hmap
    obtain ⟨d, hexec, rfl⟩ := Option.map_eq_some_iff.mp hmap
    exact exec_trace hexec
  cases i with
  | lp => cases h; exact List.prefix_rfl
  | lpend cond forever loop bjump =>
    cases forever with
    | true => cases h; exact List.prefix_rfl
    | false =>
      rw [DmaThread.execute] at h
      split at h
      · cases h; exact List.prefix_rfl
      · cases h; exact List.prefix_rfl
  | flushp peri => exact hplain (.flushp peri) h
  | ld cond => exact hplain (.ld cond) h
  | ldp cond peri => exact hplain (.ldp cond peri) h
  | mov dst val => exact hplain (.mov dst val) h
  | sev ev => exact hplain (.sev ev) h
  | st cond => exact hplain (.st cond) h
  | stp cond peri => exact hplain (.stp cond peri) h
  | wfp cond peri => exact hplain (.wfp cond peri) h

/-- **The trace only grows.** -/
theorem Runs.trace {mem : Nat → BitVec 8} {s t : DmaThread} (h : Runs mem s t) :
    s.data.trace <+: t.data.trace := by
  induction h with
  | refl => exact List.prefix_rfl
  | tail _ hstep ih =>
    obtain ⟨i, -, hexecute⟩ := Option.bind_eq_some_iff.mp hstep
    exact ih.trans (execute_trace hexecute)

/-- Of two states of a run one comes first. -/
theorem Runs.total {mem : Nat → BitVec 8} {s t u : DmaThread} (ht : Runs mem s t)
    (hu : Runs mem s u) : Runs mem t u ∨ Runs mem u t :=
  Relation.ReflTransGen.total_of_right_unique
    (fun _ _ _ h h' => Option.some.inj (h.symm.trans h')) ht hu

end WoaRk3576.Dma
