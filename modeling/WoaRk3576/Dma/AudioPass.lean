/-
# What the microcode of `SubmitAudioDMA` does

The program is put together from bursts: a burst moves 32 bytes (`burst_does`), a loop of unrolled
bursts and the loop of those that remain move the bursts of a period, and the dregs of a period
that is no multiple of 32 bytes move with shorter bursts, under another `CCR`.  A period ends in
its event.  The loop over the periods and the ones that remain make up a pass, which starts with
both addresses, and the last jump repeats it.

`submit_passes` says that this is what the bytes in the microcode buffer do on a channel, whenever
the jumps fit their operands: the same pass for ever, with `passTrace` as the trace of each.

* Moving `a` bytes and then `b` from where the first move has ended is moving `a + b`
  (`DmaData.copy_copy`).  Each piece of the code is therefore one move with a length of its own,
  and what is left of a period is arithmetic: unrolled bursts, remainder and dregs add up to it.
* Between two bursts a channel is always in one of the states of `Ready`: an empty FIFO and the
  `CCR` of whole bursts.  The dregs change `CCR` and put it back, and this is what makes a period a
  step that can be repeated.
* The split of the periods into a loop, its unrolled copies and a residue gives back their number
  (`splitPeriods_exact`).
* A pass sets both addresses and so does not depend on where the one before it has ended: all
  passes are the same.

The trace of a pass is defined as a list of moves and events.  That it is what the caller asked
for, each byte of the buffer once and in order, and the event `k` behind `k + 1` periods, is
`passTrace_meets`.
-/
import Mathlib.Data.BitVec
import WoaRk3576.Dma.Pl330

namespace WoaRk3576.Dma

open WoaRk3576.Lib

/-! ## 1. The trace of a pass

What a pass is to do, with no instructions: the bytes of each period, and an event behind them. -/

/-- The byte `k` of a pass: one side goes through the buffer, the other one is a register of four
bytes. -/
def byteMove (toDevice : Bool) (src dst : BitVec 32) (k : Nat) : DmaEvent :=
  .byte (burstByte src toDevice 4 k) (burstByte dst (!toDevice) 4 k)

/-- The bytes from `start` on. -/
def byteMoves (toDevice : Bool) (src dst : BitVec 32) (start len : Nat) : List DmaEvent :=
  (List.range len).map fun k => byteMove toDevice src dst (start + k)

/-- The period `i` of a pass, with its event. -/
def periodTrace (toDevice : Bool) (src dst : BitVec 32) (periodLen : Nat) (ev : BitVec 8)
    (i : Nat) : List DmaEvent :=
  byteMoves toDevice src dst (i * periodLen) periodLen ++ [.sev ev]

/-- The first `n` periods of a pass. -/
def periodsTrace (toDevice : Bool) (src dst : BitVec 32) (periodLen : Nat) (ev : BitVec 8)
    (n : Nat) : List DmaEvent :=
  (List.range n).flatMap (periodTrace toDevice src dst periodLen ev)

/-- **What a pass is to do**: load both addresses, then move the bytes period by period. -/
def passTrace (toDevice : Bool) (src dst : BitVec 32) (len periodLen : Nat) (ev : BitVec 8) :
    List DmaEvent :=
  [.address .sar src, .address .dar dst]
    ++ periodsTrace toDevice src dst periodLen ev (len / periodLen)

/-- The bytes that were moved, by their addresses. -/
def movedBytes (trace : List DmaEvent) : List (BitVec 32 × BitVec 32) :=
  trace.filterMap fun
    | .byte src dst => some (src, dst)
    | _ => none

/-- The events that were signalled. -/
def signalled (trace : List DmaEvent) : List (BitVec 8) :=
  trace.filterMap fun
    | .sev ev => some ev
    | _ => none

section Trace

variable (toDevice : Bool) (src dst : BitVec 32) (periodLen : Nat) (ev : BitVec 8)

@[simp]
theorem movedBytes_append (t u : List DmaEvent) :
    movedBytes (t ++ u) = movedBytes t ++ movedBytes u := List.filterMap_append

@[simp]
theorem signalled_append (t u : List DmaEvent) :
    signalled (t ++ u) = signalled t ++ signalled u := List.filterMap_append

theorem movedBytes_byteMoves (start len : Nat) :
    movedBytes (byteMoves toDevice src dst start len)
      = (List.range len).map fun k =>
        (burstByte src toDevice 4 (start + k), burstByte dst (!toDevice) 4 (start + k)) := by
  unfold movedBytes byteMoves
  rw [List.filterMap_map]
  exact congrFun List.filterMap_eq_map' _

theorem signalled_byteMoves (start len : Nat) :
    signalled (byteMoves toDevice src dst start len) = [] := by
  unfold signalled byteMoves
  rw [List.filterMap_map, List.filterMap_eq_nil_iff]
  exact fun _ _ => rfl

theorem periodsTrace_succ (n : Nat) :
    periodsTrace toDevice src dst periodLen ev (n + 1)
      = periodsTrace toDevice src dst periodLen ev n
        ++ periodTrace toDevice src dst periodLen ev n := by
  unfold periodsTrace
  rw [List.range_succ, List.flatMap_append, List.flatMap_singleton]

/-- **The bytes of the periods are those of the buffer, in order.** -/
theorem movedBytes_periodsTrace (n : Nat) :
    movedBytes (periodsTrace toDevice src dst periodLen ev n)
      = (List.range (n * periodLen)).map fun k =>
        (burstByte src toDevice 4 k, burstByte dst (!toDevice) 4 k) := by
  induction n with
  | zero => simp [periodsTrace, movedBytes]
  | succ n ih =>
    have hsev : movedBytes [.sev ev] = [] := rfl
    rw [periodsTrace_succ, movedBytes_append, ih, periodTrace, movedBytes_append, hsev,
      List.append_nil, movedBytes_byteMoves, Nat.succ_mul, List.range_add, List.map_append,
      List.map_map]
    rfl

/-- One event for each period. -/
theorem signalled_periodsTrace (n : Nat) :
    signalled (periodsTrace toDevice src dst periodLen ev n) = List.replicate n ev := by
  induction n with
  | zero => rfl
  | succ n ih =>
    have hsev : signalled [.sev ev] = [ev] := rfl
    rw [periodsTrace_succ, signalled_append, ih, periodTrace, signalled_append,
      signalled_byteMoves, hsev, List.replicate_succ']
    rfl

theorem sev_not_mem_byteMoves (start len : Nat) (e : BitVec 8) :
    .sev e ∉ byteMoves toDevice src dst start len := by
  unfold byteMoves
  intro hin
  obtain ⟨k, -, hk⟩ := List.mem_map.mp hin
  cases hk

/-- **Where the events stand**: each behind the bytes of its period. -/
theorem periodsTrace_split {e : BitVec 8} {pre : List DmaEvent} (n : Nat) :
    ∀ post, periodsTrace toDevice src dst periodLen ev n = pre ++ .sev e :: post →
      e = ev ∧ ∃ k < n, pre = periodsTrace toDevice src dst periodLen ev k
        ++ byteMoves toDevice src dst (k * periodLen) periodLen := by
  induction n with
  | zero =>
    intro post h
    cases pre <;> cases h
  | succ n ih =>
    intro post h
    rw [periodsTrace_succ, periodTrace, ← List.append_assoc] at h
    rcases List.eq_nil_or_concat post with rfl | ⟨post', x, rfl⟩
    · obtain ⟨hpre, hsev⟩ := List.append_inj' h rfl
      cases hsev
      exact ⟨rfl, n, Nat.lt_succ_self n, hpre.symm⟩
    · have hassoc : pre ++ .sev e :: post'.concat x = (pre ++ .sev e :: post') ++ [x] := by
        simp
      rw [hassoc] at h
      have hinner := (List.append_inj' h rfl).1
      rcases List.append_eq_append_iff.mp hinner with ⟨c, hpre, hmoves⟩ | ⟨c, hperiods, hrest⟩
      · refine absurd ?_ (sev_not_mem_byteMoves toDevice src dst (n * periodLen) periodLen e)
        rw [hmoves]
        simp
      · cases c with
        | nil =>
          refine absurd ?_ (sev_not_mem_byteMoves toDevice src dst (n * periodLen) periodLen e)
          rw [List.nil_append] at hrest
          rw [← hrest]
          simp
        | cons y c =>
          rw [List.cons_append] at hrest
          obtain ⟨hy, -⟩ := List.cons.inj hrest
          rw [← hy] at hperiods
          obtain ⟨he, k, hk, hpre⟩ := ih c hperiods
          exact ⟨he, k, hk.trans (Nat.lt_succ_self n), hpre⟩

end Trace

/-! ## 2. Bursts

Each burst waits for the peripheral, reads and writes.  One after the other they move a consecutive
part of the buffer, so two moves are one longer move. -/

/-- Bytes are moved by a channel that has waited for a burst request. -/
def DmaData.copy (toDevice : Bool) (len : Nat) (d : DmaData) : DmaData :=
  { d with
    sar := if toDevice then d.sar + BitVec.ofNat 32 len else d.sar
    dar := if toDevice then d.dar else d.dar + BitVec.ofNat 32 len
    request := some .burst
    trace := d.trace ++ byteMoves toDevice d.sar d.dar 0 len }

theorem burstByte_add_inc (addr : BitVec 32) (a k : Nat) :
    burstByte (addr + BitVec.ofNat 32 a) true 4 k = burstByte addr true 4 (a + k) := by
  unfold burstByte
  rw [if_pos rfl, if_pos rfl, BitVec.ofNat_add, add_assoc]

theorem burstByte_add_fixed (addr : BitVec 32) {a : Nat} (ha : 4 ∣ a) (k : Nat) :
    burstByte addr false 4 (a + k) = burstByte addr false 4 k := by
  unfold burstByte
  rw [if_neg Bool.false_ne_true, if_neg Bool.false_ne_true]
  have hmod : (a + k) % 4 = k % 4 := by omega
  rw [hmod]

/-- The moves of a channel that is `a` bytes further on. -/
theorem byteMoves_shift (toDevice : Bool) (src dst : BitVec 32) {a : Nat} (ha : 4 ∣ a)
    (start len : Nat) :
    byteMoves toDevice (if toDevice then src + BitVec.ofNat 32 a else src)
        (if toDevice then dst else dst + BitVec.ofNat 32 a) start len
      = byteMoves toDevice src dst (a + start) len := by
  refine List.map_congr_left fun k _ => ?_
  unfold byteMove
  cases toDevice with
  | true =>
    rw [if_pos rfl, if_pos rfl, burstByte_add_inc, Bool.not_true, Nat.add_assoc,
      burstByte_add_fixed dst ha]
  | false =>
    rw [if_neg Bool.false_ne_true, if_neg Bool.false_ne_true, Bool.not_false, burstByte_add_inc,
      Nat.add_assoc, burstByte_add_fixed src ha]

theorem byteMoves_append (toDevice : Bool) (src dst : BitVec 32) (start a b : Nat) :
    byteMoves toDevice src dst start a ++ byteMoves toDevice src dst (start + a) b
      = byteMoves toDevice src dst start (a + b) := by
  unfold byteMoves
  rw [List.range_add, List.map_append, List.map_map]
  refine congrArg _ (List.map_congr_left fun k _ => ?_)
  rw [Function.comp_apply, Nat.add_assoc]

/-- **Two moves are one.** -/
theorem DmaData.copy_copy (toDevice : Bool) {a : Nat} (ha : 4 ∣ a) (b : Nat) (d : DmaData) :
    (d.copy toDevice a).copy toDevice b = d.copy toDevice (a + b) := by
  unfold DmaData.copy
  dsimp only
  rw [byteMoves_shift toDevice d.sar d.dar ha 0 b, List.append_assoc, Nat.add_zero]
  have happend := byteMoves_append toDevice d.sar d.dar 0 a b
  rw [Nat.zero_add] at happend
  rw [happend, BitVec.ofNat_add]
  cases toDevice with
  | true => simp [add_assoc]
  | false => simp [add_assoc]

theorem DmaData.iterate_copy (toDevice : Bool) {a : Nat} (ha : 4 ∣ a) (n : Nat) (d : DmaData) :
    (DmaData.copy toDevice a)^[n + 1] d = d.copy toDevice ((n + 1) * a) := by
  induction n with
  | zero => rw [Function.iterate_one, Nat.zero_add, Nat.one_mul]
  | succ n ih =>
    rw [Function.iterate_succ_apply', ih, DmaData.copy_copy toDevice (ha.mul_left _),
      ← Nat.succ_mul]

/-- `CCR` says that a burst is `n` beats of 4 bytes from a buffer to a register, or back. -/
structure BurstCcr (toDevice : Bool) (n : Nat) (ccr : BitVec 32) : Prop where
  srcInc : srcInc ccr = toDevice
  dstInc : dstInc ccr = !toDevice
  brstLen : brstLen ccr = n
  dstBrstLen : dstBrstLen ccr = n
  brstSize : brstSize ccr = 4
  dstBrstSize : dstBrstSize ccr = 4

section Bursts

variable {pxs : XferSpec} {d : DmaData} {n : Nat}

/-- The wait, the load and the store of a burst. -/
def burstCode (pxs : XferSpec) : List Insn :=
  .wfp .burst pxs.peripheral :: (emitLoad .burst pxs ++ emitStore .burst pxs)

theorem zipWith_bytes (toDevice : Bool) (src dst : BitVec 32) (len : Nat) :
    List.zipWith .byte ((List.range len).map (burstByte src toDevice 4))
      ((List.range len).map (burstByte dst (!toDevice) 4))
      = byteMoves toDevice src dst 0 len := by
  unfold byteMoves
  rw [List.zipWith_map, List.zipWith_self]
  refine List.map_congr_left fun k _ => ?_
  rw [Nat.zero_add]
  rfl

/-- **A burst moves its bytes.** -/
theorem burst_does (used : Set Bool) (hdevice : pxs.involvesDevice = true)
    (hperipheral : pxs.peripheral.toNat < 32) (hccr : BurstCcr pxs.toDevice n d.ccr)
    (hempty : d.mfifo = []) : Does used (burstCode pxs) d (d.copy pxs.toDevice (n * 4)) := by
  obtain ⟨hsrcInc, hdstInc, hsrcLen, hdstLen, hsrcSize, hdstSize⟩ := hccr
  have hload : ∀ i, i = .ld .burst ∨ i = .ldp .burst pxs.peripheral →
      exec i { d with request := some .burst } = some { d with
        request := some .burst
        sar := burstEnd d.sar pxs.toDevice n 4
        mfifo := burstBytes d.sar pxs.toDevice n 4 } := by
    have hexec : some (DmaData.load { d with request := some .burst }) = some { d with
        request := some .burst
        sar := burstEnd d.sar pxs.toDevice n 4
        mfifo := burstBytes d.sar pxs.toDevice n 4 } := by
      unfold DmaData.load
      dsimp only
      rw [hsrcInc, hsrcLen, hsrcSize, hempty, List.nil_append]
    rintro i (rfl | rfl)
    · exact hexec
    · exact hexec
  have hstore : ∀ i, i = .st .burst ∨ i = .stp .burst pxs.peripheral →
      exec i { d with
        request := some .burst
        sar := burstEnd d.sar pxs.toDevice n 4
        mfifo := burstBytes d.sar pxs.toDevice n 4 } = some (d.copy pxs.toDevice (n * 4)) := by
    have hlength : (burstBytes d.sar pxs.toDevice n 4).length = n * 4 := by
      simp [burstBytes]
    have hexec : DmaData.store { d with
        request := some .burst
        sar := burstEnd d.sar pxs.toDevice n 4
        mfifo := burstBytes d.sar pxs.toDevice n 4 } = some (d.copy pxs.toDevice (n * 4)) := by
      have hzip := zipWith_bytes pxs.toDevice d.sar d.dar (n * 4)
      have hdrop : (burstBytes d.sar pxs.toDevice n 4).drop (n * 4) = [] :=
        List.drop_of_length_le hlength.le
      unfold DmaData.store DmaData.copy
      dsimp only
      rw [hdstInc, hdstLen, hdstSize, hlength, if_neg (lt_irrefl _), hdrop]
      unfold burstBytes
      rw [hzip]
      unfold burstEnd
      cases pxs.toDevice with
      | true => simp [hempty]
      | false => simp [hempty]
    rintro i (rfl | rfl)
    · exact hexec
    · exact hexec
  refine Does.cons hperipheral rfl ?_
  unfold emitLoad emitStore
  cases htoDevice : pxs.toDevice with
  | true =>
    rw [htoDevice] at hload hstore
    simp only [hdevice, Bool.not_true, Bool.and_self, Bool.or_true, Bool.and_false, Bool.or_self,
      if_true, reduceCtorEq, if_false, Bool.false_eq_true]
    refine Does.append (Does.insn used trivial (hload _ (.inl rfl))) ?_
    exact Does.insn used ⟨by decide, hperipheral⟩ (hstore _ (.inr rfl))
  | false =>
    rw [htoDevice] at hload hstore
    simp only [hdevice, Bool.not_true, Bool.and_false, Bool.or_self, Bool.false_eq_true, if_false,
      reduceCtorEq, Bool.not_false, Bool.and_self, Bool.or_true, if_true]
    refine Does.append (Does.insn used ⟨by decide, hperipheral⟩ (hload _ (.inr rfl))) ?_
    exact Does.insn used trivial (hstore _ (.inl rfl))

/-- Unrolled bursts. -/
theorem ldstPeripheral_does (used : Set Bool) (hdevice : pxs.involvesDevice = true)
    (hperipheral : pxs.peripheral.toNat < 32) (hccr : BurstCcr pxs.toDevice n d.ccr)
    (hempty : d.mfifo = []) (cyc : Nat) :
    Does used (ldstPeripheral pxs (cyc + 1) .burst) d
      (d.copy pxs.toDevice ((cyc + 1) * (n * 4))) := by
  have hbursts := Does.replicate (P := fun d' => d'.ccr = d.ccr ∧ d'.mfifo = [])
    (f := DmaData.copy pxs.toDevice (n * 4)) (fun d' hd' => ⟨burst_does used hdevice hperipheral
      (hd'.1.symm ▸ hccr) hd'.2, hd'⟩) (cyc + 1) d ⟨rfl, hempty⟩
  rw [DmaData.iterate_copy pxs.toDevice (Nat.dvd_mul_left 4 n)] at hbursts
  exact Does.cons hperipheral rfl hbursts.1

end Bursts

/-! ## 3. Periods

A period is a whole number of bursts and perhaps a part of one.  The bursts are in a loop that is
unrolled as far as its counter asks for, and the rest is moved with shorter bursts, for which `CCR`
is changed and put back. -/

/-- What `_loop_cyclic` relies on in an `XFER_SPEC`: a device with a number that fits, bursts of 32
bytes, and shorter ones for the dregs. -/
structure AudioSpec (pxs : XferSpec) : Prop where
  device : pxs.involvesDevice = true
  peripheral : pxs.peripheral.toNat < 32
  burst : BurstCcr pxs.toDevice 8 pxs.ccr
  dregs : ∀ n, 1 ≤ n → n < 8 → BurstCcr pxs.toDevice n (dregsCcr pxs.ccr n)

/-- A channel between bursts. -/
def Ready (pxs : XferSpec) (d : DmaData) : Prop :=
  d.ccr = pxs.ccr ∧ d.mfifo = []

/-- A period moves its bytes and signals its event. -/
def DmaData.period (toDevice : Bool) (periodLen : Nat) (ev : BitVec 8) (d : DmaData) : DmaData :=
  { d.copy toDevice periodLen with
    trace := (d.copy toDevice periodLen).trace ++ [.sev ev] }

section Periods

variable {pxs : XferSpec} {d : DmaData} (hspec : AudioSpec pxs)

include hspec

theorem emitBursts_does (used : Set Bool) (hready : Ready pxs d) (cyc : Nat) :
    Does used (emitBursts pxs (cyc + 1)) d (d.copy pxs.toDevice ((cyc + 1) * 32)) := by
  unfold emitBursts
  rw [if_pos hspec.device]
  have hburst : BurstCcr pxs.toDevice 8 d.ccr := hready.1.symm ▸ hspec.burst
  exact ldstPeripheral_does used hspec.device hspec.peripheral hburst hready.2 cyc

/-- A loop on `LC1` over unrolled bursts. -/
theorem burstLoop_does (cnt cyc : Nat) (hready : Ready pxs d)
    (hfit : codeSize (emitBursts pxs (cyc + 1)) ≤ 255) (hcnt : cnt + 1 ≤ 256) :
    Does {true} (emitLoop1 (cnt + 1) (emitBursts pxs (cyc + 1))) d
      (d.copy pxs.toDevice ((cnt + 1) * ((cyc + 1) * 32))) := by
  have hbody : ∀ d', Ready pxs d' →
      Does ∅ (emitBursts pxs (cyc + 1)) d' (d'.copy pxs.toDevice ((cyc + 1) * 32))
        ∧ Ready pxs (d'.copy pxs.toDevice ((cyc + 1) * 32)) :=
    fun d' hd' => ⟨emitBursts_does hspec ∅ hd' cyc, hd'⟩
  have hloop := Does.loop_iterate hbody true (Set.notMem_empty _) hfit (Nat.le_add_left 1 cnt)
    hcnt hready
  have hfour : 4 ∣ (cyc + 1) * 32 := Dvd.dvd.mul_left (by decide) _
  rw [DmaData.iterate_copy pxs.toDevice hfour] at hloop
  exact hloop.1.mono (by simp)

/-- **The bursts of a period**: the loop over unrolled ones, and the remainder. -/
theorem periodBursts_does (bursts : Nat) (hready : Ready pxs d) (hpos : 0 < bursts)
    (hfit : codeSize (emitBursts pxs (periodCyc bursts)) ≤ 255) :
    Does {true} (emitLoop1 (periodCount bursts) (emitBursts pxs (periodCyc bursts))
      ++ (if periodRemainder bursts ≠ 0
          then emitLoop1 (periodRemainder bursts) (emitBursts pxs 1) else [])) d
      (d.copy pxs.toDevice (bursts * 32)) := by
  have hcount : 1 ≤ periodCount bursts ∧ periodCount bursts ≤ 256 := by
    unfold periodCount
    split <;> omega
  have hcyc : 1 ≤ periodCyc bursts := by
    unfold periodCyc
    split <;> omega
  have hsplit : periodCount bursts * periodCyc bursts + periodRemainder bursts = bursts
      ∧ periodRemainder bursts < 256 := by
    unfold periodRemainder periodCount periodCyc
    split <;> omega
  obtain ⟨cnt, hcnt⟩ := Nat.exists_eq_add_of_le' hcount.1
  obtain ⟨cyc, hcyc'⟩ := Nat.exists_eq_add_of_le' hcyc
  have hmain := burstLoop_does hspec cnt cyc hready (hcyc' ▸ hfit) (hcnt ▸ hcount.2)
  rw [← hcnt, ← hcyc', ← Nat.mul_assoc] at hmain
  refine hmain.append ?_
  have hfour : 4 ∣ periodCount bursts * periodCyc bursts * 32 := Dvd.dvd.mul_left (by decide) _
  by_cases hrest : periodRemainder bursts = 0
  · rw [if_neg (not_not.mpr hrest)]
    have htotal : bursts = periodCount bursts * periodCyc bursts := by omega
    rw [← htotal]
    exact .nil _ _
  · rw [if_pos hrest]
    obtain ⟨rest, hrest'⟩ := Nat.exists_eq_add_of_le' (Nat.one_le_iff_ne_zero.mpr hrest)
    have hone : codeSize (emitBursts pxs (0 + 1)) ≤ 255 := by
      rw [codeSize_emitBursts hspec.device]
      decide
    have hremainder := burstLoop_does hspec (d := d.copy pxs.toDevice
      (periodCount bursts * periodCyc bursts * 32)) rest 0 hready hone (by omega)
    rw [← hrest', DmaData.copy_copy pxs.toDevice hfour, Nat.zero_add, Nat.one_mul,
      ← Nat.add_mul, hsplit.1] at hremainder
    exact hremainder

/-- **The dregs** move with a shorter burst, and `CCR` is restored. -/
theorem dregs_does {n : Nat} (hready : Ready pxs d) (hpos : n ≠ 0) (hlt : n < 8) :
    Does {true} (emitDregs pxs n ++ [.mov .ccr pxs.ccr]) d (d.copy pxs.toDevice (n * 4)) := by
  have hburst := ldstPeripheral_does (d := { d with ccr := dregsCcr pxs.ccr n }) {true}
    hspec.device hspec.peripheral (hspec.dregs n (Nat.one_le_iff_ne_zero.mpr hpos) hlt)
    hready.2 0
  rw [Nat.zero_add, Nat.one_mul] at hburst
  unfold emitDregs
  rw [if_neg hpos, if_pos hspec.device]
  refine Does.append (Does.cons trivial rfl hburst) (Does.insn _ trivial ?_)
  have hrestored : d.copy pxs.toDevice (n * 4)
      = { d.copy pxs.toDevice (n * 4) with ccr := pxs.ccr } := by
    rw [← hready.1]
    rfl
  rw [hrestored]
  rfl

/-- **A period** moves `periodBytes` bytes and signals the event. -/
theorem emitPeriod_does {ev : BitVec 8} (hev : ev.toNat < 32) (hready : Ready pxs d)
    (hfour : 4 ∣ pxs.periodBytes) (hmin : 32 ≤ pxs.periodBytes)
    (hfit : codeSize (emitBursts pxs (periodCyc (byteToBurst pxs.periodBytes pxs.ccr))) ≤ 255) :
    Does {true} (emitPeriod pxs (byteToBurst pxs.periodBytes pxs.ccr) ev) d
      (d.period pxs.toDevice pxs.periodBytes ev) := by
  have hbursts : byteToBurst pxs.periodBytes pxs.ccr = pxs.periodBytes / 4 / 8 := by
    unfold byteToBurst
    rw [hspec.burst.brstSize, hspec.burst.brstLen]
  have hdregs : byteModBurstLen pxs.periodBytes pxs.ccr = pxs.periodBytes / 4 % 8 := by
    unfold byteModBurstLen
    rw [hspec.burst.brstSize, hspec.burst.brstLen]
  have hmain := periodBursts_does hspec (byteToBurst pxs.periodBytes pxs.ccr) hready (by omega)
    hfit
  have hrest : Does {true} (if byteModBurstLen pxs.periodBytes pxs.ccr ≠ 0
      then emitDregs pxs (byteModBurstLen pxs.periodBytes pxs.ccr) ++ [.mov .ccr pxs.ccr] else [])
      (d.copy pxs.toDevice (byteToBurst pxs.periodBytes pxs.ccr * 32))
      (d.copy pxs.toDevice pxs.periodBytes) := by
    rw [hbursts, hdregs]
    by_cases hzero : pxs.periodBytes / 4 % 8 = 0
    · rw [if_neg (not_not.mpr hzero)]
      have htotal : pxs.periodBytes / 4 / 8 * 32 = pxs.periodBytes := by omega
      rw [htotal]
      exact .nil _ _
    · rw [if_pos hzero]
      have hshort := dregs_does hspec
        (d := d.copy pxs.toDevice (pxs.periodBytes / 4 / 8 * 32)) hready hzero (by omega)
      have htotal : pxs.periodBytes / 4 / 8 * 32 + pxs.periodBytes / 4 % 8 * 4
          = pxs.periodBytes := by omega
      rw [DmaData.copy_copy pxs.toDevice (Dvd.dvd.mul_left (by decide) _), htotal] at hshort
      exact hshort
  exact (hmain.append hrest).append (Does.insn _ hev rfl)

end Periods

/-! ## 4. Passes

The periods of a pass are divided in the same way between a loop, its copies and a residue.  The
sums come out right, and each event stands behind its period. -/

/-- The trace and the addresses after some periods. -/
theorem iterate_period (toDevice : Bool) {periodLen : Nat} (hfour : 4 ∣ periodLen)
    (ev : BitVec 8) (d : DmaData) (n : Nat) :
    ((DmaData.period toDevice periodLen ev)^[n] d).trace
        = d.trace ++ periodsTrace toDevice d.sar d.dar periodLen ev n
      ∧ ((DmaData.period toDevice periodLen ev)^[n] d).sar
        = (if toDevice then d.sar + BitVec.ofNat 32 (n * periodLen) else d.sar)
      ∧ ((DmaData.period toDevice periodLen ev)^[n] d).dar
        = (if toDevice then d.dar else d.dar + BitVec.ofNat 32 (n * periodLen)) := by
  induction n with
  | zero => simp [periodsTrace]
  | succ n ih =>
    obtain ⟨htrace, hsar, hdar⟩ := ih
    have hmoves := byteMoves_shift toDevice d.sar d.dar (hfour.mul_left n) 0 periodLen
    rw [Function.iterate_succ_apply']
    generalize (DmaData.period toDevice periodLen ev)^[n] d = e at *
    unfold DmaData.period DmaData.copy
    dsimp only
    rw [htrace, hsar, hdar, hmoves, Nat.add_zero, periodsTrace_succ, periodTrace, Nat.succ_mul,
      BitVec.ofNat_add]
    refine ⟨by simp only [List.append_assoc], ?_, ?_⟩
    · cases toDevice with
      | true => exact add_assoc ..
      | false => rfl
    · cases toDevice with
      | true => rfl
      | false => exact add_assoc ..

theorem ready_period {pxs : XferSpec} {d : DmaData} (hready : Ready pxs d) (toDevice : Bool)
    (periodLen : Nat) (ev : BitVec 8) : Ready pxs (d.period toDevice periodLen ev) := hready

theorem ready_iterate {pxs : XferSpec} {f : DmaData → DmaData}
    (hf : ∀ d, Ready pxs d → Ready pxs (f d)) (n : Nat) :
    ∀ d, Ready pxs d → Ready pxs (f^[n] d) := by
  induction n with
  | zero => exact fun _ hd => hd
  | succ n ih => exact fun d hd => ih (f d) (hf d hd)

/-- The periods are split between the loop, its unrolled copies and the residue. -/
theorem splitPeriods_exact {numPeriods : Nat} (hpos : 0 < numPeriods) :
    1 ≤ (splitPeriods numPeriods).1 ∧ 1 ≤ (splitPeriods numPeriods).2
      ∧ (splitPeriods numPeriods).2 ≤ 256
      ∧ (splitPeriods numPeriods).2 = numPeriods / (splitPeriods numPeriods).1 := by
  have hend := loop_spec (periodsStep numPeriods)
    (fun left s => left + s.1 = numPeriods + 1 ∧ 1 ≤ s.1 ∧ 1 ≤ s.2 ∧ s.2 = numPeriods / s.1)
    (fun s => 1 ≤ s.1 ∧ 1 ≤ s.2 ∧ s.2 = numPeriods / s.1) ?_ numPeriods numPeriods
    (1, numPeriods) ⟨rfl, le_rfl, hpos, by simp⟩ le_rfl
  · obtain ⟨hstop, hone, htwo, hdiv⟩ := hend
    refine ⟨hone, htwo, ?_, hdiv⟩
    by_contra hmore
    have hgoes : periodsStep numPeriods (splitPeriods numPeriods) ≠ none := by
      unfold periodsStep
      rw [if_pos (Nat.lt_of_not_le hmore)]
      exact Option.some_ne_none _
    exact hgoes hstop
  · rintro left ⟨periods, lcnt0⟩ ⟨hleft, hone, htwo, hdiv⟩
    dsimp only at hleft hone htwo hdiv
    unfold periodsStep
    dsimp only
    by_cases hmore : lcnt0 > 256
    · have hlarge : periods < numPeriods := by
        calc periods < periods * 2 := by omega
          _ ≤ periods * lcnt0 := Nat.mul_le_mul_left _ (by omega)
          _ ≤ numPeriods := hdiv ▸ Nat.mul_div_le numPeriods periods
      have hnext : 1 ≤ numPeriods / (periods + 1) := Nat.div_pos hlarge (Nat.succ_pos periods)
      rw [if_pos hmore]
      exact .inr ⟨_, left - 1, rfl, by omega, by dsimp only; omega, by dsimp only; omega, hnext,
        rfl⟩
    · rw [if_neg hmore]
      exact .inl ⟨rfl, hone, htwo, hdiv⟩

/-- A pass loads the addresses, then does its periods. -/
def DmaData.pass (pxs : XferSpec) (ev : BitVec 8) (d : DmaData) : DmaData :=
  (DmaData.period pxs.toDevice pxs.periodBytes ev)^[pxs.numPeriods]
    { d with
      sar := pxs.srcAddr
      dar := pxs.dstAddr
      trace := d.trace ++ [.address .sar pxs.srcAddr, .address .dar pxs.dstAddr] }

section Passes

variable {pxs : XferSpec} {d : DmaData} {ev : BitVec 8}

theorem ready_pass (hready : Ready pxs d) : Ready pxs (d.pass pxs ev) :=
  ready_iterate (fun _ hd => ready_period hd _ _ _) _ _ hready

theorem pass_trace (hfour : 4 ∣ pxs.periodBytes) :
    (d.pass pxs ev).trace = d.trace ++ ([.address .sar pxs.srcAddr, .address .dar pxs.dstAddr]
      ++ periodsTrace pxs.toDevice pxs.srcAddr pxs.dstAddr pxs.periodBytes ev pxs.numPeriods) := by
  unfold DmaData.pass
  rw [(iterate_period pxs.toDevice hfour ev _ pxs.numPeriods).1, List.append_assoc]

/-- The jumps of a pass that fit leave room for each of its loops. -/
theorem jumpsFit_emitPass_loops (hdevice : pxs.involvesDevice = true) {bursts : Nat}
    (hpos : 0 < pxs.numPeriods) (hfit : JumpsFit (emitPass pxs bursts ev)) :
    codeSize (emitBursts pxs (periodCyc bursts)) ≤ 255
      ∧ codeSize (List.replicate (splitPeriods pxs.numPeriods).1
          (emitPeriod pxs bursts ev)).flatten ≤ 255 := by
  unfold emitPass at hfit
  dsimp only at hfit
  rw [jumpsFit_append, jumpsFit_append, jumpsFit_emitLoop0] at hfit
  obtain ⟨⟨-, hperiods, hsize⟩, -⟩ := hfit
  obtain ⟨copies, hcopies⟩ := Nat.exists_eq_add_of_le' (splitPeriods_exact hpos).1
  rw [hcopies, List.replicate_succ, List.flatten_cons, jumpsFit_append] at hperiods
  refine ⟨?_, hsize⟩
  rw [codeSize_emitBursts hdevice]
  exact (jumpsFit_emitPeriod hdevice).mp hperiods.1

/-- **The periods of a pass**: those of the loop, and the residue. -/
theorem emitPass_does (hspec : AudioSpec pxs) (hev : ev.toNat < 32) (hready : Ready pxs d)
    (hfour : 4 ∣ pxs.periodBytes) (hmin : 32 ≤ pxs.periodBytes) (hpos : 0 < pxs.numPeriods)
    (hfit : JumpsFit (emitPass pxs (byteToBurst pxs.periodBytes pxs.ccr) ev)) :
    Does {false, true} (emitPass pxs (byteToBurst pxs.periodBytes pxs.ccr) ev) d
      (d.pass pxs ev) := by
  obtain ⟨hbursts, hperiods⟩ := jumpsFit_emitPass_loops hspec.device hpos hfit
  obtain ⟨hone, htwo, hmore, hdiv⟩ := splitPeriods_exact hpos
  have hperiod : ∀ d', Ready pxs d' →
      Does {true} (emitPeriod pxs (byteToBurst pxs.periodBytes pxs.ccr) ev) d'
          (d'.period pxs.toDevice pxs.periodBytes ev)
        ∧ Ready pxs (d'.period pxs.toDevice pxs.periodBytes ev) :=
    fun d' hd' => ⟨emitPeriod_does hspec hev hd' hfour hmin hbursts, hd'⟩
  have haddresses : Does {false, true} [.mov .sar pxs.srcAddr, .mov .dar pxs.dstAddr] d
      { d with
        sar := pxs.srcAddr
        dar := pxs.dstAddr
        trace := d.trace ++ [.address .sar pxs.srcAddr, .address .dar pxs.dstAddr] } := by
    refine Does.cons trivial rfl (Does.insn _ trivial ?_)
    unfold exec
    dsimp only
    rw [List.append_assoc]
    rfl
  have hcopies := Does.replicate hperiod (splitPeriods pxs.numPeriods).1
  have hused : false ∉ ({true} : Set Bool) := by simp
  obtain ⟨hloop, hready'⟩ := Does.loop_iterate hcopies false hused hperiods htwo hmore
    (d := { d with
      sar := pxs.srcAddr
      dar := pxs.dstAddr
      trace := d.trace ++ [.address .sar pxs.srcAddr, .address .dar pxs.dstAddr] }) hready
  have hresidue := (Does.replicate hperiod (pxs.numPeriods % (splitPeriods pxs.numPeriods).1) _
    hready').1.mono (Set.subset_insert false {true})
  have htotal : pxs.numPeriods % (splitPeriods pxs.numPeriods).1
      + (splitPeriods pxs.numPeriods).1 * (splitPeriods pxs.numPeriods).2 = pxs.numPeriods := by
    rw [hdiv]
    exact Nat.mod_add_div ..
  rw [← Function.iterate_mul, ← Function.iterate_add_apply, htotal] at hresidue
  rw [← Function.iterate_mul] at hloop
  exact (haddresses.append hloop).append hresidue

end Passes

/-! ## 5. `SubmitAudioDMA`

The pass is repeated by the jump for ever.  Every pass begins as the first one did, as the
addresses are loaded anew, so its trace is the same. -/

/-- **What the caller asks a pass for**: both addresses are loaded, the bytes of the buffer go to
or come from the register in order, and the event `k` is signalled behind `k + 1` periods. -/
structure PassMeets (toDevice : Bool) (src dst : BitVec 32) (len periodLen : Nat) (ev : BitVec 8)
    (trace : List DmaEvent) : Prop where
  addresses : trace.take 2 = [.address .sar src, .address .dar dst]
  bytes : movedBytes trace = (List.range len).map fun k =>
    (burstByte src toDevice 4 k, burstByte dst (!toDevice) 4 k)
  events : signalled trace = List.replicate (len / periodLen) ev
  order : ∀ pre e post, trace = pre ++ .sev e :: post → ∃ k < len / periodLen,
    signalled pre = List.replicate k ev ∧ (movedBytes pre).length = (k + 1) * periodLen

/-- **`passTrace` is what was asked for.** -/
theorem passTrace_meets {len periodLen : Nat} (hdvd : periodLen ∣ len) (toDevice : Bool)
    (src dst : BitVec 32) (ev : BitVec 8) :
    PassMeets toDevice src dst len periodLen ev
      (passTrace toDevice src dst len periodLen ev) where
  addresses := rfl
  bytes := by
    have hnone : movedBytes [.address .sar src, .address .dar dst] = [] := rfl
    rw [passTrace, movedBytes_append, hnone, List.nil_append, movedBytes_periodsTrace,
      Nat.div_mul_cancel hdvd]
  events := by
    have hnone : signalled [.address .sar src, .address .dar dst] = [] := rfl
    rw [passTrace, signalled_append, hnone, List.nil_append, signalled_periodsTrace]
  order := by
    intro pre e post h
    unfold passTrace at h
    cases pre with
    | nil => cases h
    | cons x pre =>
      cases pre with
      | nil => cases h
      | cons y pre =>
        obtain ⟨hx, htail⟩ := List.cons.inj h
        obtain ⟨hy, hperiods⟩ := List.cons.inj htail
        obtain ⟨-, k, hk, rfl⟩ := periodsTrace_split toDevice src dst periodLen ev _ post hperiods
        refine ⟨k, hk, ?_, ?_⟩
        · rw [← hx, ← hy]
          have hplain : signalled (.address .sar src :: .address .dar dst ::
              (periodsTrace toDevice src dst periodLen ev k
                ++ byteMoves toDevice src dst (k * periodLen) periodLen))
              = signalled (periodsTrace toDevice src dst periodLen ev k
                ++ byteMoves toDevice src dst (k * periodLen) periodLen) := rfl
          rw [hplain, signalled_append, signalled_periodsTrace, signalled_byteMoves,
            List.append_nil]
        · rw [← hx, ← hy]
          have hplain : movedBytes (.address .sar src :: .address .dar dst ::
              (periodsTrace toDevice src dst periodLen ev k
                ++ byteMoves toDevice src dst (k * periodLen) periodLen))
              = movedBytes (periodsTrace toDevice src dst periodLen ev k
                ++ byteMoves toDevice src dst (k * periodLen) periodLen) := rfl
          rw [hplain, movedBytes_append, movedBytes_periodsTrace, movedBytes_byteMoves,
            List.length_append, List.length_map, List.length_map, List.length_range,
            List.length_range, Nat.succ_mul]

/-- `CCR` asks for bursts of 32 bytes, and with the lengths replaced for shorter ones. -/
theorem audioSpec_submitSpec {id : BitVec 8} (hid : id.toNat < 32) (fromDevice : Bool)
    (srcAddr dstAddr : BitVec 32) (len periodLen : Nat) :
    AudioSpec (submitSpec id fromDevice srcAddr dstAddr len periodLen) where
  device := rfl
  peripheral := hid
  burst := by
    have hbits : ∀ fromDevice : Bool, srcInc (submitCcr fromDevice) = !fromDevice
        ∧ dstInc (submitCcr fromDevice) = fromDevice
        ∧ brstLen (submitCcr fromDevice) = 8 ∧ dstBrstLen (submitCcr fromDevice) = 8
        ∧ brstSize (submitCcr fromDevice) = 4 ∧ dstBrstSize (submitCcr fromDevice) = 4 := by
      decide
    obtain ⟨hsrcInc, hdstInc, hsrcLen, hdstLen, hsrcSize, hdstSize⟩ := hbits fromDevice
    exact ⟨hsrcInc, hdstInc.trans (Bool.not_not _).symm, hsrcLen, hdstLen, hsrcSize, hdstSize⟩
  dregs := by
    intro n hpos hlt
    have hbits : ∀ fromDevice : Bool, ∀ n : Fin 8, 1 ≤ n.val →
        srcInc (dregsCcr (submitCcr fromDevice) n) = !fromDevice
          ∧ dstInc (dregsCcr (submitCcr fromDevice) n) = fromDevice
          ∧ brstLen (dregsCcr (submitCcr fromDevice) n) = n
          ∧ dstBrstLen (dregsCcr (submitCcr fromDevice) n) = n
          ∧ brstSize (dregsCcr (submitCcr fromDevice) n) = 4
          ∧ dstBrstSize (dregsCcr (submitCcr fromDevice) n) = 4 := by decide
    obtain ⟨hsrcInc, hdstInc, hsrcLen, hdstLen, hsrcSize, hdstSize⟩ :=
      hbits fromDevice ⟨n, hlt⟩ hpos
    exact ⟨hsrcInc, hdstInc.trans (Bool.not_not _).symm, hsrcLen, hdstLen, hsrcSize, hdstSize⟩

/-- The thread comes to the start of each of its passes. -/
theorem submit_runs {id : BitVec 8} {fromDevice : Bool} {srcAddr dstAddr : BitVec 32}
    {len periodLen : Nat} (hid : id.toNat < 32) (hfour : 4 ∣ periodLen) (hmin : 32 ≤ periodLen)
    (hdvd : periodLen ∣ len) (hlen : 0 < len)
    (hfit : JumpsFit (submitCode id fromDevice srcAddr dstAddr len periodLen))
    (mCodeCpu : Nat → BitVec 8) (started : Bool) (counter : Bool → BitVec 8) {d : DmaData}
    (hempty : d.mfifo = []) (n : Nat) :
    ∃ counter' d', Runs (submitMicrocode mCodeCpu id fromDevice srcAddr dstAddr len periodLen
        started).1 ⟨mcCpu id, counter, d⟩ ⟨mcCpu id + 6, counter', d'⟩
      ∧ d'.trace = d.trace ++ (List.replicate n
        (passTrace (!fromDevice) srcAddr dstAddr len periodLen id)).flatten := by
  have hspec := audioSpec_submitSpec hid fromDevice srcAddr dstAddr len periodLen
  have hperiods : 0 < len / periodLen :=
    Nat.div_pos (Nat.le_of_dvd hlen hdvd) (by omega)
  have hcode : CodeAt (submitMicrocode mCodeCpu id fromDevice srcAddr dstAddr len periodLen
      started).1 (mcCpu id) (submitCode id fromDevice srcAddr dstAddr len periodLen) := by
    unfold CodeAt submitMicrocode
    dsimp only
    exact @bytesAt_writeBytes mCodeCpu
      (encode (submitCode id fromDevice srcAddr dstAddr len periodLen)) (mcCpu id)
  obtain ⟨hmov, hloop⟩ := codeAt_cons.mp hcode
  unfold submitCode loopCyclic at hfit
  rw [jumpsFit_cons, jumpsFit_append] at hfit
  obtain ⟨-, hpass, hjump⟩ := hfit
  have hstart : threadStep (submitMicrocode mCodeCpu id fromDevice srcAddr dstAddr len periodLen
      started).1 ⟨mcCpu id, counter, d⟩
      = some ⟨mcCpu id + 6, counter, { d with ccr := submitCcr fromDevice }⟩ :=
    (threadStep_of_bytesAt (s := ⟨mcCpu id, counter, d⟩) hmov trivial).trans (execute_of_exec rfl)
  obtain ⟨counter', hruns⟩ := Does.forever
    (P := Ready (submitSpec id fromDevice srcAddr dstAddr len periodLen))
    (fun d' hd' => ⟨emitPass_does hspec hid hd' hfour hmin hperiods hpass, ready_pass hd'⟩)
    (hjump _ List.mem_cons_self) hloop n counter { d with ccr := submitCcr fromDevice }
    ⟨rfl, hempty⟩
  refine ⟨counter', _, .head hstart hruns, ?_⟩
  clear hruns
  induction n with
  | zero => simp
  | succ n ih =>
    rw [Function.iterate_succ_apply', pass_trace hfour, ih, List.replicate_succ',
      List.flatten_append, List.flatten_singleton, List.append_assoc]
    rfl

/-- **The microcode of `SubmitAudioDMA` does what the caller asked for**, when its jumps fit: the
thread comes to the start of every pass, wherever it is it comes to a further one, and the passes
are all the same one, which meets what was asked for.  The bytes are decoded again for this, so a
jump that does not fit would be seen to lead elsewhere. -/
theorem submit_passes {id : BitVec 8} {fromDevice : Bool} {srcAddr dstAddr : BitVec 32}
    {len periodLen : Nat} (hid : id.toNat < 32) (hfour : 4 ∣ periodLen) (hmin : 32 ≤ periodLen)
    (hdvd : periodLen ∣ len) (hlen : 0 < len)
    (hfit : JumpsFit (submitCode id fromDevice srcAddr dstAddr len periodLen))
    (mCodeCpu : Nat → BitVec 8) (started : Bool) (counter : Bool → BitVec 8) {d : DmaData}
    (hempty : d.mfifo = []) :
    ∃ pass, PassMeets (!fromDevice) srcAddr dstAddr len periodLen id pass
      ∧ (∀ n, ∃ counter' d', Runs (submitMicrocode mCodeCpu id fromDevice srcAddr dstAddr len
          periodLen started).1 ⟨mcCpu id, counter, d⟩ ⟨mcCpu id + 6, counter', d'⟩
        ∧ d'.trace = d.trace ++ (List.replicate n pass).flatten)
      ∧ ∀ t, Runs (submitMicrocode mCodeCpu id fromDevice srcAddr dstAddr len periodLen
          started).1 ⟨mcCpu id, counter, d⟩ t →
        ∃ n counter' d', Runs (submitMicrocode mCodeCpu id fromDevice srcAddr dstAddr len
            periodLen started).1 t ⟨mcCpu id + 6, counter', d'⟩
          ∧ d'.trace = d.trace ++ (List.replicate n pass).flatten := by
  have hpasses := submit_runs hid hfour hmin hdvd hlen hfit mCodeCpu started counter hempty
  refine ⟨_, passTrace_meets hdvd (!fromDevice) srcAddr dstAddr id, hpasses, fun t ht => ?_⟩
  -- so many passes leave a longer trace than there is at `t`
  obtain ⟨counter', d', hruns, htrace⟩ := hpasses (t.data.trace.length + 1)
  refine ⟨_, counter', d', ?_, htrace⟩
  rcases ht.total hruns with hfirst | hsecond
  · exact hfirst
  · have hle := hsecond.trace.length_le
    rw [htrace] at hle
    have htwo : 2 ≤ (passTrace (!fromDevice) srcAddr dstAddr len periodLen id).length := by
      simp [passTrace]
    have hmany := Nat.mul_le_mul_left (t.data.trace.length + 1) htwo
    simp only [List.length_append, List.length_flatten, List.map_replicate,
      List.sum_replicate_nat] at hle
    omega

/-- Two periods of 48 bytes from a buffer to the register of thread 3. -/
theorem submit_passes_of_two_periods :
    ∃ pass, PassMeets true 0x10000000 0x2a6a0024 96 48 3 pass
      ∧ (∀ n, ∃ counter' d', Runs (submitMicrocode (fun _ => 0) 3 false 0x10000000 0x2a6a0024 96 48
          true).1 ⟨mcCpu 3, fun _ => 0, ⟨0, 0, 0, none, [], []⟩⟩ ⟨mcCpu 3 + 6, counter', d'⟩
        ∧ d'.trace = [] ++ (List.replicate n pass).flatten)
      ∧ ∀ t, Runs (submitMicrocode (fun _ => 0) 3 false 0x10000000 0x2a6a0024 96 48 true).1
          ⟨mcCpu 3, fun _ => 0, ⟨0, 0, 0, none, [], []⟩⟩ t →
        ∃ n counter' d', Runs (submitMicrocode (fun _ => 0) 3 false 0x10000000 0x2a6a0024 96 48
            true).1 t ⟨mcCpu 3 + 6, counter', d'⟩
          ∧ d'.trace = [] ++ (List.replicate n pass).flatten := by
  have hfit : JumpsFit (submitCode 3 false 0x10000000 0x2a6a0024 96 48) := by
    have htwo : (submitSpec 3 false 0x10000000 0x2a6a0024 96 48).numPeriods ≤ 256 := by decide
    unfold submitCode
    rw [jumpsFit_cons, jumpsFit_loopCyclic rfl htwo, codeSize_emitPeriod rfl]
    exact ⟨trivial, by decide⟩
  exact submit_passes (by decide) (by decide) (by decide) (by decide) (by decide) hfit
    (fun _ => 0) true (fun _ => 0) rfl

end WoaRk3576.Dma
