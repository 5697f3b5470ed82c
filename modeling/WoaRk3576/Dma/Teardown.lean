/-
# The teardown of pl330dma: `FreeResources`

`FreeResources` calls `_stop` as often as there are channels and frees the microcode buffer and the
channel structures then.  The calls are those of `Channels`, with the controller moving between any
two of their accesses; every one of them is for the first channel.

A channel that executes leaves its program by itself or by a kill, and none starts again, so a
channel executes freed memory exactly if it executes when the memory is freed.  `teardown_safe_iff`
says for which channels that cannot happen.

* Where no other channel executes, the invariant follows the first one (`TeardownInv`).  `_stop`
  returns at a read only in states that do not execute, and otherwise behind a kill, which an idle
  manager obeys; so from the first call that has returned on it does not execute, and neither do
  the others, which nobody starts.
* Where another channel executes, there is a run that shows it: the controller need not move that
  channel, the calls come to their end all the same, since each of them reads the first channel
  only, and the memory is freed with the other one as it was (`Untouched.free`).

The condition on the runs is that the manager is idle when a debug instruction is to be written.
If it is not, `_execute_DBGINSN` gives up without a word and even the first channel may go on.
-/
import WoaRk3576.Dma.Channels

namespace WoaRk3576.Dma

open WoaRk3576.Lib

/-! ## 1. The teardown

`FreeResources` stops the first channel as often as there are channels, and then frees the memory
in which all programs lie. -/

/-- The controller, the calls of the loop that are left, and whether the memory is freed. -/
structure Teardown where
  world : ChannelWorld
  remaining : Nat
  freed : Bool

inductive TeardownAction
  | stop
  | read
  | debug (idle : Bool)
  | hardware (i : Nat) (cs : BitVec 4)
  | free

/-- `FreeResources` begins. -/
def Teardown.begin (w : ChannelWorld) : Teardown where
  world := { w with call := .idle, returned := .nothing }
  remaining := w.numChan
  freed := false

/-- **`FreeResources`**: `_stop(pDevice->Channels)`, once for every channel, and then the memory. -/
def teardownStep (t : Teardown) : TeardownAction → Option Teardown
  | .stop =>
    if 0 < t.remaining ∧ t.freed = false then
      (channelStep t.world (.stopThread 0)).map fun w =>
        { t with world := w, remaining := t.remaining - 1 }
    else none
  | .read => (channelStep t.world .read).map fun w => { t with world := w }
  | .debug idle => (channelStep t.world (.debug idle)).map fun w => { t with world := w }
  | .hardware i cs => (channelStep t.world (.hardware i cs)).map fun w => { t with world := w }
  | .free =>
    if t.world.call = .idle ∧ t.remaining = 0 ∧ t.freed = false then some { t with freed := true }
    else none

/-- **No channel executes freed memory.** -/
def TeardownSafe (t : Teardown) : Prop :=
  t.freed = true → ∀ i < t.world.numChan, (t.world.state i).executes = false

/-- **The condition on a step**: the manager is idle when a debug instruction is to be written. -/
def ManagerIdle (_ : Teardown) : TeardownAction → Prop
  | .debug idle => idle = true
  | _ => True

instance (t : Teardown) (a : TeardownAction) : Decidable (ManagerIdle t a) :=
  match a with
  | .stop | .read | .hardware _ _ | .free => isTrue trivial
  | .debug idle => inferInstanceAs (Decidable (idle = true))

/-! ## 2. The first channel

The first kill of the first channel, with the manager idle, leaves it without a program, and
nothing in the loop starts it again. -/

/-- A kill of an idle manager leaves nothing that executes. -/
theorem executes_stopKill (w : ChannelWorld) (i : Nat) (caller : StopCaller) :
    ((stopKill w i caller true).state i).executes = false := by
  rw [stopKill_state]
  by_cases hstopped : w.state i = .stopped
  · rw [if_neg fun hand => hand.2 hstopped, hstopped]
    rfl
  · rw [if_pos ⟨rfl, hstopped⟩]
    rfl

theorem state_stopKill_of_ne (w : ChannelWorld) {i j : Nat} (caller : StopCaller) (hne : j ≠ i) :
    (stopKill w i caller true).state j = w.state j := by
  rw [stopKill_state, if_neg fun hand => hne hand.1]

/-- **The invariant**, when no other channel executes: a call is for the first channel, and once a
call has returned the first channel does not execute. -/
structure TeardownInv (w : ChannelWorld) (t : Teardown) : Prop where
  numChan : t.world.numChan = w.numChan
  call : t.world.call = .idle ∨ ∃ pc, t.world.call = .stop 0 .stopThread pc
  remaining : t.remaining ≤ w.numChan
  freed : t.freed = true → t.world.call = .idle ∧ t.remaining = 0
  first : t.world.call = .idle → t.remaining < w.numChan → (t.world.state 0).executes = false
  others : ∀ i, 0 < i → i < w.numChan → (t.world.state i).executes = false

section Inv

variable {w : ChannelWorld} {t t' : Teardown}

theorem teardownInv_begin (hothers : ∀ i, 0 < i → i < w.numChan → (w.state i).executes = false) :
    TeardownInv w (.begin w) where
  numChan := rfl
  call := Or.inl rfl
  remaining := Nat.le_refl _
  freed h := nomatch h
  first _ h := absurd h (Nat.lt_irrefl _)
  others := hothers

/-- A call that returns leaves the first channel not executing. -/
theorem TeardownInv.returns (h : TeardownInv w t) {w' : ChannelWorld}
    (hnot : t.freed = false) (hnum : w'.numChan = t.world.numChan) (hcall : w'.call = .idle)
    (hfirst : (w'.state 0).executes = false)
    (hothers : ∀ i, 0 < i → w'.state i = t.world.state i) :
    TeardownInv w { t with world := w' } where
  numChan := hnum.trans h.numChan
  call := Or.inl hcall
  remaining := h.remaining
  freed hfreed := absurd hfreed (by rw [hnot]; decide)
  first _ _ := hfirst
  others i hpos hlt := (congrArg PL330State.executes (hothers i hpos)).trans (h.others i hpos hlt)

/-- A call that goes on. -/
theorem TeardownInv.goesOn (h : TeardownInv w t) {w' : ChannelWorld} {pc : StopPc}
    (hnot : t.freed = false) (hnum : w'.numChan = t.world.numChan)
    (hcall : w'.call = .stop 0 .stopThread pc)
    (hstate : ∀ i, w'.state i = t.world.state i) : TeardownInv w { t with world := w' } where
  numChan := hnum.trans h.numChan
  call := Or.inr ⟨pc, hcall⟩
  remaining := h.remaining
  freed hfreed := absurd hfreed (by rw [hnot]; decide)
  first hidle := absurd (hcall.symm.trans hidle) (by simp)
  others i hpos hlt := (congrArg PL330State.executes (hstate i)).trans (h.others i hpos hlt)

/-- A call in progress says that the memory is not freed. -/
theorem TeardownInv.not_freed (h : TeardownInv w t) {pc : StopPc}
    (hcall : t.world.call = .stop 0 .stopThread pc) : t.freed = false := by
  cases hfreed : t.freed with
  | false => rfl
  | true =>
    rw [(h.freed hfreed).1] at hcall
    exact nomatch hcall

/-- A read at which the call returns in a state `s` that does not execute. -/
theorem TeardownInv.stopUnless (h : TeardownInv w t) (hnot : t.freed = false) {s : PL330State}
    (hs : s.executes = false) (pc : StopPc) :
    TeardownInv w { t with world := t.world.stopUnless 0 .stopThread s pc } := by
  unfold ChannelWorld.stopUnless
  split
  · rename_i hstate
    exact h.returns hnot rfl rfl ((congrArg PL330State.executes hstate).trans hs) fun _ _ => rfl
  · exact h.goesOn hnot rfl rfl fun _ => rfl

/-- **A read of the state** keeps the invariant: the call returns only in states that do not
execute. -/
theorem TeardownInv.read (h : TeardownInv w t) (hs : teardownStep t .read = some t') :
    TeardownInv w t' := by
  obtain ⟨w', hw', rfl⟩ := Option.map_eq_some_iff.mp hs
  rcases h.call with hcall | ⟨pc, hcall⟩
  · simp only [channelStep, hcall] at hw'
    cases hw'
  · have hnot := h.not_freed hcall
    simp only [channelStep, hcall] at hw'
    cases pc with
    | fault =>
      cases hw'
      exact h.goesOn hnot rfl rfl fun _ => rfl
    | faultWait =>
      cases hw'
      exact h.goesOn hnot rfl rfl fun _ => rfl
    | completing =>
      cases hw'
      exact h.stopUnless hnot rfl .killing
    | killing =>
      cases hw'
      exact h.stopUnless hnot rfl .stopped
    | stopped =>
      cases hw'
      exact h.stopUnless hnot rfl .kill
    | kill => cases hw'

/-- **A kill of an idle manager** ends the program of the first channel. -/
theorem TeardownInv.kill (h : TeardownInv w t) (hs : teardownStep t (.debug true) = some t') :
    TeardownInv w t' := by
  obtain ⟨w', hw', rfl⟩ := Option.map_eq_some_iff.mp hs
  rcases h.call with hcall | ⟨pc, hcall⟩
  · simp only [channelStep, hcall] at hw'
    cases hw'
  · have hnot := h.not_freed hcall
    simp only [channelStep, hcall] at hw'
    cases pc with
    | kill =>
      cases hw'
      refine h.returns hnot rfl rfl ?_ fun i hpos => ?_
      · exact executes_stopKill t.world 0 .stopThread
      · exact state_stopKill_of_ne t.world .stopThread (by omega)
    | fault | faultWait | completing | killing | stopped => cases hw'

/-- What a channel does by itself keeps the invariant: no channel starts to execute. -/
theorem TeardownInv.hardware (h : TeardownInv w t) {i : Nat} {cs : BitVec 4}
    (hs : teardownStep t (.hardware i cs) = some t') : TeardownInv w t' := by
  obtain ⟨w', hw', rfl⟩ := Option.map_eq_some_iff.mp hs
  simp only [channelStep] at hw'
  split at hw'
  · rename_i hnext
    cases hw'
    have hkeep : ∀ j, (t.world.state j).executes = false →
        (pl330State (Function.update t.world.cs i cs j)).executes = false := by
      intro j hj
      by_cases hji : j = i
      · subst hji
        rw [Function.update_self]
        cases hexec : (pl330State cs).executes with
        | false => rfl
        | true =>
          have hbefore := PL330State.executes_of_next _ _ hnext hexec
          rw [hj] at hbefore
          cases hbefore
      · rw [Function.update_of_ne hji]
        exact hj
    exact ⟨h.numChan, h.call, h.remaining, h.freed, fun hidle hlt => hkeep 0 (h.first hidle hlt),
      fun j hpos hlt => hkeep j (h.others j hpos hlt)⟩
  · cases hw'

/-- **Every step keeps the invariant** while the manager is idle for the debug instructions. -/
theorem TeardownInv.step (h : TeardownInv w t) {a : TeardownAction} (hG : ManagerIdle t a)
    (hs : teardownStep t a = some t') : TeardownInv w t' := by
  cases a with
  | stop =>
    simp only [teardownStep, channelStep] at hs
    split at hs
    · rename_i hloop
      split at hs
      · cases hs
        exact ⟨h.numChan, Or.inr ⟨.fault, rfl⟩, Nat.le_trans (Nat.sub_le _ _) h.remaining,
          fun hfreed => absurd hfreed (by rw [hloop.2]; decide), (by rintro ⟨⟩),
          h.others⟩
      · cases hs
    · cases hs
  | read => exact h.read hs
  | debug idle =>
    rw [show idle = true from hG] at hs
    exact h.kill hs
  | hardware i cs => exact h.hardware hs
  | free =>
    simp only [teardownStep] at hs
    split at hs
    · rename_i hend
      cases hs
      exact ⟨h.numChan, h.call, h.remaining, fun _ => ⟨hend.1, hend.2.1⟩, h.first, h.others⟩
    · cases hs

theorem TeardownInv.safe (h : TeardownInv w t) : TeardownSafe t := by
  intro hfreed i hlt
  obtain ⟨hidle, hnone⟩ := h.freed hfreed
  rw [h.numChan] at hlt
  rcases Nat.eq_zero_or_pos i with rfl | hpos
  · exact h.first hidle (by omega)
  · exact h.others i hpos hlt

end Inv

/-! ## 3. The other channels

No call of the loop is for another channel, so one that runs goes on running for as long as the
controller lets it.  A run of the teardown in which it does is given step by step. -/

section Others

variable {w : ChannelWorld} {t : Teardown}

/-- A state of the teardown of `w`, in a call and with calls left, whose other channels are as they
were. -/
structure Untouched (w : ChannelWorld) (call : Call) (remaining : Nat) (t : Teardown) : Prop where
  reached : ReachIf (fun t => t = .begin w) teardownStep ManagerIdle t
  call : t.world.call = call
  remaining : t.remaining = remaining
  freed : t.freed = false
  numChan : t.world.numChan = w.numChan
  others : ∀ i, 0 < i → t.world.cs i = w.cs i

/-- A read that returns or goes on. -/
theorem Untouched.read {pc : StopPc} {remaining : Nat} {call : Call} {returned : Returned}
    (h : Untouched w (.stop 0 .stopThread pc) remaining t)
    (hread : stopRead t.world 0 .stopThread pc = some (t.world.readTo 0 call returned)) :
    ∃ t', Untouched w call remaining t' ∧ t'.world.cs 0 = t.world.cs 0 := by
  have hs : teardownStep t .read
      = some { t with world := t.world.readTo 0 call returned } := by
    simp only [teardownStep, channelStep, h.call, hread, Option.map_some]
  exact ⟨_, ⟨h.reached.after .read hs trivial, rfl, h.remaining, h.freed, h.numChan, h.others⟩, rfl⟩

/-- A read at which the call returns in the state `s`. -/
theorem Untouched.stopUnless {pc next : StopPc} {remaining : Nat} {s : PL330State}
    (h : Untouched w (.stop 0 .stopThread pc) remaining t)
    (hread : stopRead t.world 0 .stopThread pc = some (t.world.stopUnless 0 .stopThread s next)) :
    ∃ t', t'.world.cs 0 = t.world.cs 0 ∧
      (Untouched w .idle remaining t' ∨ Untouched w (.stop 0 .stopThread next) remaining t') := by
  unfold ChannelWorld.stopUnless at hread
  split at hread
  · obtain ⟨t', ht', hcs⟩ := h.read hread
    exact ⟨t', hcs, Or.inl ht'⟩
  · obtain ⟨t', ht', hcs⟩ := h.read hread
    exact ⟨t', hcs, Or.inr ht'⟩

theorem stopRead_fault (w : ChannelWorld) (h : w.state 0 ≠ .faultCompleting) :
    stopRead w 0 .stopThread .fault
      = some (w.readTo 0 (.stop 0 .stopThread .completing) .nothing) := by
  unfold stopRead
  dsimp only
  rw [if_neg h]

/-- The first channel, if it is completing after a fault, faults. -/
theorem Untouched.faults {remaining : Nat} (h : Untouched w .idle remaining t) :
    ∃ t', Untouched w .idle remaining t' ∧ t'.world.state 0 ≠ .faultCompleting := by
  by_cases hfault : t.world.state 0 = .faultCompleting
  · have hs : teardownStep t (.hardware 0 0xf) = some { t with
        world := { t.world with cs := Function.update t.world.cs 0 0xf, returned := .nothing } } := by
      have hnext : (t.world.state 0).next (pl330State 0xf) = true := by
        rw [hfault]
        rfl
      simp only [teardownStep, channelStep, hnext, if_true, Option.map_some]
    refine ⟨_, ⟨h.reached.after (.hardware 0 0xf) hs trivial, h.call, h.remaining, h.freed,
      h.numChan, fun i hpos => ?_⟩, ?_⟩
    · dsimp only
      rw [Function.update_of_ne (by omega)]
      exact h.others i hpos
    · unfold ChannelWorld.state
      dsimp only
      rw [Function.update_self]
      decide
  · exact ⟨t, h, hfault⟩

/-- **A call of `_stop` comes to its end** and leaves the other channels as they are. -/
theorem Untouched.stop {remaining : Nat} (h : Untouched w .idle (remaining + 1) t)
    (hpos : 0 < w.numChan) : ∃ t', Untouched w .idle remaining t' := by
  obtain ⟨t₀, h₀, hstate⟩ := h.faults
  have hcall : teardownStep t₀ .stop = some { t₀ with
      world := { t₀.world with call := .stop 0 .stopThread .fault, returned := .nothing }
      remaining := t₀.remaining - 1 } := by
    have hloop : 0 < t₀.remaining ∧ t₀.freed = false := ⟨by rw [h₀.remaining]; omega, h₀.freed⟩
    have hready : t₀.world.call = .idle ∧ 0 < t₀.world.numChan :=
      ⟨h₀.call, by rw [h₀.numChan]; exact hpos⟩
    simp only [teardownStep, channelStep, if_pos hloop, if_pos hready, Option.map_some]
  have h₁ : Untouched w (.stop 0 .stopThread .fault) remaining { t₀ with
      world := { t₀.world with call := .stop 0 .stopThread .fault, returned := .nothing }
      remaining := t₀.remaining - 1 } :=
    ⟨h₀.reached.after .stop hcall trivial, rfl, by dsimp only; rw [h₀.remaining]; rfl, h₀.freed,
      h₀.numChan, h₀.others⟩
  obtain ⟨t₂, h₂, -⟩ := h₁.read (stopRead_fault _ hstate)
  obtain ⟨t₃, -, h₃ | h₃⟩ := h₂.stopUnless rfl
  · exact ⟨t₃, h₃⟩
  obtain ⟨t₄, -, h₄ | h₄⟩ := h₃.stopUnless rfl
  · exact ⟨t₄, h₄⟩
  obtain ⟨t₅, -, h₅ | h₅⟩ := h₄.stopUnless rfl
  · exact ⟨t₅, h₅⟩
  have hkill : teardownStep t₅ (.debug true)
      = some { t₅ with world := stopKill t₅.world 0 .stopThread true } := by
    simp only [teardownStep, channelStep, h₅.call, Option.map_some]
  refine ⟨_, h₅.reached.after (.debug true) hkill rfl, rfl, h₅.remaining, h₅.freed, h₅.numChan,
    fun i hpos => ?_⟩
  unfold stopKill
  dsimp only
  split
  · rw [Function.update_of_ne (by omega)]
    exact h₅.others i hpos
  · exact h₅.others i hpos

/-- **The loop comes to its end**, and the memory is freed with the other channels as they are. -/
theorem Untouched.free (remaining : Nat) : ∀ {t : Teardown}, Untouched w .idle remaining t →
    0 < w.numChan → ∃ t', ReachIf (fun t => t = .begin w) teardownStep ManagerIdle t'
      ∧ t'.freed = true ∧ t'.world.numChan = w.numChan ∧ ∀ i, 0 < i → t'.world.cs i = w.cs i := by
  induction remaining with
  | zero =>
    intro t h hpos
    have hs : teardownStep t .free = some { t with freed := true } := by
      simp only [teardownStep, if_pos (⟨h.call, h.remaining, h.freed⟩ : _ ∧ _ ∧ _)]
    exact ⟨_, h.reached.after .free hs trivial, rfl, h.numChan, h.others⟩
  | succ remaining ih =>
    intro t h hpos
    obtain ⟨t', h'⟩ := h.stop hpos
    exact ih h' hpos

end Others

/-! ## 4. When the teardown is safe

Both halves together: the first channel is always stopped, and any other one that executes at the
beginning may execute at the end. -/

/-- **The teardown is safe exactly if the first channel is the only one that may execute**, in the
runs in which the manager is idle for the debug instructions.  Every `_stop` is for the first
channel, so from the first one on it does not execute; another channel is stopped by nobody, and
need not stop by itself before the memory is freed. -/
theorem teardown_safe_iff (w : ChannelWorld) :
    (∀ t, ReachIf (fun t => t = .begin w) teardownStep ManagerIdle t → TeardownSafe t)
      ↔ ∀ i, 0 < i → i < w.numChan → (w.state i).executes = false := by
  constructor
  · intro hsafe i hpos hlt
    have hbegin : Untouched w .idle w.numChan (.begin w) :=
      ⟨.start rfl, rfl, rfl, rfl, rfl, fun _ _ => rfl⟩
    obtain ⟨t, hreach, hfreed, hnum, hothers⟩ := hbegin.free w.numChan (by omega)
    have hends := hsafe t hreach hfreed i (by rw [hnum]; exact hlt)
    unfold ChannelWorld.state at hends ⊢
    rwa [hothers i hpos] at hends
  · intro hothers t hreach
    refine TeardownInv.safe (ReachIf.invariant (I := TeardownInv w) ?_ ?_ hreach)
    · rintro s rfl
      exact teardownInv_begin hothers
    · exact fun s a s' h hG hs => h.step hG hs

/-- Two channels, of which the second executes. -/
def secondExecutes : ChannelWorld :=
  { ChannelWorld.fresh 2 with cs := fun i => if i = 1 then 1 else 0 }

/-- **The second channel executes freed memory**: both calls of `_stop` find the first one
stopped. -/
theorem teardown_unsafe :
    ¬ ∀ t, ReachIf (fun t => t = .begin secondExecutes) teardownStep ManagerIdle t →
      TeardownSafe t := by
  intro hsafe
  have hexec : ∃ t, ReachIf (fun t => t = .begin secondExecutes) teardownStep ManagerIdle t ∧
      (t.freed && decide (1 < t.world.numChan) && (t.world.state 1).executes) = true := by
    refine exists_reachIf_of_runIf teardownStep ManagerIdle (s := .begin secondExecutes) ?_
      [.stop, .read, .read, .read, .read, .stop, .read, .read, .read, .read, .free]
      (fun t => t.freed && decide (1 < t.world.numChan) && (t.world.state 1).executes) (by decide)
    rfl
  obtain ⟨t, hreach, ht⟩ := hexec
  rw [Bool.and_eq_true, Bool.and_eq_true, decide_eq_true_eq] at ht
  have hends := hsafe t hreach ht.1.1 1 ht.1.2
  rw [ht.2] at hends
  exact nomatch hends

end WoaRk3576.Dma
