/-
# The event words of dwcmshc

Two translations: `MshcConvertIntStatusToStandardEvents` turns the status of the controller and of
its internal DMA into the port driver's events and errors, `MshcConvertStandardEventsToIntStatus`
turns a set of events into the interrupts to enable, to disable or to acknowledge.  The port
driver's bits are any that are told apart.

For `SDPORT_EVENT_ERROR` the way back puts the error bits of the internal DMA into the word of the
controller, where they are other interrupts.  `conversionExact_iff` says that nothing else is
wrong.

`ConversionExact` says that the two fit together: what comes back of the interrupts of a set is in
the set (`sound_of_noError`), each interrupt of the controller, or of the internal DMA, that
reports an event of the set is among them (`hostComplete_of_noError`, `dmaComplete_of_noError`),
and what is switched or acknowledged for the set are interrupts of it.  Both routines are a union
of flags, one for each event, so a bit of the result comes from one flag; the statements then go
flag by flag, with the bits of the port driver taken as they are: different, and otherwise unknown.

With `SDPORT_EVENT_ERROR` in the set, one interrupt that is enabled for it is an event of the
controller which is not in the set, whatever else is.
-/
import WoaRk3576.Lib.Bits
import WoaRk3576.Sd.Mshc

namespace WoaRk3576.Sd.Events

open WoaRk3576.Lib

/-! ## 1. The bits

The interrupts of the controller and of its internal DMA, with the places of their bits.  Those of
the port driver are in a header that is not part of the source, so they are any bits that are
different from each other. -/

/-- **The port driver's words**: a bit for every event, and a bit for every error. -/
structure SdPortBits where
  eventBit : SdEvent → Fin 32
  errorBit : SdError → Fin 32
  eventBit_injective : Function.Injective eventBit
  errorBit_injective : Function.Injective errorBit

/-- `SDPORT_EVENT_*`. -/
def SdPortBits.event (b : SdPortBits) (e : SdEvent) : BitVec 32 := BitVec.twoPow 32 (b.eventBit e)

/-- `SDPORT_ERROR_*` and `SDPORT_GENERIC_IO_ERROR`. -/
def SdPortBits.error (b : SdPortBits) (e : SdError) : BitVec 32 := BitVec.twoPow 32 (b.errorBit e)

def mshcIntEbe : BitVec 32 := 1#32 <<< 15
def mshcIntSbe : BitVec 32 := 1#32 <<< 13
def mshcIntHle : BitVec 32 := 1#32 <<< 12
def mshcIntFrun : BitVec 32 := 1#32 <<< 11
def mshcIntHto : BitVec 32 := 1#32 <<< 10
def mshcIntDrto : BitVec 32 := 1#32 <<< 9
def mshcIntRto : BitVec 32 := 1#32 <<< 8
def mshcIntDcrc : BitVec 32 := 1#32 <<< 7
def mshcIntRcrc : BitVec 32 := 1#32 <<< 6
def mshcIntRxdr : BitVec 32 := 1#32 <<< 5
def mshcIntTxdr : BitVec 32 := 1#32 <<< 4
def mshcIntDto : BitVec 32 := 1#32 <<< 3
def mshcIntCmd : BitVec 32 := 1#32 <<< 2
def mshcIntRe : BitVec 32 := 1#32 <<< 1
def mshcIntCd : BitVec 32 := 1#32 <<< 0

/-- `MSHC_INT_DATA_ERROR`. -/
def mshcIntDataError : BitVec 32 :=
  mshcIntEbe ||| mshcIntSbe ||| mshcIntFrun ||| mshcIntHto ||| mshcIntDrto ||| mshcIntDcrc

/-- `MSHC_INT_CMD_ERROR`. -/
def mshcIntCmdError : BitVec 32 := mshcIntHle ||| mshcIntRto ||| mshcIntRcrc ||| mshcIntRe

/-- `MSHC_INT_ERROR`. -/
def mshcIntError : BitVec 32 := mshcIntDataError ||| mshcIntCmdError

def mshcIdintAis : BitVec 32 := 1#32 <<< 9
def mshcIdintNis : BitVec 32 := 1#32 <<< 8
def mshcIdintCes : BitVec 32 := 1#32 <<< 5
def mshcIdintDui : BitVec 32 := 1#32 <<< 4
def mshcIdintFbe : BitVec 32 := 1#32 <<< 2
def mshcIdintRi : BitVec 32 := 1#32 <<< 1
def mshcIdintTi : BitVec 32 := 1#32 <<< 0

/-! ## 2. The routines

Each routine is a union of flags: a constant for the port driver if some interrupts are set, or
some interrupts if a bit of the port driver is.  Written so, a bit of the result is traced to the
flag it comes from. -/

/-- The test for an error in `MshcConvertIntStatusToStandardEvents`. -/
def HasError (intsts idsts : BitVec 32) : Prop :=
  intsts &&& mshcIntError ≠ 0 ∨ idsts &&& mshcIdintAis ≠ 0

instance (intsts idsts : BitVec 32) : Decidable (HasError intsts idsts) :=
  inferInstanceAs (Decidable (_ ∨ _))

/-- `Events` of `MshcConvertIntStatusToStandardEvents`. -/
def standardEvents (b : SdPortBits) (intsts idsts : BitVec 32) : BitVec 32 :=
  flag intsts mshcIntCmd (b.event .cardResponse)
    ||| flag intsts mshcIntDto (b.event .cardRwEnd)
    ||| flag intsts mshcIntTxdr (b.event .bufferEmpty)
    ||| flag intsts mshcIntRxdr (b.event .bufferFull)
    ||| flag intsts mshcIntCd (b.event .cardChange)
    ||| flag idsts (mshcIdintNis ||| mshcIdintTi ||| mshcIdintRi) (b.event .dmaComplete)
    ||| if HasError intsts idsts then b.event .error else 0

/-- `Errors` of `MshcConvertIntStatusToStandardEvents`. -/
def standardErrors (b : SdPortBits) (intsts idsts : BitVec 32) : BitVec 32 :=
  if HasError intsts idsts then
    flag intsts mshcIntRto (b.error .cmdTimeout)
      ||| flag intsts mshcIntRcrc (b.error .cmdCrcError)
      ||| flag intsts mshcIntRe (b.error .cmdEndBitError ||| b.error .cmdIndexError)
      ||| flag intsts mshcIntDrto (b.error .dataTimeout)
      ||| flag intsts mshcIntDcrc (b.error .dataCrcError)
      ||| flag intsts mshcIntEbe (b.error .dataEndBitError)
      ||| flag intsts (mshcIntSbe ||| mshcIntHle ||| mshcIntFrun) (b.error .genericIoError)
      ||| flag idsts (mshcIdintAis ||| mshcIdintCes ||| mshcIdintDui ||| mshcIdintFbe)
        (b.error .admaError)
  else 0

/-- **`MshcConvertIntStatusToStandardEvents`**. -/
def mshcConvertIntStatusToStandardEvents (b : SdPortBits) (intsts idsts : BitVec 32) :
    BitVec 32 × BitVec 32 :=
  (standardEvents b intsts idsts, standardErrors b intsts idsts)

/-- The bits of `Intsts` for `SDPORT_EVENT_ERROR`.  The last ones are those of the other word. -/
def errorStatus (b : SdPortBits) (errors : BitVec 32) : BitVec 32 :=
  mshcIntError
    ||| flag errors (b.error .cmdTimeout) mshcIntRto
    ||| flag errors (b.error .cmdCrcError) mshcIntRcrc
    ||| flag errors (b.error .cmdEndBitError ||| b.error .cmdIndexError) mshcIntRe
    ||| flag errors (b.error .dataTimeout) mshcIntDrto
    ||| flag errors (b.error .dataCrcError) mshcIntDcrc
    ||| flag errors (b.error .dataEndBitError) mshcIntEbe
    ||| flag errors (b.error .genericIoError) (mshcIntSbe ||| mshcIntHle ||| mshcIntFrun)
    ||| flag errors (b.error .admaError)
      (mshcIdintAis ||| mshcIdintCes ||| mshcIdintDui ||| mshcIdintFbe)

/-- **`MshcConvertStandardEventsToIntStatus`**: `Intsts` and `Idsts`. -/
def mshcConvertStandardEventsToIntStatus (b : SdPortBits) (events errors : BitVec 32) :
    BitVec 32 × BitVec 32 :=
  (flag events (b.event .cardResponse) mshcIntCmd
    ||| flag events (b.event .cardRwEnd) mshcIntDto
    ||| flag events (b.event .bufferEmpty) mshcIntTxdr
    ||| flag events (b.event .bufferFull) mshcIntRxdr
    ||| flag events (b.event .cardChange) mshcIntCd
    ||| flag events (b.event .error) (errorStatus b errors),
    flag events (b.event .dmaComplete) (mshcIdintNis ||| mshcIdintTi ||| mshcIdintRi))

/-- `MSHC_INTMASK` and `MSHC_IDINTEN`. -/
structure InterruptMasks where
  intmask : BitVec 32
  idinten : BitVec 32
  deriving DecidableEq

/-- `MshcEnableInterrupts`. -/
def mshcEnableInterrupts (intsts idsts : BitVec 32) (s : InterruptMasks) : InterruptMasks where
  intmask := s.intmask ||| intsts
  idinten := if idsts ≠ 0 then s.idinten ||| idsts else s.idinten

/-- `MshcDisableInterrupts`. -/
def mshcDisableInterrupts (intsts idsts : BitVec 32) (s : InterruptMasks) : InterruptMasks where
  intmask := s.intmask &&& ~~~intsts
  idinten := if idsts ≠ 0 then s.idinten &&& ~~~idsts else s.idinten

/-- The error mask of the callers. -/
def allErrors : BitVec 32 := 0xFFFF

/-- `Intsts` and `Idsts` of `MshcSlotToggleEvents`; `brokenCd` is the capability. -/
def toggledStatus (b : SdPortBits) (brokenCd : Bool) (eventMask : BitVec 32) :
    BitVec 32 × BitVec 32 :=
  let status := mshcConvertStandardEventsToIntStatus b eventMask allErrors
  let intsts := status.1 ||| mshcIntHto
  (if brokenCd then intsts &&& ~~~mshcIntCd else intsts, status.2)

/-- `MshcSlotToggleEvents`. -/
def mshcSlotToggleEvents (b : SdPortBits) (brokenCd : Bool) (eventMask : BitVec 32)
    (enable : Bool) (s : InterruptMasks) : InterruptMasks :=
  let status := toggledStatus b brokenCd eventMask
  if enable then mshcEnableInterrupts status.1 status.2 s
  else mshcDisableInterrupts status.1 status.2 s

/-- `MshcSlotClearEvents`: what is written to `MSHC_RINTSTS`, and to `MSHC_IDSTS` if that is not
left alone.  Bits that are set acknowledge their interrupts. -/
def mshcSlotClearEvents (b : SdPortBits) (eventMask : BitVec 32) :
    BitVec 32 × Option (BitVec 32) :=
  let status := mshcConvertStandardEventsToIntStatus b eventMask allErrors
  (status.1, if status.2 ≠ 0 then some status.2 else none)

/-! ## 3. What the translations are to do

The two routines are used together: a set of events is turned into interrupts that are enabled, and
the interrupts that come are turned into events.  `ConversionExact` is about both, and about what
is switched and acknowledged for a set. -/

/-- All events that an interrupt of the controller stands for are in the set. -/
def HostBitIn (b : SdPortBits) (events : BitVec 32) (k : Nat) : Prop :=
  Within (standardEvents b (BitVec.twoPow 32 k) 0) events

/-- All events that an interrupt of the internal DMA stands for are in the set. -/
def DmaBitIn (b : SdPortBits) (events : BitVec 32) (k : Nat) : Prop :=
  Within (standardEvents b 0 (BitVec.twoPow 32 k)) events

/-- **The translations fit together** on a set of events: what comes back of the interrupts is in
the set, each interrupt that reports an event of the set is among them, and no other interrupt is
enabled, disabled or acknowledged for the set. -/
structure ConversionExact (b : SdPortBits) (events : BitVec 32) : Prop where
  sound : ∀ i d,
    Within i (mshcConvertStandardEventsToIntStatus b events allErrors).1 →
    Within d (mshcConvertStandardEventsToIntStatus b events allErrors).2 →
      Within (mshcConvertIntStatusToStandardEvents b i d).1 events
  hostComplete : ∀ k < 32,
    (mshcConvertIntStatusToStandardEvents b (BitVec.twoPow 32 k) 0).1 &&& events ≠ 0 →
      (mshcConvertStandardEventsToIntStatus b events allErrors).1.getLsbD k = true
  dmaComplete : ∀ k < 32,
    (mshcConvertIntStatusToStandardEvents b 0 (BitVec.twoPow 32 k)).1 &&& events ≠ 0 →
      (mshcConvertStandardEventsToIntStatus b events allErrors).2.getLsbD k = true
  hostToggles : ∀ brokenCd enable s, ∀ k < 32,
    (mshcSlotToggleEvents b brokenCd events enable s).intmask.getLsbD k ≠ s.intmask.getLsbD k →
      HostBitIn b events k ∨ BitVec.twoPow 32 k = mshcIntHto
  dmaToggles : ∀ brokenCd enable s, ∀ k < 32,
    (mshcSlotToggleEvents b brokenCd events enable s).idinten.getLsbD k ≠ s.idinten.getLsbD k →
      DmaBitIn b events k
  hostClears : ∀ k < 32, (mshcSlotClearEvents b events).1.getLsbD k = true → HostBitIn b events k
  dmaClears : ∀ w ∈ (mshcSlotClearEvents b events).2, ∀ k < 32, w.getLsbD k = true →
    DmaBitIn b events k

/-! ## 4. The interrupts of a set of events

Without `SDPORT_EVENT_ERROR`, five events decide over the word of the controller, so its value is a
finite function of five truth values, and what it carries is decided for all of them at once.  The
port driver's own bits do not come into it. -/

/-- The interrupts are in the mask if the event is in the set, and none of them is otherwise. -/
def Carries (mask bits : BitVec 32) (event : Bool) : Prop :=
  if event then Within bits mask else mask &&& bits = 0

instance (mask bits : BitVec 32) (event : Bool) : Decidable (Carries mask bits event) :=
  match event with
  | true => inferInstanceAs (Decidable (Within _ _))
  | false => inferInstanceAs (Decidable (_ = _))

/-- `Intsts` for the events without `SDPORT_EVENT_ERROR`. -/
def hostMask (response rwEnd empty full change : Bool) : BitVec 32 :=
  (if response then mshcIntCmd else 0) ||| (if rwEnd then mshcIntDto else 0)
    ||| (if empty then mshcIntTxdr else 0) ||| (if full then mshcIntRxdr else 0)
    ||| (if change then mshcIntCd else 0)

theorem hostMask_carries : ∀ response rwEnd empty full change,
    Carries (hostMask response rwEnd empty full change) mshcIntCmd response
      ∧ Carries (hostMask response rwEnd empty full change) mshcIntDto rwEnd
      ∧ Carries (hostMask response rwEnd empty full change) mshcIntTxdr empty
      ∧ Carries (hostMask response rwEnd empty full change) mshcIntRxdr full
      ∧ Carries (hostMask response rwEnd empty full change) mshcIntCd change
      ∧ hostMask response rwEnd empty full change &&& mshcIntError = 0 := by
  decide

/-- `Idsts`. -/
def dmaMask (complete : Bool) : BitVec 32 :=
  if complete then mshcIdintNis ||| mshcIdintTi ||| mshcIdintRi else 0

theorem dmaMask_carries : ∀ complete,
    Carries (dmaMask complete) (mshcIdintNis ||| mshcIdintTi ||| mshcIdintRi) complete
      ∧ dmaMask complete &&& mshcIdintAis = 0 := by
  decide

section Masks

variable (b : SdPortBits) (events : BitVec 32)

/-- The event is in the set. -/
def inSet (e : SdEvent) : Bool := decide (events &&& b.event e ≠ 0)

theorem flag_eq (e : SdEvent) (bits : BitVec 32) :
    flag events (b.event e) bits = if inSet b events e then bits else 0 := by
  unfold flag inSet
  simp

theorem convert_host (hno : events &&& b.event .error = 0) :
    (mshcConvertStandardEventsToIntStatus b events allErrors).1
      = hostMask (inSet b events .cardResponse) (inSet b events .cardRwEnd)
        (inSet b events .bufferEmpty) (inSet b events .bufferFull)
        (inSet b events .cardChange) := by
  have herror : flag events (b.event .error) (errorStatus b allErrors) = 0 :=
    if_neg (not_not.mpr hno)
  unfold mshcConvertStandardEventsToIntStatus hostMask
  dsimp only
  rw [herror]
  simp [flag_eq]

theorem convert_dma :
    (mshcConvertStandardEventsToIntStatus b events allErrors).2
      = dmaMask (inSet b events .dmaComplete) := flag_eq b events .dmaComplete _

end Masks

section Carried

variable {mask bits : BitVec 32} {event : Bool}

theorem Carries.event_of_meets (h : Carries mask bits event) {i : BitVec 32}
    (hwithin : Within i mask) (hmeets : i &&& bits ≠ 0) : event = true := by
  cases event with
  | true => rfl
  | false => exact absurd (hwithin.and_eq_zero h) hmeets

theorem Carries.bit_of_meets (h : Carries mask bits event) (hevent : event = true) {k : Nat}
    (hk : k < 32) (hmeets : BitVec.twoPow 32 k &&& bits ≠ 0) : mask.getLsbD k = true := by
  subst hevent
  rw [BitVec.and_comm, and_twoPow_ne_zero bits hk] at hmeets
  exact within_iff.mp h k hk hmeets

end Carried

section Exact

variable {b : SdPortBits} {events : BitVec 32}

theorem within_event {e : SdEvent} : Within (b.event e) events ↔ inSet b events e = true := by
  unfold inSet
  rw [decide_eq_true_eq]
  exact within_twoPow (b.eventBit e).isLt

/-- An event that is reported and in the set. -/
theorem event_of_flag {status bits : BitVec 32} {e : SdEvent}
    (h : flag status bits (b.event e) &&& events ≠ 0) :
    status &&& bits ≠ 0 ∧ inSet b events e = true := by
  unfold flag at h
  split at h
  · rename_i hmeets
    rw [BitVec.and_comm] at h
    exact ⟨hmeets, decide_eq_true h⟩
  · simp at h

/-- **What comes back is in the set.** -/
theorem sound_of_noError (hno : events &&& b.event .error = 0) {i d : BitVec 32}
    (hi : Within i (mshcConvertStandardEventsToIntStatus b events allErrors).1)
    (hd : Within d (mshcConvertStandardEventsToIntStatus b events allErrors).2) :
    Within (standardEvents b i d) events := by
  rw [convert_host b events hno] at hi
  rw [convert_dma] at hd
  obtain ⟨hcmd, hdto, htxdr, hrxdr, hcd, herror⟩ := hostMask_carries (inSet b events .cardResponse)
    (inSet b events .cardRwEnd) (inSet b events .bufferEmpty) (inSet b events .bufferFull)
    (inSet b events .cardChange)
  obtain ⟨hdma, hais⟩ := dmaMask_carries (inSet b events .dmaComplete)
  have hquiet : ¬ HasError i d := by
    rintro (hhost | hidma)
    · exact hhost (hi.and_eq_zero herror)
    · exact hidma (hd.and_eq_zero hais)
  unfold standardEvents
  rw [if_neg hquiet]
  simp only [within_or, within_flag, within_event, within_zero, and_true]
  exact ⟨⟨⟨⟨⟨hcmd.event_of_meets hi, hdto.event_of_meets hi⟩, htxdr.event_of_meets hi⟩,
    hrxdr.event_of_meets hi⟩, hcd.event_of_meets hi⟩, hdma.event_of_meets hd⟩

/-- **Each interrupt of the controller that reports an event of the set** is enabled for it. -/
theorem hostComplete_of_noError (hno : events &&& b.event .error = 0) {k : Nat} (hk : k < 32)
    (h : standardEvents b (BitVec.twoPow 32 k) 0 &&& events ≠ 0) :
    (mshcConvertStandardEventsToIntStatus b events allErrors).1.getLsbD k = true := by
  rw [convert_host b events hno]
  obtain ⟨hcmd, hdto, htxdr, hrxdr, hcd, -⟩ := hostMask_carries (inSet b events .cardResponse)
    (inSet b events .cardRwEnd) (inSet b events .bufferEmpty) (inSet b events .bufferFull)
    (inSet b events .cardChange)
  by_contra hclear
  refine h ?_
  have hnone : ∀ {bits : BitVec 32} {e : SdEvent},
      Carries (hostMask (inSet b events .cardResponse) (inSet b events .cardRwEnd)
        (inSet b events .bufferEmpty) (inSet b events .bufferFull)
        (inSet b events .cardChange)) bits (inSet b events e) →
      flag (BitVec.twoPow 32 k) bits (b.event e) &&& events = 0 := by
    intro bits e hcarries
    by_contra hmeets
    obtain ⟨hbits, he⟩ := event_of_flag hmeets
    exact hclear (hcarries.bit_of_meets he hk hbits)
  unfold standardEvents
  simp only [or_apart_iff]
  refine ⟨⟨⟨⟨⟨⟨hnone hcmd, hnone hdto⟩, hnone htxdr⟩, hnone hrxdr⟩, hnone hcd⟩, ?_⟩, ?_⟩
  · simp [flag]
  · split
    · rw [BitVec.and_comm]
      exact hno
    · simp

/-- **Each interrupt of the internal DMA that reports an event of the set** is enabled for it. -/
theorem dmaComplete_of_noError (hno : events &&& b.event .error = 0) {k : Nat} (hk : k < 32)
    (h : standardEvents b 0 (BitVec.twoPow 32 k) &&& events ≠ 0) :
    (mshcConvertStandardEventsToIntStatus b events allErrors).2.getLsbD k = true := by
  rw [convert_dma]
  by_contra hclear
  refine h ?_
  unfold standardEvents
  simp only [or_apart_iff]
  refine ⟨⟨⟨⟨⟨⟨?_, ?_⟩, ?_⟩, ?_⟩, ?_⟩, ?_⟩, ?_⟩
  iterate 5 simp [flag]
  · by_contra hmeets
    obtain ⟨hbits, he⟩ := event_of_flag hmeets
    exact hclear ((dmaMask_carries _).1.bit_of_meets he hk hbits)
  · split
    · rw [BitVec.and_comm]
      exact hno
    · simp

/-! ## 5. What is switched and acknowledged

A bit that is switched is one of the mask, or the one that is added to every mask.  An
acknowledgement is the mask itself. -/

/-- A bit that a mask changes is one of the mask. -/
theorem bit_of_toggle (enable : Bool) {s : InterruptMasks} {intsts idsts : BitVec 32} {k : Nat}
    (hk : k < 32) :
    let after := if enable then mshcEnableInterrupts intsts idsts s
      else mshcDisableInterrupts intsts idsts s
    (after.intmask.getLsbD k ≠ s.intmask.getLsbD k → intsts.getLsbD k = true)
      ∧ (after.idinten.getLsbD k ≠ s.idinten.getLsbD k → idsts.getLsbD k = true) := by
  cases enable with
  | true =>
    refine ⟨fun h => getLsbD_of_or_ne h, fun h => ?_⟩
    simp only [if_true, mshcEnableInterrupts] at h
    split at h
    · exact getLsbD_of_or_ne h
    · exact absurd rfl h
  | false =>
    refine ⟨fun h => getLsbD_of_and_not_ne hk h, fun h => ?_⟩
    simp only [Bool.false_eq_true, if_false, mshcDisableInterrupts] at h
    split at h
    · exact getLsbD_of_and_not_ne hk h
    · exact absurd rfl h

theorem hostBitIn_of_noError (hno : events &&& b.event .error = 0) {k : Nat} (hk : k < 32)
    (hbit : (mshcConvertStandardEventsToIntStatus b events allErrors).1.getLsbD k = true) :
    HostBitIn b events k :=
  sound_of_noError hno ((within_twoPow hk).mpr ((and_twoPow_ne_zero _ hk).mpr hbit))
    (within_zero _)

theorem dmaBitIn_of_noError (hno : events &&& b.event .error = 0) {k : Nat} (hk : k < 32)
    (hbit : (mshcConvertStandardEventsToIntStatus b events allErrors).2.getLsbD k = true) :
    DmaBitIn b events k :=
  sound_of_noError hno (within_zero _)
    ((within_twoPow hk).mpr ((and_twoPow_ne_zero _ hk).mpr hbit))

/-- What is toggled is what the translation gives, and the host timeout. -/
theorem bit_of_toggledStatus {brokenCd : Bool} {k : Nat}
    (hbit : (toggledStatus b brokenCd events).1.getLsbD k = true) :
    (mshcConvertStandardEventsToIntStatus b events allErrors).1.getLsbD k = true
      ∨ BitVec.twoPow 32 k = mshcIntHto := by
  have hor : ((mshcConvertStandardEventsToIntStatus b events allErrors).1
      ||| mshcIntHto).getLsbD k = true := by
    cases brokenCd with
    | false => exact hbit
    | true =>
      have hand : (((mshcConvertStandardEventsToIntStatus b events allErrors).1
        ||| mshcIntHto) &&& ~~~mshcIntCd).getLsbD k = true := hbit
      rw [BitVec.getLsbD_and, Bool.and_eq_true] at hand
      exact hand.1
  rw [BitVec.getLsbD_or, Bool.or_eq_true] at hor
  refine hor.imp_right fun hhto => ?_
  have hten : k = 10 := by
    simp only [mshcIntHto, ← BitVec.twoPow_eq, BitVec.getLsbD_twoPow, Bool.and_eq_true,
      decide_eq_true_eq] at hhto
    exact hhto.2.symm
  rw [hten]
  rfl

/-! ## 6. The condition

The error event is the only one whose interrupts are put into the wrong word. -/

/-- **Without `SDPORT_EVENT_ERROR` the translations fit together.** -/
theorem conversionExact_of_noError (hno : events &&& b.event .error = 0) :
    ConversionExact b events where
  sound _ _ := sound_of_noError hno
  hostComplete _ hk := hostComplete_of_noError hno hk
  dmaComplete _ hk := dmaComplete_of_noError hno hk
  hostToggles brokenCd enable s k hk hchange := by
    have hbit := bit_of_toggledStatus ((bit_of_toggle enable hk).1 hchange)
    exact hbit.imp_left (hostBitIn_of_noError hno hk)
  dmaToggles brokenCd enable s k hk hchange :=
    dmaBitIn_of_noError hno hk ((bit_of_toggle enable hk).2 hchange)
  hostClears _ hk hbit := hostBitIn_of_noError hno hk hbit
  dmaClears w hw k hk hbit := by
    unfold mshcSlotClearEvents at hw
    dsimp only at hw
    split at hw
    · obtain rfl := Option.some.inj (Option.mem_def.mp hw)
      exact dmaBitIn_of_noError hno hk hbit
    · exact nomatch hw

/-- With it the abnormal interrupt of the internal DMA is not enabled, though it reports an
error. -/
theorem not_conversionExact_of_error (herror : events &&& b.event .error ≠ 0) :
    ¬ ConversionExact b events := by
  intro h
  have hreported : standardEvents b 0 (BitVec.twoPow 32 9) &&& events ≠ 0 := by
    intro hzero
    have habnormal : HasError 0 (BitVec.twoPow 32 9) := Or.inr (by decide)
    unfold standardEvents at hzero
    rw [if_pos habnormal, or_apart_iff] at hzero
    exact herror (by rw [BitVec.and_comm]; exact hzero.2)
  have hbit := h.dmaComplete 9 (by decide) hreported
  rw [convert_dma] at hbit
  have hnot : ∀ complete, (dmaMask complete).getLsbD 9 = false := by decide
  rw [hnot] at hbit
  exact nomatch hbit

end Exact

/-- **The translations fit together exactly on the sets without `SDPORT_EVENT_ERROR`.** Both are
unions of flags, so a bit that comes out comes from one flag and can be followed back; the flags of
the error set are in the word of the wrong controller, whatever else is in the set. -/
theorem conversionExact_iff (b : SdPortBits) (events : BitVec 32) :
    ConversionExact b events ↔ events &&& b.event .error = 0 := by
  constructor
  · intro h
    by_contra herror
    exact not_conversionExact_of_error herror h
  · exact conversionExact_of_noError

/-- For the literals of a bit. -/
local instance neZero_bits : NeZero 32 := ⟨by decide⟩

/-- Bits in the order of the words' members, but for the error, which is bit 15. -/
def orderedBits : SdPortBits where
  eventBit
    | .cardResponse => 0
    | .cardRwEnd => 1
    | .bufferEmpty => 2
    | .bufferFull => 3
    | .dmaComplete => 4
    | .cardChange => 5
    | .error => 15
  errorBit
    | .cmdTimeout => 0
    | .cmdCrcError => 1
    | .cmdEndBitError => 2
    | .cmdIndexError => 3
    | .dataTimeout => 4
    | .dataCrcError => 5
    | .dataEndBitError => 6
    | .busPowerError => 7
    | .genericIoError => 15
    | .admaError => 9
  eventBit_injective := fun x y h => by cases x <;> cases y <;> first | rfl | exact absurd h (by decide)
  errorBit_injective := fun x y h => by cases x <;> cases y <;> first | rfl | exact absurd h (by decide)

/-- `SDPORT_EVENT_ERROR` alone: the interrupt of a full buffer is enabled for it. -/
theorem errorMask_incorrect : ¬ ConversionExact orderedBits (orderedBits.event .error) := by
  intro h
  have hsound := h.sound mshcIntRxdr 0 (by decide) (by decide)
  exact absurd hsound (by decide)

end WoaRk3576.Sd.Events
