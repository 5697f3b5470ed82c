/-
# The configuration that properties describe

`configOfDsd` and `configOfAxi` say what the properties of the device and of its bus are for: each
field has the value of the first property with its key, if that is an integer in range, and the
burst lengths are those that the package lists.

`queryDeviceConfig_exact` connects the two levels: firmware that returns properties configures the
device as they say, over two methods and up to four requests.

Three results meet here.  `AcpiEvaluateMethod` has the whole result of a method that does not
change between two requests (`evaluateMethod_steady`); in the bytes of a `_DSD` a query finds the
first value with its key (`Acpi/PropertyList.lean`); and each assignment of the driver takes what
its query finds or leaves the default (`dsdConfig_result`, `axiConfig_result`).

The burst lengths need more.  The loop over the package stops at the first element that is no
integer, and sets one bit for each of 4, 8, up to 256, whatever their order is.  Its invariant is
that the mask has the bits of the integers that were passed (`blenVisit_result`), and a package
that begins with no integer leaves the default.

The settings of the adapter come first and no property touches them.  An allocation that fails is
the one thing that is excluded: the driver then keeps its defaults without an error.
-/
import WoaRk3576.Net.DeviceConfig

namespace WoaRk3576.Net

open WoaRk3576.Lib
open WoaRk3576.Acpi
open Traced

/-! ## 1. What the properties are for

The configuration as a function of a list of properties, with no buffer and no loop: the first
property with the name counts, if it is an integer up to the bound. -/

/-- An integer up to `bound`. -/
def boundedProperty (props : List Property) (key : String) (bound : Nat) : Option Nat :=
  match firstValue props (ascii key) with
  | some (.integer x) => if x.toNat ≤ bound then some x.toNat else none
  | _ => none

/-- A flag, and a byte, with what they are without the property. -/
def flagOr (o : Option Nat) (b : Bool) : Bool := (o.map (· != 0)).getD b

def byteOr (o : Option Nat) (b : BitVec 8) : BitVec 8 := (o.map (BitVec.ofNat 8)).getD b

/-- **What the `_DSD` configures.** -/
def configOfDsd (props : List Property) (c : DeviceConfig) : DeviceConfig :=
  let pbl := boundedProperty props "snps,pbl" 0x3F
  { c with
    pblX8 := flagOr (boundedProperty props "snps,pblx8" 1) c.pblX8
    pbl := byteOr pbl c.pbl
    txPbl := byteOr (boundedProperty props "snps,txpbl" 0x3F) (byteOr pbl c.txPbl)
    rxPbl := byteOr (boundedProperty props "snps,rxpbl" 0x3F) (byteOr pbl c.rxPbl)
    fixedBurst := flagOr (boundedProperty props "snps,fixed-burst" 1) c.fixedBurst
    mixedBurst := flagOr (boundedProperty props "snps,mixed-burst" 1) c.mixedBurst }

/-- The name of the method with the properties of the bus. -/
def axiName (props : List Property) : Option (List (BitVec 8)) :=
  match firstValue props (ascii "snps,axi-config") with
  | some (.string s) => if s.length = 4 then some s else none
  | _ => none

/-- The integers that a package begins with. -/
def burstLengths (elements : List AcpiValue) : List Nat :=
  (elements.takeWhile fun a => a.1 = methodArgumentInteger).map fun a => leNat a.2

/-- **The mask of burst lengths**: bit `i` stands for `4 * 2 ^ i`. -/
def blenMask (lengths : List Nat) : BitVec 7 :=
  (BitVec.ofBoolListLE ((List.range 7).map fun i => decide (4 * 2 ^ i ∈ lengths))).setWidth 7

/-- The burst lengths of the package, if it begins with an integer. -/
def blenOr (props : List Property) (blen : BitVec 7) : BitVec 7 :=
  match firstValue props (ascii "snps,blen") with
  | some (.package elements) =>
    if burstLengths elements = [] then blen else blenMask (burstLengths elements)
  | _ => blen

/-- **What the bus is configured with.** -/
def configOfAxi (props : List Property) (c : DeviceConfig) : DeviceConfig :=
  { c with
    wrOsrLmt := byteOr (boundedProperty props "snps,wr_osr_lmt" 0x0F) c.wrOsrLmt
    rdOsrLmt := byteOr (boundedProperty props "snps,rd_osr_lmt" 0x0F) c.rdOsrLmt
    blen := blenOr props c.blen }

/-! ## 2. One property

A query that reads back the list finds what the function finds, so the assignments are the same.
It only has to be said once, for any name and any assignment. -/

section Property

variable {m : Memory} {pkg : ArgumentPtr} {props : List Property}

/-- What a query finds, from when it succeeds. -/
theorem toOption_of_iff {ε α : Type} {x : Except ε α} {o : Option α}
    (h : ∀ a, x = .ok a ↔ o = some a) : x.toOption = o := by
  cases x with
  | ok a => exact ((h a).mp rfl).symm
  | error e =>
    cases o with
    | none => rfl
    | some a => cases (h a).mpr rfl

theorem setInteger_result (h : ReadsBack m pkg props) (key : String) (bound : Nat)
    (set : Nat → DeviceConfig → DeviceConfig) (c : DeviceConfig) :
    (setInteger m pkg key bound set c).result
        = .ok ((boundedProperty props key bound).elim c fun v => set v c)
      ∧ (setInteger m pkg key bound set c).InBounds := by
  have hquery : (queryIntegerValue m pkg (ascii key)).result.toOption
      = match firstValue props (ascii key) with
        | some (.integer x) => some x.toNat
        | _ => none := by
    refine toOption_of_iff fun n => (h.integer (ascii key) n).trans ?_
    cases firstValue props (ascii key) with
    | none => simp
    | some value => cases value <;> simp
  unfold setInteger boundedProperty
  rw [result_attempt_bind, inBounds_attempt_bind, hquery]
  refine ⟨?_, (h.inside (ascii key)).2.1, ?_⟩
  · cases firstValue props (ascii key) with
    | none => rfl
    | some value =>
      cases value with
      | integer x =>
        dsimp only
        by_cases hle : x.toNat ≤ bound
        · rw [if_pos hle, if_pos hle]
          rfl
        · rw [if_neg hle, if_neg hle]
          rfl
      | string s => rfl
      | buffer bytes => rfl
      | package elements => rfl
  · split
    · exact inBounds_pure _
    · exact inBounds_pure _

/-! An assignment that may not be made sets its fields to what it finds, or to what they are. -/

variable (o : Option Nat) (c : DeviceConfig)

theorem elim_pblX8 : (o.elim c fun v => { c with pblX8 := v != 0 })
    = { c with pblX8 := flagOr o c.pblX8 } := by
  cases o <;> rfl

theorem elim_pbl : (o.elim c fun v =>
      { c with pbl := BitVec.ofNat 8 v, txPbl := BitVec.ofNat 8 v, rxPbl := BitVec.ofNat 8 v })
    = { c with pbl := byteOr o c.pbl, txPbl := byteOr o c.txPbl, rxPbl := byteOr o c.rxPbl } := by
  cases o <;> rfl

theorem elim_txPbl : (o.elim c fun v => { c with txPbl := BitVec.ofNat 8 v })
    = { c with txPbl := byteOr o c.txPbl } := by
  cases o <;> rfl

theorem elim_rxPbl : (o.elim c fun v => { c with rxPbl := BitVec.ofNat 8 v })
    = { c with rxPbl := byteOr o c.rxPbl } := by
  cases o <;> rfl

theorem elim_fixedBurst : (o.elim c fun v => { c with fixedBurst := v != 0 })
    = { c with fixedBurst := flagOr o c.fixedBurst } := by
  cases o <;> rfl

theorem elim_mixedBurst : (o.elim c fun v => { c with mixedBurst := v != 0 })
    = { c with mixedBurst := flagOr o c.mixedBurst } := by
  cases o <;> rfl

theorem elim_wrOsrLmt : (o.elim c fun v => { c with wrOsrLmt := BitVec.ofNat 8 v })
    = { c with wrOsrLmt := byteOr o c.wrOsrLmt } := by
  cases o <;> rfl

theorem elim_rdOsrLmt : (o.elim c fun v => { c with rdOsrLmt := BitVec.ofNat 8 v })
    = { c with rdOsrLmt := byteOr o c.rdOsrLmt } := by
  cases o <;> rfl

/-- **The configuration has what the `_DSD` says.** -/
theorem dsdConfig_result (h : ReadsBack m pkg props) :
    (dsdConfig m pkg c).result = .ok (configOfDsd props c) ∧ (dsdConfig m pkg c).InBounds := by
  constructor
  · unfold dsdConfig
    refine (result_bind_of_ok _ (setInteger_result h _ _ _ _).1).trans ?_
    rw [elim_pblX8]
    refine (result_bind_of_ok _ (setInteger_result h _ _ _ _).1).trans ?_
    rw [elim_pbl]
    refine (result_bind_of_ok _ (setInteger_result h _ _ _ _).1).trans ?_
    rw [elim_txPbl]
    refine (result_bind_of_ok _ (setInteger_result h _ _ _ _).1).trans ?_
    rw [elim_rxPbl]
    refine (result_bind_of_ok _ (setInteger_result h _ _ _ _).1).trans ?_
    rw [elim_fixedBurst]
    refine (setInteger_result h _ _ _ _).1.trans ?_
    rw [elim_mixedBurst, configOfDsd]
  · unfold dsdConfig
    refine inBounds_bind.mpr ⟨(setInteger_result h _ _ _ _).2, fun _ _ => ?_⟩
    refine inBounds_bind.mpr ⟨(setInteger_result h _ _ _ _).2, fun _ _ => ?_⟩
    refine inBounds_bind.mpr ⟨(setInteger_result h _ _ _ _).2, fun _ _ => ?_⟩
    refine inBounds_bind.mpr ⟨(setInteger_result h _ _ _ _).2, fun _ _ => ?_⟩
    refine inBounds_bind.mpr ⟨(setInteger_result h _ _ _ _).2, fun _ _ => ?_⟩
    exact (setInteger_result h _ _ _ _).2

theorem axiConfigName_result (h : ReadsBack m pkg props) :
    (axiConfigName m pkg).result = .ok (axiName props) ∧ (axiConfigName m pkg).InBounds := by
  have hquery : (queryStringValue m pkg (ascii "snps,axi-config") 5).result.toOption
      = match firstValue props (ascii "snps,axi-config") with
        | some (.string s) => if s.length < 5 then some (s ++ [0]) else none
        | _ => none := by
    refine toOption_of_iff fun out => (h.string _ 5 out).trans ?_
    cases firstValue props (ascii "snps,axi-config") with
    | none => simp
    | some value => cases value <;> simp
  unfold axiConfigName axiName
  rw [result_attempt_bind, inBounds_attempt_bind, hquery]
  refine ⟨?_, (h.inside (ascii "snps,axi-config")).2.2 5, ?_⟩
  · cases firstValue props (ascii "snps,axi-config") with
    | none => rfl
    | some value =>
      cases value with
      | integer x => rfl
      | string s =>
        dsimp only
        by_cases hfour : s.length = 4
        · rw [if_pos (by omega), if_pos hfour]
          simp [hfour]
        · rw [if_neg hfour]
          split
          · rename_i hsome
            split at hsome
            · rw [← Option.some.inj hsome]
              simp [hfour]
            · cases hsome
          · rfl
      | buffer bytes => rfl
      | package elements => rfl
  · split
    · exact inBounds_pure _
    · exact inBounds_pure _

end Property

/-! ## 3. The burst lengths

The loop takes the integers that the package begins with and ors the bit of each one.  The result
does not depend on their order, and a length that is no power of two in range has no bit. -/

theorem getLsbD_blenMask (lengths : List Nat) (i : Nat) :
    (blenMask lengths).getLsbD i = decide (i < 7 ∧ 4 * 2 ^ i ∈ lengths) := by
  unfold blenMask
  rw [BitVec.getLsbD_setWidth, BitVec.getLsbD_ofBoolListLE, List.getD_eq_getElem?_getD,
    List.getElem?_map]
  by_cases hi : i < 7
  · simp [hi]
  · simp [hi]

theorem getLsbD_blenBit (n i : Nat) : (blenBit n).getLsbD i = decide (i < 7 ∧ n = 4 * 2 ^ i) := by
  by_cases hi : i < 7
  · have hcases : i = 0 ∨ i = 1 ∨ i = 2 ∨ i = 3 ∨ i = 4 ∨ i = 5 ∨ i = 6 := by omega
    unfold blenBit
    rcases hcases with rfl | rfl | rfl | rfl | rfl | rfl | rfl <;> split <;> simp_all
  · rw [BitVec.getLsbD_of_ge _ _ (Nat.le_of_not_lt hi), decide_eq_false fun h => hi h.1]

/-- **The bits that the loop collects are the mask.** -/
theorem foldl_blenBit (lengths : List Nat) : ∀ blen : BitVec 7,
    lengths.foldl (fun b n => b ||| blenBit n) blen = blen ||| blenMask lengths := by
  have hbits : ∀ (blen : BitVec 7) (i : Nat),
      (lengths.foldl (fun b n => b ||| blenBit n) blen).getLsbD i
        = (blen.getLsbD i || decide (i < 7 ∧ 4 * 2 ^ i ∈ lengths)) := by
    induction lengths with
    | nil => simp
    | cons n lengths ih =>
      intro blen i
      have hmem : 4 * 2 ^ i ∈ n :: lengths ↔ n = 4 * 2 ^ i ∨ 4 * 2 ^ i ∈ lengths := by
        rw [List.mem_cons, eq_comm]
      rw [List.foldl_cons, ih, BitVec.getLsbD_or, getLsbD_blenBit, Bool.or_assoc, ← Bool.decide_or]
      simp only [hmem, and_or_left]
  intro blen
  refine BitVec.eq_of_getLsbD_eq fun i _ => ?_
  rw [hbits, BitVec.getLsbD_or, getLsbD_blenMask]

section Loop

variable {m : Memory} {p : ArgumentPtr}

/-- The arguments of a package of burst lengths. -/
def ArgumentsFit (elements : List AcpiValue) : Prop :=
  ∀ a ∈ elements, a.Fits ∧ (a.1 = methodArgumentInteger → a.2.length = 4)

theorem burstLengths_cons_of_integer {a : AcpiValue} {elements : List AcpiValue}
    (h : a.1 = methodArgumentInteger) :
    burstLengths (a :: elements) = leNat a.2 :: burstLengths elements := by
  simp [burstLengths, h]

theorem burstLengths_cons_of_ne {a : AcpiValue} {elements : List AcpiValue}
    (h : a.1 ≠ methodArgumentInteger) : burstLengths (a :: elements) = [] := by
  simp [burstLengths, h]

/-- What the loop finds behind an argument of the package. -/
theorem packageNext_result {entry : ArgumentPtr} {a : AcpiValue} {elements : List AcpiValue}
    (hlength : sizeofMethodArgument ≤ dataLength m p.address)
    (hargument : HasArgument m entry.address a.1 a.2)
    (hend : dataEnd m p.address = entry.address + (rowBytes (a :: elements)).length) :
    (packageGetNextArgument m p (some entry)).result.toOption
      = if elements = [] then none else some (entry.next m) := by
  refine toOption_of_iff fun next => packageNext_eq_ok_iff.trans ?_
  rw [nextArgument_eq hargument, hend, rowBytes_cons, List.length_append]
  cases elements with
  | nil => simp
  | cons b elements =>
    have hpos := length_le_rowBytes (show b ∈ b :: elements by simp)
    rw [if_neg (List.cons_ne_nil b elements), Option.some.injEq, eq_comm]
    exact ⟨fun h => h.2.2, fun h => ⟨hlength, by omega, h⟩⟩

/-- **The loop collects the integers that the package begins with**, and reads inside. -/
theorem blenVisit_result (hp : p.Fits 4) (hlength : sizeofMethodArgument ≤ dataLength m p.address) :
    ∀ (elements : List AcpiValue) (a : AcpiValue) (fuel : Nat) (entry : ArgumentPtr) (count : Nat)
      (blen : BitVec 7), ArgumentsFit (a :: elements) → Stored m entry.address (a :: elements) →
      dataEnd m p.address = entry.address + (rowBytes (a :: elements)).length →
      entry.Fits (rowBytes (a :: elements)).length → elements.length < fuel →
      (blenVisit m p fuel entry count blen).result
          = .ok (count + (burstLengths (a :: elements)).length,
            (burstLengths (a :: elements)).foldl (fun b n => b ||| blenBit n) blen)
        ∧ (blenVisit m p fuel entry count blen).InBounds
  | elements, a, fuel, entry, count, blen, hargs, hstored, hend, hfit, hfuel => by
    obtain ⟨hafits, hafour⟩ := hargs a List.mem_cons_self
    obtain ⟨hargument, hrest⟩ := stored_cons hafits hstored
    have hpos := length_le_rowBytes (show a ∈ a :: elements by simp)
    have height : entry.Fits 8 := hfit.le hpos.1
    unfold blenVisit
    rw [result_read_bind, inBounds_read_bind, ArgumentPtr.type_inBounds_iff, hargument.1]
    by_cases hinteger : a.1 = methodArgumentInteger
    · have hfour := hafour hinteger
      have hvalue : integerAt m entry.address = leNat a.2 := by
        have hdata := hargument.2.2
        rw [argData, hargument.2.1, hfour] at hdata
        rw [integerAt, loadLe, hdata]
      obtain ⟨fuel, rfl⟩ := Nat.exists_eq_succ_of_ne_zero (Nat.ne_of_gt (Nat.zero_lt_of_lt hfuel))
      rw [if_neg (not_not_intro hinteger), result_read_bind, inBounds_read_bind,
        ArgumentPtr.length_inBounds_iff, hargument.2.1, if_neg (not_not_intro hfour),
        result_read_bind, inBounds_read_bind, ArgumentPtr.argument_inBounds_iff, blenLoop_succ,
        result_attempt_bind, inBounds_attempt_bind, packageNext_inBounds_iff,
        packageNext_result hlength hargument hend, hvalue, burstLengths_cons_of_integer hinteger]
      cases elements with
      | nil =>
        exact ⟨rfl, height.le (by decide), height.le (by decide), height,
          ⟨hp, fun _ => height.le (by decide)⟩, inBounds_pure _⟩
      | cons b elements =>
        have hnext := nextArgument_eq hargument
        rw [rowBytes_cons, List.length_append] at hend hfit
        have ih := blenVisit_result hp hlength elements b fuel (entry.next m) (count + 1)
          (blen ||| blenBit (leNat a.2)) (fun c hc => hargs c (List.mem_cons_of_mem a hc)) hrest
          (by rw [hend, ArgumentPtr.address_next, hnext, Nat.add_assoc])
          (fun e he => by
            have hin := hfit e he
            rw [ArgumentPtr.address_next, hnext]
            omega)
          (Nat.lt_of_succ_lt_succ hfuel)
        rw [if_neg (List.cons_ne_nil b elements)]
        refine ⟨?_, height.le (by decide), height.le (by decide), height,
          ⟨hp, fun _ => height.le (by decide)⟩, ih.2⟩
        dsimp only
        rw [ih.1, List.length_cons, List.foldl_cons, Nat.add_assoc, Nat.add_comm 1]
    · rw [if_pos hinteger, burstLengths_cons_of_ne hinteger]
      exact ⟨rfl, height.le (by decide), inBounds_pure _⟩

/-- **A package of burst lengths is collected.** -/
theorem blenLoop_result {elements : List AcpiValue} (hwhole : p.Whole m)
    (hpackage : HasArgument m p.address (packageOf elements).1 (packageOf elements).2)
    (hargs : ArgumentsFit elements) :
    (blenLoop m p (dataLength m p.address + 1) none 0 0).result
        = .ok ((burstLengths elements).length, blenMask (burstLengths elements))
      ∧ (blenLoop m p (dataLength m p.address + 1) none 0 0).InBounds := by
  obtain ⟨hstored, hend⟩ := stored_package hpackage
  have hlength : dataLength m p.address = (rowBytes elements).length := hpackage.2.1
  have hheader : p.Fits 4 := hwhole.le (by omega)
  rw [blenLoop_succ, result_attempt_bind, inBounds_attempt_bind, packageFirst_inBounds_iff]
  cases elements with
  | nil =>
    have hfirst : (packageGetNextArgument m p none).result.toOption = none := by
      refine toOption_of_iff fun q => packageFirst_eq_ok_iff.trans ?_
      rw [hlength]
      simp [sizeofMethodArgument]
    rw [hfirst]
    have hmask : blenMask [] = 0 := by decide
    exact ⟨congrArg (fun b => Except.ok (0, b)) hmask.symm, hheader, inBounds_pure _⟩
  | cons a elements =>
    have hpos := length_le_rowBytes (show a ∈ a :: elements by simp)
    have hcount := length_mul_le_rowBytes (a :: elements)
    have height : sizeofMethodArgument ≤ dataLength m p.address := by
      rw [hlength]
      exact hpos.1
    have hfirst : (packageGetNextArgument m p none).result.toOption = some (p.inside m 0) := by
      refine toOption_of_iff fun q => packageFirst_eq_ok_iff.trans ?_
      rw [and_iff_right height, Option.some.injEq, eq_comm]
    have hfit : (p.inside m 0).Fits (rowBytes (a :: elements)).length := by
      unfold ArgumentPtr.Fits
      rw [ArgumentPtr.within_inside, List.forall_mem_cons, ArgumentPtr.address_inside_zero]
      unfold dataExtent
      refine ⟨by dsimp only; omega, fun e he => ?_⟩
      have hin := hwhole e he
      omega
    rw [List.length_cons] at hcount
    have hvisit := blenVisit_result hheader height elements a (dataLength m p.address)
      (p.inside m 0) 0 0 hargs hstored hend hfit (by omega)
    rw [hfirst]
    refine ⟨?_, hheader, hvisit.2⟩
    dsimp only
    rw [hvisit.1, Nat.zero_add, foldl_blenBit]
    exact congrArg (fun b => Except.ok (_, b)) BitVec.zero_or

end Loop

/-! ## 4. The two methods

The properties of a method are independent of each other, so the configuration is one assignment
after another, and each is the lemma above. -/

section Methods

variable {m : Memory} {pkg : ArgumentPtr} {props : List Property} (c : DeviceConfig)

/-- What a value in the list is, is well-formed. -/
theorem wellFormed_of_firstValue (hwf : WellFormedList props) {key : List (BitVec 8)}
    {value : PropertyValue} (h : firstValue props key = some value) : value.WellFormed := by
  obtain ⟨p, hfind, rfl⟩ := Option.map_eq_some_iff.mp h
  exact hwf.values p (List.mem_of_find?_eq_some hfind)

theorem setBlen_result (hwf : WellFormedList props) (h : ReadsBack m pkg props) :
    (setBlen m pkg c).result = .ok { c with blen := blenOr props c.blen }
      ∧ (setBlen m pkg c).InBounds := by
  unfold setBlen blenOr
  rw [result_attempt_bind, inBounds_attempt_bind, and_left_comm,
    and_iff_right (h.inside (ascii "snps,blen")).1]
  cases hfirst : firstValue props (ascii "snps,blen") with
  | none =>
    have hmissing : (queryValue m pkg (ascii "snps,blen")).result.toOption = none :=
      toOption_of_iff fun v => iff_of_false (h.missing _ hfirst v) (by simp)
    rw [hmissing]
    exact ⟨rfl, inBounds_pure _⟩
  | some value =>
    obtain ⟨v, hv, hargument, hwhole⟩ := h.found _ _ hfirst
    have htwo : v.Fits 2 := hwhole.le (by omega)
    rw [hv]
    have hother : value.encode.1 ≠ methodArgumentPackage →
        (takeBlen m v c).result = .ok c ∧ (takeBlen m v c).InBounds := by
      intro htype
      rw [← hargument.1] at htype
      unfold takeBlen
      rw [result_read_bind, inBounds_read_bind, ArgumentPtr.type_inBounds_iff, if_pos htype]
      exact ⟨rfl, htwo, inBounds_pure _⟩
    cases value with
    | integer x => exact hother (show 0 ≠ 3 by decide)
    | string s => exact hother (show 1 ≠ 3 by decide)
    | buffer bytes => exact hother (show 2 ≠ 3 by decide)
    | package elements =>
      have hformed : ∀ a ∈ elements, a.1 < 65536 ∧ (a.1 = methodArgumentInteger → a.2.length = 4) :=
        wellFormed_of_firstValue hwf hfirst
      have hsize : (rowBytes elements).length < 65536 := by
        have hlt : dataLength m v.address < 256 ^ 2 := loadLe_lt m _ 2
        have hlength : dataLength m v.address = (rowBytes elements).length := hargument.2.1
        omega
      have hloop := blenLoop_result hwhole hargument fun a ha =>
        ⟨⟨(hformed a ha).1, Nat.lt_of_le_of_lt (length_le_rowBytes ha).2 hsize⟩, (hformed a ha).2⟩
      have htype : argType m v.address = methodArgumentPackage := hargument.1
      dsimp only [Except.toOption]
      unfold takeBlen
      rw [result_read_bind, inBounds_read_bind, ArgumentPtr.type_inBounds_iff,
        if_neg (not_not_intro htype), result_bind_of_ok _ hloop.1, inBounds_bind]
      refine ⟨?_, htwo, hloop.2, fun found _ => inBounds_pure _⟩
      dsimp only
      by_cases hnone : burstLengths elements = []
      · rw [if_pos hnone, hnone]
        rfl
      · rw [if_neg hnone, if_pos (by rwa [ne_eq, List.length_eq_zero_iff])]
        rfl

/-- **The configuration has what the properties of the bus say.** -/
theorem axiConfig_result (hwf : WellFormedList props) (h : ReadsBack m pkg props) :
    (axiConfig m pkg c).result = .ok (configOfAxi props c) ∧ (axiConfig m pkg c).InBounds := by
  constructor
  · unfold axiConfig
    refine (result_bind_of_ok _ (setInteger_result h _ _ _ _).1).trans ?_
    rw [elim_wrOsrLmt]
    refine (result_bind_of_ok _ (setInteger_result h _ _ _ _).1).trans ?_
    rw [elim_rdOsrLmt]
    exact (setBlen_result _ hwf h).1
  · unfold axiConfig
    refine inBounds_bind.mpr ⟨(setInteger_result h _ _ _ _).2, fun _ _ => ?_⟩
    refine inBounds_bind.mpr ⟨(setInteger_result h _ _ _ _).2, fun _ _ => ?_⟩
    exact (setBlen_result _ hwf h).2

end Methods

/-! ## 5. The device

What remains is the way from a method to its buffer: a steady driver evaluates it to the bytes that
it returns, the bytes hold the list, and what is read from them is what the list says. -/

section Device

variable {env : AcpiEnv} {method : List (BitVec 8) → Option (List (BitVec 8))}
  {props axi : List Property} {k : AcpiKernel}

/-- **A method that does not change is evaluated to what it returns**, or to nothing if there is no
such method, as long as no allocation fails. -/
theorem evaluateMethod_steady (hdriver : Delivers env fun _ => method) (hres : ¬ env.Exhausted)
    (input : List (BitVec 8)) (hk : AllInBounds k.accesses) :
    ∃ e k', acpiEvaluateMethod env input k = (e, k') ∧ AllInBounds k'.accesses
      ∧ match method input with
        | none => e.buffer = none
        | some r => e.Whole r := by
  obtain ⟨e, requests, k', heq, -, hresult, hbounds⟩ :=
    acpiEvaluateMethod_result env (fun _ => method) hdriver input k hk
  refine ⟨e, k', heq, hbounds, ?_⟩
  cases hresult with
  | noResources hfails => exact absurd hfails.exhausted hres
  | missing hnone hfails =>
    rw [hnone]
    exact hfails.2
  | short hfirst _ hwhole =>
    rw [hfirst]
    exact hwhole
  | long _ hsecond _ _ hwhole =>
    rw [hsecond]
    exact hwhole
  | grown hfirst hsecond _ hgrown =>
    rw [hfirst, Option.some.injEq] at hsecond
    rw [hsecond] at hgrown
    exact absurd hgrown (Nat.lt_irrefl _)
  | vanished hfirst hnone =>
    rw [hfirst] at hnone
    cases hnone

/-- What is taken from a buffer with a `_DSD`. -/
theorem withProperties_result {α : Type} {b : OutputBuffer} (hwf : WellFormedList props)
    (hb : HoldsDsd b.bytes props) {x : Memory → ArgumentPtr → Traced AcpiStatus α} {a : α}
    (hx : ∀ m pkg, ReadsBack m pkg props → (x m pkg).result = .ok a ∧ (x m pkg).InBounds)
    (hk : AllInBounds k.accesses) :
    (withProperties b x k).1 = some a ∧ AllInBounds (withProperties b x k).2.accesses := by
  obtain ⟨hparse, hinside, hreads⟩ := dsd_readsBack b.bytes props hwf hb
  obtain ⟨hresult, hbounds⟩ := hx b.bytes _ hreads
  unfold withProperties scanBuffer
  rw [result_bind_of_ok _ hparse, hresult]
  refine ⟨rfl, allInBounds_append.mpr ⟨hk, inBounds_bind.mpr ⟨hinside, fun pkg hpkg => ?_⟩⟩⟩
  rw [hparse] at hpkg
  rwa [← Except.ok.inj hpkg]

theorem dsdFound_result {m : Memory} {pkg : ArgumentPtr} (h : ReadsBack m pkg props)
    (c : DeviceConfig) :
    (dsdFound m pkg c).result = .ok (configOfDsd props c, axiName props)
      ∧ (dsdFound m pkg c).InBounds := by
  have hconfig := dsdConfig_result c h
  have hname := axiConfigName_result h
  unfold dsdFound
  refine ⟨?_, inBounds_bind.mpr ⟨hconfig.2, fun _ _ => inBounds_bind.mpr
    ⟨hname.2, fun _ _ => inBounds_pure _⟩⟩⟩
  rw [result_bind_of_ok _ hconfig.1, result_bind_of_ok _ hname.1]
  rfl

/-- **What a device is configured with**: the properties of its `_DSD`, and those of its bus if
there is a method with the name that the `_DSD` gives. -/
def configOfDevice (method : List (BitVec 8) → Option (List (BitVec 8)))
    (props axi : List Property) (c : DeviceConfig) : DeviceConfig :=
  if (method (evalInputBuffer methodNameDsd)).isSome then
    match axiName props with
    | none => configOfDsd props c
    | some name =>
      if (method (evalInputBuffer name)).isSome then configOfAxi axi (configOfDsd props c)
      else configOfDsd props c
  else c

/-- **The device is configured as its properties say**, whatever they are: a `_DSD` with `props`,
or none, and under the name in it a method with the properties of the bus, or none.  Nothing is
read outside of the buffers.  Every query finds the value of the first property with its key, so
the assignments are those of the lists, one after another. -/
theorem queryDeviceConfig_exact (env : AcpiEnv)
    (method : List (BitVec 8) → Option (List (BitVec 8))) (props axi : List Property)
    (c : DeviceConfig) (k : AcpiKernel) (hdriver : Delivers env fun _ => method)
    (hprops : WellFormedList props) (haxi : WellFormedList axi)
    (hdsd : method (evalInputBuffer methodNameDsd) = none
      ∨ method (evalInputBuffer methodNameDsd) = some (dsdBytes props))
    (hbus : ∀ name, axiName props = some name →
      method (evalInputBuffer name) = none ∨ method (evalInputBuffer name) = some (dsdBytes axi))
    (hres : ¬ env.Exhausted) (hk : AllInBounds k.accesses) :
    (queryDeviceConfig env c k).1 = configOfDevice method props axi c
      ∧ AllInBounds (queryDeviceConfig env c k).2.accesses := by
  obtain ⟨⟨status, buffer⟩, k₁, heq, hk₁, hwhole⟩ :=
    evaluateMethod_steady hdriver hres (evalInputBuffer methodNameDsd) hk
  unfold queryDeviceConfig acpiQueryDsd configOfDevice
  rw [heq]
  rcases hdsd with hnone | hsome
  · rw [hnone] at hwhole ⊢
    dsimp only at hwhole
    subst hwhole
    exact ⟨rfl, hk₁⟩
  rw [hsome] at hwhole ⊢
  obtain ⟨-, b, hb, -, -, hload⟩ := hwhole
  dsimp only at hb
  subst hb
  obtain ⟨hfound, hk₂⟩ := withProperties_result (b := b) hprops hload
    (fun m pkg h => dsdFound_result h c) hk₁
  dsimp only
  rw [hfound, if_pos Option.isSome_some]
  cases hname : axiName props with
  | none => exact ⟨rfl, hk₂⟩
  | some name =>
    dsimp only
    obtain ⟨⟨status', buffer'⟩, k₃, heq', hk₃, hwhole'⟩ :=
      evaluateMethod_steady (k := (withProperties b (fun m pkg => dsdFound m pkg c) k₁).2.free
        b.kernelBlock) hdriver hres (evalInputBuffer name) hk₂
    unfold queryAxiConfig
    rw [heq']
    rcases hbus name hname with hnone' | hsome'
    · rw [hnone'] at hwhole' ⊢
      dsimp only at hwhole'
      subst hwhole'
      exact ⟨rfl, hk₃⟩
    · rw [hsome'] at hwhole' ⊢
      obtain ⟨-, b', hb', -, -, hload'⟩ := hwhole'
      dsimp only at hb'
      subst hb'
      obtain ⟨hconfig, hk₄⟩ := withProperties_result (b := b') haxi hload'
        (fun m pkg h => axiConfig_result (configOfDsd props c) haxi h) hk₃
      dsimp only
      rw [hconfig]
      exact ⟨rfl, hk₄⟩

theorem busProperties_wellFormed : WellFormedList busProperties :=
  ⟨by decide, by decide, by decide⟩

theorem deviceMethod_isResult (n : Nat) (input r : List (BitVec 8))
    (h : (fun _ : Nat => deviceMethod) n input = some r) : IsResult r := by
  unfold deviceMethod at h
  dsimp only at h
  split at h
  · rw [← Option.some.inj h]
    exact isResult_dsdBytes threeProperties_wellFormed
  · split at h
    · rw [← Option.some.inj h]
      exact isResult_dsdBytes busProperties_wellFormed
    · cases h

theorem queryDeviceConfig_exact_device :
    (queryDeviceConfig (acpiDriver fun _ => deviceMethod) (DeviceConfig.initial ⟨3, 1514, 0⟩)
        ⟨0, [], [], []⟩).1
      = configOfDevice deviceMethod threeProperties busProperties
        (DeviceConfig.initial ⟨3, 1514, 0⟩)
      ∧ AllInBounds (queryDeviceConfig (acpiDriver fun _ => deviceMethod)
        (DeviceConfig.initial ⟨3, 1514, 0⟩) ⟨0, [], [], []⟩).2.accesses :=
  queryDeviceConfig_exact _ deviceMethod threeProperties busProperties _ _
    (delivers_acpiDriver deviceMethod_isResult) threeProperties_wellFormed
    busProperties_wellFormed (Or.inr (if_pos rfl))
    (fun name hname => Or.inr (by
      have hname : some (ascii "AXIC") = some name := hname
      rw [← Option.some.inj hname]
      decide))
    (fun ⟨_, hfails⟩ => by cases hfails) allInBounds_nil

end Device

end WoaRk3576.Net
