/-
# Strings of C

A string of C is its characters, none of them zero, and ends at the first zero byte.  `strncmp`
compares the bytes of a field of a known length with a string; `strncmp_ended` says that on a
field that holds a string, with its zero or without it, this is equality, provided that the field
is not shorter than the string it is compared with.
-/
import Mathlib.Data.BitVec

namespace WoaRk3576.Lib

/-- A string literal. -/
def ascii (s : String) : List (BitVec 8) := s.toList.map fun c => BitVec.ofNat 8 c.toNat

/-- The characters of a string: none is zero. -/
def IsChars (chars : List (BitVec 8)) : Prop := ∀ c ∈ chars, c ≠ 0

theorem isChars_cons {c : BitVec 8} {chars : List (BitVec 8)} :
    IsChars (c :: chars) ↔ c ≠ 0 ∧ IsChars chars :=
  List.forall_mem_cons

theorem isChars_iff {chars : List (BitVec 8)} : IsChars chars ↔ 0 ∉ chars :=
  ⟨fun h hmem => h 0 hmem rfl, fun h _ hc hzero => h (hzero ▸ hc)⟩

instance (chars : List (BitVec 8)) : Decidable (IsChars chars) :=
  decidable_of_iff (0 ∉ chars) isChars_iff.symm

/-- The bytes of a string in a field of its length, with the zero or without it. -/
def ended (terminated : Bool) (chars : List (BitVec 8)) : List (BitVec 8) :=
  chars ++ List.replicate terminated.toNat 0

/-- **What a reader of C strings finds in a field**: the bytes before the first zero, and no
string where there is no zero. -/
def cString (field : List (BitVec 8)) : Option (List (BitVec 8)) :=
  if 0 ∈ field then some (field.takeWhile fun b => b != 0) else none

/-! ## 1. The string in a field

A field that a string fills up has no zero, and a reader who looks for one goes on behind the
field.  `cString` has no value there, so a statement that gives it one also says that the zero is
in the field. -/

theorem cString_append_zeros {chars : List (BitVec 8)} (h : IsChars chars) {n : Nat} (hn : n ≠ 0) :
    cString (chars ++ List.replicate n 0) = some chars := by
  obtain ⟨n, rfl⟩ := Nat.exists_eq_succ_of_ne_zero hn
  have hmem : (0 : BitVec 8) ∈ chars ++ List.replicate (n + 1) 0 := by simp
  have htake : (chars ++ List.replicate (n + 1) 0).takeWhile (fun b => b != 0) = chars := by
    rw [List.takeWhile_append_of_pos fun c hc => bne_iff_ne.mpr (h c hc), List.replicate_succ,
      List.takeWhile_cons_of_neg (by simp), List.append_nil]
  unfold cString
  rw [if_pos hmem, htake]

theorem cString_of_isChars {field : List (BitVec 8)} (h : IsChars field) : cString field = none :=
  if_neg (isChars_iff.mp h)

theorem zero_mem_of_cString {field chars : List (BitVec 8)} (h : cString field = some chars) :
    0 ∈ field := by
  unfold cString at h
  split at h
  · assumption
  · exact absurd h (by simp)

/-! ## 2. Comparison

`strncmp` stops at the first difference and with the zero of the string that it compares with.
What it reads is modelled beside what it returns, since it may be called with a length beyond the
field. -/

/-- `strncmp(s, str, n) == 0`, on the `n` bytes from `s` on. -/
def strncmp : List (BitVec 8) → List (BitVec 8) → Bool
  | [], _ => true
  | b :: _, [] => b == 0
  | b :: bs, c :: cs => b == c && strncmp bs cs

/-- How many of the `n` bytes from `s` on `strncmp(s, str, n)` reads: it ends at the first
difference and with the zero of `str`. -/
def strncmpLength : List (BitVec 8) → List (BitVec 8) → Nat
  | [], _ => 0
  | _ :: _, [] => 1
  | b :: bs, c :: cs => if b = c then strncmpLength bs cs + 1 else 1

theorem strncmpLength_le : ∀ s str : List (BitVec 8), strncmpLength s str ≤ s.length
  | [], _ => Nat.le_refl _
  | _ :: bs, [] => Nat.le_add_left 1 bs.length
  | b :: bs, c :: cs => by
    unfold strncmpLength
    split
    · exact Nat.add_le_add_right (strncmpLength_le bs cs) 1
    · exact Nat.le_add_left 1 bs.length

/-- **On a field that holds a string the comparison is equality**, if the field is not shorter
than the string it is compared with. -/
theorem strncmp_ended (terminated : Bool) : ∀ {chars str : List (BitVec 8)}, IsChars chars →
    IsChars str → str.length ≤ (ended terminated chars).length →
    (strncmp (ended terminated chars) str = true ↔ chars = str)
  | [], [], _, _, _ => by
    cases terminated with
    | false => simp [ended, strncmp]
    | true => simp [ended, strncmp]
  | [], c :: cs, _, hstr, hlength => by
    have hc : c ≠ 0 := (isChars_cons.mp hstr).1
    cases terminated with
    | false => exact absurd hlength (by simp [ended])
    | true => simpa [ended, strncmp] using Ne.symm hc
  | b :: bs, [], hchars, _, _ => by
    have hb : b ≠ 0 := (isChars_cons.mp hchars).1
    simpa [ended, strncmp] using hb
  | b :: bs, c :: cs, hchars, hstr, hlength => by
    have hcons : ended terminated (b :: bs) = b :: ended terminated bs := rfl
    rw [hcons, List.length_cons, List.length_cons] at hlength
    have hrest := strncmp_ended terminated (isChars_cons.mp hchars).2 (isChars_cons.mp hstr).2
      (Nat.le_of_succ_le_succ hlength)
    rw [hcons, strncmp, Bool.and_eq_true, beq_iff_eq, hrest, List.cons.injEq]

/-- A field that is shorter than a string does not hold it. -/
theorem ne_of_ended_lt {terminated : Bool} {chars str : List (BitVec 8)}
    (h : (ended terminated chars).length < str.length) : chars ≠ str := by
  rintro rfl
  simp only [ended, List.length_append] at h
  omega

end WoaRk3576.Lib
