/-
# Bytes in memory

A memory gives a byte for every address.  `load` and `store` are about ranges of bytes, and
`loadLe` and `storeLe` about numbers of `n` bytes, the lowest byte first.

What is stored is loaded again (`load_store_self`, `loadLe_storeLe_self`), and what lies apart from
it is not changed by it.
-/
import Mathlib.Data.BitVec

namespace WoaRk3576.Lib

/-- An address space of bytes. -/
abbrev Memory := Nat → BitVec 8

/-! ## 1. Ranges of bytes

Loading and storing ranges, and how the two go together: what was stored is loaded, what lies apart
is kept, and parts of a range can be looked at by themselves. -/

/-- The `n` bytes from `i` on. -/
def load (m : Memory) (i n : Nat) : List (BitVec 8) := (List.range n).map fun k => m (i + k)

/-- The memory with `bs` from `i` on. -/
def store (m : Memory) (i : Nat) (bs : List (BitVec 8)) : Memory := fun j =>
  if h : i ≤ j ∧ j < i + bs.length then bs.get ⟨j - i, by omega⟩ else m j

@[simp]
theorem length_load (m : Memory) (i n : Nat) : (load m i n).length = n := by
  simp [load]

@[simp]
theorem getElem_load (m : Memory) (i n k : Nat) (h : k < (load m i n).length) :
    (load m i n)[k] = m (i + k) := by
  simp [load]

theorem load_add (m : Memory) (i a b : Nat) : load m i (a + b) = load m i a ++ load m (i + a) b := by
  unfold load
  rw [List.range_add, List.map_append, List.map_map]
  congr 1
  refine List.map_congr_left fun k _ => ?_
  rw [Function.comp_apply, Nat.add_assoc]

/-- **A window of a longer range.** -/
theorem load_window (m : Memory) (i : Nat) {a n total : Nat} (h : a + n ≤ total) :
    load m (i + a) n = ((load m i total).drop a).take n := by
  obtain ⟨r, rfl⟩ := Nat.exists_eq_add_of_le h
  rw [load_add, load_add, List.append_assoc, List.drop_left' (length_load ..),
    List.take_left' (length_load ..)]

/-- **A piece of the bytes that are there.** -/
theorem load_piece {m : Memory} {i : Nat} (pre cs post : List (BitVec 8))
    (h : load m i (pre ++ cs ++ post).length = pre ++ cs ++ post) :
    load m (i + pre.length) cs.length = cs := by
  have hwindow : pre.length + cs.length ≤ (pre ++ cs ++ post).length := by
    simp only [List.length_append]
    omega
  rw [load_window m i hwindow, h, List.append_assoc, List.drop_left, List.take_left]

/-- A range of zeros. -/
theorem load_zeros {m : Memory} {i n : Nat} (h : ∀ j, i ≤ j → j < i + n → m j = 0) :
    load m i n = List.replicate n 0 := by
  refine List.eq_replicate_iff.2 ⟨length_load .., fun b hb => ?_⟩
  obtain ⟨k, hk, rfl⟩ := List.mem_map.1 hb
  rw [List.mem_range] at hk
  exact h _ (by omega) (by omega)

/-- A range depends on its own bytes. -/
theorem load_congr {m m' : Memory} {i n : Nat} (h : ∀ j, i ≤ j → j < i + n → m j = m' j) :
    load m i n = load m' i n := by
  refine List.map_congr_left fun k hk => ?_
  rw [List.mem_range] at hk
  exact h _ (by omega) (by omega)

theorem store_of_apart (m : Memory) {i j : Nat} {bs : List (BitVec 8)}
    (h : j < i ∨ i + bs.length ≤ j) : store m i bs j = m j := by
  unfold store
  rw [dif_neg (by omega)]

theorem store_of_lt (m : Memory) (i : Nat) {k : Nat} {bs : List (BitVec 8)} (h : k < bs.length) :
    store m i bs (i + k) = bs[k] := by
  have hin : i ≤ i + k ∧ i + k < i + bs.length := by omega
  have hk : i + k - i = k := by omega
  unfold store
  rw [dif_pos hin]
  simp only [hk, List.get_eq_getElem]

/-- **What was stored is loaded.** -/
theorem load_store_self (m : Memory) (i : Nat) (bs : List (BitVec 8)) :
    load (store m i bs) i bs.length = bs := by
  refine List.ext_getElem (length_load ..) fun k h h' => ?_
  rw [getElem_load, store_of_lt m i h']

/-- **What lies apart is kept.** -/
theorem load_store_of_apart (m : Memory) {i j n : Nat} {bs : List (BitVec 8)}
    (h : j + n ≤ i ∨ i + bs.length ≤ j) : load (store m i bs) j n = load m j n :=
  load_congr fun _ hge hlt => store_of_apart m (by omega)

/-- The second of two stores counts. -/
theorem store_store_self (m : Memory) (i : Nat) {bs cs : List (BitVec 8)}
    (h : bs.length = cs.length) : store (store m i bs) i cs = store m i cs := by
  funext j
  by_cases hin : i ≤ j ∧ j < i + cs.length
  · obtain ⟨k, rfl⟩ := Nat.exists_eq_add_of_le hin.1
    rw [store_of_lt _ i (by omega), store_of_lt _ i (by omega)]
  · rw [store_of_apart _ (by omega), store_of_apart _ (by omega), store_of_apart _ (by omega)]

/-- One range behind another. -/
theorem store_append (m : Memory) (i : Nat) (bs cs : List (BitVec 8)) :
    store m i (bs ++ cs) = store (store m i bs) (i + bs.length) cs := by
  funext j
  unfold store
  simp only [List.length_append, List.get_eq_getElem]
  by_cases hsecond : i + bs.length ≤ j ∧ j < i + bs.length + cs.length
  · rw [dif_pos (by omega), dif_pos hsecond, List.getElem_append_right (by omega)]
    congr 1
    omega
  · rw [dif_neg hsecond]
    by_cases hfirst : i ≤ j ∧ j < i + bs.length
    · rw [dif_pos hfirst, dif_pos (by omega), List.getElem_append_left]
    · rw [dif_neg hfirst, dif_neg (by omega)]

/-- Stores apart from each other may change places. -/
theorem store_comm (m : Memory) {i j : Nat} {bs cs : List (BitVec 8)} (h : i + bs.length ≤ j) :
    store (store m i bs) j cs = store (store m j cs) i bs := by
  funext k
  by_cases hk : i ≤ k ∧ k < i + bs.length
  · obtain ⟨d, rfl⟩ := Nat.exists_eq_add_of_le hk.1
    rw [store_of_apart _ (by omega), store_of_lt _ i (by omega), store_of_lt _ i (by omega)]
  · rw [store_of_apart (store m j cs) (by omega)]
    unfold store
    simp only [dif_neg hk]

/-- **A part of what was stored, stored anew.** -/
theorem store_overlay (m : Memory) (i : Nat) (pre : List (BitVec 8)) {mid mid' : List (BitVec 8)}
    (post : List (BitVec 8)) (h : mid.length = mid'.length) :
    store (store m i (pre ++ mid ++ post)) (i + pre.length) mid'
      = store m i (pre ++ mid' ++ post) := by
  rw [store_append m i (pre ++ mid), store_append m i pre, store_append m i (pre ++ mid'),
    store_append m i pre, ← store_comm _ (by simp only [List.length_append]; omega)]
  rw [store_store_self _ _ h, List.length_append, List.length_append, h]

/-- A number in a range that two memories have alike. -/
theorem load_shift {m m' : Memory} {a b n : Nat} (h : load m a n = load m' b n) {i k : Nat}
    (hik : i + k ≤ n) : load m (a + i) k = load m' (b + i) k := by
  rw [load_window m a hik, load_window m' b hik, h]

/-! ## 2. Numbers

A number is its bytes with the lowest first.  Storing one that is too large keeps its lowest bytes,
so the round trip holds up to a remainder. -/

/-- The `n` lowest bytes of a number, the lowest first. -/
def leBytes : Nat → Nat → List (BitVec 8)
  | 0, _ => []
  | n + 1, x => BitVec.ofNat 8 x :: leBytes n (x / 256)

/-- The number of bytes, the lowest first. -/
def leNat : List (BitVec 8) → Nat
  | [] => 0
  | b :: bs => b.toNat + 256 * leNat bs

@[simp]
theorem length_leBytes (n : Nat) : ∀ x, (leBytes n x).length = n := by
  induction n with
  | zero => exact fun _ => rfl
  | succ n ih => exact fun x => congrArg (· + 1) (ih (x / 256))

/-- **The bytes of a number are the number**, up to what does not fit. -/
theorem leNat_leBytes (n : Nat) : ∀ x, leNat (leBytes n x) = x % 256 ^ n := by
  induction n with
  | zero => exact fun x => (Nat.mod_one x).symm
  | succ n ih =>
    intro x
    have hpow : 256 ^ (n + 1) = 256 * 256 ^ n := Nat.pow_succ'
    have hbyte : (BitVec.ofNat 8 x).toNat = x % 256 := BitVec.toNat_ofNat ..
    rw [leBytes, leNat, ih, hbyte, hpow, Nat.mod_mul]

theorem leNat_lt (bs : List (BitVec 8)) : leNat bs < 256 ^ bs.length := by
  induction bs with
  | nil => exact Nat.one_pos
  | cons b bs ih =>
    have hbyte : b.toNat < 256 := b.isLt
    rw [leNat, List.length_cons, Nat.pow_succ']
    omega

/-- The number of `n` bytes at `i`. -/
def loadLe (m : Memory) (i n : Nat) : Nat := leNat (load m i n)

/-- The memory with the `n` bytes of a number at `i`. -/
def storeLe (m : Memory) (i n x : Nat) : Memory := store m i (leBytes n x)

theorem loadLe_lt (m : Memory) (i n : Nat) : loadLe m i n < 256 ^ n := by
  have hlt := leNat_lt (load m i n)
  rwa [length_load] at hlt

theorem loadLe_storeLe_self (m : Memory) (i n x : Nat) :
    loadLe (storeLe m i n x) i n = x % 256 ^ n := by
  have hload := load_store_self m i (leBytes n x)
  rw [length_leBytes] at hload
  unfold loadLe storeLe
  rw [hload, leNat_leBytes]

theorem loadLe_storeLe_of_apart (m : Memory) {i j n k x : Nat} (h : j + k ≤ i ∨ i + n ≤ j) :
    loadLe (storeLe m i n x) j k = loadLe m j k := by
  unfold loadLe storeLe
  rw [load_store_of_apart m (by rw [length_leBytes]; exact h)]

theorem storeLe_storeLe_self (m : Memory) (i n x y : Nat) :
    storeLe (storeLe m i n x) i n y = storeLe m i n y :=
  store_store_self m i (by rw [length_leBytes, length_leBytes])

theorem storeLe_of_apart (m : Memory) {i j n x : Nat} (h : j < i ∨ i + n ≤ j) :
    storeLe m i n x j = m j :=
  store_of_apart m (by rw [length_leBytes]; exact h)

end WoaRk3576.Lib
