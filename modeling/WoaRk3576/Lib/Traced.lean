/-
# Computations with the reads they make

A function that reads memory and may end early with a status is a `Traced`: its result, and the
accesses it makes on the way, up to the end.  `InBounds` is about the accesses; `inBounds_bind` and
`result_bind_eq_ok_iff` take a computation apart.
-/
import WoaRk3576.Lib.Access

namespace WoaRk3576.Lib

/-- A result, and the accesses that were made for it. -/
structure Traced (ε α : Type) where
  result : Except ε α
  accesses : List Access

namespace Traced

variable {ε α β : Type}

/-- The end with a status. -/
def throw (e : ε) : Traced ε α := ⟨.error e, []⟩

/-- A read. -/
def read (a : Access) : Traced ε Unit := ⟨.ok (), [a]⟩

/-- What follows is reached with a result only. -/
def bind (x : Traced ε α) (f : α → Traced ε β) : Traced ε β :=
  match x.result with
  | .ok a => ⟨(f a).result, x.accesses ++ (f a).accesses⟩
  | .error e => ⟨.error e, x.accesses⟩

instance : Monad (Traced ε) where
  pure a := ⟨.ok a, []⟩
  bind := bind

/-- The same with another status. -/
def mapError (g : ε → ε) (x : Traced ε α) : Traced ε α :=
  ⟨match x.result with
    | .ok a => .ok a
    | .error e => .error (g e), x.accesses⟩

/-- A computation that may fail: what follows is reached in any case. -/
def attempt {ε' : Type} (x : Traced ε' α) : Traced ε (Option α) :=
  ⟨.ok x.result.toOption, x.accesses⟩

/-- **All accesses are inside their extents.** -/
def InBounds (x : Traced ε α) : Prop := AllInBounds x.accesses

/-! ## 1. Results

The results of a computation, without its accesses: which value or which status it ends with. -/

@[simp]
theorem result_pure (a : α) : (Pure.pure a : Traced ε α).result = .ok a := rfl

@[simp]
theorem result_throw (e : ε) : (throw e : Traced ε α).result = .error e := rfl

@[simp]
theorem result_read (a : Access) : (read a : Traced ε Unit).result = .ok () := rfl

theorem result_bind_of_ok {x : Traced ε α} (f : α → Traced ε β) {a : α} (h : x.result = .ok a) :
    (x >>= f).result = (f a).result := by
  have hbind : x >>= f = bind x f := rfl
  rw [hbind, bind, h]

theorem result_bind_of_error {x : Traced ε α} (f : α → Traced ε β) {e : ε}
    (h : x.result = .error e) : (x >>= f).result = .error e := by
  have hbind : x >>= f = bind x f := rfl
  rw [hbind, bind, h]

@[simp]
theorem result_read_bind (a : Access) (f : Unit → Traced ε β) :
    (read a >>= f).result = (f ()).result := rfl

theorem result_bind_eq_ok_iff {x : Traced ε α} {f : α → Traced ε β} {b : β} :
    (x >>= f).result = .ok b ↔ ∃ a, x.result = .ok a ∧ (f a).result = .ok b := by
  cases hresult : x.result with
  | ok a =>
    rw [result_bind_of_ok f hresult]
    constructor
    · exact fun h => ⟨a, rfl, h⟩
    · rintro ⟨a', ha', h⟩
      rwa [Except.ok.inj ha']
  | error e =>
    rw [result_bind_of_error f hresult]
    constructor
    · exact fun h => nomatch h
    · rintro ⟨a, ha, -⟩
      exact nomatch ha

@[simp]
theorem result_mapError_eq_ok_iff {g : ε → ε} {x : Traced ε α} {a : α} :
    (x.mapError g).result = .ok a ↔ x.result = .ok a := by
  unfold mapError
  cases x.result with
  | ok a' => exact Iff.rfl
  | error e => exact ⟨fun h => (nomatch h), fun h => (nomatch h)⟩

@[simp]
theorem result_attempt_bind {ε' : Type} (x : Traced ε' α) (f : Option α → Traced ε β) :
    (attempt x >>= f).result = (f x.result.toOption).result := rfl

/-- A test that ends the computation. -/
@[simp]
theorem result_guard_eq_ok_iff {c : Prop} [Decidable c] {e : ε} {x : Traced ε α} {a : α} :
    (if c then throw e else x).result = .ok a ↔ ¬ c ∧ x.result = .ok a := by
  split
  · rename_i hc
    exact ⟨fun h => (nomatch h), fun h => absurd hc h.1⟩
  · rename_i hc
    exact ⟨fun h => ⟨hc, h⟩, fun h => h.2⟩

/-! ## 2. Accesses

The accesses, without the result except where it decides whether something is reached. -/

@[simp]
theorem inBounds_pure (a : α) : (Pure.pure a : Traced ε α).InBounds := allInBounds_nil

@[simp]
theorem inBounds_throw (e : ε) : (throw e : Traced ε α).InBounds := allInBounds_nil

@[simp]
theorem inBounds_read {a : Access} : (read a : Traced ε Unit).InBounds ↔ a.InBounds := by
  unfold InBounds read
  rw [allInBounds_cons, and_iff_left allInBounds_nil]

/-- **The accesses of a computation** are those of its first part, and those of its second part
where this is reached. -/
theorem inBounds_bind {x : Traced ε α} {f : α → Traced ε β} :
    (x >>= f).InBounds ↔ x.InBounds ∧ ∀ a, x.result = .ok a → (f a).InBounds := by
  have hbind : x >>= f = bind x f := rfl
  rw [hbind]
  unfold InBounds bind
  cases hresult : x.result with
  | ok a =>
    rw [allInBounds_append]
    refine and_congr_right fun _ => ⟨?_, fun h => h a rfl⟩
    rintro h a' ha'
    rwa [← Except.ok.inj ha']
  | error e => exact ⟨fun h => ⟨h, fun _ ha => (nomatch ha)⟩, fun h => h.1⟩

@[simp]
theorem inBounds_read_bind {a : Access} {f : Unit → Traced ε β} :
    (read a >>= f).InBounds ↔ a.InBounds ∧ (f ()).InBounds := by
  rw [inBounds_bind, inBounds_read]
  exact and_congr_right fun _ => ⟨fun h => h () rfl, fun h _ _ => h⟩

@[simp]
theorem inBounds_attempt_bind {ε' : Type} {x : Traced ε' α} {f : Option α → Traced ε β} :
    (attempt x >>= f).InBounds ↔ x.InBounds ∧ (f x.result.toOption).InBounds := by
  rw [inBounds_bind]
  exact and_congr_right fun _ => ⟨fun h => h _ rfl, fun h _ ha => Except.ok.inj ha ▸ h⟩

@[simp]
theorem inBounds_guard {c : Prop} [Decidable c] {e : ε} {x : Traced ε α} :
    (if c then throw e else x).InBounds ↔ (¬ c → x.InBounds) := by
  split
  · rename_i hc
    exact ⟨fun _ h => absurd hc h, fun _ => inBounds_throw e⟩
  · rename_i hc
    exact ⟨fun h _ => h, fun h => h hc⟩

@[simp]
theorem inBounds_mapError {g : ε → ε} {x : Traced ε α} :
    (x.mapError g).InBounds ↔ x.InBounds := Iff.rfl

/-! ## 3. Statuses that do not occur

A status that stands for nothing in the code, as the end of a bound that the model has put in, has
to be shown not to occur; the rules go along the structure of the computation. -/

/-- The computation does not end with this status. -/
def Avoids (e : ε) (x : Traced ε α) : Prop := x.result ≠ .error e

section Avoids

variable {e : ε}

@[simp]
theorem avoids_pure (a : α) : Avoids e (Pure.pure a : Traced ε α) := fun h => nomatch h

@[simp]
theorem avoids_throw {e' : ε} : Avoids e (throw e' : Traced ε α) ↔ e' ≠ e :=
  not_congr ⟨Except.error.inj, congrArg Except.error⟩

theorem avoids_bind {x : Traced ε α} {f : α → Traced ε β} (hx : Avoids e x)
    (hf : ∀ a, x.result = .ok a → Avoids e (f a)) : Avoids e (x >>= f) := by
  unfold Avoids at *
  cases hresult : x.result with
  | ok a =>
    rw [result_bind_of_ok f hresult]
    exact hf a hresult
  | error e' =>
    rw [result_bind_of_error f hresult]
    rw [hresult] at hx
    exact fun heq => hx (by rw [Except.error.inj heq])

@[simp]
theorem avoids_read_bind {a : Access} {f : Unit → Traced ε β} :
    Avoids e (read a >>= f) ↔ Avoids e (f ()) := Iff.rfl

@[simp]
theorem avoids_guard {c : Prop} [Decidable c] {e' : ε} {x : Traced ε α} :
    Avoids e (if c then throw e' else x) ↔ (c → e' ≠ e) ∧ (¬ c → Avoids e x) := by
  split
  · rename_i hc
    rw [avoids_throw]
    exact ⟨fun h => ⟨fun _ => h, fun hnot => absurd hc hnot⟩, fun h => h.1 hc⟩
  · rename_i hc
    exact ⟨fun h => ⟨fun h' => absurd h' hc, fun _ => h⟩, fun h => h.2 hc⟩

theorem avoids_mapError {g : ε → ε} {x : Traced ε α} (h : ∀ e', g e' ≠ e) :
    Avoids e (x.mapError g) := by
  unfold Avoids mapError
  cases x.result with
  | ok a => exact fun hfalse => nomatch hfalse
  | error e' => exact fun heq => h e' (Except.error.inj heq)

end Avoids

/-! ## 4. Results that a computation returns

The opposite: a computation that always has a value, and a value with a property. -/

/-- **The computation has a result**, and this has the property. -/
def Returns (x : Traced ε α) (p : α → Prop) : Prop := ∃ a, x.result = .ok a ∧ p a

section Returns

variable {p : α → Prop}

theorem returns_pure {a : α} (h : p a) : Returns (Pure.pure a : Traced ε α) p := ⟨a, rfl, h⟩

theorem returns_bind {q : β → Prop} {x : Traced ε α} {f : α → Traced ε β} (hx : Returns x p)
    (hf : ∀ a, p a → Returns (f a) q) : Returns (x >>= f) q := by
  obtain ⟨a, ha, hpa⟩ := hx
  obtain ⟨b, hb, hqb⟩ := hf a hpa
  exact ⟨b, (result_bind_of_ok f ha).trans hb, hqb⟩

theorem returns_read_bind {a : Access} {f : Unit → Traced ε α} (h : Returns (f ()) p) :
    Returns (read a >>= f) p := h

/-- A computation that may fail gives a property in both cases. -/
theorem returns_attempt_bind {ε' : Type} {q : β → Prop} {x : Traced ε' α}
    {f : Option α → Traced ε β} (hnone : Returns (f none) q)
    (hsome : ∀ a, x.result = .ok a → Returns (f (some a)) q) : Returns (attempt x >>= f) q := by
  have hattempt : Returns (f x.result.toOption) q := by
    cases hresult : x.result with
    | error e => exact hnone
    | ok a => exact hsome a hresult
  exact hattempt

end Returns

end Traced

end WoaRk3576.Lib
