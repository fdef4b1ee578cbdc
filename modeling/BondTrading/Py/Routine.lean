/-
# BondTrading.Py.Routine -- code that changes a state and may raise

A `Routine` ends with a value or an exception, and what it did to the state stands
either way.  `attempt` is `try .. except Exception`.
-/
import BondTrading.Py.Outcome

namespace BondTrading.Py

variable {σ ε α β : Type}

/-- From a state: how it ended, and the state it left. -/
def Routine (σ ε α : Type) : Type := σ → Except ε α × σ

namespace Routine

/-- `return a`. -/
def ret (a : α) : Routine σ ε α := fun s => (.ok a, s)

/-- One statement after another. -/
def andThen (x : Routine σ ε α) (f : α → Routine σ ε β) : Routine σ ε β := fun s =>
  match x s with
  | (.ok a, s') => f a s'
  | (.error e, s') => (.error e, s')

instance : Monad (Routine σ ε) where
  pure := ret
  bind := andThen

/-- `raise e`. -/
def raise (e : ε) : Routine σ ε α := fun s => (.error e, s)

/-- Code without effect on the state. -/
def lift (x : Except ε α) : Routine σ ε α := fun s => (x, s)

/-- Assign to the state. -/
def modify (f : σ → σ) : Routine σ ε Unit := fun s => (.ok (), f s)

/-- `try: x except Exception as exc: handler(exc)`. -/
def attempt (x : Routine σ ε α) (handler : ε → Routine σ ε α) : Routine σ ε α := fun s =>
  match x s with
  | (.ok a, s') => (.ok a, s')
  | (.error e, s') => handler e s'

/-- Code whose exception is caught, with how it ended as a value. -/
def outcome (x : Routine σ ε α) : Routine σ ε (Except ε α) := fun s => (.ok (x s).1, (x s).2)

/-! ## Steps whose outcome is known -/

section Steps

variable {x : Routine σ ε α} {f : α → Routine σ ε β} {s s' : σ}

@[simp] theorem pure_apply (a : α) (s : σ) : (pure a : Routine σ ε α) s = (.ok a, s) := rfl

@[simp] theorem raise_apply (e : ε) (s : σ) : (raise e : Routine σ ε α) s = (.error e, s) := rfl

@[simp] theorem lift_apply (y : Except ε α) (s : σ) : lift y s = (y, s) := rfl

theorem lift_eq_ok {y : Except ε α} {a : α} :
    lift y s = (.ok a, s') ↔ y = .ok a ∧ s' = s := by
  rw [lift_apply, Prod.mk.injEq, eq_comm (a := s)]

@[simp] theorem outcome_apply (x : Routine σ ε α) (s : σ) :
    outcome x s = (.ok (x s).1, (x s).2) := rfl

@[simp] theorem modify_apply (g : σ → σ) (s : σ) :
    (modify g : Routine σ ε Unit) s = (.ok (), g s) := rfl

theorem bind_of_ok {a : α} (h : x s = (.ok a, s')) : (x >>= f) s = f a s' := by
  show andThen x f s = _
  rw [andThen, h]

theorem bind_of_error {e : ε} (h : x s = (.error e, s')) : (x >>= f) s = (.error e, s') := by
  show andThen x f s = _
  rw [andThen, h]

theorem bind_apply_congr {y : Routine σ ε α} (h : x s = y s) : (x >>= f) s = (y >>= f) s := by
  show andThen x f s = andThen y f s
  rw [andThen, andThen, h]

theorem lift_ok_bind (a : α) : ((lift (.ok a) : Routine σ ε α) >>= f) = f a := rfl

theorem bind_assoc {γ : Type} {g : β → Routine σ ε γ} :
    x >>= f >>= g = x >>= fun a => f a >>= g := by
  funext s
  rcases hx : x s with ⟨a | a, s'⟩
  · rw [bind_of_error hx, bind_of_error (bind_of_error hx)]
  · rw [bind_of_ok hx]
    show andThen (x >>= f) g s = andThen (f a) g s'
    rw [andThen, andThen, bind_of_ok hx]

@[simp] theorem modify_bind_apply (g : σ → σ) (k : Unit → Routine σ ε β) (s : σ) :
    (modify g >>= k) s = k () (g s) := rfl

/-- A sequence returned: so did both of its steps. -/
theorem bind_eq_ok {b : β} {t : σ} :
    (x >>= f) s = (.ok b, t) ↔ ∃ a s', x s = (.ok a, s') ∧ f a s' = (.ok b, t) := by
  constructor
  · intro h
    rcases hx : x s with ⟨a | a, s'⟩
    · rw [bind_of_error hx] at h
      exact absurd (congrArg Prod.fst h) (by simp)
    · rw [bind_of_ok hx] at h
      exact ⟨a, s', rfl, h⟩
  · rintro ⟨a, s', hx, hf⟩
    rw [bind_of_ok hx, hf]

theorem attempt_of_ok {handler : ε → Routine σ ε α} {a : α} (h : x s = (.ok a, s')) :
    attempt x handler s = (.ok a, s') := by
  rw [attempt, h]

theorem attempt_of_error {handler : ε → Routine σ ε α} {e : ε} (h : x s = (.error e, s')) :
    attempt x handler s = handler e s' := by
  rw [attempt, h]

theorem attempt_bind_of_error {handler : ε → Routine σ ε α} {e : ε} (h : x s = (.error e, s')) :
    (attempt x handler >>= f) s = (handler e >>= f) s' := by
  show andThen (attempt x handler) f s = andThen (handler e) f s'
  rw [andThen, andThen, attempt_of_error h]

/-- Code that was attempted returned: by itself, or by its handler. -/
theorem attempt_eq_ok {handler : ε → Routine σ ε α} {a : α} (h : attempt x handler s = (.ok a, s')) :
    x s = (.ok a, s') ∨ ∃ e t, x s = (.error e, t) ∧ handler e t = (.ok a, s') := by
  rcases hx : x s with ⟨a' | a', t⟩
  · rw [attempt_of_error hx] at h
    exact Or.inr ⟨a', t, rfl, h⟩
  · rw [attempt_of_ok hx] at h
    exact Or.inl h

end Steps

/-! ## Relations that code respects -/

/-- The state the code leaves is related to the one it met. -/
def Within (R : σ → σ → Prop) (x : Routine σ ε α) : Prop := ∀ s, R s (x s).2

namespace Within

variable {R : σ → σ → Prop} {x : Routine σ ε α} {f : α → Routine σ ε β}

/-- **A transitive relation that both steps respect**, the sequence respects. -/
theorem bind (htrans : ∀ {s t u}, R s t → R t u → R s u) (hx : Within R x)
    (hf : ∀ a, Within R (f a)) : Within R (x >>= f) := by
  intro s
  have hfirst := hx s
  rcases hres : x s with ⟨a | a, s'⟩
  · rw [bind_of_error hres]
    rw [hres] at hfirst
    exact hfirst
  · rw [bind_of_ok hres]
    rw [hres] at hfirst
    exact htrans hfirst (hf a s')

theorem outcome (hx : Within R x) : Within R (Routine.outcome x) := fun s => hx s

theorem attempt {handler : ε → Routine σ ε α} (htrans : ∀ {s t u}, R s t → R t u → R s u)
    (hx : Within R x) (hhandler : ∀ e, Within R (handler e)) :
    Within R (Routine.attempt x handler) := by
  intro s
  have hfirst := hx s
  rcases hres : x s with ⟨a | a, s'⟩
  · rw [attempt_of_error hres]
    rw [hres] at hfirst
    exact htrans hfirst (hhandler a s')
  · rw [attempt_of_ok hres]
    rw [hres] at hfirst
    exact hfirst

end Within

end Routine

end BondTrading.Py
