/-!
Computations that can be refused: what they need to hold, and the error that they end with otherwise.
One that works on a state leaves it as far as it had come when it was refused.
-/

set_option autoImplicit false
set_option relaxedAutoImplicit false

namespace AtomicSwap

/-- Goes on if `p` holds, and ends with the error `e` if not. -/
def require {ε : Type} (p : Prop) [Decidable p] (e : ε) : Except ε Unit :=
  if p then .ok () else .error e

section

variable {ε α β : Type} {p : Prop} [Decidable p] {e : ε}

@[simp] theorem require_eq_ok_iff {u : Unit} : require p e = .ok u ↔ p := by
  unfold require
  split <;> simp_all

theorem require_bind (f : Unit → Except ε α) :
    (require p e >>= f) = if p then f () else .error e := by
  unfold require
  split <;> rfl

theorem require_bind_eq_ok_iff {f : Unit → Except ε α} {a : α} :
    (require p e >>= f) = .ok a ↔ p ∧ f () = .ok a := by
  rw [require_bind]
  split <;> simp_all

theorem bind_eq_ok_iff {x : Except ε α} {f : α → Except ε β} {b : β} :
    (x >>= f) = .ok b ↔ ∃ a, x = .ok a ∧ f a = .ok b := by
  cases x with
  | error e =>
    constructor
    · intro h
      cases h
    · rintro ⟨a, h, -⟩
      cases h
  | ok a =>
    constructor
    · intro h
      exact ⟨a, rfl, h⟩
    · rintro ⟨a', h, h'⟩
      cases h
      exact h'

end

/-- A computation on a state that can be refused. What it wrote before that stays written. -/
abbrev Attempt (σ ε α : Type) := ExceptT ε (StateM σ) α

namespace Attempt

variable {σ ε α β : Type} {s : σ} {p : Prop} [Decidable p] {e : ε}

/-- The answer of a computation that starts from a state, and the state behind it. -/
def on (s : σ) (x : Attempt σ ε α) : Except ε α × σ := x.run s

/-- The computation with these answers and states behind them. -/
def of (f : σ → Except ε α × σ) : Attempt σ ε α := f

@[simp] theorem on_of (f : σ → Except ε α × σ) : on s (of f) = f s := (rfl)

@[simp] theorem on_pure (a : α) : on s (pure a : Attempt σ ε α) = (.ok a, s) := (rfl)

@[simp] theorem on_modify (f : σ → σ) : on s (modify f : Attempt σ ε Unit) = (.ok (), f s) := (rfl)

@[simp] theorem on_get_bind (f : σ → Attempt σ ε α) : on s (get >>= f) = on s (f s) := (rfl)

@[simp] theorem on_modify_bind (g : σ → σ) (f : Unit → Attempt σ ε α) :
    on s (modify g >>= f) = on (g s) (f ()) := (rfl)

theorem on_lift_bind (x : Except ε α) (f : α → Attempt σ ε β) :
    on s (liftM x >>= f) = match x with
      | .error e => (.error e, s)
      | .ok a => on s (f a) := by
  cases x <;> rfl

theorem on_require_bind (f : Unit → Attempt σ ε α) :
    on s (liftM (require p e) >>= f) = if p then on s (f ()) else (.error e, s) := by
  rw [on_lift_bind, require]
  by_cases hp : p <;> simp [hp]

theorem of_on_require {u : Unit} {s' : σ}
    (h : on s (liftM (require p e) : Attempt σ ε Unit) = (.ok u, s')) : p := by
  unfold require at h
  split at h
  · assumption
  · cases h

theorem on_bind (x : Attempt σ ε α) (f : α → Attempt σ ε β) :
    on s (x >>= f) = match on s x with
      | (.error e, s') => (.error e, s')
      | (.ok a, s') => on s' (f a) := by
  have hrun : on s (x >>= f) = match on s x with
      | (a, s') => (ExceptT.bindCont (m := StateM σ) f a) s' := rfl
  rw [hrun]
  rcases on s x with ⟨e | a, s'⟩ <;> rfl

theorem on_bind_eq_ok_iff {x : Attempt σ ε α} {f : α → Attempt σ ε β} {b : β} {s' : σ} :
    on s (x >>= f) = (.ok b, s') ↔ ∃ a s₁, on s x = (.ok a, s₁) ∧ on s₁ (f a) = (.ok b, s') := by
  rw [on_bind]
  rcases on s x with ⟨e | a, s₁⟩
  · constructor
    · intro h
      cases h
    · rintro ⟨a, s₂, h, -⟩
      cases h
  · constructor
    · intro h
      exact ⟨a, s₁, rfl, h⟩
    · rintro ⟨a', s₂, h, h'⟩
      cases h
      exact h'

end Attempt

end AtomicSwap
