import AtomicSwap.Check

/-!
Objections: what may stand against something, listed in the order in which it is reported. The first
that holds is the error, whether they are asked one after the other or looked up in their list.
-/

set_option autoImplicit false
set_option relaxedAutoImplicit false

namespace AtomicSwap

/-- What may stand against something, in the order in which it is reported: whether it does, and the
error that it leads to. -/
abbrev Objections (ε : Type) := List (Bool × ε)

namespace Objections

variable {ε δ : Type}

/-- The error of the first objection that holds. -/
def first? (os : Objections ε) : Option ε := (os.find? Prod.fst).map Prod.snd

def mapError (f : ε → δ) (os : Objections ε) : Objections δ := os.map fun o => (o.1, f o.2)

theorem first?_cons (b : Bool) (e : ε) (os : Objections ε) :
    first? ((b, e) :: os) = if b then some e else first? os := by
  cases b <;> rfl

theorem first?_append (os os' : Objections ε) :
    first? (os ++ os') = (first? os).or (first? os') := by
  unfold first?
  rw [List.find?_append]
  cases os.find? Prod.fst <;> rfl

theorem first?_mapError (f : ε → δ) (os : Objections ε) :
    first? (mapError f os) = (first? os).map f := by
  unfold first? mapError
  rw [List.find?_map, Option.map_map, Option.map_map]
  rfl

theorem first?_eq_none_iff {os : Objections ε} : first? os = none ↔ ∀ o ∈ os, o.1 = false := by
  unfold first?
  rw [Option.map_eq_none_iff, List.find?_eq_none]
  simp only [Bool.not_eq_true]

/-- What is answered with these objections in the way of `a`. -/
def answer {α : Type} (os : Objections ε) (a : α) : Except ε α :=
  match os.first? with
  | some e => .error e
  | none => .ok a

theorem answer_cons {α : Type} (b : Bool) (e : ε) (os : Objections ε) (a : α) :
    answer ((b, e) :: os) a = if b then .error e else answer os a := by
  cases b <;> rfl

theorem answer_mapError_append {α : Type} (f : ε → δ) (os : Objections ε) (os' : Objections δ)
    (a : α) :
    answer (mapError f os ++ os') a
      = match os.first? with
        | some e => .error (f e)
        | none => answer os' a := by
  unfold answer
  rw [first?_append, first?_mapError]
  cases os.first? <;> rfl

/-- What an attempt comes to with these objections in its way. Refused, it leaves the state `s`, and
else the state behind it is `s'`. -/
def attempt {σ α : Type} (os : Objections ε) (a : α) (s s' : σ) : Except ε α × σ :=
  match os.first? with
  | some e => (.error e, s)
  | none => (.ok a, s')

section

variable {σ α : Type} {os : Objections ε} {a : α} {s s' : σ} {e : ε}

theorem attempt_nil (a : α) (s s' : σ) : attempt ([] : Objections ε) a s s' = (.ok a, s') := (rfl)

theorem attempt_cons (b : Bool) (e : ε) (os : Objections ε) (a : α) (s s' : σ) :
    attempt ((b, e) :: os) a s s' = if b then (.error e, s) else attempt os a s s' := by
  cases b <;> rfl

theorem attempt_eq_ok_iff {a' : α} {s'' : σ} :
    os.attempt a s s' = (.ok a', s'') ↔ os.first? = none ∧ a' = a ∧ s'' = s' := by
  unfold attempt
  cases os.first? with
  | some e => simp
  | none => simp [eq_comm]

theorem fst_attempt_eq_error_iff : (os.attempt a s s').1 = .error e ↔ os.first? = some e := by
  unfold attempt
  cases os.first? <;> simp

theorem attempt_of_first? (h : os.first? = some e) : os.attempt a s s' = (.error e, s) := by
  rw [attempt, h]

end

end Objections

theorem Attempt.on_require_bind_of_iff {σ ε α : Type} {s : σ} {p q : Prop} [Decidable p]
    [Decidable q] (h : q ↔ ¬p) (e : ε) (f : Unit → Attempt σ ε α) :
    Attempt.on s (liftM (require p e) >>= f) = if decide q then (.error e, s) else on s (f ()) := by
  rw [on_require_bind]
  by_cases hp : p
  · have hq : ¬q := fun hq => h.1 hq hp
    rw [if_pos hp, decide_eq_false hq, if_neg Bool.false_ne_true]
  · rw [if_neg hp, decide_eq_true (h.2 hp), if_pos rfl]

section

variable {ε α β : Type}

def refusal? : Except ε α → Option ε
  | .error e => some e
  | .ok _ => none

theorem refusal?_require_bind {p q : Prop} [Decidable p] [Decidable q] (h : q ↔ ¬p) (e : ε)
    (f : Unit → Except ε α) :
    refusal? (require p e >>= f) = if decide q then some e else refusal? (f ()) := by
  rw [require_bind]
  by_cases hp : p
  · have hq : ¬q := fun hq => h.1 hq hp
    rw [if_pos hp, decide_eq_false hq, if_neg Bool.false_ne_true]
  · rw [if_neg hp, decide_eq_true (h.2 hp), if_pos rfl]
    rfl

theorem refusal?_require {p q : Prop} [Decidable p] [Decidable q] (h : q ↔ ¬p) (e : ε) :
    refusal? (require p e) = if decide q then some e else none := by
  have hbind := refusal?_require_bind h e (Except.ok (ε := ε) : Unit → Except ε Unit)
  rw [require_bind] at hbind
  exact hbind

end

end AtomicSwap
