import AtomicSwap.Table
import Mathlib.Algebra.BigOperators.Finprod
import Mathlib.Algebra.Order.Ring.Nat

/-!
Sums over the entries of a table, which are sums over all keys. A write changes a sum by what it puts
in less what it takes out, and what lies under two keys is part of every sum.
-/

set_option autoImplicit false
set_option relaxedAutoImplicit false

namespace AtomicSwap.Table

variable {α β : Type}

/-- The sum of the weights of all entries. -/
def sum (w : α → β → Nat) (t : Table α β) : Nat := (t.entries.map fun e => w e.1 e.2).sum

theorem sum_values (f : β → Nat) (t : Table α β) : (t.values.map f).sum = sum (fun _ => f) t := by
  simp only [values, sum, List.map_map, Function.comp_def]

variable [DecidableEq α]

/-- The weight of the entry under a key, zero if there is none. -/
def weight (w : α → β → Nat) (t : Table α β) (k : α) : Nat := (t.get? k).elim 0 (w k)

theorem weight_eq_of_get? (w : α → β → Nat) {t : Table α β} {k : α} {v : β}
    (h : t.get? k = some v) : weight w t k = w k v := by
  rw [weight, h]
  rfl

theorem weight_eq_zero_of_get? (w : α → β → Nat) {t : Table α β} {k : α} (h : t.get? k = none) :
    weight w t k = 0 := by
  rw [weight, h]
  rfl

theorem finsum_weight (w : α → β → Nat) (t : Table α β) : ∑ᶠ k, weight w t k = sum w t := by
  have hsupport : (Function.support fun k => weight w t k) ⊆ (t.keys.toFinset : Set α) := by
    intro k hk
    rw [List.coe_toFinset]
    cases hget : t.get? k with
    | none => exact absurd (weight_eq_zero_of_get? w hget) hk
    | some v => exact mem_keys_of_get? hget
  have hentry (e : α × β) (he : e ∈ t.entries) : weight w t e.1 = w e.1 e.2 :=
    weight_eq_of_get? w (get?_of_mem he)
  have hkeys : ∑ k ∈ t.keys.toFinset, weight w t k = (t.keys.map (weight w t)).sum :=
    List.sum_toFinset _ t.nodup
  rw [finsum_eq_sum_of_support_subset _ hsupport, hkeys, keys, List.map_map]
  exact congrArg List.sum (List.map_congr_left hentry)

private theorem sum_write (w : α → β → Nat) (k : α) (v : β) (l : List (α × β)) :
    ((write k v l).map fun e => w e.1 e.2).sum + (find? k l).elim 0 (w k)
      = (l.map fun e => w e.1 e.2).sum + w k v := by
  induction l with
  | nil => simp [write, find?]
  | cons e l ih =>
    obtain ⟨a, b⟩ := e
    by_cases h : a = k
    · subst h
      simp only [write, find?, if_true, List.map_cons, List.sum_cons, Option.elim_some]
      omega
    · simp only [write, find?, if_neg h, List.map_cons, List.sum_cons]
      omega

theorem sum_set (w : α → β → Nat) (t : Table α β) (k : α) (v : β) :
    sum w (t.set k v) + weight w t k = sum w t + w k v :=
  sum_write w k v t.entries

theorem sum_values_set_of_get?_eq_none (f : β → Nat) {t : Table α β} {k : α} (h : t.get? k = none)
    (v : β) : ((t.set k v).values.map f).sum = (t.values.map f).sum + f v := by
  have hset := sum_set (fun _ => f) t k v
  rw [weight_eq_zero_of_get? _ h] at hset
  rw [sum_values, sum_values]
  exact hset

theorem sum_values_set_of_get?_eq_some (f : β → Nat) {t : Table α β} {k : α} {v₀ : β}
    (h : t.get? k = some v₀) (v : β) :
    ((t.set k v).values.map f).sum + f v₀ = (t.values.map f).sum + f v := by
  have hset := sum_set (fun _ => f) t k v
  rw [weight_eq_of_get? _ h] at hset
  rw [sum_values, sum_values]
  exact hset

private theorem elim_find?_le (w : α → β → Nat) (k : α) (l : List (α × β)) :
    (find? k l).elim 0 (w k) ≤ (l.map fun e => w e.1 e.2).sum := by
  induction l with
  | nil => simp [find?]
  | cons e l ih =>
    obtain ⟨a, b⟩ := e
    rw [List.map_cons, List.sum_cons]
    by_cases h : a = k
    · subst h
      simp [find?]
    · rw [find?, if_neg h]
      omega

private theorem elim_find?_add_le (w : α → β → Nat) {k k' : α} (hk : k ≠ k') (l : List (α × β)) :
    (find? k l).elim 0 (w k) + (find? k' l).elim 0 (w k') ≤ (l.map fun e => w e.1 e.2).sum := by
  induction l with
  | nil => simp [find?]
  | cons e l ih =>
    obtain ⟨a, b⟩ := e
    rw [List.map_cons, List.sum_cons]
    -- If the first entry is under one of the keys, the other key is looked up in the rest.
    by_cases h : a = k
    · subst h
      have rest := elim_find?_le w k' l
      simp only [find?, if_true, if_neg hk, Option.elim_some]
      omega
    · by_cases h' : a = k'
      · subst h'
        have rest := elim_find?_le w k l
        simp only [find?, if_true, if_neg h, Option.elim_some]
        omega
      · simp only [find?, if_neg h, if_neg h']
        omega

theorem weight_le_sum (w : α → β → Nat) (t : Table α β) (k : α) : weight w t k ≤ sum w t :=
  elim_find?_le w k t.entries

theorem weight_add_weight_le_sum (w : α → β → Nat) (t : Table α β) {k k' : α} (h : k ≠ k') :
    weight w t k + weight w t k' ≤ sum w t :=
  elim_find?_add_le w h t.entries

end AtomicSwap.Table
