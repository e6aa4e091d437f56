/-!
Finite tables: at most one value for each key, with the keys in the order in which they first came.
The main statements say what is found under a key after a write or an erasure.
-/

set_option autoImplicit false
set_option relaxedAutoImplicit false

namespace AtomicSwap

/-- A finite table, held as its entries, no two of which have the same key. -/
structure Table (α β : Type) where
  entries : List (α × β)
  nodup : (entries.map Prod.fst).Nodup

namespace Table

variable {α β : Type}

def empty : Table α β := ⟨[], List.nodup_nil⟩

instance : Inhabited (Table α β) := ⟨empty⟩

/-- The keys in the order in which they first came. -/
def keys (t : Table α β) : List α := t.entries.map Prod.fst

def values (t : Table α β) : List β := t.entries.map Prod.snd

def size (t : Table α β) : Nat := t.entries.length

variable [DecidableEq α]

/-- The first value that a list of entries holds under a key. -/
def find? (k : α) : List (α × β) → Option β
  | [] => none
  | (k', v) :: rest => if k' = k then some v else find? k rest

/-- The entries with `v` under `k`: in the place of the old entry if there is one, else at the end. -/
def write (k : α) (v : β) : List (α × β) → List (α × β)
  | [] => [(k, v)]
  | (k', v') :: rest => if k' = k then (k, v) :: rest else (k', v') :: write k v rest

theorem mem_keys_write {k k' : α} {v : β} {l : List (α × β)} :
    k' ∈ (write k v l).map Prod.fst ↔ k' = k ∨ k' ∈ l.map Prod.fst := by
  induction l with
  | nil => simp [write]
  | cons e l ih =>
    obtain ⟨a, b⟩ := e
    by_cases h : a = k
    · subst h
      simp [write]
    · simp only [write, if_neg h, List.map_cons, List.mem_cons, ih]
      constructor
      · rintro (h | h | h)
        · exact Or.inr (Or.inl h)
        · exact Or.inl h
        · exact Or.inr (Or.inr h)
      · rintro (h | h | h)
        · exact Or.inr (Or.inl h)
        · exact Or.inl h
        · exact Or.inr (Or.inr h)

theorem nodup_write {k : α} {v : β} {l : List (α × β)} (h : (l.map Prod.fst).Nodup) :
    ((write k v l).map Prod.fst).Nodup := by
  induction l with
  | nil => simp [write]
  | cons e l ih =>
    obtain ⟨a, b⟩ := e
    rw [List.map_cons, List.nodup_cons] at h
    by_cases hk : a = k
    · subst hk
      simpa [write] using h
    · simp only [write, if_neg hk, List.map_cons, List.nodup_cons]
      refine ⟨fun hm => ?_, ih h.2⟩
      rcases mem_keys_write.1 hm with hm | hm
      · exact hk hm
      · exact h.1 hm

def get? (t : Table α β) (k : α) : Option β := find? k t.entries

def contains (t : Table α β) (k : α) : Bool := (t.get? k).isSome

def set (t : Table α β) (k : α) (v : β) : Table α β := ⟨write k v t.entries, nodup_write t.nodup⟩

def erase (t : Table α β) (k : α) : Table α β where
  entries := t.entries.filter fun e => e.1 ≠ k
  nodup := t.nodup.sublist (List.Sublist.map _ List.filter_sublist)

theorem find?_write (k k' : α) (v : β) (l : List (α × β)) :
    find? k' (write k v l) = if k = k' then some v else find? k' l := by
  induction l with
  | nil => simp [write, find?]
  | cons e l ih =>
    obtain ⟨a, b⟩ := e
    by_cases h : a = k
    · subst h
      by_cases h' : a = k' <;> simp [write, find?, h']
    · by_cases h' : a = k'
      · subst h'
        simp [write, find?, h, Ne.symm h]
      · simp [write, find?, h, h', ih]

theorem find?_filter_ne (k k' : α) (l : List (α × β)) :
    find? k' (l.filter fun e => e.1 ≠ k) = if k = k' then none else find? k' l := by
  induction l with
  | nil => simp [find?]
  | cons e l ih =>
    obtain ⟨a, b⟩ := e
    by_cases h : a = k
    · subst h
      by_cases h' : a = k' <;> simp_all [find?]
    · by_cases h' : a = k'
      · subst h'
        simp [find?, h, Ne.symm h]
      · simp_all [find?]

theorem find?_of_mem {e : α × β} {l : List (α × β)} (hnodup : (l.map Prod.fst).Nodup) (h : e ∈ l) :
    find? e.1 l = some e.2 := by
  induction l with
  | nil => cases h
  | cons e' l ih =>
    rw [List.map_cons, List.nodup_cons] at hnodup
    rcases List.mem_cons.1 h with rfl | h
    · simp [find?]
    · have hne : e'.1 ≠ e.1 := by
        intro heq
        exact hnodup.1 (heq ▸ List.mem_map_of_mem h)
      rw [find?, if_neg hne]
      exact ih hnodup.2 h

theorem mem_keys_of_find? {k : α} {v : β} {l : List (α × β)} (h : find? k l = some v) :
    k ∈ l.map Prod.fst := by
  induction l with
  | nil => cases h
  | cons e l ih =>
    rw [List.map_cons, List.mem_cons]
    by_cases hk : e.1 = k
    · exact Or.inl hk.symm
    · rw [find?, if_neg hk] at h
      exact Or.inr (ih h)

@[simp] theorem get?_empty (k : α) : (empty : Table α β).get? k = none := rfl

theorem get?_set (t : Table α β) (k k' : α) (v : β) :
    (t.set k v).get? k' = if k = k' then some v else t.get? k' := find?_write k k' v t.entries

@[simp] theorem get?_set_self (t : Table α β) (k : α) (v : β) : (t.set k v).get? k = some v := by
  simp [get?_set]

theorem get?_set_of_ne (t : Table α β) {k k' : α} (h : k ≠ k') (v : β) :
    (t.set k v).get? k' = t.get? k' := by
  simp [get?_set, h]

theorem get?_erase (t : Table α β) (k k' : α) :
    (t.erase k).get? k' = if k = k' then none else t.get? k' := find?_filter_ne k k' t.entries

theorem get?_of_mem {t : Table α β} {e : α × β} (h : e ∈ t.entries) : t.get? e.1 = some e.2 :=
  find?_of_mem t.nodup h

theorem mem_keys_of_get? {t : Table α β} {k : α} {v : β} (h : t.get? k = some v) : k ∈ t.keys :=
  mem_keys_of_find? h

end Table

end AtomicSwap
