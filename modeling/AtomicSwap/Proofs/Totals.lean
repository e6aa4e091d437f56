import AtomicSwap.Proofs.Escrow
import AtomicSwap.Proofs.Tallies

/-!
A registry after any writes. A write changes what is kept under one identifier or is refused, so the
size of the registry is the number of records that were inserted. The totals over its records are
the same in whatever order these are visited: the exact sums, cut off at the greatest amount, of those
assets of which something is in escrow.
-/

set_option autoImplicit false
set_option relaxedAutoImplicit false

namespace AtomicSwap

namespace Table

variable {α β : Type} [DecidableEq α]

omit [DecidableEq α] in
theorem size_eq_countP (t : Table α β) : t.size = t.values.countP fun _ => true := by
  rw [List.countP_true, values, List.length_map, size]

theorem size_set_of_get?_eq_none {t : Table α β} {k : α} (h : t.get? k = none) (v : β) :
    (t.set k v).size = t.size + 1 := by
  rw [size_eq_countP, size_eq_countP, countP_values_set_of_get?_eq_none _ h, if_pos rfl]

theorem size_set_of_get?_eq_some {t : Table α β} {k : α} {v₀ : β} (h : t.get? k = some v₀) (v : β) :
    (t.set k v).size = t.size := by
  have hcount := countP_values_set_of_get?_eq_some (fun _ => true) h v
  rw [size_eq_countP, size_eq_countP]
  exact Nat.add_right_cancel hcount

end Table

theorem Amount.pos_iff_ne_zero {a : Amount} : 0 < a ↔ a ≠ 0 := by
  rw [lt_iff, Ne, Amount.ext_iff]
  exact Nat.pos_iff_ne_zero

/-- A record is listed under its asset while it is locked, and under the native coin if any came
along. -/
def Record.Listed (x : Asset) (r : Record) : Prop :=
  r.state = .locked ∧ (r.terms.asset = x ∨ x = .native ∧ 0 < r.terms.nativeAmount)

namespace Registry

theorem isSome_addTotal (totals : Table Asset Amount) (asset x : Asset) (amount : Amount) :
    ((addTotal totals asset amount).get? x).isSome ↔ (totals.get? x).isSome ∨ asset = x := by
  rw [addTotal, Table.get?_set]
  by_cases h : asset = x <;> simp [h]

theorem isSome_addEscrow (totals : Table Asset Amount) (r : Record) (x : Asset) :
    ((addEscrow totals r).get? x).isSome ↔ (totals.get? x).isSome ∨ r.Listed x := by
  unfold addEscrow Record.Listed
  by_cases hlocked : r.state = .locked
  · rw [if_pos hlocked]
    show ((if r.terms.nativeAmount = 0 then _ else _ : Table Asset Amount).get? x).isSome ↔ _
    by_cases hzero : r.terms.nativeAmount = 0
    · rw [if_pos hzero, isSome_addTotal]
      simp [hlocked, Amount.pos_iff_ne_zero, hzero]
    · rw [if_neg hzero, isSome_addTotal, isSome_addTotal, or_assoc, eq_comm (a := Asset.native)]
      simp [hlocked, Amount.pos_iff_ne_zero, hzero]
  · rw [if_neg hlocked]
    simp [hlocked]

/-- An asset is listed in the totals over some records just if one of them is listed under it. -/
theorem isSome_heldBy (records : List Record) (x : Asset) :
    ((heldBy records).get? x).isSome ↔ ∃ r ∈ records, r.Listed x := by
  have hfoldl (totals : Table Asset Amount) :
      ((records.foldl addEscrow totals).get? x).isSome
        ↔ (totals.get? x).isSome ∨ ∃ r ∈ records, r.Listed x := by
    induction records generalizing totals with
    | nil => simp
    | cons r records ih =>
      rw [List.foldl_cons, ih, isSome_addEscrow, or_assoc, List.exists_mem_cons_iff]
  rw [heldBy, hfoldl]
  simp

/-- A write to a registry: a new record, or a new version of one. -/
inductive Write
  | insert (r : Record)
  | commit (r : Record)
deriving DecidableEq

namespace Write

def record : Write → Record
  | insert r => r
  | commit r => r

def isInsert : Write → Bool
  | insert _ => true
  | commit _ => false

/-- The identifier is one that the write may have: a new one for a new record, else a known one. -/
def Fits (g : Registry) : Write → Prop
  | insert r => g.get? r.id = none
  | commit r => g.get? r.id ≠ none

instance (g : Registry) (w : Write) : Decidable (w.Fits g) :=
  match w with
  | insert r => inferInstanceAs (Decidable (g.get? r.id = none))
  | commit r => inferInstanceAs (Decidable (g.get? r.id ≠ none))

def refusal : Write → TransferError
  | insert r => .duplicateTransfer r.id
  | commit r => .notFound r.id

def outcome (g : Registry) : Write → Except TransferError Unit × Registry
  | insert r => g.insert r
  | commit r => g.commit r

end Write

def write (g : Registry) (w : Write) : Registry := (w.outcome g).2

def writeAll (g : Registry) (ws : List Write) : Registry := ws.foldl write g

def accepted (g : Registry) : List Write → List Write
  | [] => []
  | w :: ws => if (w.outcome g).1.isOk then w :: accepted (write g w) ws else accepted (write g w) ws

variable {g : Registry} {w : Write}

theorem outcome_of_fits (h : w.Fits g) : w.outcome g = (.ok (), g.set w.record.id w.record) := by
  cases w with
  | insert r => exact insert_eq_ok h
  | commit r =>
    obtain ⟨r₀, hget⟩ := Option.ne_none_iff_exists'.1 h
    exact commit_eq_ok hget

theorem outcome_of_not_fits (h : ¬w.Fits g) : w.outcome g = (.error w.refusal, g) := by
  cases w with
  | insert r => exact insert_eq_error h
  | commit r => exact commit_eq_error (not_not.1 h)

theorem write_of_fits (h : w.Fits g) : write g w = g.set w.record.id w.record := by
  rw [write, outcome_of_fits h]

theorem write_of_not_fits (h : ¬w.Fits g) : write g w = g := by
  rw [write, outcome_of_not_fits h]

theorem get?_write (g : Registry) (w : Write) (id : TransferId) :
    (write g w).get? id = if w.Fits g ∧ w.record.id = id then some w.record else g.get? id := by
  by_cases h : w.Fits g
  · rw [write_of_fits h, Table.get?_set]
    simp only [h, true_and]
  · rw [write_of_not_fits h, if_neg (not_and_of_not_left _ h)]

theorem size_write (g : Registry) (w : Write) :
    (write g w).size = g.size + if (w.outcome g).1.isOk ∧ w.isInsert then 1 else 0 := by
  by_cases h : w.Fits g
  · rw [write_of_fits h, outcome_of_fits h]
    cases w with
    | insert r =>
      rw [if_pos ⟨rfl, rfl⟩]
      exact Table.size_set_of_get?_eq_none h r
    | commit r =>
      obtain ⟨r₀, hget⟩ := Option.ne_none_iff_exists'.1 h
      rw [if_neg (by simp [Write.isInsert])]
      exact Table.size_set_of_get?_eq_some hget r
  · rw [write_of_not_fits h, outcome_of_not_fits h, if_neg (by simp [Except.isOk, Except.toBool])]
    rfl

theorem size_writeAll (g : Registry) (ws : List Write) :
    (writeAll g ws).size = g.size + (accepted g ws).countP Write.isInsert := by
  induction ws generalizing g with
  | nil => rfl
  | cons w ws ih =>
    rw [writeAll, List.foldl_cons, ← writeAll, ih, size_write, accepted]
    by_cases hok : (w.outcome g).1.isOk
    · rw [if_pos hok, List.countP_cons]
      simp only [hok, true_and]
      omega
    · rw [if_neg hok, if_neg (not_and_of_not_left _ hok)]
      rfl

theorem id_eq_of_get?_writeAll (ws : List Write) {id : TransferId} {r : Record}
    (h : (writeAll Table.empty ws).get? id = some r) : r.id = id := by
  induction ws using List.reverseRecOn with
  | nil => cases h
  | append_singleton ws w ih =>
    rw [writeAll, List.foldl_concat, ← writeAll, get?_write] at h
    split_ifs at h with hnew
    · cases h
      exact hnew.2
    · exact ih h

/-- After any writes to an empty registry, the totals over its records, in whatever order, list just
those assets of which a locked record holds something, each with the exact sum cut off at the greatest
amount. The next write is refused, and then changes nothing, just if its identifier does not fit, and
else it changes what is kept under its own identifier alone. There are as many records as were
inserted, and each is in one of the three states. -/
theorem totals_exact (ws : List Write) :
    let g := writeAll Table.empty ws
    (∀ records : List Record, records.Perm g.values → ∀ x,
      (((heldBy records).get? x).isSome ↔ ∃ r ∈ g.values, r.Listed x) ∧
        ∀ total, (heldBy records).get? x = some total →
          total.toNat = min (escrowed g x) (2 ^ 256 - 1)) ∧
      (∀ w : Write, (w.Fits g → w.outcome g = (.ok (), write g w)) ∧
        (¬w.Fits g → w.outcome g = (.error w.refusal, g) ∧ write g w = g) ∧
        ∀ id, (write g w).get? id
          = if w.Fits g ∧ w.record.id = id then some w.record else g.get? id) ∧
      (∀ id r, g.get? id = some r → r.id = id) ∧
      g.size = (accepted Table.empty ws).countP Write.isInsert ∧
      g.count .locked + g.count .redeemed + g.count .refunded = g.size := by
  intro g
  refine ⟨?totals, ?next, fun id r => id_eq_of_get?_writeAll ws, ?size, g.count_states⟩
  case totals =>
    intro records hperm x
    constructor
    · rw [isSome_heldBy]
      simp only [hperm.mem_iff]
    · intro total hget
      have htotal := total_heldBy records x
      rw [Registry.total, hget] at htotal
      rw [escrowed, ← (hperm.map (Record.escrowed x)).sum_eq]
      exact htotal
  case next =>
    intro w
    refine ⟨?_, ?_, get?_write g w⟩
    · intro hfits
      rw [outcome_of_fits hfits, write_of_fits hfits]
    · intro hrefused
      exact ⟨outcome_of_not_fits hrefused, write_of_not_fits hrefused⟩
  case size =>
    have hsize := size_writeAll Table.empty ws
    rwa [show Table.size (Table.empty : Registry) = 0 from rfl, Nat.zero_add] at hsize

end Registry

end AtomicSwap
