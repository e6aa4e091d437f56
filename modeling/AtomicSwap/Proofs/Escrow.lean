import AtomicSwap.Proofs.Funds
import AtomicSwap.Registry
import AtomicSwap.Transfer.Record

/-!
What records hold in escrow. A locked record holds its amount and the native coin that came along, a
settled one nothing. The totals that a registry gives are the exact sums, cut off at the greatest
amount.
-/

set_option autoImplicit false
set_option relaxedAutoImplicit false

namespace AtomicSwap

def Terms.portion (t : Terms) (x : Asset) : Nat := Ledger.portion t.asset t.amount t.nativeAmount x

def Record.escrowed (x : Asset) (r : Record) : Nat :=
  if r.state = .locked then r.terms.portion x else 0

namespace Registry

/-- The exact sum of what all records hold in escrow of an asset. -/
def escrowed (g : Registry) (x : Asset) : Nat := (g.values.map (Record.escrowed x)).sum

theorem escrowed_eq_sum (g : Registry) (x : Asset) :
    escrowed g x = Table.sum (fun _ r => r.escrowed x) g :=
  Table.sum_values (Record.escrowed x) g

theorem escrowed_set_of_fresh {g : Registry} {k : TransferId} (h : g.get? k = none) (r : Record)
    (x : Asset) : escrowed (g.set k r) x = escrowed g x + r.escrowed x :=
  Table.sum_values_set_of_get?_eq_none (Record.escrowed x) h r

theorem escrowed_set_of_get? {g : Registry} {k : TransferId} {r : Record} (h : g.get? k = some r)
    (r' : Record) (x : Asset) :
    escrowed (g.set k r') x + r.escrowed x = escrowed g x + r'.escrowed x :=
  Table.sum_values_set_of_get?_eq_some (Record.escrowed x) h r'

theorem escrowed_le {g : Registry} {k : TransferId} {r : Record} (h : g.get? k = some r)
    (x : Asset) : r.escrowed x ≤ escrowed g x := by
  have hle := Table.weight_le_sum (fun _ r => r.escrowed x) g k
  rw [Table.weight_eq_of_get? _ h] at hle
  rwa [escrowed_eq_sum]

/-- The total that is listed for an asset. What is not listed counts as zero. -/
def total (totals : Table Asset Amount) (x : Asset) : Nat := ((totals.get? x).getD 0).toNat

theorem total_lt (totals : Table Asset Amount) (x : Asset) : total totals x < 2 ^ 256 :=
  ((totals.get? x).getD 0).isLt

theorem total_addTotal (totals : Table Asset Amount) (asset x : Asset) (amount : Amount) :
    total (addTotal totals asset amount) x
      = min (total totals x + if asset = x then amount.toNat else 0) (2 ^ 256 - 1) := by
  have hlt := total_lt totals x
  unfold total at hlt ⊢
  rw [addTotal, Table.get?_set]
  by_cases h : asset = x
  · subst h
    rw [if_pos rfl, if_pos rfl]
    exact Amount.toNat_satAdd _ _
  · rw [if_neg h, if_neg h]
    omega

theorem total_addEscrow (totals : Table Asset Amount) (r : Record) (x : Asset) :
    total (addEscrow totals r) x = min (total totals x + r.escrowed x) (2 ^ 256 - 1) := by
  have hlt := total_lt totals x
  have hamount := total_addTotal totals r.terms.asset x r.terms.amount
  unfold addEscrow Record.escrowed
  by_cases hlocked : r.state = .locked
  · rw [if_pos hlocked, if_pos hlocked, Terms.portion, Ledger.portion]
    show total (if r.terms.nativeAmount = 0 then _ else _) x = _
    by_cases hzero : r.terms.nativeAmount = 0
    · have hnone : r.terms.nativeAmount.toNat = 0 := by
        rw [hzero]
        rfl
      rw [if_pos hzero, hamount, hnone, ite_self, Nat.add_zero]
    · rw [if_neg hzero, total_addTotal, hamount]
      simp only [eq_comm (a := Asset.native)]
      -- For a native leg both additions go to the same total; cutting off twice changes nothing.
      omega
  · rw [if_neg hlocked, if_neg hlocked]
    omega

private theorem total_foldl (records : List Record) (totals : Table Asset Amount) (x : Asset) :
    total (records.foldl addEscrow totals) x
      = min (total totals x + (records.map (Record.escrowed x)).sum) (2 ^ 256 - 1) := by
  induction records generalizing totals with
  | nil =>
    have hlt := total_lt totals x
    simp only [List.foldl_nil, List.map_nil, List.sum_nil]
    omega
  | cons r records ih =>
    rw [List.foldl_cons, ih, total_addEscrow, List.map_cons, List.sum_cons]
    omega

/-- The totals over some records are the exact sums, cut off at the greatest amount. -/
theorem total_heldBy (records : List Record) (x : Asset) :
    total (heldBy records) x = min (records.map (Record.escrowed x)).sum (2 ^ 256 - 1) := by
  have hempty : total Table.empty x = 0 := rfl
  rw [heldBy, total_foldl, hempty, Nat.zero_add]

end Registry

end AtomicSwap
