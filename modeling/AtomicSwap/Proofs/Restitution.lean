import AtomicSwap.Proofs.Solvency

/-!
Escrows that are all given back. What some escrows took is in custody, whatever their order, so their
receipts can be released in any order, and then everybody has what they had before. Only the
allowances that the escrows used up stay used up.
-/

set_option autoImplicit false
set_option relaxedAutoImplicit false

namespace AtomicSwap

namespace Receipt

def portion (x : Asset) (r : Receipt) : Nat := Ledger.portion r.asset r.amount r.nativeAmount x

def portionOf (x : Asset) (holder : Address) (r : Receipt) : Nat :=
  if r.sender = holder then r.portion x else 0

/-- What the escrow of a receipt used up of an allowance. -/
def pulled (contract owner : Address) (r : Receipt) : Nat :=
  if r.asset = .token contract ∧ r.sender = owner then r.amount.toNat else 0

end Receipt

namespace Ledger

structure Deposit where
  asset : Asset
  sender : Address
  amount : Amount
  attached : Amount
deriving DecidableEq

def Deposit.receipt (d : Deposit) : Receipt :=
  ⟨d.asset, d.sender, d.amount, if d.asset.isNative then 0 else d.attached⟩

def escrowAll (l : Ledger) (ds : List Deposit) : Except FundsError (List Receipt) × Ledger :=
  Attempt.on l <| ds.mapM fun d => Attempt.of fun l =>
    l.escrow d.asset d.sender d.amount d.attached

def releaseAll (l : Ledger) (rs : List Receipt) : Except FundsError Unit × Ledger :=
  Attempt.on l <| forM rs fun r => Attempt.of fun l =>
    l.release r.asset r.sender r.amount r.nativeAmount

theorem escrowAll_cons_eq_ok_iff {l l' : Ledger} {d : Deposit} {ds : List Deposit}
    {rs : List Receipt} :
    l.escrowAll (d :: ds) = (.ok rs, l') ↔
      ∃ receipt l₁ receipts, l.escrow d.asset d.sender d.amount d.attached = (.ok receipt, l₁) ∧
        l₁.escrowAll ds = (.ok receipts, l') ∧ rs = receipt :: receipts := by
  unfold escrowAll
  rw [List.mapM_cons]
  simp only [Attempt.on_bind_eq_ok_iff, Attempt.on_of, Attempt.on_pure, Prod.mk.injEq,
    Except.ok.injEq]
  constructor
  · rintro ⟨receipt, l₁, hescrow, receipts, l₂, hrest, rfl, rfl⟩
    exact ⟨receipt, l₁, receipts, hescrow, hrest, rfl⟩
  · rintro ⟨receipt, l₁, receipts, hescrow, hrest, rfl⟩
    exact ⟨receipt, l₁, hescrow, receipts, l', hrest, rfl, rfl⟩

theorem releaseAll_cons_eq_ok_iff {l l' : Ledger} {r : Receipt} {rs : List Receipt} :
    l.releaseAll (r :: rs) = (.ok (), l') ↔
      ∃ l₁, l.release r.asset r.sender r.amount r.nativeAmount = (.ok (), l₁) ∧
        l₁.releaseAll rs = (.ok (), l') := by
  unfold releaseAll
  rw [List.forM_cons]
  simp only [Attempt.on_bind_eq_ok_iff, Attempt.on_of]
  exact ⟨fun ⟨_, l₁, h⟩ => ⟨l₁, h⟩, fun ⟨l₁, h⟩ => ⟨(), l₁, h⟩⟩

/-- The ledger `l'` is the ledger `l` with what some receipts stand for in custody. -/
structure Holding (l : Ledger) (rs : List Receipt) (l' : Ledger) : Prop where
  custodian : l'.custodian = l.custodian
  sender_ne : ∀ r ∈ rs, r.sender ≠ l.custodian
  custody : ∀ x, (l'.custody x).toNat = (l.custody x).toNat + (rs.map (Receipt.portion x)).sum
  balance : ∀ x holder, holder ≠ l.custodian →
    (l'.balance x holder).toNat + (rs.map (Receipt.portionOf x holder)).sum
      = (l.balance x holder).toNat

namespace Holding

variable {l l₁ l' : Ledger} {r : Receipt} {rs rs' : List Receipt}

theorem nil (l : Ledger) : Holding l [] l where
  custodian := rfl
  sender_ne r hr := by cases hr
  custody x := rfl
  balance x holder hne := rfl

theorem of_perm (h : Holding l rs l') (hperm : rs'.Perm rs) : Holding l rs' l' where
  custodian := h.custodian
  sender_ne r hr := h.sender_ne r (hperm.mem_iff.1 hr)
  custody x := by
    rw [(hperm.map (Receipt.portion x)).sum_nat]
    exact h.custody x
  balance x holder hne := by
    rw [(hperm.map (Receipt.portionOf x holder)).sum_nat]
    exact h.balance x holder hne

theorem cons (hne : r.sender ≠ l.custodian)
    (hpays : l.Pays l₁ r.sender l.custodian fun x => r.portion x) (h : Holding l₁ rs l') :
    Holding l (r :: rs) l' where
  custodian := h.custodian.trans hpays.custodian
  sender_ne r' hr' := by
    rcases List.mem_cons.1 hr' with rfl | hr'
    · exact hne
    · rw [← hpays.custodian]
      exact h.sender_ne r' hr'
  custody x := by
    have hpaid := hpays.balance_payee hne x
    have hrest := h.custody x
    rw [Ledger.custody, Ledger.custody, hpays.custodian] at hrest
    rw [Ledger.custody, Ledger.custody, List.map_cons, List.sum_cons]
    omega
  balance x holder hholder := by
    have hpaid := hpays.balance x holder
    have hrest := h.balance x holder (by rwa [hpays.custodian])
    rw [if_neg hholder] at hpaid
    rw [List.map_cons, List.sum_cons, Receipt.portionOf]
    simp only [eq_comm (a := holder)] at hpaid
    omega

theorem exists_release (h : Holding l (r :: rs) l') :
    ∃ l'', l'.release r.asset r.sender r.amount r.nativeAmount = (.ok (), l'') ∧ Holding l rs l'' ∧
      l''.allowances = l'.allowances := by
  have hne : r.sender ≠ l.custodian := h.sender_ne r List.mem_cons_self
  have hcustody (x : Asset) := h.custody x
  have hbalance (x : Asset) (holder : Address) (hholder : holder ≠ l.custodian) :=
    h.balance x holder hholder
  simp only [List.map_cons, List.sum_cons] at hcustody hbalance
  have hsender : r.sender ≠ l'.custodian := by rwa [h.custodian]
  have hcover (x : Asset) :
      Ledger.portion r.asset r.amount r.nativeAmount x ≤ (l'.custody x).toNat := by
    have hheld := hcustody x
    rw [Receipt.portion] at hheld
    omega
  have hroom (x : Asset) : (l'.balance x r.sender).toNat
      + Ledger.portion r.asset r.amount r.nativeAmount x < 2 ^ 256 := by
    have hhad := hbalance x r.sender hne
    have hlt := (l.balance x r.sender).isLt
    rw [Receipt.portionOf, if_pos rfl, Receipt.portion] at hhad
    omega
  obtain ⟨l'', hrelease⟩ := Ledger.exists_release hsender hcover hroom
  obtain ⟨-, hpays, hallowances⟩ := pays_release hrelease
  refine ⟨l'', hrelease, ⟨hpays.custodian.trans h.custodian, ?_, ?_, ?_⟩, hallowances⟩
  · intro r' hr'
    exact h.sender_ne r' (List.mem_cons_of_mem r hr')
  · intro x
    have hpaid := hpays.balance_payer hsender.symm x
    have hheld := hcustody x
    rw [Receipt.portion, Ledger.custody] at hheld
    rw [Ledger.custody, hpays.custodian]
    omega
  · intro x holder hholder
    have hpaid := hpays.balance x holder
    have hhad := hbalance x holder hholder
    rw [h.custodian, if_neg hholder] at hpaid
    rw [Receipt.portionOf, Receipt.portion] at hhad
    simp only [eq_comm (a := holder)] at hpaid
    omega

theorem balance_eq (h : Holding l [] l') (x : Asset) (holder : Address) :
    l'.balance x holder = l.balance x holder := by
  apply Amount.ext
  by_cases hholder : holder = l.custodian
  · have hheld := h.custody x
    rw [Ledger.custody, Ledger.custody, h.custodian] at hheld
    rw [hholder]
    exact hheld
  · exact h.balance x holder hholder

theorem exists_releaseAll (h : Holding l rs l') :
    ∃ l'', l'.releaseAll rs = (.ok (), l'') ∧ Holding l [] l'' ∧ l''.allowances = l'.allowances := by
  induction rs generalizing l' with
  | nil => exact ⟨l', rfl, h, rfl⟩
  | cons r rs ih =>
    -- The invariant holds of any order, so whichever receipt comes first can be released.
    obtain ⟨l₁, hrelease, hrest, hallowances⟩ := h.exists_release
    obtain ⟨l'', hreleaseAll, hnone, hkept⟩ := ih hrest
    exact ⟨l'', releaseAll_cons_eq_ok_iff.2 ⟨l₁, hrelease, hreleaseAll⟩, hnone, hkept.trans hallowances⟩

end Holding

variable {l l' : Ledger} {ds : List Deposit} {rs rs' : List Receipt}

theorem holding_escrowAll (h : l.escrowAll ds = (.ok rs, l')) :
    rs = ds.map Deposit.receipt ∧ Holding l rs l' ∧
      ∀ contract owner, (l'.allowance contract owner).toNat
          + (rs.map (Receipt.pulled contract owner)).sum
        = (l.allowance contract owner).toNat := by
  induction ds generalizing l rs with
  | nil =>
    cases h
    exact ⟨rfl, .nil _, fun _ _ => rfl⟩
  | cons d ds ih =>
    obtain ⟨receipt, l₁, receipts, hescrow, hescrowAll, rfl⟩ := escrowAll_cons_eq_ok_iff.1 h
    obtain ⟨hreceipts, hholding, hallowance⟩ := ih hescrowAll
    obtain ⟨hsender, hreceipt, hpays⟩ := pays_escrow hescrow
    have hpulled := allowance_escrow hescrow
    have hsame : receipt = d.receipt := hreceipt
    subst hsame
    refine ⟨by rw [List.map_cons, hreceipts], hholding.cons hsender hpays, ?_⟩
    intro contract owner
    have hfirst := hpulled contract owner
    have hrest := hallowance contract owner
    rw [List.map_cons, List.sum_cons, Receipt.pulled]
    show _ + ((if d.asset = .token contract ∧ d.sender = owner then d.amount.toNat else 0) + _) = _
    omega

/-- Escrows can be undone in any order. If some escrows succeed one after the other, then the releases
of what their receipts stand for succeed one after the other, in whatever order they come. Afterwards
every balance is what it was before the first escrow, and each allowance is lower by what was escrowed
of that token from that owner. -/
theorem receipts_released_in_any_order (h : l.escrowAll ds = (.ok rs, l')) (hperm : rs'.Perm rs) :
    rs = ds.map Deposit.receipt ∧
      ∃ l'', l'.releaseAll rs' = (.ok (), l'') ∧
        (∀ x holder, l''.balance x holder = l.balance x holder) ∧
        ∀ contract owner, (l''.allowance contract owner).toNat
            + (rs.map (Receipt.pulled contract owner)).sum
          = (l.allowance contract owner).toNat := by
  obtain ⟨hreceipts, hholding, hallowance⟩ := holding_escrowAll h
  obtain ⟨l'', hrelease, hnone, hallowances⟩ := (hholding.of_perm hperm).exists_releaseAll
  refine ⟨hreceipts, l'', hrelease, hnone.balance_eq, ?_⟩
  intro contract owner
  rw [allowance, hallowances]
  exact hallowance contract owner

end Ledger

namespace Sample

/-- A ledger on which there is more of the native coin than one holder could have. -/
def wealthy : Ledger :=
  ((((Ledger.empty custodian).credit .native user .max).credit .native provider .max).credit
    (.token contract) user .max).approve contract user (Amount.clamp 50)

/-- The user escrows native coin once and tokens twice, and the provider native coin. -/
def deposits : List Ledger.Deposit :=
  [⟨.native, user, Amount.clamp 3, Amount.clamp 3⟩,
    ⟨.token contract, user, Amount.clamp 30, Amount.clamp 2⟩,
    ⟨.native, provider, .max - Amount.clamp 9, .max⟩,
    ⟨.token contract, user, Amount.clamp 10, 0⟩]

def receipts : List Receipt := deposits.map Ledger.Deposit.receipt

def secured : Ledger := (wealthy.escrowAll deposits).2

theorem escrowAll_deposits : wealthy.escrowAll deposits = (.ok receipts, secured) := by
  have hanswer : (wealthy.escrowAll deposits).1 = .ok receipts := by decide
  exact Prod.ext hanswer rfl

end Sample

/-- Released in reverse order, the four escrows leave everybody what they had, and the user's
allowance forty tokens lower. -/
theorem Ledger.receipts_released_backwards :
    Sample.wealthy.escrowAll Sample.deposits = (.ok Sample.receipts, Sample.secured) ∧
      Sample.receipts.reverse.Perm Sample.receipts ∧
      ∃ l, Sample.secured.releaseAll Sample.receipts.reverse = (.ok (), l) ∧
        (∀ x holder, l.balance x holder = Sample.wealthy.balance x holder) ∧
        (l.allowance Sample.contract Sample.user).toNat = 10 := by
  have hperm := List.reverse_perm Sample.receipts
  obtain ⟨-, l, hrelease, hbalance, hallowance⟩ :=
    Ledger.receipts_released_in_any_order Sample.escrowAll_deposits hperm
  refine ⟨Sample.escrowAll_deposits, hperm, l, hrelease, hbalance, ?_⟩
  have hleft := hallowance Sample.contract Sample.user
  have hpulled : (Sample.receipts.map (Receipt.pulled Sample.contract Sample.user)).sum = 40 := by
    decide
  have hbefore : (Sample.wealthy.allowance Sample.contract Sample.user).toNat = 50 := rfl
  omega

end AtomicSwap
