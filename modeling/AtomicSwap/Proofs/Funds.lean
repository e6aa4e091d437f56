import AtomicSwap.Ledger
import AtomicSwap.Proofs.Objections
import AtomicSwap.Proofs.TableSum
import Mathlib.Tactic.SplitIfs

/-!
Movements of funds. Whatever moves is taken from one holder and given to another, so the supply of an
asset stays the same. An escrow and a release of the same funds are one movement in both directions,
and a release is refused only for want of funds or of room.
-/

set_option autoImplicit false
set_option relaxedAutoImplicit false

namespace AtomicSwap

theorem Amount.lt_iff_not_le {a b : Amount} : b < a ↔ ¬a ≤ b := by
  rw [Amount.lt_iff, Amount.le_iff]
  omega

theorem Amount.toNat_satAdd_of_lt {a b : Amount} (h : a.toNat + b.toNat < 2 ^ 256) :
    (a.satAdd b).toNat = a.toNat + b.toNat := by
  rw [Amount.toNat_satAdd]
  omega

namespace Ledger

/-- The exact sum of what all holders have of an asset. -/
def supply (l : Ledger) : Asset → Nat
  | .native => Table.sum (fun _ a => a.toNat) l.native
  | .token contract => Table.sum (fun k a => if k.1 = contract then a.toNat else 0) l.tokens

section

variable (l : Ledger) (asset asset' : Asset) (holder holder' : Address) (a : Amount)

@[simp] theorem custodian_setBalance : (l.setBalance asset holder a).custodian = l.custodian := by
  cases asset <;> rfl

@[simp] theorem allowances_setBalance :
    (l.setBalance asset holder a).allowances = l.allowances := by
  cases asset <;> rfl

theorem balance_setBalance :
    (l.setBalance asset holder a).balance asset' holder'
      = if asset = asset' ∧ holder = holder' then a else l.balance asset' holder' := by
  cases asset <;> cases asset' <;>
    simp [setBalance, balance, nativeOf_setNative, tokenOf_setToken]

private theorem weight_native :
    Table.weight (fun _ a => a.toNat) l.native holder = (l.nativeOf holder).toNat := by
  unfold Table.weight nativeOf
  cases l.native.get? holder <;> rfl

private theorem weight_tokens (contract contract' : Address) :
    Table.weight (fun k a => if k.1 = contract then a.toNat else 0) l.tokens (contract', holder)
      = if contract' = contract then (l.tokenOf contract' holder).toNat else 0 := by
  unfold Table.weight tokenOf
  cases l.tokens.get? (contract', holder) <;> simp

/-- Setting a balance changes the supply by the new balance less the old one. -/
theorem supply_setBalance :
    (l.setBalance asset holder a).supply asset'
        + (if asset = asset' then (l.balance asset holder).toNat else 0)
      = l.supply asset' + if asset = asset' then a.toNat else 0 := by
  cases asset with
  | native =>
    cases asset' with
    | native =>
      have h := Table.sum_set (fun _ a => a.toNat) l.native holder a
      rw [weight_native] at h
      simpa [setBalance, supply, setNative, balance] using h
    | token contract' => simp [setBalance, supply, setNative]
  | token contract =>
    cases asset' with
    | native => simp [setBalance, supply, setToken]
    | token contract' =>
      have h := Table.sum_set (fun k a => if k.1 = contract' then a.toNat else 0) l.tokens
        (contract, holder) a
      rw [weight_tokens] at h
      simpa [setBalance, supply, setToken, balance] using h

end

theorem finsum_nativeOf (l : Ledger) : ∑ᶠ holder, (l.nativeOf holder).toNat = l.supply .native := by
  have hweights := Table.finsum_weight (fun _ a => a.toNat) l.native
  simpa only [weight_native, supply] using hweights

theorem finsum_tokenOf (l : Ledger) (contract : Address) :
    ∑ᶠ holder, (l.tokenOf contract holder).toNat = l.supply (.token contract) := by
  have hweights := Table.finsum_weight (fun k a => if k.1 = contract then a.toNat else 0) l.tokens
  rw [← finsum_mem_range (f := fun k : Address × Address => (l.tokenOf k.1 k.2).toNat)
    (Prod.mk_right_injective contract), finsum_mem_def, supply, ← hweights]
  refine finsum_congr ?_
  rintro ⟨contract', holder⟩
  rw [weight_tokens]
  by_cases hcontract : contract' = contract
  · subst hcontract
    rw [if_pos rfl]
    exact Set.indicator_of_mem (Set.mem_range_self holder) _
  · rw [if_neg hcontract]
    refine Set.indicator_of_notMem ?_ _
    rintro ⟨holder', heq⟩
    exact hcontract (Prod.mk.inj heq).1.symm

theorem finsum_balance (l : Ledger) (asset : Asset) :
    ∑ᶠ holder, (l.balance asset holder).toNat = l.supply asset := by
  cases asset with
  | native => exact l.finsum_nativeOf
  | token contract => exact l.finsum_tokenOf contract

theorem balance_add_balance_le_supply (l : Ledger) (asset : Asset) {holder holder' : Address}
    (h : holder ≠ holder') :
    (l.balance asset holder).toNat + (l.balance asset holder').toNat ≤ l.supply asset := by
  cases asset with
  | native =>
    have hle := Table.weight_add_weight_le_sum (fun _ a => a.toNat) l.native h
    simpa only [weight_native, balance, supply] using hle
  | token contract =>
    have hk : (contract, holder) ≠ (contract, holder') := fun e => h (Prod.mk.inj e).2
    have hle := Table.weight_add_weight_le_sum
      (fun k a => if k.1 = contract then a.toNat else 0) l.tokens hk
    simpa only [weight_tokens, if_true, balance, supply] using hle

theorem balance_le_supply (l : Ledger) (asset : Asset) (holder : Address) :
    (l.balance asset holder).toNat ≤ l.supply asset := by
  cases asset with
  | native =>
    have hle := Table.weight_le_sum (fun _ a => a.toNat) l.native holder
    simpa only [weight_native, balance, supply] using hle
  | token contract =>
    have hle := Table.weight_le_sum (fun k a => if k.1 = contract then a.toNat else 0) l.tokens
      (contract, holder)
    simpa only [weight_tokens, if_true, balance, supply] using hle

/-- The ledger `l'` is the ledger `l` after one holder has paid another some of each asset. No other
balance differs, and the supply stays the same. -/
structure Pays (l l' : Ledger) (payer payee : Address) (paid : Asset → Nat) : Prop where
  custodian : l'.custodian = l.custodian
  balance : ∀ asset holder,
    (l'.balance asset holder).toNat + (if holder = payer then paid asset else 0)
      = (l.balance asset holder).toNat + if holder = payee then paid asset else 0
  supply : ∀ asset, l'.supply asset = l.supply asset

namespace Pays

variable {l l' l'' : Ledger} {payer payee : Address} {paid paid' : Asset → Nat}

theorem trans (h : Pays l l' payer payee paid) (h' : Pays l' l'' payer payee paid') :
    Pays l l'' payer payee fun x => paid x + paid' x where
  custodian := h'.custodian.trans h.custodian
  supply asset := (h'.supply asset).trans (h.supply asset)
  balance asset holder := by
    have first := h.balance asset holder
    have second := h'.balance asset holder
    split_ifs at first second ⊢ <;> omega

theorem balance_payee (h : Pays l l' payer payee paid) (hne : payer ≠ payee) (asset : Asset) :
    (l'.balance asset payee).toNat = (l.balance asset payee).toNat + paid asset := by
  have hb := h.balance asset payee
  rwa [if_neg hne.symm, if_pos rfl] at hb

theorem balance_payer (h : Pays l l' payer payee paid) (hne : payer ≠ payee) (asset : Asset) :
    (l'.balance asset payer).toNat + paid asset = (l.balance asset payer).toNat := by
  have hb := h.balance asset payer
  rwa [if_pos rfl, if_neg hne] at hb

end Pays

theorem sum_eq_ok_iff {a b c : Amount} :
    sum a b = .ok c ↔ a.toNat + b.toNat < 2 ^ 256 ∧ c = a.satAdd b := by
  unfold sum
  cases h : a.add? b with
  | none =>
    have hle : 2 ^ 256 ≤ a.toNat + b.toNat := Amount.ofNat?_eq_none_iff.1 h
    constructor
    · intro he
      cases he
    · rintro ⟨hlt, -⟩
      omega
  | some d =>
    have hd : d.toNat = a.toNat + b.toNat := Amount.add?_eq_some_iff.1 h
    have hlt : a.toNat + b.toNat < 2 ^ 256 := hd ▸ d.isLt
    have hsat : d = a.satAdd b := Amount.ext (hd.trans (Amount.toNat_satAdd_of_lt hlt).symm)
    constructor
    · intro he
      cases he
      exact ⟨hlt, hsat⟩
    · rintro ⟨-, rfl⟩
      exact congrArg Except.ok hsat

def moved (l : Ledger) (asset : Asset) (payer payee : Address) (a : Amount) : Ledger :=
  (l.setBalance asset payer (l.balance asset payer - a)).setBalance asset payee
    ((l.balance asset payee).satAdd a)

/-- The ledger with an asset credited out of thin air, up to the greatest amount. -/
def credit (l : Ledger) (asset : Asset) (holder : Address) (a : Amount) : Ledger :=
  match asset with
  | .native => l.mintNative holder a
  | .token contract => l.mint contract holder a

theorem credit_eq (l : Ledger) (asset : Asset) (holder : Address) (a : Amount) :
    l.credit asset holder a
      = l.setBalance asset holder ((l.balance asset holder).satAdd a) := by
  cases asset <;> rfl

section

variable {l l' : Ledger} {asset : Asset} {payer payee : Address} {a : Amount}

@[simp] theorem custodian_moved : (l.moved asset payer payee a).custodian = l.custodian := by
  simp [moved]

@[simp] theorem allowances_moved : (l.moved asset payer payee a).allowances = l.allowances := by
  simp [moved]

theorem pays_moved (hne : payer ≠ payee) (hle : a ≤ l.balance asset payer)
    (hlt : (l.balance asset payee).toNat + a.toNat < 2 ^ 256) :
    Pays l (l.moved asset payer payee a) payer payee fun x => if asset = x then a.toNat else 0 where
  custodian := custodian_moved
  balance x holder := by
    rw [Amount.le_iff] at hle
    simp only [moved, balance_setBalance]
    by_cases hx : asset = x
    · subst hx
      by_cases hr : payer = holder
      · subst hr
        simp only [hne.symm, and_false, true_and, if_true, if_false, hne, Amount.toNat_sub]
        omega
      · by_cases he : payee = holder
        · subst he
          simp only [Ne.symm hr, true_and, if_true, if_false, Amount.toNat_satAdd_of_lt hlt]
          omega
        · simp [hr, he, Ne.symm hr, Ne.symm he]
    · simp [hx]
  supply x := by
    have debit := supply_setBalance l asset x payer (l.balance asset payer - a)
    have credit := supply_setBalance (l.setBalance asset payer (l.balance asset payer - a)) asset x
      payee ((l.balance asset payee).satAdd a)
    rw [Amount.le_iff] at hle
    rw [balance_setBalance, if_neg fun h : asset = asset ∧ payer = payee => hne h.2] at credit
    unfold moved
    by_cases hx : asset = x
    · simp only [if_pos hx, Amount.toNat_sub, Amount.toNat_satAdd_of_lt hlt] at debit credit
      omega
    · simp only [if_neg hx] at debit credit
      omega

end

/-- What moves of each asset when an amount of one moves and native coin comes along. -/
def portion (asset : Asset) (amount nativeAmount : Amount) (x : Asset) : Nat :=
  (if asset = x then amount.toNat else 0) + if x = .native then nativeAmount.toNat else 0

theorem portion_native {amount nativeAmount : Amount}
    (h : amount.toNat + nativeAmount.toNat < 2 ^ 256) :
    portion .native amount nativeAmount
      = fun x => if Asset.native = x then (amount.satAdd nativeAmount).toNat else 0 := by
  funext x
  rw [Amount.toNat_satAdd_of_lt h]
  cases x <;> simp [portion]

theorem portion_token (contract : Address) (amount nativeAmount : Amount) :
    portion (.token contract) amount nativeAmount
      = fun x => (if Asset.native = x then nativeAmount.toNat else 0)
          + if Asset.token contract = x then amount.toNat else 0 := by
  funext x
  cases x <;> simp [portion]

section

variable {P : Asset → Nat → Prop} (hzero : ∀ x, P x 0) (amount nativeAmount : Amount)

include hzero

theorem forall_portion_native :
    (∀ x, P x (portion .native amount nativeAmount x))
      ↔ P .native (amount.toNat + nativeAmount.toNat) := by
  constructor
  · intro h
    simpa [portion] using h .native
  · rintro hnative (_ | contract)
    · simpa [portion] using hnative
    · simpa [portion] using hzero (.token contract)

theorem forall_portion_token (contract : Address) :
    (∀ x, P x (portion (.token contract) amount nativeAmount x))
      ↔ P .native nativeAmount.toNat ∧ P (.token contract) amount.toNat := by
  constructor
  · intro h
    exact ⟨by simpa [portion] using h .native, by simpa [portion] using h (.token contract)⟩
  · rintro ⟨hnative, htoken⟩ (_ | contract')
    · simpa [portion] using hnative
    · by_cases hsame : contract = contract'
      · subst hsame
        simpa [portion] using htoken
      · simpa [portion, hsame] using hzero (.token contract')

end

@[simp] theorem balance_approve (l : Ledger) (contract owner : Address) (a : Amount) :
    (l.approve contract owner a).balance = l.balance := by
  funext asset holder
  cases asset <;> rfl

@[simp] theorem supply_approve (l : Ledger) (contract owner : Address) (a : Amount) :
    (l.approve contract owner a).supply = l.supply := by
  funext asset
  cases asset <;> rfl

/-- The native coin that an escrow takes along with an asset. -/
def coinAlong (asset : Asset) (attached : Amount) : Amount := if asset.isNative then 0 else attached

/-- What stands against an escrow, in the order in which it is reported. -/
def objections (l : Ledger) (asset : Asset) (sender : Address) (amount attached : Amount) :
    Objections FundsError :=
  match asset with
  | .native =>
    [(sender = l.custodian, .custodianFunds),
      (l.nativeOf sender < amount, .insufficientFunds .native amount (l.nativeOf sender)),
      (2 ^ 256 ≤ (l.nativeOf l.custodian).toNat + amount.toNat, .balanceOverflow)]
  | .token contract =>
    [(sender = l.custodian, .custodianFunds),
      (l.nativeOf sender < attached, .insufficientFunds .native attached (l.nativeOf sender)),
      (2 ^ 256 ≤ (l.nativeOf l.custodian).toNat + attached.toNat, .balanceOverflow),
      (l.allowance contract sender < amount,
        .insufficientAllowance contract amount (l.allowance contract sender)),
      (l.tokenOf contract sender < amount,
        .insufficientFunds asset amount (l.tokenOf contract sender)),
      (2 ^ 256 ≤ (l.tokenOf contract l.custodian).toNat + amount.toNat, .balanceOverflow)]

def escrowed (l : Ledger) (asset : Asset) (sender : Address) (amount attached : Amount) : Ledger :=
  match asset with
  | .native => l.moved .native sender l.custodian amount
  | .token contract =>
    ((l.moved .native sender l.custodian attached).approve contract sender
      (l.allowance contract sender - amount)).moved (.token contract) sender l.custodian amount

/-- What stands against a release, in the order in which it is reported. -/
def releaseObjections (l : Ledger) (asset : Asset) (receiver : Address)
    (amount nativeAmount : Amount) : Objections FundsError :=
  match asset with
  | .native =>
    [(receiver = l.custodian, .releaseToCustodian),
      (2 ^ 256 ≤ amount.toNat + nativeAmount.toNat, .balanceOverflow),
      (l.nativeOf l.custodian < amount.satAdd nativeAmount,
        .custodyShort .native (l.nativeOf l.custodian) (amount.satAdd nativeAmount)),
      (2 ^ 256 ≤ (l.nativeOf receiver).toNat + (amount.satAdd nativeAmount).toNat,
        .balanceOverflow)]
  | .token contract =>
    [(receiver = l.custodian, .releaseToCustodian),
      (l.nativeOf l.custodian < nativeAmount,
        .custodyShort .native (l.nativeOf l.custodian) nativeAmount),
      (2 ^ 256 ≤ (l.nativeOf receiver).toNat + nativeAmount.toNat, .balanceOverflow),
      (l.tokenOf contract l.custodian < amount,
        .custodyShort asset (l.tokenOf contract l.custodian) amount),
      (2 ^ 256 ≤ (l.tokenOf contract receiver).toNat + amount.toNat, .balanceOverflow)]

def released (l : Ledger) (asset : Asset) (receiver : Address) (amount nativeAmount : Amount) :
    Ledger :=
  match asset with
  | .native => l.moved .native l.custodian receiver (amount.satAdd nativeAmount)
  | .token contract =>
    (l.moved .native l.custodian receiver nativeAmount).moved (.token contract) l.custodian receiver
      amount

section

variable {α : Type} {l : Ledger} {asset : Asset} {payer payee : Address} {a b : Amount}

theorem on_sum_bind (f : Amount → Attempt Ledger FundsError α) :
    Attempt.on l (liftM (sum a b) >>= f)
      = if decide (2 ^ 256 ≤ a.toNat + b.toNat) then (.error .balanceOverflow, l)
        else Attempt.on l (f (a.satAdd b)) := by
  rw [Attempt.on_lift_bind]
  by_cases hroom : a.toNat + b.toNat < 2 ^ 256
  · rw [sum_eq_ok_iff.2 ⟨hroom, rfl⟩, decide_eq_false (Nat.not_le.2 hroom),
      if_neg Bool.false_ne_true]
  · have hnone : a.add? b = none := Amount.ofNat?_eq_none_iff.2 (Nat.not_lt.1 hroom)
    rw [decide_eq_true (Nat.not_lt.1 hroom), if_pos rfl, sum, hnone]

theorem on_quote_bind (short : Amount → FundsError)
    (f : Amount × Amount → Attempt Ledger FundsError α) :
    Attempt.on l (quote asset payer payee a short >>= f)
      = if decide (l.balance asset payer < a) then (.error (short (l.balance asset payer)), l)
        else if decide (2 ^ 256 ≤ (l.balance asset payee).toNat + a.toNat) then
          (.error .balanceOverflow, l)
        else Attempt.on l (f (l.balance asset payer - a, (l.balance asset payee).satAdd a)) := by
  unfold quote
  simp only [bind_assoc, Attempt.on_get_bind, on_sum_bind, pure_bind,
    Attempt.on_require_bind_of_iff Amount.lt_iff_not_le]

theorem on_enter_bind (balances : Amount × Amount) (f : Unit → Attempt Ledger FundsError α) :
    Attempt.on l (enter asset payer payee balances >>= f)
      = Attempt.on ((l.setBalance asset payer balances.1).setBalance asset payee balances.2)
          (f ()) := (rfl)

theorem on_enter (balances : Amount × Amount) :
    Attempt.on l (enter asset payer payee balances)
      = (.ok (), (l.setBalance asset payer balances.1).setBalance asset payee balances.2) := (rfl)

end

theorem balance_native (l : Ledger) (holder : Address) :
    l.balance .native holder = l.nativeOf holder := (rfl)

theorem balance_token (l : Ledger) (contract holder : Address) :
    l.balance (.token contract) holder = l.tokenOf contract holder := (rfl)

/-- What an escrow is answered and the ledger behind it, refused or not. -/
theorem escrow_eq (l : Ledger) (asset : Asset) (sender : Address) (amount attached : Amount) :
    l.escrow asset sender amount attached
      = (l.objections asset sender amount attached).attempt
          ⟨asset, sender, amount, coinAlong asset attached⟩ l
          (l.escrowed asset sender amount attached) := by
  have hsender : sender = l.custodian ↔ ¬sender ≠ l.custodian := not_not.symm
  unfold escrow
  rw [Attempt.on_get_bind, Attempt.on_require_bind_of_iff hsender]
  cases asset with
  | native =>
    have hbehind : (l.setBalance .native sender (l.nativeOf sender - amount)).setBalance .native
        l.custodian ((l.nativeOf l.custodian).satAdd amount)
          = l.escrowed .native sender amount attached := rfl
    simp only [objections, Objections.attempt_cons, Objections.attempt_nil, on_quote_bind,
      on_enter_bind, Attempt.on_pure, balance_native, hbehind, coinAlong, Asset.isNative, if_true]
  | token contract =>
    have hbehind : ((((l.setBalance .native sender (l.nativeOf sender - attached)).setBalance .native
        l.custodian ((l.nativeOf l.custodian).satAdd attached)).approve contract sender
          (l.allowance contract sender - amount)).setBalance (.token contract) sender
            (l.tokenOf contract sender - amount)).setBalance (.token contract) l.custodian
              ((l.tokenOf contract l.custodian).satAdd amount)
          = l.escrowed (.token contract) sender amount attached := rfl
    simp only [objections, Objections.attempt_cons, Objections.attempt_nil, on_quote_bind,
      on_enter_bind, Attempt.on_get_bind, Attempt.on_modify_bind, Attempt.on_pure,
      Attempt.on_require_bind_of_iff Amount.lt_iff_not_le, balance_native, balance_token, hbehind,
      coinAlong, Asset.isNative, Bool.false_eq_true, if_false]

theorem release_eq (l : Ledger) (asset : Asset) (receiver : Address)
    (amount nativeAmount : Amount) :
    l.release asset receiver amount nativeAmount
      = (l.releaseObjections asset receiver amount nativeAmount).attempt () l
          (l.released asset receiver amount nativeAmount) := by
  have hreceiver : receiver = l.custodian ↔ ¬receiver ≠ l.custodian := not_not.symm
  unfold release
  rw [Attempt.on_get_bind, Attempt.on_require_bind_of_iff hreceiver]
  cases asset with
  | native =>
    simp only [releaseObjections, Objections.attempt_cons, Objections.attempt_nil, on_sum_bind,
      on_quote_bind, on_enter, balance_native]
    rfl
  | token contract =>
    have hbehind : (((l.setBalance .native l.custodian (l.nativeOf l.custodian - nativeAmount)).setBalance
        .native receiver ((l.nativeOf receiver).satAdd nativeAmount)).setBalance (.token contract)
          l.custodian (l.tokenOf contract l.custodian - amount)).setBalance (.token contract) receiver
            ((l.tokenOf contract receiver).satAdd amount)
          = l.released (.token contract) receiver amount nativeAmount := rfl
    simp only [releaseObjections, Objections.attempt_cons, Objections.attempt_nil, on_quote_bind,
      on_enter_bind, on_enter, balance_native, balance_token, hbehind]

theorem escrow_eq_ok_iff {l l' : Ledger} {asset : Asset} {sender : Address}
    {amount attached : Amount} {receipt : Receipt} :
    l.escrow asset sender amount attached = (.ok receipt, l') ↔
      (l.objections asset sender amount attached).first? = none ∧
        receipt = ⟨asset, sender, amount, coinAlong asset attached⟩ ∧
        l' = l.escrowed asset sender amount attached := by
  rw [escrow_eq, Objections.attempt_eq_ok_iff]

theorem release_eq_ok_iff {l l' : Ledger} {asset : Asset} {receiver : Address}
    {amount nativeAmount : Amount} :
    l.release asset receiver amount nativeAmount = (.ok (), l') ↔
      (l.releaseObjections asset receiver amount nativeAmount).first? = none ∧
        l' = l.released asset receiver amount nativeAmount := by
  rw [release_eq, Objections.attempt_eq_ok_iff, eq_self_iff_true, true_and]

theorem escrow_refused {l : Ledger} {asset : Asset} {sender : Address} {amount attached : Amount}
    {e : FundsError} (h : (l.escrow asset sender amount attached).1 = .error e) :
    (l.escrow asset sender amount attached).2 = l := by
  rw [escrow_eq] at h ⊢
  rw [Objections.attempt_of_first? (Objections.fst_attempt_eq_error_iff.1 h)]

theorem release_refused {l : Ledger} {asset : Asset} {receiver : Address}
    {amount nativeAmount : Amount} {e : FundsError}
    (h : (l.release asset receiver amount nativeAmount).1 = .error e) :
    (l.release asset receiver amount nativeAmount).2 = l := by
  rw [release_eq] at h ⊢
  rw [Objections.attempt_of_first? (Objections.fst_attempt_eq_error_iff.1 h)]

def coinMoved (asset : Asset) (amount attached : Amount) : Amount :=
  match asset with
  | .native => amount
  | .token _ => attached

theorem objections_eq_none_iff {l : Ledger} {asset : Asset} {sender : Address}
    {amount attached : Amount} :
    (l.objections asset sender amount attached).first? = none ↔
      sender ≠ l.custodian ∧ coinMoved asset amount attached ≤ l.nativeOf sender ∧
        (l.nativeOf l.custodian).toNat + (coinMoved asset amount attached).toNat < 2 ^ 256 ∧
        ∀ contract, asset = .token contract →
          amount ≤ l.allowance contract sender ∧ amount ≤ l.tokenOf contract sender ∧
          (l.tokenOf contract l.custodian).toNat + amount.toNat < 2 ^ 256 := by
  rw [Objections.first?_eq_none_iff]
  cases asset with
  | native =>
    simp [objections, coinMoved, Amount.lt_iff_not_le]
  | token contract =>
    simp [objections, coinMoved, Amount.lt_iff_not_le]

theorem releaseObjections_eq_none_iff {l : Ledger} {asset : Asset} {receiver : Address}
    {amount nativeAmount : Amount} :
    (l.releaseObjections asset receiver amount nativeAmount).first? = none ↔
      receiver ≠ l.custodian ∧
        (∀ x, portion asset amount nativeAmount x ≤ (l.custody x).toNat) ∧
        (asset = .native → amount.toNat + nativeAmount.toNat < 2 ^ 256) ∧
        ∀ x, (l.balance x receiver).toNat + portion asset amount nativeAmount x < 2 ^ 256 := by
  have hcover := @forall_portion_native (fun x n => n ≤ (l.custody x).toNat) (fun _ => Nat.zero_le _)
  have hcover' := @forall_portion_token (fun x n => n ≤ (l.custody x).toNat) fun _ => Nat.zero_le _
  have hroom := @forall_portion_native (fun x n => (l.balance x receiver).toNat + n < 2 ^ 256)
    fun x => (l.balance x receiver).isLt
  have hroom' := @forall_portion_token (fun x n => (l.balance x receiver).toNat + n < 2 ^ 256)
    fun x => (l.balance x receiver).isLt
  rw [Objections.first?_eq_none_iff]
  cases asset with
  | native =>
    rw [hcover, hroom]
    simp only [releaseObjections, List.forall_mem_cons, decide_eq_false_iff_not, Nat.not_le,
      Amount.lt_iff_not_le, not_not]
    constructor
    · rintro ⟨hne, hfit, hheld, hlt, -⟩
      rw [Amount.le_iff, Amount.toNat_satAdd_of_lt hfit] at hheld
      rw [Amount.toNat_satAdd_of_lt hfit] at hlt
      exact ⟨hne, hheld, fun _ => hfit, hlt⟩
    · rintro ⟨hne, hheld, hfit, hlt⟩
      have hfit := hfit trivial
      rw [Amount.le_iff, Amount.toNat_satAdd_of_lt hfit]
      exact ⟨hne, hfit, hheld, hlt, by simp⟩
  | token contract =>
    rw [hcover', hroom']
    simp only [releaseObjections, List.forall_mem_cons, decide_eq_false_iff_not, Nat.not_le,
      Amount.lt_iff_not_le, not_not]
    constructor
    · rintro ⟨hne, hheld, hlt, hheld', hlt', -⟩
      exact ⟨hne, ⟨hheld, hheld'⟩, by simp, hlt, hlt'⟩
    · rintro ⟨hne, ⟨hheld, hheld'⟩, -, hlt, hlt'⟩
      exact ⟨hne, hheld, hlt, hheld', hlt', by simp⟩

section

variable {l l' : Ledger} {asset : Asset} {sender receiver : Address}
  {amount attached nativeAmount : Amount} {receipt : Receipt}

/-- An escrow that is not refused pays the custodian what its receipt says. -/
theorem pays_escrow (h : l.escrow asset sender amount attached = (.ok receipt, l')) :
    sender ≠ l.custodian ∧ receipt = ⟨asset, sender, amount, coinAlong asset attached⟩ ∧
      Pays l l' sender l.custodian (portion asset amount receipt.nativeAmount) := by
  rw [escrow_eq_ok_iff, objections_eq_none_iff] at h
  obtain ⟨⟨hne, hheld, hroom, htoken⟩, rfl, rfl⟩ := h
  refine ⟨hne, rfl, ?_⟩
  have hcoin := @pays_moved l .native sender l.custodian _ hne hheld hroom
  cases asset with
  | native =>
    have hfit : amount.toNat + (0 : Amount).toNat < 2 ^ 256 := amount.isLt
    have hzero : amount.satAdd 0 = amount := Amount.ext (Amount.toNat_satAdd_of_lt hfit)
    have hportion := portion_native hfit
    rw [hzero] at hportion
    exact hportion ▸ hcoin
  | token contract =>
    obtain ⟨-, hheld', hroom'⟩ := htoken contract rfl
    -- The tokens are untouched by the coin that moved before them, and by the allowance.
    let l₁ := (l.moved .native sender l.custodian attached).approve contract sender
      (l.allowance contract sender - amount)
    simp only [coinMoved] at hcoin
    have happroved : Pays l l₁ sender l.custodian
        fun x => if Asset.native = x then attached.toNat else 0 :=
      ⟨hcoin.custodian, by simpa [l₁] using hcoin.balance, by simpa [l₁] using hcoin.supply⟩
    have htokens := @pays_moved l₁ (.token contract) sender l.custodian amount hne hheld' hroom'
    have hboth := happroved.trans htokens
    rwa [← portion_token] at hboth

/-- An escrow that is not refused uses up as much of the sender's allowance as it takes of a token. -/
theorem allowance_escrow (h : l.escrow asset sender amount attached = (.ok receipt, l'))
    (contract owner : Address) :
    (l'.allowance contract owner).toNat
        + (if asset = .token contract ∧ sender = owner then amount.toNat else 0)
      = (l.allowance contract owner).toNat := by
  rw [escrow_eq_ok_iff, objections_eq_none_iff] at h
  obtain ⟨⟨-, -, -, htoken⟩, -, rfl⟩ := h
  cases asset with
  | native => simp [escrowed, allowance]
  | token contract' =>
    have hallowed := (htoken contract' rfl).1
    rw [Amount.le_iff] at hallowed
    have hbehind : (l.escrowed (.token contract') sender amount attached).allowance contract owner
        = if contract' = contract ∧ sender = owner then l.allowance contract' sender - amount
          else l.allowance contract owner := by
      have happroved := allowance_approve l contract' contract sender owner
        (l.allowance contract' sender - amount)
      rw [← happroved]
      simp [escrowed, allowance, approve]
    rw [hbehind]
    simp only [Asset.token.injEq]
    split_ifs with hsame
    · obtain ⟨rfl, rfl⟩ := hsame
      rw [Amount.toNat_sub]
      omega
    · rfl

theorem pays_release (h : l.release asset receiver amount nativeAmount = (.ok (), l')) :
    receiver ≠ l.custodian ∧
      Pays l l' l.custodian receiver (portion asset amount nativeAmount) ∧
      l'.allowances = l.allowances := by
  rw [release_eq_ok_iff, releaseObjections_eq_none_iff] at h
  obtain ⟨⟨hne, hcover, hfit, hroom⟩, rfl⟩ := h
  refine ⟨hne, ?_, ?_⟩
  · have hcover_native := hcover .native
    have hroom_native := hroom .native
    cases asset with
    | native =>
      have hfit := hfit rfl
      rw [portion_native hfit] at hcover_native hroom_native ⊢
      exact pays_moved hne.symm ((Amount.le_iff _ _).2 hcover_native) hroom_native
    | token contract =>
      have hcover_token := hcover (.token contract)
      have hroom_token := hroom (.token contract)
      simp only [portion_token, if_true, reduceCtorEq, if_false, Nat.zero_add, Nat.add_zero]
        at hcover_native hroom_native hcover_token hroom_token
      rw [portion_token]
      have hcoin := pays_moved hne.symm ((Amount.le_iff _ _).2 hcover_native) hroom_native
      have htokens := @pays_moved (l.moved .native l.custodian receiver nativeAmount)
        (.token contract) l.custodian receiver amount hne.symm ((Amount.le_iff _ _).2 hcover_token)
        hroom_token
      exact hcoin.trans htokens
  · cases asset with
    | native => exact allowances_moved
    | token contract => exact allowances_moved.trans allowances_moved

/-- An escrow is refused only of the custodian's own funds, for want of funds, of an allowance, or of
room in custody. -/
theorem exists_escrow (hne : sender ≠ l.custodian)
    (hheld : ∀ x, portion asset amount (coinAlong asset attached) x ≤ (l.balance x sender).toNat)
    (hallowed : ∀ contract, asset = .token contract → amount ≤ l.allowance contract sender)
    (hroom : ∀ x, (l.custody x).toNat + portion asset amount (coinAlong asset attached) x
      < 2 ^ 256) :
    ∃ l', l.escrow asset sender amount attached
      = (.ok ⟨asset, sender, amount, coinAlong asset attached⟩, l') := by
  refine ⟨l.escrowed asset sender amount attached, ?_⟩
  rw [escrow_eq_ok_iff, objections_eq_none_iff]
  refine ⟨⟨hne, ?_⟩, rfl, rfl⟩
  have hheld_native := hheld .native
  have hroom_native := hroom .native
  cases asset with
  | native =>
    simp only [portion, coinAlong, Asset.isNative, if_true, Amount.toNat_zero, Nat.add_zero]
      at hheld_native hroom_native
    exact ⟨hheld_native, hroom_native, by simp⟩
  | token contract =>
    have hheld_token := hheld (.token contract)
    have hroom_token := hroom (.token contract)
    simp only [portion, coinAlong, Asset.isNative, if_true, reduceCtorEq, if_false,
      Bool.false_eq_true, Nat.zero_add, Nat.add_zero]
      at hheld_native hroom_native hheld_token hroom_token
    refine ⟨hheld_native, hroom_native, ?_⟩
    rintro _ ⟨rfl⟩
    exact ⟨hallowed contract rfl, hheld_token, hroom_token⟩

theorem exists_release_iff :
    (∃ l', l.release asset receiver amount nativeAmount = (.ok (), l')) ↔
      receiver ≠ l.custodian ∧
        (∀ x, portion asset amount nativeAmount x ≤ (l.custody x).toNat) ∧
        (asset = .native → amount.toNat + nativeAmount.toNat < 2 ^ 256) ∧
        ∀ x, (l.balance x receiver).toNat + portion asset amount nativeAmount x < 2 ^ 256 := by
  rw [← releaseObjections_eq_none_iff]
  simp only [release_eq_ok_iff, exists_and_left, exists_eq, and_true]

theorem exists_release (hne : receiver ≠ l.custodian)
    (hcover : ∀ x, portion asset amount nativeAmount x ≤ (l.custody x).toNat)
    (hroom : ∀ x, (l.balance x receiver).toNat + portion asset amount nativeAmount x < 2 ^ 256) :
    ∃ l', l.release asset receiver amount nativeAmount = (.ok (), l') := by
  refine exists_release_iff.2 ⟨hne, hcover, ?_, hroom⟩
  rintro rfl
  have hfit := hroom .native
  simp only [portion, if_true] at hfit
  omega

end

end Ledger

end AtomicSwap
