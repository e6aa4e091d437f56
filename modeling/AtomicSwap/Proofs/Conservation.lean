import AtomicSwap.Proofs.Funds

/-!
Calls of a ledger that is in any state. Whatever is called, nothing is created or lost: each call that
is not refused moves exact amounts between one holder and the custodian, every other call leaves the
ledger as it was, and no difference that is computed on the way would be negative.
-/

set_option autoImplicit false
set_option relaxedAutoImplicit false

namespace AtomicSwap

/-- The exact difference of two amounts, nothing if it would be negative. -/
def Amount.sub? (a b : Amount) : Option Amount := if b ≤ a then some (a - b) else none

theorem Amount.sub?_eq_some {a b : Amount} (h : b ≤ a) : a.sub? b = some (a - b) := if_pos h

namespace Ledger

inductive Call
  | escrow (asset : Asset) (sender : Address) (amount attached : Amount)
  | release (asset : Asset) (receiver : Address) (amount nativeAmount : Amount)
  | approve (contract owner : Address) (amount : Amount)
deriving DecidableEq

def perform (l : Ledger) : Call → Except FundsError Unit × Ledger
  | .escrow asset sender amount attached =>
    (l.escrow asset sender amount attached).map (Except.map fun _ => ()) id
  | .release asset receiver amount nativeAmount => l.release asset receiver amount nativeAmount
  | .approve contract owner amount => (.ok (), l.approve contract owner amount)

def step (l : Ledger) (call : Call) : Ledger := (l.perform call).2

def run (l : Ledger) (calls : List Call) : Ledger := calls.foldl step l

/-- All that a call can do to a ledger. A refused one does nothing. An escrow moves funds from its
sender to the custodian, and of a token it uses up the sender's allowance; a release moves funds from
the custodian to its receiver; an approval sets one allowance. -/
inductive Effect (l : Ledger) : Call → Ledger → Prop
  | refused {call : Call} {e : FundsError} (answer : (l.perform call).1 = .error e) : Effect l call l
  | escrowed {asset : Asset} {sender : Address} {amount attached : Amount} {l' : Ledger}
      (answer : l.perform (.escrow asset sender amount attached) = (.ok (), l'))
      (sender_ne : sender ≠ l.custodian)
      (pays : l.Pays l' sender l.custodian (portion asset amount (coinAlong asset attached)))
      (allowance : ∀ contract owner, (l'.allowance contract owner).toNat
          + (if asset = .token contract ∧ sender = owner then amount.toNat else 0)
        = (l.allowance contract owner).toNat) :
      Effect l (.escrow asset sender amount attached) l'
  | released {asset : Asset} {receiver : Address} {amount nativeAmount : Amount} {l' : Ledger}
      (answer : l.perform (.release asset receiver amount nativeAmount) = (.ok (), l'))
      (receiver_ne : receiver ≠ l.custodian)
      (pays : l.Pays l' l.custodian receiver (portion asset amount nativeAmount))
      (allowance : ∀ contract owner, l'.allowance contract owner = l.allowance contract owner) :
      Effect l (.release asset receiver amount nativeAmount) l'
  | approved {contract owner : Address} {amount : Amount} {l' : Ledger}
      (answer : l.perform (.approve contract owner amount) = (.ok (), l'))
      (custodian : l'.custodian = l.custodian)
      (balance : ∀ asset holder, l'.balance asset holder = l.balance asset holder)
      (supply : ∀ asset, l'.supply asset = l.supply asset)
      (allowance : ∀ contract' owner', l'.allowance contract' owner'
        = if contract = contract' ∧ owner = owner' then amount else l.allowance contract' owner') :
      Effect l (.approve contract owner amount) l'

theorem Effect.supply_eq {l l' : Ledger} {call : Call} (h : l.Effect call l') (asset : Asset) :
    l'.supply asset = l.supply asset := by
  cases h with
  | refused answer => rfl
  | escrowed answer sender_ne pays allowance => exact pays.supply asset
  | released answer receiver_ne pays allowance => exact pays.supply asset
  | approved answer custodian balance supply allowance => exact supply asset

theorem effect_step (l : Ledger) (call : Call) : l.Effect call (l.step call) := by
  cases call with
  | escrow asset sender amount attached =>
    rcases hescrow : l.escrow asset sender amount attached with ⟨e | receipt, l'⟩
    · have hkept := escrow_refused (congrArg Prod.fst hescrow)
      rw [hescrow] at hkept
      have hstep : l.step (.escrow asset sender amount attached) = l := by
        rw [step, perform, hescrow]
        exact hkept
      rw [hstep]
      exact .refused (by rw [perform, hescrow]; rfl)
    · have hperform : l.perform (.escrow asset sender amount attached) = (.ok (), l') := by
        rw [perform, hescrow]
        rfl
      obtain ⟨hsender, hreceipt, hpays⟩ := pays_escrow hescrow
      rw [hreceipt] at hpays
      rw [step, hperform]
      exact .escrowed hperform hsender hpays (allowance_escrow hescrow)
  | release asset receiver amount nativeAmount =>
    rcases hrelease : l.release asset receiver amount nativeAmount with ⟨e | ⟨⟩, l'⟩
    · have hanswer : (l.perform (.release asset receiver amount nativeAmount)).1 = .error e :=
        congrArg Prod.fst hrelease
      rw [step, perform, release_refused hanswer]
      exact .refused hanswer
    · obtain ⟨hreceiver, hpays, hallowances⟩ := pays_release hrelease
      rw [step, perform, hrelease]
      refine .released hrelease hreceiver hpays ?_
      intro contract owner
      rw [allowance, hallowances, allowance]
  | approve contract owner amount =>
    refine .approved rfl rfl ?_ ?_ (l.allowance_approve contract · owner · amount)
    · intro asset holder
      rw [step, perform, balance_approve]
    · intro asset
      rw [step, perform, supply_approve]

theorem supply_run (l : Ledger) (calls : List Call) (asset : Asset) :
    (l.run calls).supply asset = l.supply asset := by
  induction calls generalizing l with
  | nil => rfl
  | cons call calls ih => exact (ih (l.step call)).trans ((l.effect_step call).supply_eq asset)

/-- A computation on a ledger that may be refused, and that has no end at all if a difference in it
would be negative. -/
abbrev Strict (α : Type) := ExceptT FundsError (StateT Ledger Option) α

namespace Strict

variable {l : Ledger} {α β : Type}

def on (l : Ledger) (x : Strict α) : Option (Except FundsError α × Ledger) := x.run l

/-- A computation without differences. -/
def ofAttempt (x : Attempt Ledger FundsError α) : Strict α := ExceptT.mk fun l => some (x.on l)

/-- A difference that must not be negative. -/
def difference (a b : Amount) : Strict Amount :=
  ExceptT.mk fun l => (a.sub? b).map fun c => (.ok c, l)

/-- From the ledger `l` on, the computation ends, and as `y` does. -/
def Agrees (l : Ledger) (x : Strict α) (y : Attempt Ledger FundsError α) : Prop :=
  x.on l = some (y.on l)

theorem agrees_ofAttempt (x : Attempt Ledger FundsError α) : Agrees l (ofAttempt x) x := rfl

theorem agrees_get : Agrees l get get := rfl

theorem Agrees.bind {x : Strict α} {y : Attempt Ledger FundsError α} {f : α → Strict β}
    {g : α → Attempt Ledger FundsError β} (hx : Agrees l x y)
    (hf : ∀ a l', y.on l = (.ok a, l') → Agrees l' (f a) (g a)) :
    Agrees l (x >>= f) (y >>= g) := by
  have hrun : (x >>= f).on l = (x.on l).bind fun r => ExceptT.bindCont f r.1 r.2 := rfl
  rw [Agrees, hrun, hx, Attempt.on_bind]
  rcases hy : y.on l with ⟨e | a, l'⟩
  · rfl
  · exact hf a l' hy

theorem Agrees.difference_bind {a b : Amount} {f : Amount → Strict β}
    {y : Attempt Ledger FundsError β} (h : b ≤ a) (hf : Agrees l (f (a - b)) y) :
    Agrees l (difference a b >>= f) y := by
  have hrun : (difference a b).on l = some (.ok (a - b), l) := by
    rw [on, difference, ExceptT.run_mk, Amount.sub?_eq_some h]
    rfl
  have hbind : (difference a b >>= f).on l
      = ((difference a b).on l).bind fun r => ExceptT.bindCont f r.1 r.2 := rfl
  rw [Agrees, hbind, hrun]
  exact hf

end Strict

/-- The balances of two holders once an amount has gone from the first to the second, with a strict
difference. The calls below are those of the ledger with it in place of the other difference. -/
def quoteStrictly (asset : Asset) (payer payee : Address) (a : Amount)
    (short : Amount → FundsError) : Strict (Amount × Amount) := do
  let held := (← get).balance asset payer
  Strict.ofAttempt (require (a ≤ held) (short held))
  let received ← Strict.ofAttempt (sum ((← get).balance asset payee) a)
  let left ← Strict.difference held a
  pure (left, received)

def escrowStrictly (asset : Asset) (sender : Address) (amount attached : Amount) :
    Strict Receipt := do
  let custodian := (← get).custodian
  Strict.ofAttempt (require (sender ≠ custodian) FundsError.custodianFunds)
  match asset with
  | .native => do
    let coin ← quoteStrictly .native sender custodian amount (.insufficientFunds .native amount)
    Strict.ofAttempt (enter .native sender custodian coin)
    pure ⟨asset, sender, amount, 0⟩
  | .token contract => do
    let coin ← quoteStrictly .native sender custodian attached (.insufficientFunds .native attached)
    let allowed := (← get).allowance contract sender
    Strict.ofAttempt
      (require (amount ≤ allowed) (FundsError.insufficientAllowance contract amount allowed))
    let tokens ← quoteStrictly (.token contract) sender custodian amount
      (.insufficientFunds asset amount)
    Strict.ofAttempt (enter .native sender custodian coin)
    let left ← Strict.difference allowed amount
    modify fun l => l.approve contract sender left
    Strict.ofAttempt (enter (.token contract) sender custodian tokens)
    pure ⟨asset, sender, amount, attached⟩

def releaseStrictly (asset : Asset) (receiver : Address) (amount nativeAmount : Amount) :
    Strict Unit := do
  let custodian := (← get).custodian
  Strict.ofAttempt (require (receiver ≠ custodian) FundsError.releaseToCustodian)
  match asset with
  | .native => do
    let total ← Strict.ofAttempt (sum amount nativeAmount)
    let coin ← quoteStrictly .native custodian receiver total fun held =>
      .custodyShort .native held total
    Strict.ofAttempt (enter .native custodian receiver coin)
  | .token contract => do
    let coin ← quoteStrictly .native custodian receiver nativeAmount fun held =>
      .custodyShort .native held nativeAmount
    let tokens ← quoteStrictly (.token contract) custodian receiver amount fun held =>
      .custodyShort asset held amount
    Strict.ofAttempt (enter .native custodian receiver coin)
    Strict.ofAttempt (enter (.token contract) custodian receiver tokens)

def performStrictly (l : Ledger) : Call → Option (Except FundsError Unit × Ledger)
  | .escrow asset sender amount attached =>
    ((escrowStrictly asset sender amount attached).on l).map (Prod.map (Except.map fun _ => ()) id)
  | .release asset receiver amount nativeAmount =>
    (releaseStrictly asset receiver amount nativeAmount).on l
  | .approve contract owner amount => some (.ok (), l.approve contract owner amount)

open Strict in
theorem agrees_quoteStrictly (l : Ledger) (asset : Asset) (payer payee : Address) (a : Amount)
    (short : Amount → FundsError) :
    Agrees l (quoteStrictly asset payer payee a short) (quote asset payer payee a short) := by
  refine .bind agrees_get fun l₁ _ _ => ?_
  refine .bind (agrees_ofAttempt _) fun _ _ hcovers => ?_
  refine .bind agrees_get fun l₂ _ _ => ?_
  refine .bind (agrees_ofAttempt _) fun received _ _ => ?_
  -- The check that let the computation come this far is what the difference needs.
  exact .difference_bind (Attempt.of_on_require hcovers) rfl

open Strict in
theorem on_escrowStrictly (l : Ledger) (asset : Asset) (sender : Address)
    (amount attached : Amount) :
    (escrowStrictly asset sender amount attached).on l
      = some (l.escrow asset sender amount attached) := by
  refine Agrees.bind agrees_get fun l₁ _ _ => ?_
  refine .bind (agrees_ofAttempt _) fun _ _ _ => ?_
  cases asset with
  | native => exact .bind (agrees_quoteStrictly _ .native _ _ _ _) fun coin _ _ => rfl
  | token contract =>
    refine .bind (agrees_quoteStrictly _ .native _ _ _ _) fun coin _ _ => ?_
    refine .bind agrees_get fun l₂ _ _ => ?_
    refine .bind (agrees_ofAttempt _) fun _ _ hallowed => ?_
    refine .bind (agrees_quoteStrictly _ (.token contract) _ _ _ _) fun tokens _ _ => ?_
    refine .bind (agrees_ofAttempt _) fun _ _ _ => ?_
    exact .difference_bind (Attempt.of_on_require hallowed) rfl

open Strict in
theorem on_releaseStrictly (l : Ledger) (asset : Asset) (receiver : Address)
    (amount nativeAmount : Amount) :
    (releaseStrictly asset receiver amount nativeAmount).on l
      = some (l.release asset receiver amount nativeAmount) := by
  refine Agrees.bind agrees_get fun l₁ _ _ => ?_
  refine .bind (agrees_ofAttempt _) fun _ _ _ => ?_
  cases asset with
  | native =>
    refine .bind (agrees_ofAttempt _) fun total _ _ => ?_
    exact .bind (agrees_quoteStrictly _ .native _ _ _ _) fun coin _ _ => rfl
  | token contract =>
    refine .bind (agrees_quoteStrictly _ .native _ _ _ _) fun coin _ _ => ?_
    exact .bind (agrees_quoteStrictly _ (.token contract) _ _ _ _) fun tokens _ _ => rfl

theorem performStrictly_eq (l : Ledger) (call : Call) :
    l.performStrictly call = some (l.perform call) := by
  cases call with
  | escrow asset sender amount attached =>
    rw [performStrictly, on_escrowStrictly]
    rfl
  | release asset receiver amount nativeAmount =>
    exact l.on_releaseStrictly asset receiver amount nativeAmount
  | approve contract owner amount => rfl

/-- A ledger conserves what it holds, from whatever state and whatever is called. The balances of all
holders add up to the supply that there was. No difference that a call computes would be negative, and
what it moves is exact: it moves what its effect says, from one holder to another, or changes nothing.
A release succeeds just when custody covers it and there is room for it. -/
theorem conservation (l : Ledger) (calls : List Call) (call : Call) :
    (∀ asset, ∑ᶠ holder, ((l.run calls).balance asset holder).toNat = l.supply asset) ∧
      (l.run calls).performStrictly call = some ((l.run calls).perform call) ∧
      (l.run calls).Effect call ((l.run calls).step call) ∧
      ∀ asset receiver amount nativeAmount,
        (∃ l', (l.run calls).release asset receiver amount nativeAmount = (.ok (), l')) ↔
          receiver ≠ (l.run calls).custodian ∧
            (∀ x, portion asset amount nativeAmount x ≤ ((l.run calls).custody x).toNat) ∧
            (asset = .native → amount.toNat + nativeAmount.toNat < 2 ^ 256) ∧
            ∀ x, ((l.run calls).balance x receiver).toNat + portion asset amount nativeAmount x
              < 2 ^ 256 := by
  refine ⟨?_, (l.run calls).performStrictly_eq call, (l.run calls).effect_step call, ?_⟩
  · intro asset
    rw [finsum_balance, supply_run]
  · intro asset receiver amount nativeAmount
    exact exists_release_iff

end Ledger

end AtomicSwap
