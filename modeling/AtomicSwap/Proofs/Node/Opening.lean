import AtomicSwap.Proofs.Node.Course

/-!
Where a swap begins. Each of the two chains is new, the party that will lock on it has what it gives
there, and nobody has anything else.
-/

set_option autoImplicit false
set_option relaxedAutoImplicit false

namespace AtomicSwap.Node.Swap

/-- The party that locks on a chain, and how much of what is swapped there. -/
def payer : Side → Address × Amount
  | .source => (user, sourceAmount)
  | .destination => (provider, destinationAmount)

theorem allWith_endow (custodian holder : Address) (asset : Asset) (amount : Amount) :
    (endow (Ledger.empty custodian) holder asset amount).AllWith holder
      (Ledger.portion asset amount 0) := by
  have hempty (x : Asset) (other : Address) :
      ((Ledger.empty custodian).balance x other).toNat = 0 := by
    cases x <;> rfl
  have hbalance : (endow (Ledger.empty custodian) holder asset amount).balance
      = ((Ledger.empty custodian).credit asset holder amount).balance := by
    cases asset with
    | native => rfl
    | token contract => exact Ledger.balance_approve _ _ _ _
  intro x other
  have hfits : ((Ledger.empty custodian).balance asset holder).toNat + amount.toNat < 2 ^ 256 := by
    rw [hempty, Nat.zero_add]
    exact amount.isLt
  rw [hbalance, Ledger.credit_eq, Ledger.balance_setBalance, Ledger.portion]
  by_cases hother : other = holder
  · subst hother
    by_cases hx : asset = x
    · subst hx
      simp [Amount.toNat_satAdd_of_lt hfits, hempty]
    · simp [hx, hempty]
  · simp [hother, Ne.symm hother, hempty]

theorem on_deploy {scenario : Scenario} {side : Side} {config : AtomicSwap.Config} {h : Half}
    (hconfig : h.config = config) (hcustodian : h.custodian = custodian side)
    (hfate : h.fate = .awaited) (hnow : h.now = Chain.genesis) (hunread : h.unread = [])
    (hsender : h.params.terms.sender = (payer side).1)
    (hasset : h.params.terms.asset = assetOn scenario side)
    (hamount : h.params.terms.amount = (payer side).2) (hnative : h.params.terms.nativeAmount = 0) :
    h.On (deploy scenario side config).chain := by
  have hledger : (deploy scenario side config).chain.ledger
      = endow (Ledger.empty (custodian side)) (payer side).1 (assetOn scenario side)
        (payer side).2 := by
    cases side <;> rfl
  refine ⟨hconfig.symm, ?_, hnow.symm, ?_, ?_, ?_, ?_⟩
  · rw [hledger, hcustodian]
    cases assetOn scenario side <;> rfl
  · rw [Half.record, hfate]
    rfl
  · rw [hledger, Half.holder, hfate, hsender]
    unfold Terms.portion
    rw [hasset, hamount, hnative]
    exact allWith_endow _ _ _ _
  · intro _ contract htoken
    rw [hsender, hamount, hledger]
    rw [hasset] at htoken
    rw [htoken]
    show _ ≤ Ledger.allowance (Ledger.approve _ contract _ _) contract _
    rw [Ledger.allowance_approve, if_pos ⟨rfl, rfl⟩]
    exact Nat.le_refl _
  · rw [hunread]
    exact ⟨Feed.roundUp_pos _, 0, rfl, Nat.le_refl _, rfl⟩

theorem user_ne_provider : user ≠ provider := by decide

theorem ofAddress_assetOn (scenario : Scenario) (side : Side) :
    Asset.ofAddress (assetOn scenario side).address = assetOn scenario side := by
  cases scenario <;> cases side <;> decide

variable (config : Config) (secret : Preimage)

def expiries : Timelocks := config.source.timelocks Chain.genesis

def outboundHalf : Half where
  config := config.source
  custodian := custodian .source
  params := (start config).outboundParams secret
  fate := .awaited
  now := Chain.genesis
  unread := []
  amount_ne_zero := by
    show sourceAmount ≠ 0
    decide
  nativeAmount_eq_zero _ := rfl
  sender_ne := by
    show user ≠ custodian .source
    decide
  receiver_ne := by
    show provider ≠ custodian .source
    decide

def inboundHalf : Half where
  config := config.destination
  custodian := custodian .destination
  params := {
    terms := {
      sender := provider
      receiver := user
      asset := assetOn config.scenario .destination
      amount := destinationAmount
      nativeAmount := 0
      hashlock := config.source.scheme.hashlock secret
      timelock := (expiries config).inbound }
    route := .inbound ⟨config.source.chain, (outboundHalf config secret).params.id⟩ }
  fate := .awaited
  now := Chain.genesis
  unread := []
  amount_ne_zero := by
    show destinationAmount ≠ 0
    decide
  nativeAmount_eq_zero _ := rfl
  sender_ne := by
    show provider ≠ custodian .destination
    decide
  receiver_ne := by
    show user ≠ custodian .destination
    decide

def opening : Course := ⟨config.scenario, outboundHalf config secret, inboundHalf config secret, 0⟩

theorem follows_start : (start config).Follows (opening config secret) where
  scenario_eq := rfl
  source := on_deploy rfl rfl rfl rfl rfl rfl rfl rfl rfl
  destination := on_deploy rfl rfl rfl rfl rfl rfl rfl rfl rfl
  eventsSeen_eq := rfl

end AtomicSwap.Node.Swap
