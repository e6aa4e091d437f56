import AtomicSwap.Proofs.Payment
import AtomicSwap.Proofs.Timelocks
import AtomicSwap.Proofs.Node.Opening

/-!
How a swap comes out. Its configuration and the secret alone decide whether it is played to its end,
and then what became of the two halves and what each party has.
-/

set_option autoImplicit false
set_option relaxedAutoImplicit false

namespace AtomicSwap.Node.Swap

variable (config : Config) (secret : Preimage)

def request : Request where
  chain := config.destination.chain
  receiver := user.toForeign
  bid := 1
  asset := (assetOn config.scenario .destination).address.toForeign
  amount := destinationAmount

def notice : Notice Request :=
  ⟨(outboundHalf config secret).params.id, (outboundHalf config secret).params.terms,
    request config⟩

theorem receiverOf_request : Answer.receiverOf (request config) = .ok user :=
  Answer.receiverOf_eq_ok_iff.2 rfl

theorem assetOf_request :
    Answer.assetOf (request config) = .ok (assetOn config.scenario .destination) :=
  Answer.assetOf_eq_ok_iff.2 ⟨_, rfl, ofAddress_assetOn _ _⟩

theorem plan_notice :
    Answer.plan (notice config secret) config.source.chain provider (expiries config).inbound 0
      = .ok (inboundHalf config secret).params := by
  unfold Answer.plan
  show (Answer.receiverOf (request config) >>= fun receiver =>
    Answer.assetOf (request config) >>= fun asset => _) = _
  rw [receiverOf_request, assetOf_request]
  show Except.ok _ = _
  simp only [inboundHalf, ite_self]
  rfl

/-- The time once so many blocks were made. -/
def blockTime : Nat → Seconds
  | 0 => Chain.genesis
  | n + 1 => (blockTime n).later blockSpan

def announced : Course := ((opening config secret).lock .source).nextBlock.read .source

def expired : Course :=
  (((announced config secret).setTime .source (expiries config).outbound).refund .source
    Chain.genesis).read .source

def answered : Course := ((announced config secret).lock .destination).nextBlock.read .destination

def revealed : Course :=
  ((answered config secret).confirm .destination (blockTime 1) secret).nextBlock.read .destination

def completed : Course :=
  ((revealed config secret).confirm .source Chain.genesis secret).read .source

def outboundRecord : Record := (outboundHalf config secret).lockedAt Chain.genesis

def inboundRecord : Record := (inboundHalf config secret).lockedAt (blockTime 1)

/-- Unanswered, the outbound half is refunded if its timelock lies behind the first block. -/
theorem comes_expire :
    (expire (outboundRecord config secret)).Comes (announced config secret)
      (¬(expiries config).outbound ≤ blockTime 1)
      ((expired config secret).report
        ((outboundRecord config secret).refunded (expiries config).outbound) none)
      (expired config secret) := by
  refine Play.Comes.congr (p := ¬(expiries config).outbound ≤ blockTime 1 ∧
    (expiries config).outbound ≤ (expiries config).outbound ∧ True) ?_ (by simp)
  apply Play.Comes.beRefused .source
  · exact Half.passes_refund rfl
  refine Play.Comes.modify (fun s hs => hs.setTime (expiries config).outbound) ?_
  apply Play.Comes.refund .source
  · rfl
  apply Play.Comes.drain .source
  · exact Nat.le_refl 1
  exact Play.comes_report _ _ _

/-- The user accepts the inbound half if the margin ends before the outbound half expires. -/
theorem verify_inbound :
    Answer.verify (outboundRecord config secret) config.source.chain
        (inboundHalf config secret).params config.source.margin = .ok () ↔
      (expiries config).inbound.toNat + config.source.margin.toNat
        < (expiries config).outbound.toNat := by
  rw [Answer.verify_eq_ok_iff]
  constructor
  · rintro ⟨asked, link, -, -, -, -, -, -, -, -, hmargin⟩
    exact hmargin
  · intro hmargin
    exact ⟨request config, _, rfl, rfl, rfl, rfl, rfl, receiverOf_request config,
      assetOf_request config, Nat.le_refl _, hmargin⟩

def answer : Notice Link :=
  ⟨(inboundHalf config secret).params.id, (inboundHalf config secret).params.terms,
    ⟨config.source.chain, (outboundHalf config secret).params.id⟩⟩

theorem findSome?_outboundNotice? (n : Notice Request) :
    [Event.outboundLocked n].findSome? (outboundNotice? n.id) = some n := by
  simp [outboundNotice?]

theorem findSome?_inboundNotice? (n : Notice Link) :
    [Event.inboundLocked n].findSome? (inboundNotice? n.id) = some n := by
  simp [inboundNotice?]

theorem findSome?_revealed? (id : TransferId) (preimage : Preimage) :
    [Event.confirmed id preimage].findSome? (revealed? id) = some preimage := by
  simp [revealed?]

/-- Answered, both halves are redeemed if each call comes before the timelock of its half, the user
accepts the inbound half, and the secret opens it. -/
theorem comes_complete :
    (complete secret (expiries config).inbound (outboundRecord config secret)
        (notice config secret)).Comes (announced config secret)
      (blockTime 1 < (expiries config).inbound ∧
        (expiries config).inbound.toNat + config.source.margin.toNat
          < (expiries config).outbound.toNat ∧
        (config.destination.scheme.hashlock secret = config.source.scheme.hashlock secret ∧
          blockTime 2 < (expiries config).inbound) ∧
        blockTime 3 < (expiries config).outbound)
      ((completed config secret).report
        ((outboundRecord config secret).redeemed secret (blockTime 3))
        (some ((inboundRecord config secret).redeemed secret (blockTime 2))))
      (completed config secret) := by
  refine Play.Comes.congr (p := blockTime 1 < (expiries config).inbound ∧
    (expiries config).inbound.toNat + config.source.margin.toNat
      < (expiries config).outbound.toNat ∧
    (config.destination.scheme.hashlock secret = config.source.scheme.hashlock secret ∧
      blockTime 2 < (expiries config).inbound) ∧
    (config.source.scheme.hashlock secret = config.source.scheme.hashlock secret ∧
      blockTime 3 < (expiries config).outbound) ∧ ¬False ∧ True) ?_ (by simp)
  apply Play.Comes.get
  intro s hs
  have hconfig : s.source.chain.config = config.source := hs.source.config_eq
  rw [hconfig]
  refine Play.Comes.agree (plan_notice config secret) ?_
  apply Play.Comes.lock .destination
  · rfl
  refine Play.Comes.modify (fun s hs => hs.nextBlock) ?_
  apply Play.Comes.drain .destination
  · exact Nat.le_refl 1
  refine Play.Comes.expect (findSome?_inboundNotice? (answer config secret)) ?_
  apply Play.Comes.check
  · exact verify_inbound config secret
  apply Play.Comes.confirm .destination
  · rfl
  refine Play.Comes.modify (fun s hs => hs.nextBlock) ?_
  apply Play.Comes.drain .destination
  · exact Nat.le_refl 1
  refine Play.Comes.expect (findSome?_revealed? _ secret) ?_
  apply Play.Comes.confirm .source
  · rfl
  apply Play.Comes.beRefused .source
  · exact Half.refuses_confirm rfl secret (outboundRecord config secret)
  apply Play.Comes.drain .source
  · exact Nat.le_refl 1
  exact Play.comes_report _ _ _

theorem outboundParams_eq {s : Swap} (hs : s.Follows (opening config secret)) :
    s.outboundParams secret = (outboundHalf config secret).params := by
  unfold outboundParams
  rw [hs.scenario_eq, hs.source.config_eq, hs.source.now_eq, hs.destination.config_eq]
  rfl

theorem comes_play {p : Prop} {a : Report} {v : Course}
    (hexpire : config.scenario = .refund →
      (expire (outboundRecord config secret)).Comes (announced config secret) p a v)
    (hcomplete : config.scenario ≠ .refund →
      (complete secret (expiries config).inbound (outboundRecord config secret)
        (notice config secret)).Comes (announced config secret) p a v) :
    (play secret).Comes (opening config secret) (Chain.genesis < (expiries config).outbound ∧ p) a
      v := by
  apply Play.Comes.get
  intro s hs
  have hscenario : s.scenario = config.scenario := hs.scenario_eq
  have hconfig : s.source.chain.config = config.source := hs.source.config_eq
  have hnow : s.source.chain.now = Chain.genesis := hs.source.now_eq
  rw [outboundParams_eq config secret hs, hscenario, hconfig, hnow]
  apply Play.Comes.lock .source
  · rfl
  refine Play.Comes.modify (fun s hs => hs.nextBlock) ?_
  apply Play.Comes.drain .source
  · exact Nat.le_refl 1
  refine Play.Comes.expect (findSome?_outboundNotice? (notice config secret)) ?_
  split_ifs with hrefund
  · exact hexpire hrefund
  · exact hcomplete hrefund

theorem toNat_blockTime {n : Nat} (h : n ≤ 3) :
    (blockTime n).toNat = Chain.genesis.toNat + 12 * n := by
  have hgenesis : Chain.genesis.toNat = 1700000000 := rfl
  have hspan : blockSpan.toNat = 12 := rfl
  induction n with
  | zero => rfl
  | succ n ih =>
    have hbefore := ih (by omega)
    rw [blockTime, Seconds.toNat_later, hbefore, hspan]
    omega

theorem toNat_inbound_expiries :
    (expiries config).inbound.toNat
      = min (Chain.genesis.toNat + config.source.duration.toNat) (2 ^ 64 - 1) :=
  Timelocks.toNat_inbound_recommend _ _ config.source.margin

theorem toNat_outbound_expiries :
    (expiries config).outbound.toNat
      = min (Chain.genesis.toNat + config.source.duration.toNat + config.source.margin.toNat + 1)
        (2 ^ 64 - 1) :=
  Timelocks.toNat_outbound_recommend _ _ _

theorem toNat_held_holder (v : Course) (side : Side)
    (hasset : (v.half side).params.terms.asset = assetOn v.scenario side)
    (hnative : (v.half side).params.terms.nativeAmount = 0) :
    (v.held side (v.half side).holder).toNat = (v.half side).params.terms.amount.toNat := by
  have hlt := (v.half side).params.terms.amount.isLt
  rw [Course.held, if_pos rfl, Amount.toNat_clamp, ← hasset, Terms.portion, Ledger.portion, hnative,
    if_pos rfl, Amount.toNat_zero, ite_self]
  omega

theorem held_of_ne {v : Course} {side : Side} {holder : Address}
    (hne : holder ≠ (v.half side).holder) : v.held side holder = 0 := if_neg hne

theorem run_iff {p : Prop} {a : Report} {v : Course}
    (h : (play secret).Comes (opening config secret) p a v) :
    ((∃ report, (run config secret).1 = .ok report) ↔ p) ∧
      ∀ report, (run config secret).1 = .ok report → report = a := by
  have hstart := follows_start config secret
  by_cases hp : p
  · obtain ⟨s, hrun, -⟩ := h.ends _ hstart hp
    change run config secret = _ at hrun
    rw [hrun]
    refine ⟨⟨fun _ => hp, fun _ => ⟨a, rfl⟩⟩, ?_⟩
    rintro report ⟨⟩
    rfl
  · obtain ⟨e, s, hrun⟩ := h.fails _ hstart hp
    change run config secret = _ at hrun
    rw [hrun]
    refine ⟨⟨?_, fun hp' => absurd hp' hp⟩, ?_⟩
    · rintro ⟨report, ⟨⟩⟩
    · rintro report ⟨⟩

/-- How swaps come out. A swap that the provider answers is completed exactly if the inbound half
lasts two blocks longer than its own, both halves together outlast the third block, no expiry is cut
off, and both chains digest the secret alike. Both halves are then redeemed with the secret, and each
party has what the other gave. A swap that nobody answers is refunded exactly if the outbound half
lasts longer than one block, and the user then has all that it gave. -/
theorem swap_outcome :
    (config.scenario ≠ .refund →
      ((∃ report, (run config secret).1 = .ok report) ↔
        24 < config.source.duration.toNat ∧
        36 ≤ config.source.duration.toNat + config.source.margin.toNat ∧
        Chain.genesis.toNat + config.source.duration.toNat + config.source.margin.toNat + 1
          ≤ 2 ^ 64 - 1 ∧
        config.destination.scheme.hashlock secret = config.source.scheme.hashlock secret) ∧
      ∀ report, (run config secret).1 = .ok report →
        report.outbound.state = .redeemed ∧ report.outbound.preimage = some secret ∧
        (∃ inbound, report.inbound = some inbound ∧ inbound.state = .redeemed ∧
          inbound.preimage = some secret) ∧
        report.userReceived.toNat = 10 ^ 15 ∧ report.providerReceived.toNat = 10 ^ 18 ∧
        report.userLeft.toNat = 0 ∧ report.eventsSeen = 4) ∧
    (config.scenario = .refund →
      ((∃ report, (run config secret).1 = .ok report) ↔
        12 ≤ config.source.duration.toNat + config.source.margin.toNat) ∧
      ∀ report, (run config secret).1 = .ok report →
        report.outbound.state = .refunded ∧ report.inbound = none ∧
        report.userLeft.toNat = 10 ^ 18 ∧ report.userReceived.toNat = 0 ∧
        report.providerReceived.toNat = 0 ∧ report.eventsSeen = 2) := by
  have hgenesis : Chain.genesis.toNat = 1700000000 := rfl
  have hinbound := toNat_inbound_expiries config
  have houtbound := toNat_outbound_expiries config
  have hone := toNat_blockTime (by decide : 1 ≤ 3)
  have htwo := toNat_blockTime (by decide : 2 ≤ 3)
  have hthree := toNat_blockTime (by decide : 3 ≤ 3)
  constructor
  · intro hscenario
    have hcomes := comes_play config secret (fun h => absurd h hscenario)
      fun _ => comes_complete config secret
    obtain ⟨hiff, hreport⟩ := run_iff config secret hcomes
    constructor
    · rw [hiff]
      simp only [UInt64.lt_iff_toNat_lt, hone, htwo, hthree, hinbound, houtbound]
      constructor
      · rintro ⟨-, -, hsaturated, ⟨hdigest, hopen⟩, hlate⟩
        refine ⟨?_, ?_, ?_, hdigest⟩ <;> omega
      · rintro ⟨hduration, hboth, hrange, hdigest⟩
        refine ⟨?_, ?_, ?_, ⟨hdigest, ?_⟩, ?_⟩ <;> omega
    · intro report h
      rw [hreport report h]
      have hleft : (completed config secret).held .source user = 0 := held_of_ne user_ne_provider
      exact ⟨rfl, rfl, ⟨_, rfl, rfl, rfl⟩, toNat_held_holder _ .destination rfl rfl,
        toNat_held_holder _ .source rfl rfl, congrArg Amount.toNat hleft, rfl⟩
  · intro hscenario
    have hcomes := comes_play config secret (fun _ => comes_expire config secret)
      fun h => absurd hscenario h
    obtain ⟨hiff, hreport⟩ := run_iff config secret hcomes
    constructor
    · rw [hiff]
      simp only [UInt64.lt_iff_toNat_lt, UInt64.le_iff_toNat_le, hone, houtbound]
      omega
    · intro report h
      rw [hreport report h]
      have hnone : (expired config secret).held .source provider = 0 :=
        held_of_ne user_ne_provider.symm
      have hdestination : (expired config secret).held .destination user = 0 :=
        held_of_ne user_ne_provider
      exact ⟨rfl, rfl, toNat_held_holder _ .source rfl rfl,
        congrArg Amount.toNat hdestination, congrArg Amount.toNat hnone, rfl⟩

/-- The standard configuration completes its swap, but not if the expiries lie two blocks ahead. If
nobody answers, the user has back what it gave. -/
theorem swap_outcome_standard :
    (∃ report, (run Config.standard (Bytes.zero 32)).1 = .ok report) ∧
      (¬∃ report, (run { Config.standard with
        source := { Config.standard.source with duration := 24 } } (Bytes.zero 32)).1
          = .ok report) ∧
      ∃ report, (run { Config.standard with scenario := .refund } (Bytes.zero 32)).1 = .ok report ∧
        report.userLeft.toNat = 10 ^ 18 := by
  obtain ⟨hstandard, -⟩ := swap_outcome Config.standard (Bytes.zero 32)
  obtain ⟨hshort, -⟩ := swap_outcome { Config.standard with
    source := { Config.standard.source with duration := 24 } } (Bytes.zero 32)
  obtain ⟨-, hrefund⟩ := swap_outcome { Config.standard with scenario := .refund } (Bytes.zero 32)
  have hscenario : Config.standard.scenario ≠ .refund := by decide
  obtain ⟨hiff, -⟩ := hstandard hscenario
  obtain ⟨hiff', -⟩ := hshort hscenario
  obtain ⟨hrefunded, hreport⟩ := hrefund rfl
  refine ⟨?_, ?_, ?_⟩
  · exact hiff.2 ⟨by decide, by decide, by decide, rfl⟩
  · rw [hiff']
    rintro ⟨hduration, -⟩
    exact absurd hduration (by decide)
  · obtain ⟨report, hrun⟩ := hrefunded.2 (by decide)
    obtain ⟨-, -, hleft, -⟩ := hreport report hrun
    exact ⟨report, hrun, hleft⟩

end AtomicSwap.Node.Swap
