import AtomicSwap.Proofs.Settlement
import Mathlib.Data.List.Basic

/-!
Settlements of different transfers, one after the other. Each is answered as if it came first, because
none touches the record of another and none can fail for want of funds or of room. So the order in
which they come makes no difference but to the order of the announcements.
-/

set_option autoImplicit false
set_option relaxedAutoImplicit false

namespace AtomicSwap

namespace Table

variable {α β : Type} [DecidableEq α]

theorem keys_set_of_get? {t : Table α β} {k : α} {v₀ : β} (h : t.get? k = some v₀) (v : β) :
    (t.set k v).keys = t.keys := by
  have hwrite (l : List (α × β)) (hl : find? k l = some v₀) :
      (write k v l).map Prod.fst = l.map Prod.fst := by
    induction l with
    | nil => cases hl
    | cons e l ih =>
      obtain ⟨a, b⟩ := e
      by_cases ha : a = k
      · subst ha
        simp [write]
      · rw [find?, if_neg ha] at hl
        rw [write, if_neg ha, List.map_cons, List.map_cons, ih hl]
  exact hwrite t.entries h

theorem entries_eq (t : Table α β) :
    t.entries = t.keys.filterMap fun k => (t.get? k).map (Prod.mk k) := by
  rw [keys, List.filterMap_map]
  have hself : ∀ e ∈ t.entries, ((fun k => (t.get? k).map (Prod.mk k)) ∘ Prod.fst) e = some e := by
    intro e he
    rw [Function.comp_apply, get?_of_mem he]
    rfl
  rw [List.filterMap_congr hself, List.filterMap_some]

theorem ext_of_keys {t t' : Table α β} (hkeys : t.keys = t'.keys)
    (hget : ∀ k, t.get? k = t'.get? k) : t = t' := by
  have hentries : t.entries = t'.entries := by
    rw [t.entries_eq, t'.entries_eq, hkeys]
    simp only [hget]
  cases t
  cases t'
  cases hentries
  rfl

end Table

@[simp] theorem Chain.registry_setTime (c : Chain) (time : Seconds) :
    (c.setTime time).registry = c.registry :=
  rfl

inductive Settlement
  | confirm (params : Params) (preimage : Preimage)
  | refund (params : Params)
deriving DecidableEq

namespace Settlement

def action : Settlement → Action
  | confirm params preimage => .confirm params preimage
  | refund params => .refund params

def id : Settlement → TransferId
  | confirm params _ => params.id
  | refund params => params.id

def payee (r : Record) : Settlement → Address
  | confirm _ _ => r.terms.receiver
  | refund _ => r.terms.sender

def event : Settlement → Event
  | confirm params preimage => .confirmed params.id preimage
  | refund params => .refunded params.id

/-- What the record, the preimage and the clock make of the call. -/
def verdict (c : Chain) : Settlement → Except TransferError Record
  | confirm params preimage => c.opened params preimage
  | refund params => c.expired params

def pays (c : Chain) (x : Asset) (s : Settlement) : Nat :=
  match s.verdict c with
  | .ok r => r.terms.portion x
  | .error _ => 0

def paysTo (c : Chain) (x : Asset) (holder : Address) (s : Settlement) : Nat :=
  match s.verdict c with
  | .ok r => if holder = s.payee r then r.terms.portion x else 0
  | .error _ => 0

def event? (c : Chain) (s : Settlement) : Option Event :=
  match s.verdict c with
  | .ok _ => some s.event
  | .error _ => none

/-- The verdict depends on the record of the transfer, the clock and the scheme, and on nothing else. -/
theorem verdict_congr {c c' : Chain} {s : Settlement} (hget : c'.get? s.id = c.get? s.id)
    (hnow : c'.now = c.now) (hconfig : c'.config = c.config) : s.verdict c' = s.verdict c := by
  cases s with
  | confirm params preimage =>
    have hget : c'.get? params.id = c.get? params.id := hget
    rw [verdict, verdict, Chain.opened_eq, Chain.opened_eq, hget, hnow, hconfig]
  | refund params =>
    have hget : c'.get? params.id = c.get? params.id := hget
    rw [verdict, verdict, Chain.expired_eq, Chain.expired_eq, hget, hnow]

def call (c : Chain) : Settlement → Outcome Record
  | confirm params preimage => c.confirm params preimage
  | refund params => c.refund params

theorem reply_action (c : Chain) (s : Settlement) : c.reply s.action = some (s.call c).1 := by
  cases s <;> rfl

theorem step_action (c : Chain) (s : Settlement) : c.step s.action = (s.call c).2 := by
  cases s <;> rfl

theorem call_of_error {c : Chain} {s : Settlement} {e : TransferError}
    (h : s.verdict c = .error e) : s.call c = (.error e, c) := by
  cases s with
  | confirm params preimage => exact Chain.confirm_of_opened_eq_error h
  | refund params => exact Chain.refund_of_expired_eq_error h

theorem found_of_verdict {c : Chain} {s : Settlement} {r : Record} (h : s.verdict c = .ok r) :
    ∃ r₀, c.get? s.id = some r₀ ∧ r.id = r₀.id := by
  cases s with
  | confirm params preimage =>
    obtain ⟨r₀, hget, -, -, -, rfl⟩ := Chain.opened_eq_ok_iff.1 h
    exact ⟨r₀, hget, rfl⟩
  | refund params =>
    obtain ⟨r₀, hget, -, -, rfl⟩ := Chain.expired_eq_ok_iff.1 h
    exact ⟨r₀, hget, rfl⟩

theorem nodup_concat {ss : List Settlement} {s : Settlement}
    (h : ((ss ++ [s]).map Settlement.id).Nodup) :
    (ss.map Settlement.id).Nodup ∧ ∀ s' ∈ ss, s'.id ≠ s.id := by
  rw [List.map_append, List.nodup_append] at h
  obtain ⟨hinit, -, hnew⟩ := h
  refine ⟨hinit, ?_⟩
  intro s' hs'
  exact hnew _ (List.mem_map_of_mem hs') _ (List.mem_map_of_mem (List.mem_singleton_self s))

theorem mints_action (s : Settlement) (asset : Asset) : s.action.mints asset = 0 := by
  cases s <;> rfl

end Settlement

theorem Chain.Effect.allowances_of_settlement {c c' : Chain} {s : Settlement}
    {reply : Option (Except TransferError Record)} (he : Effect c s.action reply c') :
    c'.ledger.allowances = c.ledger.allowances := by
  cases s with
  | confirm params preimage =>
    cases he with
    | refused isCall e => rfl
    | redeemed found isLocked opens inTime released =>
      obtain ⟨-, -, hallowances⟩ := Ledger.pays_release released
      exact hallowances
  | refund params =>
    cases he with
    | refused isCall e => rfl
    | refunded found isLocked expired released =>
      obtain ⟨-, -, hallowances⟩ := Ledger.pays_release released
      exact hallowances

/-- The chain `c'` is the chain `c` after some settlements, each with the verdict that it had at
first. In what order they came does not show, but in the stream. -/
structure Chain.Batched (c : Chain) (ss : List Settlement) (c' : Chain) : Prop where
  config : c'.config = c.config
  now : c'.now = c.now
  custodian : c'.ledger.custodian = c.ledger.custodian
  keys : c'.registry.keys = c.registry.keys
  settled : ∀ s ∈ ss, ∀ r, s.verdict c = .ok r → c'.get? s.id = some r
  kept : ∀ k, (∀ s ∈ ss, ∀ r, s.verdict c = .ok r → s.id ≠ k) → c'.get? k = c.get? k
  balance : ∀ x holder, (c'.ledger.balance x holder).toNat
      + (if holder = c.ledger.custodian then (ss.map (Settlement.pays c x)).sum else 0)
    = (c.ledger.balance x holder).toNat + (ss.map (Settlement.paysTo c x holder)).sum
  allowances : c'.ledger.allowances = c.ledger.allowances
  feed : c'.feed
    = { c.feed with stream := c.feed.stream ++ ss.filterMap (Settlement.event? c) }

namespace Chain.Batched

variable {c c' : Chain} {ss : List Settlement} {s : Settlement}

theorem nil (c : Chain) : Batched c [] c where
  config := rfl
  now := rfl
  custodian := rfl
  keys := rfl
  settled s hs := by cases hs
  kept k _ := rfl
  balance x holder := by simp
  allowances := rfl
  feed := by simp

theorem verdict_eq (h : Batched c ss c') (hnew : ∀ s' ∈ ss, s'.id ≠ s.id) :
    s.verdict c' = s.verdict c := by
  refine Settlement.verdict_congr (h.kept s.id ?_) h.now h.config
  intro s' hs' r hverdict
  exact hnew s' hs'

theorem concat_of_error (h : Batched c ss c') {e : TransferError}
    (hverdict : s.verdict c = .error e) : Batched c (ss ++ [s]) c' where
  config := h.config
  now := h.now
  custodian := h.custodian
  keys := h.keys
  settled s' hs' r hr := by
    rcases List.mem_append.1 hs' with hs' | hs'
    · exact h.settled s' hs' r hr
    · rw [List.mem_singleton.1 hs', hverdict] at hr
      cases hr
  kept k hk := h.kept k fun s' hs' => hk s' (List.mem_append_left [s] hs')
  balance x holder := by
    have hpays : s.pays c x = 0 := by rw [Settlement.pays, hverdict]
    have hpaysTo : s.paysTo c x holder = 0 := by rw [Settlement.paysTo, hverdict]
    simpa [hpays, hpaysTo] using h.balance x holder
  allowances := h.allowances
  feed := by
    have hevent : s.event? c = none := by rw [Settlement.event?, hverdict]
    rw [List.filterMap_append, List.filterMap_cons_none hevent, List.filterMap_nil,
      List.append_nil]
    exact h.feed

theorem concat_of_ok (h : Batched c ss c') {r r₀ : Record} {out : Outcome Record}
    (hverdict : s.verdict c = .ok r) (hid : r.id = s.id) (hfound : c'.get? s.id = some r₀)
    (hnew : ∀ s' ∈ ss, s'.id ≠ s.id) (hsettles : c'.Settles r (s.payee r) s.event out)
    (hallowances : out.2.ledger.allowances = c'.ledger.allowances) :
    Batched c (ss ++ [s]) out.2 where
  config := hsettles.config.trans h.config
  now := hsettles.now.trans h.now
  custodian := hsettles.pays.custodian.trans h.custodian
  keys := by
    rw [hsettles.registry, hid]
    exact (Table.keys_set_of_get? hfound r).trans h.keys
  settled s' hs' r' hr' := by
    rw [get?_of_set hsettles.registry, hid]
    rcases List.mem_append.1 hs' with hs' | hs'
    · rw [if_neg (hnew s' hs').symm]
      exact h.settled s' hs' r' hr'
    · rw [List.mem_singleton.1 hs', hverdict] at hr'
      rw [List.mem_singleton.1 hs', if_pos rfl]
      cases hr'
      rfl
  kept k hk := by
    have hne : s.id ≠ k := hk s (List.mem_append_right ss (List.mem_singleton_self s)) r hverdict
    rw [get?_of_set hsettles.registry, hid, if_neg hne]
    exact h.kept k fun s' hs' => hk s' (List.mem_append_left [s] hs')
  balance x holder := by
    have hpays : s.pays c x = r.terms.portion x := by rw [Settlement.pays, hverdict]
    have hpaysTo : s.paysTo c x holder = if holder = s.payee r then r.terms.portion x else 0 := by
      rw [Settlement.paysTo, hverdict]
    have hbefore := h.balance x holder
    have hpaid := hsettles.pays.balance x holder
    rw [h.custodian] at hpaid
    simp only [List.map_append, List.sum_append, List.map_cons, List.map_nil, List.sum_cons,
      List.sum_nil, hpays, hpaysTo]
    split_ifs at hbefore hpaid ⊢ <;> omega
  allowances := hallowances.trans h.allowances
  feed := by
    have hevent : s.event? c = some s.event := by rw [Settlement.event?, hverdict]
    rw [hsettles.feed, h.feed, List.filterMap_append, List.filterMap_cons_some hevent,
      List.filterMap_nil, ← List.append_assoc]

/-- The order of the settlements makes no difference but to the order of the announcements. -/
theorem eq_of_perm {c'' : Chain} {ss' : List Settlement} (h : Batched c ss c')
    (h' : Batched c ss' c'') (hperm : ss'.Perm ss) :
    c''.registry = c'.registry ∧
      (∀ x holder, c''.ledger.balance x holder = c'.ledger.balance x holder) ∧
      c''.ledger.allowances = c'.ledger.allowances ∧
      ∃ events events', c'.feed.stream = c.feed.stream ++ events ∧
        c''.feed.stream = c.feed.stream ++ events' ∧ events'.Perm events := by
  refine ⟨Table.ext_of_keys (h'.keys.trans h.keys.symm) ?_, ?_, h'.allowances.trans h.allowances.symm,
    ss.filterMap (Settlement.event? c), ss'.filterMap (Settlement.event? c), ?_, ?_,
    hperm.filterMap _⟩
  · intro k
    show c''.get? k = c'.get? k
    by_cases hsettled : ∃ s ∈ ss, ∃ r, s.verdict c = .ok r ∧ s.id = k
    · obtain ⟨s, hs, r, hverdict, rfl⟩ := hsettled
      rw [h.settled s hs r hverdict, h'.settled s (hperm.mem_iff.2 hs) r hverdict]
    · have hnone : ∀ s ∈ ss, ∀ r, s.verdict c = .ok r → s.id ≠ k := by
        intro s hs r hverdict hk
        exact hsettled ⟨s, hs, r, hverdict, hk⟩
      rw [h.kept k hnone, h'.kept k fun s hs => hnone s (hperm.mem_iff.1 hs)]
  · intro x holder
    have hbalance := h.balance x holder
    have hbalance' := h'.balance x holder
    rw [(hperm.map _).sum_nat, (hperm.map _).sum_nat] at hbalance'
    apply Amount.ext
    omega
  · rw [h.feed]
  · rw [h'.feed]

end Chain.Batched

namespace Origin

variable (o : Origin) {as : List Action}

theorem minted_append_settlements (asset : Asset) (as : List Action) (ss : List Settlement) :
    minted asset (as ++ ss.map Settlement.action) = minted asset as := by
  have hzero : (Action.mints asset ∘ Settlement.action) = fun _ => 0 := by
    funext s
    exact s.mints_action asset
  simp [minted, hzero]

theorem minted_settlements_lt (h : ∀ asset, minted asset as < 2 ^ 256) (ss : List Settlement)
    (asset : Asset) : minted asset (as ++ ss.map Settlement.action) < 2 ^ 256 := by
  rw [minted_append_settlements]
  exact h asset

theorem settles_of_verdict (h : ∀ asset, minted asset as < 2 ^ 256) {s : Settlement} {r : Record}
    (hverdict : s.verdict (o.after as) = .ok r) :
    (o.after as).Settles r (s.payee r) s.event (s.call (o.after as)) := by
  cases s with
  | confirm params preimage => exact o.settles_of_opened h hverdict
  | refund params => exact o.settles_of_expired h hverdict

theorem reply_settlement (h : ∀ asset, minted asset as < 2 ^ 256) (s : Settlement) :
    (o.after as).reply s.action = some (s.verdict (o.after as)) := by
  rw [Settlement.reply_action]
  cases hverdict : s.verdict (o.after as) with
  | error e => rw [Settlement.call_of_error hverdict]
  | ok r => rw [(o.settles_of_verdict h hverdict).answer]

/-- Settlements of different transfers, whatever their order, each have the verdict that they had at
first. -/
theorem batched_after (h : ∀ asset, minted asset as < 2 ^ 256) {ss : List Settlement}
    (hids : (ss.map Settlement.id).Nodup) :
    (o.after as).Batched ss (o.after (as ++ ss.map Settlement.action)) := by
  induction ss using List.reverseRecOn with
  | nil =>
    rw [List.map_nil, List.append_nil]
    exact .nil _
  | append_singleton ss s ih =>
    obtain ⟨hinit, hnew⟩ := Settlement.nodup_concat hids
    have hbatched := ih hinit
    have hminted := minted_settlements_lt h ss
    have hsame := hbatched.verdict_eq hnew
    have heffect := o.effect_after (as ++ ss.map Settlement.action) s.action
    rw [List.map_append, List.map_cons, List.map_nil, ← List.append_assoc]
    cases hverdict : s.verdict (o.after as) with
    | error e =>
      rw [hverdict] at hsame
      rw [after_concat, Settlement.step_action, Settlement.call_of_error hsame]
      exact hbatched.concat_of_error hverdict
    | ok r =>
      rw [hverdict] at hsame
      obtain ⟨r₀, hfound, hid⟩ := Settlement.found_of_verdict hsame
      have hkeyed := (o.sound_after (as ++ ss.map Settlement.action)).keyed
      have hallowances := heffect.allowances_of_settlement
      rw [after_concat, Settlement.step_action] at hallowances ⊢
      exact hbatched.concat_of_ok hverdict (hid.trans (hkeyed _ _ hfound)) hfound hnew
        (o.settles_of_verdict hminted hsame) hallowances

theorem answers_settlements (h : ∀ asset, minted asset as < 2 ^ 256) {ss : List Settlement}
    (hids : (ss.map Settlement.id).Nodup) :
    (o.after as).answers (ss.map Settlement.action)
      = ss.map fun s => (s.action, (o.after as).reply s.action) := by
  induction ss using List.reverseRecOn with
  | nil => rfl
  | append_singleton ss s ih =>
    obtain ⟨hinit, hnew⟩ := Settlement.nodup_concat hids
    have hminted := minted_settlements_lt h ss
    have hreply : (o.after (as ++ ss.map Settlement.action)).reply s.action
        = (o.after as).reply s.action := by
      rw [o.reply_settlement hminted, o.reply_settlement h,
        (o.batched_after h hinit).verdict_eq hnew]
    rw [List.map_append, List.map_cons, List.map_nil, Chain.answers_concat, ih hinit,
      ← after_append, hreply, List.map_append, List.map_cons, List.map_nil]

/-- Settlements of different transfers can be made in any order. While less than the greatest amount
was minted of each asset, each of them is answered as if it came first, and afterwards the registry,
all balances and all allowances are the same; the announcements differ in their order at most. -/
theorem settlements_commute (h : ∀ asset, minted asset as < 2 ^ 256) {ss ss' : List Settlement}
    (hids : (ss.map Settlement.id).Nodup) (hperm : ss'.Perm ss) :
    (o.after as).answers (ss.map Settlement.action)
        = (ss.map fun s => (s.action, (o.after as).reply s.action)) ∧
      (o.after as).answers (ss'.map Settlement.action)
        = (ss'.map fun s => (s.action, (o.after as).reply s.action)) ∧
      (o.after (as ++ ss'.map Settlement.action)).registry
        = (o.after (as ++ ss.map Settlement.action)).registry ∧
      (∀ x holder, (o.after (as ++ ss'.map Settlement.action)).ledger.balance x holder
        = (o.after (as ++ ss.map Settlement.action)).ledger.balance x holder) ∧
      (∀ contract owner, (o.after (as ++ ss'.map Settlement.action)).ledger.allowance contract owner
        = (o.after (as ++ ss.map Settlement.action)).ledger.allowance contract owner) ∧
      ∃ events events',
        (o.after (as ++ ss.map Settlement.action)).feed.stream
          = (o.after as).feed.stream ++ events ∧
        (o.after (as ++ ss'.map Settlement.action)).feed.stream
          = (o.after as).feed.stream ++ events' ∧
        events'.Perm events := by
  have hids' : (ss'.map Settlement.id).Nodup := (hperm.map Settlement.id).nodup_iff.2 hids
  obtain ⟨hregistry, hbalance, hallowances, hstream⟩ :=
    (o.batched_after h hids).eq_of_perm (o.batched_after h hids') hperm
  refine ⟨o.answers_settlements h hids, o.answers_settlements h hids', hregistry, hbalance, ?_,
    hstream⟩
  intro contract owner
  rw [Ledger.allowance, hallowances, Ledger.allowance]

end Origin

namespace Sample

/-- Three native coins, up to the thirtieth second. -/
def brief : Params where
  terms := {
    sender := user
    receiver := provider
    asset := .native
    amount := Amount.clamp 3
    nativeAmount := 0
    hashlock := Config.standard.scheme.hashlock preimage
    timelock := 30 }
  route := .inbound ⟨2, Bytes.zero 32⟩

/-- The user locks three native coins as well, and they expire before the other half does. -/
def overlapping : List Action := opening ++ [.lock brief (Amount.clamp 3)] ++ [.setTime 40]

theorem minted_overlapping_lt (asset : Asset) : minted asset overlapping < 2 ^ 256 := by
  have hopening := minted_opening_lt asset
  unfold minted at hopening
  simpa [minted, overlapping, Action.mints] using hopening

theorem brief_id_ne : brief.id ≠ outbound.id := by decide +kernel

theorem registry_after_overlapping :
    (source.after overlapping).registry
      = (Table.empty.set outbound.id (Record.locked outbound.id outbound 10)).set brief.id
        (Record.locked brief.id brief 10) := by
  have hfresh : (source.after opening).get? brief.id = none := by
    rw [Chain.get?, registry_after_opening, Table.get?_set, if_neg brief_id_ne.symm]
    rfl
  have hlock := @Chain.lock_eq_recorded (source.after opening) brief (Amount.clamp 3) _ _
    (by decide +kernel) hfresh rfl
  have hstep : source.after overlapping
      = ((source.after opening).lock brief (Amount.clamp 3)).2.setTime 40 := by
    rw [overlapping, Origin.after_setTime, Origin.after_concat, Chain.step]
  rw [hstep, hlock, now_after_opening, Chain.registry_setTime, Chain.registry_recorded,
    Record.id_locked, registry_after_opening]

theorem now_after_overlapping : (source.after overlapping).now = 40 := by
  rw [overlapping, Origin.now_after_setTime]

theorem get?_brief :
    (source.after overlapping).get? brief.id = some (Record.locked brief.id brief 10) := by
  rw [Chain.get?, registry_after_overlapping, Table.get?_set_self]

theorem get?_outbound :
    (source.after overlapping).get? outbound.id
      = some (Record.locked outbound.id outbound 10) := by
  rw [Chain.get?, registry_after_overlapping, Table.get?_set_of_ne _ brief_id_ne,
    Table.get?_set_self]

/-- At the fortieth second the one half is confirmed and the other refunded. -/
def bothWays : List Settlement := [.confirm outbound preimage, .refund brief]

theorem nodup_bothWays : (bothWays.map Settlement.id).Nodup := by
  have hne : outbound.id ≠ brief.id := brief_id_ne.symm
  simp [bothWays, Settlement.id, hne]

end Sample

theorem Origin.settlements_commute_sample :
    (∀ asset, minted asset Sample.overlapping < 2 ^ 256) ∧
      (Sample.bothWays.map Settlement.id).Nodup ∧ Sample.bothWays.reverse.Perm Sample.bothWays ∧
      (Sample.source.after Sample.overlapping).answers
          (Sample.bothWays.reverse.map Settlement.action)
        = [(.refund Sample.brief,
            some (.ok ((Record.locked Sample.brief.id Sample.brief 10).refunded 40))),
          (.confirm Sample.outbound Sample.preimage,
            some (.ok ((Record.locked Sample.outbound.id Sample.outbound 10).redeemed
              Sample.preimage 40)))] ∧
      (Sample.source.after
          (Sample.overlapping ++ Sample.bothWays.reverse.map Settlement.action)).registry
        = (Sample.source.after
          (Sample.overlapping ++ Sample.bothWays.map Settlement.action)).registry := by
  have hperm := List.reverse_perm Sample.bothWays
  obtain ⟨-, hanswers, hregistry, -, -, -⟩ := Sample.source.settlements_commute
    Sample.minted_overlapping_lt Sample.nodup_bothWays hperm
  have hconfirm : (Sample.source.after Sample.overlapping).opened Sample.outbound Sample.preimage
      = .ok ((Record.locked Sample.outbound.id Sample.outbound 10).redeemed Sample.preimage 40) := by
    refine Chain.opened_eq_ok_iff.2 ⟨_, Sample.get?_outbound, rfl, ?_, ?_, ?_⟩
    · rw [config_after]
      rfl
    · rw [Sample.now_after_overlapping]
      decide
    · rw [Sample.now_after_overlapping]
  have hrefund : (Sample.source.after Sample.overlapping).expired Sample.brief
      = .ok ((Record.locked Sample.brief.id Sample.brief 10).refunded 40) := by
    refine Chain.expired_eq_ok_iff.2 ⟨_, Sample.get?_brief, rfl, ?_, ?_⟩
    · rw [Sample.now_after_overlapping]
      decide
    · rw [Sample.now_after_overlapping]
  have hfirst := (Sample.source.reply_settlement Sample.minted_overlapping_lt
    (.confirm Sample.outbound Sample.preimage)).trans (congrArg some hconfirm)
  have hsecond := (Sample.source.reply_settlement Sample.minted_overlapping_lt
    (.refund Sample.brief)).trans (congrArg some hrefund)
  refine ⟨Sample.minted_overlapping_lt, Sample.nodup_bothWays, hperm, hanswers.trans ?_, hregistry⟩
  rw [← hfirst, ← hsecond]
  rfl

end AtomicSwap
