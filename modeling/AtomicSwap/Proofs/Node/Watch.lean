import AtomicSwap.Node.HostedChain
import AtomicSwap.Proofs.Drain
import AtomicSwap.Proofs.Solvency
import AtomicSwap.Proofs.Telemetry.Counters

/-!
A hosted chain together with the counters of its node. The counters are fed from two sides: events
are counted as the observer reads them, failures and the transfers in escrow as the answers of calls
are noted. What each kind of move adds to a count is said once here, and from it what a run adds.
-/

set_option autoImplicit false
set_option relaxedAutoImplicit false

namespace AtomicSwap

def Listening.name : Listening → String
  | subscribe name => name
  | unsubscribe name => name
  | receive name => name

namespace Feed

variable {name : String}

theorem cursor_listen (f : Feed) {l : Listening} (h : l.name ≠ name) :
    (f.listen l).cursors.get? name = f.cursors.get? name := by
  cases l with
  | subscribe other => exact Table.get?_set_of_ne _ h _
  | unsubscribe other => exact (Table.get?_erase _ other name).trans (if_neg h)
  | receive other =>
    have hmove (cursor : Nat) :
        (f.moveTo other cursor).cursors.get? name = f.cursors.get? name :=
      Table.get?_set_of_ne _ h _
    simp only [listen, receive]
    split
    · rfl
    · split_ifs
      · exact hmove _
      · split
        · rfl
        · exact hmove _

end Feed

theorem Chain.Effect.cursor {c c' : Chain} {a : Action}
    {reply : Option (Except TransferError Record)} (he : Effect c a reply c') {name : String}
    (h : ∀ l, a = .listen l → l.name ≠ name) :
    c'.feed.cursors.get? name = c.feed.cursors.get? name := by
  cases he with
  | refused isCall e => rfl
  | locked checked fresh escrowed => rfl
  | redeemed found isLocked opens inTime released => rfl
  | refunded found isLocked expired released => rfl
  | minted asset holder amount => rfl
  | approved contract owner amount => rfl
  | timed time => rfl
  | heard l => exact Feed.cursor_listen _ (h l rfl)

theorem Chain.Effect.ring {c c' : Chain} {a : Action}
    {reply : Option (Except TransferError Record)} (he : Effect c a reply c') :
    c'.feed.ring = c.feed.ring := by
  cases he with
  | refused isCall e => rfl
  | locked checked fresh escrowed => rfl
  | redeemed found isLocked opens inTime released => rfl
  | refunded found isLocked expired released => rfl
  | minted asset holder amount => rfl
  | approved contract owner amount => rfl
  | timed time => rfl
  | heard l => exact Feed.ring_listen _ l

theorem Chain.registry_turn {c : Chain} {t : Turn}
    (h : ∀ a r, t = .act a → c.reply a ≠ some r) : (c.turn t).registry = c.registry := by
  cases t with
  | ledger l => rfl
  | act a =>
    cases a with
    | lock params attached => exact absurd rfl (h _ _ rfl)
    | confirm params preimage => exact absurd rfl (h _ _ rfl)
    | refund params => exact absurd rfl (h _ _ rfl)
    | mint asset holder amount => rfl
    | approve contract owner amount => rfl
    | setTime time => rfl
    | listen l => rfl

namespace Node

open Telemetry

theorem HostedChain.countEvents_eq (label : String) (c : Counters) (events : List Event) :
    countEvents label c events = c.incrementAll (events.flatMap (Event.counts label)) := by
  induction events generalizing c with
  | nil => rfl
  | cons e events ih =>
    rw [List.flatMap_cons, Counters.incrementAll_append, ← Counters.countEvent_eq, ← ih]
    rfl

/-- A hosted chain, and the counters of its node. -/
structure Watch where
  host : HostedChain
  counters : Counters

namespace Watch

/-- What can happen to a hosted chain and to the counters: a turn of the chain, an answer noted under
the name of an operation, the observer reading on, or others changing the counters. -/
inductive Move
  | turn (t : Turn)
  | observe (operation : String) (result : Except TransferError Record)
  | drain
  | others (counters : Counters)

def move (w : Watch) : Move → Watch
  | .turn t => { w with host := { w.host with chain := w.host.chain.turn t } }
  | .observe operation result =>
    { w with counters := w.host.tally operation result w.counters }
  | .drain => ⟨(w.host.drain w.counters).2.1, (w.host.drain w.counters).2.2⟩
  | .others counters => { w with counters := counters }

def run (w : Watch) (ms : List Move) : Watch := ms.foldl move w

variable {w : Watch} {m : Move} {ms : List Move}

theorem run_cons (w : Watch) (m : Move) (ms : List Move) : w.run (m :: ms) = (w.move m).run ms :=
  rfl

theorem run_concat (w : Watch) (ms : List Move) (m : Move) :
    w.run (ms ++ [m]) = (w.run ms).move m := by
  rw [run, List.foldl_append]
  rfl

theorem label_move (w : Watch) (m : Move) : (w.move m).host.label = w.host.label := by
  cases m <;> rfl

/-- To call a chain and note the answer is a turn and an observation of what it is answered. -/
theorem run_call (w : Watch) (operation : String) {a : Action} {f : Chain → Outcome Record}
    (hstep : ∀ c : Chain, c.step a = (f c).2) :
    w.run [.turn (.act a), .observe operation (f w.host.chain).1]
      = ⟨(w.host.call operation f w.counters).2.1, (w.host.call operation f w.counters).2.2⟩ := by
  simp only [run, List.foldl_cons, List.foldl_nil, move, Chain.turn, HostedChain.call, hstep]

/-- Each move is made in a state that allows it. -/
def Throughout (p : Watch → Move → Prop) (w : Watch) : List Move → Prop
  | [] => True
  | m :: ms => p w m ∧ (w.move m).Throughout p ms

theorem throughout_concat {p : Watch → Move → Prop} :
    w.Throughout p (ms ++ [m]) ↔ w.Throughout p ms ∧ p (w.run ms) m := by
  induction ms generalizing w with
  | nil => exact And.comm
  | cons m' ms ih =>
    rw [List.cons_append, Throughout, Throughout, ih, run_cons, and_assoc]

/-- Nobody else reads as the observer, and the observer is never further behind than the ring reaches
when it reads on. -/
def Keeps (w : Watch) : Move → Prop
  | .turn (.act (.listen l)) => l.name ≠ HostedChain.observer
  | .drain => (w.host.chain.feed.pending HostedChain.observer).length ≤ w.host.chain.feed.ring
  | _ => True

/-- If the chain answers in a move, the answer is among those that are noted, under whatever name, in
the moves to come. -/
def Notes (w : Watch) (rest : List Move) : Move → Prop
  | .turn (.act a) => ∀ r, w.host.chain.reply a = some r → ∃ operation, .observe operation r ∈ rest
  | _ => True

theorem notes_of_mem {rest : List Move} {a : Action} {r : Except TransferError Record}
    {operation : String} (hmem : .observe operation r ∈ rest)
    (hreply : w.host.chain.reply a = some r) : w.Notes rest (.turn (.act a)) := by
  intro r' hr'
  rw [hreply] at hr'
  cases hr'
  exact ⟨operation, hmem⟩

theorem notes_of_none {rest : List Move} {a : Action} (hreply : w.host.chain.reply a = none) :
    w.Notes rest (.turn (.act a)) := by
  intro r hr
  rw [hreply] at hr
  cases hr

/-- Each answer of the chain is noted later on. -/
def Noted (w : Watch) : List Move → Prop
  | [] => True
  | m :: ms => w.Notes ms m ∧ (w.move m).Noted ms

def Spares (p : Family × List String) (w : Watch) : Move → Prop
  | .others counters => counters.value p.1 p.2 = w.counters.value p.1 p.2
  | _ => True

/-- A count starts at zero and is not changed by others. -/
structure Owns (w : Watch) (ms : List Move) (p : Family × List String) : Prop where
  zero : w.counters.value p.1 p.2 = 0
  spared : w.Throughout (Spares p) ms

/-- What the observer is shown in a move. -/
def shown (w : Watch) : Move → List Event
  | .turn _ => []
  | .observe _ _ => []
  | .drain => (w.host.chain.feed.drain HostedChain.observer).1
  | .others _ => []

def shownIn (w : Watch) : List Move → List Event
  | [] => []
  | m :: ms => w.shown m ++ (w.move m).shownIn ms

/-- The labels under which a noted answer is counted, if it is a failure. -/
def failure? (label : String) : Move → Option (List String)
  | .observe operation (.error e) => some [label, operation, e.code]
  | _ => none

/-- The labels of all failures that were noted, in their order. -/
def failures (label : String) (ms : List Move) : List (List String) :=
  ms.filterMap (failure? label)

def increments (w : Watch) (m : Move) : List (Family × List String) :=
  (w.shown m).flatMap (Event.counts w.host.label)
    ++ (failure? w.host.label m).toList.map fun labels => (.failures, labels)

theorem valueAt_observe (w : Watch) (operation : String) (result : Except TransferError Record)
    (k : Family × UInt64) :
    (w.move (.observe operation result)).counters.valueAt k
      = if key (.escrowed, [w.host.label]) = k then
          Binary64.round (w.host.chain.registry.count .locked)
        else (w.counters.incrementAll (w.increments (.observe operation result))).valueAt k := by
  show (Counters.noteEscrow _ _ _).valueAt k = _
  rw [Counters.noteEscrow, Counters.valueAt_setValue _ (.escrowed, [w.host.label])]
  cases result <;> rfl

/-- Every count but that of the transfers in escrow goes up as the move says. -/
theorem valueAt_move {p : Family × List String} (hfamily : p.1 ≠ .escrowed) (h : Spares p w m) :
    (w.move m).counters.valueAt (key p)
      = (w.counters.incrementAll (w.increments m)).valueAt (key p) := by
  cases m with
  | turn t => rfl
  | observe operation result =>
    have hne : key (.escrowed, [w.host.label]) ≠ key p := by
      intro hkey
      exact hfamily (congrArg Prod.fst hkey).symm
    rw [valueAt_observe, if_neg hne]
  | drain =>
    show (HostedChain.countEvents _ _ _).valueAt _
      = (w.counters.incrementAll ((w.shown .drain).flatMap _ ++ [])).valueAt _
    rw [HostedChain.countEvents_eq, List.append_nil]
    rfl
  | others counters => exact h

def incrementsIn (w : Watch) : List Move → List (Family × List String)
  | [] => []
  | m :: ms => w.increments m ++ (w.move m).incrementsIn ms

theorem valueAt_run {p : Family × List String} (hfamily : p.1 ≠ .escrowed)
    (hspared : w.Throughout (Spares p) ms) (h : w.counters.valueAt (key p) ≤ 2 ^ 53) :
    (w.run ms).counters.valueAt (key p)
      = min (w.counters.valueAt (key p) + (w.incrementsIn ms).countP fun q => key q = key p)
          (2 ^ 53) := by
  induction ms generalizing w with
  | nil => exact (Nat.min_eq_left h).symm
  | cons m ms ih =>
    obtain ⟨hfirst, hrest⟩ := hspared
    have hmove := valueAt_move hfamily hfirst
    rw [Counters.valueAt_incrementAll _ h] at hmove
    have hbound : (w.move m).counters.valueAt (key p) ≤ 2 ^ 53 := by
      rw [hmove]
      exact Nat.min_le_right _ _
    rw [run_cons, ih hrest hbound, hmove, incrementsIn, List.countP_append]
    omega

theorem failures_cons (label : String) (m : Move) (ms : List Move) :
    failures label (m :: ms) = (failure? label m).toList ++ failures label ms := by
  rw [failures, List.filterMap_cons]
  cases failure? label m <;> rfl

theorem countP_incrementsIn_failures (w : Watch) (ms : List Move) (labels : List String) :
    (w.incrementsIn ms).countP (fun q => key q = key (.failures, labels))
      = (failures w.host.label ms).countP fun l => fingerprint l = fingerprint labels := by
  induction ms generalizing w with
  | nil => rfl
  | cons m ms ih =>
    have hevents : ((w.shown m).flatMap (Event.counts w.host.label)).countP
        (fun q => key q = key (.failures, labels)) = 0 := by
      rw [List.countP_eq_zero]
      intro q hq hkey
      exact (Event.family_of_mem_flatMap_counts hq).2 (congrArg Prod.fst (of_decide_eq_true hkey))
    rw [incrementsIn, increments, List.countP_append, List.countP_append, hevents, ih, label_move,
      failures_cons, List.countP_append, List.countP_map, Nat.zero_add]
    simp [key, Function.comp_def]

theorem countP_incrementsIn_events (w : Watch) (ms : List Move) {p : Family × List String}
    (hfamily : p.1 ≠ .failures) :
    (w.incrementsIn ms).countP (fun q => key q = key p)
      = ((w.shownIn ms).flatMap (Event.counts w.host.label)).countP fun q => key q = key p := by
  induction ms generalizing w with
  | nil => rfl
  | cons m ms ih =>
    have hfailure : ((failure? w.host.label m).toList.map fun labels =>
        (Family.failures, labels)).countP (fun q => key q = key p) = 0 := by
      rw [List.countP_eq_zero]
      intro q hq hkey
      obtain ⟨labels, -, rfl⟩ := List.mem_map.1 hq
      exact hfamily (congrArg Prod.fst (of_decide_eq_true hkey)).symm
    rw [incrementsIn, increments, List.countP_append, List.countP_append, hfailure, ih, label_move,
      shownIn, List.flatMap_append, List.countP_append, Nat.add_zero]

theorem shownIn_concat (w : Watch) (ms : List Move) (m : Move) :
    w.shownIn (ms ++ [m]) = w.shownIn ms ++ (w.run ms).shown m := by
  induction ms generalizing w with
  | nil => exact List.append_nil _
  | cons m' ms ih => rw [List.cons_append, shownIn, ih, shownIn, run_cons, List.append_assoc]

/-- The chain keeps its records in order, its stream tells them in numbers, and the observer has been
shown so much of the stream. -/
structure Sound (w : Watch) (seen : List Event) : Prop where
  identified : w.host.chain.Identified
  tallied : w.host.chain.Tallied
  parted : ∃ rest, w.host.chain.feed.Parted HostedChain.observer seen rest

theorem sound_deploy {label : String} {config : AtomicSwap.Config} {custodian : Address}
    (h : w.host = .deploy label config custodian) : w.Sound [] where
  identified k r hget := by
    rw [h] at hget
    cases hget
  tallied := by
    rw [h]
    exact ⟨fun leg => rfl, fun s hs => rfl⟩
  parted := by
    rw [h]
    exact ⟨[], Feed.parted_subscribe _ _⟩

variable {seen : List Event}

theorem Sound.drain (h : w.Sound seen) (hkeeps : w.Keeps .drain) :
    (w.move .drain).host.chain.feed.Parted HostedChain.observer (seen ++ w.shown .drain) [] := by
  obtain ⟨rest, hparted⟩ := h.parted
  have hring := hkeeps
  rw [Keeps, hparted.pending_eq] at hring
  obtain ⟨hshown, hparted⟩ := hparted.drain hring
  have hshown : w.shown .drain = rest := hshown
  rw [hshown]
  exact hparted

theorem Sound.move (h : w.Sound seen) (hkeeps : w.Keeps m) :
    (w.move m).Sound (seen ++ w.shown m) := by
  cases m with
  | turn t =>
    obtain ⟨rest, hparted⟩ := h.parted
    refine ⟨h.identified.turn t, h.tallied.turn h.identified.keyed t, ?_⟩
    rw [shown, List.append_nil]
    cases t with
    | act a =>
      have heffect := Chain.effect_step h.identified.keyed a
      refine ⟨_, hparted.append (heffect.cursor ?_) heffect.stream⟩
      rintro l rfl
      exact hkeeps
    | ledger l => exact ⟨rest, hparted⟩
  | observe operation result =>
    rw [shown, List.append_nil]
    exact ⟨h.identified, h.tallied, h.parted⟩
  | drain =>
    obtain ⟨rest, hparted⟩ := h.parted
    have hidentified : (w.move .drain).host.chain.Identified := h.identified
    exact ⟨hidentified, h.tallied.of_registry hparted.stream_drain rfl, [], h.drain hkeeps⟩
  | others counters =>
    rw [shown, List.append_nil]
    exact ⟨h.identified, h.tallied, h.parted⟩

theorem Sound.run (h : w.Sound seen) (hkeeps : w.Throughout Keeps ms) :
    (w.run ms).Sound (seen ++ w.shownIn ms) := by
  induction ms generalizing w seen with
  | nil =>
    rw [shownIn, List.append_nil]
    exact h
  | cons m ms ih =>
    obtain ⟨hfirst, hrest⟩ := hkeeps
    rw [shownIn, ← List.append_assoc]
    exact ih (h.move hfirst) hrest

section

variable {label : String}

theorem escrowed_observe (hlabel : w.host.label = label) (operation : String)
    (result : Except TransferError Record) :
    (w.move (.observe operation result)).counters.valueAt (key (.escrowed, [label]))
      = Binary64.round (w.host.chain.registry.count .locked) := by
  rw [valueAt_observe, hlabel, if_pos rfl]

theorem escrowed_move (hlabel : w.host.label = label) (hspares : Spares (.escrowed, [label]) w m)
    (hquiet : ∀ a r, m = .turn (.act a) → w.host.chain.reply a ≠ some r)
    (h : w.counters.valueAt (key (.escrowed, [label]))
      = Binary64.round (w.host.chain.registry.count .locked)) :
    (w.move m).counters.valueAt (key (.escrowed, [label]))
      = Binary64.round ((w.move m).host.chain.registry.count .locked) := by
  cases m with
  | turn t =>
    have hregistry : (w.host.chain.turn t).registry = w.host.chain.registry := by
      refine Chain.registry_turn ?_
      intro a r ha
      exact hquiet a r (ha ▸ rfl)
    show w.counters.valueAt _ = Binary64.round ((w.host.chain.turn t).registry.count .locked)
    rw [hregistry, h]
  | observe operation result => exact escrowed_observe hlabel operation result
  | drain =>
    have hcount : (w.move .drain).counters.valueAt (key (.escrowed, [label]))
        = w.counters.valueAt (key (.escrowed, [label])) := by
      show (HostedChain.countEvents _ _ _).valueAt _ = _
      rw [HostedChain.countEvents_eq]
      refine Counters.valueAt_incrementAll_of_ne _ ?_
      intro p hp hkey
      exact (Event.family_of_mem_flatMap_counts hp).1 (congrArg Prod.fst hkey)
    rw [hcount, h]
    rfl
  | others counters => exact hspares.trans h

/-- Once every answer was noted, the transfers in escrow are as many as was noted last. -/
theorem escrowed_run (hlabel : w.host.label = label)
    (hspared : w.Throughout (Spares (.escrowed, [label])) ms) (hnoted : w.Noted ms)
    (h : (∃ operation result, .observe operation result ∈ ms) ∨
      w.counters.valueAt (key (.escrowed, [label]))
        = Binary64.round (w.host.chain.registry.count .locked)) :
    (w.run ms).counters.valueAt (key (.escrowed, [label]))
      = Binary64.round ((w.run ms).host.chain.registry.count .locked) := by
  induction ms generalizing w with
  | nil =>
    obtain ⟨operation, result, hmem⟩ | h := h
    · cases hmem
    · exact h
  | cons m ms ih =>
    obtain ⟨hspares, hspared⟩ := hspared
    obtain ⟨hanswer, hnoted⟩ := hnoted
    refine ih ((w.label_move m).trans hlabel) hspared hnoted ?_
    -- Either an answer will still be noted, which sets the count right, or it is right now; and a
    -- call, the one move that can make it wrong, has its own answer noted later on.
    rcases h with ⟨operation, result, hmem⟩ | h
    · rcases List.mem_cons.1 hmem with rfl | hmem
      · exact Or.inr (escrowed_observe hlabel operation result)
      · exact Or.inl ⟨operation, result, hmem⟩
    · by_cases hcall : ∃ a r, m = .turn (.act a) ∧ w.host.chain.reply a = some r
      · obtain ⟨a, r, rfl, hreply⟩ := hcall
        obtain ⟨operation, hmem⟩ := hanswer r hreply
        exact Or.inl ⟨operation, r, hmem⟩
      · refine Or.inr (escrowed_move hlabel hspares ?_ h)
        intro a r ha hreply
        exact hcall ⟨a, r, ha, hreply⟩

end

end Watch

end Node

end AtomicSwap
