import AtomicSwap.Proofs.Records

/-!
What a chain announces. Each call that succeeds announces one event, nothing else announces any, and
every notice is that of a record which the chain keeps. None of this depends on the ledger: it holds
also if others move funds on it in whatever way, between any two actions.
-/

set_option autoImplicit false
set_option relaxedAutoImplicit false

namespace AtomicSwap

namespace Feed

theorem exists_listen (f : Feed) (l : Listening) :
    ∃ cursors, f.listen l = { f with cursors := cursors } := by
  cases l with
  | subscribe name => exact ⟨_, rfl⟩
  | unsubscribe name => exact ⟨_, rfl⟩
  | receive name =>
    simp only [listen, receive]
    split
    · exact ⟨_, rfl⟩
    · split_ifs
      · exact ⟨_, rfl⟩
      · split <;> exact ⟨_, rfl⟩

theorem stream_listen (f : Feed) (l : Listening) : (f.listen l).stream = f.stream := by
  obtain ⟨cursors, hlisten⟩ := f.exists_listen l
  rw [hlisten]

theorem ring_listen (f : Feed) (l : Listening) : (f.listen l).ring = f.ring := by
  obtain ⟨cursors, hlisten⟩ := f.exists_listen l
  rw [hlisten]

end Feed

namespace Event

theorem params?_ofRecord (r : Record) : (ofRecord r).params? = some r.params := by
  obtain ⟨id, ⟨terms, route⟩, state, createdAt, settledAt, preimage⟩ := r
  cases route <;> rfl

theorem transferId_ofRecord (r : Record) : (ofRecord r).transferId = r.id := by
  obtain ⟨id, ⟨terms, route⟩, state, createdAt, settledAt, preimage⟩ := r
  cases route <;> rfl

theorem ofRecord_eq_of_precedes {r r' : Record} (h : r.Precedes r') : ofRecord r' = ofRecord r := by
  simp only [ofRecord, Record.terms, h.id_eq, h.params_eq]

end Event

/-- What can happen to a chain on whose ledger others move funds as well: an action, or the ledger
getting into whatever other state. -/
inductive Turn
  | act (a : Action)
  | ledger (l : Ledger)

namespace Chain

def turn (c : Chain) : Turn → Chain
  | .act a => c.step a
  | .ledger l => { c with ledger := l }

def play (c : Chain) (ts : List Turn) : Chain := ts.foldl turn c

theorem play_concat (c : Chain) (ts : List Turn) (t : Turn) :
    c.play (ts ++ [t]) = (c.play ts).turn t := by
  rw [play, List.foldl_append]
  rfl

theorem play_map_act (c : Chain) (as : List Action) : c.play (as.map .act) = c.run as := by
  rw [play, List.foldl_map]
  rfl

/-- Each record is kept under the identifier that its parameters give it. -/
def Identified (c : Chain) : Prop := ∀ k r, c.get? k = some r → r.id = k ∧ r.id = r.params.id

theorem Identified.keyed {c : Chain} (h : c.Identified) : c.Keyed := fun k r hget => (h k r hget).1

theorem Identified.recorded {c : Chain} (h : c.Identified) {r : Record} (hr : r.id = r.params.id)
    (ledger : Ledger) (e : Event) : (c.recorded ledger r e).Identified := by
  intro k r' hget
  rw [get?_recorded] at hget
  split_ifs at hget with hk
  · cases hget
    exact ⟨hk, hr⟩
  · exact h k r' hget

/-- The event that a call announces, which is none if it was refused. -/
def announced? : Action × Option (Except TransferError Record) → Option Event
  | (.lock _ _, some (.ok r)) => some (.ofRecord r)
  | (.confirm params preimage, some (.ok _)) => some (.confirmed params.id preimage)
  | (.refund params, some (.ok _)) => some (.refunded params.id)
  | _ => none

/-- Each notice in the stream is that of a record which the chain keeps. -/
def Announced (c : Chain) : Prop :=
  ∀ e params, e ∈ c.feed.stream → e.params? = some params →
    ∃ r, c.get? r.id = some r ∧ e = .ofRecord r

namespace Effect

variable {c c' : Chain} {a : Action} {reply : Option (Except TransferError Record)}

theorem identified (he : Effect c a reply c') (h : c.Identified) : c'.Identified := by
  cases he with
  | refused isCall e => exact h
  | locked checked fresh escrowed => exact h.recorded rfl _ _
  | @redeemed params preimage r ledger found isLocked opens inTime released =>
    obtain ⟨-, hr⟩ := h _ _ found
    exact h.recorded (r := r.redeemed preimage c.now) hr _ _
  | @refunded params r ledger found isLocked expired released =>
    obtain ⟨-, hr⟩ := h _ _ found
    exact h.recorded (r := r.refunded c.now) hr _ _
  | minted asset holder amount => exact h
  | approved contract owner amount => exact h
  | timed time => exact h
  | heard l => exact h

theorem stream (he : Effect c a reply c') :
    c'.feed.stream = c.feed.stream ++ (announced? (a, reply)).toList := by
  cases he with
  | refused isCall e => cases a <;> exact (List.append_nil _).symm
  | locked checked fresh escrowed => rfl
  | redeemed found isLocked opens inTime released => rfl
  | refunded found isLocked expired released => rfl
  | minted asset holder amount => exact (List.append_nil _).symm
  | approved contract owner amount => exact (List.append_nil _).symm
  | timed time => exact (List.append_nil _).symm
  | heard l => exact (Feed.stream_listen _ l).trans (List.append_nil _).symm

theorem exists_announced (he : Effect c a reply c') {e : Event} {params : Params}
    (hnew : announced? (a, reply) = some e) (hparams : e.params? = some params) :
    ∃ r, c'.get? r.id = some r ∧ e = .ofRecord r := by
  cases he with
  | refused isCall e => cases a <;> cases hnew
  | locked checked fresh escrowed =>
    cases hnew
    exact ⟨_, by rw [get?_recorded, if_pos rfl], rfl⟩
  | redeemed found isLocked opens inTime released =>
    cases hnew
    cases hparams
  | refunded found isLocked expired released =>
    cases hnew
    cases hparams
  | minted asset holder amount => cases hnew
  | approved contract owner amount => cases hnew
  | timed time => cases hnew
  | heard l => cases hnew

theorem announced (he : Effect c a reply c') (hk : c.Keyed) (h : c.Announced) : c'.Announced := by
  intro e params hmem hparams
  rw [he.stream, List.mem_append, Option.mem_toList] at hmem
  rcases hmem with hold | hnew
  · -- An older notice is that of the record which has grown out of the one at the time.
    obtain ⟨r, hget, rfl⟩ := h e params hold hparams
    obtain ⟨r', hget', hprecedes⟩ := (he.change hk).precedes hget
    refine ⟨r', ?_, (Event.ofRecord_eq_of_precedes hprecedes).symm⟩
    rwa [hprecedes.id_eq]
  · exact he.exists_announced hnew hparams

end Effect

theorem Identified.turn {c : Chain} (h : c.Identified) (t : Turn) : (c.turn t).Identified := by
  cases t with
  | act a => exact (effect_step h.keyed a).identified h
  | ledger l => exact h

theorem Announced.turn {c : Chain} (h : c.Announced) (hk : c.Keyed) (t : Turn) :
    (c.turn t).Announced := by
  cases t with
  | act a => exact (effect_step hk a).announced hk h
  | ledger l => exact h

end Chain

namespace Origin

variable (o : Origin) (ts : List Turn)

theorem identified_play : (o.chain.play ts).Identified := by
  induction ts using List.reverseRecOn with
  | nil =>
    intro k r hget
    cases hget
  | append_singleton ts t ih =>
    rw [Chain.play_concat]
    exact ih.turn t

theorem announced_play : (o.chain.play ts).Announced := by
  induction ts using List.reverseRecOn with
  | nil =>
    intro e params hmem
    cases hmem
  | append_singleton ts t ih =>
    rw [Chain.play_concat]
    exact ih.turn (o.identified_play ts).keyed t

end Origin

end AtomicSwap
