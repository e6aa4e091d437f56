import AtomicSwap.Proofs.Node.Watch

/-!
What the observer of a hosted chain is shown, however far behind it falls. Between two times at which
it reads on lie the events published meanwhile, and it is shown the newest of them, as many as there
is room for. So what it is shown in all is a part of the stream, in order and without repetition.
-/

set_option autoImplicit false
set_option relaxedAutoImplicit false

namespace AtomicSwap

section

variable {α : Type} (room : Nat)

theorem map_some_rtake (before part rest : List α) :
    (part.rtake room).map some
      = (List.range' (before.length + (part.length - room)) (part.length - (part.length - room))).map
        fun i => (before ++ part ++ rest)[i]? := by
  refine List.ext_getElem ?_ ?_
  · simp [List.rtake]
  · intro i hi hi'
    have hlt : part.length - room + i < part.length := by
      rw [List.length_map, List.rtake, List.length_drop] at hi
      omega
    simp only [List.rtake, List.getElem_map, List.getElem_drop, List.getElem_range', Nat.one_mul]
    rw [List.append_assoc, Nat.add_assoc, List.getElem?_append_right (Nat.le_add_right _ _),
      Nat.add_sub_cancel_left, List.getElem?_append_left hlt, List.getElem?_eq_getElem hlt]

/-- What is shown of each of some parts of a stream lies at places of its own, behind those of the
parts before. -/
theorem exists_places (before : List α) (parts : List (List α)) (rest : List α) :
    ∃ places : List (List Nat),
      places.flatten.Pairwise (· < ·) ∧ (∀ i ∈ places.flatten, before.length ≤ i) ∧
        (parts.map fun part => (part.rtake room).map some)
          = places.map fun is => is.map fun i => (before ++ parts.flatten ++ rest)[i]? := by
  induction parts generalizing before with
  | nil => exact ⟨[], .nil, by simp, rfl⟩
  | cons part parts ih =>
    obtain ⟨places, hordered, hbehind, hplaces⟩ := ih (before ++ part)
    have hstream : before ++ part ++ parts.flatten ++ rest
        = before ++ (part :: parts).flatten ++ rest := by
      rw [List.flatten_cons, List.append_assoc before part]
    have hfirst := map_some_rtake room before part (parts.flatten ++ rest)
    rw [← List.append_assoc (before ++ part), hstream] at hfirst
    rw [hstream] at hplaces
    refine ⟨List.range' (before.length + (part.length - room)) (part.length - (part.length - room))
      :: places, ?_, ?_, ?_⟩
    · rw [List.flatten_cons, List.pairwise_append]
      refine ⟨List.pairwise_lt_range', hordered, ?_⟩
      intro i hi j hj
      have hj := hbehind j hj
      rw [List.length_append] at hj
      obtain ⟨d, hd, rfl⟩ := List.mem_range'.1 hi
      omega
    · intro i hi
      rw [List.flatten_cons, List.mem_append] at hi
      rcases hi with hi | hi
      · obtain ⟨d, hd, rfl⟩ := List.mem_range'.1 hi
        omega
      · have hi := hbehind i hi
        rw [List.length_append] at hi
        omega
    · rw [List.map_cons, List.map_cons, hplaces, hfirst]

theorem flatten_map_rtake_sublist (parts : List (List α)) :
    (parts.map fun part => part.rtake room).flatten.Sublist parts.flatten := by
  induction parts with
  | nil => exact List.Sublist.refl []
  | cons part parts ih =>
    rw [List.map_cons, List.flatten_cons, List.flatten_cons]
    exact (List.drop_sublist _ _).append ih

theorem map_rtake_eq_self {parts : List (List α)} (h : ∀ part ∈ parts, part.length ≤ room) :
    (parts.map fun part => part.rtake room) = parts := by
  have hpart (part : List α) (hmem : part ∈ parts) : part.rtake room = id part := by
    rw [List.rtake, Nat.sub_eq_zero_of_le (h part hmem), List.drop_zero, id_eq]
  rw [List.map_congr_left hpart, List.map_id]

end

def Turn.listener? : Turn → Option String
  | .act (.listen l) => some l.name
  | _ => none

namespace Node

open Telemetry

namespace HostedChain

/-- The observer reads one delivery behind the other. An event is counted and kept, a loss is passed
over, and when nothing is left it ends. -/
inductive Reads (label : String) : Feed → Counters → List Event → Feed → Counters → Prop
  | done {f f' : Feed} {c : Counters} (next : f.receive observer = (.empty, f')) :
      Reads label f c [] f' c
  | shown {f f₁ f' : Feed} {c c' : Counters} {e : Event} {events : List Event}
      (next : f.receive observer = (.event e, f₁))
      (rest : Reads label f₁ (c.countEvent label e.name) events f' c') :
      Reads label f c (e :: events) f' c'
  | lagged {f f₁ f' : Feed} {c c' : Counters} {lost : Nat} {events : List Event}
      (next : f.receive observer = (.lagged lost, f₁)) (rest : Reads label f₁ c events f' c') :
      Reads label f c events f' c'

variable {label : String} {f f' f'' : Feed} {c c' c'' : Counters} {events events' : List Event}

theorem Reads.unique (h : Reads label f c events f' c') (h' : Reads label f c events' f'' c'') :
    events' = events ∧ f'' = f' ∧ c'' = c' := by
  induction h generalizing events' with
  | done next =>
    cases h' with
    | done next' =>
      cases next.symm.trans next'
      exact ⟨rfl, rfl, rfl⟩
    | shown next' rest' => cases next.symm.trans next'
    | lagged next' rest' => cases next.symm.trans next'
  | shown next rest ih =>
    cases h' with
    | done next' => cases next.symm.trans next'
    | shown next' rest' =>
      cases next.symm.trans next'
      obtain ⟨rfl, rfl, rfl⟩ := ih rest'
      exact ⟨rfl, rfl, rfl⟩
    | lagged next' rest' => cases next.symm.trans next'
  | lagged next rest ih =>
    cases h' with
    | done next' => cases next.symm.trans next'
    | shown next' rest' => cases next.symm.trans next'
    | lagged next' rest' =>
      cases next.symm.trans next'
      exact ih rest'

theorem reads_receiveAll (label : String) (steps : Nat) (f : Feed) (c : Counters)
    (hend : (Feed.receiveAll observer steps f).2.receive observer
      = (.empty, (Feed.receiveAll observer steps f).2)) :
    Reads label f c (Feed.receiveAll observer steps f).1 (Feed.receiveAll observer steps f).2
      (countEvents label c (Feed.receiveAll observer steps f).1) := by
  induction steps generalizing f c with
  | zero => exact .done hend
  | succ steps ih =>
    rw [Feed.receiveAll] at hend ⊢
    split at hend
    · next f₁ hnext => exact .done hnext
    · next lost f₁ hnext => exact .lagged hnext (ih f₁ c hend)
    · next e f₁ hnext => exact .shown hnext (ih f₁ (c.countEvent label e.name) hend)

/-- The reading comes to one end, and that is what a drain gives. -/
theorem reads_iff {h : HostedChain} {seen pending : List Event}
    (hparted : h.chain.feed.Parted observer seen pending) :
    Reads h.label h.chain.feed c events f' c'
      ↔ (events, f', c') = ((h.drain c).1, (h.drain c).2.1.chain.feed, (h.drain c).2.2) := by
  obtain ⟨-, hend, -⟩ := hparted.drain_newest
  have hreads := reads_receiveAll h.label _ h.chain.feed c hend.receive_nil
  constructor
  case mp =>
    intro hother
    obtain ⟨rfl, rfl, rfl⟩ := hreads.unique hother
    rfl
  case mpr =>
    intro heq
    cases heq
    exact hreads

theorem valueAt_drain (h : HostedChain) {k : Family × UInt64} (hbound : c.valueAt k ≤ 2 ^ 53) :
    (h.drain c).2.2.valueAt k
      = min (c.valueAt k
          + ((h.drain c).1.flatMap (Event.counts h.label)).countP fun p => key p = k) (2 ^ 53) := by
  have hcounters : (h.drain c).2.2 = countEvents h.label c (h.drain c).1 := rfl
  rw [hcounters, countEvents_eq, Counters.valueAt_incrementAll _ hbound]

end HostedChain

/-- What can happen to a chain that is hosted: a turn in which nobody else listens as the observer,
an event that others publish, the observer reading on, or others changing the counters. -/
inductive Happening
  | turn (t : Turn) (apart : t.listener? ≠ some HostedChain.observer)
  | publish (e : Event)
  | drain
  | others (counters : Counters)

namespace Watch

def happen (w : Watch) : Happening → Watch
  | .turn t _ => w.move (.turn t)
  | .publish e => { w with host := { w.host with chain := w.host.chain.announce e } }
  | .drain => w.move .drain
  | .others counters => w.move (.others counters)

def after (w : Watch) (xs : List Happening) : Watch := xs.foldl happen w

def published (w : Watch) : Happening → List Event
  | .turn (.act a) _ => (Chain.announced? (a, w.host.chain.reply a)).toList
  | .publish e => [e]
  | _ => []

/-- What is published and was not there when the observer last read on. -/
def since (w : Watch) (pending : List Event) : Happening → List Event
  | .drain => []
  | x => pending ++ w.published x

def unread (w : Watch) (pending : List Event) : List Happening → List Event
  | [] => pending
  | x :: xs => (w.happen x).unread (w.since pending x) xs

/-- The events published before a reading and behind the reading before, for each time the observer
read on. -/
def intervals (w : Watch) (pending : List Event) : List Happening → List (List Event)
  | [] => []
  | .drain :: xs => pending :: (w.happen .drain).intervals [] xs
  | x :: xs => (w.happen x).intervals (w.since pending x) xs

def drained (w : Watch) : List Happening → List (List Event)
  | [] => []
  | .drain :: xs => (w.host.drain w.counters).1 :: (w.happen .drain).drained xs
  | x :: xs => (w.happen x).drained xs

theorem label_after (w : Watch) (xs : List Happening) : (w.after xs).host.label = w.host.label := by
  induction xs generalizing w with
  | nil => rfl
  | cons x xs ih =>
    have hnext : (w.happen x).host.label = w.host.label := by
      cases x <;> rfl
    exact (ih (w.happen x)).trans hnext

variable {w : Watch} {room : Nat} {seen pending : List Event}

theorem intervals_cons_of_ne {x : Happening} (hx : x ≠ .drain) (xs : List Happening) :
    w.intervals pending (x :: xs) = (w.happen x).intervals (w.since pending x) xs := by
  cases x with
  | turn t apart => rfl
  | publish e => rfl
  | drain => exact absurd rfl hx
  | others counters => rfl

theorem drained_cons_of_ne {x : Happening} (hx : x ≠ .drain) (xs : List Happening) :
    w.drained (x :: xs) = (w.happen x).drained xs := by
  cases x with
  | turn t apart => rfl
  | publish e => rfl
  | drain => exact absurd rfl hx
  | others counters => rfl

/-- There is so much room, and the observer has been shown or has lost what is seen, and not what is
pending. -/
structure Trails (w : Watch) (room : Nat) (seen pending : List Event) : Prop where
  identified : w.host.chain.Identified
  ring : w.host.chain.feed.ring = room
  parted : w.host.chain.feed.Parted HostedChain.observer seen pending

theorem trails_deploy (label : String) (config : AtomicSwap.Config) (custodian : Address)
    (counters : Counters) :
    Trails ⟨.deploy label config custodian, counters⟩ (Feed.roundUp config.capacity.toNat) [] [] where
  identified k r hget := by cases hget
  ring := rfl
  parted := Feed.parted_subscribe _ _

theorem Trails.happen (h : w.Trails room seen pending) {x : Happening} (hx : x ≠ .drain) :
    (w.happen x).Trails room seen (w.since pending x) := by
  cases x with
  | turn t apart =>
    cases t with
    | act a =>
      have heffect := Chain.effect_step h.identified.keyed a
      refine ⟨h.identified.turn (.act a), heffect.ring.trans h.ring,
        h.parted.append (heffect.cursor ?_) heffect.stream⟩
      rintro l rfl hname
      exact apart (congrArg some hname)
    | ledger l => exact ⟨h.identified, h.ring, h.parted.append rfl (List.append_nil _).symm⟩
  | publish e => exact ⟨h.identified, h.ring, h.parted.append rfl rfl⟩
  | drain => exact absurd rfl hx
  | others counters =>
    exact ⟨h.identified, h.ring, h.parted.append rfl (List.append_nil _).symm⟩

theorem Trails.drain (h : w.Trails room seen pending) :
    (w.host.drain w.counters).1 = pending.rtake room ∧
      (w.happen .drain).Trails room (seen ++ pending) [] := by
  obtain ⟨hshown, hparted, hring⟩ := h.parted.drain_newest
  have hidentified : (w.happen .drain).host.chain.Identified := h.identified
  exact ⟨h.ring ▸ hshown, hidentified, hring.trans h.ring, hparted⟩

theorem Trails.after (h : w.Trails room seen pending) (xs : List Happening) :
    (w.after xs).Trails room (seen ++ (w.intervals pending xs).flatten) (w.unread pending xs) ∧
      w.drained xs = (w.intervals pending xs).map fun events => events.rtake room := by
  induction xs generalizing w seen pending with
  | nil =>
    rw [intervals, List.flatten_nil, List.append_nil]
    exact ⟨h, rfl⟩
  | cons x xs ih =>
    -- A reading ends an interval, and all else makes the one that is open longer.
    by_cases hx : x = .drain
    · subst hx
      obtain ⟨hshown, hnext⟩ := h.drain
      obtain ⟨htrails, hdrained⟩ := ih hnext
      rw [List.append_assoc] at htrails
      refine ⟨htrails, ?_⟩
      rw [drained, intervals, List.map_cons, hshown, hdrained]
    · obtain ⟨htrails, hdrained⟩ := ih (h.happen hx)
      rw [intervals_cons_of_ne hx, drained_cons_of_ne hx]
      exact ⟨htrails, hdrained⟩

/-- Whatever happens to a hosted chain, its observer reads to an end and is shown the newest of the
events published since it last read on, as many as there is room for: the capacity, or one, rounded
up to a power of two. Each of them is counted once. Over all the times it read on, every event of the
stream was shown once at most, in the order of the stream; and all were, up to the last of these
times, unless more were published between two of them than there is room for. -/
theorem observation_exact (label : String) (config : AtomicSwap.Config) (custodian : Address)
    (counters : Counters) (xs : List Happening) :
    let start : Watch := ⟨.deploy label config custodian, counters⟩
    let room := Feed.roundUp config.capacity.toNat
    let w := start.after xs
    let drain := w.host.drain w.counters
    let stream := w.host.chain.feed.stream
    let parts := start.intervals [] xs
    let pending := start.unread [] xs
    IsLeast { n | (∃ k, n = 2 ^ k) ∧ max config.capacity.toNat 1 ≤ n } room ∧
      (∀ events feed c, HostedChain.Reads label w.host.chain.feed w.counters events feed c
        ↔ (events, feed, c) = (drain.1, drain.2.1.chain.feed, drain.2.2)) ∧
      drain.1 = pending.rtake room ∧ drain.1.length = min pending.length room ∧
      (∀ k, w.counters.valueAt k ≤ 2 ^ 53 → drain.2.2.valueAt k
        = min (w.counters.valueAt k
            + (drain.1.flatMap (Event.counts label)).countP fun p => key p = k) (2 ^ 53)) ∧
      stream = parts.flatten ++ pending ∧
      start.drained xs = parts.map (fun part => part.rtake room) ∧
      (∃ places : List (List Nat), places.flatten.Pairwise (· < ·) ∧
        (start.drained xs).map (fun events => events.map some)
          = places.map fun is => is.map fun i => stream[i]?) ∧
      (start.drained xs).flatten.Sublist stream ∧
      ((∀ part ∈ parts, part.length ≤ room) → (start.drained xs).flatten ++ pending = stream) := by
  intro start room w drain stream parts pending
  obtain ⟨htrails, hdrained⟩ := (trails_deploy label config custodian counters).after xs
  have hlabel : w.host.label = label := start.label_after xs
  have hshown : drain.1 = pending.rtake room := htrails.drain.1
  have hstream : stream = parts.flatten ++ pending := htrails.parted.stream
  refine ⟨Feed.isLeast_roundUp _, ?reads, hshown, ?length, ?counts, hstream, hdrained, ?places,
    ?sublist, ?whole⟩
  case reads =>
    intro events feed c
    have hreads : HostedChain.Reads w.host.label w.host.chain.feed w.counters events feed c
        ↔ (events, feed, c) = (drain.1, drain.2.1.chain.feed, drain.2.2) :=
      HostedChain.reads_iff htrails.parted
    rwa [hlabel] at hreads
  case length =>
    rw [hshown, List.rtake, List.length_drop]
    omega
  case counts =>
    intro k hbound
    have hvalue := w.host.valueAt_drain hbound
    rwa [hlabel] at hvalue
  case places =>
    obtain ⟨places, hordered, -, hplaces⟩ := exists_places room [] parts pending
    refine ⟨places, hordered, ?_⟩
    rw [hdrained, List.map_map, hstream]
    exact hplaces
  case sublist =>
    rw [hdrained, hstream]
    exact (flatten_map_rtake_sublist room parts).trans (List.sublist_append_left _ _)
  case whole =>
    intro hroom
    rw [hdrained, map_rtake_eq_self room hroom, hstream]

end Watch

end Node

end AtomicSwap
