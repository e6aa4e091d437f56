import AtomicSwap.Feed
import Mathlib.Data.List.DropRight
import Mathlib.Order.Bounds.Defs
import Mathlib.Tactic.SplitIfs

/-!
What a subscriber reads. Its cursor parts the stream into what it has been shown and the rest. Reading
until nothing is left gives the newest of the rest, as many as the ring holds, and takes the
subscriber to the end of the stream.
-/

set_option autoImplicit false
set_option relaxedAutoImplicit false

namespace AtomicSwap.Feed

/-- There is room for as many events as the least power of two that holds the capacity. -/
theorem isLeast_roundUp (n : Nat) : IsLeast { m | (∃ k, m = 2 ^ k) ∧ max n 1 ≤ m } (roundUp n) := by
  unfold roundUp
  split_ifs with hone
  · refine ⟨⟨⟨0, rfl⟩, Nat.max_le.2 ⟨hone, Nat.le_refl 1⟩⟩, ?_⟩
    rintro m ⟨-, hm⟩
    exact Nat.le_trans (Nat.le_max_right n 1) hm
  · have hlt : n - 1 < 2 ^ ((n - 1).log2 + 1) := Nat.lt_log2_self
    refine ⟨⟨⟨_, rfl⟩, by omega⟩, ?_⟩
    rintro m ⟨⟨k, rfl⟩, hm⟩
    have hlog : 2 ^ (n - 1).log2 ≤ n - 1 := Nat.log2_self_le (by omega)
    have hexponent : (n - 1).log2 < k := (Nat.pow_lt_pow_iff_right Nat.one_lt_two).1 (by omega)
    exact Nat.pow_le_pow_right Nat.two_pos hexponent

example : roundUp 0 = 1 ∧ roundUp 8 = 8 ∧ roundUp 9 = 16 := by decide

theorem roundUp_pos (n : Nat) : 0 < roundUp n :=
  Nat.le_trans (Nat.le_max_right n 1) (isLeast_roundUp n).1.2

/-- A subscriber has been shown the first events of the stream, and not the rest. -/
structure Parted (f : Feed) (name : String) (seen rest : List Event) : Prop where
  cursor : f.cursors.get? name = some seen.length
  stream : f.stream = seen ++ rest

theorem parted_subscribe (f : Feed) (name : String) : (f.subscribe name).Parted name f.stream [] :=
  ⟨Table.get?_set_self _ _ _, (List.append_nil _).symm⟩

namespace Parted

variable {f f' : Feed} {name : String} {seen rest : List Event}

theorem length_stream (h : f.Parted name seen rest) :
    f.stream.length = seen.length + rest.length := by
  rw [h.stream, List.length_append]

theorem pending_eq (h : f.Parted name seen rest) : f.pending name = rest := by
  simp only [pending, h.cursor, h.stream, List.drop_left]

theorem append (h : f.Parted name seen rest) {events : List Event}
    (hcursor : f'.cursors.get? name = f.cursors.get? name)
    (hstream : f'.stream = f.stream ++ events) : f'.Parted name seen (rest ++ events) where
  cursor := hcursor.trans h.cursor
  stream := by rw [hstream, h.stream, List.append_assoc]

theorem receive_nil (h : f.Parted name seen []) : f.receive name = (.empty, f) := by
  have hlength : f.stream.length = seen.length := h.length_stream
  simp only [receive, h.cursor, hlength, Nat.sub_self, Nat.not_lt_zero, if_false,
    List.getElem?_eq_none (Nat.le_of_eq hlength)]

theorem exists_receive_cons {e : Event} (h : f.Parted name seen (e :: rest))
    (hring : rest.length < f.ring) :
    ∃ f', f.receive name = (.event e, f') ∧ f'.Parted name (seen ++ [e]) rest ∧
      f'.ring = f.ring := by
  have hlength := h.length_stream
  rw [List.length_cons] at hlength
  have hnotBehind : ¬f.ring < f.stream.length - seen.length := by omega
  have hnext : f.stream[seen.length]? = some e := by
    rw [h.stream, List.getElem?_append_right (Nat.le_refl _), Nat.sub_self]
    rfl
  refine ⟨f.moveTo name (seen.length + 1), ?_, ⟨?_, ?_⟩, rfl⟩
  · simp only [receive, h.cursor, if_neg hnotBehind, hnext]
  · rw [List.length_append]
    exact Table.get?_set_self _ _ _
  · rw [List.append_assoc]
    exact h.stream

/-- A subscriber that is too far behind is told so, and is left with what the ring holds. -/
theorem exists_receive_lagged (h : f.Parted name seen rest) (hlag : f.ring < rest.length) :
    ∃ f', f.receive name = (.lagged (rest.length - f.ring), f') ∧
      f'.Parted name (seen ++ rest.take (rest.length - f.ring)) (rest.rtake f.ring) ∧
        f'.ring = f.ring := by
  have hlength := h.length_stream
  have hbehind : f.stream.length - seen.length = rest.length := by omega
  have hcursor : f.stream.length - f.ring = (seen ++ rest.take (rest.length - f.ring)).length := by
    rw [List.length_append, List.length_take]
    omega
  refine ⟨f.moveTo name (f.stream.length - f.ring), ?_, ⟨?_, ?_⟩, rfl⟩
  · simp only [receive, h.cursor, hbehind, if_pos hlag]
  · rw [← hcursor]
    exact Table.get?_set_self _ _ _
  · rw [List.append_assoc, List.rtake, List.take_append_drop]
    exact h.stream

theorem exists_receiveAll (h : f.Parted name seen rest) (hring : rest.length ≤ f.ring) (steps : Nat)
    (hsteps : rest.length ≤ steps) :
    ∃ f', receiveAll name steps f = (rest, f') ∧ f'.Parted name (seen ++ rest) [] ∧
      f'.ring = f.ring := by
  induction rest generalizing f seen steps with
  | nil =>
    rw [List.append_nil]
    refine ⟨f, ?_, h, rfl⟩
    cases steps with
    | zero => rfl
    | succ steps => rw [receiveAll, h.receive_nil]
  | cons e rest ih =>
    rw [List.length_cons] at hring hsteps
    obtain ⟨steps, rfl⟩ : ∃ n, steps = n + 1 := ⟨steps - 1, by omega⟩
    obtain ⟨f₁, hnext, hparted, hsame⟩ := h.exists_receive_cons hring
    obtain ⟨f', hrest, hend, hring'⟩ :=
      ih hparted (hsame ▸ Nat.le_of_lt hring) steps (Nat.le_of_succ_le_succ hsteps)
    rw [List.append_assoc] at hend
    refine ⟨f', ?_, hend, hring'.trans hsame⟩
    rw [receiveAll, hnext]
    simp only [hrest]

/-- A subscriber that reads to the end is shown the newest of the rest, as many as there is room
for. -/
theorem drain_newest (h : f.Parted name seen rest) :
    (f.drain name).1 = rest.rtake f.ring ∧ (f.drain name).2.Parted name (seen ++ rest) [] ∧
      (f.drain name).2.ring = f.ring := by
  rw [Feed.drain, h.pending_eq]
  rcases Nat.lt_or_ge f.ring rest.length with hlag | hring
  · -- The first reading only tells what is lost, and the ring is short enough for those left.
    obtain ⟨steps, hsteps⟩ : ∃ steps, rest.length = steps + 1 := ⟨rest.length - 1, by omega⟩
    obtain ⟨f₁, hlost, hparted, hsame⟩ := h.exists_receive_lagged hlag
    have hlength : (rest.rtake f.ring).length = f.ring := by
      rw [List.rtake, List.length_drop]
      omega
    obtain ⟨f', hrest, hend, hring⟩ := hparted.exists_receiveAll (by omega) steps (by omega)
    rw [List.append_assoc, List.rtake, List.take_append_drop] at hend
    rw [hsteps, receiveAll, hlost]
    simp only [hrest]
    exact ⟨trivial, hend, hring.trans hsame⟩
  · obtain ⟨f', hall, hend, hsame⟩ := h.exists_receiveAll hring _ (Nat.le_refl _)
    rw [hall, List.rtake, Nat.sub_eq_zero_of_le hring, List.drop_zero]
    exact ⟨rfl, hend, hsame⟩

theorem stream_drain (h : f.Parted name seen rest) : (f.drain name).2.stream = f.stream := by
  obtain ⟨-, hend, -⟩ := h.drain_newest
  rw [hend.stream, h.stream, List.append_nil]

theorem drain (h : f.Parted name seen rest) (hring : rest.length ≤ f.ring) :
    (f.drain name).1 = rest ∧ (f.drain name).2.Parted name (seen ++ rest) [] := by
  obtain ⟨hshown, hparted, -⟩ := h.drain_newest
  refine ⟨?_, hparted⟩
  rw [hshown, List.rtake, Nat.sub_eq_zero_of_le hring, List.drop_zero]

end Parted

end AtomicSwap.Feed
