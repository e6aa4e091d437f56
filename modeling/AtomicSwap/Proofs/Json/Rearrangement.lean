import AtomicSwap.Proofs.Json.Shape
import AtomicSwap.Proofs.Json.Value

/-!
Values with their members in another order. The members of each object may change places, and simple
members of other names may stand among them. What a shape takes out of an object it takes out of it
still.
-/

set_option autoImplicit false
set_option relaxedAutoImplicit false

namespace AtomicSwap

namespace Json

/-- A string, or a natural number of sixty-four bits. -/
inductive Simple : Json → Prop
  | text (s : String) : Simple (ofText s)
  | word (n : UInt64) : Simple (ofNat n.toNat)

theorem Simple.plain {j : Json} (h : j.Simple) : j.Plain := by
  cases h with
  | text s => exact plain_ofText s
  | word n => exact plain_ofNat n.toNat

theorem Simple.isWhole {j : Json} (h : j.Simple) : j.isWhole = true := by
  cases h <;> rfl

/-- Some members, in whatever order, among simple ones of other names. -/
def Among (own ms : List (String × Json)) : Prop :=
  ∃ extras, ms.Perm (own ++ extras) ∧ ∀ m ∈ extras, m.1 ∉ own.map Prod.fst ∧ m.2.Simple

theorem among_self (own : List (String × Json)) : Among own own := by
  refine ⟨[], ?_, ?_⟩
  · rw [List.append_nil]
  · intro m hm
    cases hm

theorem Among.forall {p : Json → Prop} {own ms : List (String × Json)} (h : Among own ms)
    (hown : ∀ m ∈ own, p m.2) (hsimple : ∀ j : Json, j.Simple → p j) : ∀ m ∈ ms, p m.2 := by
  obtain ⟨extras, hperm, hextras⟩ := h
  intro m hm
  rcases List.mem_append.1 (hperm.mem_iff.1 hm) with hm | hm
  · exact hown m hm
  · exact hsimple m.2 (hextras m hm).2

mutual

/-- Whether a value becomes another one if the members of each object in it are put in whatever order,
and simple members of other names among them. -/
def RearrangesTo : Json → Json → Prop
  | .object own, j => ∃ own' ms, own.RearrangesTo own' ∧ Among own' ms ∧ j = ofMembers ms
  | i, j => j = i

def Members.RearrangesTo : Members → List (String × Json) → Prop
  | .nil, own => own = []
  | .cons (some name) value tail, own =>
    ∃ value' tail', value.RearrangesTo value' ∧ tail.RearrangesTo tail' ∧
      own = (name, value') :: tail'
  | _, _ => False

end

mutual

theorem Plain.rearrangesTo_self : ∀ {j : Json}, j.Plain → j.RearrangesTo j
  | .null, _ => rfl
  | .bool _, _ => rfl
  | .number _, _ => rfl
  | .text _, _ => rfl
  | .array _, _ => rfl
  | .object _, h => by
    obtain ⟨own, hown, hself⟩ := Members.Plain.exists_rearrangesTo h
    exact ⟨own, own, hself, among_self own, congrArg Json.object hown⟩

private theorem Members.Plain.exists_rearrangesTo : ∀ {members : Members}, members.Plain →
    ∃ own, members = Members.ofList own ∧ members.RearrangesTo own
  | .nil, _ => ⟨[], rfl, rfl⟩
  | .cons (some name) value tail, ⟨_, hvalue, htail⟩ => by
    obtain ⟨own, hown, hself⟩ := Members.Plain.exists_rearrangesTo htail
    refine ⟨(name, value) :: own, ?_, value, own, hvalue.rearrangesTo_self, hself, rfl⟩
    rw [hown]
    rfl

end

mutual

theorem RearrangesTo.plain : ∀ {i j : Json}, i.RearrangesTo j → i.Plain → j.Plain
  | .null, _, rfl, h => h
  | .bool _, _, rfl, h => h
  | .number _, _, rfl, h => h
  | .text _, _, rfl, h => h
  | .array _, _, rfl, h => h
  | .object _, _, ⟨_, _, hown, hamong, rfl⟩, h =>
    plain_ofMembers (hamong.forall (Members.RearrangesTo.plain hown h) fun _ => Simple.plain)

private theorem Members.RearrangesTo.plain : ∀ {members : Members} {own : List (String × Json)},
    members.RearrangesTo own → members.Plain → ∀ m ∈ own, m.2.Plain
  | .nil, _, rfl, _ => fun _ hm => absurd hm List.not_mem_nil
  | .cons (some _) _ _, _, ⟨_, _, hvalue, htail, rfl⟩, ⟨_, hplain, hrest⟩ => by
    intro m hm
    rcases List.mem_cons.1 hm with rfl | hm
    · exact hvalue.plain hplain
    · exact Members.RearrangesTo.plain htail hrest m hm

end

def Rigid (i : Json) : Prop := ∀ j, i.RearrangesTo j → j = i

theorem rigid_null : Rigid .null := fun _ h => h

theorem rigid_ofText (s : String) : (ofText s).Rigid := fun _ h => h

theorem rigid_ofNat (n : Nat) : (ofNat n).Rigid := fun _ h => h

theorem rigid_ofItems (js : List Json) : (ofItems js).Rigid := fun _ h => h

theorem Simple.rigid {j : Json} (h : j.Simple) : j.Rigid := by
  cases h with
  | text s => exact rigid_ofText s
  | word n => exact rigid_ofNat n.toNat

theorem Members.RearrangesTo.eq_of_rigid {own own' : List (String × Json)}
    (h : (Members.ofList own).RearrangesTo own') (hrigid : ∀ m ∈ own, m.2.Rigid) : own' = own := by
  induction own generalizing own' with
  | nil => exact h
  | cons m own ih =>
    obtain ⟨value, tail, hvalue, htail, rfl⟩ := h
    rw [hrigid m List.mem_cons_self value hvalue,
      ih htail fun n hn => hrigid n (List.mem_cons_of_mem m hn)]

theorem RearrangesTo.exists_among {own : List (String × Json)} {j : Json}
    (h : (ofMembers own).RearrangesTo j) (hrigid : ∀ m ∈ own, m.2.Rigid) :
    ∃ ms, Among own ms ∧ j = ofMembers ms := by
  obtain ⟨own', ms, hown, hamong, rfl⟩ := h
  rw [hown.eq_of_rigid hrigid] at hamong
  exact ⟨ms, hamong, rfl⟩

end Json

namespace Shape

variable {α : Type} {shape : Shape α} {own ms : List (String × Json)} {a : α}

theorem Reads.decoder_among (h : shape.Reads own a) (hnames : (shape.fields.map Field.name).Nodup)
    (source : Source) (hamong : Json.Among own ms) :
    shape.decoder source (Json.ofMembers ms) = .ok a := by
  obtain ⟨extras, hperm, hextras⟩ := hamong
  refine h.decoder_perm hnames source hperm ?_
  intro m hm
  obtain ⟨hname, hsimple⟩ := hextras m hm
  exact ⟨hname, hsimple.isWhole⟩

/-- A structure whose fields have no members is taken out of its object however that is rearranged. -/
theorem Reads.decoder_rearranged (h : shape.Reads own a)
    (hnames : (shape.fields.map Field.name).Nodup) (hrigid : ∀ m ∈ own, m.2.Rigid) (source : Source)
    {j : Json} (hj : (Json.ofMembers own).RearrangesTo j) : shape.decoder source j = .ok a := by
  obtain ⟨ms, hamong, rfl⟩ := hj.exists_among hrigid
  exact h.decoder_among hnames source hamong

end Shape

end AtomicSwap
