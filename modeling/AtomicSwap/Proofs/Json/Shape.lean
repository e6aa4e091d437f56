import AtomicSwap.Check
import AtomicSwap.Json.Decoder
import Mathlib.Data.List.Nodup

/-!
Structures taken out of values. If each member of an object writes what its field asks for, and no
name comes twice, then the structure is taken out of the object, whatever the order of its members.
What holds of every value of a field holds of that field in every structure that is taken out.
-/

set_option autoImplicit false
set_option relaxedAutoImplicit false

namespace AtomicSwap

namespace Json.Members

theorem find?_ofList_of_mem {ms : List (String × Json)} {m : String × Json} (hm : m ∈ ms)
    (hunique : ∀ n ∈ ms, n.1 = m.1 → n = m) : (ofList ms).find? m.1 = some m.2 := by
  induction ms with
  | nil => cases hm
  | cons n ms ih =>
    by_cases hname : n.1 = m.1
    · rw [hunique n List.mem_cons_self hname, ofList, find?, if_pos rfl]
    · have hm : m ∈ ms := (List.mem_cons.1 hm).resolve_left fun heq => hname (heq ▸ rfl)
      rw [ofList, find?, if_neg (by simpa using hname)]
      exact ih hm fun k hk => hunique k (List.mem_cons_of_mem n hk)

end Json.Members

namespace Shape

variable {α β : Type}

/-- The members `ms` write `a` in a shape: each one is a value of a field of that name, and `a` is
built from any members among which these are found. -/
structure Reads (shape : Shape α) (ms : List (String × Json)) (a : α) : Prop where
  fields_eq : shape.fields.map Field.name = ms.map Prod.fst
  checks : ∀ f ∈ shape.fields, ∃ j, (f.name, j) ∈ ms ∧ f.check j = .ok ()
  builds : ∀ members : Json.Members, (∀ m ∈ ms, members.find? m.1 = some m.2) →
    shape.ofMembers members = .ok a

theorem reads_pure (a : α) : (Shape.pure a).Reads [] a where
  fields_eq := rfl
  checks f hf := by cases hf
  builds members _ := rfl

private theorem Reads.extend {γ : Type} {f : Shape (γ → β)} {g : Shape β}
    {ms : List (String × Json)} {build : γ → β} (h : f.Reads ms build) (field : Field) {j : Json}
    {a : γ} (hfields : g.fields = f.fields ++ [field]) (hcheck : field.check j = .ok ())
    (hbuilds : ∀ members, f.ofMembers members = .ok build → members.find? field.name = some j →
      g.ofMembers members = .ok (build a)) :
    g.Reads (ms ++ [(field.name, j)]) (build a) where
  fields_eq := by simp [hfields, h.fields_eq]
  checks i hi := by
    rcases List.mem_append.1 (hfields ▸ hi) with hi | hi
    · obtain ⟨k, hk, hcheck⟩ := h.checks i hi
      exact ⟨k, List.mem_append_left _ hk, hcheck⟩
    · rw [List.mem_singleton.1 hi]
      exact ⟨j, List.mem_append_right _ List.mem_cons_self, hcheck⟩
  builds members hmembers := by
    apply hbuilds members
    · exact h.builds members fun m hm => hmembers m (List.mem_append_left _ hm)
    · exact hmembers (field.name, j) (List.mem_append_right _ List.mem_cons_self)

theorem Reads.field {f : Shape (α → β)} {ms : List (String × Json)} {build : α → β}
    (h : f.Reads ms build) (name : String) {decode : Decoder α} {j : Json} {a : α}
    (hdecode : decode j = .ok a) :
    (f.field name decode).Reads (ms ++ [(name, j)]) (build a) := by
  have hcheck : (fun _ => ()) <$> decode j = .ok () := by
    rw [hdecode]
    rfl
  refine h.extend ⟨name, _⟩ rfl hcheck ?_
  intro members hbuild hfound
  simp only [Shape.field, hbuild, hfound, hdecode, bind, Except.bind]
  rfl

theorem Reads.optionalField {f : Shape (Option α → β)} {ms : List (String × Json)}
    {build : Option α → β} (h : f.Reads ms build) (name : String) {decode : Decoder α} {j : Json}
    {a : Option α} (hdecode : Decoder.optional decode j = .ok a) :
    (f.optionalField name decode).Reads (ms ++ [(name, j)]) (build a) := by
  have hcheck : (fun _ => ()) <$> Decoder.optional decode j = .ok () := by
    rw [hdecode]
    rfl
  refine h.extend ⟨name, _⟩ rfl hcheck ?_
  intro members hbuild hfound
  simp only [Shape.optionalField, hbuild, hfound, hdecode, bind, Except.bind]
  rfl

theorem scan_ofList {fields : List Field} {seen : List String} {ms : List (String × Json)}
    (hms : ((ms.map Prod.fst).filter (· ∈ fields.map Field.name)).Nodup)
    (hseen : ∀ m ∈ ms, m.1 ∈ fields.map Field.name → m.1 ∉ seen)
    (hchecks : ∀ m ∈ ms, ∀ f ∈ fields, f.name = m.1 → f.check m.2 = .ok ())
    (hwhole : ∀ m ∈ ms, m.1 ∉ fields.map Field.name → m.2.isWhole = true) :
    scan fields seen (.ofList ms) = .ok () := by
  induction ms generalizing seen with
  | nil => rfl
  | cons m ms ih =>
    have hseen' := fun n hn => hseen n (List.mem_cons_of_mem m hn)
    have hchecks' := fun n hn => hchecks n (List.mem_cons_of_mem m hn)
    have hwhole' := fun n hn => hwhole n (List.mem_cons_of_mem m hn)
    rw [Json.Members.ofList, scan]
    cases hfind : fields.find? fun f => f.name = m.1 with
    | none =>
      have hunknown : m.1 ∉ fields.map Field.name := by
        intro hmem
        obtain ⟨f, hf, hname⟩ := List.mem_map.1 hmem
        simpa [hname] using List.find?_eq_none.1 hfind f hf
      rw [List.map_cons, List.filter_cons_of_neg (by simpa using hunknown)] at hms
      simp only [hwhole m List.mem_cons_self hunknown, if_true]
      exact ih hms hseen' hchecks' hwhole'
    | some f =>
      have hname : f.name = m.1 := by simpa using List.find?_some hfind
      have hf := List.mem_of_find?_eq_some hfind
      have hknown : m.1 ∈ fields.map Field.name := hname ▸ List.mem_map_of_mem hf
      have hcheck := hchecks m List.mem_cons_self f hf hname
      rw [List.map_cons, List.filter_cons_of_pos (by simpa using hknown), List.nodup_cons] at hms
      obtain ⟨hfresh, hms⟩ := hms
      have htail : scan fields (m.1 :: seen) (.ofList ms) = .ok () := by
        refine ih hms ?_ hchecks' hwhole'
        intro n hn hfield hmem
        rcases List.mem_cons.1 hmem with heq | hmem
        · refine hfresh (List.mem_filter.2 ⟨heq ▸ List.mem_map_of_mem hn, ?_⟩)
          exact decide_eq_true hknown
        · exact hseen' n hn hfield hmem
      simp only [if_neg (hseen m List.mem_cons_self hknown)]
      rw [hcheck]
      exact htail

/-- A structure is taken out of the object of the members that write it, in whatever order they come
and whatever else there is beside them. -/
theorem Reads.decoder_perm {shape : Shape α} {own extras ms : List (String × Json)} {a : α}
    (h : shape.Reads own a) (hnames : (shape.fields.map Field.name).Nodup) (source : Source)
    (hperm : ms.Perm (own ++ extras))
    (hextras : ∀ m ∈ extras, m.1 ∉ own.map Prod.fst ∧ m.2.isWhole = true) :
    shape.decoder source (Json.ofMembers ms) = .ok a := by
  have hown : (own.map Prod.fst).Nodup := h.fields_eq ▸ hnames
  have hmem (m : String × Json) : m ∈ ms ↔ m ∈ own ∨ m ∈ extras :=
    hperm.mem_iff.trans List.mem_append
  have hunique : ∀ m ∈ own, ∀ n ∈ ms, n.1 = m.1 → n = m := by
    intro m hm n hn hname
    rcases (hmem n).1 hn with hn | hn
    · exact List.inj_on_of_nodup_map hown hn hm hname
    · exact absurd (hname ▸ List.mem_map_of_mem hm) (hextras n hn).1
  have hfields : ((ms.map Prod.fst).filter (· ∈ shape.fields.map Field.name)).Nodup := by
    rw [h.fields_eq]
    have hnames : ((own ++ extras).map Prod.fst).filter (· ∈ own.map Prod.fst) = own.map Prod.fst := by
      rw [List.map_append, List.filter_append, List.filter_eq_self.2, List.filter_eq_nil_iff.2,
        List.append_nil]
      · intro name hname
        obtain ⟨m, hm, rfl⟩ := List.mem_map.1 hname
        simpa using (hextras m hm).1
      · intro name hname
        exact decide_eq_true hname
    rw [((hperm.map Prod.fst).filter _).nodup_iff, hnames]
    exact hown
  have hscan : scan shape.fields [] (.ofList ms) = .ok () := by
    refine scan_ofList hfields (fun m _ _ => List.not_mem_nil) ?_ ?_
    · intro m hm f hf hname
      obtain ⟨j, hj, hcheck⟩ := h.checks f hf
      rwa [hunique _ hj m hm hname.symm]
    · intro m hm hunknown
      rw [h.fields_eq] at hunknown
      rcases (hmem m).1 hm with hm | hm
      · exact absurd (List.mem_map_of_mem hm) hunknown
      · exact (hextras m hm).2
  show (scan shape.fields [] (.ofList ms) >>= fun _ => shape.ofMembers (.ofList ms)) = _
  rw [hscan]
  refine h.builds (.ofList ms) ?_
  intro m hm
  exact Json.Members.find?_ofList_of_mem ((hmem m).2 (Or.inl hm)) (hunique m hm)

theorem Reads.decoder {shape : Shape α} {ms : List (String × Json)} {a : α}
    (h : shape.Reads ms a) (hnames : (shape.fields.map Field.name).Nodup) (source : Source) :
    shape.decoder source (Json.ofMembers ms) = .ok a := by
  have hperm : ms.Perm (ms ++ []) := by rw [List.append_nil]
  refine h.decoder_perm hnames source hperm ?_
  intro m hm
  cases hm

structure Yields (shape : Shape α) (P : α → Prop) : Prop where
  ofMembers : ∀ members a, shape.ofMembers members = .ok a → P a
  ofItems : ∀ items a rest, shape.ofItems items = .ok (a, rest) → P a

theorem yields_pure {P : α → Prop} {a : α} (h : P a) : (Shape.pure a).Yields P where
  ofMembers members b hb := by
    cases hb
    exact h
  ofItems items b rest hb := by
    cases hb
    exact h

theorem exists_of_map_eq_ok {decode : Decoder α} {build : α → β} {j : Json} {b : β}
    (h : build <$> decode j = .ok b) : ∃ a, decode j = .ok a ∧ build a = b := by
  cases hdecode : decode j with
  | error e =>
    rw [hdecode] at h
    cases h
  | ok a =>
    rw [hdecode] at h
    cases h
    exact ⟨a, rfl, rfl⟩

/-- A structure has a property if what it is built from has it for every value of its last field. -/
theorem Yields.field {f : Shape (α → β)} {P : β → Prop} {Q : α → Prop} {name : String}
    {decode : Decoder α} (h : f.Yields fun build => ∀ a, Q a → P (build a))
    (hdecode : ∀ j a, decode j = .ok a → Q a) : (f.field name decode).Yields P where
  ofMembers members b hb := by
    obtain ⟨build, hbuild, hb⟩ := bind_eq_ok_iff.1 hb
    have hbuilt := h.ofMembers members build hbuild
    split at hb
    · obtain ⟨a, ha, rfl⟩ := exists_of_map_eq_ok hb
      exact hbuilt a (hdecode _ a ha)
    · cases hb
  ofItems items b rest hb := by
    obtain ⟨⟨build, others⟩, hbuild, hb⟩ := bind_eq_ok_iff.1 hb
    obtain ⟨⟨head, tail⟩, -, hb⟩ := bind_eq_ok_iff.1 hb
    obtain ⟨a, ha, hb⟩ := bind_eq_ok_iff.1 hb
    cases hb
    exact h.ofItems items build others hbuild a (hdecode head a ha)

theorem Yields.freeField {f : Shape (α → β)} {P : β → Prop} {name : String} {decode : Decoder α}
    (h : f.Yields fun build => ∀ a, P (build a)) : (f.field name decode).Yields P := by
  have hbuild : f.Yields fun build => ∀ a, True → P (build a) :=
    ⟨fun members build hb a _ => h.ofMembers members build hb a,
      fun items build rest hb a _ => h.ofItems items build rest hb a⟩
  exact hbuild.field fun _ _ _ => trivial

theorem Yields.optionalField {f : Shape (Option α → β)} {P : β → Prop} {name : String}
    {decode : Decoder α} (h : f.Yields fun build => ∀ a, P (build a)) :
    (f.optionalField name decode).Yields P where
  ofMembers members b hb := by
    obtain ⟨build, hbuild, hb⟩ := bind_eq_ok_iff.1 hb
    have hbuilt := h.ofMembers members build hbuild
    split at hb
    · obtain ⟨a, -, rfl⟩ := exists_of_map_eq_ok hb
      exact hbuilt a
    · cases hb
      exact hbuilt none
  ofItems items b rest hb := by
    obtain ⟨⟨build, others⟩, hbuild, hb⟩ := bind_eq_ok_iff.1 hb
    obtain ⟨⟨head, tail⟩, -, hb⟩ := bind_eq_ok_iff.1 hb
    obtain ⟨a, -, hb⟩ := bind_eq_ok_iff.1 hb
    cases hb
    exact h.ofItems items build others hbuild a

theorem Yields.decoder {shape : Shape α} {P : α → Prop} (h : shape.Yields P) (source : Source)
    {j : Json} {a : α} (hdecode : shape.decoder source j = .ok a) : P a := by
  cases j with
  | object members =>
    obtain ⟨-, -, hmembers⟩ := bind_eq_ok_iff.1 hdecode
    exact h.ofMembers members a hmembers
  | array items =>
    obtain ⟨⟨b, rest⟩, hitems, hdecode⟩ := bind_eq_ok_iff.1 hdecode
    obtain ⟨-, -, hdecode⟩ := bind_eq_ok_iff.1 hdecode
    cases hdecode
    exact h.ofItems items a rest hitems
  | _ => cases hdecode

end Shape

end AtomicSwap
