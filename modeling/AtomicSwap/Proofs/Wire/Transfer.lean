import AtomicSwap.Proofs.Wire.Event

/-!
Transfers read back. Terms, routes, parameters and records are read as they were written, whatever the
order of their members and whatever simple ones stand among them, but for an asset that is the token
at the zero address, and no text at all is read as that token.
-/

set_option autoImplicit false
set_option relaxedAutoImplicit false

namespace AtomicSwap

/-- Whether an asset can be told from all others by its address on the wire. -/
def Asset.Carried (a : Asset) : Prop := a ≠ .token (Bytes.zero 20)

theorem Asset.carried_ofAddress (a : Address) : (Asset.ofAddress a).Carried := by
  by_cases h : a = Bytes.zero 20
  · simp [Carried, ofAddress, h]
  · simp [Carried, ofAddress, h]

namespace Wire

theorem carried_of_assetDecoder {j : Json} {a : Asset} (h : assetDecoder j = .ok a) :
    a.Carried := by
  unfold assetDecoder at h
  cases haddress : addressDecoder 20 j with
  | error e =>
    rw [haddress] at h
    cases h
  | ok b =>
    rw [haddress] at h
    cases h
    exact Asset.carried_ofAddress b

theorem plain_byteArray {n : Nat} (b : Bytes n) : (byteArray b).Plain := by
  refine Json.plain_ofItems ?_
  intro j hj
  obtain ⟨x, -, rfl⟩ := List.mem_map.1 hj
  exact Json.plain_ofNat _

theorem rigid_byteArray {n : Nat} (b : Bytes n) : (byteArray b).Rigid := Json.rigid_ofItems _

theorem rigid_word (n : UInt64) : (word n).Rigid := Json.rigid_ofNat _

theorem rigid_optional {α : Type} {encode : α → Json} (h : ∀ a, (encode a).Rigid) (o : Option α) :
    (optional encode o).Rigid := by
  cases o with
  | none => exact Json.rigid_null
  | some a => exact h a

theorem isSound_byteArray {room : Nat} (hroom : 0 < room) {n : Nat} (b : Bytes n) :
    (byteArray b).isSound room = true := by
  have hitems (bs : List UInt8) (room : Nat) :
      (Json.Items.ofList (bs.map fun x => Json.ofNat x.toNat)).isSound room = true := by
    induction bs with
    | nil => rfl
    | cons x bs ih =>
      have hx := isSound_word room x.toUInt64
      rw [word, UInt8.toNat_toUInt64] at hx
      rw [List.map_cons, Json.Items.ofList, Json.Items.isSound, hx, ih]
      rfl
  show (decide (0 < room) && (Json.Items.ofList _).isSound (room - 1)) = true
  rw [hitems, decide_eq_true hroom]
  rfl

theorem optional_word (o : Option UInt64) :
    Decoder.optional Decoder.word (optional word o) = .ok o := by
  cases o with
  | none => rfl
  | some n =>
    show some <$> Decoder.word (word n) = _
    rw [word_word]
    rfl

theorem optional_byteArray {n : Nat} (source : Source) (o : Option (Bytes n)) :
    Decoder.optional (Decoder.bytes source n) (optional byteArray o) = .ok o := by
  cases o with
  | none => rfl
  | some b =>
    show some <$> Decoder.bytes source n (byteArray b) = _
    rw [bytes_byteArray]
    rfl

end Wire

namespace Terms

def Carried (t : Terms) : Prop := t.asset.Carried

theorem onWire_eq_self_iff {t : Terms} : t.onWire = t ↔ t.Carried := by
  rw [Carried, Asset.Carried, ← Asset.onWire_eq_self_iff]
  constructor
  · intro h
    exact congrArg Terms.asset h
  · intro h
    rw [onWire, h]

theorem plain_toJson (t : Terms) : t.toJson.Plain := by
  refine Json.plain_ofMembers ?_
  simp [Wire.address, Wire.asset, Wire.amount, Wire.word, Wire.plain_byteArray, Json.plain_ofText,
    Json.plain_ofNat]

theorem decoder_rearranged (t : Terms) {j : Json} (h : t.toJson.RearrangesTo j) :
    decoder j = .ok t.onWire := by
  have hreads := (Shape.reads_pure Terms.mk)
    |>.field "sender" (Wire.addressDecoder_address t.sender)
    |>.field "receiver" (Wire.addressDecoder_address t.receiver)
    |>.field "asset" (Wire.assetDecoder_asset t.asset)
    |>.field "amount" (Wire.amountDecoder_amount t.amount)
    |>.field "native_amount" (Wire.amountDecoder_amount t.nativeAmount)
    |>.field "hashlock" (Wire.bytes_byteArray .text t.hashlock)
    |>.field "timelock" (Wire.word_word t.timelock)
  refine hreads.decoder_rearranged (by decide) ?_ .text h
  simp [Wire.address, Wire.asset, Wire.amount, Wire.word, Wire.rigid_byteArray, Json.rigid_ofText,
    Json.rigid_ofNat]

theorem decoder_toJson (t : Terms) : decoder t.toJson = .ok t.onWire :=
  t.decoder_rearranged t.plain_toJson.rearrangesTo_self

theorem carried_of_decoder {j : Json} {t : Terms} (h : decoder j = .ok t) : t.Carried := by
  have hyields : shape.Yields Terms.Carried := by
    refine .freeField (.freeField (.freeField (.freeField (.field ?_
      fun j a => Wire.carried_of_assetDecoder))))
    refine .freeField (.freeField (Shape.yields_pure ?_))
    intro sender receiver asset hasset amount native hashlock timelock
    exact hasset
  exact hyields.decoder .text h

end Terms

namespace Route

theorem splitMembers_of_ne {room : Nat} {ms : List (String × Json)}
    (h : ∀ m ∈ ms, m.1 ≠ "leg" ∧ m.2.isSound room = true) (known : Option Leg) :
    splitMembers room known (.ofList ms) = .ok (known, .ofList ms) := by
  induction ms with
  | nil => rfl
  | cons m ms ih =>
    obtain ⟨hname, hsound⟩ := h m List.mem_cons_self
    rw [Json.Members.ofList, splitMembers.eq_def]
    simp only [if_neg hname, hsound, if_true, ih fun n hn => h n (List.mem_cons_of_mem m hn)]
    rfl

/-- The half of a route is found wherever its name stands, and all other members are kept. -/
theorem splitMembers_append {room : Nat} {ahead behind : List (String × Json)}
    (h : ∀ m ∈ ahead ++ behind, m.1 ≠ "leg" ∧ m.2.isSound room = true) (l : Leg) :
    splitMembers room none (.ofList (ahead ++ ("leg", Wire.leg l) :: behind))
      = .ok (some l, .ofList (ahead ++ behind)) := by
  induction ahead with
  | nil =>
    have hleg : readLeg (Wire.leg l) = .ok l := by cases l <;> rfl
    rw [List.nil_append, Json.Members.ofList, splitMembers.eq_def]
    simp only [if_true, hleg]
    exact splitMembers_of_ne h (some l)
  | cons m ahead ih =>
    obtain ⟨hname, hsound⟩ := h m List.mem_cons_self
    rw [List.cons_append, Json.Members.ofList, splitMembers.eq_def]
    simp only [if_neg hname, hsound, if_true, ih fun n hn => h n (List.mem_cons_of_mem m hn)]
    rfl

/-- A route is read as its half reads the members other than the name of the half. -/
theorem exists_kept (room : Nat) {own ms : List (String × Json)} {l : Leg}
    (hown : ∀ m ∈ own, m.1 ≠ "leg" ∧ m.2.isSound room = true)
    (h : Json.Among (("leg", Wire.leg l) :: own) ms) :
    ∃ kept, Json.Among own kept ∧
      decoder room (Json.ofMembers ms) = ofKept l (Json.ofMembers kept) := by
  obtain ⟨extras, hperm, hextras⟩ := h
  obtain ⟨ahead, behind, rfl⟩ : ∃ ahead behind, ms = ahead ++ ("leg", Wire.leg l) :: behind :=
    List.append_of_mem (hperm.mem_iff.2 List.mem_cons_self)
  have hkept : (ahead ++ behind).Perm (own ++ extras) :=
    (List.perm_cons _).1 (List.perm_middle.symm.trans hperm)
  have hothers : ∀ m ∈ ahead ++ behind, m.1 ≠ "leg" ∧ m.2.isSound room = true := by
    intro m hm
    rcases List.mem_append.1 (hkept.mem_iff.1 hm) with hm | hm
    · exact hown m hm
    · obtain ⟨hname, hsimple⟩ := hextras m hm
      exact ⟨fun heq => hname (heq ▸ List.mem_cons_self), hsimple.isSound room⟩
  refine ⟨ahead ++ behind, ⟨extras, hkept, ?_⟩, ?_⟩
  · intro m hm
    obtain ⟨hname, hsimple⟩ := hextras m hm
    exact ⟨fun hmem => hname (List.mem_cons_of_mem _ hmem), hsimple⟩
  · show decoder room (.object (.ofList (ahead ++ ("leg", Wire.leg l) :: behind))) = _
    rw [decoder, splitMembers_append hothers]
    rfl

theorem decoder_rearranged {room : Nat} (hroom : 0 < room) (r : Route) {j : Json}
    (h : r.toJson.RearrangesTo j) : decoder room j = .ok r := by
  cases r with
  | outbound r =>
    have hreads := (Shape.reads_pure Request.mk)
      |>.field "dst_chain_id" (Wire.word_word r.chain)
      |>.field "dst_receiver" (Wire.addressDecoder_address r.receiver)
      |>.field "bid_id" (Wire.word_word r.bid)
      |>.field "dst_asset" (Wire.addressDecoder_address r.asset)
      |>.field "dst_amount" (Wire.amountDecoder_amount r.amount)
    obtain ⟨ms, hamong, rfl⟩ := Json.RearrangesTo.exists_among h (by
      simp [Wire.leg, Wire.word, Wire.address, Wire.amount, Json.rigid_ofText, Json.rigid_ofNat])
    obtain ⟨kept, hkept, hdecoder⟩ := exists_kept room (by
      simp [Wire.isSound_word, Wire.address, Wire.amount, Json.ofText, Json.isSound]) hamong
    rw [hdecoder]
    exact congrArg (outbound <$> ·) (hreads.decoder_among (by decide) .kept hkept)
  | inbound r =>
    have hreads := (Shape.reads_pure Link.mk)
      |>.field "src_chain_id" (Wire.word_word r.chain)
      |>.field "src_transfer_id" (Wire.bytes_byteArray .kept r.transfer)
    obtain ⟨ms, hamong, rfl⟩ := Json.RearrangesTo.exists_among h (by
      simp [Wire.leg, Wire.word, Wire.rigid_byteArray, Json.rigid_ofText, Json.rigid_ofNat])
    obtain ⟨kept, hkept, hdecoder⟩ := exists_kept room (by
      simp [Wire.isSound_word, Wire.isSound_byteArray hroom]) hamong
    rw [hdecoder]
    exact congrArg (inbound <$> ·) (hreads.decoder_among (by decide) .kept hkept)

theorem plain_toJson (r : Route) : r.toJson.Plain := by
  cases r with
  | outbound r =>
    refine Json.plain_ofMembers ?_
    simp [Wire.leg, Wire.address, Wire.amount, Wire.word, Json.plain_ofText, Json.plain_ofNat]
  | inbound r =>
    refine Json.plain_ofMembers ?_
    simp [Wire.leg, Wire.word, Wire.plain_byteArray, Json.plain_ofText, Json.plain_ofNat]

theorem decoder_toJson {room : Nat} (hroom : 0 < room) (r : Route) : decoder room r.toJson = .ok r :=
  r.decoder_rearranged hroom r.plain_toJson.rearrangesTo_self

end Route

namespace Params

def Carried (p : Params) : Prop := p.terms.Carried

theorem plain_toJson (p : Params) : p.toJson.Plain := by
  refine Json.plain_ofMembers ?_
  simp [p.terms.plain_toJson, p.route.plain_toJson]

theorem shape_decoder_rearranged {room : Nat} (hroom : 0 < room) (p : Params) {j : Json}
    (h : p.toJson.RearrangesTo j) : (shape room).decoder .text j = .ok p.onWire := by
  obtain ⟨own, ms, ⟨terms, rest, hterms, ⟨route, rest', hroute, hrest, rfl⟩, rfl⟩, hamong, rfl⟩ := h
  cases hrest
  have hreads := (Shape.reads_pure Params.mk)
    |>.field "terms" (p.terms.decoder_rearranged hterms)
    |>.field "route" (p.route.decoder_rearranged hroom hroute)
  exact hreads.decoder_among (by decide : ["terms", "route"].Nodup) .text hamong

theorem shape_decoder_toJson {room : Nat} (hroom : 0 < room) (p : Params) :
    (shape room).decoder .text p.toJson = .ok p.onWire :=
  p.shape_decoder_rearranged hroom p.plain_toJson.rearrangesTo_self

theorem carried_of_shape_decoder {room : Nat} {j : Json} {p : Params}
    (h : (shape room).decoder .text j = .ok p) : p.Carried := by
  have hyields : (shape room).Yields Params.Carried := by
    refine .freeField (.field (Shape.yields_pure ?_) fun j t => Terms.carried_of_decoder)
    intro terms hterms route
    exact hterms
  exact hyields.decoder .text h

end Params

namespace Record

def onWire (r : Record) : Record := { r with params := r.params.onWire }

def Carried (r : Record) : Prop := r.params.Carried

theorem onWire_eq_self_iff {r : Record} : r.onWire = r ↔ r.Carried := by
  have hparams : r.params.onWire = r.params ↔ r.Carried := Params.onWire_eq_self_iff
  rw [← hparams]
  constructor
  · intro h
    exact congrArg Record.params h
  · intro h
    rw [onWire, h]

theorem plain_toJson (r : Record) : r.toJson.Plain := by
  have hsettled : (Wire.optional Wire.word r.settledAt).Plain := by
    cases r.settledAt with
    | none => trivial
    | some time => exact Json.plain_ofNat _
  have hpreimage : (Wire.optional Wire.byteArray r.preimage).Plain := by
    cases r.preimage with
    | none => trivial
    | some preimage => exact Wire.plain_byteArray preimage
  refine Json.plain_ofMembers ?_
  simp [Wire.state, Wire.word, Wire.plain_byteArray, r.params.plain_toJson, Json.plain_ofText,
    Json.plain_ofNat, hsettled, hpreimage]

theorem decoder_rearranged (r : Record) {j : Json} (h : r.toJson.RearrangesTo j) :
    decoder j = .ok r.onWire := by
  obtain ⟨own, ms, ⟨id, rest, hid, ⟨params, rest', hparams, hrest, rfl⟩, rfl⟩, hamong, rfl⟩ := h
  have hid := Wire.rigid_byteArray r.id id hid
  have hrest : rest' = [("state", Wire.state r.state), ("created_at", Wire.word r.createdAt),
      ("settled_at", Wire.optional Wire.word r.settledAt),
      ("preimage", Wire.optional Wire.byteArray r.preimage)] := by
    refine Json.Members.RearrangesTo.eq_of_rigid hrest ?_
    simp [Wire.state, Json.rigid_ofText, Wire.rigid_word, Wire.rigid_byteArray, Wire.rigid_optional]
  subst hid hrest
  have hreads := (Shape.reads_pure Record.mk)
    |>.field "id" (Wire.bytes_byteArray .text r.id)
    |>.field "params" (r.params.shape_decoder_rearranged (by decide : 0 < Json.depthLimit - 3) hparams)
    |>.field "state" (Wire.stateDecoder_state r.state)
    |>.field "created_at" (Wire.word_word r.createdAt)
    |>.optionalField "settled_at" (Wire.optional_word r.settledAt)
    |>.optionalField "preimage" (Wire.optional_byteArray .text r.preimage)
  exact hreads.decoder_among (by decide) .text hamong

theorem decoder_toJson (r : Record) : decoder r.toJson = .ok r.onWire :=
  r.decoder_rearranged r.plain_toJson.rearrangesTo_self

theorem carried_of_decoder {j : Json} {r : Record} (h : decoder j = .ok r) : r.Carried := by
  have hyields : shape.Yields Record.Carried := by
    refine .optionalField (.optionalField (.freeField (.freeField (.field ?_
      fun j p => Params.carried_of_shape_decoder))))
    refine .freeField (Shape.yields_pure ?_)
    intro id params hparams state createdAt settledAt preimage
    exact hparams
  exact hyields.decoder .text h

end Record

end AtomicSwap
