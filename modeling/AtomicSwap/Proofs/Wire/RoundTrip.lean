import AtomicSwap.Proofs.Wire.Transfer
import AtomicSwap.Wire.Config

/-!
The wire forms read back. What is written is read as it was exactly when its assets are carried, and
what is read from any text at all is carried: to write it again gives a text that reads the same. The
order of the members does not matter, nor what simple ones stand among them.
-/

set_option autoImplicit false
set_option relaxedAutoImplicit false

namespace AtomicSwap

namespace Decoder

variable {α : Type}

theorem exists_of_read_eq_ok {decode : Decoder α} {text : String} {a : α}
    (h : decode.read text = .ok a) : ∃ j, decode j = .ok a := by
  obtain ⟨b, hb, h⟩ := bind_eq_ok_iff.1 h
  refine ⟨(Json.read text.toList).1, ?_⟩
  split at h
  · split at h
    · cases h
      exact hb
    · cases h
  · cases h

/-- To write with `encode` what `decode` reads is idempotent: the values that are `carried` come
back as they were, no other value does, and every value that is read is carried. -/
structure Normalizes (decode : Decoder α) (encode : α → Json) (carried : α → Prop) : Prop where
  read_iff : ∀ a, decode.read (encode a).print = .ok a ↔ carried a
  carried_of_read : ∀ text a, decode.read text = .ok a → carried a
  read_again : ∀ text a, decode.read text = .ok a → decode.read (encode a).print = .ok a

/-- A decoder normalizes if it reads `onWire a` where `a` is written, and yields nothing that
`onWire` changes. -/
theorem normalizes_of_onWire {decode : Decoder α} {encode : α → Json} {carried : α → Prop}
    (onWire : α → α) (hplain : ∀ a, (encode a).Plain)
    (hdecode : ∀ a, decode (encode a) = .ok (onWire a))
    (hcarried : ∀ a, onWire a = a ↔ carried a) (hyields : ∀ j a, decode j = .ok a → carried a) :
    decode.Normalizes encode carried := by
  have hiff (a : α) : decode.read (encode a).print = .ok a ↔ carried a := by
    rw [decode.read_print (hplain a), hdecode, Except.ok.injEq]
    exact hcarried a
  have hread (text : String) (a : α) (h : decode.read text = .ok a) : carried a := by
    obtain ⟨j, hj⟩ := exists_of_read_eq_ok h
    exact hyields j a hj
  exact ⟨hiff, hread, fun text a h => (hiff a).2 (hread text a h)⟩

theorem normalizes_of_lossless {decode : Decoder α} {encode : α → Json}
    (hplain : ∀ a, (encode a).Plain) (hdecode : ∀ a, decode (encode a) = .ok a) :
    decode.Normalizes encode fun _ => True :=
  normalizes_of_onWire id hplain hdecode (by simp) fun _ _ _ => trivial

end Decoder

namespace Notice

variable {ρ : Type}

def Carried (n : Notice ρ) : Prop := n.terms.Carried

theorem onWire_eq_self_iff {n : Notice ρ} : n.onWire = n ↔ n.Carried := by
  have hterms : n.terms.onWire = n.terms ↔ n.Carried := Terms.onWire_eq_self_iff
  rw [← hterms]
  constructor
  · intro h
    exact congrArg Notice.terms h
  · intro h
    rw [onWire, h]

theorem carried_of_outboundShape {source : Source} {j : Json} {n : Notice Request}
    (h : outboundShape.decoder source j = .ok n) : n.Carried := by
  have hyields : outboundShape.Yields Notice.Carried := by
    refine .freeField (.freeField (.freeField (.freeField (.freeField ?_))))
    refine .freeField (.freeField (.freeField (.freeField (.field ?_
      fun j a => Wire.carried_of_assetDecoder))))
    refine .freeField (.freeField (.freeField (Shape.yields_pure ?_)))
    intro id sender receiver asset hasset amount native hashlock timelock chain payee bid wanted least
    exact hasset
  exact hyields.decoder source h

theorem carried_of_inboundShape {source : Source} {j : Json} {n : Notice Link}
    (h : inboundShape.decoder source j = .ok n) : n.Carried := by
  have hyields : inboundShape.Yields Notice.Carried := by
    refine .freeField (.freeField ?_)
    refine .freeField (.freeField (.freeField (.freeField (.field ?_
      fun j a => Wire.carried_of_assetDecoder))))
    refine .freeField (.freeField (.freeField (Shape.yields_pure ?_)))
    intro id sender receiver asset hasset amount native hashlock timelock chain transfer
    exact hasset
  exact hyields.decoder source h

end Notice

namespace Event

/-- Whether the wire carries the asset that an event announces, if it announces one. -/
def Carried : Event → Prop
  | outboundLocked n => n.Carried
  | inboundLocked n => n.Carried
  | confirmed _ _ => True
  | refunded _ => True

theorem onWire_eq_self_iff {e : Event} : e.onWire = e ↔ e.Carried := by
  cases e with
  | outboundLocked n => exact (iff_of_eq (outboundLocked.injEq _ _)).trans Notice.onWire_eq_self_iff
  | inboundLocked n => exact (iff_of_eq (inboundLocked.injEq _ _)).trans Notice.onWire_eq_self_iff
  | confirmed id preimage => simp [onWire, Carried]
  | refunded id => simp [onWire, Carried]

private theorem carried_of_confirmedShape {source : Source} {j : Json} {e : Event}
    (h : confirmedShape.decoder source j = .ok e) : e.Carried := by
  have hyields : confirmedShape.Yields Carried :=
    .freeField (.freeField (Shape.yields_pure fun id preimage => trivial))
  exact hyields.decoder source h

private theorem carried_of_refundedShape {source : Source} {j : Json} {e : Event}
    (h : refundedShape.decoder source j = .ok e) : e.Carried := by
  have hyields : refundedShape.Yields Carried :=
    .freeField (Shape.yields_pure fun id => trivial)
  exact hyields.decoder source h

theorem carried_of_dataDecoder {source : Source} {kind : Kind} {j : Json} {e : Event}
    (h : dataDecoder source kind j = .ok e) : e.Carried := by
  cases kind with
  | outboundLocked =>
    obtain ⟨n, hn, rfl⟩ := Shape.exists_of_map_eq_ok h
    exact Notice.carried_of_outboundShape hn
  | inboundLocked =>
    obtain ⟨n, hn, rfl⟩ := Shape.exists_of_map_eq_ok h
    exact Notice.carried_of_inboundShape hn
  | confirmed => exact carried_of_confirmedShape h
  | refunded => exact carried_of_refundedShape h

theorem carried_of_decoder {j : Json} {e : Event} (h : decoder j = .ok e) : e.Carried := by
  -- Whatever the order of the two members, an event is what its data is read as.
  have hdata {source : Source} {kind : Kind} {data : Json} {rest : Except DecodeError Unit}
      (h : (dataDecoder source kind data >>= fun e => rest >>= fun _ => pure e) = .ok e) :
      e.Carried := by
    obtain ⟨d, hd, h⟩ := bind_eq_ok_iff.1 h
    obtain ⟨-, -, h⟩ := bind_eq_ok_iff.1 h
    cases h
    exact carried_of_dataDecoder hd
  unfold decoder at h
  split at h
  · obtain ⟨part, -, h⟩ := bind_eq_ok_iff.1 h
    split at h
    · cases h
    · obtain ⟨kind, -, h⟩ := bind_eq_ok_iff.1 h
      obtain ⟨part, -, h⟩ := bind_eq_ok_iff.1 h
      split at h
      · cases h
      · cases h
      · exact hdata h
    · split at h
      · obtain ⟨part, -, h⟩ := bind_eq_ok_iff.1 h
        split at h
        · cases h
        · cases h
        · obtain ⟨kind, -, h⟩ := bind_eq_ok_iff.1 h
          exact hdata h
      · cases h
  · obtain ⟨⟨name, items⟩, -, h⟩ := bind_eq_ok_iff.1 h
    obtain ⟨kind, -, h⟩ := bind_eq_ok_iff.1 h
    obtain ⟨⟨data, rest⟩, -, h⟩ := bind_eq_ok_iff.1 h
    exact hdata h
  · cases h

theorem plain_toJson (e : Event) : e.toJson.Plain := by
  refine Json.plain_ofMembers ?_
  simp [members, Json.plain_ofText, plain_dataJson]

end Event

namespace Config

theorem plain_toJson (c : Config) : c.toJson.Plain := by
  refine Json.plain_ofMembers ?_
  simp [Wire.word, Scheme.toJson, Json.plain_ofText, Json.plain_ofNat]

theorem decoder_toJson (c : Config) : decoder c.toJson = .ok c := by
  have hscheme : Scheme.decoder c.scheme.toJson = .ok c.scheme := by cases c.scheme <;> rfl
  have hreads := (Shape.reads_pure Config.mk)
    |>.field "chain_id" (Wire.word_word c.chain)
    |>.field "hashlock_scheme" hscheme
    |>.field "min_timelock_margin_secs" (Wire.word_word c.margin)
    |>.field "default_lock_duration_secs" (Wire.word_word c.duration)
    |>.field "event_channel_capacity" (Wire.word_word c.capacity)
  exact hreads.decoder (by decide) .text

end Config

theorem Secret.decoder_toJson (s : Secret) : decoder s.toJson = .ok s := by
  rw [decoder, toJson, Wire.scalar_readSecret_digits]
  rfl

namespace Wire

/-- The wire forms of terms, routes, parameters, records, notices, events, configurations and secrets
are normalized by reading them: the token at the zero address is all that they do not carry. So is the
envelope of an event, which has the standard and its version in front, and behind its mark a log line
is that envelope. -/
theorem forms_normalize :
    Terms.decoder.Normalizes Terms.toJson Terms.Carried ∧
    (Route.decoder (Json.depthLimit - 1)).Normalizes Route.toJson (fun _ => True) ∧
    Params.decoder.Normalizes Params.toJson Params.Carried ∧
    Record.decoder.Normalizes Record.toJson Record.Carried ∧
    (Notice.outboundShape.decoder .text).Normalizes Notice.outboundJson Notice.Carried ∧
    (Notice.inboundShape.decoder .text).Normalizes Notice.inboundJson Notice.Carried ∧
    Event.decoder.Normalizes Event.toJson Event.Carried ∧
    Event.decoder.Normalizes Event.toEnvelope Event.Carried ∧
    (∀ e : Event, e.toEnvelope = Json.ofMembers [
      ("standard", Json.ofText "obridge"), ("version", Json.ofText "1.0.0"),
      ("event", Json.ofText e.name), ("data", e.dataJson)]) ∧
    (∀ e : Event, ∃ body, e.logLine = "EVENT_JSON:" ++ body ∧ body = e.toEnvelope.print ∧
      (Event.decoder.read body = .ok e ↔ e.Carried)) ∧
    Config.decoder.Normalizes Config.toJson (fun _ => True) ∧
    Secret.decoder.Normalizes Secret.toJson (fun _ => True) := by
  have henvelope : Event.decoder.Normalizes Event.toEnvelope Event.Carried :=
    Decoder.normalizes_of_onWire Event.onWire Event.plain_toEnvelope Event.decoder_toEnvelope
      (fun _ => Event.onWire_eq_self_iff) fun _ _ => Event.carried_of_decoder
  refine ⟨?terms, ?route, ?params, ?record, ?outbound, ?inbound, ?event, henvelope, fun e => rfl,
    ?line, ?config, ?secret⟩
  case terms =>
    exact Decoder.normalizes_of_onWire Terms.onWire Terms.plain_toJson Terms.decoder_toJson
      (fun _ => Terms.onWire_eq_self_iff) fun _ _ => Terms.carried_of_decoder
  case route =>
    exact Decoder.normalizes_of_lossless Route.plain_toJson (Route.decoder_toJson (by decide))
  case params =>
    exact Decoder.normalizes_of_onWire Params.onWire Params.plain_toJson
      (Params.shape_decoder_toJson (by decide : 0 < Json.depthLimit - 2))
      (fun _ => Params.onWire_eq_self_iff) fun _ _ => Params.carried_of_shape_decoder
  case record =>
    exact Decoder.normalizes_of_onWire Record.onWire Record.plain_toJson Record.decoder_toJson
      (fun _ => Record.onWire_eq_self_iff) fun _ _ => Record.carried_of_decoder
  case outbound =>
    exact Decoder.normalizes_of_onWire Notice.onWire (fun n => (Event.outboundLocked n).plain_dataJson)
      (fun n => n.outboundShape_decoder .text) (fun _ => Notice.onWire_eq_self_iff)
      fun _ _ => Notice.carried_of_outboundShape
  case inbound =>
    exact Decoder.normalizes_of_onWire Notice.onWire (fun n => (Event.inboundLocked n).plain_dataJson)
      (fun n => n.inboundShape_decoder .text) (fun _ => Notice.onWire_eq_self_iff)
      fun _ _ => Notice.carried_of_inboundShape
  case event =>
    exact Decoder.normalizes_of_onWire Event.onWire Event.plain_toJson
      (fun e => e.decoder_members [] fun _ hm => absurd hm List.not_mem_nil)
      (fun _ => Event.onWire_eq_self_iff) fun _ _ => Event.carried_of_decoder
  case line =>
    intro e
    exact ⟨e.toEnvelope.print, rfl, rfl, henvelope.read_iff e⟩
  case config => exact Decoder.normalizes_of_lossless Config.plain_toJson Config.decoder_toJson
  case secret =>
    exact Decoder.normalizes_of_lossless (fun _ => Json.plain_ofText _) Secret.decoder_toJson

/-- The members of an event and of its data, of a route, of parameters and of a record may be written
in whatever order, with any number of strings and numbers under other names among them: what is
carried is read as it was. The name of the half may stand anywhere in a route, and the data of an
event ahead of its name. -/
theorem forms_rearrange :
    (∀ (e : Event) (j : Json), e.Carried → e.toJson.RearrangesTo j →
      Event.decoder.read j.print = .ok e) ∧
    (∀ (r : Route) (j : Json), r.toJson.RearrangesTo j →
      (Route.decoder (Json.depthLimit - 1)).read j.print = .ok r) ∧
    (∀ (p : Params) (j : Json), p.Carried → p.toJson.RearrangesTo j →
      Params.decoder.read j.print = .ok p) ∧
    (∀ (r : Record) (j : Json), r.Carried → r.toJson.RearrangesTo j →
      Record.decoder.read j.print = .ok r) := by
  refine ⟨?event, ?route, ?params, ?record⟩
  case event =>
    intro e j hcarried hj
    rw [Decoder.read_print _ (hj.plain e.plain_toJson), e.decoder_rearranged hj,
      Event.onWire_eq_self_iff.2 hcarried]
  case route =>
    intro r j hj
    rw [Decoder.read_print _ (hj.plain r.plain_toJson), r.decoder_rearranged (by decide) hj]
  case params =>
    intro p j hcarried hj
    have hread : Params.decoder j = .ok p.onWire :=
      p.shape_decoder_rearranged (by decide : 0 < Json.depthLimit - 2) hj
    rw [Decoder.read_print _ (hj.plain p.plain_toJson), hread, Params.onWire_eq_self_iff.2 hcarried]
  case record =>
    intro r j hcarried hj
    rw [Decoder.read_print _ (hj.plain r.plain_toJson), r.decoder_rearranged hj,
      Record.onWire_eq_self_iff.2 hcarried]

namespace Sample

def refundData : Json := Json.ofMembers [
  ("note", Json.ofText "late"), ("transfer_id", digits (Bytes.zero 32))]

/-- A refund with its data ahead of its name, and a number between them. -/
def refundDataFirst : Json := Json.ofMembers [
  ("data", refundData), ("block", word 7), ("event", Json.ofText "transfer_refunded")]

theorem rearrangesTo_refundDataFirst :
    (Event.refunded (Bytes.zero 32)).toJson.RearrangesTo refundDataFirst := by
  have hdata : (Event.refunded (Bytes.zero 32)).dataJson.RearrangesTo refundData := by
    refine ⟨_, _, ⟨_, _, rfl, rfl, rfl⟩, ⟨[("note", Json.ofText "late")], .swap _ _ [], ?_⟩, rfl⟩
    intro m hm
    rw [List.mem_singleton.1 hm]
    exact ⟨by decide, .text "late"⟩
  have hmembers : (Json.Members.ofList (Event.refunded (Bytes.zero 32)).members).RearrangesTo
      [("event", Json.ofText "transfer_refunded"), ("data", refundData)] :=
    ⟨_, _, rfl, ⟨_, _, hdata, rfl, rfl⟩, rfl⟩
  have hperm : ([("data", refundData), ("block", word 7)]
        ++ [("event", Json.ofText "transfer_refunded")]).Perm
      ([("event", Json.ofText "transfer_refunded")]
        ++ [("data", refundData), ("block", word 7)]) := List.perm_append_comm
  refine ⟨_, _, hmembers, ⟨[("block", word 7)], hperm, ?_⟩, rfl⟩
  intro m hm
  rw [List.mem_singleton.1 hm]
  exact ⟨by decide, .word 7⟩

def linkBackwards : Json := Json.ofMembers [
  ("note", Json.ofText "late"), ("src_transfer_id", byteArray (Bytes.zero 32)),
  ("src_chain_id", word 7), ("leg", leg .inbound)]

theorem rearrangesTo_linkBackwards :
    (Route.inbound ⟨7, Bytes.zero 32⟩).toJson.RearrangesTo linkBackwards := by
  refine ⟨_, _, ⟨_, _, rfl, ⟨_, _, rfl, ⟨_, _, rfl, rfl, rfl⟩, rfl⟩, rfl⟩,
    ⟨[("note", Json.ofText "late")], List.reverse_perm _, ?_⟩, rfl⟩
  intro m hm
  rw [List.mem_singleton.1 hm]
  exact ⟨by decide, .text "late"⟩

end Sample

/-- The data of a refund may come first, and the name of the half last in a route. -/
theorem forms_rearrange_dataFirst :
    (Event.refunded (Bytes.zero 32)).Carried ∧
      Event.decoder.read Sample.refundDataFirst.print = .ok (.refunded (Bytes.zero 32)) ∧
      (Route.decoder (Json.depthLimit - 1)).read Sample.linkBackwards.print
        = .ok (.inbound ⟨7, Bytes.zero 32⟩) := by
  obtain ⟨hevent, hroute, -, -⟩ := forms_rearrange
  exact ⟨trivial, hevent _ _ trivial Sample.rearrangesTo_refundDataFirst,
    hroute _ _ Sample.rearrangesTo_linkBackwards⟩

end Wire

end AtomicSwap
