import AtomicSwap.Proofs.Json.Rearrangement
import AtomicSwap.Proofs.Wire.Scalar
import Mathlib.Data.List.Permutation

/-!
Announcements read back, whatever the order of their members and whatever simple ones stand among
them. All of an announcement is read as it was written, but for an asset that is the token at the zero
address: it is read as the native coin.
-/

set_option autoImplicit false
set_option relaxedAutoImplicit false

namespace AtomicSwap

namespace Json

theorem Simple.isSound {j : Json} (h : j.Simple) (room : Nat) : j.isSound room = true := by
  cases h with
  | text s => rfl
  | word n => exact Wire.isSound_word room n

theorem isSound_ofMembers {room : Nat} (hroom : 0 < room) {ms : List (String × Json)}
    (h : ∀ m ∈ ms, m.2.isSound (room - 1) = true) : (ofMembers ms).isSound room = true := by
  have hmembers : (Members.ofList ms).isSound (room - 1) = true := by
    induction ms with
    | nil => rfl
    | cons m ms ih =>
      rw [Members.ofList, Members.isSound, h m List.mem_cons_self,
        ih fun n hn => h n (List.mem_cons_of_mem m hn)]
      rfl
  show (decide (0 < room) && (Members.ofList ms).isSound (room - 1)) = true
  rw [hmembers, decide_eq_true hroom]
  rfl

end Json

/-- The asset that is read where an asset was written. -/
def Asset.onWire (a : Asset) : Asset := .ofAddress a.address

theorem Asset.onWire_eq_self_iff {a : Asset} : a.onWire = a ↔ a ≠ .token (Bytes.zero 20) := by
  cases a with
  | native => simp [onWire, address, ofAddress]
  | token contract =>
    by_cases h : contract = Bytes.zero 20
    · simp [onWire, address, ofAddress, h]
    · simp [onWire, address, ofAddress, h]

def Terms.onWire (t : Terms) : Terms := { t with asset := t.asset.onWire }

def Params.onWire (p : Params) : Params := { p with terms := p.terms.onWire }

theorem Params.onWire_eq_self_iff {p : Params} :
    p.onWire = p ↔ p.terms.asset ≠ .token (Bytes.zero 20) := by
  rw [← Asset.onWire_eq_self_iff]
  constructor
  · intro h
    exact congrArg (fun q => q.terms.asset) h
  · intro h
    rw [onWire, Terms.onWire, h]

def Notice.onWire {ρ : Type} (n : Notice ρ) : Notice ρ := { n with terms := n.terms.onWire }

namespace Event

theorem exists_dataMembers (e : Event) :
    ∃ own, e.dataJson = Json.ofMembers own ∧ ∀ m ∈ own, m.2.Simple := by
  cases e with
  | outboundLocked n =>
    refine ⟨_, rfl, ?_⟩
    simp [Wire.digits, Wire.address, Wire.asset, Wire.decimal, Wire.word, Json.Simple.text,
      Json.Simple.word]
  | inboundLocked n =>
    refine ⟨_, rfl, ?_⟩
    simp [Wire.digits, Wire.address, Wire.asset, Wire.decimal, Wire.word, Json.Simple.text,
      Json.Simple.word]
  | confirmed id preimage =>
    refine ⟨_, rfl, ?_⟩
    simp [Wire.digits, Json.Simple.text]
  | refunded id =>
    refine ⟨_, rfl, ?_⟩
    simp [Wire.digits, Json.Simple.text]

theorem plain_dataJson (e : Event) : e.dataJson.Plain := by
  obtain ⟨own, hown, hsimple⟩ := e.exists_dataMembers
  rw [hown]
  exact Json.plain_ofMembers fun m hm => (hsimple m hm).plain

theorem isSound_rearranged (e : Event) {j : Json} (h : e.dataJson.RearrangesTo j) {room : Nat}
    (hroom : 0 < room) : j.isSound room = true := by
  obtain ⟨own, hown, hsimple⟩ := e.exists_dataMembers
  rw [hown] at h
  obtain ⟨ms, hamong, rfl⟩ := h.exists_among fun m hm => (hsimple m hm).rigid
  refine Json.isSound_ofMembers hroom (hamong.forall ?_ fun i hi => hi.isSound _)
  intro m hm
  exact (hsimple m hm).isSound _

end Event

namespace Notice

theorem outboundShape_rearranged (n : Notice Request) (source : Source) {j : Json}
    (h : n.outboundJson.RearrangesTo j) : outboundShape.decoder source j = .ok n.onWire := by
  have hreads := (Shape.reads_pure fun id sender receiver asset amount native hashlock timelock
      chain payee bid wanted least =>
        Notice.mk id ⟨sender, receiver, asset, amount, native, hashlock, timelock⟩
          (Request.mk chain payee bid wanted least))
    |>.field "transfer_id" (Wire.digitsDecoder_digits n.id)
    |>.field "sender" (Wire.addressDecoder_address n.terms.sender)
    |>.field "receiver" (Wire.addressDecoder_address n.terms.receiver)
    |>.field "token" (Wire.assetDecoder_asset n.terms.asset)
    |>.field "amount" (Wire.decimalDecoder_decimal n.terms.amount)
    |>.field "native_amount" (Wire.decimalDecoder_decimal n.terms.nativeAmount)
    |>.field "hashlock" (Wire.digitsDecoder_digits n.terms.hashlock)
    |>.field "timelock" (Wire.word_word n.terms.timelock)
    |>.field "dst_chain_id" (Wire.word_word n.route.chain)
    |>.field "dst_address" (Wire.addressDecoder_address n.route.receiver)
    |>.field "bid_id" (Wire.word_word n.route.bid)
    |>.field "token_dst" (Wire.addressDecoder_address n.route.asset)
    |>.field "amount_dst" (Wire.decimalDecoder_decimal n.route.amount)
  refine hreads.decoder_rearranged (by decide) ?_ source h
  simp [Wire.digits, Wire.address, Wire.asset, Wire.decimal, Wire.word, Json.rigid_ofText,
    Json.rigid_ofNat]

theorem inboundShape_rearranged (n : Notice Link) (source : Source) {j : Json}
    (h : n.inboundJson.RearrangesTo j) : inboundShape.decoder source j = .ok n.onWire := by
  have hreads := (Shape.reads_pure fun id sender receiver asset amount native hashlock timelock
      chain transfer =>
        Notice.mk id ⟨sender, receiver, asset, amount, native, hashlock, timelock⟩
          (Link.mk chain transfer))
    |>.field "transfer_id" (Wire.digitsDecoder_digits n.id)
    |>.field "sender" (Wire.addressDecoder_address n.terms.sender)
    |>.field "receiver" (Wire.addressDecoder_address n.terms.receiver)
    |>.field "token" (Wire.assetDecoder_asset n.terms.asset)
    |>.field "token_amount" (Wire.decimalDecoder_decimal n.terms.amount)
    |>.field "native_amount" (Wire.decimalDecoder_decimal n.terms.nativeAmount)
    |>.field "hashlock" (Wire.digitsDecoder_digits n.terms.hashlock)
    |>.field "timelock" (Wire.word_word n.terms.timelock)
    |>.field "src_chain_id" (Wire.word_word n.route.chain)
    |>.field "src_transfer_id" (Wire.digitsDecoder_digits n.route.transfer)
  refine hreads.decoder_rearranged (by decide) ?_ source h
  simp [Wire.digits, Wire.address, Wire.asset, Wire.decimal, Wire.word, Json.rigid_ofText,
    Json.rigid_ofNat]

theorem outboundShape_decoder (n : Notice Request) (source : Source) :
    outboundShape.decoder source n.outboundJson = .ok n.onWire :=
  n.outboundShape_rearranged source (Event.outboundLocked n).plain_dataJson.rearrangesTo_self

theorem inboundShape_decoder (n : Notice Link) (source : Source) :
    inboundShape.decoder source n.inboundJson = .ok n.onWire :=
  n.inboundShape_rearranged source (Event.inboundLocked n).plain_dataJson.rearrangesTo_self

end Notice

namespace Event

theorem confirmedShape_rearranged (id : TransferId) (preimage : Preimage) (source : Source) {j : Json}
    (h : (confirmed id preimage).dataJson.RearrangesTo j) :
    confirmedShape.decoder source j = .ok (confirmed id preimage) := by
  have hreads := (Shape.reads_pure Event.confirmed)
    |>.field "transfer_id" (Wire.digitsDecoder_digits id)
    |>.field "preimage" (Wire.digitsDecoder_digits preimage)
  refine hreads.decoder_rearranged (by decide) ?_ source h
  simp [Wire.digits, Json.rigid_ofText]

theorem refundedShape_rearranged (id : TransferId) (source : Source) {j : Json}
    (h : (refunded id).dataJson.RearrangesTo j) :
    refundedShape.decoder source j = .ok (refunded id) := by
  have hreads := (Shape.reads_pure Event.refunded)
    |>.field "transfer_id" (Wire.digitsDecoder_digits id)
  refine hreads.decoder_rearranged (by decide) ?_ source h
  simp [Wire.digits, Json.rigid_ofText]

def onWire : Event → Event
  | outboundLocked n => outboundLocked n.onWire
  | inboundLocked n => inboundLocked n.onWire
  | confirmed id preimage => confirmed id preimage
  | refunded id => refunded id

theorem name_onWire (e : Event) : e.onWire.name = e.name := by cases e <;> rfl

theorem transferId_onWire (e : Event) : e.onWire.transferId = e.transferId := by cases e <;> rfl

theorem params?_onWire (e : Event) : e.onWire.params? = e.params?.map Params.onWire := by
  cases e <;> rfl

def kind : Event → Kind
  | outboundLocked _ => .outboundLocked
  | inboundLocked _ => .inboundLocked
  | confirmed _ _ => .confirmed
  | refunded _ => .refunded

theorem kindDecoder_name (e : Event) : kindDecoder (Json.ofText e.name) = .ok e.kind := by
  cases e <;> rfl

/-- The data of an event is read back however it is rearranged, and whether straight from a text or
from what was kept of it. -/
theorem dataDecoder_rearranged (source : Source) (e : Event) {j : Json}
    (h : e.dataJson.RearrangesTo j) : dataDecoder source e.kind j = .ok e.onWire := by
  cases e with
  | outboundLocked n =>
    show outboundLocked <$> Notice.outboundShape.decoder source j = _
    rw [n.outboundShape_rearranged source h]
    rfl
  | inboundLocked n =>
    show inboundLocked <$> Notice.inboundShape.decoder source j = _
    rw [n.inboundShape_rearranged source h]
    rfl
  | confirmed id preimage => exact confirmedShape_rearranged id preimage source h
  | refunded id => exact refundedShape_rearranged id source h

/-- Whether a member is one of the two that an event is made of. -/
def isPart (m : String × Json) : Bool := m.1 = "event" ∨ m.1 = "data"

/-- Which of the two a name means, if it means one. -/
def partOf (name : String) : Part := if name = "event" then .name else .data

theorem nextPart_append {others : List (String × Json)}
    (h : ∀ m ∈ others, isPart m = false ∧ m.2.isWhole = true) (ms : List (String × Json)) :
    nextPart (.ofList (others ++ ms)) = nextPart (.ofList ms) := by
  induction others with
  | nil => rfl
  | cons m others ih =>
    obtain ⟨hother, hwhole⟩ := h m List.mem_cons_self
    simp only [isPart, decide_eq_false_iff_not, not_or] at hother
    rw [List.cons_append, Json.Members.ofList, nextPart, if_neg hother.1, if_neg hother.2, if_pos hwhole]
    exact ih fun n hn => h n (List.mem_cons_of_mem m hn)

variable {ms : List (String × Json)}

theorem nextPart_eq_none (hwhole : ∀ m ∈ ms, isPart m = false → m.2.isWhole = true)
    (h : ms.filter isPart = []) : nextPart (.ofList ms) = .ok none := by
  have hothers : ∀ m ∈ ms, isPart m = false ∧ m.2.isWhole = true := by
    intro m hm
    have hother : isPart m = false := by simpa using List.filter_eq_nil_iff.1 h m hm
    exact ⟨hother, hwhole m hm hother⟩
  have hnone := nextPart_append hothers []
  rwa [List.append_nil] at hnone

theorem exists_nextPart (hwhole : ∀ m ∈ ms, isPart m = false → m.2.isWhole = true)
    {m : String × Json} {rest : List (String × Json)} (h : ms.filter isPart = m :: rest) :
    ∃ tail, nextPart (.ofList ms) = .ok (some (partOf m.1, m.2, .ofList tail)) ∧
      tail.filter isPart = rest ∧ ∀ n ∈ tail, isPart n = false → n.2.isWhole = true := by
  obtain ⟨others, tail, rfl, hothers, hm, hrest⟩ := List.filter_eq_cons_iff.1 h
  refine ⟨tail, ?_, hrest, ?_⟩
  · rw [nextPart_append, Json.Members.ofList, nextPart]
    · simp only [isPart, decide_eq_true_eq] at hm
      unfold partOf
      by_cases hevent : m.1 = "event"
      · rw [if_pos hevent, if_pos hevent]
      · rw [if_neg hevent, if_neg hevent, if_pos (hm.resolve_left hevent)]
    · intro n hn
      have hother : isPart n = false := by simpa using hothers n hn
      exact ⟨hother, hwhole n (List.mem_append_left _ hn) hother⟩
  · intro n hn
    exact hwhole n (List.mem_append_right _ (List.mem_cons_of_mem m hn))

theorem finish_eq_ok (hwhole : ∀ m ∈ ms, isPart m = false → m.2.isWhole = true)
    (h : ms.filter isPart = []) : finish (.ofList ms) = .ok () := by
  rw [finish, nextPart_eq_none hwhole h]
  rfl

/-- An event is read out of its name and its data, whichever comes first, among whole members of other
names. -/
theorem decoder_perm (e : Event) {data : Json}
    (hdata : ∀ source, dataDecoder source e.kind data = .ok e.onWire)
    (hsound : data.isSound (Json.depthLimit - 1) = true) {extras : List (String × Json)}
    (hperm : ms.Perm ([("event", Json.ofText e.name), ("data", data)] ++ extras))
    (hextras : ∀ m ∈ extras, isPart m = false ∧ m.2.isWhole = true) :
    decoder (Json.ofMembers ms) = .ok e.onWire := by
  have hwhole : ∀ m ∈ ms, isPart m = false → m.2.isWhole = true := by
    intro m hm hother
    rcases List.mem_append.1 (hperm.mem_iff.1 hm) with hm | hm
    · simp only [List.mem_cons, List.not_mem_nil, or_false] at hm
      rcases hm with rfl | rfl <;> cases hother
    · exact (hextras m hm).2
  have hparts : (ms.filter isPart).Perm [("event", Json.ofText e.name), ("data", data)] := by
    have hnone : extras.filter isPart = [] := by
      rw [List.filter_eq_nil_iff]
      intro m hm
      simp [(hextras m hm).1]
    have hfilter := hperm.filter isPart
    rw [List.filter_append, hnone, List.append_nil] at hfilter
    exact hfilter
  show decoder (.object (.ofList ms)) = _
  rcases List.perm_pair.1 hparts with hparts | hparts
  · obtain ⟨tail, hfirst, hparts, hwhole⟩ := exists_nextPart hwhole hparts
    obtain ⟨tail', hsecond, hparts, hwhole⟩ := exists_nextPart hwhole hparts
    rw [decoder, hfirst]
    show (kindDecoder (Json.ofText e.name) >>= _) = _
    rw [kindDecoder_name]
    show (nextPart (.ofList tail) >>= _) = _
    rw [hsecond]
    show (dataDecoder .text e.kind data >>= fun e => finish (.ofList tail') >>= fun _ => pure e) = _
    rw [hdata, finish_eq_ok hwhole hparts]
    rfl
  · obtain ⟨tail, hfirst, hparts, hwhole⟩ := exists_nextPart hwhole hparts
    obtain ⟨tail', hsecond, hparts, hwhole⟩ := exists_nextPart hwhole hparts
    rw [decoder, hfirst]
    show (if data.isSound (Json.depthLimit - 1) = true then nextPart (.ofList tail) >>= _ else _) = _
    rw [if_pos hsound, hsecond]
    show (kindDecoder (Json.ofText e.name) >>= _) = _
    rw [kindDecoder_name]
    show (dataDecoder .kept e.kind data >>= fun e => finish (.ofList tail') >>= fun _ => pure e) = _
    rw [hdata, finish_eq_ok hwhole hparts]
    rfl

theorem decoder_rearranged (e : Event) {j : Json} (h : e.toJson.RearrangesTo j) :
    decoder j = .ok e.onWire := by
  obtain ⟨own, ms, ⟨name, rest, hname, ⟨data, rest', hdata, hrest, rfl⟩, rfl⟩, hamong, rfl⟩ := h
  obtain ⟨extras, hperm, hextras⟩ := hamong
  cases hname
  cases hrest
  refine e.decoder_perm (fun source => e.dataDecoder_rearranged source hdata)
    (e.isSound_rearranged hdata (by decide)) hperm ?_
  intro m hm
  obtain ⟨hother, hsimple⟩ := hextras m hm
  refine ⟨?_, hsimple.isWhole⟩
  simpa [isPart] using hother

theorem decoder_members (e : Event) (ms : List (String × Json))
    (hms : ∀ m ∈ ms, m.1 ≠ "event" ∧ m.1 ≠ "data" ∧ m.2.isWhole = true) :
    decoder (Json.ofMembers (ms ++ e.members)) = .ok e.onWire := by
  have hself : e.dataJson.RearrangesTo e.dataJson := e.plain_dataJson.rearrangesTo_self
  refine e.decoder_perm (fun source => e.dataDecoder_rearranged source hself)
    (e.isSound_rearranged hself (by decide)) List.perm_append_comm ?_
  intro m hm
  obtain ⟨hevent, hdata, hwhole⟩ := hms m hm
  exact ⟨by simp [isPart, hevent, hdata], hwhole⟩

theorem plain_toEnvelope (e : Event) : e.toEnvelope.Plain := by
  refine Json.plain_ofMembers ?_
  simp [members, Json.plain_ofText, plain_dataJson]

theorem decoder_toEnvelope (e : Event) : decoder e.toEnvelope = .ok e.onWire := by
  have hahead : ∀ m ∈ [("standard", Json.ofText "obridge"), ("version", Json.ofText "1.0.0")],
      m.1 ≠ "event" ∧ m.1 ≠ "data" ∧ m.2.isWhole = true := by
    intro m hm
    simp only [List.mem_cons, List.not_mem_nil, or_false] at hm
    rcases hm with rfl | rfl
    · exact ⟨by decide, by decide, rfl⟩
    · exact ⟨by decide, by decide, rfl⟩
  exact e.decoder_members _ hahead

/-- What a log line carries behind its mark is read as the event, but for a token at the zero
address. -/
theorem read_toEnvelope (e : Event) : decoder.read e.toEnvelope.print = .ok e.onWire := by
  rw [Decoder.read_print decoder e.plain_toEnvelope]
  exact e.decoder_toEnvelope

end Event

end AtomicSwap
