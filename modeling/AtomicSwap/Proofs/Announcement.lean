import AtomicSwap.Proofs.Solvency
import AtomicSwap.Proofs.Stream
import AtomicSwap.Proofs.Wire.Event

/-!
What an observer makes of the log line of a new transfer. It finds the parameters of the record, and
with them the record, unless the asset is the token at the zero address: then it finds those of
another transfer, which moves the native coin.
-/

set_option autoImplicit false
set_option relaxedAutoImplicit false

namespace AtomicSwap

/-- The parameters that an observer reads are those of the record just when its asset is not the
token at the zero address, and they lead back to the record then. In place of that token the
observer reads the native coin. -/
theorem Origin.announcement_rebuilds (o : Origin) (ts : List Turn) {e : Event} {params : Params}
    (hmem : e ∈ (o.chain.play ts).feed.stream) (hparams : e.params? = some params) :
    ∃ r body read params',
      (o.chain.play ts).get? r.id = some r ∧ e = .ofRecord r ∧
      e.logLine = Event.logMark ++ body ∧ Event.decoder.read body = .ok read ∧
      read.name = e.name ∧ read.transferId = r.id ∧ read.params? = some params' ∧
      (params' = r.params ↔ r.terms.asset ≠ .token (Bytes.zero 20)) ∧
      (r.terms.asset ≠ .token (Bytes.zero 20) →
        params'.id = r.id ∧ (o.chain.play ts).get? params'.id = some r) ∧
      (r.terms.asset = .token (Bytes.zero 20) →
        params' = { r.params with terms := { r.terms with asset := .native } }) := by
  obtain ⟨r, hget, rfl⟩ := o.announced_play ts e params hmem hparams
  obtain ⟨-, hid⟩ := o.identified_play ts r.id r hget
  have hread := (Event.ofRecord r).read_toEnvelope
  have htransfer : (Event.ofRecord r).onWire.transferId = r.id := by
    rw [Event.transferId_onWire, Event.transferId_ofRecord]
  have hrebuilt : (Event.ofRecord r).onWire.params? = some r.params.onWire := by
    rw [Event.params?_onWire, Event.params?_ofRecord, Option.map_some]
  refine ⟨r, (Event.ofRecord r).toEnvelope.print, (Event.ofRecord r).onWire, r.params.onWire, hget,
    rfl, rfl, hread, Event.name_onWire _, htransfer, hrebuilt, Params.onWire_eq_self_iff, ?_, ?_⟩
  · intro hasset
    have hsame := Params.onWire_eq_self_iff.2 hasset
    rw [hsame, ← hid]
    exact ⟨rfl, hget⟩
  · intro hasset
    have hterms : r.params.terms.asset = .token (Bytes.zero 20) := hasset
    rw [Params.onWire, Terms.onWire, hterms]
    rfl

namespace Sample

def notice (params : Params) : Event := .ofRecord (Record.locked params.id params 10)

theorem params?_notice (params : Params) : (notice params).params? = some params :=
  Event.params?_ofRecord _

theorem stream_after_opening :
    (source.chain.play (opening.map .act)).feed.stream = [notice outbound] := by
  rw [Chain.play_map_act]
  rfl

/-- The outbound half with tokens of the zero address in place of the others. -/
def nullified : Params where
  terms := { outbound.terms with asset := .token (Bytes.zero 20) }
  route := outbound.route

/-- The user gets tokens of the zero address and locks them. -/
def nullifying : List Action :=
  [.mint .native user (Amount.clamp 10), .mint (.token (Bytes.zero 20)) user (Amount.clamp 50),
    .approve (Bytes.zero 20) user (Amount.clamp 30), .lock nullified (Amount.clamp 7)]

theorem stream_after_nullifying :
    (source.chain.play (nullifying.map .act)).feed.stream = [notice nullified] := by
  rw [Chain.play_map_act]
  rfl

theorem registry_after_nullifying :
    (source.chain.play (nullifying.map .act)).registry
      = Table.empty.set nullified.id (Record.locked nullified.id nullified 10) := by
  rw [Chain.play_map_act]
  rfl

end Sample

theorem Origin.announcement_rebuilds_opening :
    Sample.notice Sample.outbound
        ∈ (Sample.source.chain.play (Sample.opening.map .act)).feed.stream ∧
      (Sample.notice Sample.outbound).params? = some Sample.outbound ∧
      ∃ body read,
        (Sample.notice Sample.outbound).logLine = Event.logMark ++ body ∧
        Event.decoder.read body = .ok read ∧ read.params? = some Sample.outbound := by
  have hmem : Sample.notice Sample.outbound
      ∈ (Sample.source.chain.play (Sample.opening.map .act)).feed.stream := by
    rw [Sample.stream_after_opening]
    exact List.mem_cons_self
  have hparams := Sample.params?_notice Sample.outbound
  obtain ⟨r, body, read, params', -, hr, hline, hread, -, -, hparams', hsame, -, -⟩ :=
    Sample.source.announcement_rebuilds (Sample.opening.map .act) hmem hparams
  have hrecord : r.params = Sample.outbound := by
    have hsome := Event.params?_ofRecord r
    rw [← hr, hparams] at hsome
    exact (Option.some.inj hsome).symm
  have hasset : r.terms.asset ≠ .token (Bytes.zero 20) := by
    rw [Record.terms, hrecord]
    decide
  refine ⟨hmem, hparams, body, read, hline, hread, ?_⟩
  rw [hparams', hsame.2 hasset, hrecord]

/-- Tokens of the zero address can be locked, but an observer of that transfer reads the parameters
of another one, which the chain does not know. -/
theorem Origin.announcement_misreads_zero_token :
    Sample.notice Sample.nullified
        ∈ (Sample.source.chain.play (Sample.nullifying.map .act)).feed.stream ∧
      ∃ body read params',
        (Sample.notice Sample.nullified).logLine = Event.logMark ++ body ∧
        Event.decoder.read body = .ok read ∧ read.transferId = Sample.nullified.id ∧
        read.params? = some params' ∧ params' ≠ Sample.nullified ∧
        params'.id ≠ Sample.nullified.id ∧
        (Sample.source.chain.play (Sample.nullifying.map .act)).get? params'.id = none := by
  have hmem : Sample.notice Sample.nullified
      ∈ (Sample.source.chain.play (Sample.nullifying.map .act)).feed.stream := by
    rw [Sample.stream_after_nullifying]
    exact List.mem_cons_self
  -- The tag of the asset goes into the digest, so that the native coin gives another identifier.
  have hid : Sample.nullified.onWire.id ≠ Sample.nullified.id := by decide +kernel
  have hget : (Sample.source.chain.play (Sample.nullifying.map .act)).get? Sample.nullified.onWire.id
      = none := by
    rw [Chain.get?, Sample.registry_after_nullifying, Table.get?_set, if_neg hid.symm]
    rfl
  refine ⟨hmem, _, _, Sample.nullified.onWire, rfl, Event.read_toEnvelope _, ?_, ?_, ?_, hid, hget⟩
  · rw [Event.transferId_onWire, Sample.notice, Event.transferId_ofRecord]
    rfl
  · rw [Event.params?_onWire, Sample.params?_notice, Option.map_some]
  · decide

end AtomicSwap
