import AtomicSwap.Node.Config
import AtomicSwap.Proofs.Environment

/-!
The configuration of a node from the variables of its process. What stands against the configuration
of a chain is reported before anything that stands against the node alone, and the two chains of a
node that is configured differ in their numbers and in nothing else.
-/

set_option autoImplicit false
set_option relaxedAutoImplicit false

namespace AtomicSwap.Node

theorem Scenario.ofText_cases (s : String) :
    (∃ scenario, ofText s = .ok scenario) ∨ ofText s = .error (.unknownScenario (normalize s)) := by
  unfold ofText
  dsimp only
  split
  · exact Or.inl ⟨_, rfl⟩
  · exact Or.inr rfl

namespace Config

section

variable {α : Type} (env : Environment)

def complaint (name : String) : Bool × ConfigFailure :=
  (env.isMalformed name Environment.readWord?, .invalidVariable name (env.raw name))

theorem readChain_bind (name : String) (standard : ChainId) (f : ChainId → Except ConfigFailure α) :
    (readChain env name standard >>= f)
      = if env.isMalformed name Environment.readWord? then
          .error (.invalidVariable name (env.raw name))
        else f (env.value name Environment.readWord? standard) := by
  unfold readChain
  rw [Environment.read_eq]
  split_ifs <;> rfl

def isUnknownScenario : Bool :=
  match env.text? "OBRIDGE_SCENARIO" with
  | none => false
  | some raw => (Scenario.ofText raw).toOption.isNone

/-- The scenario that is named, the standard one if there is none of the name. -/
def scenarioOf : Scenario :=
  ((env.text? "OBRIDGE_SCENARIO").bind fun raw => (Scenario.ofText raw).toOption).getD
    standard.scenario

theorem readScenario_bind (f : Scenario → Except ConfigFailure α) :
    (readScenario env >>= f)
      = if isUnknownScenario env then
          .error (.unknownScenario (Scenario.normalize (env.raw "OBRIDGE_SCENARIO")))
        else f (scenarioOf env) := by
  unfold readScenario isUnknownScenario scenarioOf Environment.raw
  cases env.text? "OBRIDGE_SCENARIO" with
  | none => rfl
  | some raw =>
    rcases Scenario.ofText_cases raw with ⟨scenario, hnamed⟩ | hunknown
    · simp [hnamed, Except.toOption, bind, Except.bind]
    · simp [hunknown, Except.toOption, bind, Except.bind]

/-- The configuration that the variables hold, if nothing stands against it. -/
def configured : Config where
  source := { env.configured with
    chain := env.value "OBRIDGE_SRC_CHAIN_ID" Environment.readWord? standard.source.chain }
  destination := { env.configured with
    chain := env.value "OBRIDGE_DST_CHAIN_ID" Environment.readWord? standard.destination.chain }
  scenario := scenarioOf env

/-- What stands against the configuration of a node that the variables hold. -/
def objections : Objections ConfigFailure :=
  Objections.mapError .chain env.objections ++
    [complaint env "OBRIDGE_SRC_CHAIN_ID",
      complaint env "OBRIDGE_DST_CHAIN_ID",
      (isUnknownScenario env,
        .unknownScenario (Scenario.normalize (env.raw "OBRIDGE_SCENARIO"))),
      ((configured env).source.chain = (configured env).destination.chain,
        .sameChain (configured env).source.chain)]

end

theorem validateChain_eq_ok_iff {c : AtomicSwap.Config} {u : Unit} :
    validateChain c = .ok u ↔ c.validate = .ok () := by
  unfold validateChain
  split
  · rename_i hvalid
    simp [hvalid]
  · rename_i e hfault
    simp [hfault]

theorem validate_eq_ok_iff {c : Config} :
    c.validate = .ok () ↔ c.source.chain ≠ c.destination.chain ∧ c.source.validate = .ok () ∧
      c.destination.validate = .ok () := by
  unfold validate
  simp only [bind_eq_ok_iff, require_eq_ok_iff, validateChain_eq_ok_iff, exists_const]

theorem validate_bind {c : Config} (hsource : c.source.validate = .ok ())
    (hdestination : c.destination.validate = .ok ()) :
    (c.validate >>= fun _ => pure c)
      = Objections.answer [(c.source.chain = c.destination.chain, .sameChain c.source.chain)] c := by
  rw [Objections.answer_cons]
  by_cases hsame : c.source.chain = c.destination.chain
  · unfold validate
    rw [bind_assoc, require_bind, if_neg (not_not.2 hsame), decide_eq_true hsame, if_pos rfl]
  · rw [validate_eq_ok_iff.2 ⟨hsame, hsource, hdestination⟩, decide_eq_false hsame,
      if_neg Bool.false_ne_true]
    rfl

theorem exists_of_ofEnvironment_eq_ok {env : Environment} {n : Config} (h : ofEnvironment env = .ok n) :
    ∃ (base : AtomicSwap.Config) (source destination : ChainId) (scenario : Scenario),
      n = ⟨{ base with chain := source }, { base with chain := destination }, scenario⟩ ∧
        n.validate = .ok () := by
  unfold ofEnvironment at h
  cases hbase : env.config with
  | error e =>
    rw [hbase] at h
    cases h
  | ok base =>
    rw [hbase] at h
    replace h : (readChain env _ _ >>= _) = .ok n := h
    simp only [bind_eq_ok_iff] at h
    obtain ⟨source, -, destination, -, scenario, -, ⟨⟩, hvalid, heq⟩ := h
    cases heq
    exact ⟨base, source, destination, scenario, rfl, hvalid⟩

theorem ofEnvironment_eq_answer (env : Environment) :
    ofEnvironment env = (objections env).answer (configured env) := by
  have hbase := env.config_eq_answer
  unfold ofEnvironment objections
  rw [Objections.answer_mapError_append]
  rw [Objections.answer] at hbase
  cases hfirst : env.objections.first? with
  | some e =>
    rw [hfirst] at hbase
    rw [hbase]
    rfl
  | none =>
    rw [hfirst] at hbase
    have hvalid : env.configured.validate = .ok () := (env.config_eq_ok_iff.1 hbase).2.2.2.2.2
    rw [hbase]
    show (readChain env _ _ >>= _) = _
    simp only [readChain_bind, readScenario_bind, complaint, Objections.answer_cons]
    rw [← Objections.answer_cons, ← validate_bind (c := configured env) hvalid hvalid]
    rfl

/-- The variables of a process and what is made of them. A variable has a text if its bytes encode
one. A chain is configured by what its five variables write without the blanks around them, and by
the standard values of those that have no text; the first text that cannot be read is reported as it
stands, and what is out of range only after that. The printed fields of a valid configuration are
read as that configuration from among any blanks. Before anything that stands against a node alone,
everything that stands against a chain is reported, and the chains of a node that is configured are
valid and differ in their numbers and in nothing else. -/
theorem environment_outcome (env : Environment) :
    (∀ name raw, env.text? name = some raw ↔ env.get? name = some (Text.encode raw.toList)) ∧
      (∀ c, env.config = .ok c ↔
        env.Gives "OBRIDGE_CHAIN_ID" Environment.readWord? AtomicSwap.Config.standard.chain
            c.chain ∧
          env.Gives "OBRIDGE_HASHLOCK_SCHEME" Environment.readScheme?
            AtomicSwap.Config.standard.scheme c.scheme ∧
          env.Gives "OBRIDGE_MIN_TIMELOCK_MARGIN_SECS" Environment.readWord?
            AtomicSwap.Config.standard.margin c.margin ∧
          env.Gives "OBRIDGE_LOCK_DURATION_SECS" Environment.readWord?
            AtomicSwap.Config.standard.duration c.duration ∧
          env.Gives "OBRIDGE_EVENT_CAPACITY" Environment.readWord?
            AtomicSwap.Config.standard.capacity c.capacity ∧
          c.validate = .ok ()) ∧
      env.config = env.objections.answer env.configured ∧
      (∀ (c : AtomicSwap.Config) (before after : String → List Char), 0 < c.duration →
        0 < c.capacity → (∀ name, ∀ ch ∈ before name, Text.isBlank ch = true) →
        (∀ name, ∀ ch ∈ after name, Text.isBlank ch = true) →
        (env.setConfig c before after).config = .ok c) ∧
      ofEnvironment env = (objections env).answer (configured env) ∧
      (∀ e, env.config = .error e → ofEnvironment env = .error (.chain e)) ∧
      ∀ n, ofEnvironment env = .ok n →
        n.source.scheme = n.destination.scheme ∧ n.source.margin = n.destination.margin ∧
          n.source.duration = n.destination.duration ∧
          n.source.capacity = n.destination.capacity ∧
          n.source.chain ≠ n.destination.chain ∧ n.source.validate = .ok () ∧
          n.destination.validate = .ok () := by
  refine ⟨fun name raw => env.text?_eq_some_iff, fun c => env.config_eq_ok_iff, env.config_eq_answer,
    ?_, ofEnvironment_eq_answer env, ?_, ?_⟩
  · intro c before after hduration hcapacity hbefore hafter
    have hvalid := AtomicSwap.Config.validate_eq_ok_iff.2 ⟨hcapacity, hduration⟩
    exact env.config_setConfig hvalid hbefore hafter
  · intro e h
    unfold ofEnvironment
    rw [h]
    rfl
  · intro n h
    obtain ⟨base, source, destination, scenario, rfl, hvalid⟩ := exists_of_ofEnvironment_eq_ok h
    exact ⟨rfl, rfl, rfl, rfl, validate_eq_ok_iff.1 hvalid⟩

/-- A configuration that is not the standard one is read from between a tab and three blanks. -/
theorem environment_outcome_padded :
    (Environment.setConfig Table.empty { AtomicSwap.Config.forChain 7 with scheme := .sha3 }
        (fun _ => ['\t']) (fun _ => List.replicate 3 ' ')).config
      = .ok { AtomicSwap.Config.forChain 7 with scheme := .sha3 } := by
  obtain ⟨-, -, -, hpadded, -⟩ := environment_outcome Table.empty
  apply hpadded
  · decide
  · decide
  · intro name ch hch
    rw [List.mem_singleton.1 hch]
    rfl
  · intro name ch hch
    rw [List.eq_of_mem_replicate hch]
    rfl

end Config

end AtomicSwap.Node
