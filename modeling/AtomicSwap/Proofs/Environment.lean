import AtomicSwap.Environment
import AtomicSwap.Proofs.Digits
import AtomicSwap.Proofs.Objections
import Mathlib.Data.List.Induction
import Mathlib.Data.List.TakeWhile
import Mathlib.Tactic.SplitIfs

/-!
What is made of the variables of a process. The texts that cannot be read are objections, in the
order of the variables, and what is out of range comes after them all. The printed fields of a
configuration are read as that configuration, whatever blanks stand around them.
-/

set_option autoImplicit false
set_option relaxedAutoImplicit false

namespace AtomicSwap

namespace Text

theorem decode?_eq_some_iff {bs : List UInt8} {s : String} :
    decode? bs = some s ↔ encode s.toList = bs := by
  have hbytes : s.toByteArray = (encode s.toList).toByteArray := String.utf8Encode_toList.symm
  have harray : (⟨bs.toArray⟩ : ByteArray) = bs.toByteArray :=
    ByteArray.ext List.data_toByteArray.symm
  rw [decode?, harray, String.fromUTF8?]
  constructor
  · intro h
    split at h
    · rename_i hvalid
      have hsame : s.toByteArray = bs.toByteArray := congrArg String.toByteArray (Option.some.inj h).symm
      have hdata := congrArg ByteArray.data (hbytes.symm.trans hsame)
      rw [List.data_toByteArray, List.data_toByteArray] at hdata
      exact congrArg Array.toList hdata
    · cases h
  · rintro rfl
    rw [← hbytes, dif_pos s.isValidUTF8]
    rfl

theorem trimChars_append {before cs after : List Char} (hbefore : ∀ c ∈ before, isBlank c = true)
    (hcs : ∀ c ∈ cs, isBlank c = false) (hafter : ∀ c ∈ after, isBlank c = true) :
    trimChars (before ++ cs ++ after) = cs := by
  have hhead : (before ++ cs ++ after).dropWhile isBlank
      = cs ++ if cs = [] then [] else after := by
    rw [List.append_assoc, List.dropWhile_append_of_pos hbefore]
    cases cs with
    | nil => exact List.dropWhile_eq_nil_iff.2 hafter
    | cons c cs => exact List.dropWhile_cons_of_neg (by simp [hcs c List.mem_cons_self])
  have hrest : ∀ c ∈ (if cs = [] then [] else after).reverse, isBlank c = true := by
    intro c hc
    split_ifs at hc
    · cases hc
    · exact hafter c (List.mem_reverse.1 hc)
  have hlast : cs.reverse.dropWhile isBlank = cs.reverse := by
    rw [List.dropWhile_eq_self_iff]
    intro hpos
    rw [hcs _ (List.mem_reverse.1 (List.getElem_mem hpos))]
    exact Bool.false_ne_true
  rw [trimChars, hhead, List.reverse_append, List.dropWhile_append_of_pos hrest, hlast,
    List.reverse_reverse]

end Text

namespace Environment

variable (env : Environment)

theorem text?_eq_some_iff {name raw : String} :
    env.text? name = some raw ↔ env.get? name = some (Text.encode raw.toList) := by
  unfold text?
  cases env.get? name with
  | none => simp
  | some bs => rw [Option.bind_some, Text.decode?_eq_some_iff, Option.some.injEq, eq_comm]

/-- A number is written with digits, one at least, and there may be a plus ahead of them. -/
theorem readWord?_eq_some_iff {s : String} {n : UInt64} :
    readWord? s = some n ↔ ∃ ds, (s.toList = ds ∨ s.toList = '+' :: ds) ∧ ds ≠ [] ∧
      (∀ c ∈ ds, Decimal.isDigit c = true) ∧ Decimal.value ds = n.toNat := by
  have hread (ds : List Char) :
      (if ds.isEmpty then none
        else (Decimal.value? ds).bind fun m => if m < 2 ^ 64 then some (UInt64.ofNat m) else none)
        = some n ↔
      ds ≠ [] ∧ (∀ c ∈ ds, Decimal.isDigit c = true) ∧ Decimal.value ds = n.toNat := by
    rw [← Decimal.value?_eq_some_iff]
    cases ds with
    | nil => simp
    | cons c cs =>
      simp only [List.isEmpty_cons, Bool.false_eq_true, if_false, ne_eq, reduceCtorEq,
        not_false_eq_true, true_and]
      constructor
      · intro h
        obtain ⟨m, hm, hsmall⟩ := Option.bind_eq_some_iff.1 h
        split_ifs at hsmall with hlt
        rw [hm, ← Option.some.inj hsmall, UInt64.toNat_ofNat', Nat.mod_eq_of_lt hlt]
      · intro h
        rw [h, Option.bind_some, if_pos n.toNat_lt, UInt64.ofNat_toNat]
  unfold readWord?
  dsimp only
  rw [hread]
  split
  · rename_i cs hs
    constructor
    · intro h
      exact ⟨cs, Or.inr hs, h⟩
    · rintro ⟨ds, hds | hds, hne, hdigits, hvalue⟩
      · -- A plus is no digit.
        rw [hs] at hds
        subst hds
        cases hdigits '+' List.mem_cons_self
      · rw [hs] at hds
        obtain ⟨-, rfl⟩ := List.cons.inj hds
        exact ⟨hne, hdigits, hvalue⟩
  · rename_i hplain
    constructor
    · intro h
      exact ⟨s.toList, Or.inl rfl, h⟩
    · rintro ⟨ds, hds | hds, h⟩
      · rwa [hds]
      · exact absurd hds (hplain ds)

theorem readWord?_decimalText (n : UInt64) : readWord? (decimalText n) = some n := by
  obtain ⟨hdigits, hvalue⟩ := Decimal.value?_eq_some_iff.1 (Decimal.value?_digits n.toNat)
  rw [readWord?_eq_some_iff, decimalText, Decimal.text, String.toList_ofList]
  exact ⟨_, Or.inl rfl, Decimal.digits_ne_nil _, hdigits, hvalue⟩

theorem readScheme?_name (scheme : Scheme) : readScheme? scheme.name = some scheme := by
  cases scheme <;> rfl

def raw (name : String) : String := (env.text? name).getD ""

def isMalformed {α : Type} (name : String) (parse? : String → Option α) : Bool :=
  match env.text? name with
  | none => false
  | some raw => (parse? (Text.trim raw)).isNone

/-- What a variable holds, `standard` if it has no text that can be read. -/
def value {α : Type} (name : String) (parse? : String → Option α) (standard : α) : α :=
  ((env.text? name).bind fun raw => parse? (Text.trim raw)).getD standard

/-- The value is what the text of a variable writes without the blanks around it, if the variable has
a text, and the standard one if not. -/
def Gives {α : Type} (name : String) (parse? : String → Option α) (standard a : α) : Prop :=
  match env.text? name with
  | none => a = standard
  | some raw => parse? (Text.trim raw) = some a

theorem read_eq {α : Type} (name : String) (parse? : String → Option α) (standard : α) :
    env.read name parse? standard
      = if env.isMalformed name parse? then .error (.invalidVariable name (env.raw name))
        else .ok (env.value name parse? standard) := by
  unfold read isMalformed raw value
  cases env.text? name with
  | none => rfl
  | some raw => cases hparse : parse? (Text.trim raw) <;> simp [hparse]

theorem read_eq_ok_iff {α : Type} {name : String} {parse? : String → Option α} {standard a : α} :
    env.read name parse? standard = .ok a ↔ env.Gives name parse? standard a := by
  unfold read Gives
  cases env.text? name with
  | none => simp [eq_comm]
  | some raw =>
    dsimp only
    cases parse? (Text.trim raw) <;> simp

theorem read_bind {α β : Type} (name : String) (parse? : String → Option α) (standard : α)
    (f : α → Except ConfigFault β) :
    (env.read name parse? standard >>= f)
      = if env.isMalformed name parse? then .error (.invalidVariable name (env.raw name))
        else f (env.value name parse? standard) := by
  rw [read_eq]
  split_ifs <;> rfl

end Environment

def Config.objections (c : Config) : Objections ConfigFault :=
  [(c.capacity = 0, .zeroCapacity), (c.duration = 0, .zeroDuration)]

theorem Config.validate_bind {α : Type} (c : Config) (a : α) :
    (c.validate >>= fun _ => pure a) = c.objections.answer a := by
  unfold validate objections
  rw [bind_assoc, require_bind, require_bind, Objections.answer_cons, Objections.answer_cons]
  by_cases hcapacity : c.capacity = 0
  · simp [hcapacity]
  · by_cases hduration : c.duration = 0
    · simp [hcapacity, hduration]
    · simp [hcapacity, hduration]
      rfl

theorem Config.validate_eq_ok_iff {c : Config} :
    c.validate = .ok () ↔ 0 < c.capacity ∧ 0 < c.duration := by
  unfold validate
  rw [require_bind_eq_ok_iff, require_eq_ok_iff, UInt64.pos_iff_ne_zero, UInt64.pos_iff_ne_zero]

namespace Environment

variable (env : Environment)

/-- The configuration that the variables hold, if nothing stands against it. -/
def configured : Config where
  chain := env.value "OBRIDGE_CHAIN_ID" readWord? Config.standard.chain
  scheme := env.value "OBRIDGE_HASHLOCK_SCHEME" readScheme? Config.standard.scheme
  margin := env.value "OBRIDGE_MIN_TIMELOCK_MARGIN_SECS" readWord? Config.standard.margin
  duration := env.value "OBRIDGE_LOCK_DURATION_SECS" readWord? Config.standard.duration
  capacity := env.value "OBRIDGE_EVENT_CAPACITY" readWord? Config.standard.capacity

def complaint {α : Type} (name : String) (parse? : String → Option α) : Bool × ConfigFault :=
  (env.isMalformed name parse?, .invalidVariable name (env.raw name))

/-- What stands against the configuration of a chain that the variables hold. -/
def objections : Objections ConfigFault :=
  env.complaint "OBRIDGE_CHAIN_ID" readWord? ::
    env.complaint "OBRIDGE_HASHLOCK_SCHEME" readScheme? ::
    env.complaint "OBRIDGE_MIN_TIMELOCK_MARGIN_SECS" readWord? ::
    env.complaint "OBRIDGE_LOCK_DURATION_SECS" readWord? ::
    env.complaint "OBRIDGE_EVENT_CAPACITY" readWord? ::
    env.configured.objections

theorem config_eq_answer : env.config = env.objections.answer env.configured := by
  unfold config objections complaint
  simp only [read_bind, Objections.answer_cons]
  rw [← Config.validate_bind]
  rfl

theorem config_eq_ok_iff {c : Config} :
    env.config = .ok c ↔
      env.Gives "OBRIDGE_CHAIN_ID" readWord? Config.standard.chain c.chain ∧
        env.Gives "OBRIDGE_HASHLOCK_SCHEME" readScheme? Config.standard.scheme c.scheme ∧
        env.Gives "OBRIDGE_MIN_TIMELOCK_MARGIN_SECS" readWord? Config.standard.margin c.margin ∧
        env.Gives "OBRIDGE_LOCK_DURATION_SECS" readWord? Config.standard.duration c.duration ∧
        env.Gives "OBRIDGE_EVENT_CAPACITY" readWord? Config.standard.capacity c.capacity ∧
        c.validate = .ok () := by
  unfold config
  simp only [bind_eq_ok_iff, read_eq_ok_iff]
  constructor
  · rintro ⟨chain, hchain, scheme, hscheme, margin, hmargin, duration, hduration, capacity,
      hcapacity, ⟨⟩, hvalid, heq⟩
    cases heq
    exact ⟨hchain, hscheme, hmargin, hduration, hcapacity, hvalid⟩
  · rintro ⟨hchain, hscheme, hmargin, hduration, hcapacity, hvalid⟩
    exact ⟨_, hchain, _, hscheme, _, hmargin, _, hduration, _, hcapacity, (), hvalid, rfl⟩

end Environment

/-- The text of each variable that holds a field of a configuration. -/
def Config.variables (c : Config) : List (String × String) :=
  [("OBRIDGE_CHAIN_ID", decimalText c.chain),
    ("OBRIDGE_HASHLOCK_SCHEME", c.scheme.name),
    ("OBRIDGE_MIN_TIMELOCK_MARGIN_SECS", decimalText c.margin),
    ("OBRIDGE_LOCK_DURATION_SECS", decimalText c.duration),
    ("OBRIDGE_EVENT_CAPACITY", decimalText c.capacity)]

namespace Environment

/-- The environment with a variable set to a text, between other characters. -/
def setPadded (env : Environment) (before after : String → List Char) (v : String × String) :
    Environment :=
  env.set v.1 (Text.encode (before v.1 ++ v.2.toList ++ after v.1))

/-- The environment with the variables of a configuration set, each with characters around its text
that are chosen by the variable. -/
def setConfig (env : Environment) (c : Config) (before after : String → List Char) : Environment :=
  c.variables.foldl (fun env v => env.setPadded before after v) env

theorem text?_foldl_setPadded {before after : String → List Char} {vs : List (String × String)}
    (hnames : (vs.map Prod.fst).Nodup) {v : String × String} (hv : v ∈ vs) (env : Environment) :
    (vs.foldl (fun env v => env.setPadded before after v) env).text? v.1
      = some (String.ofList (before v.1 ++ v.2.toList ++ after v.1)) := by
  rw [text?_eq_some_iff, String.toList_ofList]
  induction vs using List.reverseRecOn with
  | nil => cases hv
  | append_singleton vs w ih =>
    rw [List.map_append, List.nodup_append] at hnames
    rw [List.foldl_append, List.foldl_cons, List.foldl_nil, setPadded, Table.get?_set]
    rcases List.mem_append.1 hv with hv | hv
    · have hne : w.1 ≠ v.1 := fun heq =>
        hnames.2.2 _ (List.mem_map_of_mem hv) _ (List.mem_singleton_self _) heq.symm
      rw [if_neg hne]
      exact ih hnames.1 hv
    · rw [List.mem_singleton.1 hv, if_pos rfl]

theorem gives_of_padded {α : Type} {env : Environment} {before after : List Char} {name s : String}
    {parse? : String → Option α} {standard a : α} (hbefore : ∀ c ∈ before, Text.isBlank c = true)
    (hafter : ∀ c ∈ after, Text.isBlank c = true) (hs : ∀ c ∈ s.toList, Text.isBlank c = false)
    (htext : env.text? name = some (String.ofList (before ++ s.toList ++ after)))
    (hparse : parse? s = some a) : env.Gives name parse? standard a := by
  have htrim : Text.trim (String.ofList (before ++ s.toList ++ after)) = s := by
    rw [Text.trim, String.toList_ofList, Text.trimChars_append hbefore hs hafter, String.ofList_toList]
  unfold Gives
  rw [htext]
  show parse? (Text.trim _) = some a
  rw [htrim, hparse]

theorem isBlank_eq_false_of_isDigit {c : Char} (h : Decimal.isDigit c = true) :
    Text.isBlank c = false := by
  have hall : ∀ n < 0x80, Decimal.isDigit (Char.ofNat n) = true →
      Text.isBlank (Char.ofNat n) = false := by
    decide
  obtain ⟨d, hd⟩ := Option.isSome_iff_exists.1 h
  have hc := hall c.toNat (Decimal.digit?_eq_some hd).1
  rw [Char.ofNat_toNat] at hc
  exact hc h

theorem isBlank_decimalText (n : UInt64) : ∀ c ∈ (decimalText n).toList, Text.isBlank c = false := by
  intro c hc
  rw [decimalText, Decimal.text, String.toList_ofList] at hc
  exact isBlank_eq_false_of_isDigit (Decimal.isDigit_of_mem_digits hc)

theorem isBlank_name (scheme : Scheme) : ∀ c ∈ scheme.name.toList, Text.isBlank c = false := by
  have hall : (scheme.name.toList.all fun c => !Text.isBlank c) = true := by
    cases scheme <;> decide
  intro c hc
  simpa using List.all_eq_true.1 hall c hc

theorem config_setConfig (env : Environment) {c : Config} {before after : String → List Char}
    (hvalid : c.validate = .ok ()) (hbefore : ∀ name, ∀ ch ∈ before name, Text.isBlank ch = true)
    (hafter : ∀ name, ∀ ch ∈ after name, Text.isBlank ch = true) :
    (env.setConfig c before after).config = .ok c := by
  have hnames : (c.variables.map Prod.fst).Nodup := by
    show ["OBRIDGE_CHAIN_ID", "OBRIDGE_HASHLOCK_SCHEME", "OBRIDGE_MIN_TIMELOCK_MARGIN_SECS",
      "OBRIDGE_LOCK_DURATION_SECS", "OBRIDGE_EVENT_CAPACITY"].Nodup
    decide
  have hgives {α : Type} {name s : String} {parse? : String → Option α} {standard a : α}
      (hv : (name, s) ∈ c.variables) (hs : ∀ ch ∈ s.toList, Text.isBlank ch = false)
      (hparse : parse? s = some a) :
      (env.setConfig c before after).Gives name parse? standard a :=
    gives_of_padded (hbefore name) (hafter name) hs (text?_foldl_setPadded hnames hv env) hparse
  rw [config_eq_ok_iff]
  refine ⟨?_, ?_, ?_, ?_, ?_, hvalid⟩
  · exact hgives (by simp [Config.variables]) (isBlank_decimalText _) (readWord?_decimalText _)
  · exact hgives (by simp [Config.variables]) (isBlank_name _) (readScheme?_name _)
  · exact hgives (by simp [Config.variables]) (isBlank_decimalText _) (readWord?_decimalText _)
  · exact hgives (by simp [Config.variables]) (isBlank_decimalText _) (readWord?_decimalText _)
  · exact hgives (by simp [Config.variables]) (isBlank_decimalText _) (readWord?_decimalText _)

end Environment

end AtomicSwap
