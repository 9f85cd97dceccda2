import ReplayRegistry.Proofs.SettingPlaces
import ReplayRegistry.Proofs.WholeNumbers

/-!
# Proofs: settings that are texts

The text of a variable is taken for a truth value, a whole number of 64 bits or another number if it
reads as one. A setting that expects a text gets such a value as it is written: in small letters,
without a plus sign or needless zeros, with the fewest digits. Any other text arrives as it is.
-/

namespace ReplayRegistry.Settings

/-! ## Spellings -/

def truthWord (b : Bool) : String := if b then "true" else "false"

/-- The text is a word for a truth value, in any case. -/
def IsTruth (v : String) (b : Bool) : Prop := Text.isWord (truthWord b) v

/-- The text is a whole number of 64 bits. -/
def IsWhole (v : String) (i : Int) : Prop := Numeral v.toList i ∧ Fits i

/-- The text is another number. -/
def IsReal (v : String) (x : Binary64) : Prop :=
  (∀ b, ¬ IsTruth v b) ∧ (∀ i, ¬ IsWhole v i) ∧ Binary64.parse? v = some x

/-- The text `t` is how what the text `v` is taken for is written. -/
inductive Spelled (v : String) : String → Prop where
  | truth {b : Bool} (h : IsTruth v b) : Spelled v (truthWord b)
  | whole {i : Int} (h : IsWhole v i) : Spelled v (Value.printInt i)
  | real {x : Binary64} (h : IsReal v x) : Spelled v x.print
  | other (htruth : ∀ b, ¬ IsTruth v b) (hwhole : ∀ i, ¬ IsWhole v i) (hreal : ∀ x, ¬ IsReal v x) :
    Spelled v v

/-- The text is written as what it is taken for is written. -/
structure Plain (v : String) : Prop where
  truth : ∀ b, IsTruth v b → v = truthWord b
  whole : ∀ i, IsWhole v i → PlainNumeral v.toList
  real : ∀ x, IsReal v x → v = x.print

variable {v t : String}

theorem isTruth_iff {b : Bool} : IsTruth v b ↔ Text.lowered v = (truthWord b).toList :=
  Text.isWord_iff

theorem IsTruth.unique {b b' : Bool} (h : IsTruth v b) (h' : IsTruth v b') : b = b' := by
  have hinj : ∀ b b', truthWord b = truthWord b' → b = b' := by decide
  exact hinj b b' (Text.eq_of_isWord h h')

theorem lower_of_isDigit {c : Char} (h : c.isDigit) : Text.lower c = c := by
  have hkelvin : c ≠ '\u212A' := by
    rintro rfl
    cases h
  have hcapital : ¬ (c.val ≥ 'A'.val ∧ c.val ≤ 'Z'.val) := by
    rintro ⟨hA, -⟩
    have hle : 'A'.toNat ≤ c.toNat := UInt32.le_iff_toNat_le.1 hA
    rw [Char.isDigit_iff_toNat] at h
    have h₉ : '9'.toNat = 57 := rfl
    have h₆₅ : 'A'.toNat = 65 := rfl
    omega
  rw [Text.lower, if_neg hkelvin]
  exact dif_neg hcapital

/-- Words for truth values have no digits. -/
theorem IsWhole.not_isTruth {i : Int} (h : IsWhole v i) (b : Bool) : ¬ IsTruth v b := by
  intro htruth
  obtain ⟨c, hc, hdigit⟩ := h.1.exists_digit
  have hmem : Text.lower c ∈ (truthWord b).toList := by
    rw [← isTruth_iff.1 htruth]
    exact List.mem_map_of_mem hc
  rw [lower_of_isDigit hdigit] at hmem
  have hletters : ∀ b, (truthWord b).toList.any Char.isDigit = false := by decide
  exact List.any_eq_false.1 (hletters b) c hmem hdigit

theorem ofVariable_text (v : String) : ∃ t, (ofVariable v).text? = some t ∧ Spelled v t := by
  unfold ofVariable
  split
  · rename_i htrue
    exact ⟨_, rfl, .truth (b := true) htrue⟩
  rename_i htrue
  split
  · rename_i hfalse
    exact ⟨_, rfl, .truth (b := false) hfalse⟩
  rename_i hfalse
  have htruth : ∀ b, ¬ IsTruth v b := by
    intro b
    cases b with
    | true => exact htrue
    | false => exact hfalse
  split
  · rename_i i hint
    exact ⟨_, rfl, .whole (int64?_ten_iff.1 hint)⟩
  rename_i hint
  have hwhole : ∀ i, ¬ IsWhole v i := by
    intro i hi
    rw [int64?_ten_iff.2 hi] at hint
    cases hint
  split
  · rename_i x hx
    exact ⟨_, rfl, .real ⟨htruth, hwhole, hx⟩⟩
  · rename_i hnone
    refine ⟨_, rfl, .other htruth hwhole fun x hx => ?_⟩
    rw [hx.2.2] at hnone
    cases hnone

/-- A text arrives as it is just if it is written plainly. -/
theorem Spelled.eq_iff (h : Spelled v t) : t = v ↔ Plain v := by
  cases h with
  | @truth b h =>
    constructor
    · intro heq
      refine ⟨fun b' h' => ?_, fun i hi => absurd h (hi.not_isTruth b),
        fun x hx => absurd h (hx.1 b)⟩
      rw [← heq, h.unique h']
    · exact fun hplain => (hplain.truth b h).symm
  | @whole i h =>
    have hspelled : Value.printInt i = v ↔ PlainNumeral v.toList := by
      rw [← h.1.printInt_eq_iff, String.toList_inj]
    rw [hspelled]
    constructor
    · intro hplain
      exact ⟨fun b hb => absurd hb (h.not_isTruth b), fun _ _ => hplain,
        fun x hx => absurd h (hx.2.1 i)⟩
    · exact fun hplain => hplain.whole i h
  | @real x h =>
    constructor
    · intro heq
      refine ⟨fun b hb => absurd hb (h.1 b), fun i hi => absurd hi (h.2.1 i), fun y hy => ?_⟩
      have hxy : x = y := Option.some.inj (h.2.2.symm.trans hy.2.2)
      rw [← heq, hxy]
    · exact fun hplain => (hplain.real x h).symm
  | other htruth hwhole hreal =>
    exact iff_of_true rfl ⟨fun b hb => absurd hb (htruth b), fun i hi => absurd hi (hwhole i),
      fun x hx => absurd hx (hreal x)⟩

/-! ## Settings -/

/-- A setting that is a text. -/
inductive TextItem where
  | logName
  | bootstrapServers
  | saslUsername
  | saslPassword
  | saslMechanism
  | securityProtocol
  | sslCaLocation
deriving DecidableEq

namespace TextItem

/-- The variable that gives the setting. -/
def variableName : TextItem → String
  | logName => "HOOKDB__LOG__NAME"
  | bootstrapServers => "HOOKDB__LOG__KAFKA__BOOTSTRAP_SERVERS"
  | saslUsername => "HOOKDB__LOG__KAFKA__SASL_USERNAME"
  | saslPassword => "HOOKDB__LOG__KAFKA__SASL_PASSWORD"
  | saslMechanism => "HOOKDB__LOG__KAFKA__SASL_MECHANISM"
  | securityProtocol => "HOOKDB__LOG__KAFKA__SECURITY_PROTOCOL"
  | sslCaLocation => "HOOKDB__LOG__KAFKA__SSL_CA_LOCATION"

/-- The way to the setting. -/
def keys : TextItem → List String
  | logName => ["log", "name"]
  | bootstrapServers => ["log", "kafka", "bootstrap_servers"]
  | saslUsername => ["log", "kafka", "sasl_username"]
  | saslPassword => ["log", "kafka", "sasl_password"]
  | saslMechanism => ["log", "kafka", "sasl_mechanism"]
  | securityProtocol => ["log", "kafka", "security_protocol"]
  | sslCaLocation => ["log", "kafka", "ssl_ca_location"]

/-- The setting, if there is one. -/
def value (s : Settings) : TextItem → Option String
  | logName => s.log.name
  | bootstrapServers => s.log.kafka.bootstrapServers
  | saslUsername => s.log.kafka.saslUsername
  | saslPassword => s.log.kafka.saslPassword
  | saslMechanism => s.log.kafka.saslMechanism
  | securityProtocol => s.log.kafka.securityProtocol
  | sslCaLocation => s.log.kafka.sslCaLocation

theorem variableName_place (x : TextItem) :
    ∃ key, variableKey? x.variableName = some key ∧ Path.ofKey key = x.keys.map .member := by
  cases x <;> exact ⟨_, rfl, by decide +kernel⟩

/-- The variables of two settings do not get in each other's way. -/
theorem elsewhere_of_ne {x y : TextItem} (h : x ≠ y) : Elsewhere x.keys y.variableName := by
  obtain ⟨key, hname, hkey⟩ := y.variableName_place
  intro key' hkey'
  rw [hname] at hkey'
  cases hkey'
  rw [hkey]
  revert h
  cases x <;> cases y <;> simp [Path.Apart, keys]

end TextItem

theorem text?_of_optionalText? {v : Value} {t : Option String} (h : v.optionalText? = some t) :
    v.text? = t := by
  cases v with
  | list _ | table _ => cases h
  | _ =>
    cases h
    rfl

/-- Settings that are texts are read from their values. -/
theorem text?_eq_value {root v : Value} {s : Settings} {x : TextItem}
    (hv : root.at? x.keys = some v) (h : ofValue? root = some s) : v.text? = x.value s := by
  cases x with
  | logName =>
    obtain ⟨ms, hlog, hv⟩ := exists_log_table hv h
    exact log?_name (Value.at?_table_singleton "name" ms ▸ hv) hlog
  | bootstrapServers =>
    obtain ⟨ms, hkafka, hv⟩ := exists_kafka_table hv h
    refine group?_of 0 (·.bootstrapServers) rfl (fun _ _ => rfl) ?_ hv hkafka
    simp [Item.of_keeps]
  | saslUsername =>
    obtain ⟨ms, hkafka, hv⟩ := exists_kafka_table hv h
    refine text?_of_optionalText? (group?_of 2 (·.saslUsername) rfl (fun _ _ => rfl) ?_ hv hkafka)
    simp [Item.of_keeps]
  | saslPassword =>
    obtain ⟨ms, hkafka, hv⟩ := exists_kafka_table hv h
    refine text?_of_optionalText? (group?_of 3 (·.saslPassword) rfl (fun _ _ => rfl) ?_ hv hkafka)
    simp [Item.of_keeps]
  | saslMechanism =>
    obtain ⟨ms, hkafka, hv⟩ := exists_kafka_table hv h
    refine text?_of_optionalText? (group?_of 4 (·.saslMechanism) rfl (fun _ _ => rfl) ?_ hv hkafka)
    simp [Item.of_keeps]
  | securityProtocol =>
    obtain ⟨ms, hkafka, hv⟩ := exists_kafka_table hv h
    refine text?_of_optionalText?
      (group?_of 5 (·.securityProtocol) rfl (fun _ _ => rfl) ?_ hv hkafka)
    simp [Item.of_keeps]
  | sslCaLocation =>
    obtain ⟨ms, hkafka, hv⟩ := exists_kafka_table hv h
    refine text?_of_optionalText? (group?_of 6 (·.sslCaLocation) rfl (fun _ _ => rfl) ?_ hv hkafka)
    simp

/-- A setting that is a text and is given by a variable is loaded as what the text of the variable
is taken for, written out, unless a later variable gives the setting, a part of it or something that
it is in. So it is the text of the variable itself just if that is written plainly. -/
theorem load_spells_texts {files before after : Texts} {path : Option String} {s : Settings}
    {x : TextItem} {v : String} (hafter : ∀ e ∈ after, Elsewhere x.keys e.1)
    (h : load files (before ++ (x.variableName, v) :: after) path = .ok s) :
    ∃ t, x.value s = some t ∧ Spelled v t ∧ (t = v ↔ Plain v) := by
  obtain ⟨root, hroot⟩ := load_ok h
  obtain ⟨key, hname, hkey⟩ := x.variableName_place
  have hv := at?_ofEnvironment hname hkey hafter root before v
  obtain ⟨t, ht, hspelled⟩ := ofVariable_text v
  exact ⟨t, (text?_eq_value hv hroot).symm.trans ht, hspelled, hspelled.eq_iff⟩

/-- A password that reads as a number arrives as the number. -/
theorem load_spells_texts_password :
    load [] [(TextItem.saslPassword.variableName, "1e3"), (TextItem.logName.variableName, "orders")]
        none = .ok { log := { name := "orders", kafka := { saslPassword := some "1000" } } } ∧
      Spelled "1e3" "1000" ∧ ¬ Plain "1e3" := by
  have hload : load [] ([] ++ (TextItem.saslPassword.variableName, "1e3") ::
      [(TextItem.logName.variableName, "orders")]) none =
      .ok { log := { name := "orders", kafka := { saslPassword := some "1000" } } } := by
    decide +kernel
  have hafter : ∀ e ∈ [(TextItem.logName.variableName, "orders")],
      Elsewhere TextItem.saslPassword.keys e.1 := by
    simpa using TextItem.elsewhere_of_ne (by decide)
  obtain ⟨t, hvalue, hspelled, hiff⟩ := load_spells_texts hafter hload
  cases hvalue
  exact ⟨hload, hspelled, fun hplain => absurd (hiff.2 hplain) (by decide)⟩

/-- A name of digits alone loses the zeros in front. -/
theorem load_spells_texts_zeros :
    load [] [(TextItem.logName.variableName, "007")] none = .ok { log := { name := "7" } } ∧
      TextItem.logName.value { log := { name := "7" } } ≠ some "007" :=
  ⟨by decide +kernel, by decide⟩

end ReplayRegistry.Settings
