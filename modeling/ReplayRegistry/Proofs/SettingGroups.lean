import ReplayRegistry.Proofs.SettingPlaces

/-!
# Proofs: groups of settings

Every setting has its place in the tables that settings are read from. A table whose groups are
tables again and whose values suit their settings can be read, and every setting of what is read is
the one that its value stands for, or the default where its place is empty.
-/

namespace ReplayRegistry.Settings

/-! ## Settings by name -/

/-- A setting of a registry. -/
inductive Setting where
  | backend
  | logName
  | bootstrapServers
  | appendTimeout
  | saslUsername
  | saslPassword
  | saslMechanism
  | securityProtocol
  | sslCaLocation
  | minDelay
  | maxDelay
  | maxRestarts
deriving DecidableEq

namespace Setting

/-- The way to the setting. -/
def keys : Setting → List String
  | backend => ["log", "type"]
  | logName => ["log", "name"]
  | bootstrapServers => ["log", "kafka", "bootstrap_servers"]
  | appendTimeout => ["log", "kafka", "append_timeout_ms"]
  | saslUsername => ["log", "kafka", "sasl_username"]
  | saslPassword => ["log", "kafka", "sasl_password"]
  | saslMechanism => ["log", "kafka", "sasl_mechanism"]
  | securityProtocol => ["log", "kafka", "security_protocol"]
  | sslCaLocation => ["log", "kafka", "ssl_ca_location"]
  | minDelay => ["replay", "min_delay_ms"]
  | maxDelay => ["replay", "max_delay_ms"]
  | maxRestarts => ["replay", "max_restarts"]

/-- What the setting is one of. -/
def Kind : Setting → Type
  | backend => Backend
  | logName | bootstrapServers => String
  | saslUsername | saslPassword | saslMechanism | securityProtocol | sslCaLocation => Option String
  | appendTimeout | minDelay | maxDelay | maxRestarts => Nat

/-- What a value stands for as a value of the setting. -/
def convert? : (x : Setting) → Value → Option x.Kind
  | backend => Value.word? [("memory", .memory), ("kafka", .kafka)]
  | logName | bootstrapServers => Value.text?
  | saslUsername | saslPassword | saslMechanism | securityProtocol | sslCaLocation =>
    Value.optionalText?
  | appendTimeout | minDelay | maxDelay | maxRestarts => Value.nat?

/-- The setting among all settings. -/
def get (s : Settings) : (x : Setting) → x.Kind
  | backend => s.log.backend
  | logName => s.log.name
  | bootstrapServers => s.log.kafka.bootstrapServers
  | appendTimeout => s.log.kafka.appendTimeout
  | saslUsername => s.log.kafka.saslUsername
  | saslPassword => s.log.kafka.saslPassword
  | saslMechanism => s.log.kafka.saslMechanism
  | securityProtocol => s.log.kafka.securityProtocol
  | sslCaLocation => s.log.kafka.sslCaLocation
  | minDelay => s.replay.minDelay
  | maxDelay => s.replay.maxDelay
  | maxRestarts => s.replay.maxRestarts

/-- No setting is in another one. -/
theorem eq_of_prefix_keys {x y : Setting} (h : x.keys <+: y.keys) : x = y := by
  revert h
  cases x <;> cases y <;> decide

end Setting

/-- The keys lead to a table that settings are in. -/
def IsGroup (keys : List String) : Prop := ∃ x : Setting, keys <+: x.keys ∧ keys ≠ x.keys

theorem Setting.not_isGroup (x : Setting) : ¬ IsGroup x.keys := by
  rintro ⟨y, hprefix, hne⟩
  exact hne (congrArg keys (eq_of_prefix_keys hprefix))

theorem isGroup_root : IsGroup [] := ⟨.logName, by decide, by decide⟩

theorem isGroup_log : IsGroup ["log"] := ⟨.logName, by decide, by decide⟩

theorem isGroup_kafka : IsGroup ["log", "kafka"] := ⟨.appendTimeout, by decide, by decide⟩

theorem isGroup_replay : IsGroup ["replay"] := ⟨.minDelay, by decide, by decide⟩

/-! ## Reading a group -/

theorem Value.at?_append (keys rest : List String) (v : Value) :
    v.at? (keys ++ rest) = (v.at? keys).bind (at? rest) := by
  induction keys generalizing v with
  | nil => rfl
  | cons key keys ih =>
    rw [List.cons_append, at?_cons, at?_cons]
    cases lookup? key v.members with
    | none => rfl
    | some u => exact ih u

/-- The value that a table has for the setting, if it has one, can be given to it. -/
def Item.Takes {σ : Type} (given : Option Value) (item : Item σ) : Prop :=
  ∀ v ∈ given, ∀ s, (item.set v s).isSome

theorem Item.of_takes {σ α : Type} {name : String} {of? : Value → Option α} {put : σ → α → σ}
    {given : Option Value} (h : ∀ v, given = some v → (of? v).isSome) :
    (Item.of name of? put).Takes given := by
  intro v hv s
  simpa [Item.of] using h v hv

section

variable {σ α : Type} {items after : List (Item σ)} {default s : σ} {root : Value}
  {place : List String}

theorem exists_fill {ms : List (String × Value)}
    (h : ∀ item ∈ items, item.Takes (Value.lookup? item.name ms)) (s₀ : σ) :
    ∃ s, items.foldlM (Item.fill ms) s₀ = some s := by
  induction items generalizing s₀ with
  | nil => exact ⟨s₀, rfl⟩
  | cons item items ih =>
    have hfill : (Item.fill ms s₀ item).isSome := by
      unfold Item.fill
      split
      · rename_i v hv
        exact h item (by simp) v hv s₀
      · rfl
    obtain ⟨s₁, hs₁⟩ := Option.isSome_iff_exists.1 hfill
    rw [List.foldlM_cons, hs₁]
    exact ih (fun item hitem => h item (by simp [hitem])) s₁

/-- A group that is a table or missing can be read if every setting takes its value. -/
theorem exists_group? (hgroup : ∀ v, root.at? place = some v → ∃ ms, v = .table ms)
    (h : ∀ item ∈ items, item.Takes (root.at? (place ++ [item.name]))) :
    ∃ s, (root.at? place).elim (some default) (group? items default) = some s := by
  cases hplace : root.at? place with
  | none => exact ⟨default, rfl⟩
  | some v =>
    obtain ⟨ms, rfl⟩ := hgroup v hplace
    simp only [Value.at?_append, hplace, Option.bind_some, Value.at?_table_singleton] at h
    exact exists_fill h default

/-- A setting of a group is what its value stands for, or the default if it has none, as far as the
other settings leave it alone. -/
theorem group?_reads (before : List (Item σ)) {name : String} {of? : Value → Option α}
    {put : σ → α → σ} (get : σ → α)
    (hgroup : ∀ v, root.at? place = some v → ∃ ms, v = .table ms)
    (h : (root.at? place).elim (some default) (group? items default) = some s)
    (hitems : items = before ++ .of name of? put :: after) (hput : ∀ s a, get (put s a) = a)
    (hbefore : ∀ item ∈ before, item.Keeps get) (hafter : ∀ item ∈ after, item.Keeps get) :
    (root.at? (place ++ [name])).elim (some (get default)) of? = some (get s) := by
  rw [Value.at?_append]
  cases hplace : root.at? place with
  | none =>
    rw [hplace] at h
    cases h
    rfl
  | some v =>
    obtain ⟨ms, rfl⟩ := hgroup v hplace
    rw [hplace, Option.elim_some, group?_table, hitems, List.foldlM_append] at h
    obtain ⟨s₁, h₁, h⟩ := Option.bind_eq_some_iff.1 h
    rw [List.foldlM_cons] at h
    obtain ⟨s₂, h₂, h₃⟩ := Option.bind_eq_some_iff.1 h
    rw [fill_keeps hafter h₃, ← fill_keeps hbefore h₁, Option.bind_some, Value.at?_table_singleton]
    unfold Item.fill at h₂
    split at h₂
    · rename_i v hv
      rw [show Value.lookup? name ms = some v from hv]
      exact Item.of_set hput h₂
    · rename_i hv
      rw [show Value.lookup? name ms = none from hv]
      cases h₂
      rfl

end

/-! ## The groups of a registry -/

/-- The values at the places of settings suit them, and the groups of settings are tables. -/
structure Suitable (root : Value) : Prop where
  settings : ∀ (x : Setting) v, root.at? x.keys = some v → (x.convert? v).isSome
  groups : ∀ keys, IsGroup keys → ∀ v, root.at? keys = some v → ∃ ms, v = .table ms

/-- The setting is what the value at its place stands for, or the default if there is none. -/
def Setting.Reads (x : Setting) (root : Value) (s : Settings) : Prop :=
  (root.at? x.keys).elim (some (x.get {})) x.convert? = some (x.get s)

variable {root : Value}

theorem Suitable.exists_kafka? (h : Suitable root) :
    ∃ k, (root.at? ["log", "kafka"]).elim (some {}) kafka? = some k := by
  refine exists_group? (h.groups _ isGroup_kafka) ?_
  simp only [List.forall_mem_cons]
  exact ⟨Item.of_takes (h.settings .bootstrapServers), Item.of_takes (h.settings .appendTimeout),
    Item.of_takes (h.settings .saslUsername), Item.of_takes (h.settings .saslPassword),
    Item.of_takes (h.settings .saslMechanism), Item.of_takes (h.settings .securityProtocol),
    Item.of_takes (h.settings .sslCaLocation), by simp⟩

theorem Suitable.exists_log? (h : Suitable root) :
    ∃ l, (root.at? ["log"]).elim (some {}) log? = some l := by
  refine exists_group? (h.groups _ isGroup_log) ?_
  simp only [List.forall_mem_cons]
  refine ⟨Item.of_takes (h.settings .backend), Item.of_takes (h.settings .logName),
    Item.of_takes fun v hv => ?_, by simp⟩
  obtain ⟨k, hk⟩ := h.exists_kafka?
  rw [show root.at? ["log", "kafka"] = some v from hv] at hk
  exact Option.isSome_of_eq_some hk

theorem Suitable.exists_replay? (h : Suitable root) :
    ∃ r, (root.at? ["replay"]).elim (some {}) replay? = some r := by
  refine exists_group? (h.groups _ isGroup_replay) ?_
  simp only [List.forall_mem_cons]
  exact ⟨Item.of_takes (h.settings .minDelay), Item.of_takes (h.settings .maxDelay),
    Item.of_takes (h.settings .maxRestarts), by simp⟩

theorem Suitable.exists_ofValue? (h : Suitable root) :
    ∃ s, (root.at? []).elim (some {}) ofValue? = some s := by
  refine exists_group? (h.groups _ isGroup_root) ?_
  simp only [List.forall_mem_cons]
  refine ⟨Item.of_takes fun v hv => ?_, Item.of_takes fun v hv => ?_, by simp⟩
  · obtain ⟨l, hl⟩ := h.exists_log?
    rw [show root.at? ["log"] = some v from hv] at hl
    exact Option.isSome_of_eq_some hl
  · obtain ⟨r, hr⟩ := h.exists_replay?
    rw [show root.at? ["replay"] = some v from hv] at hr
    exact Option.isSome_of_eq_some hr

/-- Every setting is read from its own place. -/
theorem Suitable.reads (h : Suitable root) {s : Settings} (hs : ofValue? root = some s)
    (x : Setting) : x.Reads root s := by
  have hrootTable := h.groups _ isGroup_root
  have hlogTable := h.groups _ isGroup_log
  have hkafkaTable := h.groups _ isGroup_kafka
  have hreplayTable := h.groups _ isGroup_replay
  have hlog : (root.at? ["log"]).elim (some {}) log? = some s.log :=
    group?_reads [] Settings.log hrootTable hs rfl (fun _ _ => rfl) (by simp)
      (by simp [Item.of_keeps])
  have hreplay : (root.at? ["replay"]).elim (some {}) replay? = some s.replay :=
    group?_reads [_] Settings.replay hrootTable hs rfl (fun _ _ => rfl) (by simp [Item.of_keeps])
      (by simp)
  have hkafka : (root.at? ["log", "kafka"]).elim (some {}) kafka? = some s.log.kafka :=
    group?_reads [_, _] LogSettings.kafka hlogTable hlog rfl (fun _ _ => rfl)
      (by simp [Item.of_keeps]) (by simp)
  cases x with
  | backend =>
    refine group?_reads [] (·.backend) hlogTable hlog rfl (fun _ _ => rfl) ?_ ?_
    all_goals simp [Item.of_keeps]
  | logName =>
    refine group?_reads [_] (·.name) hlogTable hlog rfl (fun _ _ => rfl) ?_ ?_
    all_goals simp [Item.of_keeps]
  | bootstrapServers =>
    refine group?_reads [] (·.bootstrapServers) hkafkaTable hkafka rfl (fun _ _ => rfl) ?_ ?_
    all_goals simp [Item.of_keeps]
  | appendTimeout =>
    refine group?_reads [_] (·.appendTimeout) hkafkaTable hkafka rfl (fun _ _ => rfl) ?_ ?_
    all_goals simp [Item.of_keeps]
  | saslUsername =>
    refine group?_reads [_, _] (·.saslUsername) hkafkaTable hkafka rfl (fun _ _ => rfl) ?_ ?_
    all_goals simp [Item.of_keeps]
  | saslPassword =>
    refine group?_reads [_, _, _] (·.saslPassword) hkafkaTable hkafka rfl (fun _ _ => rfl) ?_ ?_
    all_goals simp [Item.of_keeps]
  | saslMechanism =>
    refine group?_reads [_, _, _, _] (·.saslMechanism) hkafkaTable hkafka rfl
      (fun _ _ => rfl) ?_ ?_
    all_goals simp [Item.of_keeps]
  | securityProtocol =>
    refine group?_reads [_, _, _, _, _] (·.securityProtocol) hkafkaTable hkafka rfl
      (fun _ _ => rfl) ?_ ?_
    all_goals simp [Item.of_keeps]
  | sslCaLocation =>
    refine group?_reads [_, _, _, _, _, _] (·.sslCaLocation) hkafkaTable hkafka rfl
      (fun _ _ => rfl) ?_ ?_
    all_goals simp [Item.of_keeps]
  | minDelay =>
    refine group?_reads [] (·.minDelay) hreplayTable hreplay rfl (fun _ _ => rfl) ?_ ?_
    all_goals simp [Item.of_keeps]
  | maxDelay =>
    refine group?_reads [_] (·.maxDelay) hreplayTable hreplay rfl (fun _ _ => rfl) ?_ ?_
    all_goals simp [Item.of_keeps]
  | maxRestarts =>
    refine group?_reads [_, _] (·.maxRestarts) hreplayTable hreplay rfl (fun _ _ => rfl) ?_ ?_
    all_goals simp [Item.of_keeps]

end ReplayRegistry.Settings
