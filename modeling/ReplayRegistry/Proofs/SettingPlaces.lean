import ReplayRegistry.Settings.Load

/-!
# Proofs: places of settings

A source of settings changes the value at a place only if it names the place itself, a part of it,
or a table or list that it is in. So a value keeps its place under all that is laid over it and goes
elsewhere, and every setting of a group that is read from it is the one that its value stands for.
-/

namespace ReplayRegistry.Settings

/-! ## Looking up -/

namespace Value

/-- The value at the end of a way through members of tables. -/
def at? : List String → Value → Option Value
  | [], v => some v
  | key :: keys, v => (lookup? key v.members).bind (at? keys)

variable {key : String} {keys : List String} {v w : Value} {old : Option Value}

@[simp] theorem at?_nil (v : Value) : v.at? [] = some v := rfl

theorem at?_cons (key : String) (keys : List String) (v : Value) :
    v.at? (key :: keys) = (lookup? key v.members).bind (at? keys) := rfl

theorem at?_table_singleton (key : String) (ms : List (String × Value)) :
    (table ms).at? [key] = lookup? key ms := by
  rw [at?_cons, members]
  cases lookup? key ms <;> rfl

theorem at?_cons_eq_some (h : v.at? (key :: keys) = some w) :
    ∃ ms u, v = .table ms ∧ lookup? key ms = some u ∧ u.at? keys = some w := by
  obtain ⟨u, hu, hw⟩ := Option.bind_eq_some_iff.1 (at?_cons key keys v ▸ h)
  cases v with
  | table ms => exact ⟨ms, u, rfl, hu, hw⟩
  | _ => cases hu

theorem at?_cons_getD_nil (key : String) (keys : List String) (old : Option Value) :
    (old.getD .nil).at? (key :: keys) = old.bind (at? (key :: keys)) := by
  cases old <;> rfl

/-- The value is no table, so it takes the place of what it is laid over. -/
def Atomic : Value → Prop
  | table _ => False
  | _ => True

theorem Atomic.overlay (h : v.Atomic) (old : Option Value) : Value.overlay old v = v := by
  cases v with
  | table ms => exact h.elim
  | _ => rw [Value.overlay]; simp

end Value

namespace Path

open Value

/-- The way through tables and the path part at a table, where they go to different members. -/
def Apart : List String → Path → Prop
  | key :: keys, .member key' :: steps => key = key' → Apart keys steps
  | _, _ => False

variable {v : Value} {keys : List String} {path : Path}

theorem at?_place_apart (h : Apart keys path) (v : Value) (old : Option Value) :
    (place v path old).at? keys = old.bind (at? keys) := by
  induction keys generalizing path old with
  | nil => cases path <;> exact h.elim
  | cons key keys ih =>
    match path with
    | [] | .item _ :: _ => exact h.elim
    | .member key' :: steps =>
      rw [place, at?_cons, members, lookup?_assign, ← at?_cons_getD_nil, at?_cons]
      by_cases hkey : key = key'
      · rw [if_pos hkey, Option.bind_some, ih (h hkey), hkey]
      · rw [if_neg hkey]

theorem at?_place (hv : v.Atomic) (keys : List String) (old : Option Value) :
    (place v (keys.map .member) old).at? keys = some v := by
  induction keys generalizing old with
  | nil => rw [List.map_nil, place, hv.overlay, at?_nil]
  | cons key keys ih =>
    rw [List.map_cons, place, at?_cons, members, lookup?_assign, if_pos rfl, Option.bind_some, ih]

end Path

/-! ## Layers -/

section

variable {source before after : Source} {keys : List String} {key : String} {v : Value}

/-- Values that go elsewhere leave a value where it is. -/
theorem at?_layer_apart (h : ∀ e ∈ source, Path.Apart keys (Path.ofKey e.1)) (root : Value) :
    (layer root source).at? keys = root.at? keys := by
  induction source generalizing root with
  | nil => rfl
  | cons e source ih =>
    rw [layer, List.foldl_cons, ← layer, ih fun e' he' => h e' (by simp [he']),
      Path.at?_place_apart (h e (by simp)), Option.bind_some]

/-- A value is found at its place if those after it go elsewhere. -/
theorem at?_layer (hkey : Path.ofKey key = keys.map .member) (hv : v.Atomic)
    (hafter : ∀ e ∈ after, Path.Apart keys (Path.ofKey e.1)) (root : Value) :
    (layer root (before ++ (key, v) :: after)).at? keys = some v := by
  rw [layer, List.foldl_append, List.foldl_cons, ← layer, at?_layer_apart hafter, hkey,
    Path.at?_place hv]

end

/-! ## Variables -/

/-- The key of the value that a variable of this name gives, if it gives one. -/
def variableKey? (name : String) : Option String :=
  let key := Text.lowered name
  if variableMark.isPrefixOf key then
    some (String.ofList (pointed (key.drop variableMark.length)))
  else none

theorem ofEnvironment_eq (env : Texts) :
    Source.ofEnvironment env =
      env.filterMap fun e => (variableKey? e.1).map (·, ofVariable e.2) := by
  unfold Source.ofEnvironment variableKey?
  congr 1
  funext e
  by_cases hmark : variableMark.isPrefixOf (Text.lowered e.1) <;> simp [hmark]

/-- A variable gives no value, or one that goes to another place than the end of the keys. -/
def Elsewhere (keys : List String) (name : String) : Prop :=
  ∀ key ∈ variableKey? name, Path.Apart keys (Path.ofKey key)

theorem ofVariable_atomic (s : String) : (ofVariable s).Atomic := by
  unfold ofVariable
  split
  · trivial
  split
  · trivial
  split
  · trivial
  split <;> trivial

/-- The value of a variable is found at its place if the variables after it go elsewhere. -/
theorem at?_ofEnvironment {name key : String} {keys : List String}
    (hname : variableKey? name = some key) (hkey : Path.ofKey key = keys.map .member)
    {after : Texts} (hafter : ∀ e ∈ after, Elsewhere keys e.1) (root : Value) (before : Texts)
    (s : String) :
    (layer root (Source.ofEnvironment (before ++ (name, s) :: after))).at? keys =
      some (ofVariable s) := by
  rw [ofEnvironment_eq, List.filterMap_append, List.filterMap_cons, hname, Option.map_some]
  refine at?_layer hkey (ofVariable_atomic s) ?_ root
  intro e he
  obtain ⟨e', he', hval⟩ := List.mem_filterMap.1 he
  obtain ⟨key', hkey', rfl⟩ := Option.map_eq_some_iff.1 hval
  exact hafter e' he' key' hkey'

/-! ## Loading -/

/-- The source that the file of a name is, where a file is named. -/
def Source.loadNamed (files : Texts) : Option String → Except LoadError Source
  | none => .ok []
  | some name => Source.load files name

theorem load_eq (files env : Texts) (path : Option String) :
    load files env path =
      (Source.loadNamed files ((file? files usualFile).map fun _ => usualFile)).bind fun usual =>
      (Source.loadNamed files path).bind fun named =>
      (Source.loadNamed files (env.get? fileVariable)).bind fun pointedAt =>
      ofSources [usual, named, pointedAt, Source.ofEnvironment env] := by
  unfold load
  cases file? files usualFile <;> cases path <;> cases env.get? fileVariable <;> rfl

theorem exists_of_bind_ok {ε α β : Type} {x : Except ε α} {f : α → Except ε β} {b : β}
    (h : x.bind f = .ok b) : ∃ a, x = .ok a ∧ f a = .ok b := by
  cases x with
  | error e => cases h
  | ok a => exact ⟨a, rfl, h⟩

theorem ofSources_eq_ok_iff {sources : List Source} {s : Settings} :
    ofSources sources = .ok s ↔ ofValue? (sources.foldl layer (.table [])) = some s := by
  unfold ofSources
  cases ofValue? (sources.foldl layer (.table [])) <;> simp

/-- The environment is laid over all else. -/
theorem load_ok {files env : Texts} {path : Option String} {s : Settings}
    (h : load files env path = .ok s) :
    ∃ root, ofValue? (layer root (Source.ofEnvironment env)) = some s := by
  rw [load_eq] at h
  obtain ⟨usual, -, h⟩ := exists_of_bind_ok h
  obtain ⟨named, -, h⟩ := exists_of_bind_ok h
  obtain ⟨pointedAt, -, h⟩ := exists_of_bind_ok h
  exact ⟨[usual, named, pointedAt].foldl layer (.table []), ofSources_eq_ok_iff.1 h⟩

/-! ## Groups -/

namespace Item

variable {σ α β : Type}

/-- Giving the setting a value leaves alone what `get` reads of the group. -/
def Keeps (item : Item σ) (get : σ → β) : Prop :=
  ∀ v s s', item.set v s = some s' → get s' = get s

theorem of_keeps {name : String} {of? : Value → Option α} {put : σ → α → σ} {get : σ → β}
    (h : ∀ s a, get (put s a) = get s) : (Item.of name of? put).Keeps get := by
  intro v s s' hset
  obtain ⟨a, -, rfl⟩ := Option.map_eq_some_iff.1 hset
  exact h s a

theorem of_set {name : String} {of? : Value → Option α} {put : σ → α → σ} {get : σ → α}
    (h : ∀ s a, get (put s a) = a) {v : Value} {s s' : σ}
    (hset : (Item.of name of? put).set v s = some s') : of? v = some (get s') := by
  obtain ⟨a, ha, rfl⟩ := Option.map_eq_some_iff.1 hset
  rw [h, ha]

end Item

section

variable {σ α β : Type} {items : List (Item σ)} {ms : List (String × Value)} {s s₀ : σ}

/-- Give a setting the value that a table has for it. -/
def Item.fill (ms : List (String × Value)) (s : σ) (item : Item σ) : Option σ :=
  match Value.lookup? item.name ms with
  | some v => item.set v s
  | none => some s

theorem group?_table (items : List (Item σ)) (default : σ) (ms : List (String × Value)) :
    group? items default (.table ms) = items.foldlM (Item.fill ms) default := rfl

theorem fill_keeps {get : σ → β} (h : ∀ item ∈ items, item.Keeps get)
    (hfold : items.foldlM (Item.fill ms) s₀ = some s) : get s = get s₀ := by
  induction items generalizing s₀ with
  | nil =>
    cases hfold
    rfl
  | cons item items ih =>
    rw [List.foldlM_cons] at hfold
    obtain ⟨s₁, hfill, hrest⟩ := Option.bind_eq_some_iff.1 hfold
    rw [ih (fun i hi => h i (by simp [hi])) hrest]
    unfold Item.fill at hfill
    split at hfill
    · exact h item (by simp) _ s₀ s₁ hfill
    · cases hfill
      rfl

theorem fill_of {n : Nat} {name : String} {of? : Value → Option α} {put : σ → α → σ}
    {get : σ → α} {v : Value} (hitem : items[n]? = some (.of name of? put))
    (hput : ∀ s a, get (put s a) = a) (hafter : ∀ item ∈ items.drop (n + 1), item.Keeps get)
    (hv : Value.lookup? name ms = some v) (hfold : items.foldlM (Item.fill ms) s₀ = some s) :
    of? v = some (get s) := by
  induction items generalizing n s₀ with
  | nil => cases hitem
  | cons item items ih =>
    rw [List.foldlM_cons] at hfold
    obtain ⟨s₁, hfill, hrest⟩ := Option.bind_eq_some_iff.1 hfold
    cases n with
    | zero =>
      cases hitem
      have hset : (Item.of name of? put).set v s₀ = some s₁ := by
        rw [← hfill, Item.fill, Item.of, hv]
      have hkept : get s = get s₁ := fill_keeps hafter hrest
      rw [hkept]
      exact Item.of_set hput hset
    | succ n => exact ih hitem hafter hrest

/-- A setting of a group that is read from a table is the one that its value stands for, if the
settings after it leave it alone. -/
theorem group?_of (n : Nat) {name : String} {of? : Value → Option α} {put : σ → α → σ}
    (get : σ → α) {v : Value} {default : σ} (hitem : items[n]? = some (.of name of? put))
    (hput : ∀ s a, get (put s a) = a) (hafter : ∀ item ∈ items.drop (n + 1), item.Keeps get)
    (hv : Value.lookup? name ms = some v) (h : group? items default (.table ms) = some s) :
    of? v = some (get s) :=
  fill_of hitem hput hafter hv (group?_table items default ms ▸ h)

end

/-! ### The groups of a registry -/

section

variable {ms : List (String × Value)} {key : String} {keys : List String} {root v : Value}

theorem ofValue?_log {s : Settings} (hv : Value.lookup? "log" ms = some v)
    (h : ofValue? (.table ms) = some s) : log? v = some s.log := by
  refine group?_of 0 (·.log) rfl (fun _ _ => rfl) ?_ hv h
  simp [Item.of_keeps]

theorem log?_name {s : LogSettings} (hv : Value.lookup? "name" ms = some v)
    (h : log? (.table ms) = some s) : v.text? = some s.name := by
  refine group?_of 1 (·.name) rfl (fun _ _ => rfl) ?_ hv h
  simp [Item.of_keeps]

theorem log?_kafka {s : LogSettings} (hv : Value.lookup? "kafka" ms = some v)
    (h : log? (.table ms) = some s) : kafka? v = some s.kafka := by
  refine group?_of 2 (·.kafka) rfl (fun _ _ => rfl) ?_ hv h
  simp

/-- The settings of the log are read from the table that what is given for them is in. -/
theorem exists_log_table {s : Settings} (hv : root.at? ("log" :: key :: keys) = some v)
    (h : ofValue? root = some s) :
    ∃ ms, log? (.table ms) = some s.log ∧ (Value.table ms).at? (key :: keys) = some v := by
  obtain ⟨ms, u, rfl, hu, hv⟩ := Value.at?_cons_eq_some hv
  obtain ⟨ms', -, rfl, -, -⟩ := Value.at?_cons_eq_some hv
  exact ⟨ms', ofValue?_log hu h, hv⟩

theorem exists_kafka_table {s : Settings} (hv : root.at? ["log", "kafka", key] = some v)
    (h : ofValue? root = some s) :
    ∃ ms, kafka? (.table ms) = some s.log.kafka ∧ Value.lookup? key ms = some v := by
  obtain ⟨ms, hlog, hv⟩ := exists_log_table hv h
  obtain ⟨ms, u, htable, hu, hv⟩ := Value.at?_cons_eq_some hv
  cases htable
  obtain ⟨ms', w, rfl, hw, hv⟩ := Value.at?_cons_eq_some hv
  cases hv
  exact ⟨ms', log?_kafka hu hlog, hw⟩

end

end ReplayRegistry.Settings
