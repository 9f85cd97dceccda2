import Mathlib.Data.List.Basic
import ReplayRegistry.Proofs.SettingGroups

/-!
# Proofs: layers of settings

A source gives values to settings by tables within tables or by keys that are paths, and may say
other things elsewhere. Laid over what the sources before it have given, it changes the settings
that it gives values to, each on its own, and leaves all others as they were. So every setting is
what the last source that gives it a value says, or its default.
-/

namespace ReplayRegistry.Settings

/-! ## What a source says -/

/-- The value `w` is in `v` at the end of a way through tables. -/
inductive Value.Holds : Value → List String → Value → Prop
  | here {v : Value} (h : v.Atomic) : v.Holds [] v
  | member {ms : List (String × Value)} {m : String × Value} {keys : List String} {w : Value}
      (hm : m ∈ ms) (h : m.2.Holds keys w) : (table ms).Holds (foldKey m.1 :: keys) w

/-- A value at a place says nothing but values that suit settings, and what is told elsewhere: it is
a scalar that can be converted to a setting, or a table of values for a group of settings, or it is
apart from them all. -/
inductive ProperAt : Path → Value → Prop
  | setting (x : Setting) {v : Value} (hv : v.Atomic) (h : (x.convert? v).isSome) :
      ProperAt (x.keys.map .member) v
  | group {keys : List String} {ms : List (String × Value)} (hkeys : IsGroup keys)
      (h : ∀ m ∈ ms, ProperAt ((keys ++ [Value.foldKey m.1]).map .member) m.2) :
      ProperAt (keys.map .member) (.table ms)
  | elsewhere {path : Path} (v : Value) (h : ∀ x : Setting, Path.Apart x.keys path) :
      ProperAt path v

/-- The source has a value for the place at the end of the keys. -/
def Source.Gives (source : Source) (keys : List String) (v : Value) : Prop :=
  ∃ e ∈ source, ∃ rest, keys.map .member = Path.ofKey e.1 ++ rest.map .member ∧ e.2.Holds rest v

/-- The source says nothing but values that suit settings, and what is told elsewhere. -/
def Source.Proper (source : Source) : Prop := ∀ e ∈ source, ProperAt (Path.ofKey e.1) e.2

/-! ## Places -/

/-- The place is that of a setting or of a group of settings. -/
def Known (keys : List String) : Prop := ∃ x : Setting, keys <+: x.keys

/-- Nothing is known in a setting. -/
theorem Known.eq_nil {x : Setting} {rest : List String} (h : Known (x.keys ++ rest)) :
    rest = [] := by
  obtain ⟨y, hy⟩ := h
  obtain rfl := Setting.eq_of_prefix_keys ((List.prefix_append x.keys rest).trans hy)
  have hle := hy.length_le
  rw [List.length_append] at hle
  exact List.length_eq_zero_iff.1 (by omega)

namespace Path

open Value

variable {v : Value} {keys keys' rest : List String} {path : Path} {old : Option Value}

theorem map_member_inj : keys.map Step.member = keys'.map Step.member ↔ keys = keys' :=
  (List.map_injective_iff.2 fun _ _ h => Step.member.inj h).eq_iff

theorem Apart.not_prefix_way (h : Apart keys path) : ¬ path <+: keys.map .member := by
  rintro ⟨more, hmore⟩
  induction keys generalizing path with
  | nil => exact h
  | cons key keys ih =>
    match path with
    | [] | .item _ :: _ => exact h
    | .member key' :: path =>
      rw [List.cons_append, List.map_cons, List.cons.injEq] at hmore
      exact ih (h (Step.member.inj hmore.1).symm) hmore.2

/-- Two ways through tables part, or one of them goes on from the end of the other. -/
theorem apart_or_prefix (keys keys' : List String) :
    Apart keys (keys'.map .member) ∨ keys' <+: keys ∨ keys <+: keys' := by
  induction keys generalizing keys' with
  | nil => exact .inr (.inr List.nil_prefix)
  | cons key keys ih =>
    cases keys' with
    | nil => exact .inr (.inl List.nil_prefix)
    | cons key' keys' =>
      by_cases hkey : key = key'
      · subst hkey
        simpa [Apart, List.cons_prefix_cons] using ih keys'
      · exact .inl fun h => absurd h hkey

/-- A path that parts from a way parts from each beginning of it, or goes on from its end. -/
theorem Apart.of_append (h : Apart (keys ++ rest) path) :
    Apart keys path ∨ rest ≠ [] ∧ ∃ key more, path = keys.map .member ++ .member key :: more := by
  induction keys generalizing path with
  | nil =>
    match rest, path with
    | [], _ => cases path <;> exact h.elim
    | _ :: _, [] | _ :: _, .item _ :: _ => exact h.elim
    | _ :: _, .member key :: more => exact .inr ⟨List.cons_ne_nil _ _, key, more, rfl⟩
  | cons key keys ih =>
    match path with
    | [] | .item _ :: _ => exact h.elim
    | .member key' :: path =>
      by_cases hkey : key = key'
      · subst hkey
        rcases ih (h rfl) with hapart | ⟨hrest, key', more, rfl⟩
        · exact .inl fun _ => hapart
        · exact .inr ⟨hrest, key', more, rfl⟩
      · exact .inl fun heq => absurd heq hkey

/-- At a way through tables, what is put there is laid over what was there. -/
theorem at?_place_append (v : Value) (keys rest : List String) (old : Option Value) :
    (place v (keys.map .member) old).at? (keys ++ rest) =
      (overlay (old.bind (at? keys)) v).at? rest := by
  induction keys generalizing old with
  | nil => cases old <;> rfl
  | cons key keys ih =>
    rw [List.map_cons, place, List.cons_append, at?_cons, members, lookup?_assign, if_pos rfl,
      Option.bind_some, ih, ← at?_cons, at?_cons_getD_nil]

/-- There are tables on the way to a place. -/
theorem at?_place_table (v : Value) (keys : List String) (key : String) (more : Path)
    (old : Option Value) :
    ∃ ms, (place v (keys.map .member ++ .member key :: more) old).at? keys = some (.table ms) := by
  induction keys generalizing old with
  | nil => exact ⟨_, rfl⟩
  | cons key' keys ih =>
    simp only [List.map_cons, List.cons_append, place, at?_cons, members, lookup?_assign, if_true,
      Option.bind_some]
    exact ih _

end Path

/-- A value at a place is apart from another place, or reaches to it, or is in the group that is
there. -/
theorem ProperAt.cases_place {path : Path} {v : Value} (h : ProperAt path v) {keys : List String}
    (hkeys : Known keys) :
    Path.Apart keys path ∨ (∃ keys' rest, path = keys'.map .member ∧ keys = keys' ++ rest) ∨
      IsGroup keys ∧ ∃ key more, path = keys.map .member ++ .member key :: more := by
  have hway : ∀ (y : Setting) (keys' : List String), keys' <+: y.keys →
      Path.Apart keys (keys'.map .member) ∨
      (∃ keys'' rest, keys'.map Step.member = keys''.map .member ∧ keys = keys'' ++ rest) ∨
      IsGroup keys ∧
        ∃ key more, keys'.map Step.member = keys.map .member ++ .member key :: more := by
    intro y keys' hy
    rcases Path.apart_or_prefix keys keys' with hapart | ⟨rest, rfl⟩ | ⟨rest, rfl⟩
    · exact .inl hapart
    · exact .inr (.inl ⟨keys', rest, rfl, rfl⟩)
    · cases rest with
      | nil => exact .inr (.inl ⟨keys, [], by simp, by simp⟩)
      | cons key more =>
        refine .inr (.inr
          ⟨⟨y, (List.prefix_append keys _).trans hy, ?_⟩, key, more.map .member, ?_⟩)
        · rintro rfl
          have hle := hy.length_le
          simp only [List.length_append, List.length_cons] at hle
          omega
        · simp
  cases h with
  | setting y => exact hway y y.keys (List.prefix_refl _)
  | @group keys' ms hgroup =>
    obtain ⟨y, hy, -⟩ := hgroup
    exact hway y keys' hy
  | elsewhere _ h =>
    obtain ⟨x, rest, hx⟩ := hkeys
    rcases Path.Apart.of_append (hx ▸ h x) with hapart | ⟨hrest, hmore⟩
    · exact .inl hapart
    · refine .inr (.inr ⟨⟨x, ⟨rest, hx⟩, ?_⟩, hmore⟩)
      rintro rfl
      exact hrest (by simpa using hx)

/-! ## Laying over -/

/-- What becomes of a place that is given a value of `gives`: a setting gets one of them if there
is any, and keeps what it had if not. A group keeps what it had or becomes a table. -/
inductive Lands (keys : List String) (gives : Value → Prop) (before : Option Value) :
    Option Value → Prop
  | given {v : Value} (hkeys : ¬ IsGroup keys) (hv : gives v) : Lands keys gives before (some v)
  | kept (h : ∀ v, gives v → IsGroup keys) : Lands keys gives before before
  | table {ms : List (String × Value)} (hkeys : IsGroup keys) :
      Lands keys gives before (some (.table ms))

section

variable {keys : List String} {gives gives' : Value → Prop} {v : Value}
  {before between after : Option Value}

theorem Lands.trans (h : Lands keys gives before between) (h' : Lands keys gives' between after) :
    Lands keys (fun v => gives v ∨ gives' v) before after := by
  cases h' with
  | given hkeys hv => exact .given hkeys (.inr hv)
  | table hkeys => exact .table hkeys
  | kept h' =>
    cases h with
    | given hkeys hv => exact .given hkeys (.inl hv)
    | table hkeys => exact .table hkeys
    | kept h => exact .kept fun v hv => hv.elim (h v) (h' v)

theorem Lands.of_setting {x : Setting} (h : Lands x.keys gives before after) :
    (∃ v, gives v ∧ after = some v) ∨ (∀ v, ¬ gives v) ∧ after = before := by
  cases h with
  | given _ hv => exact .inl ⟨_, hv, rfl⟩
  | kept h => exact .inr ⟨fun v hv => x.not_isGroup (h v hv), rfl⟩
  | table hkeys => exact absurd hkeys x.not_isGroup

theorem Lands.of_group (hkeys : IsGroup keys) (h : Lands keys gives before after) :
    after = before ∨ ∃ ms, after = some (.table ms) := by
  cases h with
  | given hnot => exact absurd hkeys hnot
  | kept => exact .inl rfl
  | table => exact .inr ⟨_, rfl⟩

theorem Lands.congr (h : Lands keys gives before after) (hgives : ∀ v, gives v ↔ gives' v) :
    Lands keys gives' before after := by
  obtain rfl : gives = gives' := funext fun v => propext (hgives v)
  exact h

end

theorem Value.holds_table_cons_iff {m : String × Value} {ms : List (String × Value)} {key : String}
    {rest : List String} {w : Value} :
    (table (m :: ms)).Holds (key :: rest) w ↔
      (foldKey m.1 = key ∧ m.2.Holds rest w) ∨ (table ms).Holds (key :: rest) w := by
  constructor
  · intro h
    cases h with
    | member hm h =>
      rcases List.mem_cons.1 hm with rfl | hm
      · exact .inl ⟨rfl, h⟩
      · exact .inr (.member hm h)
  · rintro (⟨rfl, h⟩ | h)
    · exact .member (List.mem_cons_self ..) h
    · cases h with
      | member hm h => exact .member (List.mem_cons_of_mem _ hm) h

theorem overlayMembers_cons (m : String × Value) (ms : List (String × Value)) (old : Value) :
    ∃ ms', Value.overlayMembers old (m :: ms) = .table ms' := by
  induction ms generalizing m old with
  | nil => exact ⟨_, rfl⟩
  | cons m' ms ih =>
    rw [Value.overlayMembers]
    exact ih m' _

/-- Members are laid over a value one by one, and each changes its own place only. -/
theorem overlayMembers_lands {keys rest : List String} {key : String} {ms : List (String × Value)}
    (h : ∀ m ∈ ms, Value.foldKey m.1 = key → ∀ old : Option Value,
      Lands keys (m.2.Holds rest) (old.bind (Value.at? rest)) ((Value.overlay old m.2).at? rest))
    (old : Value) :
    Lands keys ((Value.table ms).Holds (key :: rest)) (old.at? (key :: rest))
      ((Value.overlayMembers old ms).at? (key :: rest)) := by
  induction ms generalizing old with
  | nil =>
    rw [Value.overlayMembers]
    exact .kept fun v hv => by cases hv with | member hm => cases hm
  | cons m ms ih =>
    rw [Value.overlayMembers]
    have hrest := ih (fun m hm => h m (List.mem_cons_of_mem _ hm))
      (.table (Value.assign (Value.foldKey m.1)
        (Value.overlay (Value.lookup? (Value.foldKey m.1) old.members) m.2) old.members))
    refine Lands.congr (Lands.trans ?_ hrest) fun v => Value.holds_table_cons_iff.symm
    rw [Value.at?_cons, Value.at?_cons, Value.members, Value.lookup?_assign]
    by_cases hkey : key = Value.foldKey m.1
    · rw [if_pos hkey, Option.bind_some, hkey]
      exact (h m (List.mem_cons_self ..) hkey.symm _).congr fun v => by simp
    · rw [if_neg hkey]
      exact .kept fun v hv => absurd hv.1.symm hkey

/-- A value that is proper at a place is laid over it. -/
theorem ProperAt.overlay_lands {path : Path} {v : Value} (h : ProperAt path v)
    {keys rest : List String} (hpath : path = keys.map .member) (hkeys : Known (keys ++ rest))
    (old : Option Value) :
    Lands (keys ++ rest) (v.Holds rest) (old.bind (Value.at? rest))
      ((Value.overlay old v).at? rest) := by
  induction h generalizing keys rest old with
  | setting x hv =>
    obtain rfl := Path.map_member_inj.1 hpath
    obtain rfl := hkeys.eq_nil
    rw [hv.overlay, Value.at?_nil, List.append_nil]
    exact .given x.not_isGroup (.here hv)
  | @group keys' ms hgroup hms ih =>
    obtain rfl := Path.map_member_inj.1 hpath
    rw [Value.overlay]
    cases rest with
    | nil =>
      rw [List.append_nil] at hkeys ⊢
      cases ms with
      | nil =>
        rw [Value.overlayMembers]
        cases old with
        | none => exact .table hgroup
        | some u => exact .kept fun _ _ => hgroup
      | cons m ms =>
        obtain ⟨ms', hms'⟩ := overlayMembers_cons m ms (old.getD (.table []))
        rw [hms']
        exact .table hgroup
    | cons key rest =>
      have hold : old.bind (Value.at? (key :: rest)) =
          (old.getD (.table [])).at? (key :: rest) := by cases old <;> rfl
      rw [hold]
      refine overlayMembers_lands (fun m hm hkey old => ?_) _
      subst hkey
      have hkeys : Known (keys' ++ [Value.foldKey m.1] ++ rest) := by simpa using hkeys
      simpa using ih m hm rfl hkeys old
  | elsewhere v h =>
    obtain ⟨x, hx⟩ := hkeys
    refine absurd ?_ (h x).not_prefix_way
    rw [hpath]
    exact ((List.prefix_append keys rest).trans hx).map _

/-- A value that is proper at its place is put there. -/
theorem ProperAt.place_lands {path : Path} {v : Value} (h : ProperAt path v) {keys : List String}
    (hkeys : Known keys) (old : Option Value) :
    Lands keys (fun w => ∃ rest, keys.map .member = path ++ rest.map .member ∧ v.Holds rest w)
      (old.bind (Value.at? keys)) ((Path.place v path old).at? keys) := by
  rcases h.cases_place hkeys with hapart | ⟨keys, rest, rfl, rfl⟩ | ⟨hgroup, key, more, rfl⟩
  · rw [Path.at?_place_apart hapart]
    refine .kept fun w hw => ?_
    obtain ⟨rest, hrest, -⟩ := hw
    exact absurd ⟨_, hrest.symm⟩ hapart.not_prefix_way
  · rw [Path.at?_place_append]
    have hbefore : old.bind (Value.at? (keys ++ rest)) =
        (old.bind (Value.at? keys)).bind (Value.at? rest) := by
      cases old with
      | none => rfl
      | some u => exact Value.at?_append keys rest u
    rw [hbefore]
    refine (h.overlay_lands rfl hkeys _).congr fun w => ?_
    simp [← List.map_append, Path.map_member_inj]
  · obtain ⟨ms, hms⟩ := Path.at?_place_table v keys key more old
    rw [hms]
    exact .table hgroup

/-! ## Layers -/

section

variable {source : Source} {keys : List String} {root : Value}

/-- A layer gives a place what one of its entries says. -/
theorem Source.Proper.layer_lands (h : source.Proper) (hkeys : Known keys) (root : Value) :
    Lands keys (source.Gives keys) (root.at? keys) ((layer root source).at? keys) := by
  induction source generalizing root with
  | nil => exact .kept fun v ⟨e, he, _⟩ => absurd he List.not_mem_nil
  | cons e source ih =>
    have hentry := (h e (List.mem_cons_self ..)).place_lands hkeys (some root)
    have hrest := ih (fun e he => h e (List.mem_cons_of_mem _ he))
      (Path.place e.2 (Path.ofKey e.1) (some root))
    refine (hentry.trans hrest).congr fun v => ?_
    simp [Source.Gives]

/-- What is said for a setting can be converted to it. -/
theorem ProperAt.convert?_isSome {path : Path} {v w : Value} (h : ProperAt path v)
    {keys rest : List String} (hpath : path = keys.map .member) (hw : v.Holds rest w) {x : Setting}
    (hx : x.keys = keys ++ rest) : (x.convert? w).isSome := by
  induction h generalizing keys rest with
  | setting y hv hy =>
    obtain rfl := Path.map_member_inj.1 hpath
    obtain rfl := Setting.eq_of_prefix_keys ⟨rest, hx.symm⟩
    obtain rfl : rest = [] := by simpa using hx
    cases hw with
    | here => exact hy
  | @group keys' ms hgroup hms ih =>
    obtain rfl := Path.map_member_inj.1 hpath
    cases hw with
    | here hatomic => exact hatomic.elim
    | member hm hw => exact ih _ hm rfl hw (by simpa using hx)
  | elsewhere v h =>
    refine absurd ?_ (h x).not_prefix_way
    rw [hpath, hx]
    exact (List.prefix_append keys rest).map _

theorem Source.Proper.convert?_isSome (h : source.Proper) {x : Setting} {v : Value}
    (hv : source.Gives x.keys v) : (x.convert? v).isSome := by
  obtain ⟨e, he, rest, hrest, hv⟩ := hv
  obtain ⟨keys, rest', hx, hkeys, hrest'⟩ := List.map_eq_append_iff.1 hrest
  rw [Path.map_member_inj] at hrest'
  exact (h e he).convert?_isSome hkeys.symm hv (hrest' ▸ hx)

theorem suitable_empty : Suitable (.table []) where
  settings x v hv := by cases x <;> cases hv
  groups keys _ v hv := by
    cases keys with
    | nil => exact ⟨[], (Option.some.inj hv).symm⟩
    | cons key keys => cases hv

theorem Suitable.layer (h : Suitable root) (hsource : source.Proper) :
    Suitable (layer root source) where
  settings x v hv := by
    have hlands := hsource.layer_lands ⟨x, List.prefix_refl _⟩ root
    rcases hlands.of_setting with ⟨w, hgives, hw⟩ | ⟨-, hsame⟩
    · obtain rfl := Option.some.inj (hw.symm.trans hv)
      exact hsource.convert?_isSome hgives
    · exact h.settings x v (hsame ▸ hv)
  groups keys hkeys v hv := by
    obtain ⟨x, hx, hne⟩ := hkeys
    have hlands := hsource.layer_lands ⟨x, hx⟩ root
    rcases hlands.of_group ⟨x, hx, hne⟩ with hsame | ⟨ms, hms⟩
    · exact h.groups keys ⟨x, hx, hne⟩ v (hsame ▸ hv)
    · exact ⟨ms, Option.some.inj (hv.symm.trans hms)⟩

end

/-! ## All sources -/

/-- The setting is what the last of the sources says of those that give it a value, or its default
if none does. -/
inductive Setting.Comes (x : Setting) (s : Settings) (sources : List Source) : Prop
  | given {before after : List Source} {source : Source} {v : Value}
      (hsources : sources = before ++ source :: after) (hgives : source.Gives x.keys v)
      (hafter : ∀ later ∈ after, ∀ w, ¬ later.Gives x.keys w)
      (hvalue : x.convert? v = some (x.get s))
  | default (hnone : ∀ source ∈ sources, ∀ v, ¬ source.Gives x.keys v)
      (hvalue : x.get s = x.get {})

section

variable {sources : List Source} {root : Value}

theorem Suitable.layers (h : Suitable root) (hsources : ∀ source ∈ sources, source.Proper) :
    Suitable (sources.foldl Settings.layer root) := by
  induction sources generalizing root with
  | nil => exact h
  | cons source sources ih =>
    exact ih (h.layer (hsources source (List.mem_cons_self ..)))
      fun later hlater => hsources later (List.mem_cons_of_mem _ hlater)

/-- What is found at the place of a setting comes from the last source that gives it a value. -/
theorem at?_layers (hsources : ∀ source ∈ sources, source.Proper) (x : Setting) (root : Value) :
    (∃ before source after v, sources = before ++ source :: after ∧ source.Gives x.keys v ∧
        (∀ later ∈ after, ∀ w, ¬ later.Gives x.keys w) ∧
        (sources.foldl layer root).at? x.keys = some v) ∨
      (∀ source ∈ sources, ∀ v, ¬ source.Gives x.keys v) ∧
        (sources.foldl layer root).at? x.keys = root.at? x.keys := by
  induction sources generalizing root with
  | nil => exact .inr ⟨fun source hsource => absurd hsource List.not_mem_nil, rfl⟩
  | cons source sources ih =>
    have hproper := hsources source (List.mem_cons_self ..)
    have hlands := (hproper.layer_lands ⟨x, List.prefix_refl _⟩ root).of_setting
    rcases ih (fun later hlater => hsources later (List.mem_cons_of_mem _ hlater))
        (layer root source) with ⟨before, last, after, v, rfl, hlast⟩ | ⟨hnone, hsame⟩
    · exact .inl ⟨source :: before, last, after, v, rfl, hlast⟩
    · rw [List.foldl_cons]
      rcases hlands with ⟨v, hgives, hv⟩ | ⟨hnot, hkept⟩
      · exact .inl ⟨[], source, sources, v, rfl, hgives, hnone, hsame.trans hv⟩
      · refine .inr ⟨fun later hlater => ?_, hsame.trans hkept⟩
        rcases List.mem_cons.1 hlater with rfl | hlater
        · exact hnot
        · exact hnone later hlater

/-- Sources of proper values can be read, and every setting comes from the last that gives it. -/
theorem exists_ofSources (hsources : ∀ source ∈ sources, source.Proper) :
    ∃ s, ofSources sources = .ok s ∧ ∀ x : Setting, x.Comes s sources := by
  have hsuitable := suitable_empty.layers hsources
  obtain ⟨s, hs⟩ := hsuitable.exists_ofValue?
  refine ⟨s, ofSources_eq_ok_iff.2 hs, fun x => ?_⟩
  have hreads := hsuitable.reads hs x
  unfold Setting.Reads at hreads
  rcases at?_layers hsources x (.table []) with
    ⟨before, source, after, v, heq, hgives, hafter, hv⟩ | ⟨hnone, hsame⟩
  · rw [hv] at hreads
    exact .given heq hgives hafter hreads
  · have hempty : (Value.table []).at? x.keys = none := by cases x <;> rfl
    rw [hsame, hempty] at hreads
    exact .default hnone (Option.some.inj hreads).symm

end

/-! ## Loading -/

/-- The variable that says how much is told of what goes on. -/
def levelVariable : String := "HOOKDB_LOG"

variable {files env : Texts} {path : Option String}

/-- Variables that give no settings make no difference to the settings that an environment gives. -/
theorem ofEnvironment_filter {keep : String × String → Bool} {env : Texts}
    (h : ∀ e ∈ env, keep e = false → variableKey? e.1 = none) :
    Source.ofEnvironment (env.filter keep) = Source.ofEnvironment env := by
  rw [ofEnvironment_eq, ofEnvironment_eq, List.filterMap_filter]
  refine List.filterMap_congr fun e he => ?_
  cases hkeep : keep e with
  | true => simp
  | false => simp [h e he hkeep]

theorem variableKey?_fileVariable : variableKey? fileVariable = none := by decide +kernel

theorem variableKey?_levelVariable : variableKey? levelVariable = none := by decide +kernel

theorem ofEnvironment_without_names (env : Texts) :
    Source.ofEnvironment (env.filter fun e => e.1 ∉ [fileVariable, levelVariable]) =
      Source.ofEnvironment env := by
  refine ofEnvironment_filter fun e _ hname => ?_
  rcases List.mem_pair.1 (of_not_not (of_decide_eq_false hname)) with hname | hname
  · rw [hname, variableKey?_fileVariable]
  · rw [hname, variableKey?_levelVariable]

theorem load_without_level (files env : Texts) (path : Option String) :
    load files (env.filter fun e => e.1 ≠ levelVariable) path = load files env path := by
  have hsource : Source.ofEnvironment (env.filter fun e => e.1 ≠ levelVariable) =
      Source.ofEnvironment env := by
    refine ofEnvironment_filter fun e _ hname => ?_
    rw [of_not_not (of_decide_eq_false hname), variableKey?_levelVariable]
  have hfile : Texts.get? (env.filter fun e => e.1 ≠ levelVariable) fileVariable =
      env.get? fileVariable := by
    have hother : ∀ e : String × String,
        decide (decide (e.1 ≠ levelVariable) = true ∧ (e.1 == fileVariable) = true) =
          (e.1 == fileVariable) := by
      intro e
      by_cases hname : e.1 = fileVariable
      · rw [hname]
        decide
      · simp [hname]
    simp only [Texts.get?, List.find?_filter, hother]
  rw [load_eq, load_eq, hsource, hfile]

/-- A named file that is missing cannot be loaded. -/
theorem exists_load_error {name : String}
    (hname : path = some name ∨ env.get? fileVariable = some name)
    (hmissing : file? files name = none) : ∃ e, load files env path = .error e := by
  have hnone : ∀ source, Source.loadNamed files (some name) ≠ .ok source := by
    intro source
    simp [Source.loadNamed, Source.load, hmissing]
  cases hload : load files env path with
  | error e => exact ⟨e, rfl⟩
  | ok s =>
    rw [load_eq] at hload
    obtain ⟨usual, -, hload⟩ := exists_of_bind_ok hload
    obtain ⟨named, hnamed, hload⟩ := exists_of_bind_ok hload
    obtain ⟨pointedAt, hpointedAt, -⟩ := exists_of_bind_ok hload
    rcases hname with hname | hname
    · exact absurd (hname ▸ hnamed) (hnone named)
    · exact absurd (hname ▸ hpointedAt) (hnone pointedAt)

/-- The name of the usual file, if the file is there. -/
def usualName (files : Texts) : Option String := (file? files usualFile).map fun _ => usualFile

/-- Settings cannot be loaded if a file that is named by the caller or the environment is missing.
If all files can be read, and they and the variables give well-typed values to any settings, then
settings can be loaded, and each of them is what the last says of the usual file, the file named by
the caller, the file named by the environment and the variables, of those that give it a value, or
its default if none does. The variables that name a file and the level of messages give no settings
themselves. -/
theorem load_layers (files env : Texts) (path : Option String) :
    (∀ name, path = some name ∨ env.get? fileVariable = some name → file? files name = none →
        ∃ e, load files env path = .error e) ∧
      (∀ usual named pointedAt, Source.loadNamed files (usualName files) = .ok usual →
        Source.loadNamed files path = .ok named →
        Source.loadNamed files (env.get? fileVariable) = .ok pointedAt →
        (∀ source ∈ [usual, named, pointedAt, .ofEnvironment env], source.Proper) →
        ∃ s, load files env path = .ok s ∧
          ∀ x : Setting, x.Comes s [usual, named, pointedAt, .ofEnvironment env]) ∧
      Source.ofEnvironment (env.filter fun e => e.1 ∉ [fileVariable, levelVariable]) =
        Source.ofEnvironment env ∧
      load files (env.filter fun e => e.1 ≠ levelVariable) path = load files env path := by
  refine ⟨fun name => exists_load_error,
    fun usual named pointedAt husual hnamed hpointedAt hproper => ?_,
    ofEnvironment_without_names env, load_without_level files env path⟩
  obtain ⟨s, hs, hcomes⟩ := exists_ofSources hproper
  refine ⟨s, ?_, hcomes⟩
  rw [usualName] at husual
  rw [load_eq, husual, hnamed, hpointedAt]
  exact hs

/-! ## Files and a variable -/

theorem ProperAt.of_setting (x : Setting) {path : Path} {v : Value}
    (hpath : path = x.keys.map .member) (hv : v.Atomic) (h : (x.convert? v).isSome) :
    ProperAt path v :=
  hpath ▸ .setting x hv h

theorem ProperAt.of_members (keys : List String) {path : Path} {ms : List (String × Value)}
    (hpath : path = keys.map .member) (hkeys : IsGroup keys)
    (h : ∀ m ∈ ms, ProperAt ((keys ++ [Value.foldKey m.1]).map .member) m.2) :
    ProperAt path (.table ms) :=
  hpath ▸ .group hkeys h

/-- A file that is one mapping is the source of its members. -/
theorem loadNamed_of_read? {files : Texts} {name : String} (text : String) (node : Yaml.Node)
    {source : Source} (hfile : file? files name = some text)
    (hmark : text.toList.head? ≠ some '\uFEFF') (hread : Yaml.read? text = some (some node))
    (hnode : Value.ofNode? node = some (.table source)) :
    Source.loadNamed files (some name) = .ok source := by
  have hsource : Source.ofFile? text = some source := by
    unfold Source.ofFile?
    split
    · rename_i heq
      rw [heq] at hmark
      exact absurd rfl hmark
    · simp [hread, hnode]
  simp only [Source.loadNamed, Source.load, hfile, hsource]

/-- Three files and a variable: the usual file gives the log a name and a name to sign in with, the
caller's file another name, the environment's file another kind, and a variable gives a delay. A
file that is not there cannot be loaded. -/
theorem load_layers_four :
    let files : Texts := [("hookdb.yaml", "log:\n  name: a\n  kafka:\n    sasl_username: u\n"),
      ("own.yaml", "log.name: b\n"), ("more.yaml", "LOG:\n  Type: KAFKA\nnotes: [1]\n")]
    let env : Texts := [("HOOKDB_LOG", "debug"), ("HOOKDB_CONFIG", "more"),
      ("HOOKDB__REPLAY__MIN_DELAY_MS", "7")]
    let usual : Source :=
      [("log", .table [("name", .text "a"), ("kafka", .table [("sasl_username", .text "u")])])]
    let named : Source := [("log.name", .text "b")]
    let pointedAt : Source := [("LOG", .table [("Type", .text "KAFKA")]), ("notes", .list [.int 1])]
    let s : Settings := {
      log := { backend := .kafka, name := "b", kafka := { saslUsername := some "u" } }
      replay := { minDelay := 7 } }
    load files env (some "own.yaml") = .ok s ∧
      (∀ x : Setting, x.Comes s [usual, named, pointedAt, .ofEnvironment env]) ∧
      ∃ e, load files env (some "lost.yaml") = .error e := by
  intro files env usual named pointedAt s
  have husual : Source.loadNamed files (usualName files) = .ok usual := by
    have hname : usualName files = some "hookdb.yaml" := by decide +kernel
    rw [hname]
    exact loadNamed_of_read? files[0].2 (.mapping [(.text "log",
      .mapping [(.text "name", .text "a"),
        (.text "kafka", .mapping [(.text "sasl_username", .text "u")])])])
      (by decide +kernel) (by decide +kernel) (by decide +kernel) rfl
  have hnamed : Source.loadNamed files (some "own.yaml") = .ok named :=
    loadNamed_of_read? files[1].2 (.mapping [(.text "log.name", .text "b")])
      (by decide +kernel) (by decide +kernel) (by decide +kernel) rfl
  have hpointedAt : Source.loadNamed files (env.get? fileVariable) = .ok pointedAt := by
    have hname : env.get? fileVariable = some "more" := by decide +kernel
    rw [hname]
    exact loadNamed_of_read? files[2].2 (.mapping [(.text "LOG", .mapping [(.text "Type",
      .text "KAFKA")]), (.text "notes", .sequence [.int 1])])
      (by decide +kernel) (by decide +kernel) (by decide +kernel) rfl
  have henv : Source.ofEnvironment env = [("replay.min_delay_ms", .int 7)] := by
    have hlevel : variableKey? "HOOKDB_LOG" = none := variableKey?_levelVariable
    have hfile : variableKey? "HOOKDB_CONFIG" = none := variableKey?_fileVariable
    have hdelay : variableKey? "HOOKDB__REPLAY__MIN_DELAY_MS" = some "replay.min_delay_ms" := by
      decide +kernel
    have hvalue : ofVariable "7" = .int 7 := rfl
    simp [ofEnvironment_eq, env, hlevel, hfile, hdelay, hvalue]
  have hnotes : Path.ofKey "notes" = [.member "notes"] := by decide +kernel
  have hproper : ∀ source ∈ [usual, named, pointedAt, .ofEnvironment env], source.Proper := by
    simp only [henv, usual, named, pointedAt, Source.Proper, List.forall_mem_cons]
    refine ⟨⟨?_, by simp⟩, ⟨?_, by simp⟩, ⟨?_, ?_, by simp⟩, ⟨?_, by simp⟩, by simp⟩
    · refine .of_members ["log"] (by decide +kernel) isGroup_log ?_
      simp only [List.forall_mem_cons]
      refine ⟨.of_setting .logName (by decide +kernel) trivial rfl,
        .of_members ["log", "kafka"] (by decide +kernel) isGroup_kafka ?_, by simp⟩
      simp only [List.forall_mem_cons]
      exact ⟨.of_setting .saslUsername (by decide +kernel) trivial rfl, by simp⟩
    · exact .of_setting .logName (by decide +kernel) trivial rfl
    · refine .of_members ["log"] (by decide +kernel) isGroup_log ?_
      simp only [List.forall_mem_cons]
      exact ⟨.of_setting .backend (by decide +kernel) trivial (by decide +kernel), by simp⟩
    · rw [hnotes]
      refine .elsewhere _ fun x => ?_
      cases x <;> simp [Path.Apart, Setting.keys]
    · exact .of_setting .minDelay (by decide +kernel) trivial rfl
  have hload : load files env (some "own.yaml") = .ok s := by decide +kernel
  obtain ⟨s', hs', hcomes⟩ := (load_layers files env (some "own.yaml")).2.1 usual named pointedAt
    husual hnamed hpointedAt hproper
  obtain rfl : s = s' := Except.ok.inj (hload.symm.trans hs')
  exact ⟨hload, hcomes, (load_layers files env (some "lost.yaml")).1 "lost.yaml" (.inl rfl)
    (by decide +kernel)⟩

end ReplayRegistry.Settings
