import ReplayRegistry.Proofs.DocumentCodec

/-!
# Proofs: one key of a view

What a view shows of a key, and which payloads are in flight for it, depends on the records that are
filed under this key alone. For each operation of a view there is one lemma about what the view
shows of a key and one about the payloads in flight for it.
-/

namespace ReplayRegistry

/-! ## Versions of a key -/

/-- What a record says of a key. -/
structure Version where
  /-- The payload of the record. -/
  payload : Bytes
  /-- What the record makes of the entry of the key. -/
  effect : Option FunctionDoc
deriving DecidableEq

/-- What a record says of a key, if it is filed under it. -/
def Record.version? (key : RegistryKey) (r : Record) : Option Version :=
  match r.filing? with
  | some (k, effect) => if k = key then some ⟨r.payload, effect⟩ else none
  | none => none

/-- What records say of a key, in their order. -/
def versions (key : RegistryKey) (rs : List Record) : List Version := rs.filterMap (·.version? key)

theorem versions_append (key : RegistryKey) (rs rs' : List Record) :
    versions key (rs ++ rs') = versions key rs ++ versions key rs' := List.filterMap_append

theorem versions_cons (key : RegistryKey) (r : Record) (rs : List Record) :
    versions key (r :: rs) = (r.version? key).toList ++ versions key rs := by
  cases h : r.version? key <;> simp [versions, h]

theorem versions_singleton (key : RegistryKey) (r : Record) :
    versions key [r] = (r.version? key).toList := by
  rw [versions_cons, versions, List.filterMap_nil, List.append_nil]

/-- The payloads of the versions of a key that records hold. -/
def payloads (key : RegistryKey) (rs : List Record) : List Bytes :=
  (versions key rs).map (·.payload)

theorem payloads_append (key : RegistryKey) (rs rs' : List Record) :
    payloads key (rs ++ rs') = payloads key rs ++ payloads key rs' := by
  rw [payloads, versions_append, List.map_append]
  rfl

theorem payloads_cons (key : RegistryKey) (r : Record) (rs : List Record) :
    payloads key (r :: rs) = (r.version? key).toList.map (·.payload) ++ payloads key rs := by
  rw [payloads, versions_cons, List.map_append]
  rfl

theorem payloads_sublist {rs rs' : List Record} (h : rs.Sublist rs') (key : RegistryKey) :
    (payloads key rs).Sublist (payloads key rs') :=
  (h.filterMap _).map _

theorem Record.version?_eq_some {key : RegistryKey} {r : Record} {x : Version} :
    r.version? key = some x ↔ r.filing? = some (key, x.effect) ∧ r.payload = x.payload := by
  unfold Record.version?
  cases h : r.filing? with
  | none => simp
  | some f =>
    obtain ⟨k, effect⟩ := f
    by_cases hk : k = key
    · simp only [hk, if_true, Option.some.injEq, Prod.mk.injEq, true_and]
      constructor
      · rintro rfl
        exact ⟨rfl, rfl⟩
      · rintro ⟨rfl, hp⟩
        rw [hp]
    · simp [hk]

/-- A document that has a key is a version of this key and of no other. -/
theorem Record.version?_encode {d : FunctionDoc} (h : d.id ≠ "") (key : RegistryKey) :
    (⟨d.id, d.encode⟩ : Record).version? key =
      if d.id = key then some ⟨d.encode, d.effect⟩ else none := by
  simp [Record.version?, Record.filing?_encode h]

/-- The payload of a version tells what the version does, if it is the payload of a document. -/
theorem Record.version?_effect {d : FunctionDoc} (h : d.id ≠ "") {key : RegistryKey} {r : Record}
    {x : Version} (hx : r.version? key = some x) (hp : x.payload = d.encode) :
    x.effect = d.effect := by
  obtain ⟨hfiling, hpayload⟩ := Record.version?_eq_some.1 hx
  have hr : r = ⟨r.key, d.encode⟩ := by rw [← hp, ← hpayload]
  rw [hr, Record.filing?_encode h] at hfiling
  exact (Prod.mk.inj (Option.some.inj hfiling)).2.symm

namespace View

/-! ## Retiring payloads -/

theorem retire_of_not_mem {p : Bytes} {ps : List Bytes} (h : p ∉ ps) : retire p ps = ps := by
  simp [retire, List.idxOf?_eq_none_iff.2 h]

theorem retire_append_cons {p : Bytes} {ps : List Bytes} (h : p ∉ ps) (qs : List Bytes) :
    retire p (ps ++ p :: qs) = qs := by
  have hidx : (ps ++ p :: qs).idxOf? p = some ps.length := by
    rw [List.idxOf?_eq_some_iff]
    refine ⟨by simp, by simp, ?_⟩
    intro j hj
    rw [List.getElem_append_left hj]
    exact fun heq => h (heq ▸ List.getElem_mem hj)
  simp [retire, hidx]

/-- A payload in flight splits the payloads in flight into those that are retired with it and those
that stay. -/
theorem retire_split {p : Bytes} {ps : List Bytes} (h : p ∈ ps) :
    ∃ older, ps = older ++ p :: retire p ps ∧ p ∉ older := by
  obtain ⟨older, newer, hps, hnot⟩ := List.eq_append_cons_of_mem h
  refine ⟨older, ?_, hnot⟩
  rw [hps, retire_append_cons hnot]

theorem retire_concat {p q : Bytes} {ps : List Bytes} (h : p ∈ ps ∨ p ≠ q) :
    retire p (ps ++ [q]) = retire p ps ++ [q] := by
  by_cases hp : p ∈ ps
  · obtain ⟨older, heq, hnot⟩ := retire_split hp
    conv_lhs => rw [heq, List.append_assoc, List.cons_append, retire_append_cons hnot]
  · have hne := h.resolve_left hp
    rw [retire_of_not_mem hp, retire_of_not_mem (by simp [hp, hne])]

theorem retire_suffix (p : Bytes) (ps : List Bytes) : retire p ps <:+ ps := by
  by_cases h : p ∈ ps
  · obtain ⟨older, hps, -⟩ := retire_split h
    exact ⟨older ++ [p], by rw [List.append_assoc, List.singleton_append, ← hps]⟩
  · exact ⟨[], by rw [retire_of_not_mem h, List.nil_append]⟩

/-- The last payload in flight stays the last one as long as any is in flight. -/
theorem getLast?_retire {p : Bytes} {ps : List Bytes} (h : retire p ps ≠ []) :
    (retire p ps).getLast? = ps.getLast? := by
  obtain ⟨older, hps⟩ := retire_suffix p ps
  have hlast : ps.getLast? = (retire p ps).getLast?.or older.getLast? := by
    rw [← List.getLast?_append, hps]
  rw [hlast, List.getLast?_eq_some_getLast h]
  rfl

/-- Nothing stays in flight only if the last payload in flight is delivered. -/
theorem getLast?_of_retire_eq_nil {p : Bytes} {ps : List Bytes} (h : retire p ps = [])
    (hps : ps ≠ []) : ps.getLast? = some p := by
  by_cases hp : p ∈ ps
  · obtain ⟨older, heq, -⟩ := retire_split hp
    rw [heq, h]
    simp
  · rw [retire_of_not_mem hp] at h
    exact absurd h hps

/-- If the payloads in flight are among those that are still to come, they stay so with the delivery
of the next. -/
theorem retire_sublist {p : Bytes} {ps qs : List Bytes} (h : ps.Sublist (p :: qs)) :
    (retire p ps).Sublist qs := by
  by_cases hp : p ∈ ps
  · obtain ⟨older, heq, -⟩ := retire_split hp
    rw [heq] at h
    exact List.cons_sublist_cons.1 ((List.sublist_append_right _ _).trans h)
  · rw [retire_of_not_mem hp]
    rcases List.sublist_cons_iff.1 h with h | ⟨rs, rfl, -⟩
    · exact h
    · exact absurd List.mem_cons_self hp

/-- If the payloads that are still to come are in flight, they stay so with the delivery of the
next. -/
theorem sublist_retire {p : Bytes} {ps qs : List Bytes} (h : (p :: qs).Sublist ps) :
    qs.Sublist (retire p ps) := by
  have hp : p ∈ ps := h.subset List.mem_cons_self
  obtain ⟨older, heq, hnot⟩ := retire_split hp
  rw [heq] at h
  generalize retire p ps = newer at h
  clear heq
  induction older with
  | nil => exact List.cons_sublist_cons.1 h
  | cons o older ih =>
    obtain ⟨hne, hnot⟩ := not_or.1 (List.mem_cons.not.1 hnot)
    rcases List.sublist_cons_iff.1 h with h | ⟨rs, heq, -⟩
    · exact ih hnot h
    · exact absurd (List.cons.inj heq).1 hne

/-! ## Folding a record -/

theorem get?_put (v : View) (key key' : RegistryKey) (effect : Option FunctionDoc) :
    (v.put key effect).2.get? key' = if key' = key then effect else v.get? key' := by
  cases effect with
  | none => simp [put, get?, KeyMap.get?_erase]
  | some d => simp [put, get?, KeyMap.get?_insert]

@[simp] theorem pending_put (v : View) (key key' : RegistryKey) (effect : Option FunctionDoc) :
    (v.put key effect).2.pending key' = v.pending key' := by
  cases effect <;> rfl

@[simp] theorem get?_setPending (v : View) (key key' : RegistryKey) (ps : List Bytes) :
    (v.setPending key ps).get? key' = v.get? key' := rfl

/-- A record that is not filed under a key changes nothing for it. -/
theorem foldRecord_of_none {v : View} {r : Record} {key : RegistryKey}
    (h : r.version? key = none) :
    (v.foldRecord r).2.pending key = v.pending key ∧ (v.foldRecord r).2.get? key = v.get? key := by
  unfold Record.version? at h
  unfold foldRecord
  cases hr : r.filing? with
  | none => exact ⟨rfl, rfl⟩
  | some f =>
    obtain ⟨k, effect⟩ := f
    have hk : key ≠ k := by
      rintro rfl
      simp [hr] at h
    simp only [foldFiling]
    split
    · simp [pending_setPending, get?_put, hk]
    · simp [pending_setPending, hk]

/-- A version of a key retires its payload, and is shown if nothing stays in flight. -/
theorem foldRecord_of_some {v : View} {r : Record} {key : RegistryKey} {x : Version}
    (h : r.version? key = some x) :
    (v.foldRecord r).2.pending key = retire x.payload (v.pending key) ∧
      (v.foldRecord r).2.get? key =
        if retire x.payload (v.pending key) = [] then x.effect else v.get? key := by
  obtain ⟨hfiling, hpayload⟩ := Record.version?_eq_some.1 h
  simp only [foldRecord, hfiling, foldFiling, hpayload]
  split
  · simp [pending_setPending, get?_put]
  · simp [pending_setPending]

/-- A view that has nothing in flight passes over no record. -/
theorem foldRecord_ne_superseded {v : View} (h : ∀ key, v.pending key = []) (r : Record)
    (key : RegistryKey) : (v.foldRecord r).1 ≠ some (.superseded key) := by
  unfold foldRecord
  cases r.filing? with
  | none => simp
  | some f =>
    obtain ⟨k, effect⟩ := f
    have hretire : retire r.payload (v.pending k) = [] := by rw [h k]; rfl
    cases effect <;> simp [foldFiling, hretire, put]

/-! ## Writing a document -/

/-- The view once a document has been appended and shown. -/
def install (v : View) (d : FunctionDoc) : View :=
  ((v.beginLocal d.id d.encode).commitLocal d d.encode).2

theorem pending_beginLocal (v : View) (key key' : RegistryKey) (p : Bytes) :
    (v.beginLocal key p).pending key' =
      if key' = key then v.pending key ++ [p] else v.pending key' :=
  pending_setPending v key key' _

theorem install_eq (v : View) (d : FunctionDoc) :
    v.install d = ((v.beginLocal d.id d.encode).put d.id d.effect).2 := by
  have hmem : d.encode ∈ (v.beginLocal d.id d.encode).pending d.id := by
    simp [pending_beginLocal]
  simp [install, commitLocal, hmem, apply]

theorem pending_install (v : View) (d : FunctionDoc) (key : RegistryKey) :
    (v.install d).pending key =
      if key = d.id then v.pending key ++ [d.encode] else v.pending key := by
  rw [install_eq, pending_put, pending_beginLocal]
  split
  · rename_i h
    rw [h]
  · rfl

theorem get?_install (v : View) (d : FunctionDoc) (key : RegistryKey) :
    (v.install d).get? key = if key = d.id then d.effect else v.get? key := by
  rw [install_eq, get?_put]
  rfl

/-! ## Keys of the documents that are shown -/

/-- Documents are shown under their own keys. -/
def Keyed (v : View) : Prop := ∀ key d, v.get? key = some d → d.id = key ∧ key ≠ ""

theorem keyed_empty : ({} : View).Keyed := fun _ _ h => by cases h

theorem Keyed.apply {v : View} (h : v.Keyed) {d : FunctionDoc} (hid : d.id ≠ "") :
    (v.apply d).2.Keyed := by
  intro key d' hget
  rw [View.apply, get?_put] at hget
  split at hget
  · rename_i hkey
    rw [FunctionDoc.eq_of_effect hget, hkey]
    exact ⟨rfl, hid⟩
  · exact h key d' hget

theorem Keyed.foldRecord {v : View} (h : v.Keyed) (r : Record) : (v.foldRecord r).2.Keyed := by
  intro key d hget
  cases hx : r.version? key with
  | none =>
    rw [(foldRecord_of_none hx).2] at hget
    exact h key d hget
  | some x =>
    rw [(foldRecord_of_some hx).2] at hget
    split at hget
    · have hfiling := (Record.version?_eq_some.1 hx).1
      rw [hget] at hfiling
      exact ⟨Record.filing?_id hfiling, (Record.filing?_cases hfiling).1⟩
    · exact h key d hget

/-! ## Views without empty lists of payloads -/

/-- A key without payloads in flight is not kept among those that have some. -/
def Tidy (v : View) : Prop := ∀ key, v.inFlight.get? key ≠ some []

theorem tidy_empty (entries : KeyMap FunctionDoc) : ({ entries } : View).Tidy := by
  intro key
  have hnone : (∅ : KeyMap (List Bytes)).get? key = none := KeyMap.get?_empty key
  rw [hnone]
  simp

theorem Tidy.setPending {v : View} (h : v.Tidy) (key : RegistryKey) (ps : List Bytes) :
    (v.setPending key ps).Tidy := by
  intro key'
  by_cases hps : ps = []
  · by_cases hk : key' = key <;> simp [View.setPending, KeyMap.get?_erase, hps, hk, h key']
  · by_cases hk : key' = key <;> simp [View.setPending, KeyMap.get?_insert, hps, hk, h key']

theorem Tidy.put {v : View} (h : v.Tidy) (key : RegistryKey) (effect : Option FunctionDoc) :
    (v.put key effect).2.Tidy := by
  cases effect <;> exact h

theorem Tidy.foldRecord {v : View} (h : v.Tidy) (r : Record) : (v.foldRecord r).2.Tidy := by
  unfold View.foldRecord
  cases r.filing? with
  | none => exact h
  | some f =>
    simp only [foldFiling]
    split
    · exact (h.setPending _ _).put _ _
    · exact h.setPending _ _

theorem Tidy.install {v : View} (h : v.Tidy) (d : FunctionDoc) : (v.install d).Tidy := by
  rw [install_eq]
  exact (h.setPending _ _).put _ _

/-- What is in flight is known from the payloads in flight for each key. -/
theorem Tidy.inFlight_eq {v : View} (h : v.Tidy) (key : RegistryKey) :
    v.inFlight.get? key = if v.pending key = [] then none else some (v.pending key) := by
  have hkey := h key
  unfold pending
  cases hget : v.inFlight.get? key with
  | none => simp
  | some ps =>
    have hps : ps ≠ [] := by
      rintro rfl
      exact hkey hget
    simp [hps]

theorem Tidy.inFlight_ext {v v' : View} (h : v.Tidy) (h' : v'.Tidy)
    (hpending : ∀ key, v.pending key = v'.pending key) : v.inFlight = v'.inFlight := by
  refine KeyMap.ext_get? ?_
  intro key
  rw [h.inFlight_eq, h'.inFlight_eq, hpending]

theorem Tidy.ext {v v' : View} (h : v.Tidy) (h' : v'.Tidy) (hget : ∀ key, v.get? key = v'.get? key)
    (hpending : ∀ key, v.pending key = v'.pending key) : v = v' := by
  have hentries : v.entries = v'.entries := KeyMap.ext_get? hget
  have hflight : v.inFlight = v'.inFlight := h.inFlight_ext h' hpending
  cases v
  cases v'
  rw [View.mk.injEq]
  exact ⟨hentries, hflight⟩

theorem Tidy.inFlight_eq_empty {v : View} (h : v.Tidy) :
    v.inFlight = ∅ ↔ ∀ key, v.pending key = [] := by
  constructor
  · intro hempty key
    rw [pending, hempty]
    rfl
  · intro hnone
    refine KeyMap.ext_get? ?_
    intro key
    rw [h.inFlight_eq, if_pos (hnone key)]
    rfl

/-- A write whose append fails leaves no trace. -/
theorem Tidy.abortLocal_beginLocal {v : View} (h : v.Tidy) (key : RegistryKey) (p : Bytes) :
    (v.beginLocal key p).abortLocal key p = v := by
  refine Tidy.ext ((h.setPending _ _).setPending _ _) h (fun _ => rfl) fun key' => ?_
  rw [abortLocal, pending_setPending]
  split
  · rename_i hk
    simp [pending_beginLocal, hk]
  · rename_i hk
    rw [pending_beginLocal, if_neg hk]

end View

end ReplayRegistry
