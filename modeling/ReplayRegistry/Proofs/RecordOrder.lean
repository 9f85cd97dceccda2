import ReplayRegistry.Proofs.ViewHistory

/-!
# Proofs: the order of records under different keys

A record is filed under one key or under none. Folding it changes what a view holds for this key and
nothing else, and what it makes of this key depends on nothing else. So records under different keys
can change places, and records that cannot be filed can be left out.
-/

namespace ReplayRegistry

/-- The key a record is filed under, if it can be filed. -/
def Record.filedKey? (r : Record) : Option RegistryKey := r.filing?.map Prod.fst

/-- Of records, those that are filed under a key. -/
def filedUnder (key : RegistryKey) (rs : List Record) : List Record :=
  rs.filter fun r => r.filedKey? = some key

theorem Record.filing?_of_filedKey? {r : Record} {key : RegistryKey}
    (h : r.filedKey? = some key) : ∃ effect, r.filing? = some (key, effect) := by
  obtain ⟨⟨k, effect⟩, hfiling, hkey⟩ := Option.map_eq_some_iff.1 h
  cases hkey
  exact ⟨effect, hfiling⟩

theorem filedUnder_cons_of_eq {key : RegistryKey} {r : Record} (h : r.filedKey? = some key)
    (rs : List Record) : filedUnder key (r :: rs) = r :: filedUnder key rs :=
  List.filter_cons_of_pos (by simpa using h)

theorem filedUnder_cons_of_ne {key : RegistryKey} {r : Record} (h : r.filedKey? ≠ some key)
    (rs : List Record) : filedUnder key (r :: rs) = filedUnder key rs :=
  List.filter_cons_of_neg (by simpa using h)

namespace View

variable {v w : View} {key : RegistryKey}

/-! ## What a view holds for a key -/

/-- Two views hold the same for a key: the document that is shown, and what is kept in flight. -/
structure SameAt (key : RegistryKey) (v w : View) : Prop where
  shown : v.entries.get? key = w.entries.get? key
  marked : v.inFlight.get? key = w.inFlight.get? key

theorem SameAt.refl (key : RegistryKey) (v : View) : SameAt key v v := ⟨rfl, rfl⟩

theorem SameAt.symm (h : SameAt key v w) : SameAt key w v := ⟨h.shown.symm, h.marked.symm⟩

theorem SameAt.trans {u : View} (h : SameAt key u v) (h' : SameAt key v w) : SameAt key u w :=
  ⟨h.shown.trans h'.shown, h.marked.trans h'.marked⟩

theorem SameAt.pending_eq (h : SameAt key v w) : v.pending key = w.pending key := by
  rw [pending, h.marked]
  rfl

/-- Views that hold the same for every key are equal, also if they keep empty lists in flight. -/
theorem eq_of_sameAt (h : ∀ key, SameAt key v w) : v = w := by
  have hentries : v.entries = w.entries := KeyMap.ext_get? fun key => (h key).shown
  have hflight : v.inFlight = w.inFlight := KeyMap.ext_get? fun key => (h key).marked
  cases v
  cases w
  cases hentries
  cases hflight
  rfl

theorem inFlight_setPending (v : View) (key k : RegistryKey) (ps : List Bytes) :
    (v.setPending key ps).inFlight.get? k =
      if k = key then (if ps = [] then none else some ps) else v.inFlight.get? k := by
  by_cases hps : ps = []
  · simp [setPending, hps, KeyMap.get?_erase]
  · simp [setPending, hps, KeyMap.get?_insert]

theorem SameAt.setPending (h : SameAt key v w) (ps : List Bytes) :
    SameAt key (v.setPending key ps) (w.setPending key ps) := by
  refine ⟨h.shown, ?_⟩
  rw [inFlight_setPending, inFlight_setPending, if_pos rfl, if_pos rfl]

theorem setPending_sameAt {k : RegistryKey} (hne : key ≠ k) (v : View) (ps : List Bytes) :
    SameAt key (v.setPending k ps) v := by
  refine ⟨rfl, ?_⟩
  rw [inFlight_setPending, if_neg hne]

theorem SameAt.put (h : SameAt key v w) (effect : Option FunctionDoc) :
    SameAt key (v.put key effect).2 (w.put key effect).2 := by
  cases effect with
  | none => exact ⟨by simp [View.put], h.marked⟩
  | some d => exact ⟨by simp [View.put], h.marked⟩

theorem put_sameAt {k : RegistryKey} (hne : key ≠ k) (v : View) (effect : Option FunctionDoc) :
    SameAt key (v.put k effect).2 v := by
  cases effect with
  | none => exact ⟨by simp [View.put, KeyMap.get?_erase, hne], rfl⟩
  | some d => exact ⟨by simp [View.put, KeyMap.get?_insert, hne], rfl⟩

/-! ## Folding a record -/

/-- A record changes nothing for a key that it is not filed under. -/
theorem foldRecord_sameAt {r : Record} (h : r.filedKey? ≠ some key) (v : View) :
    SameAt key (v.foldRecord r).2 v := by
  unfold foldRecord
  cases hfiling : r.filing? with
  | none => exact .refl key v
  | some filing =>
    obtain ⟨k, effect⟩ := filing
    have hne : key ≠ k := by
      rintro rfl
      exact h (by rw [Record.filedKey?, hfiling]; rfl)
    simp only [foldFiling]
    split
    · exact (put_sameAt hne _ effect).trans (setPending_sameAt hne v _)
    · exact setPending_sameAt hne v _

/-- What a record makes of its key depends on what the view holds for this key alone. -/
theorem SameAt.foldRecord {r : Record} (h : SameAt key v w) (hr : r.filedKey? = some key) :
    SameAt key (v.foldRecord r).2 (w.foldRecord r).2 := by
  obtain ⟨effect, hfiling⟩ := Record.filing?_of_filedKey? hr
  simp only [View.foldRecord, hfiling, foldFiling, h.pending_eq]
  split
  · exact (h.setPending _).put effect
  · exact h.setPending _

/-- For a key, folding records comes to folding those of them that are filed under it. -/
theorem SameAt.foldRecords (h : SameAt key v w) (rs : List Record) :
    SameAt key (v.foldRecords rs) (w.foldRecords (filedUnder key rs)) := by
  induction rs generalizing v w with
  | nil => exact h
  | cons r rs ih =>
    by_cases hr : r.filedKey? = some key
    · rw [filedUnder_cons_of_eq hr]
      exact ih (h.foldRecord hr)
    · rw [filedUnder_cons_of_ne hr]
      exact ih ((foldRecord_sameAt hr v).trans h)

/-! ## Rearranging records -/

/-- Whatever a view holds and has in flight, sequences of records that agree on the records of each
key, in their order, leave it with the same documents and the same payloads in flight. -/
theorem foldRecords_eq_of_filedUnder (v : View) {rs rs' : List Record}
    (h : ∀ key, filedUnder key rs = filedUnder key rs') :
    (v.foldRecords rs).entries = (v.foldRecords rs').entries ∧
      (v.foldRecords rs).inFlight = (v.foldRecords rs').inFlight := by
  have hsame : v.foldRecords rs = v.foldRecords rs' := by
    refine eq_of_sameAt fun key => ?_
    have hrs : SameAt key (v.foldRecords rs) (v.foldRecords (filedUnder key rs)) :=
      (SameAt.refl key v).foldRecords rs
    have hrs' : SameAt key (v.foldRecords rs') (v.foldRecords (filedUnder key rs')) :=
      (SameAt.refl key v).foldRecords rs'
    rw [← h key] at hrs'
    exact hrs.trans hrs'.symm
  rw [hsame]
  exact ⟨rfl, rfl⟩

/-- A write of "a" is under way, "b" is shown, and an empty list is kept for "c". The records of "a"
and "b" change places, "b" is removed by an empty payload, "c" adopts a document without a key, and
two records that cannot be filed come in. -/
theorem foldRecords_eq_of_filedUnder_interleaved :
    let a : FunctionDoc := { id := "a", name := "f" }
    let c : FunctionDoc := { name := "h" }
    let a' : Bytes := { a with status := .suspended }.encode
    let v : View :=
      { entries := KeyMap.empty.insert "b" { id := "b", name := "g" }
        inFlight := (KeyMap.empty.insert "a" [a.encode]).insert "c" [] }
    let rs : List Record := [⟨"a", a.encode⟩, ⟨"b", []⟩, ⟨"c", c.encode⟩, ⟨"a", a'⟩]
    let rs' : List Record :=
      [⟨"c", c.encode⟩, ⟨"a", [0]⟩, ⟨"a", a.encode⟩, ⟨"a", a'⟩, ⟨"", []⟩, ⟨"b", []⟩]
    (∀ key, filedUnder key rs = filedUnder key rs') ∧
      ((v.foldRecords rs).entries = (v.foldRecords rs').entries ∧
        (v.foldRecords rs).inFlight = (v.foldRecords rs').inFlight) ∧
      (v.foldRecords rs).documents = [{ a with status := .suspended }, { c with id := "c" }] ∧
      (v.foldRecords rs).inFlight.keys = [] := by
  intro a c a' v rs rs'
  have hfiled : ∀ key, filedUnder key rs = filedUnder key rs' := by
    intro key
    have ha : (⟨"a", a.encode⟩ : Record).filedKey? = some "a" := by decide +kernel
    have ha' : (⟨"a", a'⟩ : Record).filedKey? = some "a" := by decide +kernel
    have hb : (⟨"b", []⟩ : Record).filedKey? = some "b" := by decide +kernel
    have hc : (⟨"c", c.encode⟩ : Record).filedKey? = some "c" := by decide +kernel
    have hjunk : (⟨"a", [0]⟩ : Record).filedKey? = none := by decide +kernel
    have hkeyless : (⟨"", []⟩ : Record).filedKey? = none := by decide +kernel
    simp only [filedUnder, rs, rs', List.filter_cons, ha, ha', hb, hc, hjunk, hkeyless]
    by_cases hka : key = "a"
    · simp [hka]
    · by_cases hkb : key = "b"
      · simp [hkb]
      · simp [Ne.symm hka, Ne.symm hkb]
  exact ⟨hfiled, foldRecords_eq_of_filedUnder v hfiled, by decide +kernel, by decide +kernel⟩

end View

end ReplayRegistry
