import ReplayRegistry.Proofs.InFlight

/-!
# Proofs: the history of a view

Between two writes a view has folded the records that were delivered, and taken part in writes: a
write notes its payload, records are folded while it is under way, and then its document is shown,
or the note is taken back. Whatever these records are, the view shows the document of the last
payload in flight for a key, as long as there is one.
-/

namespace ReplayRegistry

namespace View

variable {v w : View} {key : RegistryKey}

/-! ## Folding records -/

/-- Fold records in their order. -/
def foldRecords (v : View) (rs : List Record) : View :=
  rs.foldl (fun v r => (v.foldRecord r).2) v

/-- Of the records that are folded, the versions of a key decide what is in flight for it and what
is shown of it. -/
theorem foldRecords_versions (v : View) (rs : List Record) (key : RegistryKey) :
    (v.foldRecords rs).pending key = retireAll (v.pending key) (versions key rs) ∧
      (v.foldRecords rs).get? key =
        shownAfter (v.pending key) (v.get? key) (versions key rs) := by
  induction rs generalizing v with
  | nil => exact ⟨rfl, (shownAfter_nil _ _).symm⟩
  | cons r rs ih =>
    obtain ⟨hpending₁, hget₁⟩ := foldRecord_versions v r key
    obtain ⟨hpending, hget⟩ := ih (v.foldRecord r).2
    have hsplit : versions key (r :: rs) = versions key [r] ++ versions key rs :=
      versions_append key [r] rs
    rw [hsplit, retireAll_append, shownAfter_append, ← hpending₁, ← hget₁]
    exact ⟨hpending, hget⟩

/-! ## Writes with deliveries in between -/

/-- The view once records have been folded while a payload is being written under a key. -/
def duringWrite (v : View) (key : RegistryKey) (payload : Bytes) (rs : List Record) : View :=
  (v.beginLocal key payload).foldRecords rs

theorem duringWrite_versions (v : View) (key : RegistryKey) (p : Bytes) (rs : List Record) :
    (v.duringWrite key p rs).pending key =
        retireAll (v.pending key ++ [p]) (versions key rs) ∧
      (v.duringWrite key p rs).get? key =
        shownAfter (v.pending key ++ [p]) (v.get? key) (versions key rs) := by
  obtain ⟨hpending, hget⟩ := foldRecords_versions (v.beginLocal key p) rs key
  rw [pending_beginLocal, if_pos rfl] at hpending hget
  exact ⟨hpending, hget⟩

/-- A write under another key changes nothing for a key. -/
theorem duringWrite_of_ne (v : View) {k : RegistryKey} (h : k ≠ key) (p : Bytes)
    (rs : List Record) :
    (v.duringWrite key p rs).pending k = (v.foldRecords rs).pending k ∧
      (v.duringWrite key p rs).get? k = (v.foldRecords rs).get? k := by
  obtain ⟨hpending, hget⟩ := foldRecords_versions (v.beginLocal key p) rs k
  obtain ⟨hpending', hget'⟩ := foldRecords_versions v rs k
  rw [pending_beginLocal, if_neg h] at hpending hget
  exact ⟨hpending.trans hpending'.symm, hget.trans hget'.symm⟩

/-- While a write is under way, its payload is the last one in flight, and the view shows of the key
what it showed before; or the payload has returned, and nothing is in flight for the key. -/
theorem duringWrite_cases (v : View) (key : RegistryKey) (p : Bytes) (rs : List Record) :
    (v.duringWrite key p rs).pending key = [] ∨
      ∃ older, older <:+ v.pending key ∧ (v.duringWrite key p rs).pending key = older ++ [p] ∧
        (v.duringWrite key p rs).get? key = v.get? key := by
  obtain ⟨hpending, hget⟩ := duringWrite_versions v key p rs
  have hsuffix := retireAll_suffix (v.pending key ++ [p]) (versions key rs)
  rw [← hpending, List.suffix_concat_iff] at hsuffix
  rcases hsuffix with hnil | ⟨older, hlast, holder⟩
  · exact .inl hnil
  · refine .inr ⟨older, holder, hlast, ?_⟩
    rw [hget, shownAfter, if_neg]
    rw [← hpending, hlast]
    simp

theorem commitLocal_of_mem {d : FunctionDoc} {p : Bytes} (h : p ∈ v.pending d.id) :
    v.commitLocal d p = (some (v.apply d).1, (v.apply d).2) := if_pos h

theorem commitLocal_of_not_mem {d : FunctionDoc} {p : Bytes} (h : p ∉ v.pending d.id) :
    v.commitLocal d p = (none, v) := if_neg h

theorem pending_abortLocal (v : View) (key k : RegistryKey) (p : Bytes) :
    (v.abortLocal key p).pending k =
      if k = key then ((v.pending key).reverse.erase p).reverse else v.pending k :=
  pending_setPending v key k _

/-! ## What is in flight is shown -/

/-- If payloads are in flight for a key, the view shows the document of the last of them. -/
def Installed (v : View) (key : RegistryKey) : Prop :=
  v.pending key ≠ [] → ∃ d : FunctionDoc, d.id = key ∧
    (v.pending key).getLast? = some d.encode ∧ v.get? key = d.effect

theorem installed_of_nil (h : v.pending key = []) : v.Installed key := fun hne => absurd h hne

/-- If the last payload in flight stays, and what is shown stays with it, it is still shown. -/
theorem Installed.of_suffix (h : v.Installed key) (hsuffix : w.pending key <:+ v.pending key)
    (hget : w.pending key ≠ [] → w.get? key = v.get? key) : w.Installed key := by
  intro hne
  obtain ⟨older, holder⟩ := hsuffix
  obtain ⟨d, hid, hlast, hshown⟩ := h (by rw [← holder]; simp [hne])
  refine ⟨d, hid, ?_, (hget hne).trans hshown⟩
  rw [← hlast, ← holder, List.getLast?_append, List.getLast?_eq_some_getLast hne]
  rfl

theorem Installed.foldRecords (h : v.Installed key) (rs : List Record) :
    (v.foldRecords rs).Installed key := by
  obtain ⟨hpending, hget⟩ := foldRecords_versions v rs key
  refine h.of_suffix (by rw [hpending]; exact retireAll_suffix _ _) fun hne => ?_
  rw [hpending] at hne
  rw [hget, shownAfter, if_neg hne]

/-- A write that is under way leaves the other keys as the records do. -/
theorem Installed.duringWrite (h : v.Installed key) {k : RegistryKey} (hne : key ≠ k) (p : Bytes)
    (rs : List Record) : (v.duringWrite k p rs).Installed key := by
  obtain ⟨hpending, hget⟩ := v.duringWrite_of_ne hne p rs
  unfold Installed
  rw [hpending, hget]
  exact h.foldRecords rs

theorem Installed.commit (h : v.Installed key) (d : FunctionDoc) (rs : List Record) :
    ((v.duringWrite d.id d.encode rs).commitLocal d d.encode).2.Installed key := by
  by_cases hmem : d.encode ∈ (v.duringWrite d.id d.encode rs).pending d.id
  · rw [commitLocal_of_mem hmem]
    intro hne
    simp only [apply, pending_put, get?_put] at hne ⊢
    by_cases hkey : key = d.id
    · subst hkey
      rcases v.duringWrite_cases d.id d.encode rs with hnil | ⟨older, -, hlast, -⟩
      · exact absurd hnil hne
      · exact ⟨d, rfl, by rw [hlast, List.getLast?_concat], if_pos rfl⟩
    · rw [if_neg hkey]
      exact h.duringWrite hkey d.encode rs hne
  · rw [commitLocal_of_not_mem hmem]
    by_cases hkey : key = d.id
    · subst hkey
      -- the payload has returned: were anything in flight, this payload would be the last
      rcases v.duringWrite_cases d.id d.encode rs with hnil | ⟨older, -, hlast, -⟩
      · exact installed_of_nil hnil
      · exact absurd (by rw [hlast]; simp) hmem
    · exact h.duringWrite hkey d.encode rs

theorem Installed.abort (h : v.Installed key) (k : RegistryKey) (p : Bytes) (rs : List Record) :
    ((v.duringWrite k p rs).abortLocal k p).Installed key := by
  have hpending := pending_abortLocal (v.duringWrite k p rs) k key p
  by_cases hkey : key = k
  · subst hkey
    rw [if_pos rfl] at hpending
    rcases v.duringWrite_cases key p rs with hnil | ⟨older, hsuffix, hlast, hget⟩
    · exact installed_of_nil (by rw [hpending, hnil]; rfl)
    · have holder : ((v.duringWrite key p rs).abortLocal key p).pending key = older := by
        rw [hpending, hlast]
        simp
      exact h.of_suffix (by rw [holder]; exact hsuffix) fun _ => hget
  · rw [if_neg hkey] at hpending
    have hshown := h.duringWrite hkey p rs
    unfold Installed at hshown ⊢
    rw [hpending]
    exact hshown

/-! ## Histories -/

/-- A view that calls lead to, in whatever order they come. -/
inductive Reachable : View → Prop
  | empty : Reachable {}
  | apply {v : View} (h : v.Reachable) (d : FunctionDoc) : (v.apply d).2.Reachable
  | fold {v : View} (h : v.Reachable) (r : Record) : (v.foldRecord r).2.Reachable
  | beginLocal {v : View} (h : v.Reachable) (key : RegistryKey) (p : Bytes) :
      (v.beginLocal key p).Reachable
  | commitLocal {v : View} (h : v.Reachable) (d : FunctionDoc) (p : Bytes) :
      (v.commitLocal d p).2.Reachable
  | abortLocal {v : View} (h : v.Reachable) (key : RegistryKey) (p : Bytes) :
      (v.abortLocal key p).Reachable

theorem Reachable.tidy (h : v.Reachable) : v.Tidy := by
  induction h with
  | empty => exact tidy_empty ∅
  | apply _ d ih => exact ih.put _ _
  | fold _ r ih => exact ih.foldRecord r
  | beginLocal _ key p ih => exact ih.setPending _ _
  | commitLocal _ d p ih =>
    unfold View.commitLocal
    split
    · exact ih.put _ _
    · exact ih
  | abortLocal _ key p ih => exact ih.setPending _ _

theorem Reachable.foldRecords (h : v.Reachable) (rs : List Record) :
    (v.foldRecords rs).Reachable := by
  induction rs generalizing v with
  | nil => exact h
  | cons r rs ih => exact ih (h.fold r)

/-- A view between two writes of its store. -/
inductive BetweenWrites : View → Prop
  | empty : BetweenWrites {}
  /-- A record is delivered. -/
  | fold {v : View} (h : v.BetweenWrites) (r : Record) : (v.foldRecord r).2.BetweenWrites
  /-- A document is written and the records `rs` are delivered before the write ends. -/
  | commit {v : View} (h : v.BetweenWrites) (d : FunctionDoc) (rs : List Record) :
      ((v.duringWrite d.id d.encode rs).commitLocal d d.encode).2.BetweenWrites
  /-- The same, but the write fails. -/
  | abort {v : View} (h : v.BetweenWrites) (d : FunctionDoc) (rs : List Record) :
      ((v.duringWrite d.id d.encode rs).abortLocal d.id d.encode).BetweenWrites

theorem BetweenWrites.reachable (h : v.BetweenWrites) : v.Reachable := by
  induction h with
  | empty => exact .empty
  | fold _ r ih => exact ih.fold r
  | commit _ d rs ih => exact ((ih.beginLocal d.id d.encode).foldRecords rs).commitLocal d d.encode
  | abort _ d rs ih =>
    exact ((ih.beginLocal d.id d.encode).foldRecords rs).abortLocal d.id d.encode

/-- A view while the write of a document is under way. -/
def Writing (d : FunctionDoc) (w : View) : Prop :=
  ∃ (v : View) (rs : List Record), v.BetweenWrites ∧ w = v.duringWrite d.id d.encode rs

theorem Writing.fold {d : FunctionDoc} (h : w.Writing d) (r : Record) :
    (w.foldRecord r).2.Writing d := by
  obtain ⟨v, rs, hv, rfl⟩ := h
  refine ⟨v, rs ++ [r], hv, ?_⟩
  simp [duringWrite, View.foldRecords]

/-- Between writes, a view shows what is in flight. -/
theorem BetweenWrites.installed (h : v.BetweenWrites) (key : RegistryKey) : v.Installed key := by
  induction h with
  | empty => exact installed_of_nil rfl
  | fold _ r ih => exact ih.foldRecords [r]
  | commit _ d rs ih => exact ih.commit d rs
  | abort _ d rs ih => exact ih.abort d.id d.encode rs

end View

end ReplayRegistry
