import ReplayRegistry.Proofs.ClosedStores
import ReplayRegistry.Proofs.WholeWrites

/-!
# Proofs: what stores hold

Whatever records a log holds and whatever is written meanwhile, a store shows documents under their
own keys, no key is empty, and no deleted document is shown. So what is loaded are the documents
that can be got by key, each of them once.
-/

namespace ReplayRegistry

/-! ## Live views -/

namespace View

variable {v : View}

/-- No deleted document is shown. -/
def Live (v : View) : Prop := ∀ key d, v.get? key = some d → d.status ≠ .deleted

theorem live_empty : ({} : View).Live := fun _ _ h => by cases h

theorem live_of_effect {d d' : FunctionDoc} (h : d.effect = some d') : d'.status ≠ .deleted := by
  rw [FunctionDoc.effect_eq] at h
  split at h
  · cases h
  · rename_i hstatus
    cases h
    exact hstatus

theorem Live.put (h : v.Live) (key : RegistryKey) {effect : Option FunctionDoc}
    (heffect : ∀ d, effect = some d → d.status ≠ .deleted) : (v.put key effect).2.Live := by
  intro key' d hget
  rw [get?_put] at hget
  split at hget
  · exact heffect d hget
  · exact h key' d hget

theorem Live.apply (h : v.Live) (d : FunctionDoc) : (v.apply d).2.Live :=
  h.put d.id fun _ heffect => live_of_effect heffect

theorem Live.foldRecord (h : v.Live) (r : Record) : (v.foldRecord r).2.Live := by
  unfold View.foldRecord
  cases hfiling : r.filing? with
  | none => exact h
  | some filing =>
    obtain ⟨key, effect⟩ := filing
    have heffect : ∀ d, effect = some d → d.status ≠ .deleted := by
      rintro d rfl
      obtain ⟨-, hnone | ⟨d', -, hd'⟩⟩ := Record.filing?_cases hfiling
      · cases hnone
      · exact live_of_effect hd'
    have hset : (v.setPending key (retire r.payload (v.pending key))).Live := h
    simp only [foldFiling]
    split
    · exact hset.put key heffect
    · exact hset

/-! ## What is read from a view -/

/-- A view shows documents under their own keys, which are not empty, and no deleted document. -/
structure WellKeyed (v : View) : Prop where
  keyed : v.Keyed
  live : v.Live

/-- The keys of the documents are the keys of the entries. -/
theorem Keyed.map_id (h : v.Keyed) : v.documents.map (·.id) = v.entries.keys := by
  rw [documents, KeyMap.values, List.map_map]
  refine List.map_congr_left ?_
  rintro ⟨key, d⟩ hmem
  exact (h key d (KeyMap.mem_entries_iff.1 hmem)).1

end View

namespace Store

variable {s : Store}

theorem getByKey_eq_ok {key : RegistryKey} {d : FunctionDoc} :
    s.getByKey key = .ok d ↔ s.view.get? key = some d := by
  unfold getByKey
  cases s.view.get? key <;> simp

/-- What is loaded from a well-keyed view. -/
theorem load_of_wellKeyed (h : s.view.WellKeyed) :
    (s.load.map (·.id)).Nodup ∧
      (∀ key, key ∈ s.load.map (·.id) ↔ ∃ d, s.getByKey key = .ok d) ∧
      (∀ d ∈ s.load, d.id ≠ "" ∧ s.getByKey d.id = .ok d ∧ d.status ≠ .deleted) ∧
      s.size = s.load.length ∧
      ∀ key d, s.getByKey key = .ok d → d.id = key := by
  have hids : s.load.map (·.id) = s.view.entries.keys := h.keyed.map_id
  refine ⟨?_, ?_, ?_, ?_, ?_⟩
  · rw [hids]
    exact s.view.entries.nodup_keys
  · intro key
    rw [hids, KeyMap.mem_keys_iff]
    simp only [getByKey_eq_ok]
    rfl
  · intro d hd
    obtain ⟨key, hget⟩ := KeyMap.mem_values_iff.1 hd
    obtain ⟨hid, hkey⟩ := h.keyed key d hget
    have hstatus := h.live key d hget
    rw [getByKey_eq_ok, hid]
    exact ⟨hkey, hget, hstatus⟩
  · exact (KeyMap.length_values _).symm
  · intro key d hget
    exact (h.keyed key d (getByKey_eq_ok.1 hget)).1

end Store

/-! ## Steps of writes -/

theorem Traffic.Progress.live {i : Nat} {s s' : Store} {o o' : Option OpenWrite}
    {e : Traffic.Event} (h : Progress i s o e s' o') (hs : s.view.Live) : s'.view.Live := by
  cases h with
  | reads o e hreads =>
    rcases hreads with hsame | ⟨r, hfold⟩
    · rw [hsame]
      exact hs
    · rw [hfold]
      exact hs.foldRecord r
  | write hprepare hview =>
    rename_i d
    rw [hview, View.install_eq]
    have hnoted : (s.view.beginLocal d.id d.encode).Live := hs
    exact hnoted.apply d
  | endWrite d answer =>
    cases answer with
    | error e => exact hs
    | ok _ =>
      show ((s.view.commitLocal d d.encode).2).Live
      unfold View.commitLocal
      split
      · exact hs.apply d
      · exact hs
  | _ => exact hs

namespace Fleet

variable {f : Fleet} {i : Nat} {m : Member}

/-! ## Events -/

theorem Moves.reads {b b' : Broker} {o : Option OpenWrite} {m' : Member} {x x' : Task}
    {ts : List Turn} (h : Moves b o m x ts m' b' x') : m.store.view.Reads m'.store.view := by
  cases h with
  | fold r hengaged => exact .inr ⟨r, rfl⟩
  | _ => exact .inl rfl

/-- Whatever happens, what a store shows and the write that is under way in it go on as in traffic,
by a step of the write or by at most one record that is folded. -/
theorem step_progress (hm : f.members[i]? = some m) (e : Event) :
    ∃ m' e', (f.step e).members[i]? = some m' ∧
      Traffic.Progress i m.store (f.underWay i) e' m'.store ((f.step e).underWay i) := by
  by_cases hstore : e.store? = some i
  · obtain ⟨m', hm', hmoves⟩ := step_moves hm hstore
    have hopen := congrFun (step_frame (f := f) hstore).underWay i
    refine ⟨m', .note i, hm', ?_⟩
    rw [hopen]
    exact .reads _ _ hmoves.reads
  · by_cases hwriter : e.writer? = some i
    · cases e with
      | traffic e =>
        by_cases hadmits : f.admits e
        · have hstep : f.step (.traffic e) = { f with toTraffic := f.toTraffic.step e } :=
            if_pos hadmits
          obtain ⟨m', hm', hprogress⟩ := Traffic.writer_progresses (t := f.toTraffic) hm hwriter
          rw [hstep]
          exact ⟨m', e, hm', hprogress⟩
        · have hstep : f.step (.traffic e) = f := if_neg hadmits
          rw [hstep]
          exact ⟨m, .note i, hm, .reads _ _ (.inl rfl)⟩
      | _ => cases hwriter
    · obtain ⟨m', hm', hview, hopen⟩ := step_elsewhere hm hstore hwriter
      refine ⟨m', .note i, hm', ?_⟩
      rw [hopen]
      exact .reads _ _ (.inl hview)

/-- What is under way in a store that is not there stays as it is. -/
theorem step_absent_underWay (hnone : f.members[i]? = none) (e : Event) :
    (f.step e).underWay i = f.underWay i := by
  cases hstore : e.store? with
  | some j => exact congrFun (step_frame hstore).underWay i
  | none =>
    cases e with
    | traffic e =>
      simp only [step]
      split
      · rename_i hadmits
        rcases admits_cases hadmits with ⟨x, rfl⟩ | ⟨ms, rfl⟩ | hsome
        · rfl
        · rfl
        · obtain ⟨j, hj⟩ := Option.isSome_iff_exists.1 hsome
          by_cases hji : j = i
          · subst hji
            rw [Traffic.step_of_absent (t := f.toTraffic) hj hnone]
          · exact (Traffic.step_of_ne (t := f.toTraffic) hj hji).2
      · rfl
    | openStore log settings => rfl
    | _ => cases hstore

/-! ## Runs -/

/-- Every store has a well-keyed view, and the documents that are being written have keys. -/
structure WellKeyed (f : Fleet) : Prop where
  views : ∀ (i : Nat) m, f.members[i]? = some m → m.store.view.WellKeyed
  docs : ∀ (i : Nat) o, f.underWay i = some o → o.doc.id ≠ ""

theorem wellKeyed_empty : ({} : Fleet).WellKeyed where
  views _ _ hm := by cases hm
  docs _ _ ho := by cases ho

theorem WellKeyed.step (h : f.WellKeyed) (e : Event) : (f.step e).WellKeyed := by
  have hboth : ∀ i : Nat, (∀ m', (f.step e).members[i]? = some m' → m'.store.view.WellKeyed) ∧
      ∀ o, (f.step e).underWay i = some o → o.doc.id ≠ "" := by
    intro i
    cases hm : f.members[i]? with
    | none =>
      rw [step_absent_underWay hm e]
      refine ⟨?_, h.docs i⟩
      intro m' hm'
      obtain ⟨log, settings, -, -, rfl⟩ := step_born hm hm'
      exact ⟨View.keyed_empty, View.live_empty⟩
    | some m =>
      obtain ⟨m₁, e', hm₁, hprogress⟩ := step_progress hm e
      have hview := h.views i m hm
      obtain ⟨hkeyed, hdocs⟩ := hprogress.keyed hview.keyed (h.docs i)
      refine ⟨?_, hdocs⟩
      intro m' hm'
      rw [hm₁] at hm'
      cases hm'
      exact ⟨hkeyed, hprogress.live hview.live⟩
  exact ⟨fun i => (hboth i).1, fun i => (hboth i).2⟩

theorem WellKeyed.run (h : f.WellKeyed) (es : List Event) : (f.run es).WellKeyed := by
  induction es generalizing f with
  | nil => exact h
  | cons e es ih => exact ih (h.step e)

/-- In every state that events lead to, also in the middle of writes and closing, a store loads the
documents of its keys, each once. Every one of them has a key, is what is got by this key, and is
not deleted; their number is the size; and nothing is got by a key but a document that has it. -/
theorem load_well_keyed {f : Fleet} (hf : f.Reachable) {i : Nat} {m : Member}
    (hm : f.members[i]? = some m) :
    (m.store.load.map (·.id)).Nodup ∧
      (∀ key, key ∈ m.store.load.map (·.id) ↔ ∃ d, m.store.getByKey key = .ok d) ∧
      (∀ d ∈ m.store.load,
        d.id ≠ "" ∧ m.store.getByKey d.id = .ok d ∧ d.status ≠ .deleted) ∧
      m.store.size = m.store.load.length ∧
      ∀ key d, m.store.getByKey key = .ok d → d.id = key := by
  obtain ⟨es, rfl⟩ := hf
  exact Store.load_of_wellKeyed ((wellKeyed_empty.run es).views i m hm)

/-- Others append a document without a key, one under the key of another, one that is deleted and
one that cannot be read; the store follows them, and a write of its own is under way. -/
def strangeEvents : List Event :=
  let given : List Record :=
    [⟨"k", FunctionDoc.encode { name := "f" }⟩,
      ⟨"k", FunctionDoc.encode { id := "j", name := "g" }⟩,
      ⟨"l", FunctionDoc.encode { id := "l", name := "h", status := .deleted }⟩, ⟨"k", [0]⟩]
  (given.map fun r => .traffic (.act (.call (.broker (.append "registry" r))))) ++
    [.openStore "registry" {}, .wake 0, .answer 0,
      .traffic (.prepare 0 (.create { tenant := "a", name := "f" }) (Time.Timestamp.atSecond 1)),
      .read 0, .fold 0, .traffic (.note 0), .traffic (.append 0 none), .read 0, .fold 0,
      .traffic (.endWrite 0), .read 0, .fold 0, .read 0, .fold 0]

theorem load_well_keyed_strangeEvents :
    (({} : Fleet).run strangeEvents).Reachable ∧
      ∃ m, (({} : Fleet).run strangeEvents).members[0]? = some m ∧
        m.store.load.map (·.name) = ["f", "g", "f"] ∧
        m.store.load.map (·.id) = [deriveKey "a" "f", "j", "k"] ∧
        (m.store.load.map (·.id)).Nodup := by
  have hreachable : (({} : Fleet).run strangeEvents).Reachable := ⟨strangeEvents, rfl⟩
  obtain ⟨m, hm, hnames, hids⟩ :
      ∃ m, (({} : Fleet).run strangeEvents).members[0]? = some m ∧
        m.store.load.map (·.name) = ["f", "g", "f"] ∧
        m.store.load.map (·.id) = [deriveKey "a" "f", "j", "k"] :=
    ⟨_, rfl, by decide +kernel, by decide +kernel⟩
  exact ⟨hreachable, m, hm, hnames, hids, (load_well_keyed hreachable hm).1⟩

end Fleet

end ReplayRegistry
