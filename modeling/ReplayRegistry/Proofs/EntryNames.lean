import ReplayRegistry.Proofs.ReaderDelivery
import ReplayRegistry.Proofs.WellKeyed

/-!
# Proofs: the names of entries

A key is derived from the tenant and the name of a function, one written after the other. If nobody
but stores writes to the logs, the documents under a key have names that lead to it, wherever they
are: in a view, in a log, in the hands of a replay or of a write. So an update replaces a document
whose names, written one after the other, are the same text. Where the tenant ends in it is up to
the new document.
-/

namespace ReplayRegistry

open Time (Timestamp)

/-! ## Keys and names -/

namespace Bytes

theorem ofText_append (s t : String) : ofText (s ++ t) = ofText s ++ ofText t := by
  simp [ofText, String.toByteArray_append]

theorem ofText_injective {s t : String} (h : ofText s = ofText t) : s = t := by
  have htext : text? (ofText s) = text? (ofText t) := by rw [h]
  simpa using htext

end Bytes

/-- Two messages of one digest. -/
def Sha1.Collide (a b : Bytes) : Prop := a ≠ b ∧ Sha1.digest a = Sha1.digest b

namespace FunctionDoc

/-- The names of a function, one after the other. -/
def joinedNames (d : FunctionDoc) : String := d.tenant ++ d.name

/-- The key of a document is the one that its names lead to. -/
def Named (d : FunctionDoc) : Prop := d.id = d.registryKey

variable {d d' : FunctionDoc}

theorem registryKey_eq (d : FunctionDoc) :
    d.registryKey = (Sha1.digest (Bytes.ofText d.joinedNames)).hex := by
  rw [registryKey, deriveKey, joinedNames, Bytes.ofText_append]

/-- Documents of one key have the same names, one after the other, unless their names collide. -/
theorem joinedNames_eq_of_key (h : d.registryKey = d'.registryKey)
    (hcollide : ¬ Sha1.Collide (Bytes.ofText d.joinedNames) (Bytes.ofText d'.joinedNames)) :
    d.joinedNames = d'.joinedNames := by
  rw [registryKey_eq, registryKey_eq] at h
  by_contra hne
  exact hcollide ⟨fun heq => hne (Bytes.ofText_injective heq), Bytes.hex_injective h⟩

/-- Names that are the same one after the other are the same, if one of them is. -/
theorem tenant_eq_iff (h : d.joinedNames = d'.joinedNames) :
    d.tenant = d'.tenant ↔ d.name = d'.name := by
  have hlist : d.tenant.toList ++ d.name.toList = d'.tenant.toList ++ d'.name.toList := by
    rw [← String.toList_append, ← String.toList_append]
    exact congrArg String.toList h
  constructor
  · intro htenant
    rw [htenant] at hlist
    exact String.toList_injective (List.append_cancel_left hlist)
  · intro hname
    rw [hname] at hlist
    exact String.toList_injective (List.append_cancel_right hlist)

theorem Named.id_ne_empty (h : d.Named) : d.id ≠ "" := by
  rw [h]
  exact deriveKey_ne_empty d.tenant d.name

end FunctionDoc

/-- The record of a document whose key is the one that its names lead to. -/
def Record.Named (r : Record) : Prop := ∃ d : FunctionDoc, d.Named ∧ r = ⟨d.id, d.encode⟩

namespace Partition

/-- A log of such records. -/
def Named (p : Partition) : Prop := ∀ e ∈ p.entries, e.record.Named

variable {p p' : Partition}

theorem Named.push (h : p.Named) {r : Record} (hr : r.Named) : (p.push r).Named := by
  intro e he
  rcases List.mem_append.1 he with he | he
  · exact h e he
  · rw [List.mem_singleton.1 he]
    exact hr

/-- Records are only taken away if none is appended. -/
theorem Named.change (h : p.Named) (hchange : Change p [] p') : p'.Named := by
  cases hchange with
  | keep => exact h
  | compact => exact fun e he => h e ((compact_sublist p).subset he)

end Partition

/-! ## Views and writes -/

namespace View

/-- The documents that are shown have the keys that their names lead to. -/
def Named (v : View) : Prop := ∀ key d, v.get? key = some d → d.id = key ∧ d.Named

variable {v : View} {d : FunctionDoc}

theorem named_empty : ({} : View).Named := fun _ _ h => by cases h

theorem Named.apply (h : v.Named) (hd : d.Named) : (v.apply d).2.Named := by
  intro key d' hget
  rw [View.apply, get?_put] at hget
  split at hget
  · rename_i hkey
    rw [FunctionDoc.eq_of_effect hget]
    exact ⟨hkey.symm, hd⟩
  · exact h key d' hget

theorem Named.foldRecord (h : v.Named) {r : Record} (hr : r.Named) : (v.foldRecord r).2.Named := by
  obtain ⟨d, hd, rfl⟩ := hr
  unfold View.foldRecord
  rw [Record.filing?_encode hd.id_ne_empty]
  simp only [foldFiling]
  have hset : (v.setPending d.id (retire d.encode (v.pending d.id))).Named := h
  split
  · exact hset.apply hd
  · exact hset

end View

namespace Store

variable {s : Store} {d d' : FunctionDoc} {now : Timestamp}

theorem prepareCreate_named (h : s.prepareCreate d now = .ok d') : d'.Named := by
  simp only [prepareCreate] at h
  split at h
  · cases h
  · cases h
    rfl

theorem prepareDelete_named (hs : s.view.Named) {key : RegistryKey}
    (h : prepare.prepareDelete s now key = .ok d) : d.Named := by
  unfold prepare.prepareDelete at h
  split at h
  · cases h
  · rename_i old hold
    cases h
    exact (hs key old hold).2

/-- What a write appends has the key that its names lead to. An update takes the key from the
document that it replaces, and this has been found by the names of the new one. -/
theorem prepare_named (hs : s.view.Named) {w : Write} (h : s.prepare w now = .ok d) : d.Named := by
  cases w with
  | create d₀ =>
    simp only [prepare] at h
    split at h
    · cases h
    · exact prepareCreate_named h
  | update d₀ =>
    simp only [prepare] at h
    split at h
    · cases h
    · split at h
      · exact prepareCreate_named h
      · rename_i old hold
        cases h
        exact (hs _ old hold).1
  | delete tenant name => exact prepareDelete_named hs h
  | deleteByKey key => exact prepareDelete_named hs h

/-- A write that succeeds has appended a document and has shown it. -/
theorem write_ok {b b' : Broker} {w : Write} {key : RegistryKey} {s' : Store}
    (h : s.write b w now = (.ok key, s', b')) :
    ∃ d, s.prepare w now = .ok d ∧ key = d.id ∧ s'.view = s.view.install d := by
  unfold write writeAround at h
  cases hprepare : s.prepare w now with
  | error e =>
    rw [hprepare] at h
    cases h
  | ok d =>
    rw [hprepare] at h
    simp only [appendAround] at h
    split at h
    · cases h
    · split at h
      · cases h
      · cases h
        exact ⟨d, rfl, rfl, rfl⟩

end Store

/-! ## Reads -/

namespace Replay

theorem read_partitions (r : Replay) (b : Broker) : (r.read b).2.2.partitions = b.partitions := by
  unfold Replay.read
  split
  · split
    · rfl
    · exact Reader.release_partitions _ _
    · rfl
  · rfl

/-- What a replay reads stands in a log. -/
theorem read_mem {r : Replay} {b : Broker} {x : Record} (h : (r.read b).1 = .record x) :
    ∃ log, ∃ e ∈ (b.partition log).entries, e.record = x := by
  unfold Replay.read at h
  split at h
  · rename_i reader uptime _
    have hmoves := reader.read_moves b
    split at h
    · rename_i record reader' hread
      cases h
      rw [hread] at hmoves
      generalize hds : (ReadResult.record x, reader').1.records = ds at hmoves
      cases hmoves with
      | stay => cases hds
      | deliver e he =>
        cases hds
        exact ⟨reader.log, e, List.mem_of_find?_eq_some he, rfl⟩
    · cases h
    · cases h
  · cases h

end Replay

/-! ## Events -/

namespace Fleet

/-- The records that others than stores append to a log in an event. -/
def given (log : String) (f : Fleet) : Event → List Record
  | .traffic (.act (.call c)) => f.toSession.appended log c
  | _ => []

/-- All documents have the keys that their names lead to. -/
structure Named (f : Fleet) : Prop where
  views : ∀ (i : Nat) m, f.members[i]? = some m → m.store.view.Named
  docs : ∀ (i : Nat) o, f.underWay i = some o → o.doc.Named
  held : ∀ (i : Nat) r, (f.tasks i).engaged = .holding r → r.Named
  logs : ∀ log, (f.broker.partition log).Named

variable {f : Fleet} {i : Nat} {m : Member}

theorem named_empty : ({} : Fleet).Named where
  views _ _ hm := by cases hm
  docs _ _ ho := by cases ho
  held _ _ hr := by cases hr
  logs _ e he := by cases he

/-- A write takes a step in a store. -/
theorem Named.withWrite (h : f.Named) (hm : f.members[i]? = some m) {s : Store}
    (hs : s.view.Named) {b : Broker} (hb : ∀ log, (b.partition log).Named)
    {o : Option OpenWrite} (ho : ∀ x, o = some x → x.doc.Named) :
    Named { f with toTraffic := f.toTraffic.withWrite i s b o } where
  views j m' hm' := by
    rw [Traffic.withWrite_members] at hm'
    split at hm'
    · rename_i hj
      subst hj
      rw [hm] at hm'
      cases hm'
      exact hs
    · exact h.views j m' hm'
  docs j x hx := by
    by_cases hj : j = i
    · subst hj
      rw [Traffic.withWrite_underWay] at hx
      exact ho x hx
    · have hsame : (f.toTraffic.withWrite i s b o).underWay j = f.underWay j := if_neg hj
      rw [hsame] at hx
      exact h.docs j x hx
  held := h.held
  logs := hb

theorem Named.writer (h : f.Named) {e : Traffic.Event} {j : Nat} (he : e.writer? = some j) :
    Named { f with toTraffic := f.toTraffic.step e } := by
  have hnone : ∀ x : OpenWrite, (none : Option OpenWrite) = some x → x.doc.Named :=
    fun x hx => by cases hx
  have hstage : ∀ {d : FunctionDoc} (stage : Stage), d.Named →
      ∀ x, some (OpenWrite.mk d stage) = some x → x.doc.Named := by
    rintro d stage hd x ⟨⟩
    exact hd
  cases e with
  | act a => cases he
  | prepare k w now =>
    cases he
    simp only [Traffic.step]
    split
    · rename_i m hidle hm
      split
      · exact h
      · split
        · exact h
        · rename_i d hprepare
          have hview := h.views j m hm
          exact h.withWrite hm hview h.logs (hstage _ (Store.prepare_named hview hprepare))
    · exact h
  | note k =>
    cases he
    simp only [Traffic.step]
    split
    · rename_i d m hopen hm
      have hview := h.views j m hm
      split
      · exact h.withWrite hm hview h.logs hnone
      · have hnoted : (m.store.note d).view.Named := hview
        exact h.withWrite hm hnoted h.logs (hstage _ (h.docs j _ hopen))
    · exact h
  | append k lost =>
    cases he
    simp only [Traffic.step]
    split
    · rename_i d m hopen hm
      have hview := h.views j m hm
      have hd := h.docs j _ hopen
      split
      · exact h.withWrite hm hview h.logs (hstage _ hd)
      · rename_i b happend
        refine h.withWrite hm hview ?_ (hstage _ hd)
        intro log
        rw [Store.append_partition happend]
        split
        · exact (h.logs m.store.log).push ⟨d, hd, rfl⟩
        · exact h.logs log
    · exact h
  | endWrite k =>
    cases he
    simp only [Traffic.step]
    split
    · rename_i d answer m hopen hm
      refine h.withWrite hm ?_ h.logs hnone
      have hview := h.views j m hm
      cases answer with
      | error e => exact hview
      | ok _ =>
        show ((m.store.view.commitLocal d d.encode).2).Named
        unfold View.commitLocal
        split
        · exact hview.apply (h.docs j _ hopen)
        · exact hview
    · exact h

/-- A store moves. It may read a record or fold the one that it has read. -/
theorem Moves.named {b b' : Broker} {o : Option OpenWrite} {m' : Member} {x x' : Task}
    {ts : List Turn} (h : Moves b o m x ts m' b' x') (hview : m.store.view.Named)
    (hheld : ∀ r, x.engaged = .holding r → r.Named) (hlogs : ∀ log, (b.partition log).Named) :
    m'.store.view.Named ∧ (∀ r, x'.engaged = .holding r → r.Named) ∧
      b'.partitions = b.partitions := by
  cases h with
  | wake hengaged htold hpausing => exact ⟨hview, (fun r hr => by cases hr), rfl⟩
  | answer hengaged =>
    refine ⟨hview, (fun r hr => by cases hr), ?_⟩
    exact (Replay.attemptOpen_keeps m.store.replay b).partitions
  | read hengaged hr => exact ⟨hview, hheld, Replay.read_partitions _ _⟩
  | take r hengaged hr =>
    refine ⟨hview, ?_, Replay.read_partitions _ _⟩
    rintro r' ⟨⟩
    obtain ⟨log, e, he, rfl⟩ := Replay.read_mem hr
    exact hlogs log e he
  | fold r hengaged =>
    exact ⟨hview.foldRecord (hheld r hengaged), (fun r hr => by cases hr), rfl⟩
  | halt hengaged htold => exact ⟨hview, hheld, (Replay.stop_spec m.store.replay b).2.2.2⟩
  | endClose b' hclosing hstopped hb' =>
    refine ⟨hview, hheld, ?_⟩
    rcases hb' with rfl | rfl <;> rfl
  | _ => exact ⟨hview, hheld, rfl⟩

theorem Named.move (h : f.Named) {e : Event} (he : e.store? = some i) : (f.step e).Named := by
  cases hm : f.members[i]? with
  | none =>
    rw [step_absent hm he]
    exact h
  | some m =>
    obtain ⟨m', hm', hmoves⟩ := step_moves hm he
    have hframe := step_frame (f := f) he
    obtain ⟨hview, hheld, hpartitions⟩ := hmoves.named (h.views i m hm) (h.held i) h.logs
    constructor
    · intro j m₁ hm₁
      by_cases hj : i = j
      · subst hj
        rw [hm'] at hm₁
        cases hm₁
        exact hview
      · rw [(hframe.others j hj).1] at hm₁
        exact h.views j m₁ hm₁
    · intro j o ho
      rw [hframe.underWay] at ho
      exact h.docs j o ho
    · intro j r hr
      by_cases hj : i = j
      · subst hj
        exact hheld r hr
      · rw [(hframe.others j hj).2] at hr
        exact h.held j r hr
    · intro log
      rw [Broker.partition_congr hpartitions]
      exact h.logs log

theorem Named.traffic (h : f.Named) {e : Traffic.Event}
    (hgiven : ∀ log, f.given log (.traffic e) = []) : (f.step (.traffic e)).Named := by
  simp only [step]
  split
  · rename_i hadmits
    rcases admits_cases hadmits with ⟨c, rfl⟩ | ⟨ms, rfl⟩ | hwriter
    · refine ⟨h.views, h.docs, h.held, ?_⟩
      intro log
      have hchange := f.toSession.call_change c log
      have hnone : f.toSession.appended log c = [] := hgiven log
      rw [hnone] at hchange
      exact (h.logs log).change hchange
    · refine ⟨?_, h.docs, h.held, h.logs⟩
      intro j m hm
      have hmembers : (f.toTraffic.step (.act (.stayUp ms))).members =
          f.members.map fun m => { m with store := m.store.stayUp ms } := rfl
      rw [hmembers, List.getElem?_map, Option.map_eq_some_iff] at hm
      obtain ⟨m₀, hm₀, rfl⟩ := hm
      exact h.views j m₀ hm₀
    · obtain ⟨j, hj⟩ := Option.isSome_iff_exists.1 hwriter
      exact h.writer hj
  · exact h

theorem Named.openStore (h : f.Named) (log : String) (settings : ReplaySettings) :
    (f.step (.openStore log settings)).Named := by
  refine ⟨?_, h.docs, ?_, h.logs⟩
  · intro j m hm
    have hmembers : (f.step (.openStore log settings)).members =
        f.members ++ [⟨Store.opened log settings, false⟩] := rfl
    rw [hmembers] at hm
    rcases List.mem_append.1 (List.mem_of_getElem? hm) with hold | hnew
    · obtain ⟨k, hk⟩ := List.mem_iff_getElem?.1 hold
      exact h.views k m hk
    · rw [List.mem_singleton.1 hnew]
      exact View.named_empty
  · intro j r hr
    simp only [step] at hr
    split at hr
    · cases hr
    · exact h.held j r hr

theorem Named.step (h : f.Named) {e : Event} (hgiven : ∀ log, f.given log e = []) :
    (f.step e).Named := by
  cases hstore : e.store? with
  | some j => exact h.move hstore
  | none =>
    cases e with
    | traffic e => exact h.traffic hgiven
    | openStore log settings => exact h.openStore log settings
    | _ => cases hstore

theorem Named.run (h : f.Named) {es : List Event} (hgiven : ∀ log, collect (given log) f es = []) :
    (f.run es).Named := by
  induction es generalizing f with
  | nil => exact h
  | cons e es ih =>
    have hsplit := fun log => List.append_eq_nil_iff.1 (hgiven log)
    exact ih (h.step fun log => (hsplit log).1) fun log => (hsplit log).2

/-- If nobody but stores writes to the logs, an update of a document that a store shows keeps the
key and the time of creation, and takes everything else from the new document, except the time of
the update. The names of the new document, one after the other, are those of the old one. So the
update keeps the tenant just if it keeps the name. -/
theorem update_keeps_joined_names {es : List Event}
    (hgiven : ∀ log, collect (given log) ({} : Fleet) es = []) {i : Nat} {m : Member}
    (hm : (({} : Fleet).run es).members[i]? = some m) {d old : FunctionDoc}
    (hold : m.store.view.get? d.registryKey = some old) (hstatus : d.status ≠ .deleted)
    (hcollide : ¬ Sha1.Collide (Bytes.ofText old.joinedNames) (Bytes.ofText d.joinedNames))
    {now : Timestamp} {key : RegistryKey} {s' : Store} {b' : Broker}
    (hwrite : m.store.write (({} : Fleet).run es).broker (.update d) now = (.ok key, s', b')) :
    s'.view.get? key =
        some { d with id := old.id, createdAt := old.createdAt, updatedAt := some now } ∧
      old.id = key ∧ key = d.registryKey ∧ d.joinedNames = old.joinedNames ∧
      (d.tenant = old.tenant ↔ d.name = old.name) := by
  obtain ⟨hid, hnamed⟩ := (named_empty.run hgiven).views i m hm _ old hold
  have hkeys : old.registryKey = d.registryKey := by rw [← hnamed, hid]
  have hnames := FunctionDoc.joinedNames_eq_of_key hkeys hcollide
  obtain ⟨d', hprepare, hkey, hview⟩ := Store.write_ok hwrite
  have hd' : d' = { d with id := old.id, createdAt := old.createdAt, updatedAt := some now } := by
    simp only [Store.prepare, hold] at hprepare
    split at hprepare
    · cases hprepare
    · exact (Except.ok.inj hprepare).symm
  have heffect : d'.effect = some d' := by
    have hlive : d'.status ≠ .deleted := by
      rw [hd']
      exact hstatus
    rw [FunctionDoc.effect_eq, if_neg hlive]
  have hkeyOld : old.id = key := by
    rw [hkey, hd']
  refine ⟨?_, hkeyOld, hkeyOld.symm.trans hid, hnames.symm, FunctionDoc.tenant_eq_iff hnames.symm⟩
  rw [hview, View.get?_install, if_pos hkey, heffect, hd']

/-- A store adds the function `c` of the tenant `ab`. -/
def addedOne : List Event :=
  [.openStore "registry" {}, .wake 0, .answer 0,
    .traffic (.prepare 0 (.create { tenant := "ab", name := "c", filePath := "p" })
      (Timestamp.atSecond 1)),
    .traffic (.note 0), .traffic (.append 0 none), .read 0, .fold 0, .traffic (.endWrite 0)]

theorem update_keeps_joined_names_addedOne :
    let f := ({} : Fleet).run addedOne
    let d : FunctionDoc := { tenant := "ab", name := "c", parallelism := 2 }
    (∀ log, collect (given log) ({} : Fleet) addedOne = []) ∧ d.status ≠ .deleted ∧
      ∃ m old s' b', f.members[0]? = some m ∧ m.store.view.get? d.registryKey = some old ∧
        ¬ Sha1.Collide (Bytes.ofText old.joinedNames) (Bytes.ofText d.joinedNames) ∧
        m.store.write f.broker (.update d) (Timestamp.atSecond 2) =
          (.ok d.registryKey, s', b') ∧
        s'.view.get? d.registryKey = some { d with
          id := old.id, createdAt := old.createdAt, updatedAt := some (Timestamp.atSecond 2) } ∧
        old.id = d.registryKey ∧ d.joinedNames = old.joinedNames := by
  intro f d
  have hgiven : ∀ log, collect (given log) ({} : Fleet) addedOne = [] := fun log => rfl
  have hstatus : d.status ≠ .deleted := by decide
  obtain ⟨m, hm, hnames, hkey⟩ : ∃ m, f.members[0]? = some m ∧
      (m.store.view.get? d.registryKey).map (·.joinedNames) = some d.joinedNames ∧
      (m.store.write f.broker (.update d) (Timestamp.atSecond 2)).1 = .ok d.registryKey :=
    ⟨_, rfl, by decide +kernel⟩
  obtain ⟨old, hold, hjoined⟩ := Option.map_eq_some_iff.1 hnames
  have hcollide : ¬ Sha1.Collide (Bytes.ofText old.joinedNames) (Bytes.ofText d.joinedNames) :=
    fun h => h.1 (by rw [hjoined])
  have hwrite : m.store.write f.broker (.update d) (Timestamp.atSecond 2) =
      (.ok d.registryKey, (m.store.write f.broker (.update d) (Timestamp.atSecond 2)).2) :=
    Prod.ext hkey rfl
  obtain ⟨hentry, hid, -, hjoined', -⟩ :=
    update_keeps_joined_names hgiven hm hold hstatus hcollide hwrite
  exact ⟨hgiven, hstatus, m, old, _, _, hm, hold, hcollide, hwrite, hentry, hid, hjoined'⟩

/-- An update of the function `bc` of the tenant `a` replaces the function `c` of the tenant `ab`,
which has the same key. -/
theorem update_takes_entry_of_other_tenant :
    let f := ({} : Fleet).run addedOne
    let d : FunctionDoc := { tenant := "a", name := "bc" }
    (∀ log, collect (given log) ({} : Fleet) addedOne = []) ∧
      ∃ m, f.members[0]? = some m ∧
        ((m.store.view.get? d.registryKey).map fun old => (old.tenant, old.name)) =
          some ("ab", "c") ∧
        (m.store.write f.broker (.update d) (Timestamp.atSecond 2)).1 = .ok d.registryKey ∧
        (((m.store.write f.broker (.update d) (Timestamp.atSecond 2)).2.1.view.get?
          d.registryKey).map fun new => (new.tenant, new.name)) = some ("a", "bc") := by
  intro f d
  exact ⟨fun log => rfl, _, rfl, by decide +kernel⟩

end Fleet

end ReplayRegistry
