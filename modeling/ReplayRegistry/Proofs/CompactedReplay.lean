import ReplayRegistry.Proofs.LogHistory
import ReplayRegistry.Proofs.ViewHistory

/-!
# Proofs: replay of a compacted log

Compaction goes by the keys of records and folding by the keys of their documents. Where the two are
the same, the last version of a key is in the last record of the key, and compaction keeps that; so
the view that replay builds does not depend on whether and when a log has been compacted.
-/

namespace ReplayRegistry

/-! ## The last version of a key -/

/-- The record stands under the key that it is filed under, if it can be filed: it is a deletion of
its key, or it holds a document that has this key or takes it over. -/
def Record.FiledByKey (r : Record) : Prop :=
  (r.payload = [] ∧ r.key ≠ "") ∨
    ∃ d, FunctionDoc.decode r.payload = .ok d ∧ ((d.id = "" ∧ r.key ≠ "") ∨ d.id = r.key)

/-- Such a record is a version of its own key alone. -/
theorem Record.FiledByKey.version?_eq_none_iff {r : Record} (h : r.FiledByKey)
    (key : RegistryKey) : r.version? key = none ↔ r.key = key → key = "" := by
  have hfiling : (r.key = "" ∧ r.filing? = none) ∨
      (r.key ≠ "" ∧ ∃ effect, r.filing? = some (r.key, effect)) := by
    unfold Record.filing?
    by_cases hpayload : r.payload = []
    · by_cases hkey : r.key = "" <;> simp [hpayload, hkey]
    · rcases h with ⟨hempty, -⟩ | ⟨d, hd, ⟨hid, hkey⟩ | hid⟩
      · exact absurd hempty hpayload
      · simp [hpayload, hd, hid, hkey]
      · by_cases hkey : r.key = "" <;> simp [hpayload, hd, hid, hkey]
  unfold Record.version?
  rcases hfiling with ⟨hkey, hnone⟩ | ⟨hkey, effect, hsome⟩
  · simp [hnone, hkey, eq_comm]
  · rw [hsome]
    by_cases heq : r.key = key
    · have hne : key ≠ "" := heq ▸ hkey
      simp [heq, hne]
    · simp [heq]

variable {key : RegistryKey} {rs : List Record}

theorem versions_eq_nil_iff : versions key rs = [] ↔ ∀ r ∈ rs, r.version? key = none :=
  List.filterMap_eq_nil_iff

/-- Records that say something of a key end in the last one that does and others that do not. -/
theorem getLast?_versions_eq_some_iff {x : Version} :
    (versions key rs).getLast? = some x ↔
      ∃ before r after, rs = before ++ r :: after ∧ r.version? key = some x ∧
        versions key after = [] := by
  constructor
  · intro hlast
    obtain ⟨xs, hxs⟩ := List.getLast?_eq_some_iff.1 hlast
    obtain ⟨before, rest, hrs, -, hrest⟩ := List.filterMap_eq_append_iff.1 hxs
    obtain ⟨between, r, after, hsplit, -, hr, hafter⟩ := List.filterMap_eq_cons_iff.1 hrest
    exact ⟨before ++ between, r, after, by rw [hrs, hsplit, List.append_assoc], hr, hafter⟩
  · rintro ⟨before, r, after, rfl, hr, hafter⟩
    rw [versions_append, versions_cons, hr, hafter]
    simp

namespace Partition

variable {p : Partition}

/-- A log holds the last version of every key that has been appended to it. -/
theorem Retains.getLast?_versions (h : p.Retains rs) (hrs : ∀ r ∈ rs, r.FiledByKey)
    (key : RegistryKey) : (versions key p.records).getLast? = (versions key rs).getLast? := by
  cases hlast : (versions key rs).getLast? with
  | none =>
    have hnone := versions_eq_nil_iff.1 (List.getLast?_eq_none_iff.1 hlast)
    refine List.getLast?_eq_none_iff.2 (versions_eq_nil_iff.2 ?_)
    intro r hr
    obtain ⟨e, he, rfl⟩ := List.mem_map.1 hr
    exact hnone e.record (List.mem_of_getElem? (h.held e he))
  | some x =>
    obtain ⟨before, r, after, hsplit, hr, hafter⟩ := getLast?_versions_eq_some_iff.1 hlast
    -- a record after this one is no version of the key, so it stands under another
    have hlater : ∀ n' r', before.length < n' → rs[n']? = some r' → r'.version? key = none := by
      intro n' r' hlt hr'
      rw [hsplit, List.getElem?_append_right (by omega), List.getElem?_cons,
        if_neg (by omega)] at hr'
      exact versions_eq_nil_iff.1 hafter r' (List.mem_of_getElem? hr')
    have hplace : LastOfKey rs before.length r := by
      refine ⟨by rw [hsplit, List.getElem?_append_right (by omega)]; simp, ?_⟩
      intro n' r' hlt hr' hkey
      have hmem : r ∈ rs := by rw [hsplit]; simp
      have hsome := (hrs r hmem).version?_eq_none_iff key
      have hnone := (hrs r' (List.mem_of_getElem? hr')).version?_eq_none_iff key
      rw [hr, ← hkey] at hsome
      exact absurd (hsome.2 (hnone.1 (hlater n' r' hlt hr'))) (by simp)
    obtain ⟨es, fs, hes⟩ := List.append_of_mem (h.last _ _ hplace)
    have hfs := h.sound.lt_of_mem_after hes
    refine getLast?_versions_eq_some_iff.2 ⟨es.map (·.record), r, fs.map (·.record), ?_, hr, ?_⟩
    · rw [records, hes, List.map_append, List.map_cons]
    · refine versions_eq_nil_iff.2 ?_
      intro r' hr'
      obtain ⟨f, hf, rfl⟩ := List.mem_map.1 hr'
      have hmem : f ∈ p.entries := by rw [hes]; simp [hf]
      exact hlater f.offset f.record (hfs f hf) (h.held f hmem)

end Partition

/-! ## Replay from nothing -/

namespace View

/-- Replay from an empty view builds the last version of every key, and nothing else. -/
theorem foldRecords_empty_congr {rs' : List Record}
    (h : ∀ key, (versions key rs).getLast? = (versions key rs').getLast?) :
    ({} : View).foldRecords rs = ({} : View).foldRecords rs' := by
  have htidy : ∀ rs : List Record, (({} : View).foldRecords rs).Tidy :=
    fun rs => (Reachable.empty.foldRecords rs).tidy
  have hpending : ∀ (rs : List Record) key, (({} : View).foldRecords rs).pending key = [] := by
    intro rs key
    rw [(foldRecords_versions {} rs key).1]
    exact retireAll_nil _
  refine (htidy rs).ext (htidy rs') (fun key => ?_) fun key => ?_
  · rw [(foldRecords_versions {} rs key).2, (foldRecords_versions {} rs' key).2]
    have hnone : ({} : View).pending key = [] := rfl
    simp only [hnone, shownAfter, retireAll_nil, h key]
  · rw [hpending rs, hpending rs']

end View

/-- If every record that is appended to a log stands under the key that it is filed under, replay
builds from the log, whenever it has been compacted, what it builds from all that was appended. -/
theorem Session.foldRecords_compacted (calls : List Session.Call) (log : String)
    (h : ∀ r ∈ history log calls, r.FiledByKey) :
    ({} : View).foldRecords ((({} : Session).run calls).broker.records log) =
      ({} : View).foldRecords (history log calls) :=
  View.foldRecords_empty_congr ((retains_history log calls).getLast?_versions h)

/-- A function is created, deleted and created again, next to one that takes over the key of its
record, and the log is compacted twice. -/
def recreatingCalls : List Session.Call :=
  let f : FunctionDoc := { id := "k", name := "f" }
  let g : FunctionDoc := { name := "g" }
  [.broker (.append "l" ⟨"k", f.encode⟩), .broker (.append "l" ⟨"j", g.encode⟩),
    .broker (.append "l" ⟨"k", []⟩), .broker (.compact "l"),
    .broker (.append "l" ⟨"k", { f with status := .suspended }.encode⟩), .broker (.compact "l")]

/-- Of four records two are left, and replay builds the same from them. -/
theorem Session.foldRecords_compacted_recreatingCalls :
    (∀ r ∈ history "l" recreatingCalls, r.FiledByKey) ∧
      (history "l" recreatingCalls).length = 4 ∧
      ((({} : Session).run recreatingCalls).broker.records "l").length = 2 ∧
      ({} : View).foldRecords ((({} : Session).run recreatingCalls).broker.records "l") =
        ({} : View).foldRecords (history "l" recreatingCalls) := by
  have hfiled : ∀ r ∈ history "l" recreatingCalls, r.FiledByKey := by
    have happended : history "l" recreatingCalls =
        [⟨"k", FunctionDoc.encode { id := "k", name := "f" }⟩,
          ⟨"j", FunctionDoc.encode { name := "g" }⟩, ⟨"k", []⟩,
          ⟨"k", FunctionDoc.encode { id := "k", name := "f", status := .suspended }⟩] := rfl
    intro r hr
    rw [happended] at hr
    simp only [List.mem_cons, List.not_mem_nil, or_false] at hr
    rcases hr with rfl | rfl | rfl | rfl
    · exact .inr ⟨_, FunctionDoc.decode_encode _, .inr rfl⟩
    · exact .inr ⟨_, FunctionDoc.decode_encode _, .inl ⟨rfl, by decide⟩⟩
    · exact .inl ⟨rfl, by decide⟩
    · exact .inr ⟨_, FunctionDoc.decode_encode _, .inr rfl⟩
  exact ⟨hfiled, rfl, rfl, foldRecords_compacted recreatingCalls "l" hfiled⟩

end ReplayRegistry
