import Mathlib.Data.List.Induction
import Mathlib.Data.List.Nodup
import Mathlib.Data.List.Sort
import ReplayRegistry.Proofs.LogHistory

/-!
# Proofs: what compaction keeps

Compaction looks at the entries that are left of a log, from the newest to the oldest, and keeps
those whose key it has not seen. What it arrives at can be told from the history of the log alone:
the last record of every key, each at the place where it was appended. So it makes no difference
how often the log has been compacted before.
-/

namespace ReplayRegistry.Partition

variable {rs : List Record} {p : Partition}

/-- Logs that begin empty, take the records `rs` one by one, and are compacted at any points. -/
inductive Grown : List Record → Partition → Prop
  | empty : Grown [] empty
  | push {rs : List Record} {p : Partition} (h : Grown rs p) (r : Record) :
      Grown (rs ++ [r]) (p.push r)
  | compact {rs : List Record} {p : Partition} (h : Grown rs p) : Grown rs p.compact

theorem Grown.retains (h : Grown rs p) : p.Retains rs := by
  induction h with
  | empty => exact retains_empty
  | push h r ih => exact ih.push r
  | compact h ih => exact ih.compact

/-! ## Last records -/

/-- The records of a history that no later record of the same key follows, in order and each at its
place. -/
def lastRecords (rs : List Record) : List Entry :=
  (rs.mapIdx Entry.mk).filter fun e =>
    (rs.drop (e.offset + 1)).all fun r => r.key != e.record.key

theorem mem_drop_iff {n : Nat} {r : Record} :
    r ∈ rs.drop n ↔ ∃ m, n ≤ m ∧ rs[m]? = some r := by
  simp only [List.mem_iff_getElem?, List.getElem?_drop]
  constructor
  · rintro ⟨m, hm⟩
    exact ⟨n + m, Nat.le_add_right n m, hm⟩
  · rintro ⟨m, hle, hm⟩
    exact ⟨m - n, by rwa [Nat.add_sub_cancel' hle]⟩

theorem mem_lastRecords_iff {e : Entry} :
    e ∈ lastRecords rs ↔ LastOfKey rs e.offset e.record := by
  have hplace : e ∈ rs.mapIdx Entry.mk ↔ rs[e.offset]? = some e.record := by
    simp only [List.mem_iff_getElem?, List.getElem?_mapIdx, Option.map_eq_some_iff]
    constructor
    · rintro ⟨n, r, hr, rfl⟩
      exact hr
    · intro hr
      exact ⟨e.offset, e.record, hr, rfl⟩
  simp only [lastRecords, List.mem_filter, List.all_eq_true, bne_iff_ne, hplace, LastOfKey,
    mem_drop_iff]
  constructor
  · rintro ⟨hr, hlater⟩
    exact ⟨hr, fun n r hlt hn => hlater r ⟨n, hlt, hn⟩⟩
  · rintro ⟨hr, hlater⟩
    exact ⟨hr, fun r ⟨n, hlt, hn⟩ => hlater n r hlt hn⟩

theorem lastRecords_increasing (rs : List Record) :
    (lastRecords rs).Pairwise fun e e' => e.offset < e'.offset := by
  refine List.Pairwise.filter _ (List.pairwise_iff_getElem.2 ?_)
  intro i j hi hj hlt
  simpa using hlt

/-- Every key of a history has a last record. -/
theorem exists_lastOfKey {r : Record} (hr : r ∈ rs) :
    ∃ n r', LastOfKey rs n r' ∧ r'.key = r.key := by
  induction rs using List.reverseRecOn with
  | nil => cases hr
  | append_singleton rs new ih =>
    by_cases hkey : new.key = r.key
    · refine ⟨rs.length, new, ⟨List.getElem?_concat_length, ?_⟩, hkey⟩
      intro n r' hlt hn
      have hlength := (List.getElem?_eq_some_iff.1 hn).1
      rw [List.length_append, List.length_singleton] at hlength
      omega
    · have hold : r ∈ rs := by
        rcases List.mem_append.1 hr with hr | hr
        · exact hr
        · exact absurd (congrArg Record.key (List.mem_singleton.1 hr)).symm hkey
      obtain ⟨n, r', ⟨hn, hlater⟩, hkey'⟩ := ih hold
      have hlt := (List.getElem?_eq_some_iff.1 hn).1
      refine ⟨n, r', ⟨by rw [List.getElem?_append_left hlt, hn], ?_⟩, hkey'⟩
      intro m s hm hs
      rcases Nat.lt_or_ge m rs.length with hin | hout
      · rw [List.getElem?_append_left hin] at hs
        exact hlater m s hm hs
      · -- the new record has another key
        rw [List.getElem?_append_right hout] at hs
        obtain rfl := List.mem_singleton.1 (List.mem_of_getElem? hs)
        rw [hkey']
        exact hkey

/-! ## Kept entries -/

/-- No key is kept twice. -/
theorem nodup_latest_keys (es : List Entry) : ((latest es).map (·.record.key)).Nodup := by
  induction es with
  | nil => exact List.nodup_nil
  | cons e es ih =>
    rw [latest_cons]
    split
    · exact ih
    · rename_i hlast
      refine List.nodup_cons.2 ⟨?_, ih⟩
      intro hmem
      obtain ⟨f, hf, hkey⟩ := List.mem_map.1 hmem
      exact hlast ⟨f, (keepLatest_sublist es).subset hf, hkey⟩

/-- What a compacted log holds are the last records of its history. -/
theorem Retains.mem_compact_iff (h : p.Retains rs) {e : Entry} :
    e ∈ p.compact.entries ↔ LastOfKey rs e.offset e.record := by
  constructor
  · intro he
    have hplace := h.compact.held e he
    obtain ⟨n, r, hlast, hkey⟩ := exists_lastOfKey (List.mem_of_getElem? hplace)
    -- the last record of its key is kept as well, and no key is kept twice
    have hkept := h.compact.last n r hlast
    obtain rfl : e = ⟨n, r⟩ :=
      List.inj_on_of_nodup_map (nodup_latest_keys p.entries) he hkept hkey.symm
    exact hlast
  · exact h.compact.last e.offset e.record

theorem Retains.entries_compact (h : p.Retains rs) : p.compact.entries = lastRecords rs := by
  have hirrefl : Std.Irrefl fun e e' : Entry => e.offset < e'.offset := ⟨fun e => Nat.lt_irrefl _⟩
  have hantisymm : Std.Antisymm fun e e' : Entry => e.offset < e'.offset :=
    ⟨fun e e' hlt hgt => absurd hgt (Nat.lt_asymm hlt)⟩
  refine h.sound.compact.increasing.eq_of_mem_iff (lastRecords_increasing rs) ?_
  intro e
  rw [h.mem_compact_iff, mem_lastRecords_iff]

theorem superseded_add_length (p : Partition) :
    p.superseded + p.compact.entries.length = p.entries.length :=
  Nat.sub_add_cancel (compact_sublist p).length_le

theorem Retains.compact_compact (h : p.Retains rs) : p.compact.compact = p.compact := by
  have hentries : p.compact.compact.entries = p.compact.entries := by
    rw [h.compact.entries_compact, h.entries_compact]
  exact congrArg (fun es => Partition.mk es p.next) hentries

theorem broker_compact_fst (b : Broker) (log : String) :
    (b.compact log).1 = (b.partition log).superseded := by
  unfold Broker.compact Broker.partition
  cases b.partitions.get? log <;> rfl

/-- A log that records have been appended to and that has been compacted at any points is compacted
to the last record of every key: just the records that none of the same key was appended after, in
their order and at their offsets. The next offset stays, the answer of the service is the number of
records taken away, and a second compaction takes none. -/
theorem compact_keeps_last_records (h : Grown rs p) :
    p.compact.entries = lastRecords rs ∧
      p.compact.entries.Sublist p.entries ∧
      p.compact.next = p.next ∧ p.next = rs.length ∧
      (∀ (b : Broker) log, b.partition log = p →
        (b.compact log).2.partition log = p.compact ∧
          (b.compact log).1 + p.compact.entries.length = p.entries.length) ∧
      p.compact.compact = p.compact ∧
      ∀ (b : Broker) log, b.partition log = p.compact → (b.compact log).1 = 0 := by
  have hretains := h.retains
  refine ⟨hretains.entries_compact, compact_sublist p, rfl, hretains.next, ?_,
    hretains.compact_compact, ?_⟩
  · rintro b log rfl
    rw [Broker.compact_partition, if_pos rfl, broker_compact_fst]
    exact ⟨rfl, superseded_add_length _⟩
  · intro b log hb
    have hlength := superseded_add_length p.compact
    rw [hretains.compact_compact] at hlength
    rw [broker_compact_fst, hb]
    omega

/-- Of five records with three keys, appended around a compaction, the last of every key stay. -/
theorem compact_keeps_last_records_aroundOne :
    let record (key payload : String) : Record := ⟨key, Bytes.ofText payload⟩
    let rs := [record "a" "1", record "b" "1", record "a" "2", record "c" "1", record "b" "2"]
    let p := ((((empty.push (record "a" "1")).push (record "b" "1")).push
      (record "a" "2")).compact.push (record "c" "1")).push (record "b" "2")
    Grown rs p ∧ p.entries.map (·.offset) = [1, 2, 3, 4] ∧
      p.compact.entries = [⟨2, record "a" "2"⟩, ⟨3, record "c" "1"⟩, ⟨4, record "b" "2"⟩] ∧
      p.compact.entries = lastRecords rs := by
  intro record rs p
  have hgrown : Grown rs p :=
    .push (.push (.compact (.push (.push (.push .empty _) _) _)) _) _
  exact ⟨hgrown, rfl, rfl, (compact_keeps_last_records hgrown).1⟩

end ReplayRegistry.Partition
