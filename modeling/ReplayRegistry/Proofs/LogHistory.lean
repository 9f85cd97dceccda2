import ReplayRegistry.Proofs.ClusterActions

/-!
# Proofs: the history of a log

Compaction takes records out of a log, but it leaves the last record of every key, and each record
that stays keeps its place in the history of the log. What readers deliver, and what replay builds
from a log, rests on this alone, and not on how compaction finds the records to drop.
-/

namespace ReplayRegistry

namespace Partition

/-! ## Compaction -/

/-- The entries that no later entry of the same key follows. -/
def latest (es : List Entry) : List Entry := (es.foldr keepLatest ([], [])).2

@[simp] theorem entries_compact (p : Partition) : p.compact.entries = latest p.entries := rfl

/-- The keys that compaction has seen are those of the entries that it has passed. -/
theorem mem_keepLatest_keys {k : String} {es : List Entry} :
    k ∈ (es.foldr keepLatest ([], [])).1 ↔ ∃ e ∈ es, e.record.key = k := by
  induction es with
  | nil => simp
  | cons e es ih =>
    simp only [List.foldr_cons, List.mem_cons, exists_eq_or_imp, ← ih]
    unfold keepLatest
    split
    · rename_i hseen
      constructor
      · exact .inr
      · rintro (rfl | h)
        · exact hseen
        · exact h
    · simp [eq_comm]

theorem latest_cons (e : Entry) (es : List Entry) :
    latest (e :: es) =
      if ∃ f ∈ es, f.record.key = e.record.key then latest es else e :: latest es := by
  unfold latest
  rw [List.foldr_cons, keepLatest]
  simp only [mem_keepLatest_keys]
  split <;> rfl

theorem mem_latest {before after : List Entry} {e : Entry}
    (h : ∀ f ∈ after, f.record.key ≠ e.record.key) : e ∈ latest (before ++ e :: after) := by
  -- what stands before the entry has no say in whether it stays
  induction before with
  | nil =>
    have hlast : ¬ ∃ f ∈ after, f.record.key = e.record.key := fun ⟨f, hf, hkey⟩ => h f hf hkey
    rw [List.nil_append, latest_cons, if_neg hlast]
    exact List.mem_cons_self
  | cons f before ih =>
    rw [List.cons_append, latest_cons]
    split
    · exact ih
    · exact List.mem_cons_of_mem f ih

/-! ## A log and its history -/

/-- One change of a log, and the records that it appends. -/
inductive Change : Partition → List Record → Partition → Prop
  | keep (p : Partition) : Change p [] p
  | push (p : Partition) (r : Record) : Change p [r] (p.push r)
  | compact (p : Partition) : Change p [] p.compact

/-- The record `r` at the place `n` of a list is the last one of its key. -/
def LastOfKey (rs : List Record) (n : Nat) (r : Record) : Prop :=
  rs[n]? = some r ∧ ∀ n' r', n < n' → rs[n']? = some r' → r'.key ≠ r.key

/-- A log to which the records `rs` have been appended. -/
structure Retains (p : Partition) (rs : List Record) : Prop where
  sound : p.Sound
  next : p.next = rs.length
  /-- What it holds has been appended, in the place that its offset says. -/
  held : ∀ e ∈ p.entries, rs[e.offset]? = some e.record
  /-- It holds the last record of every key. -/
  last : ∀ n r, LastOfKey rs n r → ⟨n, r⟩ ∈ p.entries

variable {p p' : Partition} {rs new : List Record}

theorem retains_empty : empty.Retains [] where
  sound := sound_empty
  next := rfl
  held e he := by cases he
  last n r h := by cases h.1

theorem LastOfKey.of_append {n : Nat} {r : Record} (h : LastOfKey (rs ++ new) n r)
    (hn : n < rs.length) : LastOfKey rs n r := by
  obtain ⟨hr, hlast⟩ := h
  rw [List.getElem?_append_left hn] at hr
  refine ⟨hr, ?_⟩
  intro n' r' hlt hr'
  have hn' : n' < rs.length := (List.getElem?_eq_some_iff.1 hr').1
  refine hlast n' r' hlt ?_
  rw [List.getElem?_append_left hn', hr']

theorem Retains.push (h : p.Retains rs) (r : Record) : (p.push r).Retains (rs ++ [r]) where
  sound := h.sound.push r
  next := by
    have hnext : (p.push r).next = p.next + 1 := rfl
    rw [hnext, h.next, List.length_append, List.length_singleton]
  held e he := by
    rcases List.mem_append.1 he with he | he
    · have hold := h.held e he
      rw [List.getElem?_append_left (List.getElem?_eq_some_iff.1 hold).1, hold]
    · rw [List.mem_singleton.1 he, h.next, List.getElem?_concat_length]
  last n r' hlast := by
    rcases Nat.lt_or_ge n rs.length with hn | hn
    · exact List.mem_append_left _ (h.last n r' (hlast.of_append hn))
    · -- the place is that of the new record
      have hlt : n < (rs ++ [r]).length := (List.getElem?_eq_some_iff.1 hlast.1).1
      rw [List.length_append, List.length_singleton] at hlt
      have hplace : n = rs.length := by omega
      have hr := hlast.1
      rw [hplace, List.getElem?_concat_length] at hr
      refine List.mem_append_right _ (List.mem_singleton.2 ?_)
      rw [hplace, ← h.next, Option.some.inj hr]

theorem Retains.compact (h : p.Retains rs) : p.compact.Retains rs where
  sound := h.sound.compact
  next := h.next
  held e he := h.held e ((compact_sublist p).subset he)
  last n r hlast := by
    obtain ⟨before, after, hsplit⟩ := List.append_of_mem (h.last n r hlast)
    have hafter := h.sound.lt_of_mem_after hsplit
    rw [entries_compact, hsplit]
    refine mem_latest ?_
    intro f hf
    have hmem : f ∈ p.entries := by rw [hsplit]; simp [hf]
    exact hlast.2 f.offset f.record (hafter f hf) (h.held f hmem)

theorem Change.retains (hc : Change p new p') (h : p.Retains rs) : p'.Retains (rs ++ new) := by
  cases hc with
  | keep => rwa [List.append_nil]
  | push r => exact h.push r
  | compact =>
    rw [List.append_nil]
    exact h.compact

end Partition

/-! ## Logs of a session -/

/-- The record that a call appends to a log, told from its answer. -/
def BrokerCall.appended (log : String) : BrokerCall → BrokerAnswer → List Record
  | .append l r, .done => if l = log then [r] else []
  | _, _ => []

theorem Broker.call_change (b : Broker) (x : BrokerCall) (log : String) :
    Partition.Change (b.partition log) (x.appended log (b.call x).1)
      ((b.call x).2.partition log) := by
  cases x with
  | append l r =>
    simp only [Broker.call]
    cases happend : b.append l r with
    | error e => exact .keep _
    | ok b' =>
      simp only [Store.append_partition happend, BrokerCall.appended]
      by_cases hlog : log = l
      · subst hlog
        simpa using .push (b.partition log) r
      · simpa [hlog, Ne.symm hlog] using .keep (b.partition log)
  | compact l =>
    simp only [Broker.call, Broker.compact_partition, BrokerCall.appended]
    split
    · rename_i hlog
      rw [hlog]
      exact .compact _
    · exact .keep _
  | _ => exact .keep _

namespace Session

variable {s : Session} {log : String}

/-- The record that a call appends to a log, told from its answer. -/
def appended (log : String) (s : Session) (c : Call) : List Record :=
  match c, (s.call c).1 with
  | .broker x, .broker a => x.appended log a
  | .readAround _ x, .readAround (some a) _ => x.appended log a
  | _, _ => []

/-- What calls give, call by call. -/
def collect {α : Type} (f : Session → Call → List α) : Session → List Call → List α
  | _, [] => []
  | s, c :: cs => f s c ++ collect f (s.call c).2 cs

/-- The records that a session appends to a log from its beginning on, whatever compaction takes
away. -/
def history (log : String) (calls : List Call) : List Record :=
  ({} : Session).collect (appended log) calls

/-- A call to a session changes a log as the call to the broker does that it carries out, if it
carries out any. -/
theorem call_change (s : Session) (c : Call) (log : String) :
    Partition.Change (s.broker.partition log) (s.appended log c)
      ((s.call c).2.broker.partition log) := by
  have hsame : ∀ b : Broker, b.partitions = s.broker.partitions →
      Partition.Change (s.broker.partition log) [] (b.partition log) := by
    intro b hb
    rw [Broker.partition_congr hb]
    exact .keep _
  cases c with
  | broker x => exact s.broker.call_change x log
  | openReader l start =>
    simp only [appended, call, openReader]
    cases hopen : s.broker.openReader l start with
    | error e => exact .keep _
    | ok res => exact hsame _ (Broker.openReader_ok hopen).1
  | read i =>
    simp only [appended, call, withReader]
    split <;> exact .keep _
  | readAround i x =>
    rcases hr : s.readers[i]? with _ | _ | r
    · simpa only [appended, call, withReader, hr] using .keep _
    · simpa only [appended, call, withReader, hr] using .keep _
    · simp only [appended, call, withReader, hr, readAround]
      cases PendingRead.start r s.broker with
      | answered result r' => exact .keep _
      | asleep r' seen => exact s.broker.call_change x log
  | closeReader i =>
    simp only [appended, call, withReader]
    split
    · exact hsame _ (Reader.release_partitions _ _)
    · exact .keep _
    · exact .keep _
  | dropReader i =>
    simp only [appended, call, withReader]
    split
    · exact hsame _ (Reader.release_partitions _ _)
    · exact .keep _
    · exact .keep _

/-- A log retains what a run appends to it. -/
theorem run_retains {rs : List Record} (h : (s.broker.partition log).Retains rs)
    (cs : List Call) :
    ((s.run cs).broker.partition log).Retains (rs ++ s.collect (appended log) cs) := by
  induction cs generalizing s rs with
  | nil => rwa [collect, List.append_nil]
  | cons c cs ih =>
    rw [collect, ← List.append_assoc]
    exact ih ((s.call_change c log).retains h)

/-- A log retains its history. -/
theorem retains_history (log : String) (calls : List Call) :
    ((({} : Session).run calls).broker.partition log).Retains (history log calls) := by
  have hempty : (({} : Session).broker.partition log).Retains [] := Partition.retains_empty
  exact run_retains hempty calls

theorem collect_append {α : Type} (f : Session → Call → List α) (s : Session) (cs cs' : List Call) :
    s.collect f (cs ++ cs') = s.collect f cs ++ (s.run cs).collect f cs' := by
  induction cs generalizing s with
  | nil => rfl
  | cons c cs ih =>
    rw [List.cons_append, collect, collect, ih, List.append_assoc]
    rfl

theorem run_append (s : Session) (cs cs' : List Call) :
    s.run (cs ++ cs') = (s.run cs).run cs' := List.foldl_append

end Session

end ReplayRegistry
