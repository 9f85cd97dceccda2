import ReplayRegistry.Proofs.ClusterTrace

/-!
# Proofs: what actions change

An action changes the state of one store at most, or the replays of all of them, and of the logs it
changes one at most: it appends a record to it or compacts it.
-/

namespace ReplayRegistry

open Time (Timestamp)

/-! ## Calls to the log service -/

theorem Broker.compact_partition (b : Broker) (log log' : String) :
    (b.compact log).2.partition log' =
      if log' = log then (b.partition log).compact else b.partition log' := by
  unfold Broker.compact
  cases h : b.partitions.get? log with
  | none =>
    by_cases hlog : log' = log
    · simp [Broker.partition, hlog, h, Partition.compact, Partition.empty]
    · simp [hlog]
  | some p => by_cases hlog : log' = log <;> simp [Broker.partition, KeyMap.get?_insert, hlog, h]

/-- A call to the broker leaves a log as it is, appends a record to it, or compacts it. -/
theorem Broker.call_partition (b : Broker) (x : BrokerCall) (log : String) :
    (b.call x).2.partition log = b.partition log ∨
      (∃ r, (b.call x).2.partition log = (b.partition log).push r) ∨
        (x = .compact log ∧ (b.call x).2.partition log = (b.partition log).compact) := by
  cases x with
  | append log' r =>
    simp only [Broker.call]
    cases h : b.append log' r with
    | error e => exact .inl rfl
    | ok b' =>
      simp only [Store.append_partition h]
      split
      · rename_i hlog
        exact .inr (.inl ⟨r, by rw [hlog]⟩)
      · exact .inl rfl
  | compact log' =>
    simp only [Broker.call, Broker.compact_partition]
    split
    · rename_i hlog
      exact .inr (.inr ⟨by rw [hlog], by rw [hlog]⟩)
    · exact .inl rfl
  | _ => exact .inl rfl

/-- A call to a session changes the logs as one call to the broker does, if it changes them. -/
theorem Session.call_partitions (s : Session) (x : Session.Call) :
    (s.call x).2.broker.partitions = s.broker.partitions ∨
      ∃ y, (x = .broker y ∨ ∃ i, x = .readAround i y) ∧
        (s.call x).2.broker = (s.broker.call y).2 := by
  cases x with
  | broker y => exact .inr ⟨y, .inl rfl, rfl⟩
  | openReader log start =>
    simp only [Session.call, Session.openReader]
    cases h : s.broker.openReader log start with
    | error e => exact .inl rfl
    | ok res => exact .inl (Broker.openReader_ok h).1
  | read i =>
    simp only [Session.call, Session.withReader]
    split <;> exact .inl rfl
  | readAround i y =>
    simp only [Session.call, Session.withReader]
    split
    · simp only [Session.readAround]
      split
      · exact .inl rfl
      · exact .inr ⟨y, .inr ⟨i, rfl⟩, rfl⟩
    · exact .inl rfl
    · exact .inl rfl
  | closeReader i =>
    simp only [Session.call, Session.withReader]
    split
    · exact .inl (Reader.release_partitions _ _)
    · exact .inl rfl
    · exact .inl rfl
  | dropReader i =>
    simp only [Session.call, Session.withReader]
    split
    · exact .inl (Reader.release_partitions _ _)
    · exact .inl rfl
    · exact .inl rfl

namespace Cluster

variable {c : Cluster} {i : Nat} {m : Member}

/-! ## Replay -/

/-- Attempts to open a reader that need no delay change nothing but the replay. -/
theorem settle_keeps (s : Store) (b : Broker) :
    ∃ r, (s.settle b).1 = { s with replay := r } ∧ s.replay.Keeps r b (s.settle b).2 :=
  ⟨_, rfl, Replay.settle_keeps (s.replay.settings.maxRestarts + 2) s.replay b⟩

/-- An attempt to open a reader, with those that follow at once, changes nothing but the replay. -/
theorem attemptOpen_keeps (s : Store) (b : Broker) :
    ∃ r, (s.attemptOpen b).1 = { s with replay := r } ∧
      s.replay.Keeps r b (s.attemptOpen b).2 := by
  have hopen := Replay.attemptOpen_keeps s.replay b
  obtain ⟨r, hr, hsettle⟩ :=
    settle_keeps { s with replay := (s.replay.attemptOpen b).1 } (s.replay.attemptOpen b).2
  exact ⟨r, hr, hopen.trans hsettle⟩

/-- When the delays of stores end, each of them tries to open a reader, and the logs stay as they
are. -/
theorem wake_spec : ∀ (ms : List Member) (b : Broker),
    (wake ms b).2.partitions = b.partitions ∧ ∀ (i : Nat) m, ms[i]? = some m →
      ∃ b₀ : Broker, b₀.partitions = b.partitions ∧
        (wake ms b).1[i]? = some { m with store := (m.store.attemptOpen b₀).1 }
  | [], b => ⟨rfl, fun i m h => by cases h⟩
  | m₀ :: ms, b => by
    obtain ⟨r, -, hkeeps⟩ := attemptOpen_keeps m₀.store b
    obtain ⟨hpartitions, hmembers⟩ := wake_spec ms (m₀.store.attemptOpen b).2
    refine ⟨hpartitions.trans hkeeps.partitions, ?_⟩
    intro i m hm
    cases i with
    | zero =>
      cases hm
      exact ⟨b, rfl, rfl⟩
    | succ i =>
      obtain ⟨b₀, hb₀, hwake⟩ := hmembers i m hm
      exact ⟨b₀, hb₀.trans hkeeps.partitions, hwake⟩

/-- A read of a store is the delivery of a record, a fresh start after a failure, or nothing. -/
theorem deliver_spec (s : Store) (hs : s.replay.Sound) (b : Broker) :
    (s.deliver b).2.2.partitions = b.partitions ∧ (s.deliver b).2.1.log = s.log ∧
      (s.deliver b).2.1.replay.Sound ∧ (s.deliver b).2.1.closed = s.closed ∧
        ∃ e, Follower.Step (s.follower b) e ((s.deliver b).2.1.follower (s.deliver b).2.2) ∧
          [(s.deliver b).1].filterMap record? = e.delivered ∧
            (e = .idle ∨ (e = .rewind ∧ [(s.deliver b).1].filterMap failure? ≠ []) ∨
              ∃ f, e = .deliver f) := by
  obtain ⟨hreads, hlog, hsound, hpartitions⟩ := Replay.read_spec hs b
  unfold Store.deliver
  generalize s.replay.read b = res at hreads hlog hsound hpartitions
  obtain ⟨d, r, b'⟩ := res
  simp only at hreads hlog hsound hpartitions
  obtain ⟨r', hr', hkeeps⟩ := settle_keeps { s with replay := r } b'
  have hlogs := hkeeps.partitions.trans hpartitions
  have hlog' : r'.log = s.log := hkeeps.log.trans hlog
  have hfollower := Store.follower_of_replay hlog' hlogs s.view
  rw [hkeeps.place] at hfollower
  cases hreads with
  | @record n e hplace hfirst hplace' =>
    refine ⟨hpartitions, hlog, hsound, rfl, .deliver e, ?_, rfl, .inr (.inr ⟨e, rfl⟩)⟩
    simp only [Store.follower_of_replay hlog hpartitions, hplace']
    exact .deliver (s.follower b) hplace hfirst
  | @failed n err hplace hplace' =>
    simp only [hr', hfollower, hplace']
    exact ⟨hlogs, hlog', hkeeps.sound hsound, trivial, .rewind, .rewind (s.follower b) hplace, rfl,
      .inr (.inl ⟨rfl, List.cons_ne_nil _ _⟩)⟩
  | noRecord hplace' =>
    simp only [hr', hfollower, hplace']
    exact ⟨hlogs, hlog', hkeeps.sound hsound, trivial, .idle, .idle (s.follower b), rfl,
      .inl rfl⟩
  | noReader hplace' =>
    simp only [hr', hfollower, hplace']
    exact ⟨hlogs, hlog', hkeeps.sound hsound, trivial, .idle, .idle (s.follower b), rfl,
      .inl rfl⟩

/-- A store that closes stops its replay, and the logs stay as they are. -/
theorem close_spec (s : Store) (b : Broker) (client : Except LogError Unit) :
    (s.close b client).2.2.partitions = b.partitions ∧
      ((s.close b client).2.1 = s ∨ (s.close b client).2.1 =
        { s with closed := true, replay := (s.replay.stop b).1 }) := by
  obtain ⟨-, -, -, hpartitions⟩ := Replay.stop_spec s.replay b
  unfold Store.close
  split
  · exact ⟨rfl, .inl rfl⟩
  · cases client with
    | error e => exact ⟨hpartitions, .inr rfl⟩
    | ok _ => exact ⟨hpartitions, .inr rfl⟩

/-! ## Actions on one store -/

theorem setStore_members (j : Nat) (s : Store) (b : Broker) :
    (c.setStore j s b).members[i]? =
      if j = i then (c.members[i]?).map fun m => { m with store := s } else c.members[i]? := by
  simp only [setStore, List.getElem?_modify]
  split
  · rfl
  · simp

theorem setStore_self {j : Nat} {mj : Member} (hmj : c.members[j]? = some mj) :
    c.setStore j mj.store c.broker = c := by
  have hmembers : (c.members.modify j fun m => { m with store := mj.store }) = c.members := by
    refine List.ext_getElem? ?_
    intro k
    rw [List.getElem?_modify]
    split
    · rename_i hj
      rw [← hj, hmj]
      rfl
    · simp
  rw [setStore, hmembers]

theorem deliver_cases (c : Cluster) (j : Nat) :
    c.step (.deliver j) = (.noStore, c) ∨ ∃ mj, c.members[j]? = some mj ∧
      c.step (.deliver j) = (.delivered [(mj.store.deliver c.broker).1],
        c.setStore j (mj.store.deliver c.broker).2.1 (mj.store.deliver c.broker).2.2) := by
  cases hmj : c.members[j]? with
  | none => exact .inl (by simp [step, deliver, withMember, hmj])
  | some mj => exact .inr ⟨mj, rfl, by simp [step, deliver, withMember, hmj]⟩

theorem closeStore_step {j : Nat} {mj : Member} (hmj : c.members[j]? = some mj)
    (hdropped : mj.dropped = false) (client : Except LogError Unit) :
    c.step (.closeStore j client) = (.closed (mj.store.close c.broker client).1,
      c.setStore j (mj.store.close c.broker client).2.1
        (mj.store.close c.broker client).2.2) := by
  simp [step, closeStore, withStore, withMember, hmj, hdropped]

theorem closeStore_cases (c : Cluster) (j : Nat) (client : Except LogError Unit) :
    (c.step (.closeStore j client)).2 = c ∨ ∃ mj, c.members[j]? = some mj ∧
      c.step (.closeStore j client) = (.closed (mj.store.close c.broker client).1,
        c.setStore j (mj.store.close c.broker client).2.1
          (mj.store.close c.broker client).2.2) := by
  cases hmj : c.members[j]? with
  | none => exact .inl (by simp [step, closeStore, withStore, withMember, hmj])
  | some mj =>
    by_cases hdropped : mj.dropped
    · exact .inl (by simp [step, closeStore, withStore, withMember, hmj, hdropped])
    · exact .inr ⟨mj, rfl, closeStore_step hmj (by simpa using hdropped) client⟩

theorem dropStore_cases (c : Cluster) (j : Nat) :
    (c.step (.dropStore j)).2 = c ∨ ∃ mj, c.members[j]? = some mj ∧
      (c.step (.dropStore j)).2 = { c with
        broker := (mj.store.release c.broker).2
        members := c.members.modify j fun _ => ⟨(mj.store.release c.broker).1, true⟩ } := by
  cases hmj : c.members[j]? with
  | none => exact .inl (by simp [step, dropStore, withMember, hmj])
  | some mj => exact .inr ⟨mj, rfl, by simp [step, dropStore, withMember, hmj]⟩

theorem write_step {j : Nat} {mj : Member} (hmj : c.members[j]? = some mj)
    (hdropped : mj.dropped = false) (w : Write) (now : Timestamp) :
    c.step (.write j w now) = (.written (mj.store.write c.broker w now).1,
      c.setStore j (mj.store.write c.broker w now).2.1 (mj.store.write c.broker w now).2.2) := by
  simp [step, write, withStore, withMember, hmj, hdropped]

theorem write_setStore (c : Cluster) (j : Nat) (w : Write) (now : Timestamp) :
    (c.step (.write j w now)).2 = c ∨ ∃ mj, c.members[j]? = some mj ∧
      (c.step (.write j w now)).2 = c.setStore j (mj.store.write c.broker w now).2.1
        (mj.store.write c.broker w now).2.2 := by
  cases hmj : c.members[j]? with
  | none => exact .inl (by simp [step, write, withStore, withMember, hmj])
  | some mj =>
    by_cases hdropped : mj.dropped
    · exact .inl (by simp [step, write, withStore, withMember, hmj, hdropped])
    · exact .inr ⟨mj, rfl, by rw [write_step hmj (by simpa using hdropped)]⟩

/-- A write that does not succeed changes nothing. One that succeeds appends its document to the log
of the store, and installs it in the view of the store. -/
theorem write_cases (h : c.Sound) (j : Nat) (w : Write) (now : Timestamp) :
    ((c.step (.write j w now)).2 = c ∧ ∀ key, (c.step (.write j w now)).1 ≠ .written (.ok key)) ∨
      ∃ mj d b, c.members[j]? = some mj ∧ mj.store.prepare w now = .ok d ∧
        c.broker.append mj.store.log ⟨d.id, d.encode⟩ = .ok b ∧
          c.step (.write j w now) = (.written (.ok d.id),
            c.setStore j { mj.store with view := mj.store.view.install d } b) := by
  cases hmj : c.members[j]? with
  | none => exact .inl (by simp [step, write, withStore, withMember, hmj])
  | some mj =>
    by_cases hdropped : mj.dropped
    · exact .inl (by simp [step, write, withStore, withMember, hmj, hdropped])
    · have hstep := write_step hmj (by simpa using hdropped) w now
      rcases Store.write_cases (h.followers j mj hmj).tidy c.broker w now
        with ⟨e, hfail⟩ | ⟨d, b, hprepare, happend, hok⟩
      · simp only [hfail, setStore_self hmj] at hstep
        exact .inl (by simp [hstep])
      · simp only [hok] at hstep
        exact .inr ⟨mj, d, b, rfl, hprepare, happend, hstep⟩

/-! ## Logs and members -/

/-- An action leaves a log as it is, appends a record to it, or compacts it. -/
theorem Sound.step_partition (h : c.Sound) (a : Action) (log : String) :
    (c.step a).2.broker.partition log = c.broker.partition log ∨
      (∃ r, (c.step a).2.broker.partition log = (c.broker.partition log).push r) ∨
        (c.step a).2.broker.partition log = (c.broker.partition log).compact := by
  have hsame : ∀ b : Broker, b.partitions = c.broker.partitions →
      b.partition log = c.broker.partition log := fun b hb => Broker.partition_congr hb log
  cases a with
  | call x =>
    rcases Session.call_partitions c.toSession x with heq | ⟨y, -, hbroker⟩
    · exact .inl (hsame _ heq)
    · have hstep : (c.step (.call x)).2.broker = (c.broker.call y).2 := hbroker
      rw [hstep]
      rcases Broker.call_partition c.broker y log with heq | hpush | ⟨-, hcompact⟩
      · exact .inl heq
      · exact .inr (.inl hpush)
      · exact .inr (.inr hcompact)
  | openStore log' settings =>
    obtain ⟨r, -, hkeeps⟩ := attemptOpen_keeps (Store.opened log' settings) c.broker
    exact .inl (hsame _ hkeeps.partitions)
  | write j w now =>
    rcases write_cases h j w now with ⟨heq, -⟩ | ⟨mj, d, b, -, -, happend, hstep⟩
    · exact .inl (by rw [heq])
    · have hlog := Store.append_partition happend log
      rw [hstep]
      split at hlog
      · rename_i hmj
        rw [← hmj] at hlog
        exact .inr (.inl ⟨_, hlog⟩)
      · exact .inl hlog
  | deliver j =>
    rcases deliver_cases c j with hstep | ⟨mj, hmj, hstep⟩
    · exact .inl (by rw [hstep])
    · rw [hstep]
      exact .inl (hsame _ (deliver_spec mj.store (h.readers j mj hmj) c.broker).1)
  | tick => exact .inl (hsame _ (wake_spec c.members c.broker).1)
  | stayUp ms => exact .inl rfl
  | closeStore j client =>
    rcases closeStore_cases c j client with hstep | ⟨mj, -, hstep⟩
    · exact .inl (by rw [hstep])
    · rw [hstep]
      exact .inl (hsame _ (close_spec mj.store c.broker client).1)
  | dropStore j =>
    rcases dropStore_cases c j with hstep | ⟨mj, -, hstep⟩
    · exact .inl (by rw [hstep])
    · rw [hstep]
      exact .inl (hsame _ (Replay.stop_spec mj.store.replay c.broker).2.2.2)

theorem wake_length : ∀ (ms : List Member) (b : Broker), (wake ms b).1.length = ms.length
  | [], _ => rfl
  | _ :: ms, _ => congrArg Nat.succ (wake_length ms _)

/-- Only opening a store makes the stores more. -/
theorem step_members_length (c : Cluster) (a : Action) :
    (c.step a).2.members.length = c.members.length ∨
      ∃ log settings, a = .openStore log settings := by
  have hset : ∀ j s b, (c.setStore j s b).members.length = c.members.length := fun j s b =>
    List.length_modify ..
  cases a with
  | openStore log settings => exact .inr ⟨log, settings, rfl⟩
  | call x => exact .inl rfl
  | write j w now =>
    rcases write_setStore c j w now with hstep | ⟨mj, -, hstep⟩
    · exact .inl (by rw [hstep])
    · exact .inl (by rw [hstep, hset])
  | deliver j =>
    rcases deliver_cases c j with hstep | ⟨mj, -, hstep⟩
    · exact .inl (by rw [hstep])
    · exact .inl (by rw [hstep, hset])
  | tick => exact .inl (wake_length c.members c.broker)
  | stayUp ms => exact .inl (List.length_map _)
  | closeStore j client =>
    rcases closeStore_cases c j client with hstep | ⟨mj, -, hstep⟩
    · exact .inl (by rw [hstep])
    · exact .inl (by rw [hstep, hset])
  | dropStore j =>
    rcases dropStore_cases c j with hstep | ⟨mj, -, hstep⟩
    · exact .inl (by rw [hstep])
    · exact .inl (by rw [hstep]; exact List.length_modify ..)

theorem members_length_le_step (c : Cluster) (a : Action) :
    c.members.length ≤ (c.step a).2.members.length := by
  rcases step_members_length c a with hlength | ⟨log, settings, rfl⟩
  · exact hlength.ge
  · have hmembers : (c.step (.openStore log settings)).2.members.length = c.members.length + 1 :=
      List.length_append
    omega

/-- A store that is new after an action has just been opened. -/
theorem opened_spec {a : Action} {m' : Member} (hnone : c.members[i]? = none)
    (hm : (c.step a).2.members[i]? = some m') :
    m'.store.replay.Sound ∧ m'.store.closed = false ∧
      (c.step a).2.follower m' = ⟨{}, some 0, c.broker.partition m'.store.log⟩ := by
  rcases step_members_length c a with hlength | ⟨log, settings, rfl⟩
  · rw [List.getElem?_eq_none_iff, ← hlength, ← List.getElem?_eq_none_iff, hm] at hnone
    cases hnone
  · obtain ⟨r, hstore, hkeeps⟩ := attemptOpen_keeps (Store.opened log settings) c.broker
    have hmembers : (c.step (.openStore log settings)).2.members =
        c.members ++ [⟨((Store.opened log settings).attemptOpen c.broker).1, false⟩] := rfl
    have hbroker : (c.step (.openStore log settings)).2.broker =
        ((Store.opened log settings).attemptOpen c.broker).2 := rfl
    have hi : c.members.length ≤ i := List.getElem?_eq_none_iff.1 hnone
    rw [hmembers, List.getElem?_append_right hi, List.getElem?_singleton] at hm
    split at hm
    · cases hm
      have hsound : (Store.opened log settings).replay.Sound :=
        Replay.sound_of_not_tailing (by simp [Store.opened])
      rw [follower, hbroker, hstore]
      refine ⟨hkeeps.sound hsound, rfl, ?_⟩
      have hfollower :=
        Store.follower_of_replay (s := Store.opened log settings) hkeeps.log hkeeps.partitions {}
      rw [hkeeps.place] at hfollower
      have hlog : r.log = log := hkeeps.log
      simp only [Store.log, hlog]
      exact hfollower
    · cases hm

end Cluster

end ReplayRegistry
