import ReplayRegistry.Proofs.FleetSteps

/-!
# Proofs: what is told of a replay

What is told of a replay, and the alerts that it raises, are read off the turns that it has taken
since its store was opened. A log that no reader can be opened on is reported for good, unless the
longest delay is no time at all.
-/

namespace ReplayRegistry

namespace Fleet

variable {f : Fleet} {i : Nat} {m : Member} {s : ReplaySettings} {ts us : List Turn}

/-- The store `i` is the one of the member `m`. Its replay has taken the turns `ts`, and has stopped
only if it has been told to. -/
structure Supervised (f : Fleet) (i : Nat) (s : ReplaySettings) (ts : List Turn) (m : Member) :
    Prop where
  member : f.members[i]? = some m
  follows : m.store.replay.Follows s ts
  told : m.store.health = .stopped → (f.tasks i).told

theorem Moves.follows {b b' : Broker} {o : Option OpenWrite} {m' : Member} {x x' : Task}
    (hmove : Moves b o m x us m' b' x') (h : m.store.replay.Follows s ts) :
    m'.store.replay.Follows s (ts ++ us) := by
  cases hmove with
  | answer => exact h.attemptOpen b
  | read => exact h.read b
  | take => exact h.read b
  | halt =>
    rw [List.append_nil]
    exact h.stop b
  | _ =>
    rw [List.append_nil]
    exact h

theorem Moves.told {b b' : Broker} {o : Option OpenWrite} {m' : Member} {x x' : Task}
    (hmove : Moves b o m x us m' b' x') (h : m.store.health = .stopped → x.told)
    (hstopped : m'.store.health = .stopped) : x'.told := by
  cases hmove with
  | answer => exact h (Replay.attemptOpen_stopped hstopped)
  | read => exact h (Replay.read_stopped hstopped)
  | take => exact h (Replay.read_stopped hstopped)
  | halt _ htold => exact htold
  | tell => rfl
  | dropStore => rfl
  | _ => exact h hstopped

theorem Supervised.step (h : f.Supervised i s ts m) (e : Event) :
    ∃ m', (f.step e).Supervised i s (ts ++ f.turns i e) m' := by
  by_cases he : e.store? = some i
  · obtain ⟨m', hm', hmove⟩ := step_moves h.member he
    exact ⟨m', hm', hmove.follows h.follows, hmove.told h.told⟩
  · obtain ⟨m', hm', hstands, htask⟩ := step_standsBy h.member he
    obtain ⟨ms, hreplay⟩ := hstands.replay
    refine ⟨m', hm', ?_, ?_⟩
    · rw [turns_of_elsewhere he, List.append_nil, hreplay]
      exact h.follows.stayUp ms
    · rw [htask, hstands.health]
      exact h.told

theorem Supervised.run (h : f.Supervised i s ts m) (es : List Event) :
    ∃ m', (f.run es).Supervised i s (ts ++ f.collect (turns i) es) m' := by
  induction es generalizing f ts m with
  | nil => exact ⟨m, by rw [collect, List.append_nil]; exact h⟩
  | cons e es ih =>
    obtain ⟨m₁, h₁⟩ := h.step e
    obtain ⟨m', h'⟩ := ih h₁
    rw [List.append_assoc] at h'
    exact ⟨m', h'⟩

theorem supervised_opened (f : Fleet) (log : String) (s : ReplaySettings) :
    (f.step (.openStore log s)).Supervised f.members.length s [] ⟨Store.opened log s, false⟩ where
  member := List.getElem?_concat_length
  follows := Replay.follows_opened s log
  told h := nomatch h

/-- Whatever becomes of a store that is opened, what is told of its replay and the alerts that it
has raised are what its settings say for the turns that it has taken since, until it stops because
it has been told to. -/
theorem told_and_alerted_by_turns (f : Fleet) (log : String) (s : ReplaySettings)
    (es : List Event) :
    let i := f.members.length
    let opened := f.step (.openStore log s)
    let ts := opened.collect (turns i) es
    ∃ m, (opened.run es).members[i]? = some m ∧
      m.store.replay.alerts = s.alertsAfter (failures ts) ∧
      (m.store.health = s.healthAfter ts ∨
        m.store.health = .stopped ∧ ((opened.run es).tasks i).told) := by
  intro i opened ts
  obtain ⟨m, h⟩ := (f.supervised_opened log s).run es
  refine ⟨m, h.member, h.follows.alerts, ?_⟩
  rcases h.follows.health with hstopped | hhealth
  · exact .inr ⟨hstopped, h.told hstopped⟩
  · exact .inl hhealth

/-! ## Outages -/

/-- A replay that has never had a reader fails only in its attempts to open one. -/
theorem Moves.instant {b b' : Broker} {o : Option OpenWrite} {m' : Member} {x x' : Task}
    (hmove : Moves b o m x us m' b' x') (h : m.store.replay.Follows s ts) (hts : .opened ∉ ts) :
    ∀ y ∈ failures us, y.uptime = 0 := by
  cases hmove with
  | answer => exact m.store.replay.attemptTurns_instant b
  | read =>
    rw [Replay.readTurns_eq_nil (h.not_tailing hts)]
    simp [failures]
  | take =>
    rw [Replay.readTurns_eq_nil (h.not_tailing hts)]
    simp [failures]
  | _ => simp [failures]

theorem Supervised.turns_instant (h : f.Supervised i s ts m) (hts : .opened ∉ ts) (e : Event) :
    ∀ y ∈ failures (f.turns i e), y.uptime = 0 := by
  by_cases he : e.store? = some i
  · obtain ⟨m', -, hmove⟩ := step_moves h.member he
    exact hmove.instant h.follows hts
  · rw [turns_of_elsewhere he]
    simp [failures]

theorem Supervised.run_instant (h : f.Supervised i s ts m) (es : List Event)
    (hts : .opened ∉ ts ++ f.collect (turns i) es) :
    ∀ y ∈ failures (f.collect (turns i) es), y.uptime = 0 := by
  induction es generalizing f ts m with
  | nil => simp [collect, failures]
  | cons e es ih =>
    have hcollect : f.collect (turns i) (e :: es) =
        f.turns i e ++ (f.step e).collect (turns i) es := rfl
    obtain ⟨m₁, h₁⟩ := h.step e
    rw [hcollect, ← List.append_assoc] at hts
    have hbefore : .opened ∉ ts := fun hmem =>
      hts (List.mem_append_left _ (List.mem_append_left _ hmem))
    rw [hcollect, failures_append]
    intro y hy
    rcases List.mem_append.1 hy with hy | hy
    · exact h.turns_instant hbefore e y hy
    · exact ih h₁ hts y hy

/-- With these settings a log that no reader can be opened on is reported: in every run in which no
attempt to open one succeeds, the store is degraded once there have been more attempts than growing
delays, until it stops because it has been told to, and the first attempt too many, but no other
one, raises an alert. -/
def ReportsOutages (s : ReplaySettings) : Prop :=
  ∀ (f : Fleet) (log : String) (es : List Event), f.Reachable →
    let i := f.members.length
    let opened := f.step (.openStore log s)
    let ts := opened.collect (turns i) es
    .opened ∉ ts →
      ∃ m, (opened.run es).members[i]? = some m ∧
        (s.maxRestarts < ts.length →
          (∃ n, m.store.health = .degraded n) ∨
            m.store.health = .stopped ∧ ((opened.run es).tasks i).told) ∧
        m.store.replay.alerts =
          (failures ts)[s.maxRestarts]?.toList.map fun x => ⟨s.maxRestarts + 1, x.error⟩

theorem reportsOutages_of_delay (hdelay : 0 < s.maxDelay) : ReportsOutages s := by
  intro f log es _ i opened ts hts
  have hopened := f.supervised_opened log s
  have hinstant : ∀ y ∈ failures ts, y.uptime = 0 := hopened.run_instant es hts
  obtain ⟨m, h⟩ := hopened.run es
  have hfollows : m.store.replay.Follows s ts := h.follows
  refine ⟨m, h.member, fun hmany => ?_, ?_⟩
  · rcases hfollows.health with hstopped | hhealth
    · exact .inr ⟨hstopped, h.told hstopped⟩
    · have hne : ts ≠ [] := List.ne_nil_of_length_pos (by omega)
      refine .inl ⟨ts.length, hhealth.trans ?_⟩
      rw [ReplaySettings.healthAfter_of_not_opened hts hne,
        ReplaySettings.lastStreak_of_instant hdelay hinstant, length_failures hts,
        if_neg (by omega)]
  · rw [hfollows.alerts, ReplaySettings.alertsAfter_of_instant hdelay hinstant]

/-! ## Outages without delays -/

/-- The store `i` waits to open a reader, which the log refuses. -/
structure Refused (f : Fleet) (i : Nat) (log : String) : Prop where
  refusal : f.broker.openReader log .earliest = .error (.openRejected log)
  task : f.tasks i = {}
  member : ∃ m, f.members[i]? = some m ∧ m.store.log = log ∧ m.store.replay.pausing

/-- What happens when the store `i` tries `k` times to open a reader. -/
def attempts (i : Nat) : Nat → List Event
  | 0 => []
  | k + 1 => [.wake i, .answer i] ++ attempts i k

theorem Refused.attempt {log : String} (h : f.Refused i log) :
    (f.run [.wake i, .answer i]).Refused i log ∧
      f.collect (turns i) [.wake i, .answer i] = [.failed ⟨.openRejected log, 0⟩] := by
  obtain ⟨hrefusal, htask, m, hm, rfl, hpausing⟩ := h
  obtain ⟨hattempt, hturns⟩ := Replay.attemptOpen_of_refused hpausing hrefusal
  obtain ⟨hrun, hcollect⟩ := run_attempt hm (by rw [htask]) (by rw [htask]) hpausing
  have hstore : m.store.attempt f.broker =
      ({ m.store with replay := m.store.replay.fail (.openRejected m.store.log) 0 }, f.broker) := by
    rw [Store.attempt, hattempt]
  obtain ⟨hfail, hlog⟩ := m.store.replay.fail_pausing (.openRejected m.store.log) 0
  refine ⟨⟨?_, ?_, ?_⟩, hcollect.trans hturns⟩
  · rw [hrun, withTask_broker, hstore]
    exact hrefusal
  · rw [hrun, withTask_tasks, htask]
  · refine ⟨_, member_of_withTask hm hrun, ?_⟩
    rw [hstore]
    exact ⟨hlog, hfail⟩

theorem Refused.attempts {log : String} (h : f.Refused i log) (k : Nat) :
    (f.run (attempts i k)).Refused i log ∧
      f.collect (turns i) (attempts i k) =
        List.replicate k (.failed ⟨.openRejected log, 0⟩) := by
  induction k generalizing f with
  | zero => exact ⟨h, rfl⟩
  | succ k ih =>
    obtain ⟨hfirst, hturn⟩ := h.attempt
    obtain ⟨hrest, hturns⟩ := ih hfirst
    constructor
    · rw [Fleet.attempts, run_append]
      exact hrest
    · rw [Fleet.attempts, collect_append, hturn, hturns, List.replicate_succ]
      rfl

/-- A store that is opened during an outage, after `k` attempts. -/
theorem opened_attempts (hclosed : f.broker.closed = false) (hfail : f.broker.failOpens)
    (log : String) (s : ReplaySettings) (k : Nat) :
    let i := f.members.length
    let opened := f.step (.openStore log s)
    let ts := List.replicate k (.failed ⟨.openRejected log, 0⟩)
    opened.collect (turns i) (attempts i k) = ts ∧
      ((opened.run (attempts i k)).tasks i).told = false ∧
      ∃ m, (opened.run (attempts i k)).members[i]? = some m ∧ m.store.replay.Follows s ts := by
  intro i opened ts
  have hrefused : opened.Refused i log := by
    refine ⟨?_, if_pos rfl, _, List.getElem?_concat_length, rfl, rfl⟩
    show f.broker.openReader log .earliest = _
    simp [Broker.openReader, hclosed, hfail]
  obtain ⟨hend, hturns⟩ := hrefused.attempts k
  obtain ⟨m, h⟩ := (f.supervised_opened log s).run (Fleet.attempts i k)
  have hfollows : m.store.replay.Follows s ([] ++ opened.collect (turns i) (Fleet.attempts i k)) :=
    h.follows
  rw [List.nil_append, hturns] at hfollows
  exact ⟨hturns, by rw [hend.task], m, h.member, hfollows⟩

/-- If the longest delay is no time at all, each failure begins a streak: either the store is never
degraded, or each failure raises an alert. -/
theorem not_reportsOutages_of_no_delay (hdelay : s.maxDelay = 0) : ¬ ReportsOutages s := by
  intro hreports
  let f : Fleet := ({} : Fleet).run [.traffic (.act (.call (.broker (.failOpens true))))]
  let x : Failure := ⟨.openRejected "", 0⟩
  obtain ⟨hturns, htold, m, hm, hfollows⟩ :=
    opened_attempts (f := f) rfl rfl "" s (s.maxRestarts + 2)
  have hunopened : Turn.opened ∉ List.replicate (s.maxRestarts + 2) (.failed x) := by simp
  have hstreaks := ReplaySettings.streaks_of_no_delay hdelay (List.replicate (s.maxRestarts + 2) x)
  have hreport := hreports f "" (attempts f.members.length (s.maxRestarts + 2)) ⟨_, rfl⟩
  simp only [hturns, htold, failures_replicate] at hreport
  obtain ⟨m', hm', hdegraded, halerts⟩ := hreport hunopened
  rw [hm] at hm'
  cases hm'
  by_cases hmax : s.maxRestarts = 0
  · -- two failures, two alerts
    have htwo := congrArg List.length (hfollows.alerts.symm.trans halerts)
    rw [failures_replicate, ReplaySettings.alertsAfter, hstreaks] at htwo
    simp [hmax, List.replicate_succ] at htwo
  · -- the last failure is the first one of its streak, which is not too long
    have hlast : (s.lastStreak (List.replicate (s.maxRestarts + 2) x)).length = 1 :=
      ReplaySettings.length_lastStreak_of_no_delay hdelay (by simp)
    have hhealth : s.healthAfter (List.replicate (s.maxRestarts + 2) (.failed x)) =
        .restarting 1 := by
      rw [ReplaySettings.healthAfter_of_not_opened hunopened (by simp), failures_replicate, hlast,
        if_pos (by omega)]
    have hmany : s.maxRestarts < (List.replicate (s.maxRestarts + 2) (Turn.failed x)).length := by
      rw [List.length_replicate]
      omega
    rcases hdegraded hmany with ⟨n, hn⟩ | ⟨-, hstopped⟩
    · rcases hfollows.health with hsame | hsame
      · exact absurd (hsame.symm.trans hn) (by simp)
      · exact absurd (hn.symm.trans (hsame.trans hhealth)) (by simp)
    · cases hstopped

/-- Outages are reported with all settings but those whose longest delay is no time at all. -/
theorem reportsOutages_iff (s : ReplaySettings) : ReportsOutages s ↔ 0 < s.maxDelay := by
  constructor
  · intro hreports
    refine Nat.pos_of_ne_zero fun hdelay => ?_
    exact not_reportsOutages_of_no_delay hdelay hreports
  · exact reportsOutages_of_delay

/-- The longest delay is no time at all, and the first two attempts to open a reader fail. One
growing delay is all there is, but the second failure is counted as a first one again. -/
theorem outage_not_reported :
    let s : ReplaySettings := ⟨5, 0, 1⟩
    let f : Fleet := ({} : Fleet).run [.traffic (.act (.call (.broker (.failOpens true))))]
    let opened := f.step (.openStore "registry" s)
    let es : List Event := [.wake 0, .answer 0, .wake 0, .answer 0]
    opened.collect (turns 0) es =
        [.failed ⟨.openRejected "registry", 0⟩, .failed ⟨.openRejected "registry", 0⟩] ∧
      (opened.run es).members.map (·.store.health) = [.restarting 1] ∧
      (opened.run es).members.map (·.store.replay.alerts) = [[]] ∧
      ¬ ReportsOutages s := by
  intro s f opened es
  have hturns : opened.collect (turns 0) es =
      [.failed ⟨.openRejected "registry", 0⟩, .failed ⟨.openRejected "registry", 0⟩] := rfl
  have hhealth : (opened.run es).members.map (·.store.health) = [.restarting 1] := rfl
  refine ⟨hturns, hhealth, rfl, fun hreports => ?_⟩
  have hunopened : Turn.opened ∉ opened.collect (turns 0) es := by simp [hturns]
  obtain ⟨m, hm, hdegraded, -⟩ := hreports f "registry" es ⟨_, rfl⟩ hunopened
  have hm : (opened.run es).members[0]? = some m := hm
  have hrestarting : m.store.health = .restarting 1 := by
    have hfirst := congrArg (·[0]?) hhealth
    simpa [hm] using hfirst
  have hmany : s.maxRestarts < (opened.collect (turns 0) es).length := by
    rw [hturns]
    decide
  rcases hdegraded hmany with ⟨n, hn⟩ | ⟨hstopped, -⟩
  · exact absurd (hrestarting.symm.trans hn) (by simp)
  · exact absurd (hrestarting.symm.trans hstopped) (by simp)

end Fleet

end ReplayRegistry
