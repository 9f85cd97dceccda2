import Mathlib.Data.List.SplitBy
import ReplayRegistry.Store.Replay

/-!
# Proofs: streaks of failures

A replay goes from one reader to the next through failures. Those that come one after another
without a reader that stays up for the longest delay are a streak, and the place of a failure in its
streak decides what is told of the replay and whether there is an alert.
-/

namespace ReplayRegistry

/-- A reader fails, or cannot be opened. -/
structure Failure where
  error : LogError
  /-- How long the reader has been up; no time at all if it could not be opened. -/
  uptime : Nat

/-- What replay comes to when it tries to open a reader or reads. -/
inductive Turn where
  /-- A reader is open. -/
  | opened
  | failed (x : Failure)

def Turn.failure? : Turn → Option Failure
  | opened => none
  | failed x => some x

/-- The failures among turns. -/
def failures (ts : List Turn) : List Failure := ts.filterMap Turn.failure?

@[simp] theorem failures_opened (ts : List Turn) : failures (ts ++ [.opened]) = failures ts := by
  simp [failures, Turn.failure?]

@[simp] theorem failures_failed (ts : List Turn) (x : Failure) :
    failures (ts ++ [.failed x]) = failures ts ++ [x] := by
  simp [failures, Turn.failure?]

namespace ReplaySettings

/-- The streaks of failures: in none of them a failure after the first comes from a reader that has
stayed up for the longest delay, and each is as long as it can be. -/
def streaks (s : ReplaySettings) (xs : List Failure) : List (List Failure) :=
  xs.splitBy fun _ x => x.uptime < s.maxDelay

/-- The streak of the last failure. -/
def lastStreak (s : ReplaySettings) (xs : List Failure) : List Failure :=
  ((s.streaks xs).getLast?).getD []

/-- What is to be told of a replay that has not been stopped. -/
def healthAfter (s : ReplaySettings) (ts : List Turn) : Health :=
  match ts.getLast? with
  | none => .starting
  | some .opened => .tailing (failures ts).length
  | some (.failed _) =>
    let n := (s.lastStreak (failures ts)).length
    if n ≤ s.maxRestarts then .restarting n else .degraded n

/-- The alerts that are to be raised: in each streak that is long enough, one at the first failure
that no growing delay is left for. -/
def alertsAfter (s : ReplaySettings) (xs : List Failure) : List Alert :=
  (s.streaks xs).filterMap fun streak =>
    streak[s.maxRestarts]?.map fun x => ⟨s.maxRestarts + 1, x.error⟩

variable {s : ReplaySettings} {xs : List Failure} {x : Failure}

/-- A failure after the longest delay is the first one of a streak. -/
theorem streaks_concat_of_le (hx : s.maxDelay ≤ x.uptime) :
    s.streaks (xs ++ [x]) = s.streaks xs ++ [[x]] := by
  have hbreak : ∀ y ∈ xs.getLast?,
      (fun _ x : Failure => decide (x.uptime < s.maxDelay)) y x = false := by
    intro y _
    simpa using hx
  exact List.splitBy_append_cons [] hbreak

/-- Any other failure belongs to the streak of the failure before it. -/
theorem streaks_concat_of_lt (hx : x.uptime < s.maxDelay) {init : List (List Failure)}
    {last : List Failure} (hlast : s.streaks xs = init ++ [last]) :
    s.streaks (xs ++ [x]) = init ++ [last ++ [x]] := by
  obtain ⟨hflat, hne, hchain, hbreaks⟩ := List.splitBy_eq_iff.1 hlast
  have hlast_ne : last ≠ [] := by
    rintro rfl
    exact hne (by simp)
  refine List.splitBy_eq_iff.2 ⟨?_, ?_, ?_, ?_⟩
  · simp [hflat]
  · simp only [List.mem_append, List.mem_singleton, not_or] at hne ⊢
    exact ⟨hne.1, by simp⟩
  · intro m hm
    rcases List.mem_append.1 hm with hm | hm
    · exact hchain m (List.mem_append_left _ hm)
    · obtain rfl := List.mem_singleton.1 hm
      have hold := hchain last (by simp)
      refine List.isChain_append.2 ⟨hold, List.isChain_singleton x, ?_⟩
      intro y _ z hz
      obtain rfl : x = z := by simpa using hz
      simpa using hx
  · -- the streak before the last one ends where the last one starts, which is where it started
    refine List.isChain_append.2 ⟨(List.isChain_append.1 hbreaks).1, List.isChain_singleton _, ?_⟩
    intro a ha b hb
    obtain rfl : last ++ [x] = b := by simpa using hb
    obtain ⟨ha_ne, _, hbreak⟩ := (List.isChain_append.1 hbreaks).2.2 a ha last (by simp)
    refine ⟨ha_ne, by simp, ?_⟩
    rw [List.head_append_of_ne_nil hlast_ne]
    exact hbreak

/-- How many failures of its streak come before a failure. -/
def earlier (s : ReplaySettings) (xs : List Failure) (x : Failure) : Nat :=
  if s.maxDelay ≤ x.uptime then 0 else (s.lastStreak xs).length

theorem streaks_eq_nil : s.streaks xs = [] ↔ xs = [] := List.splitBy_eq_nil

theorem lastStreak_of_eq {init : List (List Failure)} {last : List Failure}
    (h : s.streaks xs = init ++ [last]) : s.lastStreak xs = last := by
  simp [lastStreak, h]

/-- A failure begins a streak or goes on with the last one. -/
theorem streaks_concat (s : ReplaySettings) (xs : List Failure) (x : Failure) :
    (s.earlier xs x = 0 ∧ s.streaks (xs ++ [x]) = s.streaks xs ++ [[x]]) ∨
      ∃ init last, s.earlier xs x = last.length ∧ s.streaks xs = init ++ [last] ∧
        s.streaks (xs ++ [x]) = init ++ [last ++ [x]] := by
  by_cases hx : s.maxDelay ≤ x.uptime
  · exact .inl ⟨if_pos hx, streaks_concat_of_le hx⟩
  · have hearlier : s.earlier xs x = (s.lastStreak xs).length := if_neg hx
    rcases List.eq_nil_or_concat (s.streaks xs) with hnil | ⟨init, last, hlast⟩
    · obtain rfl := streaks_eq_nil.1 hnil
      exact .inl ⟨hearlier, rfl⟩
    · rw [List.concat_eq_append] at hlast
      rw [lastStreak_of_eq hlast] at hearlier
      exact .inr ⟨init, last, hearlier, hlast, streaks_concat_of_lt (by omega) hlast⟩

theorem length_lastStreak_concat (s : ReplaySettings) (xs : List Failure) (x : Failure) :
    (s.lastStreak (xs ++ [x])).length = s.earlier xs x + 1 := by
  rcases s.streaks_concat xs x with ⟨hearlier, hstreaks⟩ | ⟨init, last, hearlier, -, hstreaks⟩
  · rw [lastStreak_of_eq hstreaks, hearlier]
    rfl
  · rw [lastStreak_of_eq hstreaks, hearlier, List.length_append]
    rfl

/-- A failure raises an alert if no growing delay is left for it and none has been wanting before in
its streak. -/
theorem alertsAfter_concat (s : ReplaySettings) (xs : List Failure) (x : Failure) :
    s.alertsAfter (xs ++ [x]) = s.alertsAfter xs ++
      if s.earlier xs x = s.maxRestarts then [⟨s.maxRestarts + 1, x.error⟩] else [] := by
  rcases s.streaks_concat xs x with ⟨hearlier, hstreaks⟩ | ⟨init, last, hearlier, hlast, hstreaks⟩
  · rw [alertsAfter, hstreaks, List.filterMap_append, hearlier]
    congr 1
    cases s.maxRestarts <;> simp
  · rw [alertsAfter, alertsAfter, hstreaks, hlast, List.filterMap_append, List.filterMap_append,
      hearlier, List.append_assoc]
    congr 1
    rcases Nat.lt_trichotomy last.length s.maxRestarts with hlt | heq | hgt
    · have hnone : (last ++ [x])[s.maxRestarts]? = none := by
        rw [List.getElem?_eq_none_iff, List.length_append, List.length_singleton]
        omega
      have hnone' : last[s.maxRestarts]? = none := List.getElem?_eq_none_iff.2 (by omega)
      simp [hnone, hnone', Nat.ne_of_lt hlt]
    · simp [← heq]
    · have hsame : (last ++ [x])[s.maxRestarts]? = last[s.maxRestarts]? :=
        List.getElem?_append_left hgt
      simp only [List.filterMap_cons, List.filterMap_nil, hsame, if_neg (Nat.ne_of_gt hgt),
        List.append_nil]

end ReplaySettings

/-! ## Counting failures -/

theorem Backoff.next?_of_left_eq_zero {b : Backoff} (h : b.left = 0) : b.next? = none := by
  simp [Backoff.next?, h]

theorem Backoff.next?_of_left_ne_zero {b : Backoff} (h : b.left ≠ 0) :
    ∃ delay b', b.next? = some (delay, b') ∧ b'.left = b.left - 1 := by
  unfold Backoff.next?
  cases hleft : b.left with
  | zero => exact absurd hleft h
  | succ n => exact ⟨_, _, rfl, rfl⟩

namespace Replay

/-- The replay has counted `n` failures of a streak. -/
structure Counts (r : Replay) (s : ReplaySettings) (n : Nat) : Prop where
  settings : r.settings = s
  attempt : r.attempt = n
  left : r.backoff.left = s.maxRestarts - n
  alerted : r.alerted = decide (s.maxRestarts < n)

variable {r : Replay} {s : ReplaySettings} {n : Nat}

theorem Counts.recover (h : r.Counts s n) (uptime : Nat) :
    (r.recover uptime).Counts s (if s.maxDelay ≤ uptime then 0 else n) := by
  obtain ⟨rfl, hattempt, hleft, halerted⟩ := h
  unfold Replay.recover
  split
  · exact ⟨rfl, rfl, rfl, by simp⟩
  · exact ⟨rfl, hattempt, hleft, halerted⟩

/-- The next failure of the streak gets a growing delay as long as there is one. The first one that
does not raises an alert. -/
theorem Counts.countFailure (h : r.Counts s n) (e : LogError) :
    (r.countFailure e).Counts s (n + 1) ∧
      (r.countFailure e).restarts = r.restarts + 1 ∧
      (r.countFailure e).alerts =
        r.alerts ++ (if n = s.maxRestarts then [⟨s.maxRestarts + 1, e⟩] else []) ∧
      (r.countFailure e).health =
        if n + 1 ≤ s.maxRestarts then .restarting (n + 1) else .degraded (n + 1) := by
  obtain ⟨rfl, rfl, hleft, halerted⟩ := h
  by_cases hn : r.settings.maxRestarts ≤ r.attempt
  · have hnext := Backoff.next?_of_left_eq_zero (b := r.backoff) (by omega)
    unfold Replay.countFailure
    rw [hnext]
    refine ⟨⟨rfl, rfl, ?_, ?_⟩, rfl, ?_, ?_⟩
    · show r.backoff.left = _
      omega
    · symm
      simpa using Nat.lt_succ_of_le hn
    · show (if r.alerted then _ else _) = _
      rw [halerted]
      rcases Nat.eq_or_lt_of_le hn with heq | hlt
      · simp [heq]
      · simp [hlt, Nat.ne_of_gt hlt]
    · rw [if_neg (by omega)]
      rfl
  · obtain ⟨delay, b, hnext, hb⟩ := Backoff.next?_of_left_ne_zero (b := r.backoff) (by omega)
    unfold Replay.countFailure
    rw [hnext]
    refine ⟨⟨rfl, rfl, ?_, ?_⟩, rfl, ?_, ?_⟩
    · show b.left = _
      omega
    · show r.alerted = _
      rw [halerted, decide_eq_decide]
      omega
    · rw [if_neg (by omega), List.append_nil]
    · rw [if_pos (by omega)]
      rfl

/-! ## Replays and their turns -/

/-- What comes of an attempt to open a reader. -/
def attemptTurns (r : Replay) (b : Broker) : List Turn :=
  match r.phase with
  | .tailing _ _ | .stopped => []
  | _ =>
    match b.openReader r.log .earliest with
    | .ok _ => [.opened]
    | .error e => [.failed ⟨e, 0⟩]

/-- What comes of a read: a failure, if it fails. -/
def readTurns (r : Replay) (b : Broker) : List Turn :=
  match r.phase with
  | .tailing reader uptime =>
    match (reader.read b).1 with
    | .failed e => [.failed ⟨e, uptime⟩]
    | _ => []
  | _ => []

/-- What is told of a replay, and the alerts that it has raised, are those of its turns. -/
structure Follows (r : Replay) (s : ReplaySettings) (ts : List Turn) : Prop where
  counts : r.Counts s (s.lastStreak (failures ts)).length
  restarts : r.restarts = (failures ts).length
  alerts : r.alerts = s.alertsAfter (failures ts)
  health : r.health = .stopped ∨ r.health = s.healthAfter ts

variable {ts : List Turn}

theorem follows_opened (s : ReplaySettings) (log : String) :
    ({ settings := s, log } : Replay).Follows s [] where
  counts := ⟨rfl, rfl, rfl, by simp [ReplaySettings.lastStreak, ReplaySettings.streaks, failures]⟩
  restarts := rfl
  alerts := rfl
  health := .inr rfl

theorem Follows.fail (h : r.Follows s ts) (x : Failure) :
    (r.fail x.error x.uptime).Follows s (ts ++ [.failed x]) := by
  have hsame : (r.recover x.uptime).restarts = r.restarts ∧
      (r.recover x.uptime).alerts = r.alerts := by
    unfold recover
    split <;> exact ⟨rfl, rfl⟩
  have hcounts := h.counts.recover x.uptime
  have hearlier : (if s.maxDelay ≤ x.uptime then 0 else (s.lastStreak (failures ts)).length) =
      s.earlier (failures ts) x := rfl
  rw [hearlier] at hcounts
  obtain ⟨hcounts', hrestarts, halerts, hhealth⟩ := hcounts.countFailure x.error
  have hlength := s.length_lastStreak_concat (failures ts) x
  refine ⟨?_, ?_, ?_, .inr ?_⟩
  · rw [failures_failed, hlength]
    exact hcounts'
  · rw [failures_failed, List.length_append, ← h.restarts, ← hsame.1]
    exact hrestarts
  · rw [failures_failed, s.alertsAfter_concat, ← h.alerts, ← hsame.2]
    exact halerts
  · simp only [ReplaySettings.healthAfter, List.getLast?_concat, failures_failed, hlength]
    exact hhealth

/-- A replay with the same counters, as long as the same is told of it or it has stopped. -/
theorem Follows.congr (h : r.Follows s ts) {p : Phase}
    (hp : ({ r with phase := p } : Replay).health = .stopped ∨
      ({ r with phase := p } : Replay).health = r.health) :
    ({ r with phase := p } : Replay).Follows s ts where
  counts := ⟨h.counts.settings, h.counts.attempt, h.counts.left, h.counts.alerted⟩
  restarts := h.restarts
  alerts := h.alerts
  health := by
    rcases hp with hp | hp
    · exact .inl hp
    · rw [hp]
      exact h.health

theorem Follows.opened (h : r.Follows s ts) (reader : Reader) :
    ({ r with phase := .tailing reader 0 } : Replay).Follows s (ts ++ [.opened]) where
  counts := by
    rw [failures_opened]
    exact ⟨h.counts.settings, h.counts.attempt, h.counts.left, h.counts.alerted⟩
  restarts := by
    rw [failures_opened]
    exact h.restarts
  alerts := by
    rw [failures_opened]
    exact h.alerts
  health := by
    refine .inr ?_
    simp only [ReplaySettings.healthAfter, List.getLast?_concat, failures_opened, ← h.restarts]
    rfl

theorem Follows.attemptOpen (h : r.Follows s ts) (b : Broker) :
    (r.attemptOpen b).1.Follows s (ts ++ r.attemptTurns b) := by
  unfold Replay.attemptOpen attemptTurns
  cases r.phase with
  | tailing reader uptime =>
    simp only [List.append_nil]
    exact h
  | stopped =>
    simp only [List.append_nil]
    exact h
  | _ =>
    cases b.openReader r.log .earliest with
    | ok res => exact h.opened res.1
    | error e => exact h.fail ⟨e, 0⟩

theorem Follows.read (h : r.Follows s ts) (b : Broker) :
    (r.read b).2.1.Follows s (ts ++ r.readTurns b) := by
  unfold Replay.read readTurns
  cases hphase : r.phase with
  | tailing reader uptime =>
    rcases hread : reader.read b with ⟨result, reader'⟩
    cases result with
    | record record =>
      simp only [hread, List.append_nil]
      exact h.congr (.inr (by simp [Replay.health, hphase]))
    | failed e =>
      simp only [hread]
      exact h.fail ⟨e, uptime⟩
    | waiting =>
      simp only [hread, List.append_nil]
      exact h
  | _ =>
    simp only [List.append_nil]
    exact h

theorem Follows.stop (h : r.Follows s ts) (b : Broker) : (r.stop b).1.Follows s ts := by
  unfold Replay.stop
  split <;> exact h.congr (.inl rfl)

theorem Follows.stayUp (h : r.Follows s ts) (ms : Nat) : (r.stayUp ms).Follows s ts := by
  unfold Replay.stayUp
  split
  · rename_i reader uptime hphase
    exact h.congr (.inr (by simp [Replay.health, hphase]))
  · exact h

end Replay

/-! ## Turns of an outage

A log on which no reader can be opened gives turns that are failures without any uptime. They are
one streak, unless the longest delay is over at once: then each is a streak of its own.
-/

theorem failures_append (ts us : List Turn) : failures (ts ++ us) = failures ts ++ failures us :=
  List.filterMap_append

theorem length_failures {ts : List Turn} (h : .opened ∉ ts) : (failures ts).length = ts.length := by
  induction ts with
  | nil => rfl
  | cons t ts ih =>
    obtain ⟨ht, hts⟩ : .opened ≠ t ∧ .opened ∉ ts := by simpa using h
    cases t with
    | opened => exact absurd rfl ht
    | failed x => exact congrArg (· + 1) (ih hts)

theorem failures_replicate (k : Nat) (x : Failure) :
    failures (List.replicate k (.failed x)) = List.replicate k x := by
  induction k with
  | zero => rfl
  | succ k ih =>
    rw [List.replicate_succ, List.replicate_succ, ← ih]
    rfl

namespace ReplaySettings

variable {s : ReplaySettings} {xs : List Failure} {ts : List Turn}

theorem streaks_of_instant (hdelay : 0 < s.maxDelay) (hxs : ∀ x ∈ xs, x.uptime = 0)
    (hne : xs ≠ []) : s.streaks xs = [xs] := by
  refine List.splitBy_of_isChain hne (List.isChain_iff_getElem.2 fun n hn => ?_)
  have hzero := hxs xs[n + 1] (List.getElem_mem hn)
  simpa [hzero] using hdelay

theorem lastStreak_of_instant (hdelay : 0 < s.maxDelay) (hxs : ∀ x ∈ xs, x.uptime = 0) :
    s.lastStreak xs = xs := by
  by_cases hne : xs = []
  · subst hne
    rfl
  · rw [lastStreak, streaks_of_instant hdelay hxs hne]
    rfl

theorem alertsAfter_of_instant (hdelay : 0 < s.maxDelay) (hxs : ∀ x ∈ xs, x.uptime = 0) :
    s.alertsAfter xs =
      xs[s.maxRestarts]?.toList.map fun x => ⟨s.maxRestarts + 1, x.error⟩ := by
  by_cases hne : xs = []
  · subst hne
    rfl
  · rw [alertsAfter, streaks_of_instant hdelay hxs hne]
    cases h : xs[s.maxRestarts]? <;> simp [h]

theorem streaks_of_no_delay (hdelay : s.maxDelay = 0) (xs : List Failure) :
    s.streaks xs = xs.map fun x => [x] := by
  induction xs using List.reverseRecOn with
  | nil => rfl
  | append_singleton xs x ih =>
    rw [streaks_concat_of_le (by omega), ih, List.map_append]
    rfl

theorem length_lastStreak_of_no_delay (hdelay : s.maxDelay = 0) (hne : xs ≠ []) :
    (s.lastStreak xs).length = 1 := by
  rw [← List.dropLast_concat_getLast hne, length_lastStreak_concat, earlier, if_pos (by omega)]

theorem healthAfter_of_not_opened (h : .opened ∉ ts) (hne : ts ≠ []) :
    s.healthAfter ts =
      if (s.lastStreak (failures ts)).length ≤ s.maxRestarts then
        .restarting (s.lastStreak (failures ts)).length
      else .degraded (s.lastStreak (failures ts)).length := by
  unfold healthAfter
  cases hlast : ts.getLast? with
  | none => exact absurd (List.getLast?_eq_none_iff.1 hlast) hne
  | some t =>
    cases t with
    | opened => exact absurd (List.mem_of_getLast? hlast) h
    | failed x => rfl

theorem healthAfter_not_tailing (h : .opened ∉ ts) (n : Nat) : s.healthAfter ts ≠ .tailing n := by
  by_cases hne : ts = []
  · subst hne
    simp [healthAfter]
  · rw [healthAfter_of_not_opened h hne]
    split <;> simp

end ReplaySettings

namespace Replay

theorem attemptTurns_instant (r : Replay) (b : Broker) :
    ∀ x ∈ failures (r.attemptTurns b), x.uptime = 0 := by
  unfold attemptTurns
  split
  · simp [failures]
  · simp [failures]
  · split <;> simp [failures, Turn.failure?]

theorem readTurns_eq_nil {r : Replay} (h : ∀ n, r.health ≠ .tailing n) (b : Broker) :
    r.readTurns b = [] := by
  unfold readTurns
  split
  · rename_i hphase
    exact absurd (by simp [health, hphase]) (h r.restarts)
  · rfl

theorem Follows.not_tailing {r : Replay} {s : ReplaySettings} {ts : List Turn}
    (h : r.Follows s ts) (hts : .opened ∉ ts) (n : Nat) : r.health ≠ .tailing n := by
  rcases h.health with hstopped | hhealth
  · simp [hstopped]
  · rw [hhealth]
    exact ReplaySettings.healthAfter_not_tailing hts n

end Replay

end ReplayRegistry
