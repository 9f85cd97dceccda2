import ReplayRegistry.Proofs.ClosedStores
import ReplayRegistry.Proofs.OtherStores
import ReplayRegistry.Proofs.WaitingReads

/-!
# Proofs: what calls that close a store answer

The first call that closes a store answers what the log client does: if it answers that all is well,
the log takes no record from then on. A further call does nothing and answers that all is well at
once, so its answer tells nothing of the log client, which may have refused to be closed, or may not
have been asked yet.
-/

namespace ReplayRegistry

/-! ## Brokers that come later -/

namespace Broker

variable {b b₁ : Broker} {log : String} {r : Record}

theorem Counted.later (h : b.Counted b₁) : b.Later b₁ := by
  obtain ⟨n, k, rfl⟩ := h
  exact ⟨Nat.le_refl _, Nat.le_refl _, id⟩

theorem Later.closed_of_closed (h : b.Later b₁) (hclosed : b.closed) : b₁.closed := by
  by_contra hopen
  rw [h.closed (by simpa using hopen)] at hclosed
  cases hclosed

theorem append_eq_closed_iff : b.append log r = .error .closed ↔ b.closed := by
  unfold append
  by_cases hclosed : b.closed
  · simp [hclosed]
  · by_cases hfail : b.failAppends <;> simp [hclosed, hfail]

end Broker

theorem Session.call_later (s : Session) (c : Session.Call) :
    s.broker.Later (s.call c).2.broker := by
  cases c with
  | broker x => exact s.broker.call_later x
  | openReader l start =>
    simp only [call, openReader]
    cases hopen : s.broker.openReader l start with
    | error e => exact .refl _
    | ok res => exact (Broker.counted_openReader hopen).later
  | read i =>
    simp only [call, withReader]
    split <;> exact .refl _
  | readAround i x =>
    rcases hr : s.readers[i]? with _ | _ | r
    · simpa only [call, withReader, hr] using .refl _
    · simpa only [call, withReader, hr] using .refl _
    · simp only [call, withReader, hr, readAround]
      cases PendingRead.start r s.broker with
      | answered result r' => exact .refl _
      | asleep r' seen => exact s.broker.call_later x
  | closeReader i =>
    simp only [call, withReader]
    split
    · exact (Broker.counted_release _ _).later
    · exact .refl _
    · exact .refl _
  | dropReader i =>
    simp only [call, withReader]
    split
    · exact (Broker.counted_release _ _).later
    · exact .refl _
    · exact .refl _

namespace Fleet

variable {f : Fleet} {i : Nat} {m : Member} {e : Event}

theorem Moves.later {b b' : Broker} {o : Option OpenWrite} {m' : Member} {x x' : Task}
    {ts : List Turn} (hmove : Moves b o m x ts m' b' x') : b.Later b' := by
  cases hmove with
  | answer => exact (m.store.replay.counted_attemptOpen b).later
  | read => exact (m.store.replay.counted_read b).later
  | take => exact (m.store.replay.counted_read b).later
  | halt => exact (m.store.replay.counted_stop b).later
  | endClose b' _ _ hb' =>
    rcases hb' with rfl | rfl
    · exact .refl _
    · exact b.later_close
  | _ => exact .refl _

theorem step_traffic_later (f : Fleet) (e : Traffic.Event) :
    f.broker.Later (f.step (.traffic e)).broker := by
  simp only [step]
  split
  · rename_i hadmits
    rcases admits_cases hadmits with ⟨x, rfl⟩ | ⟨ms, rfl⟩ | hwriter
    · exact f.toSession.call_later x
    · exact .refl _
    · obtain ⟨j, hj⟩ := Option.isSome_iff_exists.1 hwriter
      rcases Traffic.step_writer (t := f.toTraffic) hj with hsame | ⟨m, v, b, o, -, hstep, hb⟩
      · simpa only [hsame] using .refl _
      · simp only [hstep]
        rcases hb with rfl | ⟨r, happend⟩
        · exact .refl _
        · exact Broker.append_later happend
  · exact .refl _

theorem step_later (f : Fleet) (e : Event) : f.broker.Later (f.step e).broker := by
  cases hstore : e.store? with
  | some i =>
    cases hm : f.members[i]? with
    | none =>
      rw [step_absent hm hstore]
      exact .refl _
    | some m =>
      obtain ⟨m', -, hmove⟩ := step_moves hm hstore
      exact hmove.later
  | none =>
    cases e with
    | traffic e => exact f.step_traffic_later e
    | openStore log settings => exact .refl _
    | _ => cases hstore

theorem run_later (f : Fleet) (es : List Event) : f.broker.Later (f.run es).broker := by
  induction es generalizing f with
  | nil => exact .refl _
  | cons e es ih => exact (f.step_later e).trans (ih (f.step e))

/-- Whatever happens after it has been closed, the log takes no record. -/
theorem append_after_closed (h : f.broker.closed) (later : List Event) (log : String)
    (r : Record) : (f.run later).broker.append log r = .error .closed :=
  Broker.append_eq_closed_iff.2 ((f.run_later later).closed_of_closed h)

/-! ## Answers -/

/-- What a call that closes the store `i` answers, if one returns in an event: the first call what
the log client has answered, and a further one that all is well. -/
def closeAnswer? (i : Nat) (f : Fleet) (e : Event) : Option (Except LogError Unit) :=
  match e, f.members[i]? with
  | .beginClose j, some m =>
    if j = i ∧ m.dropped = false ∧ m.store.closed then some (.ok ()) else none
  | .endClose j client, some m =>
    if j = i ∧ (f.tasks i).closing = some .stopping ∧ m.store.health = .stopped then some client
    else none
  | _, _ => none

/-- The first call that closes the store `i` has returned in a run, and has answered that all is
well. -/
def ClosedWell (i : Nat) (es : List Event) : Prop :=
  ∃ before e after, es = before ++ e :: after ∧ CloseReturns i (({} : Fleet).run before) e ∧
    closeAnswer? i (({} : Fleet).run before) e = some (.ok ())

/-- A call answers that all is well after it has closed the log, or because it is not the first. -/
theorem closeAnswer?_ok (h : f.closeAnswer? i e = some (.ok ())) :
    (CloseReturns i f e ∧ (f.step e).broker.closed) ∨ (e = .beginClose i ∧ f.step e = f) := by
  unfold closeAnswer? at h
  split at h
  · rename_i j m hm
    split at h
    · rename_i hfurther
      obtain ⟨rfl, -, hclosed⟩ := hfurther
      exact .inr ⟨rfl, by simp [step, withMember_eq hm, hclosed]⟩
    · cases h
  · rename_i j client m hm
    split at h
    · rename_i hreturns
      obtain ⟨rfl, hclosing, hstopped⟩ := hreturns
      cases h
      have hstep := step_endClose hm hclosing hstopped (.ok ())
      refine .inl ⟨⟨by rw [hclosing]; rfl, ?_⟩, ?_⟩
      · rw [hstep, withTask_tasks]
      · rw [hstep]
        rfl
    · cases h
  · cases h

theorem ClosedWell.closed {es : List Event} (h : ClosedWell i es) :
    (({} : Fleet).run es).broker.closed := by
  obtain ⟨before, e, after, rfl, hreturns, hok⟩ := h
  have hclosed : ((({} : Fleet).run before).step e).broker.closed := by
    rcases closeAnswer?_ok hok with ⟨-, hclosed⟩ | ⟨-, hsame⟩
    · exact hclosed
    · -- a call that does nothing is not the one that returns
      obtain ⟨hbefore, hafter⟩ := hreturns
      rw [hsame] at hafter
      rw [hafter] at hbefore
      cases hbefore
  rw [run_append]
  exact (run_later _ after).closed_of_closed hclosed

/-- A call that closes a store answers that all is well. If the first such call, be it this one or
one before it, has answered so, the log has been closed and refuses all records from then on. If the
first call has failed or has yet to return, then this is a further call, and nothing has changed:
the log refuses records from then on just if it was closed before. -/
theorem close_answers_well {es : List Event} {i : Nat} {e : Event}
    (hok : closeAnswer? i (({} : Fleet).run es) e = some (.ok ())) :
    let f := ({} : Fleet).run (es ++ [e])
    (ClosedWell i (es ++ [e]) →
      ∀ later log r, (f.run later).broker.append log r = .error .closed) ∧
    (¬ ClosedWell i (es ++ [e]) → e = .beginClose i ∧ f = ({} : Fleet).run es ∧
      ((∀ later log r, (f.run later).broker.append log r = .error .closed) ↔
        (({} : Fleet).run es).broker.closed)) := by
  intro f
  constructor
  · exact fun hwell => append_after_closed hwell.closed
  · intro hnot
    rcases closeAnswer?_ok hok with ⟨hreturns, -⟩ | ⟨he, hsame⟩
    · exact absurd ⟨es, e, [], rfl, hreturns, hok⟩ hnot
    · have hf : f = ({} : Fleet).run es := (run_concat {} es e).trans hsame
      rw [hf]
      refine ⟨he, rfl, fun hrefused => ?_, append_after_closed⟩
      exact Broker.append_eq_closed_iff.1 (hrefused [] "" ⟨"", []⟩)

/-- A store is closed twice, and others use the log afterwards. -/
theorem close_answers_well_twice :
    let es : List Event := [.openStore "registry" {}, .wake 0, .answer 0, .beginClose 0, .tell 0,
      .halt 0, .endClose 0 (.ok ())]
    closeAnswer? 0 (({} : Fleet).run es) (.beginClose 0) = some (.ok ()) ∧
      ClosedWell 0 (es ++ [.beginClose 0]) ∧
      ∀ later log r, ((({} : Fleet).run (es ++ [.beginClose 0])).run later).broker.append log r =
        .error .closed := by
  intro es
  have hok : closeAnswer? 0 (({} : Fleet).run es) (.beginClose 0) = some (.ok ()) := rfl
  have hwell : ClosedWell 0 (es ++ [.beginClose 0]) :=
    ⟨es.dropLast, .endClose 0 (.ok ()), [.beginClose 0], rfl, ⟨rfl, rfl⟩, rfl⟩
  exact ⟨hok, hwell, (close_answers_well hok).1 hwell⟩

/-- The log client refuses to be closed. The first call says so, and a second one answers that all
is well, but the log is open and takes a record. -/
theorem close_answers_well_log_open :
    let es : List Event := [.openStore "registry" {}, .wake 0, .answer 0, .beginClose 0, .tell 0,
      .halt 0, .endClose 0 (.error (.clientFailed "close rejected"))]
    closeAnswer? 0 (({} : Fleet).run es) (.beginClose 0) = some (.ok ()) ∧
      ¬ ∀ log r, (({} : Fleet).run (es ++ [.beginClose 0])).broker.append log r =
        .error .closed := by
  intro es
  refine ⟨rfl, fun hrefused => ?_⟩
  have hclosed := Broker.append_eq_closed_iff.1 (hrefused "registry" ⟨"k", []⟩)
  exact absurd hclosed (by decide)

end Fleet

end ReplayRegistry
