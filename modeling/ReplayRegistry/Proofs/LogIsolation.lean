import ReplayRegistry.Proofs.OtherStores

/-!
# Proofs: logs are isolated by name

Logs of one broker share its faults, its cut-offs and the signal that wakes readers. Nothing else
passes from one to another: if what is written to other logs, and their compaction, is taken out of
a run, those who use one log are told the same, its stores are in the same state and it holds the
same records.
-/

namespace ReplayRegistry

open Time (Timestamp)

namespace Fleet

variable {log : String} {f g : Fleet} {i : Nat} {m m' : Member}

/-! ## Writes -/

/-- The write of a store that is not there does nothing. -/
theorem step_write_absent (hnone : f.members[i]? = none) {e : Traffic.Event}
    (he : e.writer? = some i) : f.step (.traffic e) = f := by
  simp only [step]
  split
  · rw [Traffic.step_of_absent (t := f.toTraffic) he hnone]
  · rfl

/-- What a write does in a store of another log does not show. -/
theorem Pared.write_apart (h : f.Pared log g) (hm : f.members[i]? = some m)
    (hother : m.store.log ≠ log) {e : Traffic.Event} (he : e.writer? = some i) :
    (f.step (.traffic e)).Pared log g := by
  obtain ⟨m', hm', hapart, ho'⟩ := h.apart hm hother
  simp only [step]
  split
  · rcases Traffic.step_writer (t := f.toTraffic) he with hsame | ⟨m₀, v, b, o, hm₀, hstep, hb⟩
    · rw [hsame]
      exact h
    · rw [hm] at hm₀
      cases hm₀
      rw [hstep]
      have hbroker : b.Pared log g.broker := by
        rcases hb with rfl | ⟨r, happend⟩
        · exact h.broker
        · exact h.broker.append_elsewhere hother happend
      refine h.of_onlyAt (onlyAt_withWrite f i _ b o) (.refl i g) hbroker ?_
      rw [Traffic.withWrite_member hm, Traffic.withWrite_underWay, hm', ho']
      exact .apart o (hapart.replay rfl rfl Iff.rfl hapart.engaged)
  · exact h

theorem Pared.withWrite_here (h : f.Pared log g) (hm : f.members[i]? = some m)
    (hlog : m.store.log = log) {s : Store} (hs : s.replay = m.store.replay) {b b' : Broker}
    (hb : b.Pared log b') (o : Option OpenWrite) :
    Pared log { f with toTraffic := f.toTraffic.withWrite i s b o }
      { g with toTraffic := g.toTraffic.withWrite i s b' o } := by
  obtain ⟨hm', hx, -, hsound⟩ := h.here hm hlog
  have hslog : s.log = log := by rw [Store.log, hs]; exact hlog
  refine h.of_onlyAt (onlyAt_withWrite f i s b o) (onlyAt_withWrite g i s b' o) hb ?_
  rw [Traffic.withWrite_member hm, Traffic.withWrite_member hm', Traffic.withWrite_underWay,
    Traffic.withWrite_underWay, hx]
  exact .here _ o hslog (hs ▸ hsound)

/-- A step of a write in a store of the log is the same in both fleets. -/
theorem Pared.write_here (h : f.Pared log g) (hm : f.members[i]? = some m)
    (hlog : m.store.log = log) {e : Traffic.Event} (he : e.writer? = some i) :
    (f.step (.traffic e)).Pared log (g.step (.traffic e)) := by
  obtain ⟨hm', hx, ho, hsound⟩ := h.here hm hlog
  have hadmits : g.admits e = f.admits e := by
    cases e <;> cases he <;> simp [admits, hx]
  simp only [step, hadmits]
  split
  · cases e with
    | act a => cases he
    | prepare j w now =>
      cases he
      cases hopen : f.underWay i with
      | some o =>
        simp only [Traffic.step, ho, hopen]
        exact h
      | none =>
        simp only [Traffic.step, hm, hm', ho, hopen]
        split
        · exact h
        · cases m.store.prepare w now with
          | error e => exact h
          | ok d => exact h.withWrite_here hm hlog rfl h.broker _
    | note j =>
      cases he
      rcases hopen : f.underWay i with _ | ⟨d, _ | _ | answer⟩
      case some.prepared =>
        simp only [Traffic.step, hm, hm', ho, hopen]
        split
        · exact h.withWrite_here hm hlog rfl h.broker _
        · have hnoted : (m.store.note d).replay = m.store.replay := rfl
          exact h.withWrite_here hm hlog hnoted h.broker _
      all_goals
        simp only [Traffic.step, ho, hopen]
        exact h
    | append j lost =>
      cases he
      rcases hopen : f.underWay i with _ | ⟨d, _ | _ | answer⟩
      case some.noted =>
        rcases h.broker.append_here ⟨d.id, d.encode⟩ with
          ⟨e, hfail, hfail'⟩ | ⟨b, b', hok, hok', hb, -⟩
        · simp only [Traffic.step, hm, hm', ho, hopen, hlog, hfail, hfail']
          exact h.withWrite_here hm hlog rfl h.broker _
        · simp only [Traffic.step, hm, hm', ho, hopen, hlog, hok, hok']
          exact h.withWrite_here hm hlog rfl hb _
      all_goals
        simp only [Traffic.step, ho, hopen]
        exact h
    | endWrite j =>
      cases he
      rcases hopen : f.underWay i with _ | ⟨d, _ | _ | answer⟩
      case some.asked =>
        simp only [Traffic.step, hm, hm', ho, hopen]
        refine h.withWrite_here hm hlog ?_ h.broker _
        cases answer <;> rfl
      all_goals
        simp only [Traffic.step, ho, hopen]
        exact h
  · exact h

/-! ## What stays of a run -/

/-- Whether the store `i` is there and has another log. -/
def elsewhere (log : String) (f : Fleet) (i : Nat) : Bool :=
  f.members[i]?.any (·.store.log ≠ log)

/-- What stays of an event when all that is written to other logs is taken out, and their
compaction. A write of a store of another log goes with its steps, whose events do not wait for it
any more; so an event of such a store that did not take place is left out as well. All else stays:
the calls that are about no log, the reads, and the opening and closing of readers and stores. -/
def kept (log : String) (f : Fleet) : Event → Option Event
  | .traffic (.act (.call c)) =>
    (f.toSession.keptCall log c).map fun c => .traffic (.act (.call c))
  | e =>
    if e.writer?.any (f.elsewhere log) ∨
        (e.store?.any (f.elsewhere log) ∧ f.occurs e = false) then none
    else some e

/-- The events that stay of a run. -/
def keptRun (log : String) (f : Fleet) (es : List Event) : List Event :=
  f.collect (fun f e => (f.kept log e).toList) es

/-! ## What is told -/

/-- What the user of a store is told. -/
inductive Reply where
  | written (result : Except StoreError RegistryKey)
  | closed (result : Except LogError Unit)
deriving DecidableEq

/-- What the user of a store, the member `m` with the task `x` and the write `o` under way in it, is
told in an event: why a write fails, or the key that it has written, and what comes of closing. -/
def Event.reply? (m : Member) (x : Task) (o : Option OpenWrite) : Event → Option Reply
  | .traffic (.prepare _ w now) =>
    if m.dropped ∨ o.isSome ∨ x.closing = some .stopping then none
    else
      match m.store.prepare w now with
      | .error e => some (.written (.error e))
      | .ok _ => none
  | .traffic (.note _) =>
    match o with
    | some ⟨_, .prepared⟩ =>
      if m.store.closed then some (.written (.error (.log .closed))) else none
    | _ => none
  | .traffic (.endWrite _) =>
    match o with
    | some ⟨d, .asked heard⟩ => some (.written (m.store.endWrite d heard).1)
    | _ => none
  | .beginClose _ => if m.dropped = false ∧ m.store.closed then some (.closed (.ok ())) else none
  | .endClose _ client =>
    if x.closing = some .stopping ∧ m.store.health = .stopped then some (.closed client) else none
  | _ => none

/-- What somebody is told. -/
inductive Told where
  /-- Someone who uses the broker directly. -/
  | call (a : Session.Answer)
  /-- The user of the store `i`. -/
  | store (i : Nat) (r : Reply)
deriving DecidableEq

/-- What those are told who do not use other logs. -/
def told (log : String) (f : Fleet) : Event → List Told
  | .traffic (.act (.call c)) => (f.toSession.told log c).map .call
  | e =>
    match e.writer?.or e.store? with
    | some i =>
      match f.members[i]? with
      | some m =>
        if m.store.log = log then
          (e.reply? m (f.tasks i) (f.underWay i)).toList.map (.store i)
        else []
      | none => []
    | none => []

/-! ## Steps -/

theorem elsewhere_iff (hm : f.members[i]? = some m) : f.elsewhere log i ↔ m.store.log ≠ log := by
  simp [elsewhere, hm]

theorem elsewhere_of_absent (hnone : f.members[i]? = none) : f.elsewhere log i = false := by
  simp [elsewhere, hnone]

/-- Time passes for the stores of both fleets. -/
theorem Pared.stayUp (h : f.Pared log g) (ms : Nat) :
    (f.step (.traffic (.act (.stayUp ms)))).Pared log (g.step (.traffic (.act (.stayUp ms)))) := by
  have hmembers : ∀ f : Fleet, (f.step (.traffic (.act (.stayUp ms)))).members =
      f.members.map fun m => { m with store := m.store.stayUp ms } := fun _ => rfl
  refine ⟨h.session, ?_, fun i => ?_⟩
  · rw [hmembers, hmembers, List.length_map, List.length_map, h.length]
  · rw [hmembers, hmembers, List.getElem?_map, List.getElem?_map]
    show Beside log _ (f.tasks i) (f.underWay i) _ (g.tasks i) (g.underWay i)
    have hbeside := h.stores i
    generalize f.tasks i = x, f.underWay i = o, g.tasks i = x', g.underWay i = o',
      f.members[i]? = y, g.members[i]? = y' at hbeside ⊢
    cases hbeside with
    | @here m x o hlog hsound =>
      have hkeeps := m.store.replay.stayUp_keeps ms f.broker
      exact .here x o (hkeeps.log.trans hlog) (hkeeps.sound hsound)
    | @apart m m' x x' o hapart =>
      have hkeeps := m.store.replay.stayUp_keeps ms f.broker
      have hkeeps' := m'.store.replay.stayUp_keeps ms f.broker
      have hleft : Apart log m x { m' with store := m'.store.stayUp ms }
          { x' with engaged := x'.engaged } :=
        hapart.replay_left hkeeps'.log rfl (m'.store.replay.stayUp_stopped_iff ms)
          (hkeeps'.sound hapart.sound) hapart.engaged
      exact .apart o (hleft.replay hkeeps.log rfl (m.store.replay.stayUp_stopped_iff ms)
        hapart.engaged)
    | unborn x x' => exact .unborn x x'

theorem Pared.unborn (h : f.Pared log g) (hnone : f.members[i]? = none) :
    f.underWay i = none ∧ g.underWay i = none := by
  have hbeside := h.stores i
  rw [hnone] at hbeside
  generalize f.tasks i = x, f.underWay i = o, g.tasks i = x', g.underWay i = o',
    g.members[i]? = y at hbeside
  cases hbeside
  exact ⟨rfl, rfl⟩

/-- A store is opened in both fleets. -/
theorem Pared.openStore (h : f.Pared log g) (log' : String) (settings : ReplaySettings) :
    (f.step (.openStore log' settings)).Pared log (g.step (.openStore log' settings)) := by
  have hmembers : ∀ f : Fleet, (f.step (.openStore log' settings)).members =
      f.members ++ [⟨Store.opened log' settings, false⟩] := fun _ => rfl
  refine ⟨h.session, ?_, fun i => ?_⟩
  · rw [hmembers, hmembers, List.length_append, List.length_append, h.length]
  · show Beside log (f.members ++ [_])[i]? (if i = f.members.length then {} else f.tasks i)
      (f.underWay i) (g.members ++ [_])[i]? (if i = g.members.length then {} else g.tasks i)
      (g.underWay i)
    rw [h.length]
    rcases Nat.lt_trichotomy i f.members.length with hlt | rfl | hgt
    · rw [List.getElem?_append_left hlt, List.getElem?_append_left (h.length ▸ hlt),
        if_neg (Nat.ne_of_lt hlt), if_neg (Nat.ne_of_lt hlt)]
      exact h.stores i
    · obtain ⟨ho, ho'⟩ := h.unborn (List.getElem?_eq_none (Nat.le_refl _))
      have hsound : (Store.opened log' settings).replay.Sound :=
        Replay.sound_of_not_tailing fun _ _ hphase => by cases hphase
      have hlast := h.length ▸ List.getElem?_concat_length (l := g.members)
        (a := (⟨Store.opened log' settings, false⟩ : Member))
      rw [List.getElem?_concat_length, hlast, if_pos rfl, if_pos rfl, ho, ho']
      by_cases hlog : (Store.opened log' settings).log = log
      · exact .here {} none hlog hsound
      · exact .apart none ⟨hlog, rfl, hsound, rfl, rfl, Iff.rfl, rfl, rfl, .inl rfl⟩
    · have hnone : f.members[i]? = none := List.getElem?_eq_none (Nat.le_of_lt hgt)
      obtain ⟨ho, ho'⟩ := h.unborn hnone
      have hbeyond : ∀ (ms : List Member) (x : Member), ms.length = f.members.length →
          (ms ++ [x])[i]? = none := by
        intro ms x hms
        refine List.getElem?_eq_none ?_
        rw [List.length_append, List.length_singleton]
        omega
      rw [hbeyond _ _ rfl, hbeyond _ _ h.length, ho, ho']
      exact .unborn _ _

/-- An event that is not a call of someone who uses the broker directly. -/
def Event.IsOwn (e : Event) : Prop := ∀ c, e ≠ .traffic (.act (.call c))

theorem kept_of_own {e : Event} (he : e.IsOwn) (log : String) (f : Fleet) :
    f.kept log e = if e.writer?.any (f.elsewhere log) ∨
      (e.store?.any (f.elsewhere log) ∧ f.occurs e = false) then none else some e := by
  unfold kept
  split
  · exact absurd rfl (he _)
  · rfl

/-- Who uses a store of the log is told the same, and of stores of other logs nothing is told. -/
theorem told_of_own {e : Event} (he : e.IsOwn) (log : String) (f : Fleet) :
    f.told log e =
      match e.writer?.or e.store? with
      | some i =>
        match f.members[i]? with
        | some m =>
          if m.store.log = log then
            (e.reply? m (f.tasks i) (f.underWay i)).toList.map (.store i)
          else []
        | none => []
      | none => [] := by
  unfold told
  split
  · exact absurd rfl (he _)
  · rfl

theorem told_elsewhere {e : Event} (he : e.IsOwn) (hsite : e.writer?.or e.store? = some i)
    (hm : f.members[i]? = some m) (hother : m.store.log ≠ log) : f.told log e = [] := by
  rw [told_of_own he]
  simp only [hsite, hm, if_neg hother]

theorem Pared.told_own (h : f.Pared log g) {e : Event} (he : e.IsOwn) :
    g.told log e = f.told log e := by
  rw [told_of_own he, told_of_own he]
  cases e.writer?.or e.store? with
  | none => rfl
  | some i =>
    cases hm : f.members[i]? with
    | none => simp only [h.absent hm, hm]
    | some m =>
      by_cases hlog : m.store.log = log
      · obtain ⟨hm', hx, ho, -⟩ := h.here hm hlog
        simp only [hm, hm', hx, ho]
      · obtain ⟨m', hm', hapart, -⟩ := h.apart hm hlog
        have hother' : m'.store.log ≠ log := fun heq => hlog (hapart.log_eq.symm.trans heq)
        simp only [hm, hm', if_neg hlog, if_neg hother']

theorem Event.writer?_of_store? {e : Event} (he : e.store? = some i) : e.writer? = none := by
  cases e with
  | traffic e => cases he
  | _ => rfl

theorem exists_elsewhere {x : Option Nat} (h : x.any (f.elsewhere log) = true) :
    ∃ i m, x = some i ∧ f.members[i]? = some m ∧ m.store.log ≠ log := by
  cases x with
  | none => cases h
  | some i =>
    cases hm : f.members[i]? with
    | none =>
      rw [Option.any_some, elsewhere_of_absent hm] at h
      cases h
    | some m => exact ⟨i, m, rfl, hm, (elsewhere_iff hm).1 h⟩

/-- An event that is taken out does not show. -/
theorem Pared.step_dropped (h : f.Pared log g) {e : Event} (hkept : f.kept log e = none) :
    (f.step e).Pared log g ∧ f.told log e = [] := by
  by_cases hcall : ∃ c, e = .traffic (.act (.call c))
  · obtain ⟨c, rfl⟩ := hcall
    have hnone : f.toSession.keptCall log c = none := Option.map_eq_none_iff.1 hkept
    obtain ⟨hsession, htold⟩ := h.session.call_dropped hnone
    refine ⟨⟨hsession, h.length, h.stores⟩, ?_⟩
    simp only [told, htold, List.map_nil]
  · have hown : e.IsOwn := not_exists.1 hcall
    rw [kept_of_own hown] at hkept
    split at hkept
    · rename_i hdropped
      rcases hdropped with hwrites | ⟨hmoves, hidle⟩
      · obtain ⟨i, m, hwriter, hm, hother⟩ := exists_elsewhere hwrites
        cases e with
        | traffic e =>
          refine ⟨h.write_apart hm hother hwriter, told_elsewhere hown ?_ hm hother⟩
          rw [hwriter]
          rfl
        | _ => cases hwriter
      · obtain ⟨i, m, hstore, hm, hother⟩ := exists_elsewhere hmoves
        rw [step_of_not_occurs hstore hidle]
        refine ⟨h, told_elsewhere hown ?_ hm hother⟩
        rw [Event.writer?_of_store? hstore, hstore]
        rfl
    · cases hkept

/-- A step of a write that is not taken out, or the passing of time. -/
theorem Pared.traffic_kept (h : f.Pared log g) {e : Traffic.Event}
    (hwrites : ¬ e.writer?.any (f.elsewhere log)) (hown : Event.IsOwn (.traffic e)) :
    (f.step (.traffic e)).Pared log (g.step (.traffic e)) := by
  cases hwriter : e.writer? with
  | some i =>
    cases hm : f.members[i]? with
    | none =>
      rw [step_write_absent hm hwriter, step_write_absent (h.absent hm) hwriter]
      exact h
    | some m =>
      have hlog : m.store.log = log := by simpa [hwriter, elsewhere_iff hm] using hwrites
      exact h.write_here hm hlog hwriter
  | none =>
    cases e with
    | act a =>
      cases a with
      | call c => exact absurd rfl (hown c)
      | stayUp ms => exact h.stayUp ms
      | _ => exact h
    | _ => cases hwriter

/-- What stays of an event does what the event does, as far as the log is concerned. -/
theorem Pared.step_kept (h : f.Pared log g) {e e' : Event} (hkept : f.kept log e = some e') :
    (f.step e).Pared log (g.step e') ∧ g.told log e' = f.told log e := by
  by_cases hcall : ∃ c, e = .traffic (.act (.call c))
  · obtain ⟨c, rfl⟩ := hcall
    obtain ⟨c', hc', rfl⟩ := Option.map_eq_some_iff.1 hkept
    obtain ⟨hsession, htold⟩ := h.session.call_kept hc'
    refine ⟨⟨hsession, h.length, h.stores⟩, ?_⟩
    simp only [told, htold]
  · have hown : e.IsOwn := not_exists.1 hcall
    rw [kept_of_own hown] at hkept
    split at hkept
    · cases hkept
    · rename_i hstays
      cases hkept
      obtain ⟨hwrites, hmoves⟩ := not_or.1 hstays
      refine ⟨?_, h.told_own hown⟩
      cases hstore : e.store? with
      | some i =>
        cases hm : f.members[i]? with
        | none =>
          rw [step_absent hm hstore, step_absent (h.absent hm) hstore]
          exact h
        | some m =>
          by_cases hlog : m.store.log = log
          · exact h.step_here hm hlog hstore
          · have hoccurs : f.occurs e = true := by
              simpa [hstore, elsewhere_iff hm, hlog] using hmoves
            exact h.step_apart hm hlog hstore hoccurs
      | none =>
        cases e with
        | traffic e => exact h.traffic_kept hwrites hown
        | openStore log' settings => exact h.openStore log' settings
        | _ => cases hstore

/-! ## Runs -/

theorem Pared.run (h : f.Pared log g) (es : List Event) :
    (f.run es).Pared log (g.run (f.keptRun log es)) ∧
      g.collect (told log) (f.keptRun log es) = f.collect (told log) es := by
  induction es generalizing f g with
  | nil => exact ⟨h, rfl⟩
  | cons e es ih =>
    have hrun : f.keptRun log (e :: es) = (f.kept log e).toList ++ (f.step e).keptRun log es := rfl
    have htold : f.collect (told log) (e :: es) =
        f.told log e ++ (f.step e).collect (told log) es := rfl
    rw [hrun, htold]
    cases hkept : f.kept log e with
    | none =>
      obtain ⟨hstep, hnothing⟩ := h.step_dropped hkept
      rw [hnothing]
      exact ih hstep
    | some e' =>
      obtain ⟨hstep, hsame⟩ := h.step_kept hkept
      obtain ⟨hpared, hrest⟩ := ih hstep
      refine ⟨hpared, ?_⟩
      show g.told log e' ++ (g.step e').collect (told log) ((f.step e).keptRun log es) = _
      rw [hsame, hrest]

theorem Pared.member_iff (h : f.Pared log g) (hlog : m.store.log = log) :
    g.members[i]? = some m ↔ f.members[i]? = some m := by
  constructor
  · intro hm
    cases hm₀ : f.members[i]? with
    | none =>
      rw [h.absent hm₀] at hm
      cases hm
    | some m₀ =>
      by_cases hlog₀ : m₀.store.log = log
      · rw [(h.here hm₀ hlog₀).1] at hm
        exact hm
      · obtain ⟨m', hm', hapart, -⟩ := h.apart hm₀ hlog₀
        rw [hm'] at hm
        cases hm
        exact absurd (hapart.log_eq.symm.trans hlog) hlog₀
  · exact fun hm => (h.here hm hlog).1

theorem Pared.reader_iff (h : f.Pared log g) {r : Reader} (hlog : r.log = log) :
    g.readers[i]? = some (some r) ↔ f.readers[i]? = some (some r) := by
  constructor
  · intro hr
    cases hr₀ : f.readers[i]? with
    | none =>
      rw [h.session.absent hr₀] at hr
      cases hr
    | some x =>
      cases x with
      | none =>
        rw [h.session.dropped hr₀] at hr
        cases hr
      | some r₀ =>
        obtain ⟨r', hr', hpared⟩ := h.session.reader hr₀
        rw [hr'] at hr
        cases hr
        rw [hpared.same (hpared.log_eq.symm.trans hlog)]
  · intro hr
    obtain ⟨r', hr', hpared⟩ := h.session.reader hr
    rw [hr', hpared.same hlog]

/-- If all that is written to other logs is taken out of a run, and their compaction, nothing
changes for the users of one log. They are told the same; its stores are the same in all they hold
and show, with what is under way in them, its readers are at the same place, and it holds the same
records, while the other logs hold none. And if a read of the log waits and what happens to another
log wakes it, it waits again with its reader as it was. -/
theorem logs_isolated (log : String) (es : List Event) :
    let es' := ({} : Fleet).keptRun log es
    let f := ({} : Fleet).run es
    let g := ({} : Fleet).run es'
    ({} : Fleet).collect (told log) es' = ({} : Fleet).collect (told log) es ∧
    (∀ (i : Nat) m, m.store.log = log →
      (g.members[i]? = some m ↔ f.members[i]? = some m) ∧
        (f.members[i]? = some m → g.tasks i = f.tasks i ∧ g.underWay i = f.underWay i)) ∧
    (∀ (i : Nat) (r : Reader), r.log = log →
      (g.readers[i]? = some (some r) ↔ f.readers[i]? = some (some r))) ∧
    g.broker.partition log = f.broker.partition log ∧
    (∀ log', log' ≠ log → g.broker.records log' = []) ∧
    ∀ (r : Reader) seen, r.log = log → PendingRead.start r f.broker = .asleep r seen →
      ∀ c : BrokerCall, c.elsewhere log = true →
        (PendingRead.asleep r seen).poll (f.broker.call c).2 =
          .asleep r (f.broker.call c).2.changes := by
  intro es' f g
  obtain ⟨hpared, htold⟩ := (pared_empty log).run es
  refine ⟨htold, ?_, fun i r hlog => hpared.reader_iff hlog, hpared.broker.partition, ?_, ?_⟩
  · intro i m hlog
    refine ⟨hpared.member_iff hlog, fun hm => ?_⟩
    obtain ⟨-, hx, ho, -⟩ := hpared.here hm hlog
    exact ⟨hx, ho⟩
  · intro log' hne
    rw [Broker.records, Broker.partition, hpared.broker.others log' hne]
    rfl
  · intro r seen hlog hstart c hc
    obtain ⟨hwaiting, rfl⟩ := PendingRead.start_eq_asleep hstart
    exact PendingRead.poll_elsewhere hpared.broker hlog hwaiting hc

/-- A store of the log "a" writes, and others append to "a" and compact it, once while a read of "b"
waits; then records come to "b". -/
def twoLogs : List Event :=
  let f : FunctionDoc := { tenant := "t", name := "f" }
  let call (c : Session.Call) : Event := .traffic (.act (.call c))
  [.openStore "a" {}, .openStore "b" {}, .wake 0, .answer 0, .wake 1, .answer 1,
    call (.openReader "b" .earliest), call (.readAround 0 (.append "a" ⟨"k", []⟩)),
    .traffic (.prepare 0 (.create f) (.atSecond 1)), .traffic (.note 0),
    .traffic (.append 0 none), .tell 0, .traffic (.endWrite 0), call (.broker (.compact "a")),
    .traffic (.prepare 1 (.create f) (.atSecond 2)), .traffic (.note 1),
    .traffic (.append 1 none), .traffic (.endWrite 1), .read 0, .fold 0, call (.read 0),
    .read 1, .fold 1]

/-- Six events are taken out, and one call out of another. Four things are told about "b" as before,
and the store of "b" shows what it has written, while the store of "a" shows nothing any more. -/
theorem logs_isolated_twoLogs :
    twoLogs.length = 23 ∧ (({} : Fleet).keptRun "b" twoLogs).length = 17 ∧
      (({} : Fleet).collect (told "b") twoLogs).length = 4 ∧
      ({} : Fleet).collect (told "b") (({} : Fleet).keptRun "b" twoLogs) =
        ({} : Fleet).collect (told "b") twoLogs ∧
      (({} : Fleet).run twoLogs).members.map (·.store.load.map (·.name)) = [["f"], ["f"]] ∧
      (({} : Fleet).run (({} : Fleet).keptRun "b" twoLogs)).members.map
        (·.store.load.map (·.name)) = [[], ["f"]] ∧
      ((({} : Fleet).run twoLogs).broker.records "a").length = 2 ∧
      (({} : Fleet).run (({} : Fleet).keptRun "b" twoLogs)).broker.records "a" = [] := by
  obtain ⟨htold, -, -, -, hothers, -⟩ := logs_isolated "b" twoLogs
  have hne : "a" ≠ "b" := by decide
  exact ⟨by decide +kernel, by decide +kernel, by decide +kernel, htold, by decide +kernel,
    by decide +kernel, by decide +kernel, hothers "a" hne⟩

end Fleet

end ReplayRegistry
