import ReplayRegistry.Proofs.FleetSteps
import ReplayRegistry.Proofs.ReaderDelivery

/-!
# Proofs: open readers

The broker counts the readers that are open. Each of them is held by someone who uses the broker
directly or by a store that is tailing, and a store that is not tailing holds none.
-/

namespace ReplayRegistry

/-- Replacing one element, told without subtraction. -/
theorem countP_set_add {α : Type} (p : α → Bool) {xs : List α} {i : Nat} {x : α}
    (hx : xs[i]? = some x) (y : α) :
    (xs.set i y).countP p + (if p x then 1 else 0) = xs.countP p + (if p y then 1 else 0) := by
  induction xs generalizing i with
  | nil => cases hx
  | cons z zs ih =>
    cases i with
    | zero =>
      cases hx
      simp only [List.set_cons_zero, List.countP_cons]
      omega
    | succ i =>
      have hrest := ih hx
      simp only [List.set_cons_succ, List.countP_cons]
      omega

/-! ## Readers of others -/

/-- How many open readers there are at a reader's number: none, if it has been released. -/
def Reader.held (x : Option Reader) : Nat := if x.any (!·.released) then 1 else 0

theorem Reader.release_openReaders (r : Reader) (b : Broker) :
    (r.release b).2.openReaders = b.openReaders - Reader.held (some r) := by
  unfold release held
  cases hreleased : r.released <;> simp [hreleased]

theorem Reader.Moves.held {b : Broker} {r r' : Reader} {ds : List Record}
    (h : r.Moves b ds r') : Reader.held (some r') = Reader.held (some r) := by
  cases h <;> rfl

theorem Broker.append_openReaders {b b' : Broker} {log : String} {r : Record}
    (h : b.append log r = .ok b') : b'.openReaders = b.openReaders := by
  unfold append at h
  split at h
  · cases h
  · split at h
    · cases h
    · cases h
      rfl

theorem Broker.call_openReaders (b : Broker) (x : BrokerCall) :
    (b.call x).2.openReaders = b.openReaders := by
  cases x with
  | append log r =>
    simp only [call]
    split
    · rename_i b' happend
      exact append_openReaders happend
    · rfl
  | compact log =>
    simp only [call, compact]
    split <;> rfl
  | _ => rfl

namespace Session

/-- How many of the readers that have been opened on a session are open. -/
def inUse (s : Session) : Nat := s.readers.countP (·.any (!·.released))

/-- Of the open readers that the broker counts, `n` are not the session's own. -/
def Counts (s : Session) (n : Nat) : Prop := s.broker.openReaders = s.inUse + n

variable {s : Session} {i n : Nat}

theorem inUse_set {x : Option Reader} (hx : s.readers[i]? = some x) (b : Broker)
    (y : Option Reader) :
    inUse ⟨b, s.readers.set i y⟩ + Reader.held x = s.inUse + Reader.held y :=
  countP_set_add _ hx y

theorem Counts.openReader (h : s.Counts n) (log : String) (start : StartPosition) :
    (s.openReader log start).2.Counts n := by
  unfold Session.openReader
  split
  · exact h
  · rename_i r b hopen
    unfold Broker.openReader at hopen
    split at hopen
    · cases hopen
    · split at hopen
      · cases hopen
      · cases hopen
        show s.broker.openReaders + 1 = (s.readers ++ [_]).countP _ + n
        have hcount : s.broker.openReaders = s.readers.countP _ + n := h
        rw [List.countP_append, hcount]
        simp only [List.countP_singleton, Option.any_some, Bool.not_false, if_true]
        omega

/-- A reader is used, and stays open if it is. -/
theorem Counts.use (h : s.Counts n) {r r' : Reader} (hr : s.readers[i]? = some (some r))
    (hheld : Reader.held (some r') = Reader.held (some r)) {b : Broker}
    (hb : b.openReaders = s.broker.openReaders) :
    Counts ⟨b, s.readers.set i (some r')⟩ n := by
  have hset := inUse_set hr b (some r')
  show b.openReaders = _
  have hcount : s.broker.openReaders = s.inUse + n := h
  omega

/-- A reader is released, and dropped if `y` is nothing. -/
theorem Counts.release (h : s.Counts n) {r : Reader} (hr : s.readers[i]? = some (some r))
    {y : Option Reader} (hy : Reader.held y = 0) :
    Counts ⟨(r.release s.broker).2, s.readers.set i y⟩ n := by
  have hset := inUse_set hr (r.release s.broker).2 y
  have hcount : s.broker.openReaders = s.inUse + n := h
  show (r.release s.broker).2.openReaders = _
  rw [r.release_openReaders]
  omega

theorem Counts.readAround (h : s.Counts n) {r : Reader} (hr : s.readers[i]? = some (some r))
    (c : BrokerCall) : (s.readAround i r c).2.Counts n := by
  have hmoves := PendingRead.start_moves r s.broker
  unfold Session.readAround
  cases hstart : PendingRead.start r s.broker with
  | answered result r' =>
    rw [hstart] at hmoves
    exact h.use hr hmoves.held rfl
  | asleep r' seen =>
    rw [PendingRead.start_asleep hstart]
    exact h.use hr (PendingRead.poll_moves r seen _).held (s.broker.call_openReaders c)

theorem Counts.withReader (h : s.Counts n) {f : Reader → Answer × Session}
    (hf : ∀ r, s.readers[i]? = some (some r) → (f r).2.Counts n) :
    (s.withReader i f).2.Counts n := by
  unfold Session.withReader
  split
  · rename_i r hr
    exact hf r hr
  · exact h
  · exact h

theorem Counts.call (h : s.Counts n) (c : Call) : (s.call c).2.Counts n := by
  cases c with
  | broker x => exact (s.broker.call_openReaders x).trans h
  | openReader log start => exact h.openReader log start
  | read i => exact h.withReader fun r hr => h.use hr (r.read_moves s.broker).held rfl
  | readAround i x => exact h.withReader fun r hr => h.readAround hr x
  | closeReader i =>
    refine h.withReader fun r hr => h.release hr (y := some (r.release s.broker).1) ?_
    rw [r.release_reader]
    rfl
  | dropReader i => exact h.withReader fun r hr => h.release hr rfl

end Session

/-! ## Readers of stores -/

namespace Replay

/-- How many open readers a replay holds, by what is told of it. -/
def held (r : Replay) : Nat := if r.health.isTailing then 1 else 0

/-- A replay that has a reader has not released it. -/
def Holds (r : Replay) : Prop :=
  ∀ reader uptime, r.phase = .tailing reader uptime → reader.released = false

variable {r : Replay} {b : Broker}

theorem held_of_tailing {reader : Reader} {uptime : Nat} (h : r.phase = .tailing reader uptime) :
    r.held = 1 := by
  simp [held, health, h, Health.isTailing]

theorem held_of_not_tailing (h : ∀ reader uptime, r.phase ≠ .tailing reader uptime) :
    r.held = 0 := by
  unfold held health
  cases hphase : r.phase with
  | tailing reader uptime => exact absurd hphase (h reader uptime)
  | _ => rfl

theorem held_of_stopped (h : r.health = .stopped) : r.held = 0 := by
  rw [held, h]
  rfl

theorem holds_of_not_tailing (h : ∀ reader uptime, r.phase ≠ .tailing reader uptime) : r.Holds :=
  fun reader uptime hphase => absurd hphase (h reader uptime)

theorem fail_not_tailing (r : Replay) (e : LogError) (uptime : Nat) (reader : Reader) (n : Nat) :
    (r.fail e uptime).phase ≠ .tailing reader n := by
  unfold fail countFailure
  split <;> simp

/-- A replay goes on as `r'`, and the broker counts the reader that it takes or gives back. -/
structure Trades (r : Replay) (b : Broker) (r' : Replay) (b' : Broker) : Prop where
  holds : r'.Holds
  count : b'.openReaders + r.held = b.openReaders + r'.held

theorem Trades.refl (h : r.Holds) (b : Broker) : r.Trades b r b := ⟨h, rfl⟩

theorem attemptOpen_trades (h : r.Holds) (b : Broker) :
    r.Trades b (r.attemptOpen b).1 (r.attemptOpen b).2 := by
  unfold attemptOpen
  split
  · exact .refl h b
  · exact .refl h b
  · rename_i htailing hstopped
    have hheld : r.held = 0 := held_of_not_tailing htailing
    split
    · rename_i reader b' hopen
      obtain ⟨hreleased, hcount⟩ :
          reader.released = false ∧ b'.openReaders = b.openReaders + 1 := by
        unfold Broker.openReader at hopen
        split at hopen
        · cases hopen
        · split at hopen
          · cases hopen
          · cases hopen
            exact ⟨rfl, rfl⟩
      refine ⟨fun reader' uptime' hphase => ?_, ?_⟩
      · cases hphase
        exact hreleased
      · rw [hheld, hcount]
        rfl
    · rename_i e hopen
      have hnone := fail_not_tailing r e 0
      exact ⟨holds_of_not_tailing hnone, by rw [hheld, held_of_not_tailing hnone]⟩

/-- A replay without its reader, which has been released. -/
theorem release_trades {reader : Reader} {uptime : Nat} {r' : Replay} (h : r.Holds)
    (hphase : r.phase = .tailing reader uptime) (hb : r.held ≤ b.openReaders)
    (hr' : ∀ reader uptime, r'.phase ≠ .tailing reader uptime) :
    r.Trades b r' (reader.release b).2 := by
  have hreader : Reader.held (some reader) = 1 := by simp [Reader.held, h reader uptime hphase]
  refine ⟨holds_of_not_tailing hr', ?_⟩
  rw [held_of_tailing hphase] at hb ⊢
  rw [reader.release_openReaders, hreader, held_of_not_tailing hr']
  omega

/-- A replay that goes on with its reader. -/
theorem keep_trades {reader reader' : Reader} {uptime uptime' : Nat} {r' : Replay} (h : r.Holds)
    (hphase : r.phase = .tailing reader uptime) (hphase' : r'.phase = .tailing reader' uptime')
    (hreader : reader'.released = reader.released) : r.Trades b r' b := by
  refine ⟨fun x n hx => ?_, ?_⟩
  · rw [hphase'] at hx
    cases hx
    rw [hreader]
    exact h reader uptime hphase
  · rw [held_of_tailing hphase, held_of_tailing hphase']

theorem read_trades (h : r.Holds) (hb : r.held ≤ b.openReaders) :
    r.Trades b (r.read b).2.1 (r.read b).2.2 := by
  unfold read
  split
  · rename_i reader uptime hphase
    have hmoves := reader.read_moves b
    split
    · rename_i record reader' hread
      rw [hread] at hmoves
      refine keep_trades h hphase rfl ?_
      cases hmoves
      rfl
    · rename_i e reader' hread
      rw [hread] at hmoves
      cases hmoves
      exact release_trades h hphase hb (fail_not_tailing r _ uptime)
    · exact .refl h b
  · exact .refl h b

theorem stop_trades (h : r.Holds) (hb : r.held ≤ b.openReaders) :
    r.Trades b (r.stop b).1 (r.stop b).2 := by
  unfold stop
  split
  · rename_i hphase
    exact release_trades h hphase hb (by simp)
  · rename_i htailing
    refine ⟨holds_of_not_tailing (by simp), ?_⟩
    rw [held_of_not_tailing htailing]
    rfl

theorem stayUp_trades (h : r.Holds) (ms : Nat) (b : Broker) : r.Trades b (r.stayUp ms) b := by
  unfold stayUp
  split
  · rename_i reader uptime hphase
    exact keep_trades h hphase rfl rfl
  · exact .refl h b

end Replay

/-! ## Fleets -/

namespace Fleet

variable {f : Fleet} {i n : Nat} {m : Member}

theorem Moves.trades {b b' : Broker} {o : Option OpenWrite} {m' : Member} {x x' : Task}
    {ts : List Turn} (hmove : Moves b o m x ts m' b' x') (h : m.store.replay.Holds)
    (hb : m.store.replay.held ≤ b.openReaders) :
    m.store.replay.Trades b m'.store.replay b' := by
  cases hmove with
  | answer => exact Replay.attemptOpen_trades h b
  | read => exact Replay.read_trades h hb
  | take => exact Replay.read_trades h hb
  | halt => exact Replay.stop_trades h hb
  | endClose b' _ _ hb' =>
    rcases hb' with rfl | rfl
    · exact .refl h _
    · exact ⟨h, rfl⟩
  | _ => exact .refl h b

/-- How many stores of a fleet are tailing. -/
def tailing (f : Fleet) : Nat := f.members.countP (·.store.health.isTailing)

/-- The open readers are those of others and one for each store that is tailing. -/
structure Balanced (f : Fleet) : Prop where
  count : f.toSession.Counts f.tailing
  holds : ∀ (i : Nat) m, f.members[i]? = some m → m.store.replay.Holds

theorem balanced_empty : ({} : Fleet).Balanced where
  count := rfl
  holds _ _ hm := by cases hm

theorem tailing_set (hm : f.members[i]? = some m) (m' : Member) :
    (f.members.set i m').countP (·.store.health.isTailing) + m.store.replay.held =
      f.tailing + m'.store.replay.held :=
  countP_set_add _ hm m'

theorem Balanced.held_le (h : f.Balanced) (hm : f.members[i]? = some m) :
    m.store.replay.held ≤ f.broker.openReaders := by
  have hcount : f.broker.openReaders = f.inUse + f.tailing := h.count
  have hset : _ + _ = f.tailing + 0 := tailing_set hm ⟨Store.opened "" {}, false⟩
  omega

theorem Balanced.move (h : f.Balanced) (hm : f.members[i]? = some m) {e : Event}
    (he : e.store? = some i) : (f.step e).Balanced := by
  obtain ⟨m', hm', hmove⟩ := step_moves hm he
  have hframe := step_frame (f := f) he
  have htrades := hmove.trades (h.holds i m hm) (h.held_le hm)
  constructor
  · have hcount : f.broker.openReaders = f.inUse + f.tailing := h.count
    have hset := tailing_set hm m'
    have htrade := htrades.count
    have hinUse : (f.step e).inUse = f.inUse := congrArg (List.countP _) hframe.readers
    show (f.step e).broker.openReaders = (f.step e).inUse + (f.step e).members.countP _
    rw [hinUse, step_members_set hm he hm']
    omega
  · intro j mj hmj
    by_cases hj : i = j
    · subst hj
      rw [hm'] at hmj
      cases hmj
      exact htrades.holds
    · rw [(hframe.others j hj).1] at hmj
      exact h.holds j mj hmj

theorem StandsBy.holds {m' : Member} (h : StandsBy m m') (hholds : m.store.replay.Holds) :
    m'.store.replay.Holds := by
  obtain ⟨ms, hreplay⟩ := h.replay
  rw [hreplay]
  exact (Replay.stayUp_trades hholds ms {}).holds

theorem step_traffic_tailing (f : Fleet) (e : Traffic.Event) :
    (f.step (.traffic e)).tailing = f.tailing := by
  have hhealth : (f.step (.traffic e)).members.map (·.store.health) =
      f.members.map (·.store.health) := by
    refine List.ext_getElem? fun i => ?_
    rw [List.getElem?_map, List.getElem?_map]
    cases hm : f.members[i]? with
    | none =>
      have hlength := f.step_traffic_length e
      rw [List.getElem?_eq_none_iff] at hm
      rw [List.getElem?_eq_none_iff.2 (by omega)]
    | some m =>
      obtain ⟨m', hm', hstands⟩ := step_traffic_member hm e
      rw [hm']
      exact congrArg some hstands.health
  have hcount := congrArg (List.countP Health.isTailing) hhealth
  rwa [List.countP_map, List.countP_map] at hcount

theorem Counts.step_traffic (h : f.toSession.Counts n) (e : Traffic.Event) :
    (f.step (.traffic e)).toSession.Counts n := by
  simp only [step]
  split
  · rename_i hadmits
    rcases admits_cases hadmits with ⟨x, rfl⟩ | ⟨ms, rfl⟩ | hwriter
    · exact Session.Counts.call h x
    · exact h
    · obtain ⟨j, hj⟩ := Option.isSome_iff_exists.1 hwriter
      rcases Traffic.step_writer (t := f.toTraffic) hj with hsame | ⟨m, v, b, o, -, hstep, hb⟩
      · rw [hsame]
        exact h
      · rw [hstep]
        have hopen : b.openReaders = f.broker.openReaders := by
          rcases hb with rfl | ⟨r, happend⟩
          · rfl
          · exact Broker.append_openReaders happend
        exact hopen.trans h
  · exact h

theorem step_openStore_tailing (f : Fleet) (log : String) (settings : ReplaySettings) :
    (f.step (.openStore log settings)).tailing = f.tailing := by
  show (f.members ++ [_]).countP _ = f.members.countP _
  rw [List.countP_append]
  rfl

theorem Balanced.step (h : f.Balanced) (e : Event) : (f.step e).Balanced := by
  cases hstore : e.store? with
  | some i =>
    cases hm : f.members[i]? with
    | none =>
      rw [step_absent hm hstore]
      exact h
    | some m => exact h.move hm hstore
  | none =>
    constructor
    · cases e with
      | traffic e =>
        rw [step_traffic_tailing]
        exact Counts.step_traffic h.count e
      | openStore log settings =>
        rw [step_openStore_tailing]
        exact h.count
      | _ => cases hstore
    · intro i m' hm'
      cases hm : f.members[i]? with
      | none =>
        obtain ⟨log, settings, -, -, rfl⟩ := step_born hm hm'
        exact Replay.holds_of_not_tailing (by simp [Store.opened])
      | some m =>
        obtain ⟨m₁, hm₁, hstands, -⟩ := step_standsBy hm (e := e) (by simp [hstore])
        rw [hm'] at hm₁
        cases hm₁
        exact hstands.holds (h.holds i m hm)

theorem Balanced.run (h : f.Balanced) (es : List Event) : (f.run es).Balanced := by
  induction es generalizing f with
  | nil => exact h
  | cons e es ih => exact ih (h.step e)

/-! ## Readers that a store takes and gives back -/

/-- How many open readers the store `i` takes in an event, or gives back if the number is negative:
it does either only in its own moves. -/
def taken (i : Nat) (f : Fleet) (e : Event) : Int :=
  if e.store? = some i then (f.step e).broker.openReaders - f.broker.openReaders else 0

/-- How many open readers the store `i` takes in a run, less those that it gives back. -/
def takenIn (i : Nat) : Fleet → List Event → Int
  | _, [] => 0
  | f, e :: es => taken i f e + takenIn i (f.step e) es

/-- Whether the store `i` is tailing, as a number. -/
def heldBy (f : Fleet) (i : Nat) : Nat := f.members[i]?.elim 0 (·.store.replay.held)

theorem heldBy_eq (hm : f.members[i]? = some m) : f.heldBy i = m.store.replay.held := by
  rw [heldBy, hm]
  rfl

theorem heldBy_standsBy {e : Event} (he : e.store? ≠ some i) :
    (f.step e).heldBy i = f.heldBy i := by
  cases hm : f.members[i]? with
  | some m =>
    obtain ⟨m', hm', hstands, -⟩ := step_standsBy hm he
    rw [heldBy_eq hm, heldBy_eq hm']
    show (if m'.store.health.isTailing then 1 else 0) = _
    rw [hstands.health]
    rfl
  | none =>
    have hnone : f.heldBy i = 0 := by rw [heldBy, hm]; rfl
    cases hm' : (f.step e).members[i]? with
    | none =>
      rw [hnone, heldBy, hm']
      rfl
    | some m' =>
      obtain ⟨log, settings, -, -, rfl⟩ := step_born hm hm'
      rw [hnone, heldBy_eq hm']
      rfl

theorem Balanced.taken (h : f.Balanced) (i : Nat) (e : Event) :
    f.taken i e = (f.step e).heldBy i - f.heldBy i := by
  unfold Fleet.taken
  split
  · rename_i he
    cases hm : f.members[i]? with
    | none =>
      rw [step_absent hm he]
      simp
    | some m =>
      obtain ⟨m', hm', hmove⟩ := step_moves hm he
      have htrade := (hmove.trades (h.holds i m hm) (h.held_le hm)).count
      rw [heldBy_eq hm, heldBy_eq hm']
      omega
  · rename_i he
    rw [heldBy_standsBy he]
    simp

theorem Balanced.takenIn (h : f.Balanced) (i : Nat) (es : List Event) :
    f.takenIn i es = (f.run es).heldBy i - f.heldBy i := by
  induction es generalizing f with
  | nil =>
    show (0 : Int) = f.heldBy i - f.heldBy i
    omega
  | cons e es ih =>
    have hfirst := h.taken i e
    have hrest := ih (h.step e)
    show f.taken i e + (f.step e).takenIn i es = ((f.step e).run es).heldBy i - f.heldBy i
    omega

/-! ## Stores that have stopped -/

/-- A replay that has stopped opens no reader and stays as it is. -/
theorem Moves.stopped {b b' : Broker} {o : Option OpenWrite} {m' : Member} {x x' : Task}
    {ts : List Turn} (hmove : Moves b o m x ts m' b' x') (h : m.store.health = .stopped) :
    m'.store.health = .stopped ∧ b'.openedTotal = b.openedTotal := by
  have hphase := Replay.health_eq_stopped.1 h
  cases hmove with
  | answer =>
    simp only [Store.attempt, Replay.attemptOpen_of_stopped hphase, and_true]
    exact h
  | read =>
    simp only [Store.read, Replay.read_of_stopped hphase, and_true]
    exact h
  | take =>
    simp only [Store.read, Replay.read_of_stopped hphase, and_true]
    exact h
  | halt =>
    simp only [Store.release, Replay.stop_of_stopped hphase, and_true]
    exact h
  | endClose b' _ _ hb' =>
    refine ⟨h, ?_⟩
    rcases hb' with rfl | rfl <;> rfl
  | _ => exact ⟨h, rfl⟩

theorem stopped_step (hm : f.members[i]? = some m) (h : m.store.health = .stopped) (e : Event) :
    ∃ m', (f.step e).members[i]? = some m' ∧ m'.store.health = .stopped ∧
      (e.store? = some i → (f.step e).broker.openedTotal = f.broker.openedTotal) := by
  by_cases he : e.store? = some i
  · obtain ⟨m', hm', hmove⟩ := step_moves hm he
    obtain ⟨hstopped, htotal⟩ := hmove.stopped h
    exact ⟨m', hm', hstopped, fun _ => htotal⟩
  · obtain ⟨m', hm', hstands, -⟩ := step_standsBy hm he
    exact ⟨m', hm', hstands.health.trans h, fun hmoves => absurd hmoves he⟩

theorem stopped_run (hm : f.members[i]? = some m) (h : m.store.health = .stopped)
    (es : List Event) : ∃ m', (f.run es).members[i]? = some m' ∧ m'.store.health = .stopped := by
  induction es generalizing f m with
  | nil => exact ⟨m, hm, h⟩
  | cons e es ih =>
    obtain ⟨m₁, hm₁, h₁, -⟩ := stopped_step hm h e
    exact ih hm₁ h₁

/-- No reader leaks. In every run the open readers are those of others and one for each store that
is tailing, which is what the moves of the store come to. A store that has stopped stays so, and its
moves open no further reader. -/
theorem one_reader_for_each_tailing_store (es : List Event) :
    let f := ({} : Fleet).run es
    f.broker.openReaders = f.inUse + f.tailing ∧
      (f.readers = [] → f.broker.openReaders = f.tailing) ∧
      ∀ (i : Nat) m, f.members[i]? = some m →
        ({} : Fleet).takenIn i es = (if m.store.health.isTailing then 1 else 0) ∧
        (m.store.health = .stopped →
          ∀ later e, ∃ m', (f.run later).members[i]? = some m' ∧ m'.store.health = .stopped ∧
            (e.store? = some i →
              ((f.run later).step e).broker.openedTotal = (f.run later).broker.openedTotal)) := by
  intro f
  have hbalanced : f.Balanced := balanced_empty.run es
  have hcount : f.broker.openReaders = f.inUse + f.tailing := hbalanced.count
  refine ⟨hcount, fun hnone => ?_, fun i m hm => ⟨?_, fun hstopped later e => ?_⟩⟩
  · have hinUse : f.inUse = 0 := by
      unfold Session.inUse
      rw [hnone]
      rfl
    omega
  · have htaken := balanced_empty.takenIn i es
    rw [heldBy_eq hm] at htaken
    rw [htaken]
    show ((if m.store.health.isTailing then 1 else 0 : Nat) : Int) - 0 = _
    split <;> rfl
  · obtain ⟨m', hm', hstopped'⟩ := stopped_run hm hstopped later
    obtain ⟨-, -, -, htotal⟩ := stopped_step hm' hstopped' e
    exact ⟨m', hm', hstopped', htotal⟩

end Fleet

end ReplayRegistry
