import ReplayRegistry.Proofs.OpenReaders

/-!
# Proofs: counts of readers

What the broker counts can be told from what its callers see. A reader counts as open from the call
that opens it until the first that closes or drops it, however often it is closed and whether or not
it is dropped after that. So no reader is taken off the count twice, and a reader that has been
closed answers every read alike.
-/

namespace ReplayRegistry

theorem Broker.call_openedTotal (b : Broker) (x : BrokerCall) :
    (b.call x).2.openedTotal = b.openedTotal := by
  cases x with
  | append log r =>
    simp only [call, append]
    split
    · rename_i b' happend
      split at happend
      · cases happend
      · split at happend
        · cases happend
        · cases happend
          rfl
    · rfl
  | compact log =>
    simp only [call, compact]
    split <;> rfl
  | _ => rfl

theorem Reader.release_openedTotal (r : Reader) (b : Broker) :
    (r.release b).2.openedTotal = b.openedTotal := by
  unfold release
  split <;> rfl

theorem Reader.Moves.released {b : Broker} {r r' : Reader} {ds : List Record}
    (h : r.Moves b ds r') : r'.released = r.released := by
  cases h <;> rfl

/-- Counting elements by their places. -/
theorem countP_range_eq {α : Type} {xs : List α} {p : Nat → Bool} {q : α → Bool}
    (h : ∀ i x, xs[i]? = some x → p i = q x) : (List.range xs.length).countP p = xs.countP q := by
  have hplaces : xs.map some = (List.range xs.length).map (xs[·]?) :=
    List.ext_getElem (by simp) (by simp)
  calc (List.range xs.length).countP p
    _ = (List.range xs.length).countP fun i => xs[i]?.any q := by
        refine List.countP_congr ?_
        intro i hi
        have hx := List.getElem?_eq_getElem (List.mem_range.1 hi)
        rw [h i _ hx, hx]
        rfl
    _ = ((List.range xs.length).map (xs[·]?)).countP (·.any q) := by rw [List.countP_map]; rfl
    _ = xs.countP q := by rw [← hplaces, List.countP_map]; rfl

namespace Session

/-! ## What callers see -/

/-- The reader that a call opens, told from its answer. -/
def opened (s : Session) (c : Call) : List Nat :=
  match (s.call c).1 with
  | .opened i => [i]
  | _ => []

/-- The reader that a call closes, told from its answer. It may have been closed before. -/
def closed (s : Session) (c : Call) : List Nat :=
  match c, (s.call c).1 with
  | .closeReader i, .done => [i]
  | _, _ => []

/-- The reader that a call drops, told from its answer. It may have been closed before. -/
def dropped (s : Session) (c : Call) : List Nat :=
  match c, (s.call c).1 with
  | .dropReader i, .done => [i]
  | _, _ => []

/-- The readers that calls to a new session open, in order. -/
def opens (calls : List Call) : List Nat := ({} : Session).collect opened calls

def closes (calls : List Call) : List Nat := ({} : Session).collect closed calls

def drops (calls : List Call) : List Nat := ({} : Session).collect dropped calls

/-- The readers that have been opened and neither been closed nor dropped. -/
def stillOpen (calls : List Call) : List Nat :=
  (opens calls).filter fun i => i ∉ closes calls ∧ i ∉ drops calls

/-! ## One call -/

/-- The readers `os` have been opened on a session, `cs` have been closed and `ds` dropped. -/
structure Accounted (s : Session) (os cs ds : List Nat) : Prop where
  counts : s.Counts 0
  total : s.broker.openedTotal = s.readers.length
  opened : os = List.range s.readers.length
  closed_lt : ∀ i ∈ cs, i < s.readers.length
  closed : ∀ i r, s.readers[i]? = some (some r) → (r.released ↔ i ∈ cs)
  dropped : ∀ i, s.readers[i]? = some none ↔ i ∈ ds

variable {s : Session} {i : Nat} {r : Reader} {os cs ds : List Nat}

theorem accounted_empty : ({} : Session).Accounted [] [] [] where
  counts := rfl
  total := rfl
  opened := rfl
  closed_lt i hi := by cases hi
  closed i r hr := by cases hr
  dropped i := by simp

/-- The readers are as before. -/
theorem Accounted.keep (h : s.Accounted os cs ds) {b : Broker}
    (hopen : b.openReaders = s.broker.openReaders)
    (htotal : b.openedTotal = s.broker.openedTotal) : Accounted ⟨b, s.readers⟩ os cs ds :=
  { h with
    counts := hopen.trans h.counts
    total := htotal.trans h.total }

/-- The reader `i` becomes `x`: it is closed, if it is named in `cs'`, and dropped, if it is named
in `ds'`. -/
theorem Accounted.replace (h : s.Accounted os cs ds) (hr : s.readers[i]? = some (some r))
    (cs' ds' : List Nat) {b : Broker} {x : Option Reader}
    (hcounts : Counts ⟨b, s.readers.set i x⟩ 0) (htotal : b.openedTotal = s.broker.openedTotal)
    (hcs : ∀ j ∈ cs', j = i) (hds : ∀ j ∈ ds', j = i)
    (hclosed : ∀ r', x = some r' → (r'.released ↔ r.released ∨ i ∈ cs'))
    (hdropped : x = none ↔ i ∈ ds') :
    Accounted ⟨b, s.readers.set i x⟩ os (cs ++ cs') (ds ++ ds') := by
  have hi : i < s.readers.length := (List.getElem?_eq_some_iff.1 hr).1
  have hself : (s.readers.set i x)[i]? = some x := List.getElem?_set_self hi
  have helse : ∀ j, i ≠ j → (s.readers.set i x)[j]? = s.readers[j]? :=
    fun j hj => List.getElem?_set_ne hj
  constructor
  · exact hcounts
  · rw [List.length_set]
    exact htotal.trans h.total
  · rw [List.length_set]
    exact h.opened
  · intro j hj
    rw [List.length_set]
    rcases List.mem_append.1 hj with hj | hj
    · exact h.closed_lt j hj
    · rwa [hcs j hj]
  · intro j r' hr'
    by_cases hij : i = j
    · subst hij
      rw [hself] at hr'
      rw [hclosed r' (Option.some.inj hr'), h.closed i r hr, List.mem_append]
    · rw [helse j hij] at hr'
      have hj : j ∉ cs' := fun hj => hij (hcs j hj).symm
      simp [h.closed j r' hr', hj]
  · intro j
    by_cases hij : i = j
    · subst hij
      have hi : i ∉ ds := fun hi => by simp [(h.dropped i).2 hi] at hr
      simp [hself, hdropped, hi]
    · have hj : j ∉ ds' := fun hj => hij (hds j hj).symm
      simp [helse j hij, h.dropped j, hj]

theorem Accounted.add (h : s.Accounted os cs ds) (hreleased : r.released = false) {b : Broker}
    (hcounts : Counts ⟨b, s.readers ++ [some r]⟩ 0)
    (htotal : b.openedTotal = s.broker.openedTotal + 1) :
    Accounted ⟨b, s.readers ++ [some r]⟩ (os ++ [s.readers.length]) cs ds := by
  have hnew : ∀ i x, (s.readers ++ [some r])[i]? = some x →
      s.readers[i]? = some x ∨ i = s.readers.length ∧ x = some r := by
    intro i x hx
    rcases Nat.lt_or_ge i s.readers.length with hlt | hge
    · exact .inl (List.getElem?_append_left hlt ▸ hx)
    · rw [List.getElem?_append_right hge] at hx
      have hplace : i - s.readers.length = 0 ∧ some r = x := by
        simpa [List.getElem?_singleton] using hx
      exact .inr ⟨by omega, hplace.2.symm⟩
  constructor
  · exact hcounts
  · rw [htotal, h.total, List.length_append, List.length_singleton]
  · rw [h.opened, List.length_append, List.length_singleton, List.range_succ]
  · intro i hi
    have hlt := h.closed_lt i hi
    rw [List.length_append]
    omega
  · intro i r' hr'
    rcases hnew i _ hr' with hr' | ⟨rfl, heq⟩
    · exact h.closed i r' hr'
    · cases heq
      simpa [hreleased] using fun hi => Nat.lt_irrefl _ (h.closed_lt _ hi)
  · intro i
    rw [← h.dropped i]
    constructor
    · intro hi
      exact (hnew i none hi).resolve_right fun heq => by cases heq.2
    · intro hi
      rw [List.getElem?_append_left (List.getElem?_eq_some_iff.1 hi).1, hi]

theorem Accounted.openReader (h : s.Accounted os cs ds) (log : String) (start : StartPosition) :
    (s.openReader log start).2.Accounted (os ++ s.opened (.openReader log start)) cs ds := by
  have hcounts := h.counts.openReader log start
  simp only [Session.opened, Session.call]
  unfold Session.openReader at hcounts ⊢
  cases hopen : s.broker.openReader log start with
  | error e => simpa using h
  | ok res =>
    obtain ⟨-, hr, hb⟩ := Broker.openReader_inv hopen
    rw [hopen] at hcounts
    exact h.add (by rw [hr]) hcounts (by rw [hb])

/-- The reader `i` is used, and is as released as before. -/
theorem Accounted.use (h : s.Accounted os cs ds) (hr : s.readers[i]? = some (some r)) {r' : Reader}
    (hreleased : r'.released = r.released) {b : Broker}
    (hcounts : Counts ⟨b, s.readers.set i (some r')⟩ 0)
    (htotal : b.openedTotal = s.broker.openedTotal) :
    Accounted ⟨b, s.readers.set i (some r')⟩ os cs ds := by
  have hreplaced := h.replace hr [] [] hcounts htotal (by simp) (by simp)
    (by simp [hreleased]) (by simp)
  rwa [List.append_nil, List.append_nil] at hreplaced

theorem Accounted.read (h : s.Accounted os cs ds) (hr : s.readers[i]? = some (some r)) :
    (s.read i r).2.Accounted os cs ds := by
  have hmoves := r.read_moves s.broker
  exact h.use hr hmoves.released (h.counts.use hr hmoves.held rfl) rfl

theorem Accounted.readAround (h : s.Accounted os cs ds) (hr : s.readers[i]? = some (some r))
    (x : BrokerCall) : (s.readAround i r x).2.Accounted os cs ds := by
  have hcounts := h.counts.readAround hr x
  have hmoves := PendingRead.start_moves r s.broker
  unfold Session.readAround at hcounts ⊢
  cases hstart : PendingRead.start r s.broker with
  | answered result r' =>
    rw [hstart] at hcounts hmoves
    exact h.use hr hmoves.released hcounts rfl
  | asleep r' seen =>
    rw [hstart] at hcounts
    rw [PendingRead.start_asleep hstart] at hcounts ⊢
    exact h.use hr (PendingRead.poll_moves r seen _).released hcounts (s.broker.call_openedTotal x)

theorem Accounted.closeReader (h : s.Accounted os cs ds) (hr : s.readers[i]? = some (some r)) :
    (s.closeReader i r).Accounted os (cs ++ [i]) ds := by
  have hreleased : (r.release s.broker).1.released := by rw [r.release_reader]
  have hheld : Reader.held (some (r.release s.broker).1) = 0 := by simp [Reader.held, hreleased]
  have hclosed := h.replace hr [i] [] (h.counts.release hr hheld)
    (r.release_openedTotal s.broker) (by simp) (by simp)
    (fun r' hr' => by simp [← Option.some.inj hr', hreleased]) (by simp)
  rwa [List.append_nil] at hclosed

theorem Accounted.dropReader (h : s.Accounted os cs ds) (hr : s.readers[i]? = some (some r)) :
    (s.dropReader i r).Accounted os cs (ds ++ [i]) := by
  have hdropped := h.replace hr [] [i] (x := none) (h.counts.release hr rfl)
    (r.release_openedTotal s.broker) (by simp) (by simp) (by simp) (by simp)
  rwa [List.append_nil] at hdropped

/-- A call that names a reader which is not there does nothing. -/
theorem call_of_absent {c : Call} (hc : c.reader? = some i)
    (h : ∀ r, s.readers[i]? ≠ some (some r)) :
    (s.call c).2 = s ∧ s.opened c = [] ∧ s.closed c = [] ∧ s.dropped c = [] := by
  rcases hr : s.readers[i]? with _ | _ | r
  · cases c <;> cases hc <;> simp [opened, closed, dropped, call, withReader, hr]
  · cases c <;> cases hc <;> simp [opened, closed, dropped, call, withReader, hr]
  · exact absurd hr (h r)

theorem Accounted.call (h : s.Accounted os cs ds) (c : Call) :
    (s.call c).2.Accounted (os ++ s.opened c) (cs ++ s.closed c) (ds ++ s.dropped c) := by
  have habsent : ∀ i, c.reader? = some i → (∀ r, s.readers[i]? ≠ some (some r)) →
      (s.call c).2.Accounted (os ++ s.opened c) (cs ++ s.closed c) (ds ++ s.dropped c) := by
    intro i hi hr
    obtain ⟨hsame, hopened, hclosed, hdropped⟩ := call_of_absent hi hr
    simpa [hsame, hopened, hclosed, hdropped] using h
  cases c with
  | broker x =>
    have hkeep := h.keep (s.broker.call_openReaders x) (s.broker.call_openedTotal x)
    simpa [Session.opened, Session.closed, Session.dropped, Session.call, brokerCall] using hkeep
  | openReader log start =>
    simpa [Session.call, Session.closed, Session.dropped] using h.openReader log start
  | read i =>
    by_cases hr : ∃ r, s.readers[i]? = some (some r)
    · obtain ⟨r, hr⟩ := hr
      have hopened : s.opened (.read i) = [] := by
        simp [Session.opened, Session.call, withReader_some hr, Session.read]
      simpa [hopened, Session.closed, Session.dropped, Session.call, withReader_some hr]
        using h.read hr
    · exact habsent i rfl (not_exists.1 hr)
  | readAround i x =>
    by_cases hr : ∃ r, s.readers[i]? = some (some r)
    · obtain ⟨r, hr⟩ := hr
      have hopened : s.opened (.readAround i x) = [] := by
        simp only [Session.opened, Session.call, withReader_some hr, Session.readAround]
        cases PendingRead.start r s.broker <;> rfl
      simpa [hopened, Session.closed, Session.dropped, Session.call, withReader_some hr]
        using h.readAround hr x
    · exact habsent i rfl (not_exists.1 hr)
  | closeReader i =>
    by_cases hr : ∃ r, s.readers[i]? = some (some r)
    · obtain ⟨r, hr⟩ := hr
      simpa [Session.opened, Session.closed, Session.dropped, Session.call, withReader_some hr]
        using h.closeReader hr
    · exact habsent i rfl (not_exists.1 hr)
  | dropReader i =>
    by_cases hr : ∃ r, s.readers[i]? = some (some r)
    · obtain ⟨r, hr⟩ := hr
      simpa [Session.opened, Session.closed, Session.dropped, Session.call, withReader_some hr]
        using h.dropReader hr
    · exact habsent i rfl (not_exists.1 hr)

/-! ## Runs -/

theorem Accounted.run (h : s.Accounted os cs ds) (calls : List Call) :
    (s.run calls).Accounted (os ++ s.collect Session.opened calls)
      (cs ++ s.collect Session.closed calls) (ds ++ s.collect Session.dropped calls) := by
  induction calls generalizing s os cs ds with
  | nil => simpa [collect, Session.run] using h
  | cons c calls ih =>
    simp only [collect, ← List.append_assoc]
    exact ih (h.call c)

theorem accounted_run (calls : List Call) :
    (({} : Session).run calls).Accounted (opens calls) (closes calls) (drops calls) := by
  simpa [opens, closes, drops] using accounted_empty.run calls

theorem Accounted.inUse_eq (h : s.Accounted os cs ds) :
    s.inUse = (os.filter fun i => i ∉ cs ∧ i ∉ ds).length := by
  rw [h.opened, ← List.countP_eq_length_filter, inUse]
  refine (countP_range_eq ?_).symm
  intro i x hx
  cases x with
  | none => simp [(h.dropped i).1 hx]
  | some r =>
    have hdropped : i ∉ ds := by
      rw [← h.dropped i, hx]
      simp
    simp [← h.closed i r hx, hdropped]

theorem Accounted.openReaders_pos (h : s.Accounted os cs ds) (hr : s.readers[i]? = some (some r))
    (hopen : r.released = false) : 0 < s.broker.openReaders := by
  have hcount : s.broker.openReaders = s.inUse + 0 := h.counts
  rw [hcount, Nat.add_zero, inUse, List.countP_pos_iff]
  exact ⟨some r, List.mem_of_getElem? hr, by simp [hopen]⟩

/-- A reader that has been closed answers every read alike, and nothing comes of it. -/
theorem read_of_released (hr : s.readers[i]? = some (some r)) (hreleased : r.released) :
    s.call (.read i) = (.read (.failed .closed), s) ∧
      ∀ x, s.call (.readAround i x) = (.readAround none (.failed .closed), s) := by
  have hread : r.read s.broker = (.failed .closed, r) := by
    simp [Reader.read, Reader.fault?, hreleased]
  have hsame : s.setReader i r = s := by
    obtain ⟨hi, hr⟩ := List.getElem?_eq_some_iff.1 hr
    rw [setReader, ← hr, List.set_getElem_self]
  constructor
  · simp [call, withReader_some hr, read, hread, hsame]
  · intro x
    simp [call, withReader_some hr, readAround, PendingRead.start, hread, hsame]

/-- The open readers are those that have been opened and neither been closed nor dropped, and the
readers ever opened are all of them. Nobody takes a reader off a count of zero: as long as there is
one to be released, the count is above it. Every read of a reader that has been closed finds it
closed and leaves everything as it is. -/
theorem readers_accounted (calls : List Call) :
    let s := ({} : Session).run calls
    s.broker.openReaders = (stillOpen calls).length ∧
      s.broker.openedTotal = (opens calls).length ∧ (opens calls).Nodup ∧
      (∀ (i : Nat) r, s.readers[i]? = some (some r) → r.released = false →
        0 < s.broker.openReaders) ∧
      ∀ i ∈ closes calls, i ∉ drops calls →
        s.call (.read i) = (.read (.failed .closed), s) ∧
          ∀ x, s.call (.readAround i x) = (.readAround none (.failed .closed), s) := by
  intro s
  have h : s.Accounted (opens calls) (closes calls) (drops calls) := accounted_run calls
  refine ⟨?_, ?_, ?_, fun i r => h.openReaders_pos, ?_⟩
  · have hcount : s.broker.openReaders = s.inUse + 0 := h.counts
    rw [hcount, h.inUse_eq]
    rfl
  · rw [h.total, h.opened, List.length_range]
  · rw [h.opened]
    exact List.nodup_range
  · intro i hclosed hdropped
    rcases hx : s.readers[i]? with _ | _ | r
    · exact absurd (h.closed_lt i hclosed) (by simpa using hx)
    · exact absurd ((h.dropped i).1 hx) hdropped
    · exact read_of_released hx ((h.closed i r hx).2 hclosed)

/-- One reader closed twice, one closed and dropped, one still open and one refused, on a log that
is closed in the end. -/
theorem readers_accounted_closedTwice :
    let calls : List Call := [.openReader "a" .earliest, .openReader "a" .latest,
      .openReader "b" .earliest, .broker (.failOpens true), .openReader "a" .earliest,
      .closeReader 0, .read 0, .closeReader 0, .broker .disconnect, .closeReader 1, .dropReader 1,
      .dropReader 1, .closeReader 1, .broker .close]
    let s := ({} : Session).run calls
    stillOpen calls = [2] ∧ s.broker.openReaders = 1 ∧ s.broker.openedTotal = 3 ∧
      (∃ r, s.readers[2]? = some (some r) ∧ r.released = false ∧ 0 < s.broker.openReaders) ∧
      0 ∈ closes calls ∧ 0 ∉ drops calls ∧ s.call (.read 0) = (.read (.failed .closed), s) := by
  intro calls s
  obtain ⟨hopen, htotal, -, hpos, hread⟩ := readers_accounted calls
  have hstill : stillOpen calls = [2] := by decide +kernel
  have hopens : opens calls = [0, 1, 2] := by decide +kernel
  have hclosed : 0 ∈ closes calls := by decide +kernel
  have hdropped : 0 ∉ drops calls := by decide +kernel
  refine ⟨hstill, ?_, ?_, ?_, hclosed, hdropped, (hread 0 hclosed hdropped).1⟩
  · rw [hopen, hstill]
    rfl
  · rw [htotal, hopens]
    rfl
  · have hr : s.readers[2]? = some (some ⟨"b", 0, 0, 0, false⟩) := by decide +kernel
    exact ⟨_, hr, rfl, hpos 2 _ hr rfl⟩

end Session

end ReplayRegistry
