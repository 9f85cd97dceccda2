import ReplayRegistry.Proofs.LogHistory

/-!
# Proofs: what readers deliver

A reader moves along the history of its log. It delivers what it finds ahead of it, and it passes
over a record without delivering it only if the log does not hold the record any more, which then is
not the last one of its key. So a reader that has to wait has delivered the last record of every
key.
-/

namespace ReplayRegistry

/-! ## Along the history of a log -/

namespace Partition

/-- A reader that has started at the place `first` of the history `rs` is at the place `next`, and
has delivered the records `ds`, which stand at the places `ps`. -/
structure Delivery (rs : List Record) (first next : Nat) (ps : List Nat) (ds : List Record) :
    Prop where
  start_le : first ≤ next
  next_le : next ≤ rs.length
  increasing : ps.Pairwise (· < ·)
  between : ∀ n ∈ ps, first ≤ n ∧ n < next
  records : ps.map (rs[·]?) = ds.map some
  /-- The last records of the keys are among what has been delivered, as far as it has come. -/
  passed : ∀ n r, LastOfKey rs n r → first ≤ n → n < next → n ∈ ps

variable {p : Partition} {rs new ds : List Record} {first next : Nat} {ps : List Nat}

theorem delivery_start (h : first ≤ rs.length) : Delivery rs first first [] [] where
  start_le := Nat.le_refl _
  next_le := h
  increasing := List.Pairwise.nil
  between n hn := by cases hn
  records := rfl
  passed n r hlast hfirst hn := absurd hn (Nat.not_lt.2 hfirst)

theorem Delivery.append (h : Delivery rs first next ps ds) (new : List Record) :
    Delivery (rs ++ new) first next ps ds where
  start_le := h.start_le
  next_le := by
    have hle := h.next_le
    rw [List.length_append]
    omega
  increasing := h.increasing
  between := h.between
  records := by
    rw [← h.records]
    refine List.map_congr_left ?_
    intro n hn
    have hlt := (h.between n hn).2
    have hle := h.next_le
    exact List.getElem?_append_left (by omega)
  passed n r hlast hfirst hn := by
    have hle := h.next_le
    exact h.passed n r (hlast.of_append (by omega)) hfirst hn

/-- The reader delivers the first record that it finds from its place on. -/
theorem Delivery.deliver (h : Delivery rs first next ps ds) (hp : p.Retains rs) {e : Entry}
    (he : p.firstFrom next = some e) :
    Delivery rs first (e.offset + 1) (ps ++ [e.offset]) (ds ++ [e.record]) := by
  obtain ⟨hle, hmem, -, -⟩ := hp.sound.firstFrom_some he
  have hheld := hp.held e hmem
  have hstart := h.start_le
  constructor
  · omega
  · have hlt := (List.getElem?_eq_some_iff.1 hheld).1
    omega
  · refine List.pairwise_append.2 ⟨h.increasing, List.pairwise_singleton _ _, ?_⟩
    intro n hn m hm
    have hlt := (h.between n hn).2
    rw [List.mem_singleton.1 hm]
    omega
  · intro n hn
    rcases List.mem_append.1 hn with hn | hn
    · have hbetween := h.between n hn
      omega
    · rw [List.mem_singleton.1 hn]
      omega
  · rw [List.map_append, List.map_append, h.records, List.map_singleton, List.map_singleton, hheld]
  · intro n r hlast hfirst hn
    rw [List.mem_append, List.mem_singleton]
    rcases Nat.lt_or_ge n next with hlt | hge
    · exact .inl (h.passed n r hlast hfirst hlt)
    · -- the log holds the record, so the reader does not step over it
      have hfound : e.offset ≤ n := hp.sound.firstFrom_le he (hp.last n r hlast) hge
      exact .inr (by omega)

/-- A reader that finds nothing has delivered the last record of every key. -/
theorem Delivery.all (h : Delivery rs first next ps ds) (hp : p.Retains rs)
    (hnone : p.firstFrom next = none) {n : Nat} {r : Record} (hlast : LastOfKey rs n r)
    (hfirst : first ≤ n) : n ∈ ps := by
  have hmem := hp.last n r hlast
  have hbehind := List.find?_eq_none.1 hnone ⟨n, r⟩ hmem
  simp only [decide_eq_true_eq, Nat.not_le] at hbehind
  exact h.passed n r hlast hfirst hbehind

end Partition

/-! ## One read -/

/-- The record that a read delivers. -/
def ReadResult.records : ReadResult → List Record
  | .record r => [r]
  | _ => []

namespace Reader

/-- A reader delivers records and moves on with them, or stays where it is. -/
inductive Moves (b : Broker) (r : Reader) : List Record → Reader → Prop
  | stay : Moves b r [] r
  | deliver (e : Entry) (h : (b.partition r.log).firstFrom r.next = some e) :
      Moves b r [e.record] { r with next := e.offset + 1, delivered := r.delivered + 1 }

theorem read_moves (r : Reader) (b : Broker) :
    Moves b r (r.read b).1.records (r.read b).2 := by
  unfold Reader.read
  split
  · exact .stay
  · split
    · rename_i e he
      exact .deliver e he
    · exact .stay

/-- A reader has to wait if nothing is ahead of it. -/
theorem firstFrom_of_waiting {r : Reader} {b : Broker} (h : (r.read b).1 = .waiting) :
    (b.partition r.log).firstFrom r.next = none := by
  unfold Reader.read at h
  split at h
  · cases h
  · split at h
    · cases h
    · assumption

/-- A reader that has to wait stays where it is. -/
theorem read_waiting {r : Reader} {b : Broker} (h : (r.read b).1 = .waiting) :
    (r.read b).2 = r := by
  have hmoves := r.read_moves b
  rw [h] at hmoves
  generalize (r.read b).2 = r' at hmoves
  cases hmoves
  rfl

theorem release_reader (r : Reader) (b : Broker) :
    (r.release b).1 = { r with released := true } := by
  unfold release
  split
  · rename_i hreleased
    rw [← hreleased]
  · rfl

end Reader

namespace PendingRead

variable {r r' : Reader} {b : Broker} {seen : Nat}

theorem start_eq (r : Reader) (b : Broker) :
    (start r b).result = (r.read b).1 ∧ (start r b).reader = (r.read b).2 := by
  unfold start
  rcases r.read b with ⟨_ | _ | _, r'⟩ <;> exact ⟨rfl, rfl⟩

theorem start_of_waiting (h : (r.read b).1 = .waiting) : start r b = .asleep r b.changes := by
  have hread : r.read b = (.waiting, r) := Prod.ext h (Reader.read_waiting h)
  simp only [start, hread]

theorem start_of_answered (h : (r.read b).1 ≠ .waiting) :
    start r b = .answered (r.read b).1 (r.read b).2 := by
  unfold start
  rcases hread : r.read b with ⟨_ | _ | _, r₁⟩
  case waiting => exact absurd (congrArg Prod.fst hread) h
  all_goals rfl

/-- A read sleeps if the reader has to wait. -/
theorem start_asleep (h : start r b = .asleep r' seen) : r' = r := by
  obtain ⟨hresult, hreader⟩ := start_eq r b
  rw [h] at hresult hreader
  have hwaiting : (r.read b).1 = .waiting := hresult.symm
  have heq : r' = (r.read b).2 := hreader
  rw [heq, Reader.read_waiting hwaiting]

theorem start_moves (r : Reader) (b : Broker) :
    r.Moves b (start r b).result.records (start r b).reader := by
  obtain ⟨hresult, hreader⟩ := start_eq r b
  rw [hresult, hreader]
  exact r.read_moves b

theorem poll_moves (r : Reader) (seen : Nat) (b : Broker) :
    r.Moves b ((asleep r seen).poll b).result.records ((asleep r seen).poll b).reader := by
  simp only [poll]
  split
  · exact .stay
  · exact start_moves r b

end PendingRead

/-! ## The readers of a session -/

namespace Session

/-- The reader that a call names. -/
def Call.reader? : Call → Option Nat
  | .broker _ => none
  | .openReader _ _ => none
  | .read i => some i
  | .readAround i _ => some i
  | .closeReader i => some i
  | .dropReader i => some i

/-- The record that a call delivers. -/
def Answer.records : Answer → List Record
  | .read result => result.records
  | .readAround _ result => result.records
  | _ => []

/-- The record that a call delivers from the reader `i`. -/
def delivered (i : Nat) (s : Session) (c : Call) : List Record :=
  if c.reader? = some i then (s.call c).1.records else []

/-- What a call makes of the reader `i`, if it has not been dropped before. -/
inductive Turn (b : Broker) (i : Nat) : Call → Option Reader → List Record → Option Reader → Prop
  | keep (c : Call) (x : Option Reader) : Turn b i c x [] x
  | move (c : Call) {r r' : Reader} {ds : List Record} (h : r.Moves b ds r') :
      Turn b i c (some r) ds (some r')
  | close (r : Reader) : Turn b i (.closeReader i) (some r) [] (some { r with released := true })
  | drop (r : Reader) : Turn b i (.dropReader i) (some r) [] none

variable {s : Session} {i : Nat}

theorem withReader_some {r : Reader} (h : s.readers[i]? = some (some r))
    (f : Reader → Answer × Session) : s.withReader i f = f r := by
  simp only [withReader, h]

theorem withReader_dropped (h : s.readers[i]? = some none) (f : Reader → Answer × Session) :
    s.withReader i f = (.readerDropped, s) := by
  simp only [withReader, h]

/-- What is done with one reader leaves the others alone. -/
theorem withReader_readers_of_ne {j : Nat} (hne : j ≠ i) {f : Reader → Answer × Session}
    (hf : ∀ r, ∃ x, (f r).2.readers = s.readers.set j x) :
    (s.withReader j f).2.readers[i]? = s.readers[i]? := by
  unfold withReader
  split
  · rename_i r _
    obtain ⟨x, hx⟩ := hf r
    rw [hx, List.getElem?_set_ne hne]
  · rfl
  · rfl

theorem read_readers (s : Session) (i : Nat) (r : Reader) :
    ∃ x, (s.read i r).2.readers = s.readers.set i x := ⟨_, rfl⟩

theorem readAround_readers (s : Session) (i : Nat) (y : BrokerCall) (r : Reader) :
    ∃ x, (s.readAround i r y).2.readers = s.readers.set i x := by
  unfold readAround
  split <;> exact ⟨_, rfl⟩

/-- A call leaves the readers alone that it does not name. -/
theorem call_readers_of_ne (hi : i < s.readers.length) {c : Call} (h : c.reader? ≠ some i) :
    (s.call c).2.readers[i]? = s.readers[i]? := by
  have hne : ∀ j, some j ≠ some i → j ≠ i := fun j hj heq => hj (congrArg some heq)
  cases c with
  | broker y => rfl
  | openReader log start =>
    simp only [call, openReader]
    split
    · rfl
    · exact List.getElem?_append_left hi
  | read j => exact withReader_readers_of_ne (hne j h) (s.read_readers j)
  | readAround j y => exact withReader_readers_of_ne (hne j h) (s.readAround_readers j y)
  | closeReader j => exact withReader_readers_of_ne (hne j h) fun r => ⟨_, rfl⟩
  | dropReader j => exact withReader_readers_of_ne (hne j h) fun r => ⟨_, rfl⟩

theorem readAround_moves {r : Reader} (h : s.readers[i]? = some (some r)) (y : BrokerCall) :
    ∃ r', (s.readAround i r y).2.readers[i]? = some (some r') ∧
      r.Moves (s.readAround i r y).2.broker (s.readAround i r y).1.records r' := by
  have hi : i < s.readers.length := (List.getElem?_eq_some_iff.1 h).1
  have hmoves := PendingRead.start_moves r s.broker
  unfold readAround
  cases hstart : PendingRead.start r s.broker with
  | answered result r' =>
    rw [hstart] at hmoves
    exact ⟨r', List.getElem?_set_self hi, hmoves⟩
  | asleep r' seen =>
    rw [PendingRead.start_asleep hstart]
    exact ⟨_, List.getElem?_set_self hi, PendingRead.poll_moves r seen _⟩

theorem call_turn {x : Option Reader} (h : s.readers[i]? = some x) (c : Call) :
    ∃ x', (s.call c).2.readers[i]? = some x' ∧
      Turn (s.call c).2.broker i c x (s.delivered i c) x' := by
  have hi : i < s.readers.length := (List.getElem?_eq_some_iff.1 h).1
  unfold delivered
  by_cases hc : c.reader? = some i
  · rw [if_pos hc]
    cases x with
    | none =>
      have hcall : s.call c = (.readerDropped, s) := by
        cases c <;> cases hc <;> exact withReader_dropped h _
      rw [hcall]
      exact ⟨none, h, .keep c none⟩
    | some r =>
      cases c with
      | broker y => cases hc
      | openReader log start => cases hc
      | read j =>
        cases hc
        simp only [call, withReader_some h]
        exact ⟨_, List.getElem?_set_self hi, .move _ (r.read_moves s.broker)⟩
      | readAround j y =>
        cases hc
        simp only [call, withReader_some h]
        obtain ⟨r', hr', hmoves⟩ := readAround_moves h y
        exact ⟨some r', hr', .move _ hmoves⟩
      | closeReader j =>
        cases hc
        simp only [call, withReader_some h]
        refine ⟨some (r.release s.broker).1, List.getElem?_set_self hi, ?_⟩
        rw [r.release_reader]
        exact .close r
      | dropReader j =>
        cases hc
        simp only [call, withReader_some h]
        exact ⟨none, List.getElem?_set_self hi, .drop r⟩
  · rw [if_neg hc, call_readers_of_ne hi hc]
    exact ⟨x, h, .keep c x⟩

/-! ## Runs -/

/-- The reader `i` reads the history `rs` of a log from the place `first` on, and has delivered the
records `ds` from the places `ps`. -/
structure Reads (s : Session) (i : Nat) (log : String) (first : Nat) (rs ds : List Record)
    (ps : List Nat) : Prop where
  retains : (s.broker.partition log).Retains rs
  delivery : ∃ x next, s.readers[i]? = some x ∧ Partition.Delivery rs first next ps ds ∧
    ∀ r ∈ x, r.log = log ∧ r.next = next

variable {log : String} {first : Nat} {rs ds : List Record} {ps : List Nat}

theorem Reads.call (h : s.Reads i log first rs ds ps) (c : Call) :
    ∃ ps', (s.call c).2.Reads i log first (rs ++ s.appended log c) (ds ++ s.delivered i c) ps' := by
  obtain ⟨hretains, x, next, hx, hdelivery, hplace⟩ := h
  have hretains' := (s.call_change c log).retains hretains
  have hdelivery' := hdelivery.append (s.appended log c)
  obtain ⟨x', hx', hturn⟩ := call_turn hx c
  generalize s.delivered i c = new at hturn
  cases hturn with
  | keep c x =>
    rw [List.append_nil]
    exact ⟨ps, hretains', x, next, hx', hdelivery', hplace⟩
  | move c hmoves =>
    rename_i r r'
    obtain ⟨hlog, hnext⟩ := hplace r rfl
    cases hmoves with
    | stay =>
      rw [List.append_nil]
      exact ⟨ps, hretains', some r, next, hx', hdelivery', hplace⟩
    | deliver e he =>
      rw [hlog, hnext] at he
      have hdelivery'' := hdelivery'.deliver hretains' he
      refine ⟨ps ++ [e.offset], hretains', _, e.offset + 1, hx', hdelivery'', ?_⟩
      intro r' hr'
      cases hr'
      exact ⟨hlog, rfl⟩
  | close r =>
    obtain ⟨hlog, hnext⟩ := hplace r rfl
    rw [List.append_nil]
    refine ⟨ps, hretains', _, next, hx', hdelivery', ?_⟩
    intro r' hr'
    cases hr'
    exact ⟨hlog, hnext⟩
  | drop r =>
    rw [List.append_nil]
    exact ⟨ps, hretains', none, next, hx', hdelivery', by simp⟩

theorem Reads.run (h : s.Reads i log first rs ds ps) (cs : List Call) :
    ∃ ps', (s.run cs).Reads i log first (rs ++ s.collect (appended log) cs)
      (ds ++ s.collect (delivered i) cs) ps' := by
  induction cs generalizing s rs ds ps with
  | nil =>
    simp only [collect, List.append_nil]
    exact ⟨ps, h⟩
  | cons c cs ih =>
    obtain ⟨ps', h'⟩ := h.call c
    simp only [collect, ← List.append_assoc]
    exact ih h'

/-- A reader that has to wait has delivered the last record of every key. -/
theorem Reads.all (h : s.Reads i log first rs ds ps)
    (hwaiting : (s.call (.read i)).1 = .read .waiting) {n : Nat} {r : Record}
    (hlast : Partition.LastOfKey rs n r) (hfirst : first ≤ n) : n ∈ ps := by
  obtain ⟨hretains, x, next, hx, hdelivery, hplace⟩ := h
  cases x with
  | none =>
    simp only [Session.call, withReader_dropped hx] at hwaiting
    cases hwaiting
  | some reader =>
    obtain ⟨hlog, hnext⟩ := hplace reader rfl
    simp only [Session.call, withReader_some hx] at hwaiting
    have hnone := Reader.firstFrom_of_waiting (Answer.read.inj hwaiting)
    rw [hlog, hnext] at hnone
    exact hdelivery.all hretains hnone hlast hfirst

end Session

/-! ## Reads that cannot fail -/

/-- The offset at which a reader starts. -/
def StartPosition.offset (p : Partition) : StartPosition → Nat
  | .earliest => 0
  | .latest => p.next

theorem Broker.openReader_inv {b b' : Broker} {log : String} {start : StartPosition} {r : Reader}
    (h : b.openReader log start = .ok (r, b')) :
    b.closed = false ∧ r = ⟨log, b.generation, start.offset (b.partition log), 0, false⟩ ∧
      b' = { b with openReaders := b.openReaders + 1, openedTotal := b.openedTotal + 1 } := by
  unfold Broker.openReader at h
  split at h
  · cases h
  · rename_i hclosed
    split at h
    · cases h
    · cases h
      refine ⟨by simpa using hclosed, ?_, rfl⟩
      cases start <;> rfl

/-- The reader is open, nothing cuts it off, and it may deliver as many records as there are. -/
structure Reader.Attached (r : Reader) (b : Broker) : Prop where
  released : r.released = false
  closed : b.closed = false
  generation : b.generation = r.generation
  unlimited : b.readLimit = none

theorem Reader.Attached.fault? {r : Reader} {b : Broker} (h : r.Attached b) :
    r.fault? b = none := by
  simp [Reader.fault?, h.released, h.closed, h.generation, h.unlimited]

theorem Reader.Attached.moves {r r' : Reader} {b : Broker} {ds : List Record} (h : r.Attached b)
    (hmoves : r.Moves b ds r') : r'.Attached b := by
  cases hmoves with
  | stay => exact h
  | deliver e he => exact ⟨h.released, h.closed, h.generation, h.unlimited⟩

/-- An append or a compaction. -/
def BrokerCall.Plain : BrokerCall → Prop
  | .append _ _ => True
  | .compact _ => True
  | _ => False

theorem BrokerCall.Plain.attached {y : BrokerCall} (hy : y.Plain) {r : Reader} {b : Broker}
    (h : r.Attached b) : r.Attached (b.call y).2 := by
  obtain ⟨hreleased, hclosed, hgeneration, hunlimited⟩ := h
  cases y with
  | append log new =>
    simp only [Broker.call]
    cases happend : b.append log new with
    | error e => exact ⟨hreleased, hclosed, hgeneration, hunlimited⟩
    | ok b' =>
      unfold Broker.append at happend
      split at happend
      · cases happend
      · split at happend
        · cases happend
        · cases happend
          exact ⟨hreleased, hclosed, hgeneration, hunlimited⟩
  | compact log =>
    simp only [Broker.call, Broker.compact]
    split <;> exact ⟨hreleased, hclosed, hgeneration, hunlimited⟩
  | _ => cases hy

namespace Session

/-- A call that reads, opens a reader, appends or compacts. -/
def Call.Plain : Call → Prop
  | .broker y => y.Plain
  | .openReader _ _ => True
  | .read _ => True
  | .readAround _ y => y.Plain
  | .closeReader _ => False
  | .dropReader _ => False

variable {s : Session} {i : Nat} {r : Reader}

theorem Call.Plain.attached {c : Call} (hc : c.Plain) (h : r.Attached s.broker) :
    r.Attached (s.call c).2.broker := by
  cases c with
  | broker y => exact BrokerCall.Plain.attached hc h
  | openReader log start =>
    simp only [call, Session.openReader]
    cases hopen : s.broker.openReader log start with
    | error e => exact h
    | ok res =>
      obtain ⟨-, -, hbroker⟩ := Broker.openReader_inv hopen
      simp only [hbroker]
      exact ⟨h.released, h.closed, h.generation, h.unlimited⟩
  | read j =>
    simp only [call, withReader]
    split <;> exact h
  | readAround j y =>
    simp only [call, withReader]
    split
    · unfold Session.readAround
      split
      · exact h
      · exact BrokerCall.Plain.attached hc h
    · exact h
    · exact h
  | closeReader j => cases hc
  | dropReader j => cases hc

/-- There is a reader `i`, and nothing keeps it from reading. -/
def Serves (s : Session) (i : Nat) : Prop :=
  ∃ r, s.readers[i]? = some (some r) ∧ r.Attached s.broker

theorem Serves.call (h : s.Serves i) {c : Call} (hc : c.Plain) : (s.call c).2.Serves i := by
  obtain ⟨r, hr, hattached⟩ := h
  have hattached' := hc.attached hattached
  obtain ⟨x', hx', hturn⟩ := call_turn hr c
  generalize s.delivered i c = ds at hturn
  cases hturn with
  | keep => exact ⟨r, hx', hattached'⟩
  | move c hmoves => exact ⟨_, hx', hattached'.moves hmoves⟩
  | close => cases hc
  | drop => cases hc

theorem Serves.run (h : s.Serves i) {cs : List Call} (hcs : ∀ c ∈ cs, c.Plain) :
    (s.run cs).Serves i := by
  induction cs generalizing s with
  | nil => exact h
  | cons c cs ih =>
    obtain ⟨hc, hcs⟩ := List.forall_mem_cons.1 hcs
    exact ih (h.call hc) hcs

theorem Serves.read (h : s.Serves i) :
    (s.call (.read i)).1 = .read .waiting ∨ ∃ r, (s.call (.read i)).1 = .read (.record r) := by
  obtain ⟨reader, hr, hattached⟩ := h
  simp only [Session.call, withReader_some hr, Session.read, Reader.read, hattached.fault?]
  cases (s.broker.partition reader.log).firstFrom reader.next with
  | none => exact .inl rfl
  | some e => exact .inr ⟨e.record, rfl⟩

end Session

/-! ## From the opening on -/

/-- The place in the history of a log where a reader starts that is opened now. -/
def StartPosition.place (history : List Record) : StartPosition → Nat
  | .earliest => 0
  | .latest => history.length

theorem StartPosition.place_le (start : StartPosition) (history : List Record) :
    start.place history ≤ history.length := by
  cases start with
  | earliest => exact Nat.zero_le _
  | latest => exact Nat.le_refl _

theorem Partition.Retains.offset_eq {p : Partition} {rs : List Record} (h : p.Retains rs)
    (start : StartPosition) : start.offset p = start.place rs := by
  cases start with
  | earliest => rfl
  | latest => exact h.next

namespace Session

theorem openReader_reads {s : Session} {log : String} {start : StartPosition} {i : Nat}
    {rs : List Record} (hopen : (s.call (.openReader log start)).1 = .opened i)
    (hretains : (s.broker.partition log).Retains rs) :
    (s.call (.openReader log start)).2.Reads i log (start.place rs) rs [] [] ∧
      (s.broker.readLimit = none → (s.call (.openReader log start)).2.Serves i) := by
  simp only [call, openReader] at hopen ⊢
  cases h : s.broker.openReader log start with
  | error e =>
    rw [h] at hopen
    cases hopen
  | ok res =>
    obtain ⟨r, b⟩ := res
    rw [h] at hopen
    cases hopen
    obtain ⟨hclosed, hreader, rfl⟩ := Broker.openReader_inv h
    have hplace : (s.readers ++ [some r])[s.readers.length]? = some (some r) :=
      List.getElem?_concat_length
    refine ⟨⟨hretains, some r, _, hplace, Partition.delivery_start (start.place_le rs), ?_⟩, ?_⟩
    · rintro r' ⟨⟩
      rw [hreader]
      exact ⟨rfl, hretains.offset_eq start⟩
    · intro hunlimited
      refine ⟨r, hplace, ?_⟩
      rw [hreader]
      exact ⟨rfl, hclosed, rfl, hunlimited⟩

/-- A reader delivers records of its log from the place on where it has started, each as it has been
appended, and in the order of the log. Whenever it has to wait, it has delivered the last record of
every key, if that stands no earlier. As long as nothing but appends, compactions and reads happens,
it always delivers a record or has to wait. -/
theorem reader_delivers_last_records {before after calls : List Call} {log : String}
    {start : StartPosition} {i : Nat}
    (hopen : ((({} : Session).run before).call (.openReader log start)).1 = .opened i)
    (hcalls : calls = before ++ .openReader log start :: after) :
    ∃ ps : List Nat, ps.Pairwise (· < ·) ∧ (∀ n ∈ ps, start.place (history log before) ≤ n) ∧
      ps.map ((history log calls)[·]?) =
        ((({} : Session).run (before ++ [.openReader log start])).collect (delivered i) after).map
          some ∧
      (((({} : Session).run calls).call (.read i)).1 = .read .waiting →
        ∀ n r, Partition.LastOfKey (history log calls) n r →
          start.place (history log before) ≤ n → n ∈ ps) ∧
      ((({} : Session).run before).broker.readLimit = none → (∀ c ∈ after, c.Plain) →
        ((({} : Session).run calls).call (.read i)).1 = .read .waiting ∨
          ∃ r, ((({} : Session).run calls).call (.read i)).1 = .read (.record r)) := by
  obtain ⟨hreads, hserves⟩ := openReader_reads hopen (retains_history log before)
  generalize hopened : ((({} : Session).run before).call (.openReader log start)).2 = opened
    at hreads hserves
  have hbefore : ({} : Session).run (before ++ [.openReader log start]) = opened := by
    rw [run_append, ← hopened]
    rfl
  have hrun : ({} : Session).run calls = opened.run after := by
    rw [hcalls, run_append, ← hopened]
    rfl
  have hhistory : history log calls =
      history log before ++ opened.collect (appended log) after := by
    have hnone : (({} : Session).run before).appended log (.openReader log start) = [] := by
      simp only [appended]
    rw [hcalls, history, collect_append, collect, hnone, hopened]
    rfl
  obtain ⟨ps, hreads'⟩ := hreads.run after
  rw [← hhistory] at hreads'
  obtain ⟨x, next, -, hdelivery, -⟩ := hreads'.delivery
  rw [hbefore, hrun]
  have hstart : ∀ n ∈ ps, start.place (history log before) ≤ n :=
    fun n hn => (hdelivery.between n hn).1
  refine ⟨ps, hdelivery.increasing, hstart, hdelivery.records, ?_, ?_⟩
  · intro hwaiting n r hlast hfirst
    exact hreads'.all hwaiting hlast hfirst
  · intro hunlimited hplain
    exact ((hserves hunlimited).run hplain).read

/-- A reader starts after two records. Compaction takes the next one away before it is read, and one
of the two, and an append wakes the reader. -/
def afterTwo : List Call :=
  [.broker (.append "l" ⟨"a", [0x32]⟩), .broker (.append "l" ⟨"a", [0x33]⟩),
    .broker (.compact "l"), .read 0, .readAround 0 (.append "l" ⟨"b", [0x34]⟩),
    .broker (.compact "l"), .broker (.append "m" ⟨"a", [0x35]⟩)]

/-- It delivers the two records that are left of the last three. -/
theorem reader_delivers_last_records_afterTwo :
    let two : List Call :=
      [.broker (.append "l" ⟨"a", [0x30]⟩), .broker (.append "l" ⟨"b", [0x31]⟩)]
    let calls := two ++ .openReader "l" .latest :: afterTwo
    ((({} : Session).run two).call (.openReader "l" .latest)).1 = .opened 0 ∧
      ((({} : Session).run two).broker.readLimit = none ∧ ∀ c ∈ afterTwo, c.Plain) ∧
      ((({} : Session).run calls).call (.read 0)).1 = .read .waiting ∧
      ∃ ps : List Nat, ps.Pairwise (· < ·) ∧ (∀ n ∈ ps, 2 ≤ n) ∧
        ps.map ((history "l" calls)[·]?) = [some ⟨"a", [0x33]⟩, some ⟨"b", [0x34]⟩] ∧
        (∀ n r, Partition.LastOfKey (history "l" calls) n r → 2 ≤ n → n ∈ ps) ∧
        (((({} : Session).run calls).call (.read 0)).1 = .read .waiting ∨
          ∃ r, ((({} : Session).run calls).call (.read 0)).1 = .read (.record r)) := by
  intro two calls
  have hopen : ((({} : Session).run two).call (.openReader "l" .latest)).1 = .opened 0 := rfl
  have hwaiting : ((({} : Session).run calls).call (.read 0)).1 = .read .waiting := by decide
  have hplain : ∀ c ∈ afterTwo, c.Plain := by
    simp [afterTwo, Call.Plain, BrokerCall.Plain]
  have hdelivered : (({} : Session).run (two ++ [.openReader "l" .latest])).collect (delivered 0)
      afterTwo = [⟨"a", [0x33]⟩, ⟨"b", [0x34]⟩] := by decide
  obtain ⟨ps, hincreasing, hstart, hrecords, hall, hread⟩ :=
    reader_delivers_last_records hopen (rfl : calls = two ++ .openReader "l" .latest :: afterTwo)
  rw [hdelivered] at hrecords
  exact ⟨hopen, ⟨rfl, hplain⟩, hwaiting, ps, hincreasing, hstart, hrecords, hall hwaiting,
    hread rfl hplain⟩

end Session

end ReplayRegistry
