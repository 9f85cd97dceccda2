import ReplayRegistry.Proofs.ReaderDelivery

/-!
# Proofs: readers of one log

A run of calls to a log service is compared with the run in which no other log than one takes a
record. Of what readers of this log are told, and of what is left in it, nothing changes: what the
logs have in common, their faults and the counts of cut-offs, does not depend on what they hold, and
a reader that is woken by a record of another log finds nothing and waits again.
-/

namespace ReplayRegistry

/-! ## Brokers -/

/-- Whether a call appends to another log or compacts one. -/
def BrokerCall.elsewhere (log : String) : BrokerCall → Bool
  | .append log' _ | .compact log' => log' ≠ log
  | _ => false

namespace Broker

/-- A broker `b'` is what is left of `b` if its other logs take no records. How many readers are
open, and how often readers have been woken, may be told apart. -/
structure Pared (log : String) (b b' : Broker) : Prop where
  held : b'.partitions.get? log = b.partitions.get? log
  others : ∀ log', log' ≠ log → b'.partitions.get? log' = none
  generation : b'.generation = b.generation
  failAppends : b'.failAppends = b.failAppends
  failOpens : b'.failOpens = b.failOpens
  readLimit : b'.readLimit = b.readLimit
  closed : b'.closed = b.closed

/-- Two states of a broker differ at most in the readers that it counts. -/
def Counted (b b₁ : Broker) : Prop :=
  ∃ n k, b₁ = { b with openReaders := n, openedTotal := k }

theorem Counted.refl (b : Broker) : b.Counted b := ⟨_, _, rfl⟩

theorem counted_release (r : Reader) (b : Broker) : b.Counted (r.release b).2 := by
  unfold Reader.release
  split
  · exact .refl b
  · exact ⟨_, _, rfl⟩

theorem counted_openReader {b b₁ : Broker} {log : String} {start : StartPosition} {r : Reader}
    (h : b.openReader log start = .ok (r, b₁)) : b.Counted b₁ := by
  unfold openReader at h
  split at h
  · cases h
  · split at h
    · cases h
    · cases h
      exact ⟨_, _, rfl⟩

variable {log : String} {b b' : Broker}

theorem pared_empty (log : String) : ({} : Broker).Pared log {} := by
  constructor
  case others => exact fun log' _ => KeyMap.get?_empty log'
  all_goals rfl

theorem Pared.partition (h : b.Pared log b') : b'.partition log = b.partition log := by
  rw [Broker.partition, h.held]
  rfl

theorem Pared.counted (h : b.Pared log b') {b₁ b₁' : Broker} (hb : b.Counted b₁)
    (hb' : b'.Counted b₁') : b₁.Pared log b₁' := by
  obtain ⟨n, k, rfl⟩ := hb
  obtain ⟨n', k', rfl⟩ := hb'
  exact ⟨h.held, h.others, h.generation, h.failAppends, h.failOpens, h.readLimit, h.closed⟩

theorem Pared.close (h : b.Pared log b') : b.close.Pared log b'.close :=
  ⟨h.held, h.others, h.generation, h.failAppends, h.failOpens, h.readLimit, rfl⟩

/-- What the brokers hold may change, and readers may be woken. -/
theorem Pared.partitions (h : b.Pared log b') {ps ps' : KeyMap Partition}
    (hheld : ps'.get? log = ps.get? log) (hothers : ∀ log', log' ≠ log → ps'.get? log' = none)
    (n n' : Nat) : Pared log { b with partitions := ps, changes := n }
      { b' with partitions := ps', changes := n' } :=
  ⟨hheld, hothers, h.generation, h.failAppends, h.failOpens, h.readLimit, h.closed⟩

/-- What another log holds does not show. -/
theorem Pared.insert_elsewhere (h : b.Pared log b') {log' : String} (hne : log' ≠ log)
    (p : Partition) (n : Nat) :
    Pared log { b with partitions := b.partitions.insert log' p, changes := n } b' := by
  refine h.partitions ?_ h.others n b'.changes
  rw [h.held, KeyMap.get?_insert, if_neg (Ne.symm hne)]

/-- The log may hold something else in both brokers. -/
theorem Pared.insert_here (h : b.Pared log b') (p : Partition) (n n' : Nat) :
    Pared log { b with partitions := b.partitions.insert log p, changes := n }
      { b' with partitions := b'.partitions.insert log p, changes := n' } := by
  refine h.partitions ?_ ?_ n n'
  · rw [KeyMap.get?_insert_self, KeyMap.get?_insert_self]
  · intro log' hne
    rw [KeyMap.get?_insert, if_neg hne]
    exact h.others log' hne

/-- A record that another log takes does not show. -/
theorem Pared.append_elsewhere (h : b.Pared log b') {log' : String} (hne : log' ≠ log) {r : Record}
    {b₁ : Broker} (happend : b.append log' r = .ok b₁) : b₁.Pared log b' := by
  unfold append at happend
  split at happend
  · cases happend
  · split at happend
    · cases happend
    · cases happend
      exact h.insert_elsewhere hne _ _

theorem append_of_taking {b : Broker} (hopen : ¬ b.closed) (htaking : ¬ b.failAppends)
    (log : String) (r : Record) : b.append log r =
      .ok { b with partitions := b.partitions.insert log ((b.partition log).push r) }.notify := by
  unfold append
  rw [if_neg hopen, if_neg htaking]

/-- Both brokers take a record of the log, or refuse it alike. -/
theorem Pared.append_here (h : b.Pared log b') (r : Record) :
    (∃ e, b.append log r = .error e ∧ b'.append log r = .error e) ∨
      ∃ b₁ b₁', b.append log r = .ok b₁ ∧ b'.append log r = .ok b₁' ∧ b₁.Pared log b₁' ∧
        b₁.changes = b.changes + 1 ∧ b₁'.changes = b'.changes + 1 := by
  by_cases hclosed : b.closed
  · exact .inl ⟨.closed, by simp [append, hclosed], by simp [append, h.closed, hclosed]⟩
  · by_cases hfail : b.failAppends
    · exact .inl ⟨.appendRejected log, by simp [append, hclosed, hfail],
        by simp [append, h.closed, h.failAppends, hclosed, hfail]⟩
    · have hok' := append_of_taking (b := b') (h.closed ▸ hclosed) (h.failAppends ▸ hfail) log r
      rw [h.partition] at hok'
      exact .inr ⟨_, _, append_of_taking hclosed hfail log r, hok', h.insert_here _ _ _, rfl, rfl⟩

theorem Pared.compact_elsewhere (h : b.Pared log b') {log' : String} (hne : log' ≠ log) :
    (b.compact log').2.Pared log b' := by
  unfold compact
  split
  · exact h
  · exact h.insert_elsewhere hne _ b.changes

theorem Pared.compact_here (h : b.Pared log b') :
    (b'.compact log).1 = (b.compact log).1 ∧ (b.compact log).2.Pared log (b'.compact log).2 := by
  unfold compact
  rw [h.held]
  cases b.partitions.get? log with
  | none => exact ⟨rfl, h⟩
  | some p => exact ⟨rfl, h.insert_here _ b.changes b'.changes⟩

theorem Pared.call_elsewhere (h : b.Pared log b') {c : BrokerCall} (hc : c.elsewhere log = true) :
    (b.call c).2.Pared log b' := by
  cases c with
  | append log' r =>
    have hne : log' ≠ log := of_decide_eq_true hc
    simp only [call]
    split
    · rename_i b₁ happend
      exact h.append_elsewhere hne happend
    · exact h
  | compact log' =>
    have hne : log' ≠ log := of_decide_eq_true hc
    exact h.compact_elsewhere hne
  | _ => cases hc

/-- A call that is not about another log has the same answer, and wakes the readers of both brokers
or of none. -/
theorem Pared.call_here (h : b.Pared log b') {c : BrokerCall} (hc : c.elsewhere log = false) :
    (b'.call c).1 = (b.call c).1 ∧ (b.call c).2.Pared log (b'.call c).2 ∧
      ((b'.call c).2.changes = b'.changes ↔ (b.call c).2.changes = b.changes) := by
  cases c with
  | append log' r =>
    obtain rfl : log' = log := by simpa [BrokerCall.elsewhere] using hc
    rcases h.append_here r with ⟨e, hfail, hfail'⟩ | ⟨b₁, b₁', hok, hok', hpared, hwake, hwake'⟩
    · simp only [call, hfail, hfail', true_and, iff_self, and_true]
      exact h
    · simp only [call, hok, hok', true_and, hwake, hwake']
      exact ⟨hpared, by omega⟩
  | compact log' =>
    obtain rfl : log' = log := by simpa [BrokerCall.elsewhere] using hc
    obtain ⟨hremoved, hpared⟩ := h.compact_here
    have hwake : ∀ b : Broker, (b.compact log').2.changes = b.changes := by
      intro b
      unfold compact
      split <;> rfl
    exact ⟨congrArg BrokerAnswer.removed hremoved, hpared,
      iff_of_true (hwake b') (hwake b)⟩
  | failAppends on =>
    exact ⟨rfl, ⟨h.held, h.others, h.generation, rfl, h.failOpens, h.readLimit, h.closed⟩,
      iff_of_true rfl rfl⟩
  | failOpens on =>
    exact ⟨rfl, ⟨h.held, h.others, h.generation, h.failAppends, rfl, h.readLimit, h.closed⟩,
      iff_of_true rfl rfl⟩
  | limitReads limit =>
    exact ⟨rfl, ⟨h.held, h.others, h.generation, h.failAppends, h.failOpens, rfl, h.closed⟩,
      iff_of_true rfl rfl⟩
  | disconnect =>
    have hgeneration : b'.generation + 1 = b.generation + 1 := by rw [h.generation]
    exact ⟨rfl, ⟨h.held, h.others, hgeneration, h.failAppends, h.failOpens, h.readLimit, h.closed⟩,
      iff_of_false (Nat.succ_ne_self _) (Nat.succ_ne_self _)⟩
  | close =>
    exact ⟨rfl, h.close, iff_of_false (Nat.succ_ne_self _) (Nat.succ_ne_self _)⟩

end Broker

/-! ## Readers -/

namespace Reader

/-- A reader `r'` is what has become of `r` where other logs than one take no records. -/
structure Pared (log : String) (r r' : Reader) : Prop where
  log_eq : r'.log = r.log
  same : r.log = log → r' = r
  generation : r'.generation = r.generation
  released : r'.released = r.released
  delivered : r'.delivered ≤ r.delivered

variable {log : String} {b b' : Broker} {r r' : Reader}

theorem pared_refl (log : String) (r : Reader) : r.Pared log r :=
  ⟨rfl, fun _ => rfl, rfl, rfl, Nat.le_refl _⟩

theorem Pared.release (h : r.Pared log r') (b b' : Broker) :
    (r.release b).1.Pared log (r'.release b').1 := by
  rw [release_reader, release_reader]
  refine ⟨h.log_eq, ?_, h.generation, rfl, h.delivered⟩
  intro hlog
  rw [h.same hlog]

/-- A reader of another log may deliver records where there are some. -/
theorem Pared.moves (h : r.Pared log r') (hne : r.log ≠ log) {ds : List Record} {r₁ : Reader}
    (hmoves : r.Moves b ds r₁) : r₁.Pared log r' := by
  cases hmoves with
  | stay => exact h
  | deliver e he =>
    exact ⟨h.log_eq, fun hlog => absurd hlog hne, h.generation, h.released,
      Nat.le_succ_of_le h.delivered⟩

/-- Readers of the log read the same. -/
theorem read_here (hb : b.Pared log b') (hlog : r.log = log) : r.read b' = r.read b := by
  unfold Reader.read Reader.fault?
  rw [hlog, hb.partition, hb.closed, hb.generation, hb.readLimit]

/-- A reader delivers nothing from a log that has taken no record. -/
theorem read_of_absent (h : b.partitions.get? r.log = none) :
    (∃ e, r.fault? b = some e ∧ r.read b = (.failed e, r)) ∨
      r.fault? b = none ∧ r.read b = (.waiting, r) := by
  have hempty : (b.partition r.log).firstFrom r.next = none := by
    rw [Broker.partition, h]
    rfl
  unfold Reader.read
  rw [hempty]
  cases r.fault? b with
  | none => exact .inr ⟨rfl, rfl⟩
  | some e => exact .inl ⟨e, rfl, rfl⟩

theorem read_of_absent_moves (h : b.partitions.get? r.log = none) {ds : List Record} {r₁ : Reader}
    (hmoves : r.Moves b ds r₁) : r₁ = r := by
  cases hmoves with
  | stay => rfl
  | deliver e he =>
    rw [Broker.partition, h] at he
    cases he

/-- Where a reader that has delivered more can read, one that has delivered less can. -/
theorem Pared.fault?_eq_none (h : r.Pared log r') (hb : b.Pared log b')
    (hfault : r.fault? b = none) : r'.fault? b' = none := by
  have hlimit : b.readLimit.any (· ≤ r'.delivered) → b.readLimit.any (· ≤ r.delivered) := by
    cases b.readLimit with
    | none => exact id
    | some limit =>
      simp only [Option.any_some, decide_eq_true_eq]
      exact fun hle => Nat.le_trans hle h.delivered
  unfold Reader.fault? at hfault ⊢
  rw [h.released, h.generation, hb.closed, hb.generation, hb.readLimit]
  split at hfault
  · cases hfault
  · rename_i hopen
    rw [if_neg hopen]
    split at hfault
    · cases hfault
    · rename_i hconnected
      rw [if_neg hconnected]
      split at hfault
      · cases hfault
      · rename_i hfar
        rw [if_neg fun hreached => hfar (hlimit hreached)]

/-- Where a reader of another log waits, it waits if the log has taken no record. -/
theorem Pared.waiting (h : r.Pared log r') (hb : b.Pared log b') (hne : r.log ≠ log)
    (hwaiting : (r.read b).1 = .waiting) : (r'.read b').1 = .waiting := by
  have hfault : r.fault? b = none := by
    unfold Reader.read at hwaiting
    split at hwaiting
    · cases hwaiting
    · assumption
  have habsent : b'.partitions.get? r'.log = none := hb.others _ (h.log_eq ▸ hne)
  rcases read_of_absent habsent with ⟨e, hfault', -⟩ | ⟨-, hread⟩
  · rw [h.fault?_eq_none hb hfault] at hfault'
    cases hfault'
  · rw [hread]

/-- What a read makes of the readers, and what it is told where they read the log. -/
theorem Pared.read (h : r.Pared log r') (hb : b.Pared log b') :
    (r.read b).2.Pared log (r'.read b').2 ∧ (r.log = log → (r'.read b').1 = (r.read b).1) := by
  by_cases hlog : r.log = log
  · rw [h.same hlog, read_here hb hlog]
    exact ⟨pared_refl log _, fun _ => rfl⟩
  · have habsent : b'.partitions.get? r'.log = none := hb.others _ (h.log_eq ▸ hlog)
    rw [read_of_absent_moves habsent (r'.read_moves b')]
    exact ⟨h.moves hlog (r.read_moves b), fun heq => absurd heq hlog⟩

end Reader

theorem Broker.openReader_of_serving {b : Broker} (hopen : ¬ b.closed) (hserving : ¬ b.failOpens)
    (log : String) (start : StartPosition) : ∃ next, b.openReader log start =
      .ok (⟨log, b.generation, next, 0, false⟩,
        { b with openReaders := b.openReaders + 1, openedTotal := b.openedTotal + 1 }) ∧
      next = match start with
        | .earliest => 0
        | .latest => (b.partition log).next := by
  unfold openReader
  rw [if_neg hopen, if_neg hserving]
  exact ⟨_, rfl, rfl⟩

/-- Both brokers open a reader, or refuse to alike. -/
theorem Broker.Pared.openReader {log : String} {b b' : Broker} (h : b.Pared log b')
    (log' : String) (start : StartPosition) :
    (∃ e, b.openReader log' start = .error e ∧ b'.openReader log' start = .error e) ∨
      ∃ r r' b₁ b₁', b.openReader log' start = .ok (r, b₁) ∧
        b'.openReader log' start = .ok (r', b₁') ∧ r.Pared log r' ∧ b₁.Pared log b₁' := by
  by_cases hclosed : b.closed
  · exact .inl ⟨.closed, by simp [Broker.openReader, hclosed],
      by simp [Broker.openReader, h.closed, hclosed]⟩
  · by_cases hfail : b.failOpens
    · exact .inl ⟨.openRejected log', by simp [Broker.openReader, hclosed, hfail],
        by simp [Broker.openReader, h.closed, h.failOpens, hclosed, hfail]⟩
    · obtain ⟨next, hok, hnext⟩ := openReader_of_serving hclosed hfail log' start
      obtain ⟨next', hok', hnext'⟩ := openReader_of_serving (b := b') (h.closed ▸ hclosed)
        (h.failOpens ▸ hfail) log' start
      refine .inr ⟨_, _, _, _, hok, hok', ?_, h.counted ⟨_, _, rfl⟩ ⟨_, _, rfl⟩⟩
      refine ⟨rfl, ?_, h.generation, rfl, Nat.le_refl _⟩
      rintro rfl
      rw [hnext, hnext', h.partition, h.generation]

/-! ## Reads that wait -/

namespace PendingRead

variable {log : String} {b b' : Broker} {r r' : Reader} {seen seen' : Nat}

theorem start_eq_asleep (h : start r b = .asleep r seen) :
    (r.read b).1 = .waiting ∧ seen = b.changes := by
  have hwaiting : (r.read b).1 = .waiting := by
    have hresult := (start_eq r b).1
    rw [h] at hresult
    exact hresult.symm
  rw [start_of_waiting hwaiting] at h
  cases h
  exact ⟨hwaiting, rfl⟩

/-- A read that sleeps goes on if it has been woken. -/
theorem poll_asleep (r : Reader) (seen : Nat) (b : Broker) :
    ((asleep r seen).poll b).result = (if b.changes = seen then .waiting else (r.read b).1) ∧
      ((asleep r seen).poll b).reader = if b.changes = seen then r else (r.read b).2 := by
  simp only [poll]
  split
  · exact ⟨rfl, rfl⟩
  · exact start_eq r b

/-- Reads that have been woken alike, or not at all. -/
theorem poll_pared (h : r.Pared log r') (hb : b.Pared log b')
    (hwoken : b'.changes = seen' ↔ b.changes = seen) :
    ((asleep r seen).poll b).reader.Pared log ((asleep r' seen').poll b').reader ∧
      (r.log = log → ((asleep r' seen').poll b').result = ((asleep r seen).poll b).result) := by
  obtain ⟨hresult, hreader⟩ := poll_asleep r seen b
  obtain ⟨hresult', hreader'⟩ := poll_asleep r' seen' b'
  rw [hresult, hreader, hresult', hreader']
  by_cases hsame : b.changes = seen
  · rw [if_pos hsame, if_pos hsame, if_pos (hwoken.2 hsame), if_pos (hwoken.2 hsame)]
    exact ⟨h, fun _ => rfl⟩
  · rw [if_neg hsame, if_neg hsame, if_neg (mt hwoken.1 hsame), if_neg (mt hwoken.1 hsame)]
    exact h.read hb

/-- A read that waits for a record of the log, and is woken by a record of another, waits again with
the reader as it was. -/
theorem poll_elsewhere (hb : b.Pared log b') (hlog : r.log = log)
    (hwaiting : (r.read b).1 = .waiting) {c : BrokerCall} (hc : c.elsewhere log = true) :
    (asleep r b.changes).poll (b.call c).2 = .asleep r (b.call c).2.changes := by
  have hread : r.read (b.call c).2 = r.read b := by
    rw [← Reader.read_here hb hlog, ← Reader.read_here (hb.call_elsewhere hc) hlog]
  simp only [poll]
  split
  · rename_i hsame
    rw [hsame]
  · exact start_of_waiting (hread ▸ hwaiting)

/-- What comes of a read during which a call about another log is made comes of a plain read where
this call is taken out. -/
theorem poll_pared_read (h : r.Pared log r') (hb : b.Pared log b')
    (hwaiting : (r.read b).1 = .waiting) {c : BrokerCall} (hc : c.elsewhere log = true) :
    ((asleep r b.changes).poll (b.call c).2).reader.Pared log (r'.read b').2 ∧
      (r.log = log →
        (r'.read b').1 = ((asleep r b.changes).poll (b.call c).2).result) := by
  obtain ⟨-, hresult⟩ := h.read hb
  by_cases hlog : r.log = log
  · have hwaiting' : (r'.read b').1 = .waiting := by rw [hresult hlog, hwaiting]
    rw [poll_elsewhere hb hlog hwaiting hc, Reader.read_waiting hwaiting']
    exact ⟨h, fun _ => hwaiting'⟩
  · have habsent : b'.partitions.get? r'.log = none := hb.others _ (h.log_eq ▸ hlog)
    rw [Reader.read_of_absent_moves habsent (r'.read_moves b')]
    exact ⟨h.moves hlog (poll_moves r b.changes (b.call c).2), fun heq => absurd heq hlog⟩

end PendingRead

/-! ## Sessions -/

namespace Session

/-- Whether a read of the reader `i` has to wait. -/
def waits (s : Session) (i : Nat) : Bool :=
  match s.readers[i]? with
  | some (some r) => (r.read s.broker).1 = .waiting
  | _ => false

/-- Whether the reader `i` is there and reads another log. -/
def readsOther (log : String) (s : Session) (i : Nat) : Bool :=
  match s.readers[i]? with
  | some (some r) => r.log ≠ log
  | _ => false

/-- What stays of a call when the calls about other logs are taken out. Of a read during which a
call is made only the read stays, if this call is taken out, or if it has not been made because the
read did not have to wait. -/
def keptCall (log : String) (s : Session) : Call → Option Call
  | .broker c => if c.elsewhere log then none else some (.broker c)
  | .readAround i c =>
    if s.waits i ∧ c.elsewhere log = false then some (.readAround i c) else some (.read i)
  | c => some c

/-- What callers are told who do not use other logs: the answer of a call that is not about another
log, and what became of a read, if the reader does not read another log. -/
def told (log : String) (s : Session) (c : Call) : List Answer :=
  match c, (s.call c).1 with
  | .broker c, a => if c.elsewhere log then [] else [a]
  | .read i, a => if s.readsOther log i then [] else [a]
  | .readAround i c, .readAround a result =>
    (if c.elsewhere log then [] else a.toList.map .broker) ++
      if s.readsOther log i then [] else [.read result]
  | _, a => [a]

/-- A session `s'` is what is left of `s` if other logs than one take no records. -/
structure Pared (log : String) (s s' : Session) : Prop where
  broker : s.broker.Pared log s'.broker
  length : s'.readers.length = s.readers.length
  readers : ∀ (i : Nat) x, s.readers[i]? = some x →
    ∃ x', s'.readers[i]? = some x' ∧ Option.Rel (Reader.Pared log) x x'

variable {log : String} {s s' : Session} {i : Nat}

theorem pared_empty (log : String) : ({} : Session).Pared log {} where
  broker := Broker.pared_empty log
  length := rfl
  readers _ _ h := by cases h

theorem Pared.reader (h : s.Pared log s') {r : Reader} (hr : s.readers[i]? = some (some r)) :
    ∃ r', s'.readers[i]? = some (some r') ∧ r.Pared log r' := by
  obtain ⟨x', hx', hrel⟩ := h.readers i _ hr
  cases hrel with
  | some hpared => exact ⟨_, hx', hpared⟩

theorem Pared.dropped (h : s.Pared log s') (hr : s.readers[i]? = some none) :
    s'.readers[i]? = some none := by
  obtain ⟨x', hx', hrel⟩ := h.readers i _ hr
  cases hrel
  exact hx'

theorem Pared.absent (h : s.Pared log s') (hr : s.readers[i]? = none) :
    s'.readers[i]? = none := by
  rw [List.getElem?_eq_none_iff] at hr ⊢
  rw [h.length]
  exact hr

/-- The broker and one reader go on. -/
theorem Pared.set (h : s.Pared log s') {b b' : Broker} (hb : b.Pared log b') (i : Nat)
    {x x' : Option Reader} (hx : Option.Rel (Reader.Pared log) x x') :
    Pared log ⟨b, s.readers.set i x⟩ ⟨b', s'.readers.set i x'⟩ where
  broker := hb
  length := by rw [List.length_set, List.length_set, h.length]
  readers j y hy := by
    by_cases hij : i = j
    · subst hij
      have hi : i < s.readers.length := by
        rw [← List.length_set]
        exact (List.getElem?_eq_some_iff.1 hy).1
      rw [List.getElem?_set_self hi] at hy
      cases hy
      exact ⟨x', List.getElem?_set_self (h.length ▸ hi), hx⟩
    · rw [List.getElem?_set_ne hij] at hy ⊢
      exact h.readers j y hy

theorem Pared.openReader (h : s.Pared log s') (log' : String) (start : StartPosition) :
    (s.openReader log' start).2.Pared log (s'.openReader log' start).2 ∧
      (s'.openReader log' start).1 = (s.openReader log' start).1 := by
  unfold Session.openReader
  rcases h.broker.openReader log' start with ⟨e, hfail, hfail'⟩ | ⟨r, r', b, b', hok, hok', hr, hb⟩
  · rw [hfail, hfail']
    exact ⟨h, rfl⟩
  · rw [hok, hok', h.length]
    refine ⟨⟨hb, by simp [h.length], ?_⟩, rfl⟩
    intro i x hx
    rcases Nat.lt_or_ge i s.readers.length with hi | hi
    · rw [List.getElem?_append_left hi] at hx
      rw [List.getElem?_append_left (h.length ▸ hi)]
      exact h.readers i x hx
    · rw [List.getElem?_append_right hi] at hx
      rw [List.getElem?_append_right (h.length ▸ hi), h.length]
      obtain ⟨hzero, rfl⟩ := List.getElem?_eq_some_iff.1 hx
      have hi : i - s.readers.length = 0 := Nat.lt_one_iff.1 hzero
      simp only [hi]
      exact ⟨some r', rfl, .some hr⟩

/-! ## Reads during which a call is made -/

theorem readAround_of_waiting {r : Reader} (h : (r.read s.broker).1 = .waiting) (i : Nat)
    (c : BrokerCall) :
    s.readAround i r c =
      let b := (s.broker.call c).2
      let p := (PendingRead.asleep r s.broker.changes).poll b
      (.readAround (some (s.broker.call c).1) p.result, ⟨b, s.readers.set i (some p.reader)⟩) := by
  unfold readAround
  rw [PendingRead.start_of_waiting h]
  rfl

theorem readAround_of_answered {r : Reader} (h : (r.read s.broker).1 ≠ .waiting) (i : Nat)
    (c : BrokerCall) :
    s.readAround i r c =
      (.readAround none (r.read s.broker).1, s.setReader i (r.read s.broker).2) := by
  unfold readAround
  rw [PendingRead.start_of_answered h]

theorem waits_iff {r : Reader} (hr : s.readers[i]? = some (some r)) :
    s.waits i ↔ (r.read s.broker).1 = .waiting := by
  simp [waits, hr]

/-- What is told of a read, if the reader does not read another log. -/
def toldOf (log : String) (r : Reader) (result : ReadResult) : List Answer :=
  if r.log = log then [.read result] else []

theorem told_read {r : Reader} (hr : s.readers[i]? = some (some r)) :
    s.told log (.read i) = toldOf log r (r.read s.broker).1 := by
  have hcall : s.call (.read i) = s.read i r := withReader_some hr _
  simp only [told, hcall, readsOther, hr, toldOf, Session.read]
  by_cases hlog : r.log = log <;> simp [hlog]

theorem told_readAround {r : Reader} (hr : s.readers[i]? = some (some r)) {c : BrokerCall}
    {a : Option BrokerAnswer} {result : ReadResult} {s₁ : Session}
    (h : s.readAround i r c = (.readAround a result, s₁)) :
    s.told log (.readAround i c) =
      (if c.elsewhere log then [] else a.toList.map .broker) ++ toldOf log r result := by
  have hcall : s.call (.readAround i c) = s.readAround i r c := withReader_some hr _
  simp only [told, hcall, h, readsOther, hr, toldOf]
  by_cases hlog : r.log = log <;> simp [hlog]

theorem toldOf_congr {r r' : Reader} (h : r.Pared log r') {result result' : ReadResult}
    (hresult : r.log = log → result' = result) : toldOf log r' result' = toldOf log r result := by
  unfold toldOf
  rw [h.log_eq]
  split
  · rename_i hlog
    rw [hresult hlog]
  · rfl

/-- A read during which a call is made that is not about another log. -/
theorem Pared.readAround_here (h : s.Pared log s') {r r' : Reader}
    (hr : s.readers[i]? = some (some r)) (hr' : s'.readers[i]? = some (some r'))
    (hpared : r.Pared log r') (hwaiting : (r.read s.broker).1 = .waiting) {c : BrokerCall}
    (hc : c.elsewhere log = false) :
    (s.readAround i r c).2.Pared log (s'.readAround i r' c).2 ∧
      s'.told log (.readAround i c) = s.told log (.readAround i c) := by
  obtain ⟨hanswer, hbroker, hwoken⟩ := h.broker.call_here hc
  have hwaiting' : (r'.read s'.broker).1 = .waiting := by
    by_cases hlog : r.log = log
    · rw [(hpared.read h.broker).2 hlog, hwaiting]
    · exact hpared.waiting h.broker hlog hwaiting
  obtain ⟨hreader, hresult⟩ := PendingRead.poll_pared hpared hbroker hwoken
  have hf := readAround_of_waiting hwaiting i c
  have hg := readAround_of_waiting hwaiting' i c
  rw [told_readAround hr hf, told_readAround hr' hg, hf, hg, hanswer, toldOf_congr hpared hresult]
  exact ⟨h.set hbroker i (.some hreader), rfl⟩

/-- A read during which a call about another log is made comes to a read. -/
theorem Pared.readAround_elsewhere (h : s.Pared log s') {r r' : Reader}
    (hr : s.readers[i]? = some (some r)) (hr' : s'.readers[i]? = some (some r'))
    (hpared : r.Pared log r') (hwaiting : (r.read s.broker).1 = .waiting) {c : BrokerCall}
    (hc : c.elsewhere log = true) :
    (s.readAround i r c).2.Pared log (s'.read i r').2 ∧
      s'.told log (.read i) = s.told log (.readAround i c) := by
  obtain ⟨hreader, hresult⟩ := PendingRead.poll_pared_read hpared h.broker hwaiting hc
  have hf := readAround_of_waiting hwaiting i c
  rw [told_readAround hr hf, told_read hr', hf, if_pos hc, List.nil_append]
  exact ⟨h.set (h.broker.call_elsewhere hc) i (.some hreader), toldOf_congr hpared hresult⟩

/-- A read that does not have to wait comes to a read, whatever call was to be made. -/
theorem Pared.readAround_answered (h : s.Pared log s') {r r' : Reader}
    (hr : s.readers[i]? = some (some r)) (hr' : s'.readers[i]? = some (some r'))
    (hpared : r.Pared log r') (hanswered : (r.read s.broker).1 ≠ .waiting) (c : BrokerCall) :
    (s.readAround i r c).2.Pared log (s'.read i r').2 ∧
      s'.told log (.read i) = s.told log (.readAround i c) := by
  obtain ⟨hreader, hresult⟩ := hpared.read h.broker
  have hf := readAround_of_answered hanswered i c
  rw [told_readAround hr hf, told_read hr', hf, toldOf_congr hpared hresult]
  refine ⟨h.set h.broker i (.some hreader), ?_⟩
  simp

/-! ## Calls -/

/-- What is done with a reader that has been dropped, or is not there, is refused alike. -/
theorem Pared.withReader (h : s.Pared log s') {f f' : Reader → Answer × Session}
    (hf : ∀ r r', s.readers[i]? = some (some r) → s'.readers[i]? = some (some r') →
      r.Pared log r' → (f r).2.Pared log (f' r').2) :
    (s.withReader i f).2.Pared log (s'.withReader i f').2 := by
  cases hr : s.readers[i]? with
  | none =>
    simp only [Session.withReader, hr, h.absent hr]
    exact h
  | some x =>
    cases x with
    | none =>
      rw [withReader_dropped hr, withReader_dropped (h.dropped hr)]
      exact h
    | some r =>
      obtain ⟨r', hr', hpared⟩ := h.reader hr
      rw [withReader_some hr, withReader_some hr']
      exact hf r r' hr hr' hpared

theorem Pared.withReader_answer (h : s.Pared log s') {a : Answer} {f f' : Reader → Answer × Session}
    (hf : ∀ r, (f r).1 = a) (hf' : ∀ r, (f' r).1 = a) :
    (s'.withReader i f').1 = (s.withReader i f).1 := by
  cases hr : s.readers[i]? with
  | none => simp only [Session.withReader, hr, h.absent hr]
  | some x =>
    cases x with
    | none => rw [withReader_dropped hr, withReader_dropped (h.dropped hr)]
    | some r =>
      obtain ⟨r', hr', -⟩ := h.reader hr
      rw [withReader_some hr, withReader_some hr', hf, hf']

/-- A call that is taken out does not show. -/
theorem Pared.call_dropped (h : s.Pared log s') {c : Call} (hkept : s.keptCall log c = none) :
    (s.call c).2.Pared log s' ∧ s.told log c = [] := by
  cases c with
  | broker c =>
    by_cases hc : c.elsewhere log = true
    · refine ⟨⟨h.broker.call_elsewhere hc, h.length, h.readers⟩, ?_⟩
      simp only [told, if_pos hc]
    · simp [keptCall, hc] at hkept
  | readAround i c =>
    simp only [keptCall] at hkept
    split at hkept <;> simp at hkept
  | _ => simp [keptCall] at hkept

theorem Pared.read (h : s.Pared log s') (i : Nat) :
    (s.call (.read i)).2.Pared log (s'.call (.read i)).2 ∧
      s'.told log (.read i) = s.told log (.read i) := by
  refine ⟨h.withReader fun r r' _ _ hpared => h.set h.broker i (.some (hpared.read h.broker).1), ?_⟩
  cases hr : s.readers[i]? with
  | none => simp [told, readsOther, Session.call, Session.withReader, hr, h.absent hr]
  | some x =>
    cases x with
    | none => simp [told, readsOther, Session.call, Session.withReader, hr, h.dropped hr]
    | some r =>
      obtain ⟨r', hr', hpared⟩ := h.reader hr
      rw [told_read hr, told_read hr']
      exact toldOf_congr hpared (hpared.read h.broker).2

theorem Pared.readAround (h : s.Pared log s') (i : Nat) (c : BrokerCall) {c' : Call}
    (hkept : s.keptCall log (.readAround i c) = some c') :
    (s.call (.readAround i c)).2.Pared log (s'.call c').2 ∧
      s'.told log c' = s.told log (.readAround i c) := by
  cases hr : s.readers[i]? with
  | none =>
    obtain rfl : Call.read i = c' := by simpa [keptCall, waits, hr] using hkept
    have hr' := h.absent hr
    simp only [told, Session.call, Session.withReader, hr, hr', readsOther]
    exact ⟨h, rfl⟩
  | some x =>
    cases x with
    | none =>
      obtain rfl : Call.read i = c' := by simpa [keptCall, waits, hr] using hkept
      have hr' := h.dropped hr
      simp only [told, Session.call, Session.withReader, hr, hr', readsOther]
      exact ⟨h, rfl⟩
    | some r =>
      obtain ⟨r', hr', hpared⟩ := h.reader hr
      have hcall : s.call (.readAround i c) = s.readAround i r c := withReader_some hr _
      have hcall' : s'.call (.readAround i c) = s'.readAround i r' c := withReader_some hr' _
      have hread' : s'.call (.read i) = s'.read i r' := withReader_some hr' _
      rw [hcall]
      by_cases hwaiting : (r.read s.broker).1 = .waiting
      · by_cases hc : c.elsewhere log = true
        · obtain rfl : Call.read i = c' := by simpa [keptCall, hc] using hkept
          rw [hread']
          exact h.readAround_elsewhere hr hr' hpared hwaiting hc
        · rw [Bool.not_eq_true] at hc
          obtain rfl : Call.readAround i c = c' := by
            simpa [keptCall, hc, (waits_iff hr).2 hwaiting] using hkept
          rw [hcall']
          exact h.readAround_here hr hr' hpared hwaiting hc
      · obtain rfl : Call.read i = c' := by
          simpa [keptCall, (waits_iff hr).not.2 hwaiting] using hkept
        rw [hread']
        exact h.readAround_answered hr hr' hpared hwaiting c

/-- What stays of a call does what the call does, as far as the log is concerned. -/
theorem Pared.call_kept (h : s.Pared log s') {c c' : Call} (hkept : s.keptCall log c = some c') :
    (s.call c).2.Pared log (s'.call c').2 ∧ s'.told log c' = s.told log c := by
  cases c with
  | broker c =>
    by_cases hc : c.elsewhere log = true
    · simp [keptCall, hc] at hkept
    · obtain rfl : Call.broker c = c' := by simpa [keptCall, hc] using hkept
      obtain ⟨hanswer, hbroker, -⟩ := h.broker.call_here (Bool.eq_false_iff.2 hc)
      refine ⟨⟨hbroker, h.length, h.readers⟩, ?_⟩
      simp only [told, Session.call, brokerCall, hanswer]
  | openReader log' start =>
    obtain rfl := Option.some.inj hkept
    obtain ⟨hpared, hanswer⟩ := h.openReader log' start
    refine ⟨hpared, ?_⟩
    simp only [told, Session.call, hanswer]
  | read i =>
    obtain rfl := Option.some.inj hkept
    exact h.read i
  | readAround i c => exact h.readAround i c hkept
  | closeReader i =>
    obtain rfl := Option.some.inj hkept
    constructor
    · refine h.withReader fun r r' _ _ hpared => ?_
      exact h.set (h.broker.counted (Broker.counted_release r _) (Broker.counted_release r' _)) i
        (.some (hpared.release _ _))
    · have hanswer : (s'.call (.closeReader i)).1 = (s.call (.closeReader i)).1 :=
        h.withReader_answer (fun _ => rfl) fun _ => rfl
      simp only [told, hanswer]
  | dropReader i =>
    obtain rfl := Option.some.inj hkept
    constructor
    · refine h.withReader fun r r' _ _ _ => ?_
      exact h.set (h.broker.counted (Broker.counted_release r _) (Broker.counted_release r' _)) i
        .none
    · have hanswer : (s'.call (.dropReader i)).1 = (s.call (.dropReader i)).1 :=
        h.withReader_answer (fun _ => rfl) fun _ => rfl
      simp only [told, hanswer]

end Session

end ReplayRegistry
