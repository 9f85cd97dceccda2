import ReplayRegistry.Proofs.WaitingReads

/-!
# Proofs: readers that come late

A reader that looks at its log after every call finds at most one record at a time. One that looks
now and then finds the same records later, unless one of them is taken away before it looks, or the
reader is cut off. So a read that is given up and taken up again is behind one that has not been
given up, and catches up with it.
-/

namespace ReplayRegistry

/-! ## What is ahead of a reader -/

/-- The records that a reader has still to deliver. -/
def Reader.ahead (r : Reader) (b : Broker) : List Record := (b.partition r.log).ahead r.next

namespace Partition

variable {p p' : Partition} {new : List Record} {n : Nat}

theorem ahead_eq_nil (h : p.firstFrom n = none) : p.ahead n = [] := by
  have hnone := List.find?_eq_none.1 h
  exact List.map_eq_nil_iff.2 (List.filter_eq_nil_iff.2 hnone)

theorem Change.next_le (h : Change p new p') : p.next ≤ p'.next := by
  cases h with
  | keep => exact Nat.le_refl _
  | push x => exact Nat.le_succ _
  | compact => exact Nat.le_refl _

theorem Change.sound (h : Change p new p') (hp : p.Sound) : p'.Sound := by
  cases h with
  | keep => exact hp
  | push x => exact hp.push x
  | compact => exact hp.compact

theorem Change.length_le_one (h : Change p new p') : new.length ≤ 1 := by
  cases h <;> simp

/-- If none of the records ahead is taken away, they stay where they are, and what is appended
follows them. -/
theorem Change.ahead_eq (h : Change p new p') (hn : n ≤ p.next)
    (hspared : p.ahead n <+: p'.ahead n) : p'.ahead n = p.ahead n ++ new := by
  cases h with
  | keep => rw [List.append_nil]
  | push x => exact ahead_push hn x
  | compact =>
    rw [List.append_nil]
    exact (ahead_compact_sublist p n).antisymm hspared.sublist

end Partition

/-! ## Coming late -/

namespace Reader

/-- The reader `r` has delivered `n` more records than `r₀` had. -/
structure Since (r₀ r : Reader) (b : Broker) (n : Nat) : Prop where
  log : r.log = r₀.log
  generation : r.generation = r₀.generation
  released : r.released = r₀.released
  delivered : r.delivered = r₀.delivered + n
  place : r.next ≤ (b.partition r.log).next
  within : ∀ limit, b.readLimit = some limit → r.delivered ≤ limit

variable {r₀ r a : Reader} {b : Broker} {n : Nat} {c : BrokerCall}

theorem limit_of_dropped {log : String} {n : Nat}
    (h : (r.read b).1 = .failed (.readerDropped log n)) :
    ∃ limit, b.readLimit = some limit ∧ limit ≤ r.delivered := by
  have hfault : r.fault? b = some (.readerDropped log n) := by
    cases hfault : r.fault? b with
    | some e =>
      simp only [read, hfault] at h
      cases h
      rfl
    | none =>
      rw [read_of_none hfault] at h
      split at h <;> cases h
  unfold fault? at hfault
  split at hfault
  · cases hfault
  split at hfault
  · cases hfault
  split at hfault
  · rename_i hreached
    simpa [Option.any_eq_true] using hreached
  · cases hfault

/-- A read delivers the first record ahead, if nothing keeps the reader from it. -/
theorem read_cases (r : Reader) (b : Broker) (hsound : (b.partition r.log).Sound) :
    ((r.read b).1.records = [] ∧ (r.read b).2 = r ∧ (r.fault? b = none → r.ahead b = [])) ∨
      ∃ x r', r.read b = (.record x, r') ∧ r.fault? b = none ∧
        r.ahead b = x :: r'.ahead b ∧ r'.log = r.log ∧ r'.generation = r.generation ∧
        r'.released = r.released ∧ r'.delivered = r.delivered + 1 ∧
        r'.next ≤ (b.partition r.log).next := by
  cases hfault : r.fault? b with
  | some e =>
    have hread : r.read b = (.failed e, r) := by simp only [read, hfault]
    rw [hread]
    exact .inl ⟨rfl, rfl, fun h => by cases h⟩
  | none =>
    rw [read_of_none hfault]
    cases hfirst : (b.partition r.log).firstFrom r.next with
    | none => exact .inl ⟨rfl, rfl, fun _ => Partition.ahead_eq_nil hfirst⟩
    | some e =>
      obtain ⟨-, hmem, hahead, -⟩ := hsound.firstFrom_some hfirst
      have hbelow := hsound.below_next e hmem
      exact .inr ⟨e.record, _, rfl, rfl, hahead, rfl, rfl, rfl, rfl, hbelow⟩

theorem Since.read (h : Since r₀ r b n) (hsound : (b.partition r.log).Sound) :
    Since r₀ (r.read b).2 b (n + (r.read b).1.records.length) := by
  rcases read_cases r b hsound with ⟨hrecords, hreader, -⟩ |
    ⟨x, r', hread, hfault, -, hlog, hgeneration, hreleased, hdelivered, hplace⟩
  · rw [hrecords, hreader]
    exact h
  · rw [hread]
    have hlimit := (fault?_eq_none.1 hfault).2.2.2
    constructor
    · exact hlog.trans h.log
    · exact hgeneration.trans h.generation
    · exact hreleased.trans h.released
    · have := h.delivered
      show r'.delivered = r₀.delivered + (n + 1)
      omega
    · rw [hlog]
      exact hplace
    · intro limit heq
      have := hlimit limit heq
      show r'.delivered ≤ limit
      omega

theorem Since.call (h : Since r₀ r b n) (hc : c.KeepsLimit) : Since r₀ r (b.call c).2 n where
  log := h.log
  generation := h.generation
  released := h.released
  delivered := h.delivered
  place := Nat.le_trans h.place (b.call_change c r.log).next_le
  within := by
    rw [Broker.call_readLimit hc]
    exact h.within

/-- What keeps a reader from reading goes on to do so. -/
theorem fault?_of_call (hc : c.KeepsLimit) (hgeneration : r.generation ≤ b.generation)
    (h : r.fault? (b.call c).2 = none) : r.fault? b = none := by
  obtain ⟨hreleased, hclosed, hsame, hlimit⟩ := fault?_eq_none.1 h
  have hlater := b.call_later c
  rw [Broker.call_readLimit hc] at hlimit
  refine fault?_eq_none.2 ⟨hreleased, hlater.closed hclosed, ?_, hlimit⟩
  have hle := hlater.generation
  omega

/-- Nothing is ahead of a reader that can read. -/
def InTime (a : Reader) (b : Broker) : Prop := a.fault? b = none → a.ahead b = []

/-- From the place of `r₀` on, two readers have delivered the records `as` and `ds`. The second one
looks less often, but no record has been taken away that was still ahead of it. -/
structure Behind (r₀ a r : Reader) (b : Broker) (as ds : List Record) : Prop where
  sound : (b.partition r₀.log).Sound
  generation : r₀.generation ≤ b.generation
  prompt : Since r₀ a b as.length
  late : Since r₀ r b ds.length
  le : ds.length ≤ as.length
  among : as <+: ds ++ r.ahead b
  /-- While the first one can read, it misses nothing either. -/
  all : a.fault? b = none → as ++ a.ahead b = ds ++ r.ahead b

variable {as ds : List Record}

theorem Behind.delivered (h : Behind r₀ a r b as ds) : ds <+: as :=
  List.prefix_of_prefix_length_le (List.prefix_append _ _) h.among h.le

/-- A call adds the same record to what is ahead of both. -/
theorem Behind.call (h : Behind r₀ a r b as ds) (htime : a.InTime b) (hc : c.KeepsLimit)
    (hspared : r.ahead b <+: r.ahead (b.call c).2) :
    Behind r₀ a r (b.call c).2 as ds ∧
      (a.fault? (b.call c).2 = none → (a.ahead (b.call c).2).length ≤ 1) := by
  have hchange := b.call_change c r₀.log
  have hahead : ∀ {r' : Reader} {n : Nat}, Since r₀ r' b n → r'.ahead b <+: r'.ahead (b.call c).2 →
      r'.ahead (b.call c).2 = r'.ahead b ++ c.appended r₀.log (b.call c).1 := by
    intro r' n hsince hspared
    have hplace := hsince.place
    unfold ahead at hspared ⊢
    rw [hsince.log] at hspared hplace ⊢
    exact hchange.ahead_eq hplace hspared
  have hr := hahead h.late hspared
  have hbefore : a.fault? (b.call c).2 = none → a.fault? b = none := by
    refine fault?_of_call hc ?_
    rw [h.prompt.generation]
    exact h.generation
  have ha : a.fault? (b.call c).2 = none →
      a.ahead (b.call c).2 = c.appended r₀.log (b.call c).1 := by
    intro hfault
    have hnil := htime (hbefore hfault)
    rw [hahead h.prompt (by rw [hnil]; exact List.nil_prefix), hnil, List.nil_append]
  constructor
  · constructor
    · exact hchange.sound h.sound
    · exact Nat.le_trans h.generation (b.call_later c).generation
    · exact h.prompt.call hc
    · exact h.late.call hc
    · exact h.le
    · rw [hr, ← List.append_assoc]
      exact h.among.trans (List.prefix_append _ _)
    · intro hfault
      have hall := h.all (hbefore hfault)
      rw [htime (hbefore hfault), List.append_nil] at hall
      rw [ha hfault, hr, ← List.append_assoc, hall]
  · intro hfault
    rw [ha hfault]
    exact hchange.length_le_one

/-- The first reader looks after a call, and is in time again. -/
theorem Behind.prompt_look (h : Behind r₀ a r b as ds)
    (hnew : a.fault? b = none → (a.ahead b).length ≤ 1) :
    Behind r₀ (a.read b).2 r b (as ++ (a.read b).1.records) ds ∧ (a.read b).2.InTime b := by
  have hsound : (b.partition a.log).Sound := by
    rw [h.prompt.log]
    exact h.sound
  have hprompt := h.prompt.read hsound
  rw [← List.length_append] at hprompt
  rcases read_cases a b hsound with ⟨hrecords, hreader, htime⟩ | ⟨x, a', hread, hfault, hahead, -⟩
  · rw [hrecords, hreader, List.append_nil]
    exact ⟨h, htime⟩
  · have hall := h.all hfault
    have hlength := hnew hfault
    rw [hahead] at hall hlength
    have hnil : a'.ahead b = [] := List.eq_nil_of_length_eq_zero (by simpa using hlength)
    rw [hnil] at hall
    rw [hread] at hprompt ⊢
    refine ⟨⟨h.sound, h.generation, hprompt, h.late, ?_, ?_, ?_⟩, fun _ => hnil⟩
    · have hle := h.le
      rw [List.length_append]
      omega
    · refine ⟨[], ?_⟩
      rw [List.append_nil]
      exact hall
    · intro _
      show as ++ [x] ++ a'.ahead b = _
      rw [hnil, List.append_nil, hall]

/-- The second reader looks. What it finds, the first one has delivered. -/
theorem Behind.late_look (h : Behind r₀ a r b as ds) (htime : a.InTime b) :
    Behind r₀ a (r.read b).2 b as (ds ++ (r.read b).1.records) := by
  have hsound : (b.partition r.log).Sound := by
    rw [h.late.log]
    exact h.sound
  have hlate := h.late.read hsound
  rw [← List.length_append] at hlate
  rcases read_cases r b hsound with ⟨hrecords, hreader, -⟩ | ⟨x, r', hread, hfault, hahead, -⟩
  · rw [hrecords, hreader, List.append_nil]
    exact h
  · have hrest : ds ++ [x] ++ r'.ahead b = ds ++ r.ahead b := by
      rw [hahead, List.append_assoc]
      rfl
    have hle : ds.length + 1 ≤ as.length := by
      by_cases ha : a.fault? b = none
      · have hall := h.all ha
        rw [htime ha, List.append_nil, hahead] at hall
        rw [hall, List.length_append, List.length_cons]
        omega
      · -- the first one has been stopped, and the second has not: by the limit
        obtain ⟨hreleased, hclosed, hgeneration, hlimit⟩ := fault?_eq_none.1 hfault
        have hreached : ¬ ∀ limit, b.readLimit = some limit → a.delivered < limit := by
          intro hfree
          refine ha (fault?_eq_none.2 ⟨?_, hclosed, ?_, hfree⟩)
          · rw [h.prompt.released, ← h.late.released, hreleased]
          · rw [h.prompt.generation, ← h.late.generation, hgeneration]
        push Not at hreached
        obtain ⟨limit, heq, hreached⟩ := hreached
        have hfree := hlimit limit heq
        have hfirst := h.prompt.delivered
        have hsecond := h.late.delivered
        omega
    rw [hread] at hlate ⊢
    refine ⟨h.sound, h.generation, h.prompt, hlate, ?_, ?_, ?_⟩
    · show (ds ++ [x]).length ≤ as.length
      rw [List.length_append]
      exact hle
    · show as <+: ds ++ [x] ++ r'.ahead b
      rw [hrest]
      exact h.among
    · show _ → _ = ds ++ [x] ++ r'.ahead b
      rw [hrest]
      exact h.all

/-- If the second one finds nothing more, or may not deliver more, it has missed nothing. -/
theorem Behind.caughtUp (h : Behind r₀ a r b as ds)
    (hend : (r.read b).1 = .waiting ∨ ∃ n, (r.read b).1 = .failed (.readerDropped r.log n)) :
    ds = as := by
  refine h.delivered.eq_of_length_le ?_
  rcases hend with hwaiting | ⟨n, hfailed⟩
  · obtain ⟨-, hnone⟩ := read_eq_waiting.1 hwaiting
    have hnil : r.ahead b = [] := Partition.ahead_eq_nil hnone
    have hamong := h.among
    rw [hnil, List.append_nil] at hamong
    exact hamong.length_le
  · obtain ⟨limit, heq, hreached⟩ := limit_of_dropped hfailed
    have hwithin := h.prompt.within limit heq
    have hfirst := h.prompt.delivered
    have hsecond := h.late.delivered
    omega

end Reader

namespace Waiter

/-- No call takes a record away that the reader has still to deliver. -/
def Spares : Waiter → List Moment → Prop
  | _, [] => True
  | w, m :: ms =>
    (∀ c, m = .call c → w.reader.ahead w.broker <+: w.reader.ahead (w.broker.call c).2) ∧
      Spares (w.step m).2 ms

/-- Two that use the same broker. One looks after every call, and the other now and then. -/
structure Behind (r₀ : Reader) (v w : Waiter) (as ds : List Record) : Prop where
  broker : v.broker = w.broker
  readers : Reader.Behind r₀ v.reader w.reader w.broker as ds
  inTime : v.reader.InTime w.broker
  wakeful : v.read.Wakeful v.broker
  wakeful' : w.read.Wakeful w.broker

variable {r₀ : Reader} {v w : Waiter} {as ds : List Record}

theorem look_reader (h : w.read.Wakeful w.broker) :
    (w.step .look).1.flatMap ReadResult.records = (w.reader.read w.broker).1.records ∧
      (w.step .look).2.reader = (w.reader.read w.broker).2 := by
  obtain ⟨hresult, hreader, -⟩ := h.look
  refine ⟨?_, hreader⟩
  show [(w.read.look w.broker).result].flatMap ReadResult.records = _
  rw [hresult, List.flatMap_singleton]
  rfl

theorem Behind.call (h : Behind r₀ v w as ds) {c : BrokerCall} (hc : c.KeepsLimit)
    (hspared : w.reader.ahead w.broker <+: w.reader.ahead (w.broker.call c).2) :
    Behind r₀ ((v.step (.call c)).2.step .look).2 (w.step (.call c)).2
      (as ++ ((v.step (.call c)).2.step .look).1.flatMap ReadResult.records) ds := by
  have hwakeful : (v.step (.call c)).2.read.Wakeful (v.step (.call c)).2.broker := h.wakeful.call hc
  have hwakeful' := h.wakeful'.call hc
  obtain ⟨hrecords, hreader⟩ := look_reader hwakeful
  obtain ⟨b, p⟩ := v
  obtain rfl : b = w.broker := h.broker
  obtain ⟨hcall, hnew⟩ := h.readers.call h.inTime hc hspared
  obtain ⟨hlook, htime⟩ := hcall.prompt_look hnew
  rw [hrecords]
  refine ⟨rfl, ?_, ?_, hwakeful.look.2.2, hwakeful'⟩
  · rw [hreader]
    exact hlook
  · rw [hreader]
    exact htime

theorem Behind.look (h : Behind r₀ v w as ds) :
    Behind r₀ v (w.step .look).2 as (ds ++ (w.step .look).1.flatMap ReadResult.records) := by
  obtain ⟨hrecords, hreader⟩ := look_reader h.wakeful'
  rw [hrecords]
  refine ⟨h.broker, ?_, h.inTime, h.wakeful, h.wakeful'.look.2.2⟩
  rw [hreader]
  exact h.readers.late_look h.inTime

theorem Behind.giveUp (h : Behind r₀ v w as ds) : Behind r₀ v (w.step .giveUp).2 as ds :=
  ⟨h.broker, h.readers, h.inTime, h.wakeful, trivial⟩

theorem Behind.run (h : Behind r₀ v w as ds) {ms : List Moment} (hms : KeepLimit ms)
    (hspares : w.Spares ms) :
    Behind r₀ (v.run (Moment.promptly (Moment.calls ms))) (w.run ms)
      (as ++ v.deliveries (Moment.promptly (Moment.calls ms))) (ds ++ w.deliveries ms) := by
  induction ms generalizing v w as ds with
  | nil =>
    show Behind r₀ v w (as ++ []) (ds ++ [])
    rw [List.append_nil, List.append_nil]
    exact h
  | cons m ms ih =>
    obtain ⟨hm, hrest⟩ := keepLimit_cons.1 hms
    obtain ⟨hspared, hspares⟩ := hspares
    rw [deliveries_cons]
    cases m with
    | call c =>
      have h' := ih (h.call (hm c rfl) (hspared c rfl)) hrest hspares
      have hprompt : Moment.promptly (Moment.calls (.call c :: ms)) =
          .call c :: .look :: Moment.promptly (Moment.calls ms) := rfl
      rw [hprompt, deliveries_cons, deliveries_cons]
      rw [List.append_assoc] at h'
      exact h'
    | look =>
      rw [← List.append_assoc]
      exact ih h.look hrest hspares
    | giveUp => exact ih h.giveUp hrest hspares

end Waiter

/-! ## The readers of a session -/

namespace Session

/-- The place of every reader is one of its log. -/
def Placed (s : Session) : Prop :=
  ∀ (i : Nat) (r : Reader), s.readers[i]? = some (some r) →
    r.next ≤ (s.broker.partition r.log).next

variable {s : Session}

/-- A call opens a reader at a place of its log, or there are as many readers as before. -/
theorem call_readers (s : Session) (c : Call) :
    (∃ r, (s.call c).2.readers = s.readers ++ [some r] ∧
      r.next ≤ ((s.call c).2.broker.partition r.log).next) ∨
        (s.call c).2.readers.length = s.readers.length := by
  have hset : ∀ {i : Nat} {f : Reader → Answer × Session},
      (∀ r, ∃ x, (f r).2.readers = s.readers.set i x) →
        (s.withReader i f).2.readers.length = s.readers.length := by
    intro i f hf
    unfold withReader
    split
    · rename_i r _
      obtain ⟨x, hx⟩ := hf r
      rw [hx, List.length_set]
    · rfl
    · rfl
  cases c with
  | broker y => exact .inr rfl
  | openReader log start =>
    simp only [call, openReader]
    cases hopen : s.broker.openReader log start with
    | error e => exact .inr rfl
    | ok res =>
      obtain ⟨r, b⟩ := res
      obtain ⟨-, hr, hb⟩ := Broker.openReader_inv hopen
      refine .inl ⟨r, rfl, ?_⟩
      rw [hr, hb]
      cases start with
      | earliest => exact Nat.zero_le _
      | latest => exact Nat.le_refl _
  | read i => exact .inr (hset (s.read_readers i))
  | readAround i y => exact .inr (hset (s.readAround_readers i y))
  | closeReader i => exact .inr (hset fun r => ⟨_, rfl⟩)
  | dropReader i => exact .inr (hset fun r => ⟨_, rfl⟩)

theorem Placed.call (h : s.Placed) (hsound : ∀ log, (s.broker.partition log).Sound) (c : Call) :
    (s.call c).2.Placed := by
  intro i r hr
  have hnext : ∀ log, (s.broker.partition log).next ≤ ((s.call c).2.broker.partition log).next :=
    fun log => (s.call_change c log).next_le
  rcases Nat.lt_or_ge i s.readers.length with hold | hnew
  · obtain ⟨x', hx', hturn⟩ := call_turn (List.getElem?_eq_getElem hold) c
    obtain rfl : x' = some r := Option.some.inj (hx'.symm.trans hr)
    have hplaced : ∀ r', s.readers[i] = some r' → r'.next ≤ (s.broker.partition r'.log).next :=
      fun r' hr' => h i r' (List.getElem?_eq_some_iff.2 ⟨hold, hr'⟩)
    generalize s.readers[i] = x at hturn hplaced
    generalize s.delivered i c = ds at hturn
    cases hturn with
    | keep => exact Nat.le_trans (hplaced r rfl) (hnext r.log)
    | move c hmoves =>
      rename_i r'
      cases hmoves with
      | stay => exact Nat.le_trans (hplaced r rfl) (hnext r.log)
      | deliver e he =>
        have hsound' := (s.call_change c r'.log).sound (hsound r'.log)
        obtain ⟨-, hmem, -, -⟩ := hsound'.firstFrom_some he
        exact hsound'.below_next e hmem
    | close r' => exact Nat.le_trans (hplaced r' rfl) (hnext r'.log)
  · rcases s.call_readers c with ⟨r', hreaders, hplace⟩ | hlength
    · rw [hreaders, List.getElem?_append_right hnew, List.getElem?_singleton] at hr
      split at hr
      · cases hr
        exact hplace
      · cases hr
    · rw [List.getElem?_eq_none (by omega)] at hr
      cases hr

theorem placed_run (calls : List Call) : (({} : Session).run calls).Placed := by
  induction calls using List.reverseRecOn with
  | nil =>
    intro i r hr
    cases hr
  | append_singleton calls c ih =>
    have hsound : ∀ log, ((({} : Session).run calls).broker.partition log).Sound :=
      fun log => (retains_history log calls).sound
    rw [run_append]
    exact ih.call hsound c

/-- A read that has to wait sleeps as long as a new read would have to wait. The first call after
which a new read would answer wakes it, and it answers the same: the record that has just been
appended to its log, or that readers have been cut off, or that the broker has been closed. Giving
reads up changes no answer. A reader that comes late delivers what it would have delivered in time,
if no record is taken away that is still ahead of it, and until it is cut off. -/
theorem waiting_read_woken_and_given_up {calls : List Call} {i : Nat} {r : Reader}
    (hr : (({} : Session).run calls).readers[i]? = some (some r))
    (hwaiting : (r.read (({} : Session).run calls).broker).1 = .waiting) :
    let b := (({} : Session).run calls).broker
    let w : Waiter := ⟨b, .start r b⟩
    (∀ cs, (∀ c ∈ cs, c.KeepsLimit) →
      (∀ earlier, earlier <+: cs → (r.read (b.run earlier)).1 = .waiting) →
        w.run (Moment.promptly cs) = ⟨b.run cs, .asleep r (b.run cs).changes⟩ ∧
        ∀ c, c.KeepsLimit → (r.read (b.run (cs ++ [c]))).1 ≠ .waiting →
          (b.run (cs ++ [c])).changes ≠ (b.run cs).changes ∧
          r.Wakes c (r.read (b.run (cs ++ [c]))).1 ∧
          w.run (Moment.promptly (cs ++ [c])) =
            ⟨b.run (cs ++ [c]), .answered (r.read (b.run (cs ++ [c]))).1
              (r.read (b.run (cs ++ [c]))).2⟩) ∧
    ∀ ms, Waiter.KeepLimit ms →
      w.answers ms = w.answers (ms.filter (· ≠ .giveUp)) ∧
      (w.Spares ms →
        w.deliveries ms <+: w.deliveries (Moment.promptly (Moment.calls ms)) ∧
        let last := (w.run ms).reader.read (w.run ms).broker
        (last.1 = .waiting ∨ ∃ n, last.1 = .failed (.readerDropped r.log n)) →
          w.deliveries ms = w.deliveries (Moment.promptly (Moment.calls ms))) := by
  intro b w
  obtain ⟨hfault, hnone⟩ := Reader.read_eq_waiting.1 hwaiting
  obtain ⟨-, -, hgeneration, hlimit⟩ := Reader.fault?_eq_none.1 hfault
  have hsleeps : w.read = .asleep r b.changes := PendingRead.start_of_waiting hwaiting
  have hreader : w.reader = r := congrArg PendingRead.reader hsleeps
  have hwakeful : w.read.Wakeful b := PendingRead.start_wakeful r b
  refine ⟨?_, ?_⟩
  · intro cs hcs hasleep
    refine ⟨Waiter.run_promptly_asleep hcs hasleep, ?_⟩
    intro c hc hnow
    exact Waiter.run_promptly_answered hcs hasleep hc hnow
  · intro ms hms
    have halike : w.Alike w := ⟨rfl, rfl, hwakeful, hwakeful⟩
    refine ⟨halike.answers hms, ?_⟩
    intro hspares
    have hsince : Reader.Since r r b 0 :=
      ⟨rfl, rfl, rfl, rfl, placed_run calls i r hr,
        fun limit heq => Nat.le_of_lt (hlimit limit heq)⟩
    have hahead : r.ahead b = [] := Partition.ahead_eq_nil hnone
    have hstart : Waiter.Behind r w w [] [] := by
      refine ⟨rfl, ?_, ?_, hwakeful, hwakeful⟩
      · rw [hreader]
        exact ⟨(retains_history r.log calls).sound, Nat.le_of_eq hgeneration.symm, hsince, hsince,
          Nat.le_refl _, List.nil_prefix, fun _ => rfl⟩
      · rw [hreader]
        exact fun _ => hahead
    have hend := hstart.run hms hspares
    rw [List.nil_append, List.nil_append] at hend
    refine ⟨hend.readers.delivered, ?_⟩
    intro last hlast
    refine hend.readers.caughtUp ?_
    rw [hend.readers.late.log]
    exact hlast

/-- A session with a reader that has to wait. -/
def oneReader : Session := ({} : Session).run [.openReader "l" .earliest]

/-- The read is given up, and taken up again after two records have been appended. -/
def takenUp : List Moment :=
  [.call (.append "m" ⟨"a", [0x30]⟩), .look, .giveUp, .call (.append "l" ⟨"a", [0x31]⟩),
    .call (.append "l" ⟨"b", [0x32]⟩), .call (.compact "l"), .look, .look, .giveUp, .look]

/-- An append to another log does not end the wait, and one to its own does. A reader that has given
its read up meanwhile delivers both records. -/
theorem waiting_read_woken_and_given_up_takenUp :
    let r : Reader := ⟨"l", 0, 0, 0, false⟩
    let w : Waiter := ⟨oneReader.broker, .start r oneReader.broker⟩
    (oneReader.readers[0]? = some (some r) ∧ (r.read oneReader.broker).1 = .waiting) ∧
      w.run (Moment.promptly [.append "m" ⟨"a", [0x30]⟩, .append "l" ⟨"a", [0x31]⟩]) =
        ⟨oneReader.broker.run [.append "m" ⟨"a", [0x30]⟩, .append "l" ⟨"a", [0x31]⟩],
          .answered (.record ⟨"a", [0x31]⟩) ⟨"l", 0, 1, 1, false⟩⟩ ∧
      (Waiter.KeepLimit takenUp ∧ w.Spares takenUp) ∧
      w.deliveries takenUp = [⟨"a", [0x31]⟩, ⟨"b", [0x32]⟩] ∧
      w.deliveries takenUp = w.deliveries (Moment.promptly (Moment.calls takenUp)) := by
  intro r w
  have hr : oneReader.readers[0]? = some (some r) := rfl
  have hwaiting : (r.read oneReader.broker).1 = .waiting := by decide
  obtain ⟨hwoken, hlate⟩ := waiting_read_woken_and_given_up hr hwaiting
  have hkeeps : ∀ c ∈ [BrokerCall.append "m" ⟨"a", [0x30]⟩], c.KeepsLimit := by
    simp [BrokerCall.KeepsLimit]
  have hasleep : ∀ earlier, earlier <+: [BrokerCall.append "m" ⟨"a", [0x30]⟩] →
      (r.read (oneReader.broker.run earlier)).1 = .waiting := by
    intro earlier he
    rcases List.prefix_cons_iff.1 he with rfl | ⟨rest, rfl, hrest⟩
    · exact hwaiting
    · rw [List.prefix_nil.1 hrest]
      decide
  obtain ⟨-, hanswers⟩ := hwoken _ hkeeps hasleep
  obtain ⟨-, -, hrun⟩ := hanswers (.append "l" ⟨"a", [0x31]⟩) trivial (by decide)
  have hlimit : Waiter.KeepLimit takenUp := by
    simp [Waiter.KeepLimit, takenUp, BrokerCall.KeepsLimit]
  have hspares : w.Spares takenUp := by
    simp only [takenUp, Waiter.Spares, Moment.call.injEq, forall_eq', reduceCtorEq, false_imp_iff,
      implies_true, true_and, and_true]
    decide
  obtain ⟨-, hdelivered⟩ := hlate takenUp hlimit
  exact ⟨⟨hr, hwaiting⟩, hrun, ⟨hlimit, hspares⟩, by decide,
    (hdelivered hspares).2 (.inl (by decide))⟩

/-- The second of two records replaces the first one, and compaction takes that away. -/
def replaced : List BrokerCall :=
  [.append "l" ⟨"a", [0x31]⟩, .append "l" ⟨"a", [0x32]⟩, .compact "l"]

/-- A read that is given up, and taken up again after a compaction, does not deliver what a read
delivers that has not been given up. -/
theorem given_up_read_misses_replaced :
    let r : Reader := ⟨"l", 0, 0, 0, false⟩
    let w : Waiter := ⟨oneReader.broker, .start r oneReader.broker⟩
    oneReader.readers[0]? = some (some r) ∧ (r.read oneReader.broker).1 = .waiting ∧
      w.deliveries (Moment.promptly replaced) = [⟨"a", [0x31]⟩, ⟨"a", [0x32]⟩] ∧
      w.answers (.giveUp :: replaced.map .call ++ [.look, .look]) =
        [.record ⟨"a", [0x32]⟩, .waiting] := by
  decide

end Session

end ReplayRegistry
