import Mathlib.Data.List.Induction
import ReplayRegistry.Proofs.ReaderDelivery

/-!
# Proofs: reads that wait

A read that has to wait sleeps until the broker's count of changes has moved on. The count moves
with everything that could end the wait, so the read is woken by the first call that lets a new read
answer, and answers the same. A read can be given up while it sleeps: what a reader answers depends
on the moments at which it looks at the log, and not on the reads that these looks belong to.
-/

namespace ReplayRegistry

/-! ## One call, seen by a reader -/

/-- A call that does not change how many records a reader may deliver. -/
def BrokerCall.KeepsLimit : BrokerCall → Prop
  | .limitReads _ => False
  | _ => True

/-- The calls that end the wait of a reader, each with what the reader then answers. -/
inductive Reader.Wakes (r : Reader) : BrokerCall → ReadResult → Prop
  | append (x : Record) : Wakes r (.append r.log x) (.record x)
  | disconnect : Wakes r .disconnect (.failed (.connectionLost r.log))
  | close : Wakes r .close (.failed .closed)

namespace Partition

variable {p : Partition} {n : Nat}

theorem firstFrom_push_of_none (h : p.firstFrom n = none) (x : Record) :
    (p.push x).firstFrom n = if n ≤ p.next then some ⟨p.next, x⟩ else none := by
  have hold : p.entries.find? (fun e => n ≤ e.offset) = none := h
  simp only [firstFrom, push, List.find?_append, hold, List.find?_singleton, Option.none_or,
    decide_eq_true_eq]

theorem firstFrom_compact_of_none (h : p.firstFrom n = none) : p.compact.firstFrom n = none := by
  refine List.find?_eq_none.2 ?_
  intro e he
  exact List.find?_eq_none.1 h e ((compact_sublist p).subset he)

end Partition

namespace Broker

theorem append_inv {b b' : Broker} {log : String} {x : Record} (h : b.append log x = .ok b') :
    b.closed = false ∧
      b' = { b with
        partitions := b.partitions.insert log ((b.partition log).push x)
        changes := b.changes + 1 } := by
  unfold append at h
  split at h
  · cases h
  · rename_i hopen
    split at h
    · cases h
    · cases h
      exact ⟨by simpa using hopen, rfl⟩

/-- The broker `b'` comes later than `b`: it has counted no less, and it is not open again. -/
structure Later (b b' : Broker) : Prop where
  changes : b.changes ≤ b'.changes
  generation : b.generation ≤ b'.generation
  closed : b'.closed = false → b.closed = false

theorem Later.refl (b : Broker) : b.Later b := ⟨Nat.le_refl _, Nat.le_refl _, id⟩

theorem Later.trans {b b₁ b₂ : Broker} (h : b.Later b₁) (h' : b₁.Later b₂) : b.Later b₂ where
  changes := Nat.le_trans h.changes h'.changes
  generation := Nat.le_trans h.generation h'.generation
  closed hopen := h.closed (h'.closed hopen)

theorem append_later {b b' : Broker} {log : String} {x : Record} (h : b.append log x = .ok b') :
    b.Later b' := by
  obtain ⟨-, rfl⟩ := append_inv h
  exact ⟨Nat.le_succ _, Nat.le_refl _, id⟩

theorem later_close (b : Broker) : b.Later b.close :=
  ⟨Nat.le_succ _, Nat.le_refl _, fun h => by cases h⟩

theorem call_later (b : Broker) (c : BrokerCall) : b.Later (b.call c).2 := by
  cases c with
  | append log x =>
    simp only [call]
    cases h : b.append log x with
    | error e => exact .refl b
    | ok b' => exact append_later h
  | compact log =>
    simp only [call, compact]
    split <;> exact ⟨Nat.le_refl _, Nat.le_refl _, id⟩
  | disconnect => exact ⟨Nat.le_succ _, Nat.le_succ _, id⟩
  | close => exact b.later_close
  | _ => exact ⟨Nat.le_refl _, Nat.le_refl _, id⟩

theorem call_readLimit {b : Broker} {c : BrokerCall} (hc : c.KeepsLimit) :
    (b.call c).2.readLimit = b.readLimit := by
  cases c with
  | append log x =>
    simp only [call]
    cases h : b.append log x with
    | error e => rfl
    | ok b' =>
      obtain ⟨-, rfl⟩ := append_inv h
      rfl
  | compact log =>
    simp only [call, compact]
    split <;> rfl
  | limitReads limit => cases hc
  | _ => rfl

/-- Carry out calls. -/
def run (b : Broker) (cs : List BrokerCall) : Broker := cs.foldl (fun b c => (b.call c).2) b

theorem run_concat (b : Broker) (cs : List BrokerCall) (c : BrokerCall) :
    b.run (cs ++ [c]) = ((b.run cs).call c).2 := by
  simp [run]

end Broker

namespace Reader

variable {r : Reader} {b : Broker}

theorem fault?_eq_none :
    r.fault? b = none ↔ r.released = false ∧ b.closed = false ∧ b.generation = r.generation ∧
      ∀ limit, b.readLimit = some limit → r.delivered < limit := by
  unfold fault?
  constructor
  · intro h
    split at h
    · cases h
    rename_i hopen
    split at h
    · cases h
    rename_i hgeneration
    split at h
    · cases h
    rename_i hlimit
    simp only [Bool.or_eq_true, not_or, Bool.not_eq_true] at hopen
    refine ⟨hopen.1, hopen.2, not_not.1 hgeneration, ?_⟩
    intro limit heq
    simpa [heq] using hlimit
  · rintro ⟨hreleased, hclosed, hgeneration, hlimit⟩
    have hfree : ¬ b.readLimit.any (· ≤ r.delivered) = true := by
      cases heq : b.readLimit with
      | none => simp
      | some limit => simpa using hlimit limit heq
    simp [hreleased, hclosed, hgeneration, hfree]

theorem read_of_none (h : r.fault? b = none) :
    r.read b = match (b.partition r.log).firstFrom r.next with
      | some e => (.record e.record, { r with next := e.offset + 1, delivered := r.delivered + 1 })
      | none => (.waiting, r) := by
  cases hfirst : (b.partition r.log).firstFrom r.next <;> simp [read, h, hfirst]

theorem read_eq_waiting :
    (r.read b).1 = .waiting ↔
      r.fault? b = none ∧ (b.partition r.log).firstFrom r.next = none := by
  constructor
  · intro h
    cases hfault : r.fault? b with
    | some e => simp [read, hfault] at h
    | none => exact ⟨rfl, firstFrom_of_waiting h⟩
  · rintro ⟨hfault, hnone⟩
    rw [read_of_none hfault, hnone]

/-- A reader that has to wait goes on waiting after a call, or the call has woken it and has ended
its wait. -/
theorem waits_or_wakes (h : (r.read b).1 = .waiting) {c : BrokerCall} (hc : c.KeepsLimit) :
    (r.read (b.call c).2).1 = .waiting ∨
      b.changes < (b.call c).2.changes ∧ r.Wakes c (r.read (b.call c).2).1 := by
  obtain ⟨hfault, hnone⟩ := read_eq_waiting.1 h
  obtain ⟨hreleased, hclosed, hgeneration, hlimit⟩ := fault?_eq_none.1 hfault
  cases c with
  | append log x =>
    simp only [Broker.call]
    cases happend : b.append log x with
    | error e => exact .inl h
    | ok b' =>
      have hpartition := Store.append_partition happend r.log
      obtain ⟨-, hb'⟩ := Broker.append_inv happend
      have hfault' : r.fault? b' = none := by
        rw [hb']
        exact fault?_eq_none.2 ⟨hreleased, hclosed, hgeneration, hlimit⟩
      by_cases hlog : r.log = log
      · subst hlog
        rw [if_pos rfl] at hpartition
        have hfirst := Partition.firstFrom_push_of_none hnone x
        rw [← hpartition] at hfirst
        split at hfirst
        · refine .inr ⟨by rw [hb']; exact Nat.lt_succ_self _, ?_⟩
          rw [read_of_none hfault', hfirst]
          exact .append x
        · exact .inl (read_eq_waiting.2 ⟨hfault', hfirst⟩)
      · rw [if_neg hlog] at hpartition
        exact .inl (read_eq_waiting.2 ⟨hfault', hpartition ▸ hnone⟩)
  | compact log =>
    have hfault' : r.fault? (b.compact log).2 = none := by
      unfold Broker.compact
      split <;> exact fault?_eq_none.2 ⟨hreleased, hclosed, hgeneration, hlimit⟩
    refine .inl (read_eq_waiting.2 ⟨hfault', ?_⟩)
    simp only [Broker.call, Broker.compact_partition]
    split
    · rename_i hlog
      rw [hlog] at hnone
      exact Partition.firstFrom_compact_of_none hnone
    · exact hnone
  | failAppends on => exact .inl h
  | failOpens on => exact .inl h
  | limitReads limit => cases hc
  | disconnect =>
    have hlost : b.generation + 1 ≠ r.generation := by omega
    refine .inr ⟨Nat.lt_succ_self _, ?_⟩
    simpa [Broker.call, Broker.disconnect, Broker.notify, read, fault?, hreleased, hclosed, hlost]
      using .disconnect
  | close =>
    refine .inr ⟨Nat.lt_succ_self _, ?_⟩
    simpa [Broker.call, Broker.close, Broker.notify, read, fault?] using .close

end Reader

/-! ## Reads in progress -/

namespace PendingRead

/-- The reader has not missed a change by sleeping. -/
def Wakeful (b : Broker) : PendingRead → Prop
  | answered _ _ => True
  | asleep r seen => seen ≤ b.changes ∧ (b.changes = seen → (r.read b).1 = .waiting)

variable {p : PendingRead} {r : Reader} {b : Broker}

theorem start_wakeful (r : Reader) (b : Broker) : (start r b).Wakeful b := by
  by_cases h : (r.read b).1 = .waiting
  · rw [start_of_waiting h]
    exact ⟨Nat.le_refl _, fun _ => h⟩
  · rw [start_of_answered h]
    trivial

/-- A call that would end the wait moves the count on, so that the reader is woken. -/
theorem Wakeful.call (h : p.Wakeful b) {c : BrokerCall} (hc : c.KeepsLimit) :
    p.Wakeful (b.call c).2 := by
  cases p with
  | answered result r => trivial
  | asleep r seen =>
    obtain ⟨hseen, hasleep⟩ := h
    have hle := (b.call_later c).changes
    refine ⟨Nat.le_trans hseen hle, ?_⟩
    intro heq
    have hunchanged : b.changes = seen := by omega
    rcases Reader.waits_or_wakes (hasleep hunchanged) hc with hwaits | ⟨hlt, -⟩
    · exact hwaits
    · omega

/-- Look at a read: it goes on if it has been woken, and the next one is started if it has ended. -/
def look (p : PendingRead) (b : Broker) : PendingRead :=
  match p with
  | answered _ r => start r b
  | asleep r seen => (asleep r seen).poll b

theorem look_asleep {seen : Nat} (h : b.changes = seen) :
    (asleep r seen).look b = asleep r seen := if_pos h

theorem look_woken {seen : Nat} (h : b.changes ≠ seen) : (asleep r seen).look b = start r b :=
  if_neg h

/-- Give a read up, and keep its reader for another one. -/
def giveUp (p : PendingRead) : PendingRead := .answered .waiting p.reader

/-- Whether a look finds a read asleep, ended or given up, it finds what a new read would find. -/
theorem Wakeful.look (h : p.Wakeful b) :
    (p.look b).result = (p.reader.read b).1 ∧ (p.look b).reader = (p.reader.read b).2 ∧
      (p.look b).Wakeful b := by
  have hstart : ∀ r, (start r b).result = (r.read b).1 ∧ (start r b).reader = (r.read b).2 ∧
      (start r b).Wakeful b :=
    fun r => ⟨(start_eq r b).1, (start_eq r b).2, start_wakeful r b⟩
  cases p with
  | answered result r => exact hstart r
  | asleep r seen =>
    by_cases hseen : b.changes = seen
    · have hwaiting := h.2 hseen
      rw [look_asleep hseen]
      exact ⟨hwaiting.symm, (Reader.read_waiting hwaiting).symm, h⟩
    · rw [look_woken hseen]
      exact hstart r

end PendingRead

/-! ## Reading over time -/

/-- What happens around a reader. -/
inductive Moment where
  | call (c : BrokerCall)
  /-- The read in progress is looked at, or the next one is started. -/
  | look
  /-- The read in progress is given up. -/
  | giveUp
deriving DecidableEq

namespace Moment

def call? : Moment → Option BrokerCall
  | call c => some c
  | _ => none

/-- The calls among the moments. -/
def calls (ms : List Moment) : List BrokerCall := ms.filterMap call?

/-- The moments of a reader that is looked at after every call. -/
def promptly (cs : List BrokerCall) : List Moment := cs.flatMap fun c => [.call c, .look]

end Moment

/-- A broker, and a read in progress there. -/
structure Waiter where
  broker : Broker
  read : PendingRead

namespace Waiter

def reader (w : Waiter) : Reader := w.read.reader

/-- Go through a moment. The answers are those of the looks. -/
def step (w : Waiter) : Moment → List ReadResult × Waiter
  | .call c => ([], { w with broker := (w.broker.call c).2 })
  | .look => ([(w.read.look w.broker).result], { w with read := w.read.look w.broker })
  | .giveUp => ([], { w with read := w.read.giveUp })

def run (w : Waiter) (ms : List Moment) : Waiter := ms.foldl (fun w m => (w.step m).2) w

/-- What the looks answer, one after the other. -/
def answers : Waiter → List Moment → List ReadResult
  | _, [] => []
  | w, m :: ms => (w.step m).1 ++ answers (w.step m).2 ms

/-- The records that the looks deliver. -/
def deliveries (w : Waiter) (ms : List Moment) : List Record :=
  (w.answers ms).flatMap ReadResult.records

variable {w w' : Waiter}

theorem run_append (w : Waiter) (ms ms' : List Moment) :
    w.run (ms ++ ms') = (w.run ms).run ms' := List.foldl_append

theorem deliveries_cons (w : Waiter) (m : Moment) (ms : List Moment) :
    w.deliveries (m :: ms) =
      (w.step m).1.flatMap ReadResult.records ++ (w.step m).2.deliveries ms :=
  List.flatMap_append

/-! ### The first look that finds an answer -/

theorem run_promptly_concat {cs : List BrokerCall} (h : w.run (Moment.promptly cs) = w')
    (c : BrokerCall) :
    w.run (Moment.promptly (cs ++ [c])) =
      ⟨(w'.broker.call c).2, w'.read.look (w'.broker.call c).2⟩ := by
  have hsplit : Moment.promptly (cs ++ [c]) = Moment.promptly cs ++ [.call c, .look] := by
    simp [Moment.promptly]
  rw [hsplit, run_append, h]
  rfl

/-- While a new read would have to wait, the read sleeps. -/
theorem run_promptly_asleep {r : Reader} {b : Broker} {cs : List BrokerCall}
    (hcs : ∀ c ∈ cs, c.KeepsLimit)
    (h : ∀ earlier, earlier <+: cs → (r.read (b.run earlier)).1 = .waiting) :
    run ⟨b, .start r b⟩ (Moment.promptly cs) = ⟨b.run cs, .asleep r (b.run cs).changes⟩ := by
  induction cs using List.reverseRecOn with
  | nil =>
    have hnow : (r.read b).1 = .waiting := h [] (List.prefix_refl _)
    rw [PendingRead.start_of_waiting hnow]
    rfl
  | append_singleton cs c ih =>
    have hkeeps : ∀ c ∈ cs, c.KeepsLimit := fun c hc => hcs c (List.mem_append_left _ hc)
    have hbefore := ih hkeeps fun earlier he => h earlier (he.trans (List.prefix_append _ _))
    have hnow := h (cs ++ [c]) (List.prefix_refl _)
    rw [run_promptly_concat hbefore, Broker.run_concat]
    rw [Broker.run_concat] at hnow
    by_cases heq : ((b.run cs).call c).2.changes = (b.run cs).changes
    · rw [PendingRead.look_asleep heq, heq]
    · rw [PendingRead.look_woken heq, PendingRead.start_of_waiting hnow]

/-- The first call after which a new read would answer wakes the read, which answers the same. -/
theorem run_promptly_answered {r : Reader} {b : Broker} {cs : List BrokerCall}
    (hcs : ∀ c ∈ cs, c.KeepsLimit)
    (h : ∀ earlier, earlier <+: cs → (r.read (b.run earlier)).1 = .waiting)
    {c : BrokerCall} (hc : c.KeepsLimit) (hnow : (r.read (b.run (cs ++ [c]))).1 ≠ .waiting) :
    (b.run (cs ++ [c])).changes ≠ (b.run cs).changes ∧
      r.Wakes c (r.read (b.run (cs ++ [c]))).1 ∧
      run ⟨b, .start r b⟩ (Moment.promptly (cs ++ [c])) =
        ⟨b.run (cs ++ [c]), .answered (r.read (b.run (cs ++ [c]))).1
          (r.read (b.run (cs ++ [c]))).2⟩ := by
  have hbefore := h cs (List.prefix_refl _)
  rw [run_promptly_concat (run_promptly_asleep hcs h)]
  rw [Broker.run_concat] at hnow ⊢
  rcases Reader.waits_or_wakes hbefore hc with hwaits | ⟨hlt, hwakes⟩
  · exact absurd hwaits hnow
  · have hchanged : ((b.run cs).call c).2.changes ≠ (b.run cs).changes := by omega
    refine ⟨hchanged, hwakes, ?_⟩
    rw [PendingRead.look_woken hchanged, PendingRead.start_of_answered hnow]

/-! ### Giving up -/

/-- No call changes how many records a reader may deliver. -/
def KeepLimit (ms : List Moment) : Prop := ∀ c, .call c ∈ ms → c.KeepsLimit

theorem keepLimit_cons {m : Moment} {ms : List Moment} :
    KeepLimit (m :: ms) ↔ (∀ c, m = .call c → c.KeepsLimit) ∧ KeepLimit ms := by
  simp only [KeepLimit, List.mem_cons, or_imp, forall_and, eq_comm]

theorem step_wakeful (h : w.read.Wakeful w.broker) {m : Moment}
    (hm : ∀ c, m = .call c → c.KeepsLimit) :
    (w.step m).2.read.Wakeful (w.step m).2.broker := by
  cases m with
  | call c => exact h.call (hm c rfl)
  | look => exact h.look.2.2
  | giveUp => trivial

/-- Two that use the same broker, with readers at the same place. Their reads need not be alike. -/
structure Alike (w w' : Waiter) : Prop where
  broker : w.broker = w'.broker
  reader : w.reader = w'.reader
  wakeful : w.read.Wakeful w.broker
  wakeful' : w'.read.Wakeful w'.broker

theorem Alike.step (h : w.Alike w') {m : Moment} (hm : ∀ c, m = .call c → c.KeepsLimit) :
    (w.step m).1 = (w'.step m).1 ∧ (w.step m).2.Alike (w'.step m).2 := by
  have hwakeful := step_wakeful h.wakeful hm
  have hwakeful' := step_wakeful h.wakeful' hm
  obtain ⟨b, p⟩ := w
  obtain ⟨b', p'⟩ := w'
  obtain rfl : b = b' := h.broker
  have hreader : p.reader = p'.reader := h.reader
  cases m with
  | call c => exact ⟨rfl, rfl, hreader, hwakeful, hwakeful'⟩
  | look =>
    obtain ⟨hresult, hplace, -⟩ := h.wakeful.look
    obtain ⟨hresult', hplace', -⟩ := h.wakeful'.look
    rw [hreader] at hresult hplace
    exact ⟨congrArg (fun x => [x]) (hresult.trans hresult'.symm), rfl, hplace.trans hplace'.symm,
      hwakeful, hwakeful'⟩
  | giveUp => exact ⟨rfl, rfl, hreader, hwakeful, hwakeful'⟩

/-- Without the moments at which a read is given up, the answers are the same. -/
theorem Alike.answers (h : w.Alike w') {ms : List Moment} (hms : KeepLimit ms) :
    w.answers ms = w'.answers (ms.filter (· ≠ .giveUp)) := by
  induction ms generalizing w w' with
  | nil => rfl
  | cons m ms ih =>
    obtain ⟨hm, hrest⟩ := keepLimit_cons.1 hms
    by_cases hgiveUp : m = .giveUp
    · subst hgiveUp
      have h' : (w.step .giveUp).2.Alike w' := ⟨h.broker, h.reader, trivial, h.wakeful'⟩
      rw [List.filter_cons_of_neg (by simp)]
      exact ih h' hrest
    · obtain ⟨hanswers, h'⟩ := h.step hm
      rw [List.filter_cons_of_pos (by simpa using hgiveUp)]
      show _ ++ _ = _ ++ _
      rw [hanswers, ih h' hrest]

end Waiter

end ReplayRegistry
