import ReplayRegistry.Proofs.ClusterSteps

/-!
# Proofs: a single writer

A store that alone writes to its log, and whose reader does not fail, behaves like a registry that
keeps its documents in a map and knows of no log: however far its replay is behind, and whatever
compaction removes, what replay delivers changes nothing that is shown.
-/

namespace ReplayRegistry

open Time (Timestamp)

/-! ## A registry without a log -/

/-- Why a log refuses records, if it does. -/
def Broker.refusal? (b : Broker) (log : String) : Option LogError :=
  if b.closed then some .closed else if b.failAppends then some (.appendRejected log) else none

/-- A registry that keeps its documents in a map. -/
structure Registry where
  /-- The documents by key. -/
  docs : KeyMap FunctionDoc := ∅
  /-- Whether it has been closed. -/
  closed : Bool := false

namespace Registry

/-- A request to a registry. -/
inductive Request where
  /-- Write at `now`. The write is refused for the reason `refusal`, if there is one. -/
  | write (w : Write) (now : Timestamp) (refusal : Option LogError)
  /-- Close the registry; its log client answers `client`. -/
  | close (client : Except LogError Unit)

/-- Make `docs` the documents, unless the registry is closed or the write is refused. -/
def commit (R : Registry) (refusal : Option LogError) (key : RegistryKey)
    (docs : KeyMap FunctionDoc) : Except StoreError RegistryKey × Registry :=
  if R.closed then (.error (.log .closed), R)
  else
    match refusal with
    | some e => (.error (.log e), R)
    | none => (.ok key, { R with docs })

/-- Keep a document under a key; one that is deleted is not kept. -/
def keep (R : Registry) (key : RegistryKey) (d : FunctionDoc) : KeyMap FunctionDoc :=
  if d.status = .deleted then R.docs.erase key else R.docs.insert key d

/-- Add a document whose key has none. -/
def create (R : Registry) (d : FunctionDoc) (now : Timestamp) (refusal : Option LogError) :
    Except StoreError RegistryKey × Registry :=
  let key := deriveKey d.tenant d.name
  match R.docs.get? key with
  | some _ => (.error (.alreadyExists key), R)
  | none =>
    R.commit refusal key
      (R.keep key { d with id := key, createdAt := some now, updatedAt := some now })

/-- Replace the document of a key, which keeps the time of its creation, or add it. -/
def update (R : Registry) (d : FunctionDoc) (now : Timestamp) (refusal : Option LogError) :
    Except StoreError RegistryKey × Registry :=
  let key := deriveKey d.tenant d.name
  match R.docs.get? key with
  | some old =>
    R.commit refusal key
      (R.keep key { d with id := key, createdAt := old.createdAt, updatedAt := some now })
  | none => R.create d now refusal

/-- Remove the document of a key. -/
def delete (R : Registry) (key : RegistryKey) (refusal : Option LogError) :
    Except StoreError RegistryKey × Registry :=
  match R.docs.get? key with
  | some _ => R.commit refusal key (R.docs.erase key)
  | none => (.error (.notFound key), R)

/-- Carry out a write. A document is checked before anything else. -/
def write (R : Registry) (w : Write) (now : Timestamp) (refusal : Option LogError) :
    Except StoreError RegistryKey × Registry :=
  match w with
  | .create d =>
    match Validation.function d with
    | .error e => (.error (.validation e), R)
    | .ok _ => R.create d now refusal
  | .update d =>
    match Validation.function d with
    | .error e => (.error (.validation e), R)
    | .ok _ => R.update d now refusal
  | .delete tenant name => R.delete (deriveKey tenant name) refusal
  | .deleteByKey key => R.delete key refusal

/-- Close a registry. One that has been closed stays so. -/
def close (R : Registry) (client : Except LogError Unit) : Except LogError Unit × Registry :=
  (if R.closed then .ok () else client, { R with closed := true })

/-- Serve a request. -/
def serve (R : Registry) : Request → Cluster.Answer × Registry
  | .write w now refusal =>
    let (result, R) := R.write w now refusal
    (.written result, R)
  | .close client =>
    let (result, R) := R.close client
    (.closed result, R)

/-- Serve requests in order. -/
def run (R : Registry) (requests : List Request) : Registry :=
  requests.foldl (fun R x => (R.serve x).2) R

/-- The answers to requests in order. -/
def answers (R : Registry) : List Request → List Cluster.Answer
  | [] => []
  | x :: xs => (R.serve x).1 :: (R.serve x).2.answers xs

/-- The document of a key. -/
def getByKey (R : Registry) (key : RegistryKey) : Except StoreError FunctionDoc :=
  match R.docs.get? key with
  | some d => .ok d
  | none => .error (.notFound key)

theorem run_append (R : Registry) (xs ys : List Request) :
    R.run (xs ++ ys) = (R.run xs).run ys := List.foldl_append

theorem answers_append (R : Registry) (xs ys : List Request) :
    R.answers (xs ++ ys) = R.answers xs ++ (R.run xs).answers ys := by
  induction xs generalizing R with
  | nil => rfl
  | cons x xs ih => exact congrArg ((R.serve x).1 :: ·) (ih (R.serve x).2)

end Registry

/-! ## Requests of a run -/

namespace Cluster

/-- The requests that an action makes to the `i`-th store, if it has been opened and is still held,
with their answers. -/
def dialogue (i : Nat) (c : Cluster) (a : Action) : List (Registry.Request × Answer) :=
  match c.members[i]?, a with
  | some m, .write j w now =>
    if j = i ∧ m.dropped = false then
      [(.write w now (c.broker.refusal? m.store.log), (c.step a).1)]
    else []
  | some m, .closeStore j client =>
    if j = i ∧ m.dropped = false then [(.close client, (c.step a).1)] else []
  | _, _ => []

end Cluster

/-! ## Replay changes nothing -/

namespace Follower

/-- What stands ahead of a follower that alone writes its log is in flight. -/
def Lagging (x : Follower) : Prop :=
  ∀ n, x.place = some n → ∀ key, (payloads key (x.log.ahead n)).Sublist (x.view.pending key)

variable {x y : Follower} {e : Event}

/-- The delivery of a record that is in flight changes nothing that is shown. -/
theorem Lagging.deliver (h : x.Sound) (hl : x.Lagging) {n : Nat} {f : Entry}
    (hplace : x.place = some n) (hfirst : x.log.firstFrom n = some f) :
    Lagging { x with view := (x.view.foldRecord f.record).2, place := some (f.offset + 1) } ∧
      (x.view.foldRecord f.record).2.entries = x.view.entries := by
  obtain ⟨-, -, hahead, -⟩ := h.log.firstFrom_some hfirst
  have hkey : ∀ key, (payloads key (x.log.ahead (f.offset + 1))).Sublist
        ((x.view.foldRecord f.record).2.pending key) ∧
      (x.view.foldRecord f.record).2.get? key = x.view.get? key := by
    intro key
    have hsub := hl n hplace key
    rw [hahead, payloads_cons] at hsub
    cases hx : f.record.version? key with
    | none =>
      obtain ⟨hpending, hget⟩ := View.foldRecord_of_none (v := x.view) hx
      rw [hx] at hsub
      rw [hpending, hget]
      exact ⟨hsub, rfl⟩
    | some v =>
      obtain ⟨hpending, hget⟩ := View.foldRecord_of_some (v := x.view) hx
      rw [hx] at hsub
      rw [hpending, hget]
      refine ⟨View.sublist_retire hsub, ?_⟩
      split
      · rename_i hnil
        -- the last payload in flight is delivered, and the view shows its document already
        have hne : x.view.pending key ≠ [] :=
          List.ne_nil_of_mem (hsub.subset List.mem_cons_self)
        obtain ⟨d, -, hid, hlast, hget⟩ := h.installed key hne
        rw [View.getLast?_of_retire_eq_nil hnil hne] at hlast
        rw [hget, Record.version?_effect hid hx (Option.some.inj hlast)]
      · rfl
  refine ⟨fun n' hn' key => ?_, KeyMap.ext_get? fun key => (hkey key).2⟩
  cases hn'
  exact (hkey key).1

/-- As long as no one else appends, and the reader does not fail, replay stays behind what is in
flight and changes nothing that is shown. -/
theorem Step.lagging (hs : Step x e y) (h : x.Sound) (hl : x.Lagging)
    (happend : ∀ r, e ≠ .append r) (hrewind : e ≠ .rewind) :
    y.Lagging ∧ ((∀ d, e ≠ .write d) → y.view.entries = x.view.entries) := by
  cases hs with
  | idle => exact ⟨hl, fun _ => rfl⟩
  | append r => exact absurd rfl (happend r)
  | compact =>
    refine ⟨fun n hn key => ?_, fun _ => rfl⟩
    exact (payloads_sublist (x.log.ahead_compact_sublist n) key).trans (hl n hn key)
  | write d hid =>
    refine ⟨fun n hn key => ?_, fun hd => absurd rfl (hd d)⟩
    rw [View.pending_install, Partition.ahead_push (h.place_le n hn), payloads_append]
    have hversion : payloads key [⟨d.id, d.encode⟩] = if d.id = key then [d.encode] else [] := by
      rw [payloads, versions_singleton, Record.version?_encode hid]
      split <;> rfl
    rw [hversion]
    by_cases hkey : key = d.id
    · rw [if_pos hkey, if_pos hkey.symm]
      exact (hl n hn key).append_right _
    · rw [if_neg hkey, if_neg fun heq => hkey heq.symm, List.append_nil]
      exact hl n hn key
  | deliver hplace hfirst =>
    obtain ⟨hlag, hentries⟩ := hl.deliver h hplace hfirst
    exact ⟨hlag, fun _ => hentries⟩
  | rewind => exact absurd rfl hrewind
  | stop => exact ⟨fun _ hplace => (by cases hplace), fun _ => rfl⟩

end Follower

/-! ## The store mirrors the registry -/

theorem Broker.append_refusal (b : Broker) (log : String) (r : Record) :
    (∃ e, b.refusal? log = some e ∧ b.append log r = .error e) ∨
      b.refusal? log = none ∧ ∃ b', b.append log r = .ok b' := by
  unfold Broker.refusal? Broker.append
  split
  · exact .inl ⟨_, rfl, rfl⟩
  · split
    · exact .inl ⟨_, rfl, rfl⟩
    · exact .inr ⟨rfl, _, rfl⟩

theorem View.entries_install (v : View) (d : FunctionDoc) :
    (v.install d).entries = (v.put d.id d.effect).2.entries := by
  rw [View.install_eq]
  cases d.effect <;> rfl

namespace Registry

variable {R : Registry} {s : Store}

theorem keep_eq (hdocs : R.docs = s.view.entries) (key : RegistryKey) (d : FunctionDoc) :
    R.keep key d = (s.view.put key d.effect).2.entries := by
  unfold keep FunctionDoc.effect FunctionDoc.isTombstone Status.isTombstone
  rw [hdocs]
  by_cases h : d.status = .deleted <;> simp [h, View.put]

theorem create_eq (hdocs : R.docs = s.view.entries) (d : FunctionDoc) (now : Timestamp)
    (refusal : Option LogError) :
    R.create d now refusal =
      match s.prepareCreate d now with
      | .error e => (.error e, R)
      | .ok d' => R.commit refusal d'.id (s.view.put d'.id d'.effect).2.entries := by
  simp only [create, Store.prepareCreate, View.contains, KeyMap.contains, FunctionDoc.registryKey,
    hdocs]
  rcases Option.eq_none_or_eq_some (s.view.entries.get? (deriveKey d.tenant d.name)) with
    hold | ⟨old, hold⟩
  · simp [hold, keep_eq hdocs]
  · simp [hold]

theorem delete_eq (hs : s.Keyed) (hdocs : R.docs = s.view.entries) (key : RegistryKey)
    (now : Timestamp) (refusal : Option LogError) :
    R.delete key refusal =
      match Store.prepare.prepareDelete s now key with
      | .error e => (.error e, R)
      | .ok d => R.commit refusal d.id (s.view.put d.id d.effect).2.entries := by
  simp only [delete, Store.prepare.prepareDelete, View.get?, hdocs]
  cases hold : s.view.entries.get? key with
  | none => rfl
  | some old =>
    have hid : old.id = key := (hs key old hold).1
    simp [hid, FunctionDoc.effect, FunctionDoc.isTombstone, Status.isTombstone, View.put]

/-- A registry writes what a store prepares that shows the same documents. -/
theorem write_eq (hs : s.Keyed) (hdocs : R.docs = s.view.entries) (w : Write) (now : Timestamp)
    (refusal : Option LogError) :
    R.write w now refusal =
      match s.prepare w now with
      | .error e => (.error e, R)
      | .ok d => R.commit refusal d.id (s.view.put d.id d.effect).2.entries := by
  cases w with
  | create d =>
    simp only [write, Store.prepare]
    cases Validation.function d with
    | error e => rfl
    | ok _ => exact create_eq hdocs d now refusal
  | update d =>
    simp only [write, Store.prepare]
    cases Validation.function d with
    | error e => rfl
    | ok _ =>
      simp only [update, View.get?, hdocs, FunctionDoc.registryKey]
      cases hold : s.view.entries.get? (deriveKey d.tenant d.name) with
      | none => exact create_eq hdocs d now refusal
      | some old =>
        have hid : old.id = deriveKey d.tenant d.name := (hs _ old hold).1
        simp [hid, keep_eq hdocs]
  | delete tenant name => exact delete_eq hs hdocs _ now refusal
  | deleteByKey key => exact delete_eq hs hdocs key now refusal

end Registry

namespace Cluster

variable {c : Cluster} {i : Nat} {m m' : Member} {R : Registry} {a : Action}

/-- A store that shows what a registry holds, and is closed if the registry is. -/
structure Mirrors (m : Member) (R : Registry) : Prop where
  /-- The documents are the same. -/
  docs : R.docs = m.store.view.entries
  /-- Both are closed or neither is. -/
  closed : R.closed = m.store.closed

theorem setStore_member {s : Store} {b : Broker} (hm : c.members[i]? = some m)
    (hm' : (c.setStore i s b).members[i]? = some m') : m'.store = s := by
  rw [setStore_members, if_pos rfl, hm] at hm'
  cases hm'
  rfl

/-- A store answers a write as the registry does that it mirrors, and mirrors it afterwards. -/
theorem Mirrors.write (h : c.Sound) (hm : c.members[i]? = some m) (hdropped : m.dropped = false)
    (hR : Mirrors m R) (w : Write) (now : Timestamp)
    (hm' : (c.step (.write i w now)).2.members[i]? = some m') :
    (c.step (.write i w now)).1 =
        .written (R.write w now (c.broker.refusal? m.store.log)).1 ∧
      Mirrors m' (R.write w now (c.broker.refusal? m.store.log)).2 := by
  have hkeyed : m.store.Keyed := (h.followers i m hm).keyed
  have hsame : (c.setStore i m.store c.broker).members[i]? = some m' → m' = m := by
    intro heq
    rw [setStore_self hm, hm] at heq
    exact (Option.some.inj heq).symm
  rw [Registry.write_eq hkeyed hR.docs]
  rw [write_step hm hdropped, Store.write_eq (h.followers i m hm).tidy] at hm' ⊢
  cases hprepare : m.store.prepare w now with
  | error e =>
    simp only [hprepare] at hm' ⊢
    rw [hsame hm']
    exact ⟨trivial, hR⟩
  | ok d =>
    simp only [hprepare, Registry.commit, hR.closed] at hm' ⊢
    cases hclosed : m.store.closed with
    | true =>
      simp only [hclosed, if_true] at hm' ⊢
      rw [hsame hm']
      exact ⟨trivial, hR⟩
    | false =>
      simp only [hclosed] at hm' ⊢
      rcases Broker.append_refusal c.broker m.store.log ⟨d.id, d.encode⟩ with
        ⟨e, hrefusal, happend⟩ | ⟨hrefusal, b, happend⟩
      · simp only [happend, hrefusal, Bool.false_eq_true, if_false] at hm' ⊢
        rw [hsame hm']
        exact ⟨trivial, hR⟩
      · simp only [happend, hrefusal, Bool.false_eq_true, if_false] at hm' ⊢
        have hstore := setStore_member hm hm'
        refine ⟨trivial, ?_, ?_⟩
        · rw [hstore]
          exact (View.entries_install m.store.view d).symm
        · rw [hstore]

/-- A store answers that it is closed as the registry does that it mirrors. -/
theorem Mirrors.close (hm : c.members[i]? = some m) (hdropped : m.dropped = false)
    (hR : Mirrors m R) (client : Except LogError Unit)
    (hm' : (c.step (.closeStore i client)).2.members[i]? = some m') :
    (c.step (.closeStore i client)).1 = .closed (R.close client).1 ∧
      Mirrors m' (R.close client).2 := by
  rw [closeStore_step hm hdropped] at hm' ⊢
  have hstore := setStore_member hm hm'
  simp only [Registry.close, hR.closed]
  unfold Store.close at hstore ⊢
  cases hclosed : m.store.closed with
  | true =>
    simp only [hclosed, if_true] at hstore ⊢
    exact ⟨trivial, ⟨by rw [hstore]; exact hR.docs, by rw [hstore]; exact hclosed.symm⟩⟩
  | false =>
    simp only [hclosed, Bool.false_eq_true, if_false] at hstore ⊢
    cases client with
    | error e => exact ⟨rfl, ⟨by rw [hstore]; exact hR.docs, by rw [hstore]⟩⟩
    | ok _ => exact ⟨rfl, ⟨by rw [hstore]; exact hR.docs, by rw [hstore]⟩⟩

/-- An action that makes no request to the store leaves the registry as it is, and the store mirrors
it afterwards. -/
theorem Mirrors.step (h : c.Sound) (hm : c.members[i]? = some m) (hR : Mirrors m R)
    (hl : (c.follower m).Lagging) (hforeign : c.foreign i m.store.log a = [])
    (hfail : c.failures i a = []) :
    ∃ m', (c.step a).2.members[i]? = some m' ∧ m'.store.log = m.store.log ∧
      ((c.step a).2.follower m').Lagging ∧
      Mirrors m' (R.run ((c.dialogue i a).map Prod.fst)) ∧
      (c.dialogue i a).map Prod.snd = R.answers ((c.dialogue i a).map Prod.fst) := by
  obtain ⟨m', e, hm', hsees⟩ := h.sees hm a
  have happend : ∀ r, e ≠ .append r := by
    rintro r rfl
    rw [foreign, if_neg (hsees.append r rfl), hsees.appended h hm] at hforeign
    cases hforeign
  have hrewind : e ≠ .rewind := fun he => hsees.failed he hfail
  obtain ⟨hlag, hentries⟩ := hsees.step.lagging (h.followers i m hm) hl happend hrewind
  refine ⟨m', hm', hsees.log, hlag, ?_⟩
  have hquiet : c.dialogue i a = [] → c.written i a = [] → m'.store.closed = m.store.closed →
      Mirrors m' (R.run ((c.dialogue i a).map Prod.fst)) ∧
        (c.dialogue i a).map Prod.snd = R.answers ((c.dialogue i a).map Prod.fst) := by
    intro hnone hwritten hclosed
    have hwrite : ∀ d, e ≠ .write d := by
      rintro d rfl
      rw [hsees.written] at hwritten
      cases hwritten
    rw [hnone]
    exact ⟨⟨hR.docs.trans (hentries hwrite).symm, hR.closed.trans hclosed.symm⟩, rfl⟩
  cases a with
  | write j w now =>
    by_cases hj : j = i ∧ m.dropped = false
    · obtain ⟨rfl, hdropped⟩ := hj
      obtain ⟨hanswer, hmirrors⟩ := hR.write h hm hdropped w now hm'
      have hdialogue : c.dialogue j (.write j w now) =
          [(.write w now (c.broker.refusal? m.store.log), (c.step (.write j w now)).1)] := by
        simp [dialogue, hm, hdropped]
      rw [hdialogue, hanswer]
      exact ⟨hmirrors, rfl⟩
    · refine hquiet (by simp [dialogue, hm, hj]) ?_ (hsees.closed (by simp))
      by_cases heq : j = i
      · subst heq
        have hdropped : m.dropped = true := by simpa using hj
        simp [Cluster.written, step, Cluster.write, withStore, withMember, hm, hdropped]
      · exact written_eq_nil heq
  | closeStore j client =>
    by_cases hj : j = i ∧ m.dropped = false
    · obtain ⟨rfl, hdropped⟩ := hj
      obtain ⟨hanswer, hmirrors⟩ := hR.close hm hdropped client hm'
      have hdialogue : c.dialogue j (.closeStore j client) =
          [(.close client, (c.step (.closeStore j client)).1)] := by
        simp [dialogue, hm, hdropped]
      rw [hdialogue, hanswer]
      exact ⟨hmirrors, rfl⟩
    · refine hquiet (by simp [dialogue, hm, hj]) (written_eq_nil id) ?_
      by_cases heq : j = i
      · subst heq
        have hdropped : m.dropped = true := by simpa using hj
        have hstep : (c.step (.closeStore j client)).2 = c := by
          simp [step, closeStore, withStore, withMember, hm, hdropped]
        rw [hstep, hm] at hm'
        cases hm'
        rfl
      · exact hsees.closed fun client' h => heq (Action.closeStore.inj h).1
  | _ =>
    exact hquiet (by simp [dialogue, hm]) (written_eq_nil id) (hsees.closed (by simp))

theorem Mirrors.run {as : List Action} (h : c.Sound) (hm : c.members[i]? = some m)
    (hR : Mirrors m R) (hl : (c.follower m).Lagging)
    (hforeign : c.collect (foreign i m.store.log) as = [])
    (hfail : c.collect (failures i) as = []) :
    ∃ m', (c.run as).members[i]? = some m' ∧
      Mirrors m' (R.run ((c.collect (dialogue i) as).map Prod.fst)) ∧
      (c.collect (dialogue i) as).map Prod.snd =
        R.answers ((c.collect (dialogue i) as).map Prod.fst) := by
  induction as generalizing c m R with
  | nil => exact ⟨m, hm, hR, rfl⟩
  | cons a as ih =>
    obtain ⟨hforeign, hforeigns⟩ := List.append_eq_nil_iff.1 hforeign
    obtain ⟨hfail, hfails⟩ := List.append_eq_nil_iff.1 hfail
    obtain ⟨m₁, hm₁, hlog, hlag, hR₁, hanswers₁⟩ := hR.step h hm hl hforeign hfail
    rw [← hlog] at hforeigns
    obtain ⟨m', hm', hR', hanswers⟩ := ih (h.step a) hm₁ hR₁ hlag hforeigns hfails
    refine ⟨m', hm', ?_, ?_⟩
    · rw [collect, List.map_append, Registry.run_append]
      exact hR'
    · rw [collect, List.map_append, List.map_append, Registry.answers_append, hanswers₁, hanswers]

/-- A log that no one appends to stays empty, as long as the store that may do so is not there. -/
theorem Sound.stays_empty (h : c.Sound) (hnone : c.members[i]? = none) {log : String}
    (hempty : (c.broker.partition log).records = []) (hforeign : c.foreign i log a = []) :
    ((c.step a).2.broker.partition log).records = [] := by
  by_cases hwrite : a.IsWrite i
  · cases a with
    | write j w now =>
      have hj : j = i := hwrite
      subst hj
      rcases write_cases h j w now with ⟨hsame, -⟩ | ⟨mj, d, b, hmj, -⟩
      · rw [hsame]
        exact hempty
      · rw [hnone] at hmj
        cases hmj
    | _ => exact absurd hwrite id
  · rw [foreign, if_neg hwrite, appended] at hforeign
    rcases h.step_partition a log with heq | ⟨r, heq⟩ | heq
    · rw [heq]
      exact hempty
    · rw [heq, Partition.ahead_push (Nat.le_refl _), (h.logs log).ahead_next] at hforeign
      cases hforeign
    · rw [heq]
      have hsub := (Partition.compact_sublist (c.broker.partition log)).map (·.record)
      exact List.sublist_nil.1 (hempty ▸ hsub)

theorem Sound.mirrors {as : List Action} (h : c.Sound) (hnone : c.members[i]? = none)
    (hm : (c.run as).members[i]? = some m)
    (hempty : (c.broker.partition m.store.log).records = [])
    (hforeign : c.collect (foreign i m.store.log) as = [])
    (hfail : c.collect (failures i) as = []) :
    Mirrors m (({} : Registry).run ((c.collect (dialogue i) as).map Prod.fst)) ∧
      (c.collect (dialogue i) as).map Prod.snd =
        ({} : Registry).answers ((c.collect (dialogue i) as).map Prod.fst) := by
  induction as generalizing c with
  | nil =>
    rw [Cluster.run, List.foldl_nil, hnone] at hm
    cases hm
  | cons a as ih =>
    obtain ⟨hforeign, hforeigns⟩ := List.append_eq_nil_iff.1 hforeign
    obtain ⟨hfail, hfails⟩ := List.append_eq_nil_iff.1 hfail
    have hdialogue : c.dialogue i a = [] := by simp [dialogue, hnone]
    rw [collect, hdialogue, List.nil_append]
    cases hm₁ : (c.step a).2.members[i]? with
    | none => exact ih (h.step a) hm₁ hm (h.stays_empty hnone hempty hforeign) hforeigns hfails
    | some m₁ =>
      obtain ⟨m₂, hm₂, hlog⟩ := (h.step a).run_log hm₁ as
      have hsame : m₂ = m := Option.some.inj (hm₂.symm.trans hm)
      subst hsame
      obtain ⟨-, hclosed, hfollower⟩ := opened_spec hnone hm₁
      have hview : m₁.store.view = {} := congrArg Follower.view hfollower
      have hlag : ((c.step a).2.follower m₁).Lagging := by
        rw [hfollower]
        intro n hn key
        cases hn
        rw [Partition.ahead_zero, ← hlog, hempty]
        exact List.nil_sublist _
      have hR : Mirrors m₁ {} := ⟨by rw [hview], hclosed.symm⟩
      rw [hlog] at hforeigns
      obtain ⟨m', hm', hmirrors, hanswers⟩ := hR.run (h.step a) hm₁ hlag hforeigns hfails
      rw [hm₂] at hm'
      cases hm'
      exact ⟨hmirrors, hanswers⟩

/-- A store that alone writes to its log, and whose reader does not fail, answers every request as a
registry without a log does, and reads what the registry reads. -/
theorem single_writer_refines_registry {as : List Action}
    (hm : (({} : Cluster).run as).members[i]? = some m)
    (hforeign : ({} : Cluster).collect (foreign i m.store.log) as = [])
    (hfail : ({} : Cluster).collect (failures i) as = []) :
    let requests := (({} : Cluster).collect (dialogue i) as).map Prod.fst
    (({} : Cluster).collect (dialogue i) as).map Prod.snd = ({} : Registry).answers requests ∧
      (∀ key, m.store.getByKey key = (({} : Registry).run requests).getByKey key) ∧
      (∀ tenant name, m.store.getByName tenant name =
        (({} : Registry).run requests).getByKey (deriveKey tenant name)) ∧
      m.store.load = (({} : Registry).run requests).docs.values ∧
      m.store.size = (({} : Registry).run requests).docs.size := by
  obtain ⟨hR, hanswers⟩ := sound_empty.mirrors rfl hm rfl hforeign hfail
  have hread : ∀ key, m.store.getByKey key = (({} : Registry).run
      ((({} : Cluster).collect (dialogue i) as).map Prod.fst)).getByKey key := by
    intro key
    cases hget : m.store.view.entries.get? key with
    | none => simp only [Store.getByKey, Registry.getByKey, View.get?, hR.docs, hget]
    | some d => simp only [Store.getByKey, Registry.getByKey, View.get?, hR.docs, hget]
  exact ⟨hanswers, hread, fun tenant name => hread (deriveKey tenant name),
    by rw [hR.docs]; rfl, by rw [hR.docs]; rfl⟩

/-- One store creates two functions, changes one of them and deletes it, while an append fails, the
log is compacted and replay lags behind; then it is closed. -/
def aloneRun : List Action :=
  let f : FunctionDoc := { tenant := "a", name := "f" }
  let g : FunctionDoc := { tenant := "a", name := "g" }
  [.openStore "l" {}, .write 0 (.create f) (.atSecond 0),
    .write 0 (.update { f with status := .suspended }) (.atSecond 1),
    .write 0 (.create f) (.atSecond 2), .deliver 0,
    .call (.broker (.compact "l")), .call (.broker (.failAppends true)),
    .write 0 (.delete "a" "f") (.atSecond 3),
    .call (.broker (.failAppends false)),
    .write 0 (.delete "a" "f") (.atSecond 4),
    .write 0 (.create g) (.atSecond 5), .deliver 0, .deliver 0,
    .closeStore 0 (.ok ()),
    .write 0 (.update g) (.atSecond 6)]

theorem aloneRun_refines_registry :
    ∃ m, (({} : Cluster).run aloneRun).members[0]? = some m ∧
      (({} : Cluster).collect (dialogue 0) aloneRun).length = 8 ∧ m.store.size = 1 ∧
      (({} : Cluster).collect (dialogue 0) aloneRun).map Prod.snd = ({} : Registry).answers
        ((({} : Cluster).collect (dialogue 0) aloneRun).map Prod.fst) ∧
      ∀ key, m.store.getByKey key = (({} : Registry).run
        ((({} : Cluster).collect (dialogue 0) aloneRun).map Prod.fst)).getByKey key := by
  obtain ⟨m, hm, hlog, hsize⟩ : ∃ m ∈ (({} : Cluster).run aloneRun).members[0]?,
      m.store.log = "l" ∧ m.store.size = 1 := by decide +kernel
  have hforeign : ({} : Cluster).collect (foreign 0 m.store.log) aloneRun = [] := by
    rw [hlog]
    decide +kernel
  have hfail : ({} : Cluster).collect (failures 0) aloneRun = [] := by decide +kernel
  obtain ⟨hanswers, hread, -⟩ := single_writer_refines_registry hm hforeign hfail
  exact ⟨m, hm, by decide +kernel, hsize, hanswers, hread⟩

end Cluster

end ReplayRegistry
