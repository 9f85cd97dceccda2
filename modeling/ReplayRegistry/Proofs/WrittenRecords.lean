import ReplayRegistry.Proofs.OpenWrites
import ReplayRegistry.Proofs.WholeWrites

/-!
# Proofs: the records that stores append

A store shows a document that it has written itself, and every other view folds it from the record.
Both come to the same, because the record holds exactly the document that is shown, under the key
that the write is about.
-/

namespace ReplayRegistry

open Time (Timestamp)

namespace View

variable {v : View} {d : FunctionDoc}

theorem get?_apply (v : View) (d : FunctionDoc) (key : RegistryKey) :
    (v.apply d).2.get? key = if key = d.id then d.effect else v.get? key :=
  get?_put v d.id key d.effect

theorem setPending_nil {key : RegistryKey} (h : v.inFlight.get? key = none) :
    v.setPending key [] = v := by
  have herase : v.inFlight.erase key = v.inFlight := by
    refine KeyMap.ext_get? ?_
    intro k
    rw [KeyMap.get?_erase]
    split
    · rename_i hk
      rw [hk, h]
    · rfl
  rw [setPending, if_pos rfl, herase]

/-- Where nothing is in flight for its key, a document is folded from its record as it is. -/
theorem foldRecord_encode (hid : d.id ≠ "") (h : v.inFlight.get? d.id = none) (key : String) :
    v.foldRecord ⟨key, d.encode⟩ = (some (v.apply d).1, (v.apply d).2) := by
  have hpending : v.pending d.id = [] := by
    rw [pending, h]
    rfl
  have hretire : retire d.encode (v.pending d.id) = [] := by
    rw [hpending]
    rfl
  simp only [foldRecord, Record.filing?_encode hid, foldFiling, hretire, setPending_nil h]
  rfl

theorem Writing.getLast?_pending (h : v.Writing d) (hmem : d.encode ∈ v.pending d.id) :
    (v.pending d.id).getLast? = some d.encode := by
  obtain ⟨u, rs, -, rfl⟩ := h
  rcases u.duringWrite_cases d.id d.encode rs with hnil | ⟨older, -, hlast, -⟩
  · rw [hnil] at hmem
    cases hmem
  · rw [hlast, List.getLast?_concat]

/-- A record with the payload of `d` is folded, and makes of the view what `d` makes of it. -/
def Folds (d : FunctionDoc) (v w : View) : Prop :=
  ∃ r, r.payload = d.encode ∧ w = (v.foldRecord r).2 ∧
    ∀ k, w.get? k = if k = d.id then d.effect else v.get? k

/-- While the payload of a document is the last one in flight for its key, a record leaves it in
flight, or carries it and makes of the view what the document makes of it. -/
theorem foldRecord_returns (hid : d.id ≠ "") (hlast : (v.pending d.id).getLast? = some d.encode)
    (r : Record) :
    d.encode ∈ (v.foldRecord r).2.pending d.id ∨ Folds d v (v.foldRecord r).2 := by
  cases hx : r.version? d.id with
  | none =>
    rw [(foldRecord_of_none hx).1]
    exact .inl (List.mem_of_getLast? hlast)
  | some x =>
    obtain ⟨hpending, hget⟩ := foldRecord_of_some (v := v) hx
    by_cases hretire : retire x.payload (v.pending d.id) = []
    · have hne : v.pending d.id ≠ [] := by
        intro hnil
        rw [hnil] at hlast
        cases hlast
      have hpayload : x.payload = d.encode := by
        have hreturned := getLast?_of_retire_eq_nil hretire hne
        rw [hlast] at hreturned
        exact (Option.some.inj hreturned).symm
      refine .inr ⟨r, (Record.version?_eq_some.1 hx).2.trans hpayload, rfl, ?_⟩
      intro k
      split
      · rename_i hk
        rw [hk, hget, if_pos hretire, Record.version?_effect hid hx hpayload]
      · rename_i hk
        -- the record is filed under one key alone
        have hother : r.version? k = none := by
          rw [Record.version?, (Record.version?_eq_some.1 hx).1]
          exact if_neg (Ne.symm hk)
        exact (foldRecord_of_none hother).2
    · left
      rw [hpending]
      refine List.mem_of_getLast? ?_
      rw [getLast?_retire hretire, hlast]

end View

/-- Whether a write deletes a document. -/
def Write.Deletes : Write → Prop
  | .create _ => False
  | .update _ => False
  | .delete _ _ => True
  | .deleteByKey _ => True

/-- A deletion appends a tombstone. -/
theorem Store.prepare_effect {s : Store} {w : Write} (hw : w.Deletes) {now : Timestamp}
    {d : FunctionDoc} (h : s.prepare w now = .ok d) : d.effect = none := by
  have htombstone : ∀ key, prepare.prepareDelete s now key = .ok d → d.effect = none := by
    intro key hdelete
    unfold prepare.prepareDelete at hdelete
    split at hdelete
    · cases hdelete
    · cases hdelete
      rfl
  cases w with
  | create d₀ => cases hw
  | update d₀ => cases hw
  | delete tenant name => exact htombstone _ h
  | deleteByKey key => exact htombstone _ h

theorem records_ne (rs : List Record) (r : Record) : rs ≠ rs ++ [r] := by simp

/-- If an append has put a record at the end of a log, it is the record that was appended. -/
theorem Broker.record_of_append {b b' : Broker} {log log' : String} {r r' : Record}
    (happend : b.append log' r' = .ok b') (hr : b'.records log = b.records log ++ [r]) :
    r = r' := by
  rw [Broker.append_records happend] at hr
  split at hr
  · rename_i hlog
    rw [hlog, List.append_cancel_left_eq] at hr
    exact (List.singleton_inj.1 hr).symm
  · exact absurd hr (records_ne _ r)

namespace Traffic

variable {t : Traffic} {i : Nat} {m : Member} {es : List Event} {e : Event} {log : String}
  {r : Record}

/-! ## Where the records come from -/

/-- The event in which the log is asked to take the record of a write of the store `i`: the whole
write, or its step. -/
inductive Carries (es : List Event) (i : Nat) (w : Write) (d : FunctionDoc) : Event → Prop
  | whole {m : Member} (now : Timestamp) (hm : (({} : Traffic).run es).members[i]? = some m)
      (h : m.store.prepare w now = .ok d) : Carries es i w d (.act (.write i w now))
  | step (lost : Option LogError) (h : Begun es i w d) : Carries es i w d (.append i lost)

/-- A document that a store writes has the key that the write is about, and a deletion writes a
tombstone. -/
theorem Carries.doc {w : Write} {d : FunctionDoc} (h : Carries es i w d e) :
    (d.id = w.key ∧ d.id ≠ "") ∧ (w.Deletes → d.effect = none) := by
  cases h with
  | whole now hm hprepare =>
    have hkeyed := (keyed_run es).views i _ hm
    exact ⟨Store.prepare_id hkeyed hprepare, fun hw => Store.prepare_effect hw hprepare⟩
  | step lost hbegun =>
    refine ⟨hbegun.key, ?_⟩
    intro hw
    obtain ⟨_, _, _, _, -, -, -, hprepare, -⟩ := hbegun
    exact Store.prepare_effect hw hprepare

/-- The step of a write in which the log takes a record. -/
theorem append_record {lost : Option LogError}
    (hr : (t.step (.append i lost)).broker.records log = t.broker.records log ++ [r]) :
    ∃ d, t.underWay i = some ⟨d, .noted⟩ ∧ r = ⟨d.id, d.encode⟩ ∧
      (t.step (.append i lost)).underWay i =
        some ⟨d, .asked (lost.elim (.ok ()) .error)⟩ := by
  have hsame : (t.step (.append i lost)).broker ≠ t.broker := by
    intro heq
    rw [heq] at hr
    exact records_ne _ _ hr
  cases hm : t.members[i]? with
  | none => exact absurd (by simp [step, hm]) hsame
  | some m =>
    rcases hopen : t.underWay i with _ | ⟨d, _ | _ | answer⟩
    case some.noted =>
      cases happend : t.broker.append m.store.log ⟨d.id, d.encode⟩ with
      | error e => exact absurd (by rw [step_append_error hm hopen happend]; rfl) hsame
      | ok b =>
        have hstep := step_append_ok hm hopen happend lost
        rw [hstep, withWrite_broker] at hr
        refine ⟨d, rfl, Broker.record_of_append happend hr, ?_⟩
        rw [hstep, withWrite_underWay]
    all_goals exact absurd (by simp [step, hm, hopen]) hsame

/-- A whole write in which the log takes a record. -/
theorem write_record (ht : t.Orderly) {w : Write} {now : Timestamp}
    (hr : (t.step (.act (.write i w now))).broker.records log = t.broker.records log ++ [r]) :
    ∃ d m m', t.members[i]? = some m ∧ m.store.prepare w now = .ok d ∧ r = ⟨d.id, d.encode⟩ ∧
      (t.step (.act (.write i w now))).members[i]? = some m' ∧
        m'.store.view = m.store.view.install d := by
  rcases step_write_cases ht i w now with hsame | ⟨m, d, b, -, hm, hprepare, happend, hstep⟩
  · rw [hsame] at hr
    exact absurd hr (records_ne _ r)
  · rw [hstep, withWrite_broker] at hr
    have hmember := withWrite_member hm { m.store with view := m.store.view.install d } b none
    rw [← hstep] at hmember
    exact ⟨d, m, _, hm, hprepare, Broker.record_of_append happend hr, hmember, rfl⟩

/-! ## From the append to the end of a write -/

/-- In the course of the write that is under way in it after the run `es`, the store `i` has folded
a record with the payload of `d`, and this made of its view what `d` makes of it. -/
def Replayed (es : List Event) (i : Nat) (d : FunctionDoc) : Prop :=
  ∃ es₁ e es₂ m₁ m₂, es = es₁ ++ e :: es₂ ∧
    (({} : Traffic).run es₁).StaysOpen i (e :: es₂) ∧
    (({} : Traffic).run es₁).members[i]? = some m₁ ∧
    (({} : Traffic).run (es₁ ++ [e])).members[i]? = some m₂ ∧
    View.Folds d m₁.store.view m₂.store.view

theorem Replayed.concat {d : FunctionDoc} (h : Replayed es i d)
    (hopen : (({} : Traffic).run (es ++ [e])).underWay i ≠ none) : Replayed (es ++ [e]) i d := by
  obtain ⟨es₁, e₁, es₂, m₁, m₂, rfl, hstays, hrest⟩ := h
  have hrun : (({} : Traffic).run es₁).run (e₁ :: es₂ ++ [e]) =
      ({} : Traffic).run ((es₁ ++ e₁ :: es₂) ++ [e]) := by
    simp [run]
  rw [← hrun] at hopen
  exact ⟨es₁, e₁, es₂ ++ [e], m₁, m₂, by simp, hstays.concat hopen, hrest⟩

/-- A payload that is noted stays in flight in an event, or is replayed in it. -/
theorem Progress.inFlight {s s' : Store} {o : Option OpenWrite} {x : OpenWrite}
    (h : Progress i s o e s' (some x)) (hstage : x.stage ≠ .prepared) (horder : s.view.InOrder o)
    (hid : x.doc.id ≠ "") :
    x.doc.encode ∈ s'.view.pending x.doc.id ∨ (o = some x ∧ View.Folds x.doc s.view s'.view) ∨
      ∃ y, o = some y ∧ y.stage ≠ .prepared ∧ y.doc = x.doc ∧
        x.doc.encode ∉ s.view.pending x.doc.id := by
  cases h with
  | reads _ _ hreads =>
    by_cases hmem : x.doc.encode ∈ s.view.pending x.doc.id
    · rcases hreads with hsame | ⟨r, hfold⟩
      · rw [hsame]
        exact .inl hmem
      · have hwriting : s.view.Writing x.doc := by
          obtain ⟨d, _ | _ | answer⟩ := x
          · exact absurd rfl hstage
          · exact horder
          · exact horder
        rw [hfold]
        rcases View.foldRecord_returns hid (hwriting.getLast?_pending hmem) r with hstays | hfolds
        · exact .inl hstays
        · exact .inr (.inl ⟨rfl, hfolds⟩)
    · exact .inr (.inr ⟨x, rfl, hstage, rfl, hmem⟩)
  | prepare => exact absurd rfl hstage
  | note d =>
    left
    rw [Store.note, View.pending_beginLocal, if_pos rfl]
    simp
  | append d lost answer =>
    by_cases hmem : d.encode ∈ s.view.pending d.id
    · exact .inl hmem
    · exact .inr (.inr ⟨⟨d, .noted⟩, rfl, by simp, rfl, hmem⟩)

/-- Once the payload of a write is noted, it stays in flight until it is replayed. -/
theorem inFlight_or_replayed {x : OpenWrite} (hopen : (({} : Traffic).run es).underWay i = some x)
    (hstage : x.stage ≠ .prepared) (hm : (({} : Traffic).run es).members[i]? = some m) :
    x.doc.encode ∈ m.store.view.pending x.doc.id ∨ Replayed es i x.doc := by
  induction es using List.reverseRecOn generalizing x m with
  | nil => cases hopen
  | append_singleton es e ih =>
    have ht := orderly_empty.run es
    have hid := (keyed_run (es ++ [e])).docs i x hopen
    have hstill : (({} : Traffic).run (es ++ [e])).underWay i ≠ none := by
      rw [hopen]
      exact Option.some_ne_none x
    have hm' := hm
    rw [run_concat] at hopen hm
    obtain ⟨m₀, m₁, hm₀, hm₁, hprogress⟩ := exists_progress ht hopen
    rw [hm] at hm₁
    cases hm₁
    rcases hprogress.inFlight hstage (ht.views i m₀ hm₀) hid
      with hmem | ⟨hbefore, hfolds⟩ | ⟨y, hbefore, hstage₀, hdoc, hgone⟩
    · exact .inl hmem
    · have hstays : (({} : Traffic).run es).StaysOpen i [] := by
        refine staysOpen_nil ?_
        rw [hbefore]
        exact Option.some_ne_none x
      rw [run_concat] at hstill
      exact .inr ⟨es, e, [], m₀, m, rfl, hstays.concat hstill, hm₀, hm', hfolds⟩
    · -- it was replayed before this event
      rw [← hdoc] at hgone ⊢
      rcases ih hbefore hstage₀ hm₀ with hmem | hreplayed
      · exact absurd hmem hgone
      · exact .inr (hreplayed.concat hstill)

/-- What a store hears of an append stays the same until the write ends. -/
theorem StaysOpen.asked {d : FunctionDoc} {answer : Except LogError Unit} (ht : t.Orderly)
    (hopen : t.underWay i = some ⟨d, .asked answer⟩) (h : t.StaysOpen i es) :
    (t.run es).underWay i = some ⟨d, .asked answer⟩ := by
  induction es using List.reverseRecOn with
  | nil => exact hopen
  | append_singleton es e ih =>
    have hprefix : t.StaysOpen i es :=
      fun es' hes' => h es' (hes'.trans (List.prefix_append es [e]))
    have hbefore := ih hprefix
    have hstill := h (es ++ [e]) List.prefix_rfl
    rw [run_concat] at hstill ⊢
    obtain ⟨x, hx⟩ := Option.ne_none_iff_exists'.1 hstill
    obtain ⟨m, m', -, -, hprogress⟩ := exists_progress (ht.run es) hx
    rw [hbefore] at hprogress
    rw [hx]
    generalize m'.store = s' at hprogress
    cases hprogress
    rfl

/-- A write that hears of success shows its document, unless replay has shown it already. -/
theorem endWrite_shows {d : FunctionDoc}
    (hopen : (({} : Traffic).run es).underWay i = some ⟨d, .asked (.ok ())⟩)
    (hm : (({} : Traffic).run es).members[i]? = some m) :
    ∃ m', ((({} : Traffic).run es).step (.endWrite i)).members[i]? = some m' ∧
      (m'.store.view = (m.store.view.apply d).2 ∨
        m'.store.view = m.store.view ∧ Replayed es i d) := by
  refine ⟨{ m with store := (m.store.endWrite d (.ok ())).2 }, ?_, ?_⟩
  · rw [step_endWrite hm hopen, withWrite_member hm]
  · have hview : (m.store.endWrite d (.ok ())).2.view = (m.store.view.commitLocal d d.encode).2 :=
      rfl
    rw [hview]
    by_cases hmem : d.encode ∈ m.store.view.pending d.id
    · rw [View.commitLocal_of_mem hmem]
      exact .inl rfl
    · rw [View.commitLocal_of_not_mem hmem]
      have hreplayed := (inFlight_or_replayed hopen (by simp) hm).resolve_left hmem
      exact .inr ⟨rfl, hreplayed⟩

/-! ## The effect of a record -/

/-- What comes of the record `r`, which the event `e` after the run `es` appends in a write of the
document `d` by the store `i`: everywhere that which `d` makes of a view. -/
structure TakesEffect (es : List Event) (i : Nat) (e : Event) (d : FunctionDoc) (r : Record) :
    Prop where
  /-- A view that has nothing in flight for the key folds the record. -/
  fold : ∀ v : View, v.inFlight.get? r.key = none →
    v.foldRecord r = (some (v.apply d).1, (v.apply d).2)
  /-- A whole write notes the payload of the record and shows the document. -/
  whole : ∀ w now, e = .act (.write i w now) → ∃ m m',
    (({} : Traffic).run es).members[i]? = some m ∧
      ((({} : Traffic).run es).step e).members[i]? = some m' ∧
        m'.store.view = ((m.store.view.beginLocal r.key r.payload).apply d).2
  /-- A write that has come to its end step by step shows the document, unless it has been replayed
  to the writer before. -/
  steps : e = .append i none → ∀ es', ((({} : Traffic).run es).step e).StaysOpen i es' →
    ∀ m, (({} : Traffic).run (es ++ e :: es')).members[i]? = some m → ∃ m',
      ((({} : Traffic).run (es ++ e :: es')).step (.endWrite i)).members[i]? = some m' ∧
        (m'.store.view = (m.store.view.apply d).2 ∨
          m'.store.view = m.store.view ∧ Replayed (es ++ e :: es') i d)

theorem foldRecord_of_record {d : FunctionDoc} (hid : d.id ≠ "") (hr : r = ⟨d.id, d.encode⟩)
    {v : View} (hv : v.inFlight.get? r.key = none) :
    v.foldRecord r = (some (v.apply d).1, (v.apply d).2) := by
  rw [hr] at hv ⊢
  exact View.foldRecord_encode hid hv d.id

theorem takesEffect_write {w : Write} {now : Timestamp}
    (hr : ((({} : Traffic).run es).step (.act (.write i w now))).broker.records log =
      (({} : Traffic).run es).broker.records log ++ [r]) :
    ∃ d, r = ⟨d.id, d.encode⟩ ∧ Carries es i w d (.act (.write i w now)) ∧
      TakesEffect es i (.act (.write i w now)) d r := by
  obtain ⟨d, m, m', hm, hprepare, hrecord, hm', hview⟩ := write_record (orderly_empty.run es) hr
  have hcarries : Carries es i w d (.act (.write i w now)) := .whole now hm hprepare
  refine ⟨d, hrecord, hcarries, ?_, ?_, ?_⟩
  · intro v hv
    exact foldRecord_of_record hcarries.doc.1.2 hrecord hv
  · intro w' now' _
    refine ⟨m, m', hm, hm', ?_⟩
    rw [hview, View.install_eq, hrecord]
    rfl
  · intro he
    cases he

theorem takesEffect_append {lost : Option LogError}
    (hr : ((({} : Traffic).run es).step (.append i lost)).broker.records log =
      (({} : Traffic).run es).broker.records log ++ [r]) :
    ∃ w d, r = ⟨d.id, d.encode⟩ ∧ Carries es i w d (.append i lost) ∧
      TakesEffect es i (.append i lost) d r := by
  obtain ⟨d, hopen, hrecord, hasked⟩ := append_record hr
  obtain ⟨w, hbegun⟩ := exists_begun hopen
  have hcarries : Carries es i w d (.append i lost) := .step lost hbegun
  refine ⟨w, d, hrecord, hcarries, ?_, ?_, ?_⟩
  · intro v hv
    exact foldRecord_of_record hcarries.doc.1.2 hrecord hv
  · intro w' now' he
    cases he
  · intro he es' hstays m hm
    cases he
    have hrun : ({} : Traffic).run (es ++ .append i none :: es') =
        ((({} : Traffic).run es).step (.append i none)).run es' := by
      simp [run]
    have horderly := (orderly_empty.run es).step (.append i none)
    refine endWrite_shows ?_ hm
    rw [hrun]
    exact hstays.asked horderly hasked

/-- Every record that a store appends in a write holds, under a key that is not empty, a document
with this key, which is the key that the write is about. Wherever nothing is in flight for the key,
folding the record makes of a view what the document makes of the view of the writer: the document
is stored under the key, or the key is removed, as it is by every deletion. -/
theorem written_record_takes_effect
    (he : (∃ w now, e = .act (.write i w now)) ∨ ∃ lost, e = .append i lost)
    (hr : ((({} : Traffic).run es).step e).broker.records log =
      (({} : Traffic).run es).broker.records log ++ [r]) :
    ∃ w d, Carries es i w d e ∧ r.key = w.key ∧ r.key ≠ "" ∧
      FunctionDoc.decode r.payload = .ok d ∧ d.id = r.key ∧ TakesEffect es i e d r ∧
      (∀ (v : View) k, (v.apply d).2.get? k = if k = r.key then d.effect else v.get? k) ∧
      (w.Deletes → d.effect = none) := by
  have hall : ∃ w d, r = ⟨d.id, d.encode⟩ ∧ Carries es i w d e ∧ TakesEffect es i e d r := by
    rcases he with ⟨w, now, rfl⟩ | ⟨lost, rfl⟩
    · exact ⟨w, takesEffect_write hr⟩
    · exact takesEffect_append hr
  obtain ⟨w, d, rfl, hcarries, heffect⟩ := hall
  obtain ⟨⟨hkey, hne⟩, hdeletes⟩ := hcarries.doc
  exact ⟨w, d, hcarries, hkey, hne, d.decode_encode, rfl, heffect, fun v k => v.get?_apply d k,
    hdeletes⟩

/-- A record of someone else, which takes its key from the record, is delivered to a store, and its
deletion is under way. -/
def deletingAdopted : List Event :=
  let f : FunctionDoc := { name := "f" }
  [.act (.openStore "l" {}), .act (.call (.broker (.append "l" ⟨"k", f.encode⟩))),
    .act (.deliver 0), .prepare 0 (.deleteByKey "k") (.atSecond 0), .note 0]

/-- The record of the deletion removes the key from every view that has nothing in flight for it. -/
theorem written_record_takes_effect_deletingAdopted :
    ∃ r, ((({} : Traffic).run deletingAdopted).step (.append 0 none)).broker.records "l" =
        (({} : Traffic).run deletingAdopted).broker.records "l" ++ [r] ∧ r.key = "k" ∧
      (∀ v : View, v.inFlight.get? "k" = none →
        ∀ k, (v.foldRecord r).2.get? k = if k = "k" then none else v.get? k) ∧
      ∃ d m m', FunctionDoc.decode r.payload = .ok d ∧ d.status = .deleted ∧
        (({} : Traffic).run (deletingAdopted ++ [.append 0 none])).members[0]? = some m ∧
        ((({} : Traffic).run (deletingAdopted ++ [.append 0 none])).step
          (.endWrite 0)).members[0]? = some m' ∧
        (m'.store.view = (m.store.view.apply d).2 ∨ m'.store.view = m.store.view ∧
          Replayed (deletingAdopted ++ [.append 0 none]) 0 d) := by
  obtain ⟨r, -, hr, hkey, hstatus⟩ :
      ∃ r ∈ ((({} : Traffic).run deletingAdopted).step (.append 0 none)).broker.records "l",
        ((({} : Traffic).run deletingAdopted).step (.append 0 none)).broker.records "l" =
          (({} : Traffic).run deletingAdopted).broker.records "l" ++ [r] ∧ r.key = "k" ∧
        (FunctionDoc.decode r.payload).map (·.status) = .ok .deleted := by
    decide +kernel
  obtain ⟨m, hm, hopen⟩ :
      ∃ m ∈ (({} : Traffic).run (deletingAdopted ++ [.append 0 none])).members[0]?,
        ((({} : Traffic).run deletingAdopted).step (.append 0 none)).underWay 0 |>.isSome := by
    decide +kernel
  obtain ⟨w, d, -, -, -, hdecode, hid, heffect, happly, -⟩ :=
    written_record_takes_effect (.inr ⟨none, rfl⟩) hr
  have hdeleted : d.status = .deleted := by
    rw [hdecode] at hstatus
    exact Except.ok.inj hstatus
  have hnone : d.effect = none := by
    rw [FunctionDoc.effect_eq, if_pos hdeleted]
  refine ⟨r, hr, hkey, ?_, ?_⟩
  · intro v hv k
    rw [heffect.fold v (hkey ▸ hv), happly, hkey, hnone]
  · have hstays := staysOpen_nil (Option.isSome_iff_ne_none.1 hopen)
    obtain ⟨m', hm', hshown⟩ := heffect.steps rfl [] hstays m hm
    exact ⟨d, m, m', hdecode, hdeleted, hm, hm', hshown⟩

end Traffic

end ReplayRegistry
