import ReplayRegistry.Proofs.ClusterSteps

/-!
# Proofs: what is in flight after a write

As long as a store does not write a key again, the versions of the key that are delivered to it
decide what is in flight for the key and what the view shows of it. A write whose payload has
returned is no longer in flight; from then on the view shows the version that was delivered last.
-/

namespace ReplayRegistry

open Time (Timestamp)

namespace View

/-- The payloads of `ps` that stay in flight once versions have been delivered. -/
def retireAll (ps : List Bytes) (vs : List Version) : List Bytes :=
  vs.foldl (fun ps v => retire v.payload ps) ps

theorem retireAll_nil (vs : List Version) : retireAll [] vs = [] := by
  induction vs with
  | nil => rfl
  | cons v vs ih => exact ih

theorem retireAll_append (ps : List Bytes) (vs ws : List Version) :
    retireAll ps (vs ++ ws) = retireAll (retireAll ps vs) ws := List.foldl_append

/-- A payload that was not in flight is not in flight later. -/
theorem retireAll_suffix (ps : List Bytes) (vs : List Version) : retireAll ps vs <:+ ps := by
  induction vs generalizing ps with
  | nil => exact List.suffix_refl ps
  | cons v vs ih => exact (ih (retire v.payload ps)).trans (retire_suffix v.payload ps)

/-- A payload that is not delivered stays in flight, behind those that stay anyway. -/
theorem retireAll_concat {ps : List Bytes} {p : Bytes} {vs : List Version}
    (h : ∀ x ∈ vs, x.payload ≠ p) : retireAll (ps ++ [p]) vs = retireAll ps vs ++ [p] := by
  induction vs generalizing ps with
  | nil => rfl
  | cons x vs ih =>
    obtain ⟨hx, hvs⟩ := List.forall_mem_cons.1 h
    have hretire : retire x.payload (ps ++ [p]) = retire x.payload ps ++ [p] :=
      retire_concat (.inr hx)
    rw [retireAll, List.foldl_cons, hretire]
    exact ih hvs

/-- What a view shows of a key once versions of it have been delivered, while `ps` were in flight
and `effect` was shown. -/
def shownAfter (ps : List Bytes) (effect : Option FunctionDoc) (vs : List Version) :
    Option FunctionDoc :=
  if retireAll ps vs = [] then (vs.getLast?.map (·.effect)).getD effect else effect

theorem shownAfter_append (ps : List Bytes) (effect : Option FunctionDoc) (vs ws : List Version) :
    shownAfter ps effect (vs ++ ws) =
      shownAfter (retireAll ps vs) (shownAfter ps effect vs) ws := by
  unfold shownAfter
  rw [retireAll_append, List.getLast?_append]
  by_cases hvs : retireAll ps vs = []
  · rw [hvs, retireAll_nil, if_pos rfl, if_pos rfl, if_pos rfl]
    cases ws.getLast? <;> cases vs.getLast? <;> rfl
  · rw [if_neg hvs]
    split
    · rename_i hws
      cases hlast : ws.getLast? with
      | none =>
        rw [List.getLast?_eq_none_iff.1 hlast] at hws
        exact absurd hws hvs
      | some v => rfl
    · rfl

theorem shownAfter_nil (ps : List Bytes) (effect : Option FunctionDoc) :
    shownAfter ps effect [] = effect := by
  unfold shownAfter
  split <;> rfl

/-- What is in flight for a key, and what is shown of it, once a record has been delivered. -/
theorem foldRecord_versions (v : View) (r : Record) (key : RegistryKey) :
    (v.foldRecord r).2.pending key = retireAll (v.pending key) (versions key [r]) ∧
      (v.foldRecord r).2.get? key =
        shownAfter (v.pending key) (v.get? key) (versions key [r]) := by
  rw [versions_singleton]
  cases hx : r.version? key with
  | none =>
    obtain ⟨hpending, hget⟩ := foldRecord_of_none (v := v) hx
    rw [hpending, hget, Option.toList_none, shownAfter_nil]
    exact ⟨rfl, rfl⟩
  | some x =>
    obtain ⟨hpending, hget⟩ := foldRecord_of_some (v := v) hx
    rw [hpending, hget]
    exact ⟨rfl, rfl⟩

theorem shownAfter_eq_self_iff {ps : List Bytes} {effect : Option FunctionDoc}
    {vs : List Version} : shownAfter ps effect vs = effect ↔
      retireAll ps vs ≠ [] ∨ ∀ x ∈ vs.getLast?, x.effect = effect := by
  unfold shownAfter
  by_cases hnil : retireAll ps vs = []
  · cases hlast : vs.getLast? with
    | none => simp [hnil]
    | some x => simp [hnil]
  · simp [hnil]

/-- The payload of a write has returned: it has been delivered when no equal payload of an earlier
write was in flight any more. -/
def Returned (before : List Bytes) (payload : Bytes) (vs : List Version) : Prop :=
  ∃ us v ws, vs = us ++ v :: ws ∧ v.payload = payload ∧ payload ∉ retireAll before us

/-- Nothing is in flight any more just if the payload of the last write has returned. -/
theorem retireAll_eq_nil_iff {before : List Bytes} {payload : Bytes} {vs : List Version} :
    retireAll (before ++ [payload]) vs = [] ↔ Returned before payload vs := by
  induction vs generalizing before with
  | nil =>
    constructor
    · intro h
      exact absurd h (by simp [retireAll])
    · rintro ⟨us, v, ws, h, -⟩
      exact absurd h (by simp)
  | cons v vs ih =>
    have hstep : retireAll (before ++ [payload]) (v :: vs) =
        retireAll (retire v.payload (before ++ [payload])) vs := rfl
    rw [hstep]
    by_cases hbefore : v.payload ∈ before
    · -- an earlier write is retired, and this one stays
      rw [retire_concat (.inl hbefore), ih]
      constructor
      · rintro ⟨us, v', ws, rfl, hv', hus⟩
        exact ⟨v :: us, v', ws, rfl, hv', hus⟩
      · rintro ⟨us, v', ws, hvs, hv', hus⟩
        cases us with
        | nil =>
          obtain ⟨rfl, -⟩ := List.cons.inj hvs
          exact absurd (hv' ▸ hbefore) hus
        | cons u us =>
          obtain ⟨rfl, rfl⟩ := List.cons.inj hvs
          exact ⟨us, v', ws, rfl, hv', hus⟩
    · by_cases hpayload : v.payload = payload
      · rw [← hpayload, retire_append_cons hbefore, retireAll_nil]
        exact ⟨fun _ => ⟨[], v, vs, rfl, rfl, hbefore⟩, fun _ => rfl⟩
      · have hretire : retire v.payload (before ++ [payload]) = before ++ [payload] :=
          retire_of_not_mem (by simp [hbefore, hpayload])
        rw [hretire, ih]
        constructor
        · rintro ⟨us, v', ws, rfl, hv', hus⟩
          refine ⟨v :: us, v', ws, rfl, hv', ?_⟩
          rw [retireAll, List.foldl_cons, retire_of_not_mem hbefore]
          exact hus
        · rintro ⟨us, v', ws, hvs, hv', hus⟩
          cases us with
          | nil =>
            obtain ⟨rfl, -⟩ := List.cons.inj hvs
            exact absurd hv' hpayload
          | cons u us =>
            obtain ⟨rfl, rfl⟩ := List.cons.inj hvs
            rw [retireAll, List.foldl_cons, retire_of_not_mem hbefore] at hus
            exact ⟨us, v', ws, rfl, hv', hus⟩

/-- A payload that no other write has in flight returns with its first delivery. -/
theorem returned_iff_of_not_mem {before : List Bytes} {payload : Bytes} {vs : List Version}
    (h : payload ∉ before) : Returned before payload vs ↔ ∃ v ∈ vs, v.payload = payload := by
  constructor
  · rintro ⟨us, v, ws, rfl, hv, -⟩
    exact ⟨v, by simp, hv⟩
  · rintro ⟨v, hmem, hv⟩
    obtain ⟨us, ws, rfl⟩ := List.append_of_mem hmem
    exact ⟨us, v, ws, rfl, hv, fun hus => h ((retireAll_suffix before us).subset hus)⟩

end View

/-! ## After a write -/

namespace Follower

variable {x y : Follower} {e : Event}

/-- An event that does not write a key. -/
theorem Step.since (hs : Step x e y) {key : RegistryKey} (hkey : key ∉ e.written) :
    y.view.pending key = View.retireAll (x.view.pending key) (versions key e.delivered) ∧
      y.view.get? key = View.shownAfter (x.view.pending key) (x.view.get? key)
        (versions key e.delivered) := by
  have hsame := View.shownAfter_nil (x.view.pending key) (x.view.get? key)
  cases hs with
  | write d hid =>
    have hne : key ≠ d.id := fun h => hkey (by simp [Event.written, h])
    rw [View.pending_install, View.get?_install, if_neg hne, if_neg hne]
    exact ⟨rfl, hsame.symm⟩
  | @deliver n f hplace hfirst => exact View.foldRecord_versions x.view f.record key
  | _ => exact ⟨rfl, hsame.symm⟩

end Follower

namespace Cluster

variable {c : Cluster} {i : Nat} {m m' : Member}

/-- A store that does not write a key in a run. -/
theorem Sound.since (h : c.Sound) (hm : c.members[i]? = some m) {as : List Action}
    {key : RegistryKey} (hkey : key ∉ c.collect (written i) as) :
    ∃ m', (c.run as).members[i]? = some m' ∧ m'.store.log = m.store.log ∧
      m'.store.view.pending key = View.retireAll (m.store.view.pending key)
        (versions key (c.collect (delivered i) as)) ∧
      m'.store.view.get? key = View.shownAfter (m.store.view.pending key) (m.store.view.get? key)
        (versions key (c.collect (delivered i) as)) := by
  induction as generalizing c m with
  | nil =>
    exact ⟨m, hm, rfl, rfl, (View.shownAfter_nil _ _).symm⟩
  | cons a as ih =>
    obtain ⟨hfirst, hrest⟩ := not_or.1 (List.mem_append.not.1 hkey)
    obtain ⟨m₁, e, hm₁, hsees⟩ := h.sees hm a
    rw [hsees.written] at hfirst
    obtain ⟨hpending₁, hget₁⟩ := hsees.step.since hfirst
    obtain ⟨m', hm', hlog, hpending, hget⟩ := ih (h.step a) hm₁ hrest
    have hview₁ : ((c.step a).2.follower m₁).view = m₁.store.view := rfl
    have hview : (c.follower m).view = m.store.view := rfl
    rw [hview₁, hview] at hpending₁ hget₁
    refine ⟨m', hm', hlog.trans hsees.log, ?_, ?_⟩
    · rw [hpending, hpending₁, collect, versions_append, View.retireAll_append, hsees.delivered]
    · rw [hget, hget₁, hpending₁, collect, versions_append, View.shownAfter_append,
        hsees.delivered]

/-- What a store shows of a key after it has written a document of the key, and as long as it does
not write one again. -/
theorem Sound.after_write (h : c.Sound) (hm : c.members[i]? = some m) {w : Write} {now : Timestamp}
    {d : FunctionDoc} (hprepare : m.store.prepare w now = .ok d)
    (hwrite : d.id ∈ c.written i (.write i w now)) {bs : List Action}
    (hkey : d.id ∉ (c.step (.write i w now)).2.collect (written i) bs)
    (hm' : ((c.step (.write i w now)).2.run bs).members[i]? = some m') :
    m'.store.view.pending d.id = View.retireAll (m.store.view.pending d.id ++ [d.encode])
        (versions d.id ((c.step (.write i w now)).2.collect (delivered i) bs)) ∧
      m'.store.view.get? d.id = View.shownAfter (m.store.view.pending d.id ++ [d.encode]) d.effect
        (versions d.id ((c.step (.write i w now)).2.collect (delivered i) bs)) := by
  obtain ⟨m₁, hm₁, -, hstep⟩ := h.wrote hm hprepare hwrite
  have hview : m₁.store.view = m.store.view.install d :=
    congrArg Follower.view hstep.of_write.2
  obtain ⟨m₂, hm₂, -, hpending, hget⟩ := (h.step _).since hm₁ hkey
  rw [hm'] at hm₂
  cases hm₂
  rw [hview, View.pending_install, if_pos rfl] at hpending
  rw [hview, View.pending_install, View.get?_install, if_pos rfl, if_pos rfl] at hget
  exact ⟨hpending, hget⟩

end Cluster

end ReplayRegistry
