import ReplayRegistry.Proofs.ViewHistory

/-!
# Proofs: writes that race with replay

Records of any writer can be delivered while a write is under way. A write that succeeds in the end
is shown, unless its own record has come back already; then the view follows the records. A write
that fails in the end takes its note back, but the versions of its key that were delivered meanwhile
have been passed over, and the view does not show them.
-/

namespace ReplayRegistry

/-- A record with the payload of a document that has a key is a version of this key. -/
theorem mem_payloads_encode {d : FunctionDoc} (hid : d.id ≠ "") {rs : List Record} :
    d.encode ∈ payloads d.id rs ↔ ∃ r ∈ rs, r.payload = d.encode := by
  constructor
  · intro h
    obtain ⟨x, hx, hpayload⟩ := List.mem_map.1 h
    obtain ⟨r, hr, hversion⟩ := List.mem_filterMap.1 hx
    exact ⟨r, hr, (Record.version?_eq_some.1 hversion).2.trans hpayload⟩
  · rintro ⟨r, hr, hpayload⟩
    have hfiling : r.filing? = some (d.id, d.effect) := by
      have heq : r = ⟨r.key, d.encode⟩ := by rw [← hpayload]
      rw [heq, Record.filing?_encode hid]
    have hversion : r.version? d.id = some ⟨d.encode, d.effect⟩ :=
      Record.version?_eq_some.2 ⟨hfiling, hpayload⟩
    exact List.mem_map.2 ⟨_, List.mem_filterMap.2 ⟨r, hr, hversion⟩, rfl⟩

namespace View

variable {v : View} {key : RegistryKey} {p : Bytes} {rs : List Record}

/-! ## Writes that succeed -/

/-- A write whose payload no earlier write has in flight is no longer in flight just if a version
with its payload has been delivered. -/
theorem pending_duringWrite_eq_nil_iff (hfresh : p ∉ v.pending key) :
    (v.duringWrite key p rs).pending key = [] ↔ p ∈ payloads key rs := by
  rw [(v.duringWrite_versions key p rs).1, retireAll_eq_nil_iff, returned_iff_of_not_mem hfresh]
  exact List.mem_map.symm

/-- Once the payload has returned, the last version shows. It is the returned one or a later one. -/
theorem get?_duringWrite_of_mem (hfresh : p ∉ v.pending key) (h : p ∈ payloads key rs) :
    ∃ us x ws, versions key rs = us ++ x :: ws ∧ x.payload = p ∧
      (v.duringWrite key p rs).get? key = ((x :: ws).getLast (List.cons_ne_nil x ws)).effect := by
  obtain ⟨x, hx, hpayload⟩ := List.mem_map.1 h
  obtain ⟨us, ws, hversions⟩ := List.append_of_mem hx
  obtain ⟨hpending, hget⟩ := v.duringWrite_versions key p rs
  have hnil := (pending_duringWrite_eq_nil_iff hfresh).2 h
  rw [hpending] at hnil
  refine ⟨us, x, ws, hversions, hpayload, ?_⟩
  rw [hget, shownAfter, if_pos hnil, hversions, List.getLast?_append,
    List.getLast?_eq_some_getLast (List.cons_ne_nil x ws)]
  rfl

/-- What a commit does that races with replay, if no earlier write has the payload in flight. If the
record of the write has not been delivered, the document is shown. If it has been delivered, the
commit does nothing, and the last version that was delivered since shows. -/
theorem commitLocal_duringWrite (v : View) (d : FunctionDoc) (rs : List Record)
    (hfresh : d.encode ∉ v.pending d.id) :
    let w := v.duringWrite d.id d.encode rs
    (d.encode ∉ payloads d.id rs →
      (w.commitLocal d d.encode).1 =
          some (if d.isTombstone then .evicted d.id else .upserted d.id) ∧
        (w.commitLocal d d.encode).2.get? d.id = d.effect) ∧
    (d.encode ∈ payloads d.id rs → w.commitLocal d d.encode = (none, w) ∧
      ∃ us x ws, versions d.id rs = us ++ x :: ws ∧ x.payload = d.encode ∧
        w.get? d.id = ((x :: ws).getLast (List.cons_ne_nil x ws)).effect) ∧
    (d.id ≠ "" → (d.encode ∈ payloads d.id rs ↔ ∃ r ∈ rs, r.payload = d.encode)) := by
  intro w
  have hnil : w.pending d.id = [] ↔ d.encode ∈ payloads d.id rs :=
    pending_duringWrite_eq_nil_iff hfresh
  refine ⟨?_, ?_, fun hid => mem_payloads_encode hid⟩
  · intro hout
    have hmem : d.encode ∈ w.pending d.id := by
      rcases v.duringWrite_cases d.id d.encode rs with hempty | ⟨older, -, hlast, -⟩
      · exact absurd (hnil.1 hempty) hout
      · have hpending : w.pending d.id = older ++ [d.encode] := hlast
        rw [hpending]
        simp
    rw [commitLocal_of_mem hmem]
    constructor
    · unfold apply FunctionDoc.effect
      cases d.isTombstone <;> rfl
    · rw [apply, get?_put, if_pos rfl]
  · intro hin
    have hout : d.encode ∉ w.pending d.id := by
      rw [hnil.2 hin]
      exact List.not_mem_nil
    exact ⟨commitLocal_of_not_mem hout, get?_duringWrite_of_mem hfresh hin⟩

/-- A version that this process writes. -/
def ours : FunctionDoc := { name := "f", id := "k" }

/-- A version of the same key that another process writes. -/
def theirs : FunctionDoc := { name := "f", id := "k", status := .suspended }

/-- A commit is shown over a version that was delivered before the record of its write, and does
nothing after one that was delivered behind it. -/
theorem commitLocal_duringWrite_theirs :
    ((({} : View).duringWrite ours.id ours.encode [⟨"k", theirs.encode⟩]).commitLocal ours
      ours.encode).2.get? ours.id = ours.effect ∧
    (({} : View).duringWrite ours.id ours.encode
        [⟨"k", ours.encode⟩, ⟨"k", theirs.encode⟩]).commitLocal ours ours.encode =
      (none, ({} : View).duringWrite ours.id ours.encode
        [⟨"k", ours.encode⟩, ⟨"k", theirs.encode⟩]) ∧
    ((({} : View).duringWrite ours.id ours.encode
        [⟨"k", ours.encode⟩, ⟨"k", theirs.encode⟩]).commitLocal ours ours.encode).2.get? ours.id =
      some theirs := by
  have hfresh : ours.encode ∉ ({} : View).pending ours.id := by decide +kernel
  have hrace := commitLocal_duringWrite {} ours [⟨"k", theirs.encode⟩] hfresh
  have hrace' := commitLocal_duringWrite {} ours [⟨"k", ours.encode⟩, ⟨"k", theirs.encode⟩] hfresh
  exact ⟨(hrace.1 (by decide +kernel)).2, (hrace'.2.1 (by decide +kernel)).1, by decide +kernel⟩

/-! ## Writes that fail -/

theorem payload_ne_of_mem_versions (h : ∀ r ∈ rs, r.payload ≠ p) :
    ∀ x ∈ versions key rs, x.payload ≠ p := by
  intro x hx
  obtain ⟨r, hr, hversion⟩ := List.mem_filterMap.1 hx
  rw [← (Record.version?_eq_some.1 hversion).2]
  exact h r hr

theorem pending_abortLocal_duringWrite (h : ∀ r ∈ rs, r.payload ≠ p) (k : RegistryKey) :
    ((v.duringWrite key p rs).abortLocal key p).pending k = (v.foldRecords rs).pending k := by
  rw [pending_abortLocal]
  split
  · rename_i hk
    rw [hk, (v.duringWrite_versions key p rs).1, (v.foldRecords_versions rs key).1,
      retireAll_concat (payload_ne_of_mem_versions h)]
    simp
  · rename_i hk
    exact (v.duringWrite_of_ne hk p rs).1

/-- Of the key of a failed write the view shows what it showed before. -/
theorem get?_abortLocal_duringWrite (h : ∀ r ∈ rs, r.payload ≠ p) (k : RegistryKey) :
    ((v.duringWrite key p rs).abortLocal key p).get? k =
      if k = key then v.get? key else (v.foldRecords rs).get? k := by
  have hget : ((v.duringWrite key p rs).abortLocal key p).get? k =
      (v.duringWrite key p rs).get? k := rfl
  rw [hget]
  split
  · rename_i hk
    rw [hk, (v.duringWrite_versions key p rs).2, shownAfter, if_neg]
    rw [retireAll_concat (payload_ne_of_mem_versions h)]
    simp
  · rename_i hk
    exact (v.duringWrite_of_ne hk p rs).2

/-- What a failed write leaves behind, if none of the records that were delivered meanwhile carries
its payload. The same payloads are in flight as if there had been no write, and all other keys show
the same; the key of the write shows what it showed before. So the write has left no trace just if
an earlier write of the key is still in flight, or the last version that was delivered, if any, says
what was shown already. -/
theorem abortLocal_duringWrite_eq_iff (hv : v.Reachable) (key : RegistryKey)
    (h : ∀ r ∈ rs, r.payload ≠ p) :
    let w := (v.duringWrite key p rs).abortLocal key p
    w.inFlight = (v.foldRecords rs).inFlight ∧
    (∀ k, k ≠ key → w.get? k = (v.foldRecords rs).get? k) ∧ w.get? key = v.get? key ∧
    (w = v.foldRecords rs ↔ (v.foldRecords rs).pending key ≠ [] ∨
      ∀ x ∈ (versions key rs).getLast?, x.effect = v.get? key) := by
  intro w
  have hw : w.Reachable := ((hv.beginLocal key p).foldRecords rs).abortLocal key p
  have hfold : (v.foldRecords rs).Reachable := hv.foldRecords rs
  have hpending : ∀ k, w.pending k = (v.foldRecords rs).pending k :=
    pending_abortLocal_duringWrite h
  have hget : ∀ k, w.get? k = if k = key then v.get? key else (v.foldRecords rs).get? k :=
    get?_abortLocal_duringWrite h
  have hother : ∀ k, k ≠ key → w.get? k = (v.foldRecords rs).get? k := fun k hk => by
    rw [hget, if_neg hk]
  have hkey : w.get? key = v.get? key := by rw [hget, if_pos rfl]
  refine ⟨hw.tidy.inFlight_ext hfold.tidy hpending, hother, hkey, ?_⟩
  -- the two views can differ in the entry of the key alone
  obtain ⟨hleft, hshown⟩ := v.foldRecords_versions rs key
  rw [hleft, ← shownAfter_eq_self_iff, ← hshown, ← hkey]
  constructor
  · intro heq
    rw [heq]
  · intro hsame
    refine hw.tidy.ext hfold.tidy (fun k => ?_) hpending
    by_cases hk : k = key
    · rw [hk]
      exact hsame.symm
    · exact hother k hk

/-- A failed write of an empty view leaves a trace, and one on top of another write does not. -/
theorem abortLocal_duringWrite_ne :
    (({} : View).duringWrite "k" ours.encode [⟨"k", theirs.encode⟩]).abortLocal "k" ours.encode ≠
        ({} : View).foldRecords [⟨"k", theirs.encode⟩] ∧
      let v := ({} : View).install { ours with status := .activated }
      (v.duringWrite "k" ours.encode [⟨"k", theirs.encode⟩]).abortLocal "k" ours.encode =
        v.foldRecords [⟨"k", theirs.encode⟩] := by
  have hp : ∀ r ∈ [(⟨"k", theirs.encode⟩ : Record)], r.payload ≠ ours.encode := by decide +kernel
  have hv : (({} : View).install { ours with status := .activated }).Reachable :=
    .commitLocal (.beginLocal .empty _ _) _ _
  obtain ⟨-, -, -, hiff⟩ := abortLocal_duringWrite_eq_iff .empty "k" hp
  obtain ⟨-, -, -, hiff'⟩ := abortLocal_duringWrite_eq_iff hv "k" hp
  refine ⟨fun heq => ?_, hiff'.2 (by decide +kernel)⟩
  exact absurd (hiff.1 heq) (by decide +kernel)

/-- A version that is delivered during a write that fails is lost, although nothing stays in
flight. -/
theorem abortLocal_loses_version :
    ({} : View).Reachable ∧ (∀ r ∈ [(⟨"k", theirs.encode⟩ : Record)], r.payload ≠ ours.encode) ∧
      ((({} : View).duringWrite "k" ours.encode [⟨"k", theirs.encode⟩]).abortLocal "k"
        ours.encode).entries.get? "k" = none ∧
      (({} : View).foldRecords [⟨"k", theirs.encode⟩]).entries.get? "k" = some theirs :=
  ⟨.empty, by decide +kernel⟩

end View

end ReplayRegistry
