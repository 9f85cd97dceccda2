import ReplayRegistry.Log.Partition

/-!
# Proofs: the order of a log

The entries of a log stand in the order of their offsets, so an offset splits a log in two: the
records behind it, which a reader that has come so far has passed, and the records ahead of it. An
append adds to the records ahead, a delivery moves the first of them behind the reader, and
compaction only takes records away.
-/

namespace ReplayRegistry

namespace Partition

/-- Offsets increase along a log, and the next one has not been used. -/
structure Sound (p : Partition) : Prop where
  /-- The offsets increase. -/
  increasing : p.entries.Pairwise fun e e' => e.offset < e'.offset
  /-- The next offset is above all of them. -/
  below_next : ∀ e ∈ p.entries, e.offset < p.next

/-- The records at an offset or after it. -/
def ahead (p : Partition) (n : Nat) : List Record :=
  (p.entries.filter fun e => n ≤ e.offset).map (·.record)

/-- The records before an offset. -/
def behind (p : Partition) (n : Nat) : List Record :=
  (p.entries.filter fun e => e.offset < n).map (·.record)

theorem sound_empty : empty.Sound := ⟨List.Pairwise.nil, by simp [empty]⟩

theorem Sound.lt_of_mem_after {p : Partition} (h : p.Sound) {before after : List Entry} {e : Entry}
    (hsplit : p.entries = before ++ e :: after) : ∀ f ∈ after, e.offset < f.offset := by
  have hinc := h.increasing
  rw [hsplit, List.pairwise_append, List.pairwise_cons] at hinc
  exact hinc.2.1.1

/-- An offset between two parts of a log splits it into them. -/
theorem split_at {p : Partition} {before after : List Entry} {n : Nat}
    (h : p.entries = before ++ after) (hbefore : ∀ e ∈ before, e.offset < n)
    (hafter : ∀ e ∈ after, n ≤ e.offset) :
    p.ahead n = after.map (·.record) ∧ p.behind n = before.map (·.record) := by
  have h₁ : before.filter (fun e => n ≤ e.offset) = [] :=
    List.filter_eq_nil_iff.2 fun e he => by simpa using hbefore e he
  have h₂ : after.filter (fun e => n ≤ e.offset) = after :=
    List.filter_eq_self.2 fun e he => by simpa using hafter e he
  have h₃ : before.filter (fun e => e.offset < n) = before :=
    List.filter_eq_self.2 fun e he => by simpa using hbefore e he
  have h₄ : after.filter (fun e => e.offset < n) = [] :=
    List.filter_eq_nil_iff.2 fun e he => by simpa using hafter e he
  simp [ahead, behind, h, h₁, h₂, h₃, h₄]

theorem ahead_zero (p : Partition) : p.ahead 0 = p.records :=
  (split_at (List.nil_append p.entries).symm (by simp) fun _ _ => Nat.zero_le _).1

theorem behind_zero (p : Partition) : p.behind 0 = [] :=
  (split_at (List.nil_append p.entries).symm (by simp) fun _ _ => Nat.zero_le _).2

/-- An offset that every entry is below has the whole log behind it. -/
theorem passed_all {p : Partition} {n : Nat} (h : ∀ e ∈ p.entries, e.offset < n) :
    p.ahead n = [] ∧ p.behind n = p.records :=
  split_at (List.append_nil p.entries).symm h (by simp)

theorem ahead_sublist (p : Partition) (n : Nat) : (p.ahead n).Sublist p.records :=
  List.filter_sublist.map _

/-! ## Appends -/

theorem Sound.push {p : Partition} (h : p.Sound) (r : Record) : (p.push r).Sound where
  increasing := by
    refine List.pairwise_append.2 ⟨h.increasing, List.pairwise_singleton _ _, ?_⟩
    intro e he e' he'
    rw [List.mem_singleton.1 he']
    exact h.below_next e he
  below_next e he := by
    rcases List.mem_append.1 he with he | he
    · exact Nat.lt_succ_of_lt (h.below_next e he)
    · rw [List.mem_singleton.1 he]
      exact Nat.lt_succ_self _

theorem ahead_push {p : Partition} {n : Nat} (h : n ≤ p.next) (r : Record) :
    (p.push r).ahead n = p.ahead n ++ [r] := by
  simp [ahead, push, h]

theorem behind_push {p : Partition} {n : Nat} (h : n ≤ p.next) (r : Record) :
    (p.push r).behind n = p.behind n := by
  have hlt : ¬ p.next < n := Nat.not_lt.2 h
  simp [behind, push, hlt]

/-- Nothing stands ahead of the next offset. -/
theorem Sound.ahead_next {p : Partition} (h : p.Sound) : p.ahead p.next = [] :=
  (passed_all h.below_next).1

/-! ## Deliveries -/

/-- The first entry from an offset on is the first of the records ahead, and passing it moves it
behind. -/
theorem Sound.firstFrom_some {p : Partition} (h : p.Sound) {n : Nat} {e : Entry}
    (he : p.firstFrom n = some e) :
    n ≤ e.offset ∧ e ∈ p.entries ∧ p.ahead n = e.record :: p.ahead (e.offset + 1) ∧
      p.behind (e.offset + 1) = p.behind n ++ [e.record] := by
  obtain ⟨hn, before, after, hsplit, hlow⟩ := List.find?_eq_some_iff_append.1 he
  have hn : n ≤ e.offset := of_decide_eq_true hn
  have hlow : ∀ f ∈ before, f.offset < n := fun f hf => by simpa using hlow f hf
  have hhigh := h.lt_of_mem_after hsplit
  have hfrom := split_at hsplit hlow fun f hf => by
    rcases List.mem_cons.1 hf with rfl | hf
    · exact hn
    · exact Nat.le_trans hn (Nat.le_of_lt (hhigh f hf))
  have hpast := split_at (n := e.offset + 1) (hsplit.trans (by simp) : _ = (before ++ [e]) ++ after)
    (fun f hf => by
      rcases List.mem_append.1 hf with hf | hf
      · exact Nat.lt_succ_of_lt (Nat.lt_of_lt_of_le (hlow f hf) hn)
      · rw [List.mem_singleton.1 hf]
        exact Nat.lt_succ_self _)
    hhigh
  exact ⟨hn, by rw [hsplit]; simp, by simp [hfrom.1, hpast.1], by simp [hfrom.2, hpast.2]⟩

/-- An entry from an offset on stands no earlier than the first one. -/
theorem Sound.firstFrom_le {p : Partition} (h : p.Sound) {n : Nat} {e f : Entry}
    (he : p.firstFrom n = some e) (hf : f ∈ p.entries) (hn : n ≤ f.offset) :
    e.offset ≤ f.offset := by
  obtain ⟨-, before, after, hsplit, hbefore⟩ := List.find?_eq_some_iff_append.1 he
  have hafter := h.lt_of_mem_after hsplit
  rw [hsplit, List.mem_append, List.mem_cons] at hf
  rcases hf with hf | rfl | hf
  · have := hbefore f hf
    simp only [Bool.not_eq_true', decide_eq_false_iff_not] at this
    exact absurd hn this
  · exact Nat.le_refl _
  · exact Nat.le_of_lt (hafter f hf)

/-! ## Compaction -/

theorem keepLatest_sublist (es : List Entry) : (es.foldr keepLatest ([], [])).2.Sublist es := by
  induction es with
  | nil => exact List.Sublist.refl _
  | cons e es ih =>
    rw [List.foldr_cons]
    unfold keepLatest
    split
    · exact ih.cons e
    · exact ih.cons_cons e

theorem compact_sublist (p : Partition) : p.compact.entries.Sublist p.entries :=
  keepLatest_sublist p.entries

theorem Sound.compact {p : Partition} (h : p.Sound) : p.compact.Sound where
  increasing := h.increasing.sublist (compact_sublist p)
  below_next e he := h.below_next e ((compact_sublist p).subset he)

theorem ahead_compact_sublist (p : Partition) (n : Nat) :
    (p.compact.ahead n).Sublist (p.ahead n) :=
  ((compact_sublist p).filter _).map _

end Partition

end ReplayRegistry
