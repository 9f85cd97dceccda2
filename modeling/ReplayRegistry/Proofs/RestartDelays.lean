import ReplayRegistry.Store.Replay

/-!
# Proofs: delays between attempts

The base delays of a sequence are its least delay, doubled again and again and held at the greatest
delay. Only the first of them is not held there. So a sequence keeps to its bounds if they are in
order; if they are not, its first delay is above the greatest one and above all that follow.
-/

namespace ReplayRegistry

namespace Backoff

/-- The base delay of the number `n`, counted from 0. -/
def base (b : Backoff) : Nat → Nat
  | 0 => b.least
  | n + 1 => min (2 * b.base n) b.greatest

/-- A sequence after its first `n` delays. -/
def after (b : Backoff) (n : Nat) : Backoff :=
  { b with left := b.left - n, last := if n = 0 then none else some (b.base (n - 1)) }

variable {b : Backoff} {n : Nat}

theorem after_zero (h : b.last = none) : b.after 0 = b := by
  cases b
  cases h
  rfl

/-! ## One delay after another -/

theorem grow_eq_min (greatest delay : Nat) : grow greatest delay = min (2 * delay) greatest := by
  unfold grow
  split <;> omega

theorem base_succ (b : Backoff) (n : Nat) : b.base (n + 1) = min (2 * b.base n) b.greatest := rfl

theorem base_succ_le (b : Backoff) (n : Nat) : b.base (n + 1) ≤ b.greatest :=
  Nat.min_le_right _ _

theorem next?_after (h : n < b.left) : (b.after n).next? = some (b.base n, b.after (n + 1)) := by
  have hleft : b.left - n = b.left - (n + 1) + 1 := by omega
  cases n with
  | zero => simp [next?, after, hleft, base]
  | succ n => simp [next?, after, hleft, grow_eq_min, ← base_succ]

theorem next?_after_of_le (h : b.left ≤ n) : (b.after n).next? = none := by
  simp [next?, after, Nat.sub_eq_zero_of_le h]

/-! ## All delays -/

theorem take_after (b : Backoff) (n k : Nat) :
    take k (b.after n) = (List.range' n (min k (b.left - n))).map b.base := by
  induction k generalizing n with
  | zero => simp [take]
  | succ k ih =>
    rcases Nat.lt_or_ge n b.left with hlt | hge
    · have hsize : min (k + 1) (b.left - n) = min k (b.left - (n + 1)) + 1 := by omega
      simp only [take, next?_after hlt, hsize, List.range'_succ, List.map_cons, ih]
    · simp [take, next?_after_of_le hge, Nat.sub_eq_zero_of_le hge]

theorem take_eq (h : b.last = none) (k : Nat) :
    take k b = (List.range (min k b.left)).map b.base := by
  have hall := take_after b 0 k
  rwa [after_zero h, Nat.sub_zero, ← List.range_eq_range'] at hall

theorem toList_eq (h : b.last = none) : b.toList = (List.range b.left).map b.base := by
  rw [toList, take_eq h, Nat.min_self]

theorem toList_getElem?_eq_some_iff (h : b.last = none) {delay : Nat} :
    b.toList[n]? = some delay ↔ n < b.left ∧ b.base n = delay := by
  simp only [toList_eq h, List.getElem?_eq_some_iff, List.length_map, List.length_range,
    List.getElem_map, List.getElem_range, exists_prop]

/-! ## Bounds -/

/-- Delays that the greatest one bounds do not decrease. -/
theorem base_le_base {m : Nat} (h : b.base n ≤ b.greatest) (hle : n ≤ m) : b.base n ≤ b.base m := by
  induction hle with
  | refl => exact Nat.le_refl _
  | step hle ih =>
    rw [base_succ]
    omega

theorem base_le_greatest (h : b.least ≤ b.greatest) (n : Nat) : b.base n ≤ b.greatest := by
  cases n with
  | zero => exact h
  | succ n => exact b.base_succ_le n

theorem toList_le_greatest_iff (h : b.last = none) :
    (∀ d ∈ b.toList, d ≤ b.greatest) ↔ b.left = 0 ∨ b.least ≤ b.greatest := by
  simp only [toList_eq h, List.mem_map, List.mem_range, forall_exists_index, and_imp,
    forall_apply_eq_imp_iff₂]
  constructor
  · intro hbound
    rcases Nat.eq_zero_or_pos b.left with hnone | hsome
    · exact .inl hnone
    · exact .inr (hbound 0 hsome)
  · rintro (hnone | hle) n hn
    · omega
    · exact base_le_greatest hle n

theorem toList_pairwise_le_iff (h : b.last = none) :
    b.toList.Pairwise (· ≤ ·) ↔ b.left ≤ 1 ∨ b.least ≤ b.greatest := by
  rw [toList_eq h, List.pairwise_map]
  constructor
  · intro hsorted
    rcases Nat.lt_or_ge 1 b.left with hleft | hleft
    · have hfirst := List.pairwise_iff_getElem.1 hsorted 0 1 (by simp; omega) (by simpa using hleft)
        Nat.zero_lt_one
      simp only [List.getElem_range] at hfirst
      exact .inr (Nat.le_trans hfirst (b.base_succ_le 0))
    · exact .inl hleft
  · rintro (hleft | hle)
    · refine List.pairwise_lt_range.imp_of_mem ?_
      intro n m hn hm hlt
      have hsize := List.mem_range.1 hm
      omega
    · exact List.pairwise_lt_range.imp fun hlt =>
        base_le_base (base_le_greatest hle _) (Nat.le_of_lt hlt)

end Backoff

/-- A configuration gives exactly as many delays as it allows restarts, and none after them. Each
base delay is twice the one before, but not above the longest delay. They all keep within the
longest delay just if there are none of them or the first delay does, and never decrease just if
there is no second one or the first delay is within the longest. -/
theorem ReplaySettings.backoff_keeps_bounds_iff (s : ReplaySettings) :
    (∀ n, (Backoff.take n s.backoff).length = min n s.maxRestarts) ∧
      (∀ d, s.backoff.toList[0]? = some d → d = s.minDelay) ∧
      (∀ n d d', s.backoff.toList[n]? = some d → s.backoff.toList[n + 1]? = some d' →
        d' = min (2 * d) s.maxDelay) ∧
      ((∀ d ∈ s.backoff.toList, d ≤ s.maxDelay) ↔ s.maxRestarts = 0 ∨ s.minDelay ≤ s.maxDelay) ∧
      (s.backoff.toList.Pairwise (· ≤ ·) ↔ s.maxRestarts ≤ 1 ∨ s.minDelay ≤ s.maxDelay) := by
  have hfresh : s.backoff.last = none := rfl
  refine ⟨fun n => ?_, fun d hd => ?_, fun n d d' hd hd' => ?_,
    Backoff.toList_le_greatest_iff hfresh, Backoff.toList_pairwise_le_iff hfresh⟩
  · rw [Backoff.take_eq hfresh, List.length_map, List.length_range]
    rfl
  · obtain ⟨-, rfl⟩ := (Backoff.toList_getElem?_eq_some_iff hfresh).1 hd
    rfl
  · obtain ⟨-, rfl⟩ := (Backoff.toList_getElem?_eq_some_iff hfresh).1 hd
    obtain ⟨-, rfl⟩ := (Backoff.toList_getElem?_eq_some_iff hfresh).1 hd'
    exact s.backoff.base_succ n

/-- A first delay above the longest one is waited for in full, and the delays after it are
shorter. -/
theorem ReplaySettings.first_delay_above_longest :
    let s : ReplaySettings := ⟨64, 8, 4⟩
    s.backoff.toList = [64, 8, 8, 8] ∧ ¬ (∀ d ∈ s.backoff.toList, d ≤ s.maxDelay) ∧
      ¬ s.backoff.toList.Pairwise (· ≤ ·) := by
  decide

end ReplayRegistry
