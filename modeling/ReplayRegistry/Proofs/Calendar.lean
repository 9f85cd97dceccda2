import Mathlib.Tactic.Set
import Mathlib.Algebra.Ring.Nat
import Mathlib.Order.Monotone.Basic
import ReplayRegistry.Time.Timestamp

/-!
# Proofs: days and dates

`Date.ofDay` and `Date.toDay` are inverse to each other on day numbers, and the dates of the
instants that a timestamp can name lie in the years that can be written.
-/

namespace ReplayRegistry.Time

/-! ## Years -/

/-- A day of a cycle lies in the year that `yearOfCycle` finds. -/
theorem yearOfCycle_spec {day : Nat} (h : day < 146097) :
    yearOfCycle day < 400 ∧ cycleDays (yearOfCycle day) ≤ day ∧
      day < cycleDays (yearOfCycle day + 1) := by
  unfold yearOfCycle
  -- 366 days are at least a year, so that the quotient is the year or the one before it
  simp only []
  split
  · rename_i hy
    unfold cycleDays at hy ⊢
    omega
  · rename_i hy
    unfold cycleDays at hy ⊢
    omega

/-- The number of days of a year of the cycle. -/
theorem cycleDays_succ (q : Int) {y : Nat} (h : y < 400) :
    cycleDays (y + 1) = cycleDays y + (monthLengths (isLeapYear (q * 400 + y + 1))).sum := by
  have hsum : ∀ leap : Bool, (monthLengths leap).sum = if leap then 366 else 365 := by decide
  have hleap : isLeapYear (q * 400 + y + 1) =
      decide ((y + 1) % 4 = 0 ∧ ((y + 1) % 100 ≠ 0 ∨ (y + 1) % 400 = 0)) := by
    unfold isLeapYear
    rw [Bool.eq_iff_iff]
    simp only [Bool.and_eq_true, Bool.or_eq_true, beq_iff_eq, bne_iff_ne, decide_eq_true_eq]
    omega
  rw [hsum, hleap]
  unfold cycleDays
  split
  · rename_i hl
    have := of_decide_eq_true hl
    omega
  · rename_i hl
    have hl' : ¬ ((y + 1) % 4 = 0 ∧ ((y + 1) % 100 ≠ 0 ∨ (y + 1) % 400 = 0)) := by simpa using hl
    omega

theorem yearStart_eq (q : Int) {y : Nat} (h : y < 400) :
    yearStart (q * 400 + y + 1) = q * 146097 + cycleDays y := by
  have hdiv : (q * 400 + y + 1 - 1) / 400 = q := by omega
  have hmod : ((q * 400 + y + 1 - 1) % 400).toNat = y := by omega
  unfold yearStart
  rw [hdiv, hmod]

/-! ## Months -/

theorem foldl_add_eq_sum : ∀ (ms : List Nat) (n : Nat), ms.foldl Nat.add n = n + ms.sum
  | [], n => by simp
  | m :: ms, n => by
    rw [List.foldl_cons, foldl_add_eq_sum ms, List.sum_cons]
    simp only [Nat.add_eq]
    omega

/-- Counting off months splits a day of a year into whole months and a day of the next. -/
theorem countMonths_spec : ∀ {ms : List Nat} {day : Nat}, day < ms.sum →
    (countMonths ms day).1 < ms.length ∧
    (countMonths ms day).2 < ms.getD (countMonths ms day).1 0 ∧
    (ms.take (countMonths ms day).1).sum + (countMonths ms day).2 = day
  | [], day, h => by simp at h
  | m :: ms, day, h => by
    unfold countMonths
    split
    · rename_i hd
      simp [hd]
    · rename_i hd
      rw [List.sum_cons] at h
      have hrest : day - m < ms.sum := by omega
      obtain ⟨h₁, h₂, h₃⟩ := countMonths_spec hrest
      refine ⟨by simpa using h₁, by simpa using h₂, ?_⟩
      simp only [List.take_succ_cons, List.sum_cons]
      omega

/-! ## Dates -/

/-- What `Date.ofDay` computes: the cycle, the year of the cycle and the months counted off. -/
theorem ofDay_spec (n : Int) :
    ∃ y : Nat, y < 400 ∧ y = yearOfCycle (n % 146097).toNat ∧
      (Date.ofDay n).year = n / 146097 * 400 + y + 1 ∧
      (Date.ofDay n).month ≤ 12 ∧ 1 ≤ (Date.ofDay n).month ∧ 1 ≤ (Date.ofDay n).day ∧
      (Date.ofDay n).day ≤ 31 ∧ (Date.ofDay n).exists = true ∧ (Date.ofDay n).toDay = n := by
  have hcycle : (n % 146097).toNat < 146097 := by omega
  obtain ⟨hy, hle, hlt⟩ := yearOfCycle_spec hcycle
  set y := yearOfCycle (n % 146097).toNat with hydef
  set ms := monthLengths (isLeapYear (n / 146097 * 400 + y + 1)) with hms
  have hsum : cycleDays (y + 1) = cycleDays y + ms.sum := cycleDays_succ _ hy
  have hrest : (n % 146097).toNat - cycleDays y < ms.sum := by omega
  obtain ⟨h₁, h₂, h₃⟩ := countMonths_spec hrest
  set p := countMonths ms ((n % 146097).toNat - cycleDays y) with hp
  have hdate : Date.ofDay n = ⟨n / 146097 * 400 + y + 1, p.1 + 1, p.2 + 1⟩ := by
    simp only [Date.ofDay, ← hydef, ← hms, ← hp]
  have hlen : ms.length = 12 := by simp [hms, monthLengths]
  have hmax : ∀ m ∈ ms, m ≤ 31 := by
    rw [hms]
    cases isLeapYear (n / 146097 * 400 + y + 1) <;> decide
  have hday : p.2 < 31 := by
    have hget : ms.getD p.1 0 = ms[p.1] := by simp [h₁]
    have := hmax ms[p.1] (List.getElem_mem h₁)
    omega
  refine ⟨y, hy, rfl, by rw [hdate], by rw [hdate]; simp only []; omega, by rw [hdate]; simp,
    by rw [hdate]; simp, by rw [hdate]; simp only []; omega, ?_, ?_⟩
  · rw [hdate]
    simp only [Date.exists, ← hms, Nat.add_sub_cancel, Bool.and_eq_true, decide_eq_true_eq]
    omega
  · rw [hdate]
    simp only [Date.toDay, ← hms, Nat.add_sub_cancel, yearStart_eq _ hy, foldl_add_eq_sum]
    omega

@[simp] theorem toDay_ofDay (n : Int) : (Date.ofDay n).toDay = n := by
  obtain ⟨_, _, _, _, _, _, _, _, _, h⟩ := ofDay_spec n
  exact h

theorem exists_ofDay (n : Int) : (Date.ofDay n).exists = true := by
  obtain ⟨_, _, _, _, _, _, _, _, h, _⟩ := ofDay_spec n
  exact h

theorem cycleDays_mono : Monotone cycleDays := by
  refine monotone_nat_of_le_succ ?_
  intro y
  unfold cycleDays
  omega

/-- The instants of a timestamp lie in years that can be written. -/
theorem year_ofDay_bounds {n : Int} (h₁ : earliest / 86400 + epochDay ≤ n)
    (h₂ : n ≤ latest / 86400 + epochDay) :
    -262143 ≤ (Date.ofDay n).year ∧ (Date.ofDay n).year ≤ 262142 := by
  obtain ⟨y, hy, hydef, hyear, _⟩ := ofDay_spec n
  have hcycle : (n % 146097).toNat < 146097 := by omega
  obtain ⟨_, hle, hlt⟩ := yearOfCycle_spec hcycle
  rw [← hydef] at hle hlt
  simp only [earliest, latest, epochDay] at h₁ h₂
  rw [hyear]
  constructor
  · -- only the first cycle, which starts before the first day, has years that are too early
    by_contra hc
    have hmono : cycleDays (y + 1) ≤ cycleDays 256 := cycleDays_mono (by omega)
    have h256 : cycleDays 256 = 93502 := by decide
    omega
  · by_contra hc
    have hmono : cycleDays 142 ≤ cycleDays y := cycleDays_mono (by omega)
    have h142 : cycleDays 142 = 51864 := by decide
    omega

end ReplayRegistry.Time
