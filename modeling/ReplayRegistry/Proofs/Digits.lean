import Mathlib.Data.List.Basic
import Mathlib.Data.List.Induction

/-!
# Proofs: decimal digits

Numbers are written in decimal digits without needless zeros in front. Such digits are the only ones
that are written for the number they stand for.
-/

namespace ReplayRegistry

/-- No needless zeros stand in front. -/
def PlainDigits (ds : List Char) : Prop := ds.head? = some '0' → ds = ['0']

instance (ds : List Char) : Decidable (PlainDigits ds) := inferInstanceAs (Decidable (_ → _))

theorem toDigits_ten_injective {m n : Nat} (h : Nat.toDigits 10 m = Nat.toDigits 10 n) :
    m = n := by
  have hread : Nat.ofDigitChars 10 (Nat.toDigits 10 m) 0 = n := by
    rw [h, Nat.ofDigitChars_ten_toDigits]
  rwa [Nat.ofDigitChars_ten_toDigits] at hread

/-- A number is written without needless zeros in front. -/
theorem head?_toDigits {n : Nat} (h : 0 < n) : (Nat.toDigits 10 n).head? ≠ some '0' := by
  induction n using Nat.strongRecOn with
  | ind n ih =>
    by_cases hn : n < 10
    · have hdigit : ∀ m < 10, 0 < m → m.digitChar ≠ '0' := by decide
      rw [Nat.toDigits_of_lt_base hn]
      simpa using hdigit n hn h
    · have hne : Nat.toDigits 10 (n / 10) ≠ [] := Nat.toDigits_ne_nil
      rw [Nat.toDigits_of_base_le (by decide) (by omega), List.head?_append_of_ne_nil _ hne]
      exact ih (n / 10) (by omega) (by omega)

theorem plainDigits_toDigits (n : Nat) : PlainDigits (Nat.toDigits 10 n) := by
  intro hzero
  rcases Nat.eq_zero_or_pos n with rfl | hn
  · rfl
  · exact absurd hzero (head?_toDigits hn)

theorem digitChar_of_isDigit {c : Char} (h : c.isDigit) :
    c.toNat - '0'.toNat < 10 ∧ (c.toNat - '0'.toNat).digitChar = c := by
  rw [Char.isDigit_iff_toNat] at h
  have h₀ : '0'.toNat = 48 := rfl
  have h₉ : '9'.toNat = 57 := rfl
  have hlt : c.toNat - '0'.toNat < 10 := by omega
  refine ⟨hlt, Char.toNat_inj.1 ?_⟩
  rw [Nat.toNat_digitChar_of_lt_ten hlt]
  omega

/-- Digits without needless zeros are those of the number they stand for. -/
theorem toDigits_ofDigitChars {ds : List Char} (hne : ds ≠ []) (hdigits : ∀ c ∈ ds, c.isDigit)
    (hplain : PlainDigits ds) : Nat.toDigits 10 (Nat.ofDigitChars 10 ds 0) = ds := by
  induction ds using List.reverseRecOn with
  | nil => exact absurd rfl hne
  | append_singleton ds c ih =>
    obtain ⟨hlt, hchar⟩ := digitChar_of_isDigit (hdigits c (by simp))
    rw [Nat.ofDigitChars_append, Nat.ofDigitChars_cons, Nat.ofDigitChars_nil]
    by_cases hds : ds = []
    · subst hds
      rw [Nat.ofDigitChars_nil, Nat.mul_zero, Nat.zero_add, Nat.toDigits_of_lt_base hlt, hchar]
      rfl
    · -- the digits in front are not zero alone: a digit follows them
      have hhead : ds.head? ≠ some '0' := by
        intro hzero
        have hone := hplain (by rwa [List.head?_append_of_ne_nil _ hds])
        exact hds (List.append_eq_singleton_iff.1 hone |>.elim And.left (by simp))
      have hfront := ih hds (fun d hd => hdigits d (by simp [hd])) (fun h => absurd h hhead)
      have hpos : 0 < Nat.ofDigitChars 10 ds 0 := by
        refine Nat.pos_of_ne_zero fun hzero => hhead ?_
        rw [← hfront, hzero]
        rfl
      rw [← Nat.toDigits_append_toDigits (by decide) hpos hlt, hfront,
        Nat.toDigits_of_lt_base hlt, hchar]

theorem toDigits_ofDigitChars_eq_iff {ds : List Char} (hne : ds ≠ [])
    (hdigits : ∀ c ∈ ds, c.isDigit) :
    Nat.toDigits 10 (Nat.ofDigitChars 10 ds 0) = ds ↔ PlainDigits ds :=
  ⟨fun h => h ▸ plainDigits_toDigits _, toDigits_ofDigitChars hne hdigits⟩

end ReplayRegistry
