import ReplayRegistry.Proofs.Digits
import ReplayRegistry.Settings.Value

/-!
# Proofs: whole numbers of settings

A whole number is read from decimal digits with or without a sign, however many zeros stand in
front. It is written in one way only, so it comes back as it was given just if it was given so.
-/

namespace ReplayRegistry.Settings

def Digits (ds : List Char) : Prop := ds ≠ [] ∧ ∀ c ∈ ds, c.isDigit

/-- The text is a whole number in decimal digits, with or without a sign. -/
inductive Numeral : List Char → Int → Prop where
  | bare {ds : List Char} (h : Digits ds) : Numeral ds (Nat.ofDigitChars 10 ds 0)
  | plus {ds : List Char} (h : Digits ds) : Numeral ('+' :: ds) (Nat.ofDigitChars 10 ds 0)
  | minus {ds : List Char} (h : Digits ds) : Numeral ('-' :: ds) (-(Nat.ofDigitChars 10 ds 0 : Int))

/-- The number is written without a plus sign, without needless zeros in front, and without a sign
if it is zero. -/
def PlainNumeral : List Char → Prop
  | '+' :: _ => False
  | '-' :: ds => ds.head? ≠ some '0'
  | ds => PlainDigits ds

theorem Digits.ne_sign {ds ds' : List Char} {c : Char} (h : Digits ds) (hc : c.isDigit = false) :
    ds ≠ c :: ds' := by
  rintro rfl
  rw [h.2 c (by simp)] at hc
  cases hc

theorem Numeral.exists_digit {s : List Char} {i : Int} (h : Numeral s i) : ∃ c ∈ s, c.isDigit := by
  cases h with
  | bare h | plus h | minus h =>
    obtain ⟨c, hc⟩ := List.exists_mem_of_ne_nil _ h.1
    exact ⟨c, by simp [hc], h.2 c hc⟩

/-! ## Reading -/

theorem hexValue?_lt_ten {c : Char} {v : Nat} :
    Bytes.hexValue? c = some v ∧ v < 10 ↔ c.isDigit ∧ v = c.toNat - '0'.toNat := by
  have hle : ∀ a b : Char, a ≤ b ↔ a.toNat ≤ b.toNat := fun _ _ => UInt32.le_iff_toNat_le
  have h₀ : '0'.toNat = 48 := rfl
  have h₉ : '9'.toNat = 57 := rfl
  have ha : 'a'.toNat = 97 := rfl
  have hA : 'A'.toNat = 65 := rfl
  rw [Char.isDigit_iff_toNat]
  unfold Bytes.hexValue?
  simp only [hle]
  split
  · simp only [Option.some.injEq]
    omega
  split
  · simp only [Option.some.injEq]
    omega
  split
  · simp only [Option.some.injEq]
    omega
  · simp only [reduceCtorEq, false_and, false_iff]
    omega

/-- One character is taken for the next digit of a number. -/
theorem addDigit_eq_some_iff {n m : Nat} {c : Char} :
    (match Bytes.hexValue? c with
      | some v => if v < 10 then some (10 * n + v) else none
      | none => none) = some m ↔ c.isDigit ∧ m = 10 * n + (c.toNat - '0'.toNat) := by
  have hvalue := @hexValue?_lt_ten c
  constructor
  · intro h
    split at h
    · rename_i v hv
      split at h
      · rename_i hlt
        obtain ⟨hdigit, rfl⟩ := hvalue.1 ⟨hv, hlt⟩
        cases h
        exact ⟨hdigit, rfl⟩
      · cases h
    · cases h
  · rintro ⟨hdigit, rfl⟩
    obtain ⟨hv, hlt⟩ := hvalue.2 ⟨hdigit, rfl⟩
    simp only [hv, if_pos hlt]

/-- A run of digits is read from the left. -/
theorem foldlM_digits {add : Nat → Char → Option Nat} {ds : List Char} {n m : Nat}
    (hadd : ∀ n c m, add n c = some m ↔ c.isDigit ∧ m = 10 * n + (c.toNat - '0'.toNat)) :
    ds.foldlM add n = some m ↔ (∀ c ∈ ds, c.isDigit) ∧ m = Nat.ofDigitChars 10 ds n := by
  induction ds generalizing n with
  | nil =>
    rw [List.foldlM_nil, Nat.ofDigitChars_nil]
    exact ⟨fun h => ⟨by simp, (Option.some.inj h).symm⟩, fun h => congrArg some h.2.symm⟩
  | cons c ds ih =>
    rw [List.foldlM_cons, Option.bind_eq_bind, Option.bind_eq_some_iff, Nat.ofDigitChars_cons,
      List.forall_mem_cons, and_assoc]
    constructor
    · rintro ⟨k, hk, hrest⟩
      obtain ⟨hc, rfl⟩ := (hadd n c k).1 hk
      exact ⟨hc, ih.1 hrest⟩
    · rintro ⟨hc, hrest⟩
      exact ⟨_, (hadd n c _).2 ⟨hc, rfl⟩, ih.2 hrest⟩

/-- The whole number has 64 bits. -/
def Fits (i : Int) : Prop := -9223372036854775808 ≤ i ∧ i < 9223372036854775808

def signed (negative : Bool) (n : Nat) : Int := if negative then -n else n

theorem int64?_ten_of_split {s ds : List Char} {negative : Bool} {i : Int}
    (hsplit : Binary64.splitSign s = (negative, ds)) :
    Yaml.int64? 10 s = some i ↔
      Digits ds ∧ i = signed negative (Nat.ofDigitChars 10 ds 0) ∧ Fits i := by
  have hread n := @foldlM_digits _ ds 0 n fun _ _ _ => addDigit_eq_some_iff
  unfold Yaml.int64?
  simp only [hsplit]
  by_cases hne : ds = []
  · simp [hne, Digits]
  rw [if_neg (by simpa using hne)]
  split
  · rename_i hfold
    constructor
    · rintro ⟨⟩
    · rintro ⟨hds, -, -⟩
      cases hfold.symm.trans ((hread _).2 ⟨hds.2, rfl⟩)
  · rename_i n hfold
    obtain ⟨hdigits, rfl⟩ := (hread n).1 hfold
    rw [Option.ite_none_right_eq_some]
    unfold signed Fits
    constructor
    · rintro ⟨hfits, hi⟩
      cases hi
      exact ⟨⟨hne, hdigits⟩, rfl, hfits⟩
    · rintro ⟨-, rfl, hfits⟩
      exact ⟨hfits, rfl⟩

theorem splitSign_cases (s : List Char) :
    (∃ ds, s = '-' :: ds ∧ Binary64.splitSign s = (true, ds)) ∨
      (∃ ds, s = '+' :: ds ∧ Binary64.splitSign s = (false, ds)) ∨
      Binary64.splitSign s = (false, s) := by
  unfold Binary64.splitSign
  split
  · exact .inl ⟨_, rfl, rfl⟩
  · exact .inr (.inl ⟨_, rfl, rfl⟩)
  · exact .inr (.inr rfl)

theorem splitSign_of_digits {ds : List Char} (h : Digits ds) :
    Binary64.splitSign ds = (false, ds) := by
  rcases splitSign_cases ds with ⟨ds', heq, -⟩ | ⟨ds', heq, -⟩ | hsplit
  · exact absurd heq (h.ne_sign rfl)
  · exact absurd heq (h.ne_sign rfl)
  · exact hsplit

theorem int64?_ten_iff {s : List Char} {i : Int} :
    Yaml.int64? 10 s = some i ↔ Numeral s i ∧ Fits i := by
  constructor
  · intro h
    rcases splitSign_cases s with ⟨ds, rfl, hsplit⟩ | ⟨ds, rfl, hsplit⟩ | hsplit
    · obtain ⟨hds, rfl, hfits⟩ := (int64?_ten_of_split hsplit).1 h
      exact ⟨.minus hds, hfits⟩
    · obtain ⟨hds, rfl, hfits⟩ := (int64?_ten_of_split hsplit).1 h
      exact ⟨.plus hds, hfits⟩
    · obtain ⟨hs, rfl, hfits⟩ := (int64?_ten_of_split hsplit).1 h
      exact ⟨.bare hs, hfits⟩
  · rintro ⟨hnumeral, hfits⟩
    cases hnumeral with
    | bare hds => exact (int64?_ten_of_split (splitSign_of_digits hds)).2 ⟨hds, rfl, hfits⟩
    | plus hds => exact (int64?_ten_of_split rfl).2 ⟨hds, rfl, hfits⟩
    | minus hds => exact (int64?_ten_of_split rfl).2 ⟨hds, rfl, hfits⟩

/-! ## Writing -/

theorem Digits.plainNumeral_iff {ds : List Char} (h : Digits ds) :
    PlainNumeral ds ↔ PlainDigits ds := by
  unfold PlainNumeral
  split
  · exact absurd rfl (h.ne_sign rfl)
  · exact absurd rfl (h.ne_sign rfl)
  · rfl

/-- Digits that stand for zero begin with one. -/
theorem Digits.head?_of_eq_zero {ds : List Char} (h : Digits ds)
    (hzero : Nat.ofDigitChars 10 ds 0 = 0) : ds.head? = some '0' := by
  by_contra hhead
  have hds := toDigits_ofDigitChars h.1 h.2 fun h' => absurd h' hhead
  rw [hzero] at hds
  rw [← hds] at hhead
  exact hhead rfl

/-- A number is written as it has been read if it was written plainly. -/
theorem Numeral.printInt_eq_iff {s : List Char} {i : Int} (h : Numeral s i) :
    (Value.printInt i).toList = s ↔ PlainNumeral s := by
  unfold Value.printInt
  rw [String.toList_ofList]
  cases h with
  | bare h =>
    rw [if_neg (by omega), Int.natAbs_natCast, h.plainNumeral_iff,
      toDigits_ofDigitChars_eq_iff h.1 h.2]
  | @plus ds h =>
    rw [if_neg (by omega), Int.natAbs_natCast]
    refine ⟨fun heq => ?_, False.elim⟩
    have hsign : '+' ∈ Nat.toDigits 10 (Nat.ofDigitChars 10 ds 0) := by simp [heq]
    cases Nat.isDigit_of_mem_toDigits (by decide) (by decide) hsign
  | @minus ds h =>
    rw [Int.natAbs_neg, Int.natAbs_natCast]
    by_cases hzero : Nat.ofDigitChars 10 ds 0 = 0
    · rw [if_neg (by omega), hzero]
      refine ⟨fun heq => ?_, fun hplain => absurd (h.head?_of_eq_zero hzero) hplain⟩
      cases heq
    · rw [if_pos (by omega), List.cons_inj_right, toDigits_ofDigitChars_eq_iff h.1 h.2]
      refine ⟨fun hplain hhead => hzero ?_, fun hhead h' => absurd h' hhead⟩
      rw [hplain hhead]
      rfl

end ReplayRegistry.Settings
