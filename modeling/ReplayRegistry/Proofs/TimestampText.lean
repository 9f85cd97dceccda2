import ReplayRegistry.Proofs.Calendar
import ReplayRegistry.Time.Text

/-!
# Proofs: a printed timestamp reads as itself

The printed form is read mark by mark and field by field. Every field is a padded number, so the
lemmas about numbers come first.
-/

namespace ReplayRegistry.Time

open Text (trimStart isBlank)

/-! ## Numbers -/

theorem isDigit_of_mem_padded {width n : Nat} {c : Char} (h : c ∈ padded width n) :
    c.isDigit = true := by
  simp only [padded, List.mem_append, List.mem_replicate] at h
  rcases h with ⟨-, rfl⟩ | h
  · rfl
  · exact Nat.isDigit_of_mem_toDigits (by decide) (by decide) h

theorem padded_ne_nil (width n : Nat) : padded width n ≠ [] := by
  simp [padded]

theorem digitsValue_eq (ds : List Char) : digitsValue ds = Nat.ofDigitChars 10 ds 0 := rfl

@[simp] theorem digitsValue_padded (width n : Nat) : digitsValue (padded width n) = n := by
  simp [digitsValue_eq, padded, Nat.ofDigitChars_append]

theorem length_padded {width n : Nat} (hw : 0 < width) (hn : n < 10 ^ width) :
    (padded width n).length = width := by
  have hlen : (Nat.toDigits 10 n).length ≤ width :=
    (Nat.length_toDigits_le_iff (by decide) hw).2 hn
  simp only [padded, List.length_append, List.length_replicate]
  omega

/-- Digits are read as a number if no more digits follow or no more may be read. -/
theorem number?_append {most : Nat} {ds rest : List Char} (hds : ∀ c ∈ ds, c.isDigit = true)
    (hne : ds ≠ []) (hlen : ds.length ≤ most)
    (hrest : ds.length = most ∨ ∀ c ∈ rest.head?, c.isDigit = false) :
    number? most (ds ++ rest) = some (digitsValue ds, rest) := by
  have htake : ((ds ++ rest).take most).takeWhile Char.isDigit = ds := by
    rw [List.take_append, List.take_of_length_le hlen, List.takeWhile_append_of_pos hds]
    have hnil : (rest.take (most - ds.length)).takeWhile Char.isDigit = [] := by
      rcases hrest with h | h
      · simp [h]
      · cases rest with
        | nil => simp
        | cons c rest =>
          have hc : c.isDigit = false := h c (by simp)
          cases most - ds.length <;> simp [hc]
    rw [hnil, List.append_nil]
  have hemp : ds.isEmpty = false := by simpa using hne
  simp [number?, htake, hemp]

theorem isBlank_of_isDigit {c : Char} (h : c.isDigit = true) : isBlank c = false := by
  rw [Char.isDigit_iff_toNat] at h
  simp only [isBlank, Bool.or_eq_false_iff, Bool.and_eq_false_iff, beq_eq_false_iff_ne,
    decide_eq_false_iff_not]
  have h₀ : '0'.toNat = 48 := rfl
  have h₉ : '9'.toNat = 57 := rfl
  omega

theorem trimStart_cons {c : Char} (h : isBlank c = false) (s : List Char) :
    trimStart (c :: s) = c :: s := by
  simp [trimStart, h]

/-- Nothing is trimmed off a number. -/
theorem trimStart_padded (width n : Nat) (rest : List Char) :
    trimStart (padded width n ++ rest) = padded width n ++ rest := by
  obtain ⟨c, ds, hcs⟩ := List.exists_cons_of_ne_nil (padded_ne_nil width n)
  have hc : c.isDigit = true := isDigit_of_mem_padded (by rw [hcs]; simp)
  rw [hcs, List.cons_append, trimStart_cons (isBlank_of_isDigit hc)]

/-! ## Fields -/

theorem field?_padded {least most n : Nat} (h₁ : least ≤ n) (h₂ : n ≤ most) (h₃ : n < 100)
    (rest : List Char) : field? least most (padded 2 n ++ rest) = some (n, rest) := by
  have hlen : (padded 2 n).length = 2 := length_padded (by decide) h₃
  unfold field?
  rw [number?_append (fun _ => isDigit_of_mem_padded) (padded_ne_nil _ _) hlen.le (Or.inl hlen)]
  simp [h₁, h₂]

theorem mark?_padded {m : Char} (hm : isBlank m = false) (width n : Nat) (rest : List Char) :
    mark? m (m :: (padded width n ++ rest)) = some (padded width n ++ rest) := by
  simp [mark?, trimStart_cons hm, trimStart_padded]

/-- A year is read back when a mark follows it. -/
theorem year?_writeYear {y : Int} {rest : List Char} (hrest : ∀ c ∈ rest.head?, c.isDigit = false) :
    year? (writeYear y ++ rest) = some (y, rest) := by
  have hread : ∀ n : Nat, number? (padded 4 n ++ rest).length (padded 4 n ++ rest) =
      some (n, rest) := fun n => by
    rw [number?_append (fun _ => isDigit_of_mem_padded) (padded_ne_nil _ _) (by simp)
      (Or.inr hrest), digitsValue_padded]
  unfold writeYear
  split
  · rename_i hy
    simp only [List.cons_append, year?, hread, Option.map_some]
    congr 2
    omega
  · split
    · rename_i hy
      simp only [List.cons_append, year?, hread, Option.map_some]
      congr 2
      omega
    · rename_i h₁ h₂
      have hlen : (padded 4 y.natAbs).length = 4 := length_padded (by decide) (by omega)
      have hnum : number? 4 (padded 4 y.natAbs ++ rest) =
          some (digitsValue (padded 4 y.natAbs), rest) :=
        number?_append (fun _ => isDigit_of_mem_padded) (padded_ne_nil 4 y.natAbs) hlen.le
          (Or.inl hlen)
      -- the sign that `year?` looks for is no digit, so it finds none here
      obtain ⟨c, ds, hcs⟩ := List.exists_cons_of_ne_nil (padded_ne_nil 4 y.natAbs)
      have hc : c.isDigit = true := isDigit_of_mem_padded (by rw [hcs]; simp)
      have hminus : c ≠ '-' := by rintro rfl; exact absurd hc (by decide)
      have hplus : c ≠ '+' := by rintro rfl; exact absurd hc (by decide)
      rw [hcs, List.cons_append] at hnum ⊢
      rw [year?.eq_3 _ (by simpa using hminus) (by simpa using hplus), hnum, ← hcs,
        digitsValue_padded, Option.map_some]
      congr 2
      omega

theorem trimStart_writeYear (y : Int) (rest : List Char) :
    trimStart (writeYear y ++ rest) = writeYear y ++ rest := by
  unfold writeYear
  split
  · exact trimStart_cons (by decide) _
  · split
    · exact trimStart_cons (by decide) _
    · exact trimStart_padded 4 _ rest

/-- A fraction is read back, whatever its number of digits, when no digit follows it. -/
theorem fraction?_writeFraction {nanos : Nat} (h : nanos < 1000000000) :
    fraction? (writeFraction nanos ++ ['Z']) = some (nanos, ['Z']) := by
  have hread : ∀ {width n : Nat}, 0 < width → width ≤ 9 → n < 10 ^ width →
      fraction? ('.' :: (padded width n ++ ['Z'])) = some (n * 10 ^ (9 - width), ['Z']) := by
    intro width n hw h₉ hn
    have hlen := length_padded hw hn
    have htake : (padded width n ++ ['Z']).takeWhile Char.isDigit = padded width n := by
      rw [List.takeWhile_append_of_pos fun _ => isDigit_of_mem_padded]
      simp
    have hdrop : (padded width n ++ ['Z']).dropWhile Char.isDigit = ['Z'] := by
      rw [List.dropWhile_append_of_pos fun _ => isDigit_of_mem_padded]
      simp
    have hemp : (padded width n).isEmpty = false := by simpa using padded_ne_nil width n
    have hall : (padded width n).take 9 = padded width n := List.take_of_length_le (by omega)
    simp [fraction?, htake, hdrop, hemp, hall, hlen]
  unfold writeFraction
  split
  · rename_i h₀
    subst h₀
    rfl
  · split
    · rw [List.cons_append, hread (by decide) (by decide) (by omega)]
      congr 2
      omega
    · split
      · rw [List.cons_append, hread (by decide) (by decide) (by omega)]
        congr 2
        omega
      · rw [List.cons_append, hread (by decide) (by decide) (by omega)]
        congr 2
        omega

/-! ## Timestamps -/

/-- The date and the second of the day give back the seconds of a timestamp. -/
theorem seconds_eq (t : Timestamp) :
    (t.date.toDay - epochDay) * 86400 + t.secondOfDay = t.seconds := by
  simp only [Timestamp.date, toDay_ofDay, Timestamp.secondOfDay]
  omega

theorem date_bounds (t : Timestamp) :
    1 ≤ t.date.month ∧ t.date.month ≤ 12 ∧ 1 ≤ t.date.day ∧ t.date.day ≤ 31 ∧
      t.date.exists = true ∧ -262143 ≤ t.date.year ∧ t.date.year ≤ 262142 := by
  obtain ⟨h₁, h₂⟩ := t.inRange
  obtain ⟨_, _, _, _, hm₂, hm₁, hd₁, hd₂, -⟩ := ofDay_spec (t.seconds / 86400 + epochDay)
  have hy := year_ofDay_bounds (n := t.seconds / 86400 + epochDay) (by omega) (by omega)
  exact ⟨hm₁, hm₂, hd₁, hd₂, exists_ofDay _, hy.1, hy.2⟩

/-- The hour, minute and second of a second of the day. -/
theorem clock_bounds {s : Nat} (h : s < 86400) :
    s / 3600 ≤ 23 ∧ s / 60 % 60 ≤ 59 ∧ s % 60 ≤ 59 := by
  omega

/-- The second that is printed; a leap second is printed as the sixtieth. -/
theorem second_bounds (t : Timestamp) :
    (if t.isLeapSecond then 60 else t.secondOfDay % 60) ≤ 60 := by
  split <;> omega

/-- Only a leap second is printed as the sixtieth. -/
theorem second_eq_sixty (t : Timestamp) :
    (if t.isLeapSecond then 60 else t.secondOfDay % 60) = 60 ↔ t.isLeapSecond = true := by
  split
  · rename_i h
    simp [h]
  · rename_i h
    have hne : t.secondOfDay % 60 ≠ 60 := by omega
    simp [h, hne]

/-- The printed fields of the time add up to the second of the day. -/
theorem clock_eq (t : Timestamp) :
    t.secondOfDay / 3600 * 3600 + t.secondOfDay / 60 % 60 * 60 +
      min (if t.isLeapSecond then 60 else t.secondOfDay % 60) 59 = t.secondOfDay := by
  have hs : t.secondOfDay < 86400 := by
    simp only [Timestamp.secondOfDay]
    omega
  split
  · rename_i h
    have := t.leap (of_decide_eq_true h)
    have hmod : t.secondOfDay % 60 = 59 := by
      simp only [Timestamp.secondOfDay]
      omega
    omega
  · omega

/-- The nanoseconds that are printed as a fraction, and what a leap second adds to them. -/
theorem nanos_eq (t : Timestamp) :
    (if t.isLeapSecond then t.nanos - 1000000000 else t.nanos) < 1000000000 ∧
      (if t.isLeapSecond then
        (if t.isLeapSecond then t.nanos - 1000000000 else t.nanos) + 1000000000
        else if t.isLeapSecond then t.nanos - 1000000000 else t.nanos) = t.nanos := by
  have := t.nanos_lt
  by_cases h : t.isLeapSecond = true
  · have hle : 1000000000 ≤ t.nanos := of_decide_eq_true h
    simp only [h, if_true]
    omega
  · have hlt : ¬ 1000000000 ≤ t.nanos := fun hle => h (decide_eq_true hle)
    have hf : t.isLeapSecond = false := by simpa using h
    simpa only [hf, Bool.false_eq_true, if_false, and_true] using Nat.lt_of_not_le hlt

theorem bind_some_eq {α β : Type} {x : Option α} {f : α → Option β} {a : α} {y : Option β}
    (hx : x = some a) (hf : f a = y) : x >>= f = y := by
  rw [hx]
  exact hf

/-- A printed timestamp reads as itself. -/
@[simp] theorem parse?_print (t : Timestamp) : Timestamp.parse? t.print = some t := by
  obtain ⟨hm₁, hm₂, hd₁, hd₂, hex, hy₁, hy₂⟩ := date_bounds t
  have hday : t.secondOfDay < 86400 := by
    simp only [Timestamp.secondOfDay]
    omega
  obtain ⟨hh, hmi, -⟩ := clock_bounds hday
  have hs := second_bounds t
  have hdash : isBlank '-' = false := rfl
  have hcolon : isBlank ':' = false := rfl
  have hend : trimStart [] = [] := rfl
  have hzone : zone? (trimStart ['Z']) = some (0, []) := rfl
  have hhour : ∀ rest, field? 0 23 (trimStart (padded 2 (t.secondOfDay / 3600) ++ rest)) =
      some (t.secondOfDay / 3600, rest) := by
    intro rest
    rw [trimStart_padded]
    exact field?_padded (Nat.zero_le _) hh (hh.trans_lt (by decide)) rest
  have hchars : t.print.toList = writeYear t.date.year ++ '-' :: (padded 2 t.date.month ++ '-' ::
      (padded 2 t.date.day ++ 'T' :: (padded 2 (t.secondOfDay / 3600) ++ ':' ::
        (padded 2 (t.secondOfDay / 60 % 60) ++ ':' ::
          (padded 2 (if t.isLeapSecond then 60 else t.secondOfDay % 60) ++
            (writeFraction (if t.isLeapSecond then t.nanos - 1000000000 else t.nanos) ++
              ['Z'])))))) := by
    rw [Timestamp.print, String.toList_ofList]
    simp only [Timestamp.chars, List.append_assoc, List.cons_append]
  have hseconds : (t.date.toDay - epochDay) * 86400 + (t.secondOfDay / 3600 : Nat) * 3600 +
      (t.secondOfDay / 60 % 60 : Nat) * 60 +
      (min (if t.isLeapSecond then 60 else t.secondOfDay % 60) 59 : Nat) - 0 = t.seconds := by
    have h₁ := clock_eq t
    have h₂ := seconds_eq t
    omega
  unfold Timestamp.parse?
  rw [hchars, trimStart_writeYear]
  -- the date
  refine bind_some_eq (year?_writeYear (by simp)) ?_
  refine bind_some_eq (mark?_padded hdash _ _ _) ?_
  refine bind_some_eq (field?_padded hm₁ hm₂ (hm₂.trans_lt (by decide)) _) ?_
  refine bind_some_eq (mark?_padded hdash _ _ _) ?_
  refine bind_some_eq (field?_padded hd₁ hd₂ (hd₂.trans_lt (by decide)) _) ?_
  refine bind_some_eq rfl ?_
  -- the time of the day
  refine bind_some_eq (hhour _) ?_
  refine bind_some_eq (mark?_padded hcolon _ _ _) ?_
  refine bind_some_eq (field?_padded (Nat.zero_le _) hmi (hmi.trans_lt (by decide)) _) ?_
  refine bind_some_eq (mark?_padded hcolon _ _ _) ?_
  refine bind_some_eq (field?_padded (Nat.zero_le _) hs (hs.trans_lt (by decide)) _) ?_
  refine bind_some_eq (fraction?_writeFraction (nanos_eq t).1) ?_
  refine bind_some_eq hzone ?_
  simp only [hend, List.isEmpty_nil, hex, hy₁, hy₂, Bool.not_true, decide_true, Bool.and_self,
    Bool.false_eq_true, if_false, second_eq_sixty, (nanos_eq t).2, hseconds]
  exact Timestamp.of?_eq_some t

end ReplayRegistry.Time
