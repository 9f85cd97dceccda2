import ReplayRegistry.Proofs.Formats

/-!
# Proofs: values are passed over

The syntax of values is given as a grammar of byte strings: words, numbers, string literals, and
containers of any depth, with blanks between the tokens. Whatever the grammar derives is passed over
as a whole, in front of anything that can follow a value.
-/

namespace ReplayRegistry.Json

/-! ## The syntax of values -/

/-- Bytes that may stand between the tokens. -/
def Blank (w : Bytes) : Prop := ∀ b ∈ w, isBlank b = true

/-- A row of digits. -/
def Digits (s : Bytes) : Prop := s ≠ [] ∧ ∀ b ∈ s, isDigit b = true

/-- The whole part of a number. -/
inductive Whole : Bytes → Prop
  | zero : Whole [0x30]
  | digits {b : UInt8} {s : Bytes} (h : Digits (b :: s)) (hb : b ≠ 0x30) : Whole (b :: s)

inductive Fraction : Bytes → Prop
  | none : Fraction []
  | some {s : Bytes} (h : Digits s) : Fraction (0x2E :: s)

inductive Exponent : Bytes → Prop
  | none : Exponent []
  | unsigned {e : UInt8} {s : Bytes} (he : e = 0x65 ∨ e = 0x45) (h : Digits s) : Exponent (e :: s)
  | signed {e sign : UInt8} {s : Bytes} (he : e = 0x65 ∨ e = 0x45)
      (hsign : sign = 0x2B ∨ sign = minus) (h : Digits s) : Exponent (e :: sign :: s)

inductive Number : Bytes → Prop
  | unsigned {s f e : Bytes} (hs : Whole s) (hf : Fraction f) (he : Exponent e) :
      Number (s ++ f ++ e)
  | negative {s f e : Bytes} (hs : Whole s) (hf : Fraction f) (he : Exponent e) :
      Number (minus :: (s ++ f ++ e))

/-- What stands between the marks of a string literal. -/
inductive Chars : Bytes → Prop
  | nil : Chars []
  | plain {b : UInt8} {s : Bytes} (hb : 0x20 ≤ b) (hquote : b ≠ quote) (hback : b ≠ backslash)
      (hs : Chars s) : Chars (b :: s)
  | short {e : UInt8 × UInt8} {s : Bytes} (he : e ∈ shortEscapes) (hs : Chars s) :
      Chars (backslash :: e.1 :: s)
  | unicode {p q r t : UInt8} {s : Bytes} (hdigits : ∀ d ∈ [p, q, r, t], (hexValue? d).isSome)
      (hs : Chars s) : Chars (backslash :: letterU :: p :: q :: r :: t :: s)

/-- What stands before the value of an element of a container. -/
inductive Label : Container → Bytes → Prop
  | array : Label .array []
  | object {s w : Bytes} (hs : Chars s) (hw : Blank w) :
      Label .object (quote :: (s ++ quote :: (w ++ [colon])))

def Container.opening : Container → UInt8
  | .array => openBracket
  | .object => openBrace

/-- What the grammar derives. -/
inductive Symbol where
  | value
  /-- The elements of a container, one at least. -/
  | elements (c : Container)

/-- The syntax of values. -/
inductive Derives : Symbol → Bytes → Prop
  | word {s : Bytes} (h : s ∈ [nullWord, trueWord, falseWord]) : Derives .value s
  | number {s : Bytes} (h : Number s) : Derives .value s
  | text {s : Bytes} (h : Chars s) : Derives .value (quote :: (s ++ [quote]))
  | empty (c : Container) {w : Bytes} (hw : Blank w) :
      Derives .value (c.opening :: (w ++ [c.closing]))
  | container (c : Container) {s : Bytes} (h : Derives (.elements c) s) :
      Derives .value (c.opening :: (s ++ [c.closing]))
  | last {c : Container} {w l w₁ v w₂ : Bytes} (hw : Blank w) (hl : Label c l) (hw₁ : Blank w₁)
      (hv : Derives .value v) (hw₂ : Blank w₂) :
      Derives (.elements c) (w ++ (l ++ (w₁ ++ (v ++ w₂))))
  | more {c : Container} {w l w₁ v w₂ s : Bytes} (hw : Blank w) (hl : Label c l) (hw₁ : Blank w₁)
      (hv : Derives .value v) (hw₂ : Blank w₂) (hs : Derives (.elements c) s) :
      Derives (.elements c) (w ++ (l ++ (w₁ ++ (v ++ (w₂ ++ comma :: s)))))

/-- What can follow a value: a blank, a comma, the end of a container, or the end of the text. -/
def Ends (rest : Bytes) : Prop :=
  ∀ b ∈ rest.head?, isBlank b = true ∨ b = comma ∨ b = closeBracket ∨ b = closeBrace

variable {w s t rest : Bytes} {c : Container}

/-! ## Blanks -/

theorem blank_nil : Blank [] := by
  intro b hb
  cases hb

theorem skipBlank_blank (hw : Blank w) (s : Bytes) : skipBlank (w ++ s) = skipBlank s :=
  List.dropWhile_append_of_pos hw

theorem ends_closing (c : Container) (rest : Bytes) : Ends (c.closing :: rest) := by
  cases c <;> simp [Ends, Container.closing]

theorem ends_comma (rest : Bytes) : Ends (comma :: rest) := by simp [Ends]

theorem Ends.blank (h : Ends rest) (hw : Blank w) : Ends (w ++ rest) := by
  cases w with
  | nil => exact h
  | cons b w =>
    intro b' hb'
    obtain rfl : b = b' := Option.some.inj hb'
    exact .inl (hw b List.mem_cons_self)

theorem Boundary.ends (h : Boundary rest) : Ends rest := fun b hb => .inr (h b hb)

/-! ## Numbers -/

/-- No number goes on here. -/
def Stops (rest : Bytes) : Prop :=
  ∀ b ∈ rest.head?, isDigit b = false ∧ b ≠ 0x2E ∧ b ≠ 0x65 ∧ b ≠ 0x45

theorem Ends.stops (h : Ends rest) : Stops rest := by
  have hblank : ∀ b : UInt8, isBlank b = true → b = 0x20 ∨ b = 0x09 ∨ b = 0x0A ∨ b = 0x0D := by
    intro b hb
    simpa [isBlank, or_assoc] using hb
  intro b hb
  rcases h b hb with hb | rfl | rfl | rfl
  · rcases hblank b hb with rfl | rfl | rfl | rfl <;> decide
  · decide
  · decide
  · decide

theorem dropWhile_digits (hs : ∀ b ∈ s, isDigit b = true)
    (hrest : ∀ b ∈ rest.head?, isDigit b = false) : (s ++ rest).dropWhile isDigit = rest := by
  rw [List.dropWhile_append_of_pos hs]
  cases rest with
  | nil => rfl
  | cons b rest => exact List.dropWhile_cons_of_neg (by simp [hrest b rfl])

theorem skipDigits?_append (hs : Digits s) (hrest : ∀ b ∈ rest.head?, isDigit b = false) :
    skipDigits? (s ++ rest) = some rest := by
  obtain ⟨hne, hdigits⟩ := hs
  obtain ⟨b, s, rfl⟩ := List.exists_cons_of_ne_nil hne
  obtain ⟨hb, hs⟩ := List.forall_mem_cons.1 hdigits
  simp only [List.cons_append, skipDigits?, hb, if_true, dropWhile_digits hs hrest]

theorem skipWhole?_append (hs : Whole s) (hrest : ∀ b ∈ rest.head?, isDigit b = false) :
    skipWhole? (s ++ rest) = some rest := by
  cases hs with
  | zero =>
    cases rest with
    | nil => rfl
    | cons b rest => simp [skipWhole?, hrest b rfl]
  | digits h hb =>
    obtain ⟨hdigit, hdigits⟩ := List.forall_mem_cons.1 h.2
    simp only [List.cons_append, skipWhole?, hb, if_false, hdigit, if_true,
      dropWhile_digits hdigits hrest]

theorem skipFraction?_append (hs : Fraction s) (hrest : ∀ b ∈ rest.head?, isDigit b = false)
    (hpoint : ∀ b ∈ rest.head?, b ≠ 0x2E) : skipFraction? (s ++ rest) = some rest := by
  cases hs with
  | none =>
    cases rest with
    | nil => rfl
    | cons b rest => simp [skipFraction?, hpoint b rfl]
  | some h => simp only [List.cons_append, skipFraction?, if_true, skipDigits?_append h hrest]

theorem skipExponent?_append (hs : Exponent s) (hrest : Stops rest) :
    skipExponent? (s ++ rest) = some rest := by
  have hdigit : ∀ b ∈ rest.head?, isDigit b = false := fun b hb => (hrest b hb).1
  cases hs with
  | none =>
    cases rest with
    | nil => rfl
    | cons b rest =>
      obtain ⟨-, -, he, hE⟩ := hrest b rfl
      simp [skipExponent?, he, hE]
  | unsigned he h =>
    obtain ⟨b, s, rfl⟩ := List.exists_cons_of_ne_nil h.1
    have hsign : ¬ (b = 0x2B ∨ b = minus) := by
      rintro (rfl | rfl)
      · exact absurd (h.2 _ List.mem_cons_self) (by decide)
      · exact absurd (h.2 _ List.mem_cons_self) (by decide)
    have hskip := skipDigits?_append h hdigit
    rw [List.cons_append] at hskip
    simp only [List.cons_append, skipExponent?, he, if_true, hsign, if_false, hskip]
  | signed he hsign h =>
    simp only [List.cons_append, skipExponent?, he, if_true, hsign, skipDigits?_append h hdigit]

theorem Fraction.head {e : Bytes} (hs : Fraction s) (he : Exponent e) (hrest : Stops rest) :
    ∀ b ∈ (s ++ (e ++ rest)).head?, isDigit b = false := by
  intro b hb
  cases hs with
  | some h =>
    obtain rfl : 0x2E = b := Option.some.inj hb
    decide
  | none =>
    cases he with
    | none => exact (hrest b hb).1
    | unsigned he h =>
      obtain rfl := Option.some.inj hb
      rcases he with rfl | rfl <;> decide
    | signed he hsign h =>
      obtain rfl := Option.some.inj hb
      rcases he with rfl | rfl <;> decide

theorem Exponent.head (hs : Exponent s) (hrest : Stops rest) :
    ∀ b ∈ (s ++ rest).head?, isDigit b = false ∧ b ≠ 0x2E := by
  intro b hb
  cases hs with
  | none => exact ⟨(hrest b hb).1, (hrest b hb).2.1⟩
  | unsigned he h =>
    obtain rfl := Option.some.inj hb
    rcases he with rfl | rfl <;> decide
  | signed he hsign h =>
    obtain rfl := Option.some.inj hb
    rcases he with rfl | rfl <;> decide

theorem Whole.head (hs : Whole s) : ∃ b t, s = b :: t ∧ isDigit b = true := by
  cases hs with
  | zero => exact ⟨0x30, [], rfl, by decide⟩
  | digits h hb => exact ⟨_, _, rfl, h.2 _ List.mem_cons_self⟩

theorem skipNumber?_append (hs : Number s) (hrest : Ends rest) :
    skipNumber? (s ++ rest) = some rest := by
  have hstops := hrest.stops
  have hparts : ∀ {u f e : Bytes}, Whole u → Fraction f → Exponent e →
      (skipWhole? (u ++ (f ++ (e ++ rest)))).bind (fun x => (skipFraction? x).bind skipExponent?) =
        some rest := by
    intro u f e hu hf he
    have hexponent := he.head hstops
    rw [skipWhole?_append hu (hf.head he hstops), Option.bind_some,
      skipFraction?_append hf (fun b hb => (hexponent b hb).1) (fun b hb => (hexponent b hb).2),
      Option.bind_some, skipExponent?_append he hstops]
  cases hs with
  | unsigned hu hf he =>
    have hskip := hparts hu hf he
    obtain ⟨b, t, rfl, hb⟩ := hu.head
    have hminus : b ≠ minus := by
      rintro rfl
      exact absurd hb (by decide)
    simp only [List.append_assoc, List.cons_append] at hskip ⊢
    simp only [skipNumber?, hminus, if_false]
    exact hskip
  | negative hu hf he =>
    have hskip := hparts hu hf he
    simp only [List.append_assoc, List.cons_append] at hskip ⊢
    simp only [skipNumber?, if_true]
    exact hskip

theorem Number.opening (hs : Number s) :
    ∃ b t, s = b :: t ∧ (isDigit b = true ∨ b = minus) := by
  cases hs with
  | unsigned hu hf he =>
    obtain ⟨b, t, rfl, hb⟩ := hu.head
    exact ⟨b, _, rfl, .inl hb⟩
  | negative hu hf he => exact ⟨minus, _, rfl, .inr rfl⟩

/-! ## String literals -/

theorem skipParts?_append (hs : Chars s) (rest : Bytes) : ∀ n, s.length < n →
    skipParts? n (s ++ quote :: rest) = some rest := by
  induction hs with
  | nil =>
    intro n hn
    obtain ⟨n, rfl⟩ : ∃ k, n = k + 1 := ⟨n - 1, by omega⟩
    simp [skipParts?, skipPart?]
  | @plain b s hb hquote hback hs ih =>
    intro n hn
    obtain ⟨n, rfl⟩ : ∃ k, n = k + 1 := ⟨n - 1, by omega⟩
    have hcontrol : ¬ b < 0x20 := UInt8.not_lt.2 hb
    simp only [List.length_cons] at hn
    simp only [List.cons_append, skipParts?, skipPart?, hquote, hback, hcontrol, if_false]
    exact ih n (by omega)
  | @short e s he hs ih =>
    intro n hn
    obtain ⟨n, rfl⟩ : ∃ k, n = k + 1 := ⟨n - 1, by omega⟩
    have hback : backslash ≠ quote := by decide
    simp only [List.length_cons] at hn
    simp only [List.cons_append, skipParts?, skipPart?, hback, if_false, if_true,
      lookup_shortEscapes he, Option.isSome_some]
    exact ih n (by omega)
  | @unicode p q r t s hdigits hs ih =>
    intro n hn
    obtain ⟨n, rfl⟩ : ∃ k, n = k + 1 := ⟨n - 1, by omega⟩
    have hback : backslash ≠ quote := by decide
    have hlookup : (shortEscapes.lookup letterU).isSome = false := by decide
    have hdigit : ∀ d ∈ [p, q, r, t], ∃ v, hexValue? d = some v := fun d hd =>
      Option.isSome_iff_exists.1 (hdigits d hd)
    obtain ⟨hp, hq, hr, ht⟩ :
        (∃ v, hexValue? p = some v) ∧ (∃ v, hexValue? q = some v) ∧
          (∃ v, hexValue? r = some v) ∧ ∃ v, hexValue? t = some v := by
      simpa using hdigit
    obtain ⟨p', hp⟩ := hp
    obtain ⟨q', hq⟩ := hq
    obtain ⟨r', hr⟩ := hr
    obtain ⟨t', ht⟩ := ht
    simp only [List.length_cons] at hn
    simp only [List.cons_append, skipParts?, skipPart?, hback, if_false, if_true, hlookup,
      Bool.false_eq_true, codeUnit?, hp, hq, hr, ht, Option.bind_eq_bind, Option.bind_some,
      Option.pure_def, Option.map_some]
    exact ih n (by omega)

theorem skipTextBody?_append (hs : Chars s) (rest : Bytes) :
    skipTextBody? (s ++ quote :: rest) = some rest := by
  refine skipParts?_append hs rest _ ?_
  simp only [List.length_append]
  omega

/-! ## The loop -/

theorem skipLoop?_value_blank (hw : Blank w) (n : Nat) (stack : List Container) (s : Bytes) :
    skipLoop? n stack .value (w ++ s) = skipLoop? n stack .value s := by
  cases n with
  | zero => rfl
  | succ n => simp only [skipLoop?, skipBlank_blank hw]

theorem skipLoop?_afterValue_blank (hw : Blank w) (n : Nat) (c : Container)
    (stack : List Container) (s : Bytes) :
    skipLoop? n (c :: stack) .afterValue (w ++ s) = skipLoop? n (c :: stack) .afterValue s := by
  cases n with
  | zero => rfl
  | succ n => simp only [skipLoop?, skipBlank_blank hw]

/-- After a value, a container goes on with another element or ends. -/
theorem skipLoop?_closing (n : Nat) (c : Container) (stack : List Container) (s : Bytes) :
    skipLoop? (n + 1) (c :: stack) .afterValue (c.closing :: s) =
      skipLoop? n stack .afterValue s := by
  have hb : isBlank c.closing = false := by cases c <;> decide
  simp only [skipLoop?, skipBlank_cons hb, if_true]

theorem skipLoop?_comma (n : Nat) (c : Container) (stack : List Container) (s : Bytes) :
    skipLoop? (n + 1) (c :: stack) .afterValue (comma :: s) =
      (skipLabel? c s).bind fun s => skipLoop? n (c :: stack) .value s := by
  have hb : isBlank comma = false := by decide
  have hc : comma ≠ c.closing := by cases c <;> decide
  simp only [skipLoop?, skipBlank_cons hb, if_neg hc, if_true]

/-- What opens a container is followed by its first element or its end. -/
theorem skipLoop?_opening (n : Nat) (c : Container) (stack : List Container) (s : Bytes) :
    skipLoop? (n + 1) stack .value (c.opening :: s) =
      skipLoop? n (c :: stack) .firstElement s := by
  cases c <;> rfl

theorem skipLoop?_firstElement (n : Nat) (c : Container) (stack : List Container) (hw : Blank w)
    {b : UInt8} (hb : isBlank b = false) (hc : b ≠ c.closing) (s : Bytes) :
    skipLoop? (n + 1) (c :: stack) .firstElement (w ++ b :: s) =
      (skipLabel? c (b :: s)).bind fun s => skipLoop? n (c :: stack) .value s := by
  simp only [skipLoop?, skipBlank_blank hw, skipBlank_cons hb, if_neg hc]

theorem skipLoop?_empty (n : Nat) (c : Container) (stack : List Container) (hw : Blank w)
    (s : Bytes) :
    skipLoop? (n + 1) (c :: stack) .firstElement (w ++ c.closing :: s) =
      skipLoop? n stack .afterValue s := by
  have hb : isBlank c.closing = false := by cases c <;> decide
  simp only [skipLoop?, skipBlank_blank hw, skipBlank_cons hb, if_true]

theorem skipLoop?_word {v : Bytes} (hv : v ∈ [nullWord, trueWord, falseWord]) (n : Nat)
    (stack : List Container) (s : Bytes) :
    skipLoop? (n + 1) stack .value (v ++ s) = skipLoop? n stack .afterValue s := by
  simp only [List.mem_cons, List.not_mem_nil, or_false] at hv
  rcases hv with rfl | rfl | rfl <;> rfl

theorem skipLoop?_number {v : Bytes} (hv : Number v) (hrest : Ends rest) (n : Nat)
    (stack : List Container) :
    skipLoop? (n + 1) stack .value (v ++ rest) = skipLoop? n stack .afterValue rest := by
  have hskip := skipNumber?_append hv hrest
  obtain ⟨b, t, rfl, hb⟩ := hv.opening
  have hne : ∀ b' : UInt8, isDigit b' = false → b' ≠ minus → b ≠ b' := by
    rintro b' hdigit hminus rfl
    rcases hb with hb | hb
    · rw [hdigit] at hb
      cases hb
    · exact hminus hb
  have hblank : isBlank b = false := by
    simp [isBlank, hne 0x20 (by decide) (by decide), hne 0x09 (by decide) (by decide),
      hne 0x0A (by decide) (by decide), hne 0x0D (by decide) (by decide)]
  rw [List.cons_append] at hskip ⊢
  simp only [skipLoop?, skipBlank_cons hblank, hskip, Option.bind_some,
    hne quote (by decide) (by decide), hne openBracket (by decide) (by decide),
    hne openBrace (by decide) (by decide), hne 0x6E (by decide) (by decide),
    hne 0x74 (by decide) (by decide), hne 0x66 (by decide) (by decide), if_false]

theorem skipLoop?_text (hs : Chars s) (n : Nat) (stack : List Container) (rest : Bytes) :
    skipLoop? (n + 1) stack .value (quote :: (s ++ quote :: rest)) =
      skipLoop? n stack .afterValue rest := by
  have hb : isBlank quote = false := by decide
  simp only [skipLoop?, skipBlank_cons hb, if_true, skipTextBody?_append hs, Option.bind_some]

/-- A label is passed over up to blanks. -/
theorem skipLabel?_append {l : Bytes} (hl : Label c l) (hw : Blank w) (s : Bytes) :
    ∃ w', Blank w' ∧ skipLabel? c (w ++ (l ++ s)) = some (w' ++ s) := by
  cases hl with
  | array => exact ⟨w, hw, rfl⟩
  | @object t w' ht hw' =>
    have hquote : isBlank quote = false := by decide
    have hcolon : isBlank colon = false := by decide
    refine ⟨[], blank_nil, ?_⟩
    simp only [skipLabel?, skipName?, skipBlank_blank hw, List.cons_append, List.append_assoc,
      skipBlank_cons hquote, if_true, skipTextBody?_append ht, Option.bind_eq_bind,
      Option.bind_some, skipBlank_blank hw', List.nil_append, skipBlank_cons hcolon]

theorem skipLabel?_blank (hw : Blank w) (n : Nat) (stack : List Container) (s : Bytes) :
    ((skipLabel? c (w ++ s)).bind fun s => skipLoop? n stack .value s) =
      (skipLabel? c s).bind fun s => skipLoop? n stack .value s := by
  cases c with
  | array => exact skipLoop?_value_blank hw n stack s
  | object => simp only [skipLabel?, skipName?, skipBlank_blank hw]

/-! ## Whole values -/

/-- The text `v` is passed over as a value, in at most two steps a byte. -/
def SkipsValue (v : Bytes) : Prop :=
  ∃ k ≤ 2 * v.length, ∀ n stack rest, Ends rest →
    skipLoop? (n + k) stack .value (v ++ rest) = skipLoop? n stack .afterValue rest

/-- The text `s` is passed over as the elements of a container. -/
def SkipsElements (c : Container) (s : Bytes) : Prop :=
  ∃ k ≤ 2 * s.length + 1, ∀ n stack rest,
    (skipLabel? c (s ++ c.closing :: rest)).bind
        (fun s => skipLoop? (n + k) (c :: stack) .value s) =
      skipLoop? n stack .afterValue rest

/-- Behind blanks, a text starts with something that ends no element. -/
def StartsOpen (s : Bytes) : Prop := ∃ w b t, s = w ++ b :: t ∧ Blank w ∧ Opening b

theorem StartsOpen.of_cons {b : UInt8} (h : Opening b) (s : Bytes) : StartsOpen (b :: s) :=
  ⟨[], b, s, rfl, blank_nil, h⟩

theorem StartsOpen.append (h : StartsOpen s) (t : Bytes) : StartsOpen (s ++ t) := by
  obtain ⟨w, b, u, rfl, hw, hb⟩ := h
  exact ⟨w, b, u ++ t, by simp, hw, hb⟩

theorem StartsOpen.blank (h : StartsOpen s) (hw : Blank w) : StartsOpen (w ++ s) := by
  obtain ⟨w', b, u, rfl, hw', hb⟩ := h
  refine ⟨w ++ w', b, u, by simp, ?_, hb⟩
  intro b' hb'
  rcases List.mem_append.1 hb' with hb' | hb'
  · exact hw b' hb'
  · exact hw' b' hb'

theorem StartsOpen.label {l : Bytes} (h : StartsOpen s) (hl : Label c l) : StartsOpen (l ++ s) := by
  cases hl with
  | array => exact h
  | object hs hw => exact (StartsOpen.of_cons (by decide) _).append s

theorem Derives.startsOpen {x : Symbol} (h : Derives x s) : StartsOpen s := by
  induction h with
  | word hs =>
    simp only [List.mem_cons, List.not_mem_nil, or_false] at hs
    rcases hs with rfl | rfl | rfl <;> exact .of_cons (by decide) _
  | number hs =>
    obtain ⟨b, t, rfl, hb⟩ := hs.opening
    refine .of_cons ?_ t
    rcases hb with hb | rfl
    · exact opening_of_isDigit hb
    · decide
  | text hs => exact .of_cons (by decide) _
  | empty c hw => exact .of_cons (by cases c <;> decide) _
  | container c hs ih => exact .of_cons (by cases c <;> decide) _
  | last hw hl hw₁ hv hw₂ ih => exact (((ih.append _).blank hw₁).label hl).blank hw
  | more hw hl hw₁ hv hw₂ hs ih ih' => exact (((ih.append _).blank hw₁).label hl).blank hw

/-- An element up to what follows its value. -/
theorem SkipsValue.element {v w₁ w₂ : Bytes} {k : Nat}
    (h : ∀ n stack rest, Ends rest →
      skipLoop? (n + k) stack .value (v ++ rest) = skipLoop? n stack .afterValue rest)
    (hw : Blank w) {l : Bytes} (hl : Label c l) (hw₁ : Blank w₁) (hw₂ : Blank w₂)
    (hrest : Ends rest) (n : Nat) (stack : List Container) :
    ((skipLabel? c (w ++ (l ++ (w₁ ++ (v ++ (w₂ ++ rest)))))).bind fun s =>
        skipLoop? (n + k) (c :: stack) .value s) =
      skipLoop? n (c :: stack) .afterValue rest := by
  obtain ⟨w', hw', hlabel⟩ := skipLabel?_append hl hw (w₁ ++ (v ++ (w₂ ++ rest)))
  rw [hlabel, Option.bind_some, skipLoop?_value_blank hw', skipLoop?_value_blank hw₁,
    h n _ _ (hrest.blank hw₂), skipLoop?_afterValue_blank hw₂]

theorem SkipsElements.container (hs : Derives (.elements c) s) (h : SkipsElements c s) :
    SkipsValue (c.opening :: (s ++ [c.closing])) := by
  obtain ⟨k, hk, hskip⟩ := h
  refine ⟨k + 1 + 1, ?_, ?_⟩
  · simp only [List.length_cons, List.length_append, List.length_nil]
    omega
  · intro n stack rest _
    obtain ⟨w, b, t, rfl, hw, hb⟩ := hs.startsOpen
    have hc : b ≠ c.closing := by
      obtain ⟨-, -, hbracket, hbrace⟩ := hb
      cases c with
      | array => exact hbracket
      | object => exact hbrace
    have hfirst := hskip n stack rest
    have htext : c.opening :: (w ++ b :: t ++ [c.closing]) ++ rest =
        c.opening :: (w ++ b :: (t ++ c.closing :: rest)) := by simp
    rw [htext, ← Nat.add_assoc, ← Nat.add_assoc, skipLoop?_opening,
      skipLoop?_firstElement _ c stack hw hb.1 hc, ← hfirst, List.append_assoc, List.cons_append,
      skipLabel?_blank hw]

/-- Whatever the grammar derives is passed over as a whole. -/
theorem Derives.skips {x : Symbol} (h : Derives x s) :
    match x with
    | .value => SkipsValue s
    | .elements c => SkipsElements c s := by
  induction h with
  | word hs =>
    refine ⟨1, ?_, fun n stack rest _ => skipLoop?_word hs n stack rest⟩
    simp only [List.mem_cons, List.not_mem_nil, or_false] at hs
    rcases hs with rfl | rfl | rfl <;> decide
  | number hs =>
    refine ⟨1, ?_, fun n stack rest hrest => skipLoop?_number hs hrest n stack⟩
    obtain ⟨b, t, rfl, -⟩ := hs.opening
    simp only [List.length_cons]
    omega
  | @text s hs =>
    refine ⟨1, ?_, ?_⟩
    · simp only [List.length_cons]
      omega
    · intro n stack rest _
      have htext : quote :: (s ++ [quote]) ++ rest = quote :: (s ++ quote :: rest) := by simp
      rw [htext, skipLoop?_text hs]
  | @empty c w hw =>
    refine ⟨1 + 1, ?_, ?_⟩
    · simp only [List.length_cons, List.length_append, List.length_nil]
      omega
    · intro n stack rest _
      have htext : c.opening :: (w ++ [c.closing]) ++ rest =
          c.opening :: (w ++ c.closing :: rest) := by simp
      rw [htext, ← Nat.add_assoc, skipLoop?_opening, skipLoop?_empty _ c stack hw]
  | container c hs ih => exact ih.container hs
  | @last c w l w₁ v w₂ hw hl hw₁ hv hw₂ ih =>
    obtain ⟨k, hk, hskip⟩ := ih
    refine ⟨k + 1, ?_, ?_⟩
    · simp only [List.length_append]
      omega
    · intro n stack rest
      have helement := SkipsValue.element hskip hw hl hw₁ hw₂ (ends_closing c rest) (n + 1) stack
      rw [skipLoop?_closing] at helement
      rw [← helement, Nat.add_right_comm, Nat.add_assoc]
      simp only [List.append_assoc]
  | @more c w l w₁ v w₂ s hw hl hw₁ hv hw₂ hs ih ih' =>
    obtain ⟨k, hk, hskip⟩ := ih
    obtain ⟨k', hk', hskip'⟩ := ih'
    refine ⟨k' + 1 + k, ?_, ?_⟩
    · simp only [List.length_append, List.length_cons]
      omega
    · intro n stack rest
      have helement := SkipsValue.element hskip hw hl hw₁ hw₂
        (ends_comma (s ++ c.closing :: rest)) (n + k' + 1) stack
      rw [skipLoop?_comma, hskip' n stack rest] at helement
      rw [← helement]
      simp only [List.append_assoc, List.cons_append, Nat.add_assoc]

/-- A value is passed over up to what follows it, with the blanks before it. -/
theorem skipValue?_append {v : Bytes} (hv : Derives .value v) (hw : Blank w) (hrest : Ends rest) :
    skipValue? (w ++ (v ++ rest)) = some rest := by
  obtain ⟨k, hk, hskip⟩ := hv.skips
  obtain ⟨n, hn⟩ : ∃ n, 2 * (w ++ (v ++ rest)).length + 2 = n + 1 + k := by
    refine ⟨2 * (w ++ (v ++ rest)).length + 1 - k, ?_⟩
    simp only [List.length_append]
    omega
  rw [skipValue?, hn, skipLoop?_value_blank hw, hskip (n + 1) [] rest hrest]
  rfl

end ReplayRegistry.Json
