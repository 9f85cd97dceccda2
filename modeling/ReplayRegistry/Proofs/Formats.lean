import Mathlib.Data.List.Nodup
import Mathlib.Tactic.Set
import ReplayRegistry.Json.Format
import ReplayRegistry.Proofs.Digits
import ReplayRegistry.Proofs.StringLiteral

/-!
# Proofs: lawful formats

A format is lawful if it reads back what it writes, in front of anything that can follow a value.
The formats of plain values are lawful, lists and optional values of lawful formats are lawful, and
so is a record whose members take the fields that they stand for. Containers are read element by
element, and an object may give the fields of a record in any order.
-/

namespace ReplayRegistry.Json

/-- What can follow a value: the end of the text, a comma, or the end of a container. -/
def Boundary (rest : Bytes) : Prop :=
  ∀ b ∈ rest.head?, b = comma ∨ b = closeBracket ∨ b = closeBrace

/-- What a value can start with: no blank, and nothing that ends an element. -/
def Opening (b : UInt8) : Prop :=
  isBlank b = false ∧ b ≠ comma ∧ b ≠ closeBracket ∧ b ≠ closeBrace

instance (b : UInt8) : Decidable (Opening b) := by
  unfold Opening
  infer_instance

/-- A format that reads back what it writes. -/
structure Format.Lawful {α : Type} (f : Format α) : Prop where
  /-- A written value is read back, whatever follows it. -/
  read_write : ∀ a rest, Boundary rest → f.read (f.write a ++ rest) = .ok (a, rest)
  /-- A written value can be told from the end of a container. -/
  opening : ∀ a, ∃ b s, f.write a = b :: s ∧ Opening b

/-- A text that is read as the value `a`, whatever follows it, and that can be told from the end of
a container. -/
structure Format.Reads {α : Type} (f : Format α) (t : Bytes) (a : α) : Prop where
  read : ∀ rest, Boundary rest → f.read (t ++ rest) = .ok (a, rest)
  opening : ∃ b s, t = b :: s ∧ Opening b

variable {α β : Type}

theorem Format.Lawful.reads {f : Format α} (h : f.Lawful) (a : α) : f.Reads (f.write a) a :=
  ⟨h.read_write a, h.opening a⟩

theorem Format.lawful_of_reads {f : Format α} (h : ∀ a, f.Reads (f.write a) a) : f.Lawful :=
  ⟨fun a => (h a).read, fun a => (h a).opening⟩

theorem boundary_nil : Boundary [] := by simp [Boundary]

theorem boundary_comma (rest : Bytes) : Boundary (comma :: rest) := by simp [Boundary]

theorem boundary_closeBracket (rest : Bytes) : Boundary (closeBracket :: rest) := by
  simp [Boundary]

theorem boundary_closeBrace (rest : Bytes) : Boundary (closeBrace :: rest) := by simp [Boundary]

theorem skipBlank_cons {b : UInt8} (h : isBlank b = false) (s : Bytes) :
    skipBlank (b :: s) = b :: s := by
  simp [skipBlank, h]

/-- Without anything behind it, a text that is read as a value decodes to it. -/
theorem Format.Reads.decode {f : Format α} {t : Bytes} {a : α} (h : f.Reads t a) :
    f.decode t = .ok a := by
  have hread := h.read [] boundary_nil
  rw [List.append_nil] at hread
  simp [Format.decode, hread, skipBlank]

/-- A lawful format decodes a written value. -/
theorem Format.Lawful.decode_write {f : Format α} (h : f.Lawful) (a : α) :
    f.decode (f.write a) = .ok a :=
  (h.reads a).decode

/-- The text that a text is written back as, once it has been read. -/
def Format.rewrite (f : Format α) (s : Bytes) : Except DecodeError Bytes := (f.decode s).map f.write

/-- A format that loses nothing. -/
structure Format.RoundTrips (f : Format α) : Prop where
  /-- What is written is read back. -/
  decode_write : ∀ a, f.decode (f.write a) = .ok a
  /-- A text that can be read is written back as one that reads the same and stays as it is. -/
  rewrite : ∀ s t, f.rewrite s = .ok t → f.decode t = f.decode s ∧ f.rewrite t = .ok t

theorem Format.Lawful.roundTrips {f : Format α} (h : f.Lawful) : f.RoundTrips where
  decode_write := h.decode_write
  rewrite s t hs := by
    unfold Format.rewrite at hs ⊢
    cases hdecode : f.decode s with
    | error e =>
      rw [hdecode] at hs
      cases hs
    | ok a =>
      rw [hdecode] at hs
      cases hs
      rw [h.decode_write]
      exact ⟨rfl, rfl⟩

/-! ## Elements of a container -/

theorem turn?_closing {closing : UInt8} (h : isBlank closing = false) (first : Bool) (s : Bytes) :
    turn? closing first (closing :: s) = some (.done s) := by
  simp [turn?, skipBlank_cons h]

theorem turn?_first {closing b : UInt8} (hb : Opening b) (hc : b ≠ closing) (s : Bytes) :
    turn? closing true (b :: s) = some (.element (b :: s)) := by
  simp [turn?, skipBlank_cons hb.1, hc]

theorem turn?_comma {closing b : UInt8} (hb : Opening b) (hc : b ≠ closing) (hne : comma ≠ closing)
    (s : Bytes) : turn? closing false (comma :: b :: s) = some (.element (b :: s)) := by
  have hcomma : isBlank comma = false := by decide
  simp [turn?, skipBlank_cons hcomma, skipBlank_cons hb.1, hc, hne]

/-- Elements with commas between them: the first, and each other one behind its comma. -/
theorem intercalate_comma (x : Bytes) (xs : List Bytes) :
    List.intercalate [comma] (x :: xs) = x ++ xs.flatMap (comma :: ·) := by
  induction xs generalizing x with
  | nil => simp [List.intercalate]
  | cons y ys ih =>
    have hcons : List.intercalate [comma] (x :: y :: ys) =
        x ++ comma :: List.intercalate [comma] (y :: ys) := by
      simp [List.intercalate, List.intersperse]
    rw [hcons, ih, List.flatMap_cons, List.cons_append]

/-- The elements behind the first one, in front of the end of their container. -/
theorem boundary_elements {closing : UInt8} (h : closing = closeBracket ∨ closing = closeBrace)
    (ts : List Bytes) (rest : Bytes) : Boundary (ts.flatMap (comma :: ·) ++ closing :: rest) := by
  cases ts with
  | nil =>
    rcases h with rfl | rfl
    · exact boundary_closeBracket rest
    · exact boundary_closeBrace rest
  | cons t ts => exact boundary_comma _

theorem length_le_flatMap_comma (ts : List Bytes) :
    ts.length ≤ (ts.flatMap (comma :: ·)).length := by
  induction ts with
  | nil => simp
  | cons t ts ih =>
    simp only [List.length_cons, List.flatMap_cons, List.length_append]
    omega

/-! ## Plain values -/

theorem textRead_write (t : String) (rest : Bytes) :
    Format.text.read (Format.text.write t ++ rest) = .ok (t, rest) := by
  have hquote : isBlank quote = false := by decide
  simp only [Format.text, writeText, List.cons_append, List.append_assoc, List.nil_append,
    skipBlank_cons hquote, if_true, textBody?_escape, orMalformed]

theorem text_lawful : Format.text.Lawful where
  read_write t rest _ := textRead_write t rest
  opening t := ⟨quote, _, rfl, by decide⟩

theorem viaText_lawful {print : α → String} {parse? : String → Option α}
    (h : ∀ a, parse? (print a) = some a) : (Format.viaText print parse?).Lawful where
  read_write a rest _ := by
    have hread : Format.text.read (writeText (print a) ++ rest) = .ok (print a, rest) :=
      textRead_write (print a) rest
    simp [Format.viaText, hread, h, orMalformed, Except.map]
  opening a := ⟨quote, _, rfl, by decide⟩

/-! ### Whole numbers -/

theorem isDigit_of_mem_natDigits {n : Nat} {b : UInt8} (h : b ∈ natDigits n) :
    isDigit b = true := by
  obtain ⟨c, hc, rfl⟩ := List.mem_map.1 h
  have hd := Nat.isDigit_of_mem_toDigits (by decide) (by decide) hc
  rw [Char.isDigit_iff_toNat] at hd
  have h₀ : '0'.toNat = 48 := rfl
  have h₉ : '9'.toNat = 57 := rfl
  simp only [isDigit, Bool.and_eq_true, decide_eq_true_eq, UInt8.le_iff_toNat_le, Nat.toUInt8_eq,
    UInt8.toNat_ofNat']
  simp only [UInt8.reduceToNat]
  omega

theorem natDigits_ne_nil (n : Nat) : natDigits n ≠ [] := by simp [natDigits]

theorem digitsValue_map {cs : List Char} (h : ∀ c ∈ cs, c.isDigit = true) :
    digitsValue (cs.map fun c => c.toNat.toUInt8) = Nat.ofDigitChars 10 cs 0 := by
  unfold digitsValue Nat.ofDigitChars
  rw [List.foldl_map]
  refine List.foldl_ext _ _ _ ?_
  intro n c hc
  have hd := h c hc
  rw [Char.isDigit_iff_toNat] at hd
  have h₀ : '0'.toNat = 48 := rfl
  have h₉ : '9'.toNat = 57 := rfl
  have hlt : c.toNat % 256 = c.toNat := by omega
  simp [hlt]

@[simp] theorem digitsValue_natDigits (n : Nat) : digitsValue (natDigits n) = n := by
  unfold natDigits
  rw [digitsValue_map fun _ => Nat.isDigit_of_mem_toDigits (by decide) (by decide),
    Nat.ofDigitChars_ten_toDigits]

theorem natDigits_head (n : Nat) :
    ((natDigits n).head? == some 0x30 && (natDigits n).length != 1) = false := by
  rcases Nat.eq_zero_or_pos n with rfl | hn
  · rfl
  · have hhead := head?_toDigits hn
    have hne : (natDigits n).head? ≠ some 0x30 := by
      intro heq
      rw [natDigits, List.head?_map, Option.map_eq_some_iff] at heq
      obtain ⟨c, hc, hb⟩ := heq
      have hd := Nat.isDigit_of_mem_toDigits (by decide) (by decide) (List.mem_of_mem_head? hc)
      rw [Char.isDigit_iff_toNat] at hd
      have h₉ : '9'.toNat = 57 := rfl
      have hb' := congrArg UInt8.toNat hb
      simp only [Nat.toUInt8_eq, UInt8.toNat_ofNat', UInt8.reduceToNat] at hb'
      have hc0 : c = '0' := Char.toNat_inj.1 (by rw [show '0'.toNat = 48 from rfl]; omega)
      exact hhead (hc0 ▸ hc)
    simp [hne]

theorem boundary_not_digit {rest : Bytes} (h : Boundary rest) :
    rest.takeWhile isDigit = [] ∧ rest.dropWhile isDigit = rest := by
  cases rest with
  | nil => simp
  | cons b rest =>
    have hb : isDigit b = false := by rcases h b (by simp) with rfl | rfl | rfl <;> decide
    simp [hb]

/-- The digits of a number are read up to the end of the value. -/
theorem natDigits_split (n : Nat) {rest : Bytes} (h : Boundary rest) :
    (natDigits n ++ rest).takeWhile isDigit = natDigits n ∧
      (natDigits n ++ rest).dropWhile isDigit = rest := by
  obtain ⟨h₁, h₂⟩ := boundary_not_digit h
  constructor
  · rw [List.takeWhile_append_of_pos fun _ => isDigit_of_mem_natDigits, h₁, List.append_nil]
  · rw [List.dropWhile_append_of_pos fun _ => isDigit_of_mem_natDigits, h₂]

theorem integer?_natDigits (n : Nat) {rest : Bytes} (h : Boundary rest) :
    integer? (natDigits n ++ rest) = some ((n : Int), rest) := by
  obtain ⟨htake, hdrop⟩ := natDigits_split n h
  have hvalue := digitsValue_natDigits n
  have hhead := natDigits_head n
  obtain ⟨b, ds, hds⟩ := List.exists_cons_of_ne_nil (natDigits_ne_nil n)
  have hb : b ≠ minus := by
    rintro rfl
    have := isDigit_of_mem_natDigits (n := n) (b := minus) (by rw [hds]; simp)
    exact absurd this (by decide)
  rw [hds, List.cons_append] at htake hdrop
  rw [hds] at hvalue hhead
  rw [hds, List.cons_append]
  cases rest with
  | nil => simp only [integer?, hb, if_false, htake, hdrop, hhead, hvalue]; simp
  | cons c rest =>
    rcases h c (by simp) with rfl | rfl | rfl <;>
      simp only [integer?, hb, if_false, htake, hdrop, hhead, hvalue] <;> simp <;> decide

theorem integer?_minus {n : Nat} (hn : 0 < n) {rest : Bytes} (h : Boundary rest) :
    integer? (minus :: (natDigits n ++ rest)) = some (-(n : Int), rest) := by
  obtain ⟨htake, hdrop⟩ := natDigits_split n h
  have hempty : (natDigits n).isEmpty = false := by simpa using natDigits_ne_nil n
  have hhead := natDigits_head n
  have hne : n ≠ 0 := by omega
  cases rest with
  | nil =>
    simp only [integer?, if_true, htake, hdrop, hempty, hhead, digitsValue_natDigits, hne]
    simp
  | cons c rest =>
    rcases h c (by simp) with rfl | rfl | rfl <;>
      simp only [integer?, if_true, htake, hdrop, hempty, hhead, digitsValue_natDigits, hne] <;>
      simp <;> decide

theorem integer?_writeInt (i : Int) {rest : Bytes} (h : Boundary rest) :
    integer? (writeInt i ++ rest) = some (i, rest) := by
  unfold writeInt
  split
  · rename_i hi
    rw [List.cons_append, integer?_minus (by omega) h]
    congr 2
    omega
  · rename_i hi
    rw [integer?_natDigits _ h]
    congr 2
    omega

theorem opening_of_isDigit {b : UInt8} (h : isDigit b = true) : Opening b := by
  have hne : ∀ c, isDigit c = false → b ≠ c := by
    rintro c hc rfl
    rw [h] at hc
    cases hc
  refine ⟨?_, hne _ (by decide), hne _ (by decide), hne _ (by decide)⟩
  simp [isBlank, hne 0x20 (by decide), hne 0x09 (by decide), hne 0x0A (by decide),
    hne 0x0D (by decide)]

theorem writeInt_opening (i : Int) : ∃ b s, writeInt i = b :: s ∧ Opening b := by
  unfold writeInt
  split
  · exact ⟨minus, _, rfl, by decide⟩
  · obtain ⟨b, ds, hds⟩ := List.exists_cons_of_ne_nil (natDigits_ne_nil i.natAbs)
    exact ⟨b, ds, hds, opening_of_isDigit (isDigit_of_mem_natDigits (by rw [hds]; simp))⟩

/-- A value that starts with no blank is not trimmed. -/
theorem skipBlank_append {s : Bytes} (h : ∃ b t, s = b :: t ∧ Opening b) (rest : Bytes) :
    skipBlank (s ++ rest) = s ++ rest := by
  obtain ⟨b, t, rfl, hb⟩ := h
  exact skipBlank_cons hb.1 _

theorem int32_lawful : Format.int32.Lawful where
  read_write i rest h := by
    have hlo : -2147483648 ≤ i.toInt := Int32.le_toInt i
    have hhi : i.toInt < 2147483648 := Int32.toInt_lt i
    simp [Format.int32, skipBlank_append (writeInt_opening _), integer?_writeInt _ h, hlo, hhi,
      orMalformed]
  opening i := writeInt_opening _

/-! ## Optional values and lists -/

theorem optional_reads_null {f : Format α} : (Format.optional f).Reads nullWord none where
  read rest _ := by
    have hb : isBlank 0x6E = false := by decide
    simp [Format.optional, nullWord, skipBlank_cons hb, word?, orMalformed, Except.map]
  opening := ⟨0x6E, _, rfl, by decide⟩

/-- `null` can be told from a value that does not start with its first letter. -/
theorem optional_reads {f : Format α} {t : Bytes} {a : α} (h : f.Reads t a)
    (hn : t.head? ≠ some 0x6E) : (Format.optional f).Reads t (some a) where
  read rest hrest := by
    obtain ⟨b, s, rfl, hb⟩ := h.opening
    have hne : b ≠ 0x6E := by simpa using hn
    have hread := h.read rest hrest
    rw [List.cons_append] at hread
    simp [Format.optional, skipBlank_cons hb.1, hne, hread, Except.map]
  opening := h.opening

theorem optional_lawful {f : Format α} (h : f.Lawful)
    (hn : ∀ a, (f.write a).head? ≠ some 0x6E) : (Format.optional f).Lawful :=
  Format.lawful_of_reads fun
    | none => optional_reads_null
    | some a => optional_reads (h.reads a) (hn a)

/-- The elements of a list that follow the first one. -/
theorem readElements_tail {f : Format α} (rest : Bytes) {ts : List Bytes} {as : List α}
    (h : List.Forall₂ f.Reads ts as) : ∀ (n : Nat) (acc : List α), ts.length < n →
    readElements f.read n false acc (ts.flatMap (comma :: ·) ++ closeBracket :: rest) =
      .ok (acc.reverse ++ as, rest) := by
  induction h with
  | nil =>
    intro n acc hn
    obtain ⟨n, rfl⟩ : ∃ k, n = k + 1 := ⟨n - 1, by simp at hn; omega⟩
    simp [readElements, turn?_closing (by decide : isBlank closeBracket = false)]
  | @cons t a ts as ht _ ih =>
    intro n acc hn
    obtain ⟨n, rfl⟩ : ∃ k, n = k + 1 := ⟨n - 1, by simp at hn; omega⟩
    obtain ⟨b, s, rfl, hb⟩ := ht.opening
    have hread := ht.read _ (boundary_elements (.inl rfl) ts rest)
    rw [List.cons_append] at hread
    simp only [List.flatMap_cons, List.cons_append, List.append_assoc, readElements,
      turn?_comma hb hb.2.2.1 (by decide), hread]
    rw [ih n (a :: acc) (by simpa using hn)]
    simp

/-- An array is read element by element. -/
theorem array_reads {f : Format α} {ts : List Bytes} {as : List α}
    (h : List.Forall₂ f.Reads ts as) :
    (Format.array f).Reads (openBracket :: List.intercalate [comma] ts ++ [closeBracket]) as where
  read rest _ := by
    have hb : isBlank openBracket = false := by decide
    simp only [Format.array, List.cons_append, List.append_assoc, skipBlank_cons hb, if_true,
      List.nil_append]
    cases h with
    | nil =>
      have hblank : isBlank closeBracket = false := by decide
      simp [List.intercalate, readElements, turn?_closing hblank]
    | @cons t a ts as ht hts =>
      obtain ⟨b, s, rfl, hb⟩ := ht.opening
      have hread := ht.read _ (boundary_elements (.inl rfl) ts rest)
      have hlen := length_le_flatMap_comma ts
      rw [List.cons_append] at hread
      simp only [intercalate_comma, List.append_assoc, List.cons_append, readElements,
        turn?_first hb hb.2.2.1, hread]
      rw [readElements_tail rest hts _ [a]
        (by simp only [List.length_append, List.length_cons]; omega)]
      rfl
  opening := ⟨openBracket, _, rfl, by decide⟩

theorem array_lawful {f : Format α} (h : f.Lawful) : (Format.array f).Lawful :=
  Format.lawful_of_reads fun _ =>
    array_reads (List.forall₂_map_left_iff.2 (List.forall₂_same.2 fun a _ => h.reads a))

theorem list_reads_null {f : Format α} : (Format.list f).Reads nullWord [] where
  read rest hrest := by
    simp [Format.list, optional_reads_null.read rest hrest, Except.map]
  opening := ⟨0x6E, _, rfl, by decide⟩

theorem list_reads {f : Format α} {t : Bytes} {as : List α} (h : (Format.array f).Reads t as)
    (hn : t.head? ≠ some 0x6E) : (Format.list f).Reads t as where
  read rest hrest := by simp [Format.list, (optional_reads h hn).read rest hrest, Except.map]
  opening := h.opening

theorem list_lawful {f : Format α} (h : f.Lawful) : (Format.list f).Lawful := by
  refine Format.lawful_of_reads fun as => list_reads ((array_lawful h).reads as) ?_
  simp [Format.list, Format.array, openBracket]

/-! ## Records -/

theorem colon?_cons (s : Bytes) : colon? (colon :: s) = some s := by
  have hb : isBlank colon = false := by decide
  simp [colon?, skipBlank_cons hb]

/-- Reading the element `t` of an object, first or not, takes a reader of named members from the
names `seen` and the record `x` to `seen'` and `x'`. -/
structure Passes (members : List (Member α)) (t : Bytes) (seen : List String) (x : α)
    (seen' : List String) (x' : α) : Prop where
  first : ∀ n rest, Boundary rest → readNamed members (n + 1) true seen x (t ++ rest) =
    readNamed members n false seen' x' rest
  other : ∀ n rest, Boundary rest → readNamed members (n + 1) false seen x (comma :: (t ++ rest)) =
    readNamed members n false seen' x' rest

/-- Reading the elements `ts` of an object takes a reader of named members from `seen` and `x` to
the record `x'`. -/
inductive PassesAll (members : List (Member α)) : List Bytes → List String → α → α → Prop
  | nil {seen : List String} {x : α} : PassesAll members [] seen x x
  | cons {t : Bytes} {ts : List Bytes} {seen seen' : List String} {x x' x'' : α}
      (h : Passes members t seen x seen' x') (hs : PassesAll members ts seen' x' x'') :
      PassesAll members (t :: ts) seen x x''

variable {members : List (Member α)} {seen : List String} {x x' : α}

/-- A member that has not been read yet is read into its record. -/
theorem passes_member {m : Member α} {name : String} {v : Bytes}
    (hfind : members.find? (fun m' => m'.name == name) = some m) (hnew : name ∉ seen)
    (hread : ∀ rest, Boundary rest → m.read x (v ++ rest) = .ok (x', rest)) :
    Passes members (writeText name ++ colon :: v) seen x (name :: seen) x' := by
  have hopen : Opening quote := by decide
  have hne : quote ≠ closeBrace := by decide
  have hnew : seen.contains name = false := by simpa using hnew
  have hname : ∀ s, name? (quote :: ((Bytes.ofText name).flatMap escape ++ quote :: s)) =
      some (name, s) := fun s => by simp [name?, textBody?_escape]
  constructor
  · intro n rest hrest
    simp only [writeText, List.cons_append, List.append_assoc, List.nil_append, readNamed,
      turn?_first hopen hne, hname, hfind, hnew, Bool.false_eq_true, if_false, colon?_cons,
      hread rest hrest]
  · intro n rest hrest
    simp only [writeText, List.cons_append, List.append_assoc, List.nil_append, readNamed,
      turn?_comma hopen hne (by decide), hname, hfind, hnew, Bool.false_eq_true, if_false,
      colon?_cons, hread rest hrest]

/-- The elements that follow the first one. -/
theorem readNamed_tail (rest : Bytes) {ts : List Bytes} (h : PassesAll members ts seen x x') :
    ∀ n, ts.length < n →
    readNamed members n false seen x (ts.flatMap (comma :: ·) ++ closeBrace :: rest) =
      .ok (x', rest) := by
  induction h with
  | nil =>
    intro n hn
    obtain ⟨n, rfl⟩ : ∃ k, n = k + 1 := ⟨n - 1, by simp at hn; omega⟩
    simp [readNamed, turn?_closing (by decide : isBlank closeBrace = false)]
  | @cons t ts seen seen' x x' x'' ht _ ih =>
    intro n hn
    obtain ⟨n, rfl⟩ : ∃ k, n = k + 1 := ⟨n - 1, by simp at hn; omega⟩
    rw [List.flatMap_cons, List.cons_append, List.cons_append, List.append_assoc,
      ht.other n _ (boundary_elements (.inr rfl) ts rest), ih n (by simpa using hn)]

/-- A record is read element by element. -/
theorem record_reads {ts : List Bytes} {blank : α} (h : PassesAll members ts [] blank x) :
    (Format.record members blank).Reads
      (openBrace :: List.intercalate [comma] ts ++ [closeBrace]) x where
  read rest _ := by
    have hb : isBlank openBrace = false := by decide
    simp only [Format.record, List.cons_append, List.append_assoc, List.nil_append,
      skipBlank_cons hb, if_true]
    cases h with
    | nil =>
      have hblank : isBlank closeBrace = false := by decide
      simp [List.intercalate, readNamed, turn?_closing hblank]
    | @cons t ts _ seen' _ x' _ ht hts =>
      have hlen := length_le_flatMap_comma ts
      rw [intercalate_comma, List.append_assoc,
        ht.first _ _ (boundary_elements (.inr rfl) ts rest), readNamed_tail rest hts]
      simp only [List.length_append, List.length_cons]
      omega
  opening := ⟨openBrace, _, rfl, by decide⟩

theorem find?_name (h : (members.map (·.name)).Nodup) :
    ∀ m ∈ members, members.find? (fun m' => m'.name == m.name) = some m := by
  induction members with
  | nil => simp
  | cons m₀ ms ih =>
    obtain ⟨hname, hnodup⟩ := List.nodup_cons.1 h
    intro m hm
    rcases List.mem_cons.1 hm with rfl | hm
    · simp
    · have hne : (m₀.name == m.name) = false := by
        rw [beq_eq_false_iff_ne]
        exact fun heq => hname (List.mem_map.2 ⟨m, hm, heq.symm⟩)
      simp [hne, ih hnodup m hm]

/-! ### The fields that an object gives -/

/-- A member takes the value `v` into a record that has some fields, which then has one more. -/
def Member.Takes (m : Member α) (only : List String → α) (v : Bytes) : Prop :=
  ∀ names rest, Boundary rest →
    m.read (only names) (v ++ rest) = .ok (only (names ++ [m.name]), rest)

theorem member_takes {f : Format β} {v : Bytes} {b : β} (h : f.Reads v b) {name : String}
    {get : α → β} {set : α → β → α} {only : List String → α}
    (hset : ∀ names, set (only names) b = only (names ++ [name])) :
    (f.member name get set).Takes only v := by
  intro names rest hrest
  simp only [Format.member, h.read rest hrest, Except.map, hset]

/-- The member called `name` takes the value `v`. -/
def Taken (members : List (Member α)) (only : List String → α) (name : String) (v : Bytes) : Prop :=
  ∃ m, members.find? (fun m' => m'.name == name) = some m ∧ m.name = name ∧ m.Takes only v

theorem taken_of_mem {only : List String → α} {v : Bytes} (hnodup : (members.map (·.name)).Nodup)
    {m : Member α} (hm : m ∈ members) (h : m.Takes only v) : Taken members only m.name v :=
  ⟨m, find?_name hnodup m hm, rfl, h⟩

/-- The members `ts` of an object give the fields `names` of a record, each once, with a value in
one of the forms that `Form` allows for it. Members that are `Foreign` to the record may stand
between them. -/
inductive Gives (Foreign : Bytes → Prop) (Form : String → Bytes → Prop) :
    List String → List Bytes → Prop
  | nil : Gives Foreign Form [] []
  | field {name : String} {v : Bytes} {names : List String} {ts : List Bytes} (hv : Form name v)
      (hnew : name ∉ names) (h : Gives Foreign Form names ts) :
      Gives Foreign Form (name :: names) ((writeText name ++ colon :: v) :: ts)
  | foreign {t : Bytes} {names : List String} {ts : List Bytes} (ht : Foreign t)
      (h : Gives Foreign Form names ts) : Gives Foreign Form names (t :: ts)

variable {Foreign : Bytes → Prop} {Form : String → Bytes → Prop} {only : List String → α}
  {names : List String} {ts : List Bytes}

/-- The fields of an object are read one after the other; those in `done` have been read. -/
theorem Gives.passesAll (h : Gives Foreign Form names ts)
    (hforeign : ∀ t, Foreign t → ∀ seen x, Passes members t seen x seen x)
    (htaken : ∀ name v, Form name v → Taken members only name v) : ∀ done,
    (∀ name ∈ names, name ∉ done) →
    PassesAll members ts done.reverse (only done) (only (done ++ names)) := by
  induction h with
  | nil =>
    intro done _
    rw [List.append_nil]
    exact .nil
  | @field name v names ts hv hnew _ ih =>
    intro done hdone
    obtain ⟨m, hfind, hname, hm⟩ := htaken name v hv
    have hunread : name ∉ done.reverse := fun hmem =>
      hdone name List.mem_cons_self (List.mem_reverse.1 hmem)
    have hpass := passes_member hfind hunread (hm done)
    have hall := ih (done ++ [name]) fun name' h' hmem => by
      rcases List.mem_append.1 hmem with hmem | hmem
      · exact hdone name' (List.mem_cons_of_mem name h') hmem
      · exact hnew (List.mem_singleton.1 hmem ▸ h')
    rw [List.reverse_append, List.append_assoc] at hall
    rw [hname] at hpass
    exact .cons hpass hall
  | @foreign t names ts ht _ ih =>
    intro done hdone
    exact .cons (hforeign t ht done.reverse (only done)) (ih done hdone)

/-- An object is read as the record that has the fields which the object gives. -/
theorem Gives.reads (h : Gives Foreign Form names ts)
    (hforeign : ∀ t, Foreign t → ∀ seen x, Passes members t seen x seen x)
    (htaken : ∀ name v, Form name v → Taken members only name v) :
    (Format.record members (only [])).Reads
      (openBrace :: List.intercalate [comma] ts ++ [closeBrace]) (only names) :=
  record_reads (h.passesAll hforeign htaken [] fun _ _ => List.not_mem_nil)

/-- Written members give their fields, in whatever order they stand. -/
theorem gives_writeNamed {a : α} {ms : List (Member α)} (hms : ∀ m ∈ ms, Form m.name (m.write a))
    (hnodup : (ms.map (·.name)).Nodup) :
    Gives Foreign Form (ms.map (·.name)) (ms.map (·.writeNamed a)) := by
  induction ms with
  | nil => exact .nil
  | cons m ms ih =>
    obtain ⟨hname, hnodup⟩ := List.nodup_cons.1 hnodup
    have hrest := ih (fun m' hm' => hms m' (List.mem_cons_of_mem m hm')) hnodup
    exact .field (hms m List.mem_cons_self) hname hrest

/-- A record is lawful if its members take their fields, the names of the members differ, and
the record that has all fields is the whole. -/
theorem record_lawful {only : α → List String → α} {blank : α}
    (htakes : ∀ a, ∀ m ∈ members, m.Takes (only a) (m.write a))
    (hnodup : (members.map (·.name)).Nodup) (hblank : ∀ a, only a [] = blank)
    (hwhole : ∀ a, only a (members.map (·.name)) = a) : (Format.record members blank).Lawful := by
  refine Format.lawful_of_reads fun a => ?_
  have hgives : Gives (fun _ => False) (Taken members (only a)) (members.map (·.name))
      (members.map (·.writeNamed a)) :=
    gives_writeNamed (fun m hm => taken_of_mem hnodup hm (htakes a m hm)) hnodup
  have hreads := hgives.reads (fun _ => False.elim) fun _ _ => id
  rw [hblank, hwhole] at hreads
  exact hreads

end ReplayRegistry.Json
