import Mathlib.Tactic.SplitIfs
import ReplayRegistry.Json.Text

/-!
# Proofs: a string literal reads as the text that it spells

A text can be spelled in many ways: a byte may stand for itself, and a character may be escaped by
its short escape, by its code unit, or by a surrogate pair. Reading one part gives back the bytes
that it stands for; the loop over the parts and the literal as a whole follow. The written form of a
text is one of its spellings.
-/

namespace ReplayRegistry.Json

/-! ## Spellings -/

/-- Four hexadecimal digits and the code unit that they stand for. -/
inductive CodeUnit : Bytes → Nat → Prop
  | digits {p q r s : UInt8} {a b c d : Nat} (hp : hexValue? p = some a) (hq : hexValue? q = some b)
      (hr : hexValue? r = some c) (hs : hexValue? s = some d) :
      CodeUnit [p, q, r, s] (((a * 16 + b) * 16 + c) * 16 + d)

/-- One part of the inside of a literal and the bytes that it stands for. -/
inductive SpellsPart : Bytes → Bytes → Prop
  | plain {b : UInt8} (hb : 0x20 ≤ b) (hquote : b ≠ quote) (hback : b ≠ backslash) :
      SpellsPart [b] [b]
  | short {e : UInt8 × UInt8} (he : e ∈ shortEscapes) : SpellsPart [backslash, e.1] [e.2]
  | unit {p : Bytes} {u : Nat} (hp : CodeUnit p u) (hu : u < 0xD800 ∨ 0xDFFF < u) :
      SpellsPart (backslash :: letterU :: p) (String.utf8EncodeChar (Char.ofNat u))
  | pair {p q : Bytes} {u v : Nat} (hp : CodeUnit p u) (hq : CodeUnit q v)
      (hu : 0xD800 ≤ u ∧ u ≤ 0xDBFF) (hv : 0xDC00 ≤ v ∧ v ≤ 0xDFFF) :
      SpellsPart (backslash :: letterU :: (p ++ backslash :: letterU :: q))
        (String.utf8EncodeChar (Char.ofNat (0x10000 + (u - 0xD800) * 0x400 + (v - 0xDC00))))

/-- The inside of a literal and the bytes that it stands for. -/
inductive Spells : Bytes → Bytes → Prop
  | nil : Spells [] []
  | cons {p b s t : Bytes} (hp : SpellsPart p b) (hs : Spells s t) : Spells (p ++ s) (b ++ t)

variable {p b s t : Bytes} {u : Nat}

theorem SpellsPart.ne_nil (h : SpellsPart p b) : p ≠ [] := by
  cases h <;> exact List.cons_ne_nil _ _

/-! ## One part -/

theorem lookup_shortEscapes {e : UInt8 × UInt8} (he : e ∈ shortEscapes) :
    shortEscapes.lookup e.1 = some e.2 := by
  simp only [shortEscapes, List.mem_cons, List.not_mem_nil, or_false] at he
  rcases he with rfl | rfl | rfl | rfl | rfl | rfl | rfl | rfl <;> rfl

theorem codeUnit?_append (h : CodeUnit p u) (rest : Bytes) :
    codeUnit? (p ++ rest) = some (u, rest) := by
  cases h with
  | digits hp hq hr hs =>
    simp only [List.cons_append, List.nil_append, codeUnit?, hp, hq, hr, hs, Option.bind_eq_bind,
      Option.bind_some, Option.pure_def]

theorem unicodeEscape?_unit (hp : CodeUnit p u) (hu : u < 0xD800 ∨ 0xDFFF < u) (rest : Bytes) :
    unicodeEscape? (p ++ rest) = some (String.utf8EncodeChar (Char.ofNat u), rest) := by
  have hhigh : isHighSurrogate u = false := by
    simp only [isHighSurrogate, Bool.and_eq_false_iff, decide_eq_false_iff_not]
    omega
  have hlow : isLowSurrogate u = false := by
    simp only [isLowSurrogate, Bool.and_eq_false_iff, decide_eq_false_iff_not]
    omega
  simp only [unicodeEscape?, codeUnit?_append hp, hhigh, hlow, Option.bind_eq_bind,
    Option.bind_some, Bool.false_eq_true, if_false, Option.pure_def]

theorem unicodeEscape?_pair {q : Bytes} {v : Nat} (hp : CodeUnit p u) (hq : CodeUnit q v)
    (hu : 0xD800 ≤ u ∧ u ≤ 0xDBFF) (hv : 0xDC00 ≤ v ∧ v ≤ 0xDFFF) (rest : Bytes) :
    unicodeEscape? (p ++ backslash :: letterU :: (q ++ rest)) =
      some (String.utf8EncodeChar (Char.ofNat (0x10000 + (u - 0xD800) * 0x400 + (v - 0xDC00))),
        rest) := by
  have hhigh : isHighSurrogate u = true := by simp [isHighSurrogate, hu]
  have hlow : isLowSurrogate v = true := by simp [isLowSurrogate, hv]
  simp only [unicodeEscape?, codeUnit?_append hp, codeUnit?_append hq, hhigh, hlow,
    Option.bind_eq_bind, Option.bind_some, if_true, and_self, Option.pure_def]

theorem part?_unicode {x : Bytes} (h : unicodeEscape? s = some (x, t)) :
    part? (backslash :: letterU :: s) = some (.bytes x, t) := by
  have hne : backslash ≠ quote := by decide
  have hu : shortEscapes.lookup letterU = none := by decide
  simp [part?, hne, hu, h]

theorem part?_append (h : SpellsPart p b) (rest : Bytes) :
    part? (p ++ rest) = some (.bytes b, rest) := by
  cases h with
  | @plain b hb hquote hback =>
    have hcontrol : ¬ b < 0x20 := UInt8.not_lt.2 hb
    simp only [List.cons_append, List.nil_append, part?, hquote, hback, hcontrol, if_false]
  | short he =>
    have hne : backslash ≠ quote := by decide
    simp only [List.cons_append, List.nil_append, part?, hne, if_false, if_true,
      lookup_shortEscapes he]
  | unit hp hu => exact part?_unicode (unicodeEscape?_unit hp hu rest)
  | pair hp hq hu hv =>
    have hpair := unicodeEscape?_pair hp hq hu hv rest
    rw [List.cons_append, List.cons_append, List.append_assoc, List.cons_append, List.cons_append]
    exact part?_unicode hpair

/-! ## The literal -/

theorem parts?_append (h : Spells s t) (rest : Bytes) : ∀ (n : Nat) (acc : Bytes), s.length < n →
    parts? n acc (s ++ quote :: rest) = some (acc.reverse ++ t, rest) := by
  induction h with
  | nil =>
    intro n acc hn
    obtain ⟨n, rfl⟩ : ∃ k, n = k + 1 := ⟨n - 1, by omega⟩
    simp [parts?, part?]
  | @cons p b s t hp _ ih =>
    intro n acc hn
    obtain ⟨n, rfl⟩ : ∃ k, n = k + 1 := ⟨n - 1, by omega⟩
    have hlen := List.length_pos_iff.2 hp.ne_nil
    rw [List.length_append] at hn
    simp only [List.append_assoc, parts?, part?_append hp, ih n (b.reverse ++ acc) (by omega),
      List.reverse_append, List.reverse_reverse]

/-- A literal reads as the text that it spells, whatever follows it. -/
theorem textBody?_append {name : String} (h : Spells s (Bytes.ofText name)) (rest : Bytes) :
    textBody? (s ++ quote :: rest) = some (name, rest) := by
  unfold textBody?
  rw [parts?_append h rest _ [] (by simp only [List.length_append]; omega)]
  simp

/-! ## The written form -/

/-- A control character below U+0020 is escaped by its code unit. -/
theorem spellsPart_control {b : UInt8} (h : b < 0x20) :
    SpellsPart [backslash, letterU, 0x30, 0x30, hexByte (b / 16), hexByte (b % 16)] [b] := by
  have hdigits : ∀ n < 32, hexValue? (hexByte (UInt8.ofNat n / 16)) = some (n / 16) ∧
      hexValue? (hexByte (UInt8.ofNat n % 16)) = some (n % 16) := by decide
  have hchars : ∀ n < 32, String.utf8EncodeChar (Char.ofNat n) = [UInt8.ofNat n] := by decide
  have hn : b.toNat < 32 := UInt8.lt_iff_toNat_lt.1 h
  have hb : UInt8.ofNat b.toNat = b := UInt8.ofNat_toNat
  obtain ⟨h₁, h₂⟩ := hdigits b.toNat hn
  have hchar := hchars b.toNat hn
  rw [hb] at h₁ h₂ hchar
  have hzero : hexValue? 0x30 = some 0 := by decide
  have hunit := CodeUnit.digits hzero hzero h₁ h₂
  have hvalue : ((0 * 16 + 0) * 16 + b.toNat / 16) * 16 + b.toNat % 16 = b.toNat := by omega
  rw [hvalue] at hunit
  rw [← hchar]
  exact .unit hunit (.inl (by omega))

theorem spellsPart_escape (b : UInt8) : SpellsPart (escape b) [b] := by
  have hshort : ∀ e ∈ shortEscapes, SpellsPart [backslash, e.1] [e.2] := fun _ => .short
  unfold escape
  split_ifs with h₁ h₂ h₃ h₄ h₅ h₆ h₇ h₈
  iterate 7 · subst b; exact hshort (_, _) (by decide)
  · exact spellsPart_control h₈
  · exact .plain (UInt8.not_lt.1 h₈) h₁ h₂

theorem spells_escape (t : Bytes) : Spells (t.flatMap escape) t := by
  induction t with
  | nil => exact .nil
  | cons b t ih => exact .cons (spellsPart_escape b) ih

/-- A written literal reads as its text, whatever follows it. -/
theorem textBody?_escape (t : String) (rest : Bytes) :
    textBody? ((Bytes.ofText t).flatMap escape ++ quote :: rest) = some (t, rest) :=
  textBody?_append (spells_escape _) rest

end ReplayRegistry.Json
