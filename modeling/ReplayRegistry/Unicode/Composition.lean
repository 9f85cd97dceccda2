import ReplayRegistry.Unicode.CombiningClass
import ReplayRegistry.Unicode.Composites

/-!
# The composed form of a text

Texts that differ only in how accented characters are put together have the same composed form. It
is reached in three steps: every composite is taken apart, marks between two characters of class 0
are put in the order of their classes, and pairs are put together again as far as they go.
-/

namespace ReplayRegistry.Unicode

/-! ## Hangul syllables -/

/-- The first syllable. -/
def syllableBase : Nat := 0xAC00

/-- The first leading consonant. -/
def leadBase : Nat := 0x1100

/-- The first vowel. -/
def vowelBase : Nat := 0x1161

/-- One before the first trailing consonant. -/
def trailBase : Nat := 0x11A7

/-- The letters that a syllable consists of. -/
def syllableLetters? (code : Nat) : Option (List Nat) :=
  if syllableBase ≤ code ∧ code < syllableBase + 11172 then
    let i := code - syllableBase
    let trail := i % 28
    some ([leadBase + i / 588, vowelBase + i % 588 / 28] ++
      if trail = 0 then [] else [trailBase + trail])
  else none

/-- The syllable of a leading consonant and a vowel, or of such a syllable and a trailing
consonant. -/
def syllable? (a b : Nat) : Option Nat :=
  if leadBase ≤ a ∧ a < leadBase + 19 ∧ vowelBase ≤ b ∧ b < vowelBase + 21 then
    some (syllableBase + ((a - leadBase) * 21 + (b - vowelBase)) * 28)
  else if syllableBase ≤ a ∧ a < syllableBase + 11172 ∧ (a - syllableBase) % 28 = 0 ∧
      trailBase < b ∧ b < trailBase + 28 then
    some (a + (b - trailBase))
  else none

/-! ## Taking apart -/

/-- Take a character apart, and the parts again, up to `n` times over. -/
def decomposeChar : Nat → Nat → List Nat
  | 0, code => [code]
  | n + 1, code =>
    match syllableLetters? code with
    | some letters => letters
    | none =>
      match composites.row? code with
      | some row => row.value.flatMap (decomposeChar n)
      | none => [code]

/-- Composites are nested at most this deep. -/
def compositeDepth : Nat := 4

/-- Take every composite apart. -/
def decompose (s : List Char) : List Char :=
  s.flatMap fun c => (decomposeChar compositeDepth c.toNat).map Char.ofNat

/-! ## Putting marks in order -/

/-- Put a character before a text whose marks are in order, past the marks of lower class. -/
def insertMark (c : Char) : List Char → List Char
  | [] => [c]
  | d :: s =>
    if 0 < combiningClass d ∧ combiningClass d < combiningClass c then d :: insertMark c s
    else c :: d :: s

/-- Put the marks of a text in the order of their classes. -/
def orderMarks (s : List Char) : List Char := s.foldr insertMark []

/-! ## Putting together -/

/-- The composite of a pair. -/
def composite? (a b : Char) : Option Char :=
  match syllable? a.toNat b.toNat with
  | some code => some (Char.ofNat code)
  | none =>
    (composites.find? fun row => row.value == [a.toNat, b.toNat]).map fun row =>
      Char.ofNat row.first

/-- Compose what follows `start`, a character of class 0. Between it and the text stand `marks`,
newest first, that did not compose with it. A character is blocked by a mark before it of no lower
class. -/
def composeFrom (start : Char) (marks : List Char) : List Char → List Char
  | [] => start :: marks.reverse
  | c :: s =>
    let blocked := match marks with
      | [] => false
      | m :: _ => combiningClass c ≤ combiningClass m
    match if blocked then none else composite? start c with
    | some d => composeFrom d marks s
    | none =>
      if combiningClass c = 0 then start :: marks.reverse ++ composeFrom c [] s
      else composeFrom start (c :: marks) s

/-- Compose a text; marks before the first character of class 0 stay as they are. -/
def compose : List Char → List Char
  | [] => []
  | c :: s => if combiningClass c = 0 then composeFrom c [] s else c :: compose s

/-- The composed form of a text. -/
def composed (s : List Char) : List Char := compose (orderMarks (decompose s))

end ReplayRegistry.Unicode
