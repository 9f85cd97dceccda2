/-!
# Blank text

A field counts as missing when nothing but white space stands in it. White space is the Unicode
property of that name, so the no-break space and the ideographic space are blank while the
zero-width space and the byte-order mark are not.
-/

namespace ReplayRegistry.Text

/-- Whether a character has the property White_Space. -/
def isBlank (c : Char) : Bool :=
  let n := c.toNat
  (0x09 ≤ n && n ≤ 0x0D) || n == 0x20 || n == 0x85 || n == 0xA0 || n == 0x1680 ||
    (0x2000 ≤ n && n ≤ 0x200A) || n == 0x2028 || n == 0x2029 || n == 0x202F || n == 0x205F ||
    n == 0x3000

/-- Drop white space at the front. -/
def trimStart (s : List Char) : List Char := s.dropWhile isBlank

/-- Whether a text has no character but white space. -/
def blank (s : String) : Bool := s.toList.all isBlank

/-- Nothing is left of a blank text without the white space at its front. -/
theorem blank_iff {s : String} : blank s ↔ trimStart s.toList = [] := by
  unfold blank trimStart
  induction s.toList with
  | nil => simp
  | cons c cs ih =>
    by_cases hblank : isBlank c
    · simpa [hblank] using ih
    · simp [hblank]

theorem blank_eq_false_iff {s : String} : blank s = false ↔ ∃ c ∈ s.toList, isBlank c = false := by
  simp [blank]

end ReplayRegistry.Text
