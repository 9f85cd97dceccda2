/-!
# Words without regard to case

Settings such as statuses and subscription types are words of small ASCII letters that are accepted
in any case. A text matches such a word when its lowercase form is the word. Besides the capital
ASCII letters, one more character has a small ASCII letter as its lowercase form: the Kelvin sign.
-/

namespace ReplayRegistry.Text

/-- The small ASCII letter that is the lowercase form of a character, where there is one, and the
character itself otherwise. -/
def lower (c : Char) : Char := if c = '\u212A' then 'k' else c.toLower

/-- The characters of a text with those that have a small ASCII letter as lowercase form replaced
by it. Two texts that become one word of small ASCII letters differ in case alone. -/
def lowered (s : String) : List Char := s.toList.map lower

/-- Whether a text is a given word of small ASCII letters, in any case. -/
def isWord (word s : String) : Bool := lowered s == word.toList

theorem isWord_iff {word s : String} : isWord word s ↔ lowered s = word.toList := by
  simp [isWord]

/-- A text that matches a word matches no other. -/
theorem eq_of_isWord {word word' s : String} (h : isWord word s) (h' : isWord word' s) :
    word = word' :=
  String.toList_injective ((isWord_iff.1 h).symm.trans (isWord_iff.1 h'))

/-- Of values that go by different words, a text finds the one whose word it matches. -/
theorem find?_isWord_eq_some_iff {α : Type} {word : α → String}
    (hword : ∀ x y, word x = word y → x = y) {xs : List α} {s : String} {x : α} :
    (xs.find? fun x => isWord (word x) s) = some x ↔ x ∈ xs ∧ isWord (word x) s := by
  constructor
  · intro h
    exact ⟨List.mem_of_find?_eq_some h, by simpa using List.find?_some h⟩
  · rintro ⟨hx, hmatch⟩
    cases hfind : xs.find? fun x => isWord (word x) s with
    | none => exact absurd hmatch (List.find?_eq_none.1 hfind x hx)
    | some y =>
      have hfound : isWord (word y) s := by simpa using List.find?_some hfind
      rw [hword x y (eq_of_isWord hmatch hfound)]

end ReplayRegistry.Text
