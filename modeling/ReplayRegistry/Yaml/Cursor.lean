import ReplayRegistry.Yaml.Basic

/-!
# Places in a settings file

Indentation carries the structure of a file, so a place is known by its line and column. Between
tokens stand blanks, line ends, and comments, which start at a number sign after a blank.
-/

namespace ReplayRegistry.Yaml

/-- A place in a file. -/
structure Cursor where
  /-- The rest of the line. -/
  rest : List Char
  /-- The column, from 0. -/
  column : Nat
  /-- The lines after this one. -/
  later : List (List Char)
  /-- The anchored values so far. -/
  anchors : List (String × Node) := []

/-- Split a text into lines. -/
def linesOf : List Char → List Char → List (List Char)
  | line, [] => [line.reverse]
  | line, '\r' :: '\n' :: s => line.reverse :: linesOf [] s
  | line, c :: s =>
    if c = '\n' ∨ c = '\r' then line.reverse :: linesOf [] s else linesOf (c :: line) s

namespace Cursor

/-- Move on by `n` characters of the line. -/
def skip (c : Cursor) (n : Nat) : Cursor :=
  { c with rest := c.rest.drop n, column := c.column + min n c.rest.length }

/-- Whether a character is a blank within a line. -/
def isBlank (ch : Char) : Bool := ch == ' ' || ch == '\t'

/-- Whether a text starts with a blank or is at its end. -/
def atBlank : List Char → Bool
  | [] => true
  | ch :: _ => isBlank ch

/-- Move past blanks of the line. -/
def skipBlanks (c : Cursor) : Cursor := c.skip (c.rest.takeWhile isBlank).length

/-- Whether a line starts with a mark between documents. -/
def isDocumentMark (line : List Char) : Bool :=
  ("---".toList.isPrefixOf line || "...".toList.isPrefixOf line) && atBlank (line.drop 3)

/-- Whether nothing of the document is left here. -/
def atEnd (c : Cursor) : Bool := c.rest.isEmpty || (c.column == 0 && isDocumentMark c.rest)

/-- Where a token starts. -/
structure Next where
  /-- Its place; at the end of the file, an empty rest of a line. -/
  cursor : Cursor
  /-- Whether it is on a later line. -/
  crossed : Bool

/-- Find the next token from the start of a line on. -/
def findToken (anchors : List (String × Node)) (indent : Int) :
    List (List Char) → Option Next
  | [] => some ⟨⟨[], 0, [], anchors⟩, true⟩
  | line :: later =>
    let blanks := line.takeWhile isBlank
    let rest := line.dropWhile isBlank
    if rest.isEmpty || rest.head? == some '#' then findToken anchors indent later
    else
      let spaces := (blanks.takeWhile (· == ' ')).length
      if spaces < blanks.length ∧ (spaces : Int) ≤ indent then none
      else some ⟨⟨rest, blanks.length, later, anchors⟩, true⟩

/-- Find the next token. In a block that is indented by `indent`, tabs may not take the place of
its indentation. A comment has to be set off by a blank. -/
def nextToken? (c : Cursor) (indent : Int) : Option Next :=
  let d := c.skipBlanks
  match d.rest with
  | [] => findToken c.anchors indent c.later
  | '#' :: _ =>
    if c.column < d.column ∨ d.column = 0 then findToken c.anchors indent c.later else none
  | _ => some ⟨d, false⟩

end Cursor

end ReplayRegistry.Yaml
