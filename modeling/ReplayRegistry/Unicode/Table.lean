import ReplayRegistry.Bytes

/-!
# Tables of character properties

A property is given by rows, each with the code points it covers and what it says of them; rows
come in increasing order and do not overlap. The text of a table holds its rows between blanks: a
code point or a range of them in hexadecimal (`AD`, `300-36F`), then what the row says.
-/

namespace ReplayRegistry.Unicode

/-- A row of a table. -/
structure Row (α : Type) where
  first : Nat
  last : Nat
  /-- What the row says. -/
  value : α

/-- A table, in increasing order of code points. -/
abbrev Table (α : Type) := Array (Row α)

/-- Find the row of a code point between two positions by halving; `n` bounds the number of
halvings. -/
def search {α : Type} (t : Table α) (code : Nat) : Nat → Nat → Nat → Option (Row α)
  | 0, _, _ => none
  | n + 1, low, high =>
    if low < high then
      let middle := (low + high) / 2
      match t[middle]? with
      | none => none
      | some row =>
        if code < row.first then search t code n low middle
        else if row.last < code then search t code n (middle + 1) high
        else some row
    else none

/-- The row that covers a code point. -/
def Table.row? {α : Type} (t : Table α) (code : Nat) : Option (Row α) :=
  search t code (t.size + 1) 0 t.size

/-- What a table says of a character. -/
def Table.value? {α : Type} (t : Table α) (c : Char) : Option α := (t.row? c.toNat).map (·.value)

/-- Whether a table has a row for a character. -/
def Table.covers {α : Type} (t : Table α) (c : Char) : Bool := (t.row? c.toNat).isSome

/-- The number that hexadecimal digits stand for. -/
def hexNumber (ds : List Char) : Nat :=
  ds.foldl (fun n d => 16 * n + (Bytes.hexValue? d).getD 0) 0

/-- Split a row into its first and last code point and the rest. -/
def splitRow (s : List Char) : Nat × Nat × List Char :=
  let isHex := fun c => (Bytes.hexValue? c).isSome
  let first := hexNumber (s.takeWhile isHex)
  match s.dropWhile isHex with
  | '-' :: r => (first, hexNumber (r.takeWhile isHex), r.dropWhile isHex)
  | r => (first, first, r)

/-- The words of a text. -/
def wordsOf : List Char → List Char → List (List Char)
  | word, [] => if word.isEmpty then [] else [word.reverse]
  | word, c :: s =>
    if c.isWhitespace then if word.isEmpty then wordsOf [] s else word.reverse :: wordsOf [] s
    else wordsOf (c :: word) s

/-- Read a table; `value` reads what a row says. -/
def Table.ofText {α : Type} (value : List Char → α) (text : String) : Table α :=
  ((wordsOf [] text.toList).map fun w =>
    let (first, last, r) := splitRow w
    ⟨first, last, value r⟩).toArray

/-- The code points `A+B+C` of a row, in hexadecimal. -/
def codePoints (s : List Char) : List Nat :=
  (s.splitOn '+').map hexNumber

end ReplayRegistry.Unicode
