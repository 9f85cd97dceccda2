import ReplayRegistry.Settings.Value

/-!
# Places of settings

A source names the place of a value by a key, which may be a path such as `log.kafka` or
`servers[0].name`: a name, then members and items. A key that is no path is a name as a whole.
Values on the way to a place are made tables and lists as the path needs them.
-/

namespace ReplayRegistry.Settings

/-- A step to a place. -/
inductive Step where
  /-- To the member of a table. -/
  | member (key : String)
  /-- To the item of a list; a negative number counts from the end. -/
  | item (index : Int)
deriving DecidableEq, Repr

/-- A way to a place. -/
abbrev Path := List Step

namespace Path

/-! ## Reading -/

/-- Whether a character can be part of a name in a path. -/
def isNameChar (c : Char) : Bool := c.isAlphanum || c == ' ' || c == '_' || c == '-'

/-- Whether a character may stand around the number of an item. -/
def isPadding (c : Char) : Bool := c == ' ' || c == '\t' || c == '\r' || c == '\n'

/-- Read the number of an item, up to the closing bracket. -/
def index? (s : List Char) : Option Int :=
  let s := ((s.dropWhile isPadding).reverse.dropWhile isPadding).reverse
  if s.head? == some '+' then none else Yaml.int64? 10 s

/-- Read the steps that follow the name a path starts with. The number `n` bounds them. -/
def steps? : Nat → List Char → Option Path
  | 0, s => if s.isEmpty then some [] else none
  | n + 1, s =>
    match s with
    | [] => some []
    | '.' :: s =>
      let name := s.takeWhile isNameChar
      if name.isEmpty then none
      else (steps? n (s.dropWhile isNameChar)).map
        (.member (Value.foldKey (String.ofList name)) :: ·)
    | '[' :: s =>
      match s.dropWhile (· != ']') with
      | [] => none
      | _ :: rest => do
        let i ← index? (s.takeWhile (· != ']'))
        let steps ← steps? n rest
        return .item i :: steps
    | _ => none

/-- The path that a key stands for. -/
def ofKey (key : String) : Path :=
  let s := key.toList
  let name := s.takeWhile isNameChar
  let steps := if name.isEmpty then none else steps? s.length (s.dropWhile isNameChar)
  match steps with
  | some steps => .member (Value.foldKey (String.ofList name)) :: steps
  | none => [.member (Value.foldKey key)]

/-! ## Placing -/

/-- The position that the number of an item stands for in a list of `size` items. -/
def position (size : Nat) (index : Int) : Nat :=
  if 0 ≤ index then index.toNat else size - index.natAbs

/-- Put a value at a position of a list, which is filled up as far as needed. -/
def setItem (vs : List Value) (i : Nat) (v : Value) : List Value :=
  (vs ++ List.replicate (i + 1 - vs.length) Value.nil).set i v

/-- What becomes of the value `old` when `v` is put at a place in it. A member is laid over what is
there, an item takes its place. -/
def place (v : Value) : Path → Option Value → Value
  | [], old => Value.overlay old v
  | .member key :: steps, old =>
    let ms := (old.getD .nil).members
    .table (Value.assign key (place v steps (Value.lookup? key ms)) ms)
  | .item index :: steps, old =>
    let vs := (old.getD .nil).items
    let i := position vs.length index
    .list (setItem vs i (if steps.isEmpty then v else place v steps vs[i]?))

end Path

end ReplayRegistry.Settings
