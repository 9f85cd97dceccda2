import ReplayRegistry.Json.Skip

/-!
# Formats and records

A format pairs the written form of a type with its reader. The format of a record is a table of
members, each with its name, its format, and the field of the record that it stands for: the same
table writes the record as an object in table order, reads it back from an object whose members
come in any order, and reads it from an array of the values in table order.
-/

namespace ReplayRegistry.Json

/-- Why a text does not decode. -/
inductive DecodeError where
  /-- The text is not the written form of any value of the type. -/
  | malformed
  /-- A status is given by a whole number up to 255 that names no status. -/
  | unknownStatus (ordinal : Nat)
deriving DecidableEq, Repr

/-- A reader takes a value from the front of a text and returns what follows it. -/
abbrev Reader (α : Type) := Bytes → Except DecodeError (α × Bytes)

/-- The written form of a type, and its reader. -/
structure Format (α : Type) where
  write : α → Bytes
  /-- Read a value from the front of a text; blanks before it are passed over. -/
  read : Reader α

/-- Turn a missing result into a malformed text. -/
def orMalformed {α : Type} : Option α → Except DecodeError α
  | some a => .ok a
  | none => .error .malformed

/-! ## Elements of a container -/

/-- Where a reader stands between the elements of a container. -/
inductive Turn where
  /-- The container has ended; `rest` follows it. -/
  | done (rest : Bytes)
  /-- Another element starts here. -/
  | element (start : Bytes)

/-- Pass the comma before an element that is not the first, or the mark that ends the container. A
comma has to be followed by an element. -/
def turn? (closing : UInt8) (first : Bool) (s : Bytes) : Option Turn :=
  match skipBlank s with
  | [] => none
  | b :: s =>
    if b = closing then some (.done s)
    else if first then some (.element (b :: s))
    else if b = comma then
      match skipBlank s with
      | [] => none
      | c :: s => if c = closing then none else some (.element (c :: s))
    else none

/-- Read elements up to the closing bracket, after `acc` (newest first). -/
def readElements {α : Type} (read : Reader α) : Nat → Bool → List α → Reader (List α)
  | 0, _, _, _ => .error .malformed
  | n + 1, first, acc, s =>
    match turn? closeBracket first s with
    | none => .error .malformed
    | some (.done s) => .ok (acc.reverse, s)
    | some (.element s) =>
      match read s with
      | .error e => .error e
      | .ok (a, s) => readElements read n false (a :: acc) s

/-! ## Formats of plain values -/

/-- The value of a run of decimal digits. -/
def digitsValue (ds : Bytes) : Nat := ds.foldl (fun n d => 10 * n + (d.toNat - 0x30)) 0

/-- The decimal digits of a number, as bytes. -/
def natDigits (n : Nat) : Bytes := (Nat.toDigits 10 n).map fun c => c.toNat.toUInt8

/-- Read a whole number. It is written without fraction, exponent or needless zeros, and zero has
no sign. -/
def integer? (s : Bytes) : Option (Int × Bytes) :=
  let (negative, s) := match s with
    | b :: r => if b = minus then (true, r) else (false, s)
    | [] => (false, s)
  let digits := s.takeWhile isDigit
  let rest := s.dropWhile isDigit
  let pointed := match rest with
    | b :: _ => b == 0x2E || b == 0x65 || b == 0x45
    | [] => false
  if digits.isEmpty || pointed || (digits.head? == some 0x30 && digits.length != 1) then none
  else if negative then
    if digitsValue digits = 0 then none else some (-(digitsValue digits : Int), rest)
  else some (digitsValue digits, rest)

def writeInt (i : Int) : Bytes :=
  if i < 0 then minus :: natDigits i.natAbs else natDigits i.natAbs

namespace Format

variable {α β : Type}

/-- A text, as a string literal. -/
def text : Format String where
  write := writeText
  read s := orMalformed <|
    match skipBlank s with
    | b :: s => if b = quote then textBody? s else none
    | [] => none

/-- A 32-bit whole number. -/
def int32 : Format Int32 where
  write i := writeInt i.toInt
  read s := orMalformed <| do
    let (i, s) ← integer? (skipBlank s)
    if -2147483648 ≤ i ∧ i < 2147483648 then some (Int32.ofInt i, s) else none

/-- Values written as text, where some texts may stand for no value. -/
def viaText (print : α → String) (parse? : String → Option α) : Format α where
  write a := writeText (print a)
  read s :=
    match text.read s with
    | .error e => .error e
    | .ok (t, s) => (orMalformed (parse? t)).map fun a => (a, s)

/-- A value or `null`. -/
def optional (f : Format α) : Format (Option α) where
  write
    | none => nullWord
    | some a => f.write a
  read s :=
    match skipBlank s with
    | b :: r =>
      if b = 0x6E then (orMalformed (word? nullWord (b :: r))).map fun r => (none, r)
      else (f.read (b :: r)).map fun p => (some p.1, p.2)
    | [] => .error .malformed

/-- A list of values. -/
def array (f : Format α) : Format (List α) where
  write as := openBracket :: List.intercalate [comma] (as.map f.write) ++ [closeBracket]
  read s :=
    match skipBlank s with
    | b :: r =>
      if b = openBracket then readElements f.read (r.length + 1) true [] r
      else .error .malformed
    | [] => .error .malformed

/-- A list of values; `null` reads as the empty list. -/
def list (f : Format α) : Format (List α) where
  write := (array f).write
  read s := ((optional (array f)).read s).map fun p => (p.1.getD [], p.2)

/-- Decode a whole text: one value, with blanks around it and nothing else. -/
def decode (f : Format α) (s : Bytes) : Except DecodeError α :=
  match f.read s with
  | .error e => .error e
  | .ok (a, s) => if skipBlank s = [] then .ok a else .error .malformed

end Format

/-! ## Records -/

/-- A named member of a record. -/
structure Member (α : Type) where
  name : String
  write : α → Bytes
  /-- Read a value and put it into the record. -/
  read : α → Reader α

/-- The member `name` for the field that `get` and `set` access. -/
def Format.member {α β : Type} (f : Format β) (name : String) (get : α → β) (set : α → β → α) :
    Member α where
  name := name
  write a := f.write (get a)
  read a s := (f.read s).map fun p => (set a p.1, p.2)

variable {α : Type}

def Member.writeNamed (a : α) (m : Member α) : Bytes := writeText m.name ++ colon :: m.write a

/-- Pass the colon after the name of a member. -/
def colon? (s : Bytes) : Option Bytes :=
  match skipBlank s with
  | b :: s => if b = colon then some s else none
  | [] => none

def name? : Bytes → Option (String × Bytes)
  | b :: s => if b = quote then textBody? s else none
  | [] => none

/-- Read named members into `a` up to the closing brace. A member of the table may come once; a
name that is not in the table is passed over with its value. -/
def readNamed (members : List (Member α)) : Nat → Bool → List String → α → Reader α
  | 0, _, _, _, _ => .error .malformed
  | n + 1, first, seen, a, s =>
    match turn? closeBrace first s with
    | none => .error .malformed
    | some (.done s) => .ok (a, s)
    | some (.element s) =>
      match name? s with
      | none => .error .malformed
      | some (name, s) =>
        match members.find? fun m => m.name == name with
        | some m =>
          if seen.contains name then .error .malformed
          else
            match colon? s with
            | none => .error .malformed
            | some s =>
              match m.read a s with
              | .error e => .error e
              | .ok (a, s) => readNamed members n false (name :: seen) a s
        | none =>
          match (colon? s).bind skipValue? with
          | none => .error .malformed
          | some s => readNamed members n false seen a s

/-- Read the members of the table in order into `a` up to the closing bracket. Members at the end
may be left out. -/
def readPositional : List (Member α) → Bool → α → Reader α
  | [], first, a, s =>
    match turn? closeBracket first s with
    | some (.done s) => .ok (a, s)
    | _ => .error .malformed
  | m :: members, first, a, s =>
    match turn? closeBracket first s with
    | none => .error .malformed
    | some (.done s) => .ok (a, s)
    | some (.element s) =>
      match m.read a s with
      | .error e => .error e
      | .ok (a, s) => readPositional members false a s

/-- A record with the given members; those that a text leaves out are as in `blank`. -/
def Format.record (members : List (Member α)) (blank : α) : Format α where
  write a := openBrace :: List.intercalate [comma] (members.map (·.writeNamed a)) ++ [closeBrace]
  read s :=
    match skipBlank s with
    | b :: s =>
      if b = openBrace then readNamed members (s.length + 1) true [] blank s
      else if b = openBracket then readPositional members true blank s
      else .error .malformed
    | [] => .error .malformed

end ReplayRegistry.Json
