import ReplayRegistry.Text.Caseless
import ReplayRegistry.Yaml.Basic

/-!
# Values of settings

Every source of settings gives values of one kind: scalars, lists, and tables whose keys are texts.
A setting that expects a scalar takes any scalar that can be converted to it, so that a source which
writes a number as text, or a text that looks like a number, serves as well.

A later source is laid over an earlier one. Tables are laid over tables key by key, and anything
else takes the place of what was there.
-/

namespace ReplayRegistry.Settings

/-- A value of a setting. -/
inductive Value where
  /-- No value. -/
  | nil
  /-- A truth value. -/
  | bool (b : Bool)
  /-- A whole number of 64 bits. -/
  | int (i : Int)
  /-- Any other number. -/
  | real (x : Binary64)
  /-- A text. -/
  | text (s : String)
  /-- Values in order. -/
  | list (items : List Value)
  /-- Values by key. -/
  | table (members : List (String × Value))

namespace Value

/-! ## Tables -/

/-- The form in which a table knows a key: case makes no difference. -/
def foldKey (key : String) : String := String.ofList (Text.lowered key)

/-- The members of a table; other values have none. -/
def members : Value → List (String × Value)
  | table ms => ms
  | _ => []

/-- The items of a list; other values have none. -/
def items : Value → List Value
  | list vs => vs
  | _ => []

/-- The value of a key. -/
def lookup? (key : String) : List (String × Value) → Option Value
  | [] => none
  | (k, v) :: ms => if k = key then some v else lookup? key ms

/-- Give a key a value, in place of the one that it has. -/
def assign (key : String) (v : Value) : List (String × Value) → List (String × Value)
  | [] => [(key, v)]
  | (k, w) :: ms => if k = key then (k, v) :: ms else (k, w) :: assign key v ms

theorem lookup?_assign (key key' : String) (v : Value) :
    ∀ ms : List (String × Value),
      lookup? key' (assign key v ms) = if key' = key then some v else lookup? key' ms
  | [] => by
    by_cases h : key' = key
    · simp [assign, lookup?, h]
    · simp [assign, lookup?, h, Ne.symm h]
  | (k, w) :: ms => by
    have ih := lookup?_assign key key' v ms
    by_cases hk : k = key
    · by_cases h : key' = key
      · simp [assign, lookup?, hk, h]
      · simp [assign, lookup?, hk, h, Ne.symm h]
    · by_cases h : k = key'
      · simp [assign, lookup?, h, h ▸ hk]
      · simp [assign, lookup?, hk, h, ih]

mutual

/-- What becomes of the value `old` when `new` is laid over it. A table without members leaves a
value that is there as it is. -/
def overlay (old : Option Value) (new : Value) : Value :=
  match new with
  | .table ms => overlayMembers (old.getD (.table [])) ms
  | new => new

/-- Lay members over a value, which becomes a table with the first of them. -/
def overlayMembers (old : Value) (ms : List (String × Value)) : Value :=
  match ms with
  | [] => old
  | (k, v) :: ms =>
    let key := foldKey k
    overlayMembers (.table (assign key (overlay (lookup? key old.members) v) old.members)) ms

end

/-! ## Conversion -/

/-- A whole number in decimal digits. -/
def printInt (i : Int) : String :=
  let digits := Nat.toDigits 10 i.natAbs
  String.ofList (if i < 0 then '-' :: digits else digits)

/-- The text of a key. -/
def keyText? : Yaml.Node → Option String
  | .text s | .real s => some s
  | .int i => some (printInt i)
  | .bool b => some (if b then "true" else "false")
  | _ => none

mutual

/-- The value that a node of a settings file gives. Numbers have to be written as numbers are read
here, and the keys of a mapping have to be scalars that are not empty. -/
def ofNode? : Yaml.Node → Option Value
  | .null => some .nil
  | .bool b => some (.bool b)
  | .int i => some (.int i)
  | .real s => (Binary64.parse? s).map .real
  | .text s => some (.text s)
  | .sequence items => (ofNodes? items).map .list
  | .mapping members => (ofMembers? members).map .table

/-- The values of nodes in order. -/
def ofNodes? : List Yaml.Node → Option (List Value)
  | [] => some []
  | n :: ns => do
    let v ← ofNode? n
    let vs ← ofNodes? ns
    return v :: vs

/-- The members that a mapping gives. -/
def ofMembers? : List (Yaml.Node × Yaml.Node) → Option (List (String × Value))
  | [] => some []
  | (k, n) :: ns => do
    let key ← keyText? k
    let v ← ofNode? n
    let vs ← ofMembers? ns
    return (key, v) :: vs

end

/-- A value as a text. -/
def text? : Value → Option String
  | text s => some s
  | bool b => some (if b then "true" else "false")
  | int i => some (printInt i)
  | real x => some x.print
  | nil | list _ | table _ => none

/-- A value as a text that may be missing. -/
def optionalText? : Value → Option (Option String)
  | nil => some none
  | v => v.text?.map some

/-- A whole number from 0 to `most`, with an optional plus sign. -/
def digits? (most : Nat) (s : String) : Option Nat :=
  let ds := match s.toList with
    | '+' :: ds => ds
    | ds => ds
  let n := Binary64.digitsValue ds
  if !ds.isEmpty && ds.all Char.isDigit && n ≤ most then some n else none

/-- The greatest whole number of 64 bits without a sign. -/
def greatestNat : Nat := 18446744073709551615

/-- A value as a whole number of 64 bits without a sign. Fractions are rounded, and words for truth
values count as 1 and 0. -/
def nat? : Value → Option Nat
  | int i => if 0 ≤ i then some i.toNat else none
  | real x => some (x.toNat greatestNat)
  | bool b => some (if b then 1 else 0)
  | text s =>
    if ["true", "on", "yes"].any (Text.isWord · s) then some 1
    else if ["false", "off", "no"].any (Text.isWord · s) then some 0
    else digits? greatestNat s
  | nil | list _ | table _ => none

/-- A value as one of several words, in any case. The word is given as a text, or as the only key of
a table. -/
def word? {α : Type} (words : List (String × α)) : Value → Option α
  | text s | table [(s, _)] => (words.find? fun w => Text.isWord w.1 s).map Prod.snd
  | _ => none

end Value

end ReplayRegistry.Settings
