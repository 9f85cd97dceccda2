import ReplayRegistry.Bytes
import ReplayRegistry.Number.Binary64

/-!
# Values of settings files

A settings file is YAML. What a file says is a tree of scalars, sequences and mappings; a scalar
that is not quoted stands for a number, a truth value or nothing at all if it looks like one.
-/

namespace ReplayRegistry.Yaml

inductive Node where
  | null
  | bool (b : Bool)
  | int (i : Int)
  /-- Any other number, as it is written. -/
  | real (text : String)
  | text (s : String)
  /-- Values in order. -/
  | sequence (items : List Node)
  /-- Values by key, in order. -/
  | mapping (members : List (Node × Node))

namespace Node

mutual

/-- Whether two values are the same. -/
def same : Node → Node → Bool
  | null, null => true
  | bool a, bool b => a == b
  | int i, int j => i == j
  | real s, real t => s == t
  | text s, text t => s == t
  | sequence items, sequence items' => sameItems items items'
  | mapping members, mapping members' => sameMembers members members'
  | _, _ => false

/-- Whether two lists of values are the same. -/
def sameItems : List Node → List Node → Bool
  | [], [] => true
  | v :: items, v' :: items' => same v v' && sameItems items items'
  | _, _ => false

/-- Whether two lists of values by key are the same. -/
def sameMembers : List (Node × Node) → List (Node × Node) → Bool
  | [], [] => true
  | (key, v) :: members, (key', v') :: members' =>
    same key key' && same v v' && sameMembers members members'
  | _, _ => false

end

mutual

theorem same_iff : ∀ {v w : Node}, v.same w ↔ v = w
  | null, w => by cases w <;> simp [same]
  | bool _, w => by cases w <;> simp [same]
  | int _, w => by cases w <;> simp [same]
  | real _, w => by cases w <;> simp [same]
  | text _, w => by cases w <;> simp [same]
  | sequence _, w => by cases w <;> simp [same, sameItems_iff]
  | mapping _, w => by cases w <;> simp [same, sameMembers_iff]

theorem sameItems_iff : ∀ {vs ws : List Node}, sameItems vs ws ↔ vs = ws
  | [], ws => by cases ws <;> simp [sameItems]
  | v :: vs, ws => by cases ws <;> simp [sameItems, same_iff, sameItems_iff]

theorem sameMembers_iff : ∀ {ms ns : List (Node × Node)}, sameMembers ms ns ↔ ms = ns
  | [], ns => by cases ns <;> simp [sameMembers]
  | (key, v) :: ms, ns => by
    cases ns <;> simp [sameMembers, same_iff, sameMembers_iff, Prod.ext_iff]

end

instance : DecidableEq Node := fun v w => decidable_of_iff (v.same w) same_iff

end Node

/-- A whole number of 64 bits in some base, with an optional sign. -/
def int64? (base : Nat) (s : List Char) : Option Int :=
  let (negative, ds) := Binary64.splitSign s
  let add := fun (n : Nat) (c : Char) =>
    match Bytes.hexValue? c with
    | some v => if v < base then some (base * n + v) else none
    | none => none
  if ds.isEmpty then none
  else
    match ds.foldlM add 0 with
    | none => none
    | some n =>
      let i : Int := if negative then -n else n
      if -9223372036854775808 ≤ i ∧ i < 9223372036854775808 then some i else none

/-- Whether an unquoted scalar is written as a number that is not whole. -/
def isReal (s : String) : Bool :=
  [".inf", ".Inf", ".INF", "+.inf", "+.Inf", "+.INF", "-.inf", "-.Inf", "-.INF", ".nan", "NaN",
    ".NAN"].contains s ||
    (s.toList.any Char.isDigit && (Binary64.parse? s).isSome)

/-- The whole number that an unquoted scalar is written as. -/
def wholeNumber? (s : List Char) : Option Int :=
  let prefixed := match s with
    | '0' :: 'x' :: s => int64? 16 s
    | '0' :: 'o' :: s => int64? 8 s
    | '+' :: s => int64? 10 s
    | _ => none
  prefixed <|> int64? 10 s

/-- What an unquoted scalar stands for. -/
def resolve (s : String) : Node :=
  match s with
  | "" | "~" | "null" => .null
  | "true" => .bool true
  | "false" => .bool false
  | _ =>
    match wholeNumber? s.toList with
    | some i => .int i
    | none => if isReal s then .real s else .text s

/-- What an unquoted scalar stands for when a tag names its type. A scalar that is not of its type
stands for nothing. -/
def resolveAs (tag s : String) : Node :=
  match tag with
  | "!!bool" => match s with
    | "true" => .bool true
    | "false" => .bool false
    | _ => .null
  | "!!int" => ((int64? 10 s.toList).map Node.int).getD .null
  | "!!float" => if isReal s then .real s else .null
  | "!!null" => .null
  | _ => .text s

end ReplayRegistry.Yaml
