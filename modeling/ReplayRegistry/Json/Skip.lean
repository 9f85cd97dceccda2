import ReplayRegistry.Json.Text

/-!
# Passing over values

A member that a document does not know is passed over, whatever its value: the syntax of the value
is checked and nothing else. Containers may nest to any depth; the open ones are kept on a stack,
so that passing over a value is one loop.
-/

namespace ReplayRegistry.Json

/-- Whether a byte may stand between the tokens: space, tab, line feed or carriage return. -/
def isBlank (b : UInt8) : Bool := b == 0x20 || b == 0x09 || b == 0x0A || b == 0x0D

/-- Drop blanks at the front. -/
def skipBlank (s : Bytes) : Bytes := s.dropWhile isBlank

abbrev comma : UInt8 := 0x2C

abbrev colon : UInt8 := 0x3A

abbrev openBracket : UInt8 := 0x5B

abbrev closeBracket : UInt8 := 0x5D

abbrev openBrace : UInt8 := 0x7B

abbrev closeBrace : UInt8 := 0x7D

abbrev minus : UInt8 := 0x2D

def isDigit (b : UInt8) : Bool := 0x30 ≤ b && b ≤ 0x39

def nullWord : Bytes := [0x6E, 0x75, 0x6C, 0x6C]

def trueWord : Bytes := [0x74, 0x72, 0x75, 0x65]

def falseWord : Bytes := [0x66, 0x61, 0x6C, 0x73, 0x65]

/-- Drop a word from the front. -/
def word? : Bytes → Bytes → Option Bytes
  | [], s => some s
  | w :: ws, b :: s => if w = b then word? ws s else none
  | _ :: _, [] => none

/-- Pass the whole part of a number: one zero, or digits that do not start with one. -/
def skipWhole? (s : Bytes) : Option Bytes :=
  match s with
  | [] => none
  | b :: r =>
    if b = 0x30 then
      match r with
      | c :: _ => if isDigit c then none else some r
      | [] => some r
    else if isDigit b then some (r.dropWhile isDigit)
    else none

def skipDigits? (s : Bytes) : Option Bytes :=
  match s with
  | b :: r => if isDigit b then some (r.dropWhile isDigit) else none
  | [] => none

def skipFraction? (s : Bytes) : Option Bytes :=
  match s with
  | b :: r => if b = 0x2E then skipDigits? r else some s
  | [] => some s

def skipExponent? (s : Bytes) : Option Bytes :=
  match s with
  | b :: r =>
    if b = 0x65 ∨ b = 0x45 then
      match r with
      | c :: t => if c = 0x2B ∨ c = minus then skipDigits? t else skipDigits? r
      | [] => none
    else some s
  | [] => some s

def skipNumber? (s : Bytes) : Option Bytes := do
  let s := match s with
    | b :: r => if b = minus then r else s
    | [] => s
  skipExponent? (← skipFraction? (← skipWhole? s))

/-- A container that has been opened and not yet closed. -/
inductive Container where
  | array
  | object
deriving DecidableEq

def Container.closing : Container → UInt8
  | .array => closeBracket
  | .object => closeBrace

/-- What has to come next while a value is passed over. -/
inductive Expecting where
  | value
  /-- The first element of the innermost container, or its end. -/
  | firstElement
  /-- A comma, or the end of the innermost container; nothing, if none is open. -/
  | afterValue

/-- Pass the name of a member and its colon. -/
def skipName? (s : Bytes) : Option Bytes :=
  match skipBlank s with
  | b :: s =>
    if b = quote then do
      match skipBlank (← skipTextBody? s) with
      | c :: s => if c = colon then some s else none
      | [] => none
    else none
  | [] => none

/-- Pass what stands before the value of an element of a container. -/
def skipLabel? : Container → Bytes → Option Bytes
  | .array, s => some s
  | .object, s => skipName? s

/-- Pass over values until the outermost one ends; `n` bounds the number of steps. -/
def skipLoop? : Nat → List Container → Expecting → Bytes → Option Bytes
  | 0, _, _, _ => none
  | n + 1, stack, .value, s =>
    match skipBlank s with
    | [] => none
    | b :: s =>
      if b = quote then (skipTextBody? s).bind fun s => skipLoop? n stack .afterValue s
      else if b = openBracket then skipLoop? n (.array :: stack) .firstElement s
      else if b = openBrace then skipLoop? n (.object :: stack) .firstElement s
      else if b = 0x6E then (word? nullWord (b :: s)).bind fun s => skipLoop? n stack .afterValue s
      else if b = 0x74 then (word? trueWord (b :: s)).bind fun s => skipLoop? n stack .afterValue s
      else if b = 0x66 then
        (word? falseWord (b :: s)).bind fun s => skipLoop? n stack .afterValue s
      else (skipNumber? (b :: s)).bind fun s => skipLoop? n stack .afterValue s
  | _ + 1, [], .firstElement, _ => none
  | n + 1, c :: stack, .firstElement, s =>
    match skipBlank s with
    | [] => none
    | b :: s =>
      if b = c.closing then skipLoop? n stack .afterValue s
      else (skipLabel? c (b :: s)).bind fun s => skipLoop? n (c :: stack) .value s
  | _ + 1, [], .afterValue, s => some s
  | n + 1, c :: stack, .afterValue, s =>
    match skipBlank s with
    | [] => none
    | b :: s =>
      if b = c.closing then skipLoop? n stack .afterValue s
      else if b = comma then (skipLabel? c s).bind fun s => skipLoop? n (c :: stack) .value s
      else none

/-- Pass over one value. Of two steps in a row, the last pair apart, one takes at least a byte. -/
def skipValue? (s : Bytes) : Option Bytes := skipLoop? (2 * s.length + 2) [] .value s

end ReplayRegistry.Json
