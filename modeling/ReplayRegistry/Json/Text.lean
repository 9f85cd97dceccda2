import ReplayRegistry.Bytes

/-!
# String literals

Documents travel as JSON. A string literal is written with the fewest escapes: only the quotation
mark, the backslash and the control characters below U+0020 are escaped, and all else stands for
itself in UTF-8. Reading accepts every escape of the format, joins surrogate pairs, and refuses
raw control characters, lone surrogates and bytes that are not UTF-8.
-/

namespace ReplayRegistry.Json

abbrev quote : UInt8 := 0x22

abbrev backslash : UInt8 := 0x5C

/-- The letter `u`, which opens an escape by code unit. -/
abbrev letterU : UInt8 := 0x75

/-- The hexadecimal digit of a value below 16, as a byte. -/
def hexByte (n : UInt8) : UInt8 := if n < 10 then 0x30 + n else 0x57 + n

/-- The two-byte escapes: the byte after the backslash, and the byte it stands for. -/
def shortEscapes : List (UInt8 × UInt8) :=
  [(0x22, 0x22), (0x5C, 0x5C), (0x2F, 0x2F), (0x62, 0x08), (0x66, 0x0C), (0x6E, 0x0A),
    (0x72, 0x0D), (0x74, 0x09)]

/-- How one byte of a text is written inside a literal. -/
def escape (b : UInt8) : Bytes :=
  if b = quote then [backslash, quote]
  else if b = backslash then [backslash, backslash]
  else if b = 0x08 then [backslash, 0x62]
  else if b = 0x09 then [backslash, 0x74]
  else if b = 0x0A then [backslash, 0x6E]
  else if b = 0x0C then [backslash, 0x66]
  else if b = 0x0D then [backslash, 0x72]
  else if b < 0x20 then [backslash, letterU, 0x30, 0x30, hexByte (b / 16), hexByte (b % 16)]
  else [b]

def writeText (s : String) : Bytes := quote :: (Bytes.ofText s).flatMap escape ++ [quote]

/-- The value of a hexadecimal digit of either case. -/
def hexValue? (b : UInt8) : Option Nat :=
  if 0x30 ≤ b ∧ b ≤ 0x39 then some (b.toNat - 0x30)
  else if 0x61 ≤ b ∧ b ≤ 0x66 then some (b.toNat - 0x57)
  else if 0x41 ≤ b ∧ b ≤ 0x46 then some (b.toNat - 0x37)
  else none

def codeUnit? : Bytes → Option (Nat × Bytes)
  | p :: q :: r :: s :: rest => do
    let p ← hexValue? p
    let q ← hexValue? q
    let r ← hexValue? r
    let s ← hexValue? s
    return (((p * 16 + q) * 16 + r) * 16 + s, rest)
  | _ => none

/-- Whether a code unit is the first of a surrogate pair. -/
def isHighSurrogate (u : Nat) : Bool := 0xD800 ≤ u && u ≤ 0xDBFF

/-- Whether a code unit is the second of a surrogate pair. -/
def isLowSurrogate (u : Nat) : Bool := 0xDC00 ≤ u && u ≤ 0xDFFF

/-- Read what follows `\u`: one code unit, or a surrogate pair of which the second is escaped as
well. The result is the UTF-8 encoding of the character. -/
def unicodeEscape? (s : Bytes) : Option (Bytes × Bytes) := do
  let (u, s) ← codeUnit? s
  if isHighSurrogate u then
    match s with
    | b :: c :: s =>
      if b = backslash ∧ c = letterU then
        let (v, s) ← codeUnit? s
        if isLowSurrogate v then
          return (String.utf8EncodeChar
            (Char.ofNat (0x10000 + (u - 0xD800) * 0x400 + (v - 0xDC00))), s)
        else none
      else none
    | _ => none
  else if isLowSurrogate u then none
  else return (String.utf8EncodeChar (Char.ofNat u), s)

/-- What stands at the front of the inside of a literal. -/
inductive Part where
  | close
  | bytes (b : Bytes)

/-- Read one part of the inside of a literal. -/
def part? : Bytes → Option (Part × Bytes)
  | [] => none
  | b :: s =>
    if b = quote then some (.close, s)
    else if b = backslash then
      match s with
      | [] => none
      | c :: s =>
        match shortEscapes.lookup c with
        | some b => some (.bytes [b], s)
        | none => if c = letterU then (unicodeEscape? s).map fun p => (.bytes p.1, p.2) else none
    else if b < 0x20 then none
    else some (.bytes [b], s)

/-- Read the parts of a literal up to its closing mark, after `acc` (newest byte first). -/
def parts? : Nat → Bytes → Bytes → Option (Bytes × Bytes)
  | 0, _, _ => none
  | n + 1, acc, s =>
    match part? s with
    | none => none
    | some (.close, s) => some (acc.reverse, s)
    | some (.bytes b, s) => parts? n (b.reverse ++ acc) s

/-- Read a string literal whose opening mark has been read. Every part takes at least a byte, so
the length of the input bounds the number of parts. -/
def textBody? (s : Bytes) : Option (String × Bytes) := do
  let (b, s) ← parts? (s.length + 1) [] s
  let t ← Bytes.text? b
  return (t, s)

/-- Pass one part of a literal whose text does not matter: its escapes are checked, but not
whether surrogates pair up or the bytes are UTF-8. The flag tells whether the literal ended. -/
def skipPart? : Bytes → Option (Bool × Bytes)
  | [] => none
  | b :: s =>
    if b = quote then some (true, s)
    else if b = backslash then
      match s with
      | [] => none
      | c :: s =>
        if (shortEscapes.lookup c).isSome then some (false, s)
        else if c = letterU then (codeUnit? s).map fun p => (false, p.2)
        else none
    else if b < 0x20 then none
    else some (false, s)

/-- Pass the parts of a literal up to its closing mark. -/
def skipParts? : Nat → Bytes → Option Bytes
  | 0, _ => none
  | n + 1, s =>
    match skipPart? s with
    | none => none
    | some (true, s) => some s
    | some (false, s) => skipParts? n s

/-- Pass a string literal whose opening mark has been read. -/
def skipTextBody? (s : Bytes) : Option Bytes := skipParts? (s.length + 1) s

end ReplayRegistry.Json
