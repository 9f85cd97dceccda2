import ReplayRegistry.Domain.Basic
import ReplayRegistry.Url.Address

/-!
# Hosts

What stands between the marks of a URL's authority is an address in brackets, an address in
numbers, or a domain name, which may be written with escaped bytes. Schemes that are not known to
name hosts on a network take any other text for an opaque name.
-/

namespace ReplayRegistry.Url

/-- The host of a URL. -/
inductive Host where
  /-- A domain name, in its ASCII form. -/
  | domain (name : List Char)
  /-- An address of 32 bits. -/
  | ipv4 (address : Nat)
  /-- An address of eight groups of 16 bits. -/
  | ipv6 (groups : List Nat)
  /-- A name that means something to its scheme only. -/
  | opaqueName (name : List Char)
deriving DecidableEq

/-- Replace every `%` that is followed by two hexadecimal digits by the byte they stand for. -/
def unescape : Bytes → Bytes
  | a :: b :: c :: s =>
    match a == 0x25, Bytes.hexValue? (Char.ofUInt8 b), Bytes.hexValue? (Char.ofUInt8 c) with
    | true, some x, some y => (16 * x + y).toUInt8 :: unescape s
    | _, _, _ => a :: unescape (b :: c :: s)
  | s => s

/-- An address in brackets. -/
def bracketed? (s : List Char) : Option Host :=
  if s.getLast? == some ']' then (ipv6? (s.drop 1).dropLast).map .ipv6 else none

/-- The host of a URL whose scheme names hosts on a network. -/
def networkHost? (s : List Char) : Option Host :=
  if s.head? == some '[' then bracketed? s
  else do
    let text ← Bytes.text? (unescape (Bytes.ofText (String.ofList s)))
    let name ← Domain.toAscii? text.toList
    if name.isEmpty then none
    else if endsInNumber name then (ipv4? name).map .ipv4
    else some (.domain name)

/-- The host of any other URL; it may be empty. -/
def opaqueHost? (s : List Char) : Option Host :=
  if s.head? == some '[' then bracketed? s
  else if s.any ("\x00\t\n\r #/:<>?@[\\]^|".toList.contains ·) then none
  else some (.opaqueName s)

end ReplayRegistry.Url
