import ReplayRegistry.Domain.Mapping
import ReplayRegistry.Domain.Punycode
import ReplayRegistry.Unicode.Bidi
import ReplayRegistry.Unicode.Composition
import ReplayRegistry.Unicode.Joining
import ReplayRegistry.Unicode.Mark

/-!
# Domain names in ASCII

An internationalised domain name is brought to the form in which it is looked up. Its characters
are mapped and composed, its labels are checked, and every label with a character outside ASCII is
encoded. Labels may have any length, may have hyphens anywhere, and may be empty.
-/

namespace ReplayRegistry.Domain

/-- Whether an ASCII character may not stand in the domain name of a URL. -/
def isForbidden (c : Char) : Bool :=
  c.toNat ≤ 0x20 || c.toNat == 0x7F || "%#/:<>?@[\\]^|".toList.contains c

/-- How an encoded label starts. -/
def acePrefix : List Char := ['x', 'n', '-', '-']

/-- Longer encoded labels are not decoded. -/
def encodedLimit : Nat := 2000

/-- Longer labels are not encoded. -/
def labelLimit : Nat := 1000

/-- Whether all characters of a label are ASCII. -/
def isAscii (label : List Char) : Bool := label.all (·.toNat < 128)

/-- Whether a label outside ASCII may stand in a domain name: it does not start with a mark, and
joiners are where they are of use. -/
def isSound (label : List Char) : Bool :=
  !label.head?.any Unicode.isMark && Unicode.joinersFit [] label

/-- The characters that a mapped label stands for: those of an encoded label are decoded, and have
to be such that mapping and composing would not change them. -/
def labelChars? (label : List Char) : Option (List Char) :=
  if acePrefix.isPrefixOf label then
    let code := label.drop acePrefix.length
    if code.isEmpty || !isAscii code || code.getLast? == some '-' ||
        encodedLimit < code.length then none
    else
      match Punycode.decode? code with
      | none => none
      | some chars =>
        if (map? chars).map Unicode.composed == some chars && !chars.any isForbidden &&
            !acePrefix.isPrefixOf chars && isSound chars then
          some chars
        else none
  else if isAscii label || isSound label then some label
  else none

/-- The ASCII form of a label. -/
def asciiLabel? (label : List Char) : Option (List Char) :=
  if isAscii label then some label
  else if labelLimit < label.length then none
  else some (acePrefix ++ Punycode.encode label)

/-- Whether the directions of the labels are in order: they have to be clear as soon as one label
has a character that runs from right to left. -/
def directionsFit (labels : List (List Char)) : Bool :=
  !(labels.any (·.any fun c => (Unicode.bidiClass c).isRightToLeft)) ||
    labels.all Unicode.keepsDirection

/-- The ASCII form of a domain name. -/
def toAscii? (name : List Char) : Option (List Char) := do
  let mapped := Unicode.composed (← map? name)
  if mapped.any isForbidden then none
  let labels := mapped.splitOn '.'
  if !directionsFit (← labels.mapM labelChars?) then none
  return ['.'].intercalate (← labels.mapM asciiLabel?)

end ReplayRegistry.Domain
