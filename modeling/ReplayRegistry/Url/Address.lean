import ReplayRegistry.Bytes

/-!
# Internet addresses

An address may stand in place of a domain name. The older kind is up to four numbers between dots,
each in decimal, octal or hexadecimal, of which the last fills the bytes that are left. The newer
kind is eight groups of four hexadecimal digits between colons, where two colons in a row stand for
groups of zeros and the last two groups may be written as an address of the older kind.
-/

namespace ReplayRegistry.Url

/-! ## Addresses of 32 bits -/

/-- The value of a digit, if it is below the base. -/
def digitBelow? (base : Nat) (c : Char) : Option Nat :=
  match Bytes.hexValue? c with
  | some v => if v < base then some v else none
  | none => none

/-- The number that digits stand for; no digits stand for 0. -/
def number? (base : Nat) (ds : List Char) : Option Nat :=
  ds.foldlM (fun n c => (digitBelow? base c).map (base * n + ·)) 0

/-- One number of an address: `0x` starts hexadecimal, and another leading `0` octal. -/
def addressNumber? (s : List Char) : Option Nat :=
  match s with
  | [] => none
  | ['0'] => some 0
  | '0' :: 'x' :: s => number? 16 s
  | '0' :: 'X' :: s => number? 16 s
  | '0' :: s => number? 8 s
  | s => number? 10 s

/-- The parts between dots, with an empty last one left out. -/
def dottedParts (s : List Char) : List (List Char) :=
  let parts := s.splitOn '.'
  if parts.getLast? == some [] then parts.dropLast else parts

/-- Whether a name can only be meant as an address: its last part is a number. -/
def endsInNumber (s : List Char) : Bool :=
  match (s.splitOn '.').reverse with
  | [] => false
  | [[]] => false
  | [] :: last :: _ => isNumeric last
  | last :: _ => isNumeric last
where
  /-- Whether a part is all digits, or a number in some base. -/
  isNumeric (part : List Char) : Bool :=
    (!part.isEmpty && part.all Char.isDigit) || (addressNumber? part).isSome

/-- The 32 bits of an address. -/
def ipv4? (s : List Char) : Option Nat := do
  let numbers ← (dottedParts s).mapM addressNumber?
  match numbers.reverse with
  | [] => none
  | last :: front =>
    let size := Nat.pow 256 (4 - front.length)
    if front.length ≤ 3 ∧ last < size ∧ front.all (· < 256) then
      some (front.reverse.foldl (fun a n => 256 * a + n) 0 * size + last)
    else none

/-! ## Addresses of 128 bits -/

/-- Four bytes in decimal between dots and nothing else: no needless zeros. -/
def strictIpv4? (s : List Char) : Option Nat :=
  let parts := s.splitOn '.'
  if parts.length = 4 then
    parts.foldlM (fun a part =>
      match number? 10 part with
      | some n =>
        if !part.isEmpty && n < 256 && (part.head? != some '0' || part.length == 1) then
          some (256 * a + n)
        else none
      | none => none) 0
  else none

/-- Groups read so far, and where zeros have to be put in. -/
structure Groups where
  /-- The groups, last one first. -/
  read : List Nat := []
  /-- How many groups stand before the two colons, if they have been read. -/
  gap : Option Nat := none

/-- How many more groups there is room for. Two colons stand for one group at least. -/
def Groups.room (g : Groups) : Nat := 8 - g.read.length - (if g.gap.isSome then 1 else 0)

/-- Read groups from the start of one on; `n` bounds their number. -/
def groups? : Nat → Groups → List Char → Option Groups
  | 0, g, s => if s.isEmpty then some g else none
  | n + 1, g, s =>
    match s with
    | [] => some g
    | c :: r =>
      if g.room = 0 then none
      else if c = ':' then
        if g.gap.isSome then none else groups? n { g with gap := some g.read.length } r
      else
        let digits := (s.take 4).takeWhile fun c => (Bytes.hexValue? c).isSome
        match s.drop digits.length, number? 16 digits with
        | [], some v => some { g with read := v :: g.read }
        | ':' :: t, some v =>
          if t.isEmpty || digits.isEmpty then none
          else groups? n { g with read := v :: g.read } t
        | '.' :: _, some _ =>
          if 2 ≤ g.room then
            (strictIpv4? s).map fun a => { g with read := a % 65536 :: a / 65536 :: g.read }
          else none
        | _, _ => none

/-- The eight groups of an address. -/
def ipv6? (s : List Char) : Option (List Nat) :=
  let start := match s with
    | ':' :: ':' :: r => some ({ gap := some 0 : Groups }, r)
    | ':' :: _ => none
    | [] | [_] => none
    | s => some ({}, s)
  match start with
  | none => none
  | some (g, s) =>
    match groups? 9 g s with
    | none => none
    | some g =>
      let read := g.read.reverse
      match g.gap with
      | some i => some (read.take i ++ List.replicate (8 - read.length) 0 ++ read.drop i)
      | none => if read.length = 8 then some read else none

end ReplayRegistry.Url
