/-!
# Punycode

A label with characters outside ASCII travels as its ASCII characters, a hyphen, and a sequence of
numbers that say where the other characters go: in increasing order of the characters, each number
is the distance to the next place, counted over all places of all characters. A number is written
in base 36 with digit thresholds that adapt to the numbers seen so far.
-/

namespace ReplayRegistry.Domain.Punycode

/-- The base of the digits. -/
def base : Nat := 36

/-- The threshold of the digit at weight `k`: a digit below it is the last of its number. -/
def threshold (k bias : Nat) : Nat :=
  if k ≤ bias then 1 else if bias + 26 ≤ k then 26 else k - bias

/-- Divide a distance until it is small, and count the divisions; `n` bounds their number. -/
def shrink : Nat → Nat → Nat × Nat
  | 0, delta => (0, delta)
  | n + 1, delta =>
    if 455 < delta then
      let (count, delta) := shrink n (delta / 35)
      (count + 1, delta)
    else (0, delta)

/-- The bias after a distance `delta`, with `size` characters placed. -/
def adapt (delta size : Nat) (first : Bool) : Nat :=
  let delta := if first then delta / 700 else delta / 2
  let (count, delta) := shrink delta (delta + delta / size)
  base * count + 36 * delta / (delta + 38)

def digit? (c : Char) : Option Nat :=
  if 'a' ≤ c ∧ c ≤ 'z' then some (c.toNat - 97)
  else if '0' ≤ c ∧ c ≤ '9' then some (c.toNat - 22)
  else none

def digit (n : Nat) : Char := if n < 26 then Char.ofNat (97 + n) else Char.ofNat (22 + n)

/-! ## Decoding -/

/-- Where decoding stands. -/
structure Decoder where
  /-- The characters placed so far. -/
  placed : List Char
  /-- The character that the next number is counted from. -/
  code : Nat := 128
  bias : Nat := 72
  /-- The place reached, counted within the current character, with the digits read so far. -/
  index : Nat := 0
  /-- The place that the current number started from. -/
  start : Nat := 0
  /-- The weight of the next digit. -/
  weight : Nat := 1
  /-- The position of the next digit, in steps of the base. -/
  k : Nat := base

def Decoder.step (d : Decoder) (c : Char) : Option Decoder :=
  match digit? c with
  | none => none
  | some v =>
    let index := d.index + v * d.weight
    let t := threshold d.k d.bias
    if v < t then
      let size := d.placed.length + 1
      let code := d.code + index / size
      let index := index % size
      if code.isValidChar then
        some { placed := d.placed.insertIdx index (Char.ofNat code), code := code,
               bias := adapt (d.index + v * d.weight - d.start) size (d.start == 0),
               index := index + 1, start := index + 1 }
      else none
    else some { d with index := index, weight := d.weight * (base - t), k := d.k + base }

/-- Decode a label. -/
def decode? (s : List Char) : Option (List Char) :=
  let (plain, digits) :=
    match (s.reverse.dropWhile (· != '-')).reverse with
    | [] | ['-'] => ([], s)
    | upTo => (upTo.dropLast, s.drop upTo.length)
  match digits.foldlM Decoder.step { placed := plain } with
  | some d => if d.k = base then some d.placed else none
  | none => none

/-! ## Encoding -/

/-- Write a number; `n` bounds the number of digits. -/
def writeNumber : Nat → Nat → Nat → Nat → List Char
  | 0, _, _, _ => []
  | n + 1, k, bias, q =>
    let t := threshold k bias
    if q < t then [digit q]
    else digit (t + (q - t) % (base - t)) :: writeNumber n (k + base) bias ((q - t) / (base - t))

/-- Where encoding stands. -/
structure Encoder where
  /-- The distance since the last number written. -/
  delta : Nat := 0
  bias : Nat := 72
  /-- How many characters have been placed. -/
  size : Nat
  /-- Whether no number has been written yet. -/
  first : Bool := true
  /-- The digits written, newest first. -/
  written : List Char := []

/-- Pass one character of the label while the places of `code` are counted. -/
def Encoder.pass (code : Nat) (e : Encoder) (c : Char) : Encoder :=
  if c.toNat < code then { e with delta := e.delta + 1 }
  else if c.toNat = code then
    { delta := 0, bias := adapt e.delta (e.size + 1) e.first, size := e.size + 1, first := false,
      written := (writeNumber (e.delta + 1) base e.bias e.delta).reverse ++ e.written }
  else e

/-- Place the characters with the given codes, which increase; counting starts at `from`. -/
def encodeCodes (label : List Char) : Nat → List Nat → Encoder → Encoder
  | _, [], e => e
  | start, code :: codes, e =>
    let e := label.foldl (Encoder.pass code)
      { e with delta := e.delta + (code - start) * (e.size + 1) }
    encodeCodes label (code + 1) codes { e with delta := e.delta + 1 }

/-- Encode a label. -/
def encode (label : List Char) : List Char :=
  let plain := label.filter (·.toNat < 128)
  let codes := ((label.map Char.toNat).filter (128 ≤ ·)).mergeSort.eraseReps
  let e := encodeCodes label 128 codes { size := plain.length }
  plain ++ (if plain.isEmpty then [] else ['-']) ++ e.written.reverse

end ReplayRegistry.Domain.Punycode
