/-!
# Numbers of 64 bits in base 2

A setting may be given as a number with a fraction. It is kept as the nearest number whose
significand has 53 bits, and written back with the fewest decimal digits that read as it. All steps
are exact: reading compares integers, and so does writing.
-/

namespace ReplayRegistry

/-- A number in base 2, or what takes its place. -/
inductive Binary64 where
  | nan
  /-- Too large to be kept. -/
  | infinite (negative : Bool)
  /-- The number `significand * 2 ^ exponent`. A significand below `2 ^ 52` goes with the least
  exponent. -/
  | finite (negative : Bool) (significand : Nat) (exponent : Int)
deriving DecidableEq, Repr

namespace Binary64

def leastExponent : Int := -1074

def greatestExponent : Int := 971

/-- The least significand of 53 bits, `2 ^ 52`. -/
def leastNormal : Nat := 4503599627370496

/-- The quotient of two numbers to the nearest whole number, a half going to the even one. -/
def divideToEven (num den : Nat) : Nat :=
  let q := num / den
  let r := 2 * (num % den)
  if den < r ∨ (r = den ∧ q % 2 = 1) then q + 1 else q

/-- `num / den / 2 ^ e` as a pair. -/
def scaled (num den : Nat) (e : Int) : Nat × Nat :=
  (num * Nat.pow 2 (-e).toNat, den * Nat.pow 2 e.toNat)

/-- The exponent at which the significand of a positive `num / den` has 53 bits, or the least one
if that is greater. -/
def exponentOf (num den : Nat) : Int :=
  let guess : Int := (num.log2 : Int) - den.log2 - 52
  let (p, q) := scaled num den guess
  max leastExponent (if p / q < leastNormal then guess - 1 else guess)

/-- The nearest number to `num / den`, where `den` is positive. -/
def ofRatio (negative : Bool) (num den : Nat) : Binary64 :=
  if num = 0 then .finite negative 0 leastExponent
  else
    let e := exponentOf num den
    let (p, q) := scaled num den e
    let m := divideToEven p q
    let (m, e) := if m = 2 * leastNormal then (leastNormal, e + 1) else (m, e)
    if greatestExponent < e then .infinite negative else .finite negative m e

/-- The nearest number to `digits * 10 ^ exponent`. Powers that are far out of range are not
computed. -/
def ofDecimal (negative : Bool) (digits : Nat) (exponent : Int) : Binary64 :=
  let size : Int := (Nat.toDigits 10 digits).length + exponent
  if digits = 0 ∨ size < -400 then .finite negative 0 leastExponent
  else if 400 < size then .infinite negative
  else ofRatio negative (digits * Nat.pow 10 exponent.toNat) (Nat.pow 10 (-exponent).toNat)

/-! ## Reading -/

/-- The value of a run of decimal digits. -/
def digitsValue (ds : List Char) : Nat := ds.foldl (fun n c => 10 * n + (c.toNat - 48)) 0

/-- Split a sign from the front of a text. -/
def splitSign : List Char → Bool × List Char
  | '-' :: s => (true, s)
  | '+' :: s => (false, s)
  | s => (false, s)

/-- Read an exponent: nothing, or `e`, a sign, and digits. -/
def exponent? : List Char → Option Int
  | [] => some 0
  | c :: s =>
    if c = 'e' ∨ c = 'E' then
      let (negative, ds) := splitSign s
      if ds.isEmpty || !ds.all Char.isDigit then none
      else some (if negative then -(digitsValue ds : Int) else digitsValue ds)
    else none

/-- Read a number: digits with at most one point among them or at an end, and an exponent; or the
words for infinity and for what is no number, in any case. -/
def parse? (text : String) : Option Binary64 :=
  let (negative, s) := splitSign text.toList
  let word := String.ofList (s.map Char.toLower)
  if word = "nan" then some .nan
  else if word = "inf" ∨ word = "infinity" then some (.infinite negative)
  else
    let whole := s.takeWhile Char.isDigit
    let (fraction, rest) := match s.dropWhile Char.isDigit with
      | '.' :: r => (r.takeWhile Char.isDigit, r.dropWhile Char.isDigit)
      | r => ([], r)
    if whole.isEmpty && fraction.isEmpty then none
    else (exponent? rest).map fun e =>
      ofDecimal negative (digitsValue (whole ++ fraction)) (e - fraction.length)

/-! ## Writing -/

/-- The number to be written and the ends of the interval that reads as it, in units of a quarter
of the last place. Below a power of two the numbers are twice as close. -/
def quarters (m : Nat) (e : Int) : Nat × Nat × Nat :=
  (if m = leastNormal ∧ leastExponent < e then 4 * m - 1 else 4 * m - 2, 4 * m, 4 * m + 2)

/-- A multiple of `10 ^ k` that reads as `m * 2 ^ e`, if there is one: the nearest, and the greater
of two that are equally near. The ends of the interval read as the number iff `m` is even. -/
def onGrid? (m : Nat) (e k : Int) : Option Nat :=
  let (low, mid, high) := quarters m e
  let num := Nat.pow 2 (e - 2).toNat * Nat.pow 10 (-k).toNat
  let den := Nat.pow 2 (2 - e).toNat * Nat.pow 10 k.toNat
  let reads := fun d =>
    if m % 2 = 0 then low * num ≤ d * den ∧ d * den ≤ high * num
    else low * num < d * den ∧ d * den < high * num
  let d := mid * num / den
  let below := decide (reads d)
  let above := decide (reads (d + 1))
  if above && (!below || den ≤ 2 * (mid * num % den)) then some (d + 1)
  else if below then some d
  else none

/-- The coarsest grid from `10 ^ k` down that has a number that reads as `m * 2 ^ e`; `n` bounds
the number of grids tried. -/
def coarsest (m : Nat) (e : Int) : Nat → Int → Nat × Int
  | 0, k => (m, k)
  | n + 1, k =>
    match onGrid? m e k with
    | some d => (d, k)
    | none => coarsest m e n (k - 1)

/-- The fewest decimal digits that read as `m * 2 ^ e`, with the power of ten of the last. -/
def shortest (m : Nat) (e : Int) : Nat × Int := coarsest m e 700 309

/-- Write `digits * 10 ^ k` without an exponent. -/
def positional (digits : Nat) (k : Int) : List Char :=
  let ds := Nat.toDigits 10 digits
  if 0 ≤ k then ds ++ List.replicate k.toNat '0'
  else
    let places := (-k).toNat
    let ds := List.replicate (places + 1 - ds.length) '0' ++ ds
    ds.take (ds.length - places) ++ '.' :: ds.drop (ds.length - places)

def print : Binary64 → String
  | nan => "NaN"
  | infinite negative => if negative then "-inf" else "inf"
  | finite negative m e =>
    let digits := if m = 0 then ['0'] else
      let (d, k) := shortest m e
      positional d k
    String.ofList (if negative then '-' :: digits else digits)

/-- The nearest whole number from 0 to `most`, a half going up. What is no number counts as 0. -/
def toNat (most : Nat) : Binary64 → Nat
  | nan => 0
  | infinite negative => if negative then 0 else most
  | finite negative m e =>
    if negative then 0
    else if 0 ≤ e then min most (m * Nat.pow 2 e.toNat)
    else
      let unit := Nat.pow 2 (-e).toNat
      min most ((2 * m + unit) / (2 * unit))

end Binary64

end ReplayRegistry
