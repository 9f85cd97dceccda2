import ReplayRegistry.Text.Blank
import ReplayRegistry.Time.Timestamp

/-!
# Timestamps as text

A timestamp is written in universal time as `YYYY-MM-DDTHH:MM:SSZ`, with three, six or nine
digits of a fraction where the nanoseconds need them. A year outside 0 to 9999 has a sign.

Reading is lenient. White space may stand around the marks of the date and the time, the letter `T`
may be small or a space, the fraction may have any number of digits, and the offset may be `Z`,
`UTC`, or hours and minutes with a sign. The result is converted to universal time.
-/

namespace ReplayRegistry.Time

/-- A number in decimal, with zeros in front up to `width` digits. -/
def padded (width n : Nat) : List Char :=
  let ds := Nat.toDigits 10 n
  List.replicate (width - ds.length) '0' ++ ds

/-- A year: four digits, with a sign in front where it needs more or is negative. -/
def writeYear (y : Int) : List Char :=
  if y < 0 then '-' :: padded 4 y.natAbs
  else if 9999 < y then '+' :: padded 4 y.natAbs
  else padded 4 y.natAbs

/-- A fraction of a second, in the fewest of no, three, six and nine digits that are exact. -/
def writeFraction (nanos : Nat) : List Char :=
  if nanos = 0 then []
  else if nanos % 1000000 = 0 then '.' :: padded 3 (nanos / 1000000)
  else if nanos % 1000 = 0 then '.' :: padded 6 (nanos / 1000)
  else '.' :: padded 9 nanos

/-- The characters of a timestamp. -/
def Timestamp.chars (t : Timestamp) : List Char :=
  let d := t.date
  let s := t.secondOfDay
  let second := if t.isLeapSecond then 60 else s % 60
  let nanos := if t.isLeapSecond then t.nanos - 1000000000 else t.nanos
  writeYear d.year ++ '-' :: padded 2 d.month ++ '-' :: padded 2 d.day ++
    'T' :: padded 2 (s / 3600) ++ ':' :: padded 2 (s / 60 % 60) ++ ':' :: padded 2 second ++
    writeFraction nanos ++ ['Z']

def Timestamp.print (t : Timestamp) : String := String.ofList t.chars

/-! ## Reading -/

/-- The value of a run of decimal digits. -/
def digitsValue (ds : List Char) : Nat := ds.foldl (fun n c => 10 * n + (c.toNat - 48)) 0

/-- Read a number of one to `most` digits. -/
def number? (most : Nat) (s : List Char) : Option (Nat × List Char) :=
  let ds := (s.take most).takeWhile Char.isDigit
  if ds.isEmpty then none else some (digitsValue ds, s.drop ds.length)

/-- Read a year: up to four digits, or a sign and any number of digits. -/
def year? (s : List Char) : Option (Int × List Char) :=
  match s with
  | '-' :: s => (number? s.length s).map fun p => (-(p.1 : Int), p.2)
  | '+' :: s => (number? s.length s).map fun p => ((p.1 : Int), p.2)
  | s => (number? 4 s).map fun p => ((p.1 : Int), p.2)

/-- Read a mark with white space on both sides. -/
def mark? (m : Char) (s : List Char) : Option (List Char) :=
  match Text.trimStart s with
  | c :: s => if c = m then some (Text.trimStart s) else none
  | [] => none

/-- Read a number of up to two digits from `least` to `most`. -/
def field? (least most : Nat) (s : List Char) : Option (Nat × List Char) :=
  match number? 2 s with
  | some (n, s) => if least ≤ n ∧ n ≤ most then some (n, s) else none
  | none => none

/-- Read a fraction of a second in nanoseconds, if one follows; digits past the ninth are
dropped. -/
def fraction? (s : List Char) : Option (Nat × List Char) :=
  match s with
  | '.' :: s =>
    let ds := s.takeWhile Char.isDigit
    if ds.isEmpty then none
    else
      let ds' := ds.take 9
      some (digitsValue ds' * Nat.pow 10 (9 - ds'.length), s.dropWhile Char.isDigit)
  | s => some (0, s)

/-- Read two digits. -/
def twoDigits? : List Char → Option (Nat × List Char)
  | a :: b :: s =>
    if a.isDigit && b.isDigit then some (digitsValue [a, b], s) else none
  | _ => none

/-- Read an offset from universal time, in seconds. -/
def offset? (s : List Char) : Option (Int × List Char) :=
  match s with
  | 'Z' :: s => some (0, s)
  | 'z' :: s => some (0, s)
  | c :: s =>
    if c = '+' ∨ c = '-' ∨ c = '\u2212' then
      match twoDigits? s with
      | none => none
      | some (hours, s) =>
        match twoDigits? (s.dropWhile fun c => c = ':' || Text.isBlank c) with
        | none => none
        | some (minutes, s) =>
          let offset : Int := hours * 3600 + minutes * 60
          if minutes < 60 ∧ offset < 86400 then some (if c = '+' then offset else -offset, s)
          else none
    else none
  | [] => none

/-- Read an offset that may also be the word `UTC`. -/
def zone? (s : List Char) : Option (Int × List Char) :=
  if (s.take 3).map Char.toUpper = ['U', 'T', 'C'] then some (0, s.drop 3) else offset? s

def Timestamp.parse? (text : String) : Option Timestamp := do
  let (year, s) ← year? (Text.trimStart text.toList)
  let (month, s) ← field? 1 12 (← mark? '-' s)
  let (day, s) ← field? 1 31 (← mark? '-' s)
  let s ← match s with
    | 'T' :: s | 't' :: s | ' ' :: s => some s
    | _ => none
  let (hour, s) ← field? 0 23 (Text.trimStart s)
  let (minute, s) ← field? 0 59 (← mark? ':' s)
  let (second, s) ← field? 0 60 (← mark? ':' s)
  let (fraction, s) ← fraction? s
  let (offset, s) ← zone? (Text.trimStart s)
  if !(Text.trimStart s).isEmpty then none
  let date : Date := ⟨year, month, day⟩
  if !(date.exists && -262143 ≤ year && year ≤ 262142) then none
  let seconds := (date.toDay - epochDay) * 86400 + hour * 3600 + minute * 60 + min second 59
  Timestamp.of? (seconds - offset) (if second = 60 then fraction + 1000000000 else fraction)

end ReplayRegistry.Time
