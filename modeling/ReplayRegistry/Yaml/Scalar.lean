import ReplayRegistry.Yaml.Cursor

/-!
# Scalars

A scalar is plain, quoted, or a block of lines. A scalar over several lines is folded: a single
line end is a space, and an empty line is a line end.
-/

namespace ReplayRegistry.Yaml

open Cursor (isBlank atBlank)

/-- What folding puts between two pieces of a text with `empty` empty lines between them. -/
def fold (empty : Nat) : List Char := if empty = 0 then [' '] else List.replicate empty '\n'

/-! ## Plain scalars -/

/-- Whether a character has a meaning of its own in a flow collection. -/
def isFlowMark (ch : Char) : Bool := ",[]\x7b\x7d".toList.contains ch

/-- Whether a plain scalar may start with this. -/
def startsPlain (inFlow : Bool) : List Char → Bool
  | [] => false
  | ch :: rest =>
    if ch = '-' ∨ ch = '?' ∨ ch = ':' then
      !atBlank rest && !(inFlow && rest.head?.any isFlowMark)
    else !(isBlank ch || ",[]\x7b\x7d#&*!|>'\"%@`".toList.contains ch)

/-- The part of a line that belongs to a plain scalar, newest character first: up to a colon that
ends a key, a comment, or a mark of a flow collection. -/
def plainPart (inFlow : Bool) : List Char → List Char → List Char
  | acc, [] => acc
  | acc, ch :: rest =>
    if ch = ':' ∧ (atBlank rest ∨ (inFlow ∧ rest.head?.any isFlowMark)) then acc
    else if ch = '#' ∧ acc.head?.any isBlank then acc
    else if inFlow && isFlowMark ch then acc
    else plainPart inFlow (ch :: acc) rest

/-- The part of a line that belongs to a plain scalar, without blanks at its end. -/
def plainLine (inFlow : Bool) (s : List Char) : List Char :=
  ((plainPart inFlow [] s).dropWhile isBlank).reverse

/-- Continue a plain scalar on later lines, which have to be indented by more than `indent`;
`empty` is the number of empty lines just passed. The result is the text so far and the place after
it. -/
def plainMore (inFlow : Bool) (indent : Int) (acc : List Char) (stop : Cursor) :
    Nat → List (List Char) → List Char × Cursor
  | _, [] => (acc, stop)
  | empty, line :: later =>
    let column := (line.takeWhile isBlank).length
    let rest := line.drop column
    if rest.isEmpty then plainMore inFlow indent acc stop (empty + 1) later
    else if (column : Int) ≤ indent ∨ rest.head? = some '#' ∨
        (column = 0 ∧ Cursor.isDocumentMark line) then (acc, stop)
    else
      let part := plainLine inFlow rest
      if part.isEmpty then (acc, stop)
      else
        let stop : Cursor :=
          ⟨rest.drop part.length, column + part.length, later, stop.anchors⟩
        let acc := acc ++ fold empty ++ part
        if (stop.skipBlanks).rest.isEmpty then plainMore inFlow indent acc stop 0 later
        else (acc, stop)

/-- Read a plain scalar, which may go on over several lines. -/
def plainScalar (inFlow : Bool) (indent : Int) (c : Cursor) : List Char × Cursor :=
  let part := plainLine inFlow c.rest
  let stop := c.skip part.length
  if stop.skipBlanks.rest.isEmpty then plainMore inFlow indent part stop 0 stop.later
  else (part, stop)

/-! ## Quoted scalars -/

/-- The character that an escape of one letter stands for. -/
def escaped? (ch : Char) : Option Char :=
  [('0', '\x00'), ('a', '\x07'), ('b', '\x08'), ('t', '\t'), ('\t', '\t'), ('n', '\n'),
    ('v', '\x0B'), ('f', '\x0C'), ('r', '\r'), ('e', '\x1B'), (' ', ' '), ('"', '"'), ('/', '/'),
    ('\\', '\\'), ('N', '\u0085'), ('_', '\u00A0'), ('L', '\u2028'), ('P', '\u2029')].lookup ch

/-- How many hexadecimal digits follow an escape by number. -/
def escapeWidth? (ch : Char) : Option Nat := [('x', 2), ('u', 4), ('U', 8)].lookup ch

/-- The character with a number in hexadecimal. -/
def charOfHex? (ds : List Char) (width : Nat) : Option Char :=
  match ds.foldlM (fun n c => (Bytes.hexValue? c).map (16 * n + ·)) 0 with
  | some n => if ds.length = width ∧ n.isValidChar then some (Char.ofNat n) else none
  | none => none

/-- How the part of a quoted scalar on one line ends. -/
inductive LineEnd where
  /-- With the closing quote. -/
  | closed
  /-- With the line. -/
  | open
  /-- With an escaped line end, which joins the lines. -/
  | joined
deriving DecidableEq

/-- Read the part of a single-quoted scalar on one line. -/
def singlePart : List Char → List Char × LineEnd × List Char
  | [] => ([], .open, [])
  | '\'' :: '\'' :: rest =>
    let (s, e, r) := singlePart rest
    ('\'' :: s, e, r)
  | ch :: rest =>
    if ch = '\'' then ([], .closed, rest)
    else
      let (s, e, r) := singlePart rest
      (ch :: s, e, r)

/-- Read the part of a double-quoted scalar on one line. Every character of the result comes with
a flag that tells whether it was escaped; `n` bounds the number of characters. -/
def doublePart? : Nat → List Char → Option (List (Char × Bool) × LineEnd × List Char)
  | 0, _ => none
  | _ + 1, [] => some ([], .open, [])
  | n + 1, ch :: rest =>
    if ch = '"' then some ([], .closed, rest)
    else if ch = '\\' then
      match rest with
      | [] => some ([], .joined, [])
      | e :: rest =>
        match escaped? e, escapeWidth? e with
        | some v, _ => (doublePart? n rest).map fun (s, l, r) => ((v, true) :: s, l, r)
        | none, some width =>
          match charOfHex? (rest.take width) width with
          | some v =>
            (doublePart? n (rest.drop width)).map fun (s, l, r) => ((v, true) :: s, l, r)
          | none => none
        | none, none => none
    else (doublePart? n rest).map fun (s, l, r) => ((ch, false) :: s, l, r)

/-- Drop blanks that are not escaped at the end. -/
def trimUnescaped (s : List (Char × Bool)) : List (Char × Bool) :=
  (s.reverse.dropWhile fun p => isBlank p.1 && !p.2).reverse

/-- Read one line of a quoted scalar. -/
def quotedPart? (double : Bool) (s : List Char) :
    Option (List (Char × Bool) × LineEnd × List Char) :=
  if double then doublePart? (s.length + 1) s
  else
    let (s, e, r) := singlePart s
    some (s.map fun ch => (ch, false), e, r)

/-- What to put in front of the next piece of a quoted scalar. -/
inductive Join where
  /-- Nothing: the line end was escaped. -/
  | nothing
  /-- The folding of a line end and some empty lines. -/
  | folded (empty : Nat)

/-- Continue a quoted scalar on later lines. -/
def quotedMore? (double : Bool) (anchors : List (String × Node)) :
    List Char → Join → List (List Char) → Option (List Char × Cursor)
  | _, _, [] => none
  | acc, join, line :: later =>
    if Cursor.isDocumentMark line then none
    else
      let column := (line.takeWhile isBlank).length
      let rest := line.drop column
      if rest.isEmpty then
        let join := match join with
          | .nothing => .folded 1
          | .folded n => .folded (n + 1)
        quotedMore? double anchors acc join later
      else
        let gap := match join with
          | .nothing => []
          | .folded n => fold n
        match quotedPart? double rest with
        | none => none
        | some (s, .closed, after) =>
          some (acc ++ gap ++ s.map Prod.fst,
            ⟨after, column + (rest.length - after.length), later, anchors⟩)
        | some (s, .open, _) =>
          quotedMore? double anchors (acc ++ gap ++ (trimUnescaped s).map Prod.fst) (.folded 0)
            later
        | some (s, .joined, _) =>
          quotedMore? double anchors (acc ++ gap ++ s.map Prod.fst) .nothing later

/-- Read a quoted scalar from its opening quote on. -/
def quotedScalar? (double : Bool) (c : Cursor) : Option (List Char × Cursor) :=
  match quotedPart? double (c.rest.drop 1) with
  | none => none
  | some (s, .closed, after) => some (s.map Prod.fst, c.skip (c.rest.length - after.length))
  | some (s, .open, _) =>
    quotedMore? double c.anchors ((trimUnescaped s).map Prod.fst) (.folded 0) c.later
  | some (s, .joined, _) => quotedMore? double c.anchors (s.map Prod.fst) .nothing c.later

/-! ## Blocks of lines -/

/-- What is kept of the line ends at the end of a block. -/
inductive Chomping where
  /-- One. -/
  | clip
  /-- None. -/
  | strip
  /-- All. -/
  | keep
deriving DecidableEq

/-- The header of a block. -/
structure BlockHeader where
  /-- Whether line ends are folded. -/
  folded : Bool
  /-- What is kept at the end. -/
  chomping : Chomping := .clip
  /-- By how much the lines are indented, if the header says so. -/
  indent : Option Nat := none

/-- Read the indicators of a header, at most one of each kind. -/
def blockIndicators? : BlockHeader → List Char → Option (BlockHeader × List Char)
  | h, ch :: rest =>
    if ch = '-' ∨ ch = '+' then
      if h.chomping = .clip then
        let h := { h with chomping := if ch = '-' then .strip else .keep }
        match rest with
        | d :: rest' =>
          if d.isDigit then
            if h.indent.isNone && d != '0' then
              some ({ h with indent := some (d.toNat - 48) }, rest')
            else none
          else some (h, rest)
        | [] => some (h, rest)
      else none
    else if ch.isDigit then
      if ch = '0' then none
      else
        let h := { h with indent := some (ch.toNat - 48) }
        match rest with
        | d :: rest' =>
          if d = '-' then some ({ h with chomping := .strip }, rest')
          else if d = '+' then some ({ h with chomping := .keep }, rest')
          else some (h, rest)
        | [] => some (h, rest)
    else some (h, ch :: rest)
  | h, [] => some (h, [])

/-- The lines of a block that is indented by `indent`, without their indentation, and the lines
after it. -/
def blockLines (indent : Nat) : List (List Char) → List (List Char) × List (List Char)
  | [] => ([], [])
  | line :: later =>
    let spaces := (line.takeWhile (· == ' ')).length
    if spaces = line.length ∨ (indent ≤ spaces ∧ !(indent = 0 ∧ Cursor.isDocumentMark line)) then
      let (ls, r) := blockLines indent later
      (line.drop indent :: ls, r)
    else ([], line :: later)

/-- The text of folded lines. Lines that start with a blank keep the line ends around them;
`after` tells whether such a line, or none at all, came last. -/
def foldLines : Bool → Nat → List (List Char) → List Char
  | _, _, [] => []
  | spaced, empty, line :: ls =>
    if line.isEmpty then foldLines spaced (empty + 1) ls
    else
      let indented := line.head?.any isBlank
      let gap :=
        if spaced || indented then List.replicate (empty + 1) '\n'
        else fold empty
      gap ++ line ++ foldLines indented 0 ls

/-- The text of the lines of a block, without the line ends at its end. -/
def blockText (folded : Bool) (lines : List (List Char)) : List Char :=
  if folded then
    let empty := (lines.takeWhile List.isEmpty).length
    match lines.drop empty with
    | [] => []
    | line :: ls =>
      List.replicate empty '\n' ++ line ++ foldLines (line.head?.any isBlank) 0 ls
  else ['\n'].intercalate lines

/-- Read a block from its indicator on; its lines are indented by more than `indent`. -/
def blockScalar? (indent : Int) (c : Cursor) : Option (List Char × Cursor) := do
  let (h, rest) ← blockIndicators? ⟨c.rest.head? == some '>', .clip, none⟩ (c.rest.drop 1)
  let tail := rest.dropWhile isBlank
  if !(tail.isEmpty || (tail.head? == some '#' && rest.length != tail.length)) then none
  let least := (indent + 1).toNat
  let filled := c.later.dropWhile fun line => line.all (· == ' ')
  let found := match filled with
    | line :: _ => (line.takeWhile (· == ' ')).length
    | [] => least
  let width := match h.indent with
    | some n => indent.toNat + n
    | none => max least found
  let (lines, later) := blockLines width c.later
  let lines := if later.isEmpty && lines.getLast? == some [] then lines.dropLast else lines
  let body := (lines.reverse.dropWhile List.isEmpty).reverse
  let ends := match h.chomping with
    | .strip => 0
    | .clip => if body.isEmpty then 0 else 1
    | .keep => lines.length - body.length + (if body.isEmpty then 0 else 1)
  let text := blockText h.folded body ++ List.replicate ends '\n'
  let stop : Cursor := match later with
    | [] => ⟨[], 0, [], c.anchors⟩
    | line :: later => ⟨line, 0, later, c.anchors⟩
  return (text, stop)

end ReplayRegistry.Yaml
