import ReplayRegistry.Yaml.Scalar

/-!
# Reading settings files

Collections are either blocks, whose structure is their indentation, or flow collections between
brackets. A block mapping or sequence ends where a token is indented less than its entries. Every
reader takes the number of steps it may take; the number of characters of a file bounds it.
-/

namespace ReplayRegistry.Yaml

open Cursor (isBlank atBlank)

/-- An anchor or a tag in front of a value. -/
structure Properties where
  /-- The name the value can be referred to by. -/
  anchor : Option String := none
  /-- The type of the value. -/
  tag : Option String := none

/-- The name of an anchor, or the text of a tag, up to a blank or a mark of a flow collection. -/
def nameOf (s : List Char) : List Char := s.takeWhile fun ch => !(isBlank ch || isFlowMark ch)

/-- Read the properties that stand on a line, with the blanks after them. -/
def properties? : Nat → Properties → Cursor → Option (Properties × Cursor)
  | 0, _, _ => none
  | n + 1, p, c =>
    match c.rest with
    | '&' :: s =>
      let name := nameOf s
      if name.isEmpty || p.anchor.isSome then none
      else
        properties? n { p with anchor := some (String.ofList name) }
          (c.skip (name.length + 1)).skipBlanks
    | '!' :: s =>
      let name := nameOf s
      if p.tag.isSome then none
      else
        properties? n { p with tag := some (String.ofList ('!' :: name)) }
          (c.skip (name.length + 1)).skipBlanks
    | _ => some (p, c)

/-- Note the value of an anchor. -/
def Properties.note (p : Properties) (v : Node) (c : Cursor) : Cursor :=
  match p.anchor with
  | some name => { c with anchors := (name, v) :: c.anchors }
  | none => c

/-- The value of an unquoted scalar with properties. -/
def Properties.resolve (p : Properties) (s : List Char) : Node :=
  match p.tag with
  | some tag => resolveAs tag (String.ofList s)
  | none => Yaml.resolve (String.ofList s)

/-- Whether a colon that ends a key stands here. -/
def atColon (s : List Char) : Bool :=
  match s with
  | ':' :: rest => atBlank rest
  | _ => false

/-- Add a member to a mapping whose keys have to be distinct. -/
def addMember (members : List (Node × Node)) (key value : Node) : Option (List (Node × Node)) :=
  if members.any fun m => m.1 == key then none else some ((key, value) :: members)

/-! ## Flow collections -/

/-- Find the next token inside a flow collection that is indented by `indent`. -/
def flowToken? (indent : Int) (c : Cursor) : Option Cursor := do
  let t ← c.nextToken? (-1)
  if t.cursor.rest.isEmpty then none
  else if t.crossed && ((t.cursor.column : Int) ≤ indent || t.cursor.atEnd) then none
  else some t.cursor

mutual

/-- Read a value inside a flow collection. -/
def flowNode? (indent : Int) : Nat → Cursor → Option (Node × Cursor)
  | 0, _ => none
  | n + 1, c => do
    let (p, c) ← properties? (n + 1) {} c
    let c ← flowToken? indent c
    match c.rest with
    | '[' :: _ =>
      let (items, c) ← flowItems? indent n [] (c.skip 1)
      return (.sequence items, p.note (.sequence items) c)
    | '{' :: _ =>
      let (members, c) ← flowMembers? indent n [] (c.skip 1)
      return (.mapping members, p.note (.mapping members) c)
    | '*' :: s =>
      let name := nameOf s
      let v ← c.anchors.lookup (String.ofList name)
      return (v, c.skip (name.length + 1))
    | '"' :: _ =>
      let (s, c) ← quotedScalar? true c
      return (.text (String.ofList s), p.note (.text (String.ofList s)) c)
    | '\'' :: _ =>
      let (s, c) ← quotedScalar? false c
      return (.text (String.ofList s), p.note (.text (String.ofList s)) c)
    | s =>
      if startsPlain true s then
        let (s, c) := plainScalar true indent c
        return (p.resolve s, p.note (p.resolve s) c)
      else if s.head?.any isFlowMark || atColon s then
        return (p.resolve [], p.note (p.resolve []) c)
      else none

/-- Read what follows a key in a flow collection: a colon and a value, or nothing. After a quoted
key or a collection the value may follow the colon at once. -/
def flowValue? (indent : Int) (adjacent : Bool) : Nat → Cursor → Option (Option Node × Cursor)
  | 0, _ => none
  | n + 1, c => do
    let c ← flowToken? indent c
    match c.rest with
    | ':' :: rest =>
      if adjacent || atBlank rest || rest.head?.any isFlowMark then
        let c ← flowToken? indent (c.skip 1)
        if c.rest.head?.any fun ch => ch == ',' || ch == '}' || ch == ']' then
          return (some .null, c)
        let (v, c) ← flowNode? indent n c
        return (some v, c)
      else none
    | _ => return (none, c)

/-- Read the items of a flow sequence up to its closing bracket, after `acc` (newest first). An
item may be a single pair, which is a mapping. -/
def flowItems? (indent : Int) : Nat → List Node → Cursor → Option (List Node × Cursor)
  | 0, _, _ => none
  | n + 1, acc, c => do
    let c ← flowToken? indent c
    if c.rest.head? == some ']' then return (acc.reverse, c.skip 1)
    let c := if c.rest.head? == some '?' && atBlank (c.rest.drop 1) then c.skip 1 else c
    let c ← flowToken? indent c
    if c.rest.head? == some ',' then none
    let quoted := c.rest.head?.any fun ch => "\"'[\x7b".toList.contains ch
    let (v, c) ← flowNode? indent n c
    let (value, c) ← flowValue? indent quoted n c
    let item := match value with
      | some value => .mapping [(v, value)]
      | none => v
    let c ← flowToken? indent c
    match c.rest with
    | ',' :: _ => flowItems? indent n (item :: acc) (c.skip 1)
    | ']' :: _ => return ((item :: acc).reverse, c.skip 1)
    | _ => none

/-- Read the members of a flow mapping up to its closing brace, after `acc` (newest first). -/
def flowMembers? (indent : Int) :
    Nat → List (Node × Node) → Cursor → Option (List (Node × Node) × Cursor)
  | 0, _, _ => none
  | n + 1, acc, c => do
    let c ← flowToken? indent c
    if c.rest.head? == some '}' then return (acc.reverse, c.skip 1)
    let c := if c.rest.head? == some '?' && atBlank (c.rest.drop 1) then c.skip 1 else c
    let c ← flowToken? indent c
    if c.rest.head? == some ',' then none
    let quoted := c.rest.head?.any fun ch => "\"'[\x7b".toList.contains ch
    let (key, c) ← flowNode? indent n c
    let (value, c) ← flowValue? indent quoted n c
    let acc ← addMember acc key (value.getD .null)
    let c ← flowToken? indent c
    match c.rest with
    | ',' :: _ => flowMembers? indent n acc (c.skip 1)
    | '}' :: _ => return (acc.reverse, c.skip 1)
    | _ => none

end

/-! ## Keys -/

/-- Whether a place is on the same line as another, where both are in the same file. -/
def sameLine (a b : Cursor) : Bool := a.later.length == b.later.length

/-- Read a key with its properties and its colon, all on one line. -/
def key? (indent : Int) (n : Nat) (start : Cursor) : Option (Node × Cursor) := do
  let (p, c) ← properties? n {} start
  let (v, c) ← match c.rest with
    | '"' :: _ => do
      let (s, c) ← quotedScalar? true c
      pure (Node.text (String.ofList s), c)
    | '\'' :: _ => do
      let (s, c) ← quotedScalar? false c
      pure (Node.text (String.ofList s), c)
    | '*' :: s =>
      let name := nameOf s
      (c.anchors.lookup (String.ofList name)).map fun v => (v, c.skip (name.length + 1))
    | '[' :: _ => flowNode? indent n c
    | '{' :: _ => flowNode? indent n c
    | s =>
      if startsPlain false s then
        let part := plainLine false s
        some (p.resolve part, c.skip part.length)
      else if atColon s then some (.null, c)
      else none
  let c := (p.note v c).skipBlanks
  if sameLine start c && atColon c.rest then return (v, c.skip 1) else none

/-! ## Blocks -/

/-- Whether an entry of a block sequence starts here. -/
def atDash (s : List Char) : Bool :=
  match s with
  | '-' :: rest => atBlank rest
  | _ => false

/-- Whether an explicit key of a block mapping starts here. -/
def atQuestion (s : List Char) : Bool :=
  match s with
  | '?' :: rest => atBlank rest
  | _ => false

mutual

/-- Read a value of a block. It belongs to an entry that is indented by `indent` and has to be
indented more, but the dashes of a sequence may be level with the key they belong to
(`level`). `fresh` tells whether a block collection may start at once, without a line end. -/
def blockNode? (indent : Int) (fresh level : Bool) : Nat → Cursor → Option (Node × Cursor)
  | 0, _ => none
  | n + 1, c => do
    let t ← c.nextToken? indent
    let c' := t.cursor
    let fresh := fresh || t.crossed
    if c'.atEnd then return (.null, c')
    let column : Int := c'.column
    if column ≤ indent then
      if level && t.crossed && column = indent && atDash c'.rest then
        let (items, c) ← blockItems? c'.column true n [] c'
        return (.sequence items, c)
      else return (.null, c')
    match key? indent n c' with
    | some _ =>
      if fresh then
        let (members, c) ← blockMembers? c'.column n [] c'
        return (.mapping members, c)
      else none
    | none =>
      if atDash c'.rest then
        if fresh then
          let (items, c) ← blockItems? c'.column false n [] c'
          return (.sequence items, c)
        else none
      else if atQuestion c'.rest then
        if fresh then
          let (members, c) ← blockMembers? c'.column n [] c'
          return (.mapping members, c)
        else none
      else
        let (p, c) ← properties? (n + 1) {} c'
        if c.column != c'.column && c.rest.isEmpty then
          let (v, c) ← blockNode? indent false level n c
          return (v, p.note v c)
        match c.rest with
        | '|' :: _ =>
          let (s, c) ← blockScalar? indent c
          return (.text (String.ofList s), p.note (.text (String.ofList s)) c)
        | '>' :: _ =>
          let (s, c) ← blockScalar? indent c
          return (.text (String.ofList s), p.note (.text (String.ofList s)) c)
        | '"' :: _ =>
          let (s, c) ← quotedScalar? true c
          return (.text (String.ofList s), p.note (.text (String.ofList s)) c)
        | '\'' :: _ =>
          let (s, c) ← quotedScalar? false c
          return (.text (String.ofList s), p.note (.text (String.ofList s)) c)
        | '[' :: _ => do
          let (v, c) ← flowNode? indent n c
          return (v, p.note v c)
        | '{' :: _ => do
          let (v, c) ← flowNode? indent n c
          return (v, p.note v c)
        | '*' :: s =>
          let name := nameOf s
          let v ← c.anchors.lookup (String.ofList name)
          return (v, c.skip (name.length + 1))
        | s =>
          if startsPlain false s then
            let (s, c) := plainScalar false indent c
            return (p.resolve s, p.note (p.resolve s) c)
          else none

/-- Read the entries of a block sequence at a column, after `acc` (newest first). Level with a key,
it ends where an entry of the mapping starts. -/
def blockItems? (column : Nat) (level : Bool) :
    Nat → List Node → Cursor → Option (List Node × Cursor)
  | 0, _, _ => none
  | n + 1, acc, c => do
    let (v, c) ← blockNode? column true false n (c.skip 1)
    let t ← c.nextToken? column
    let c' := t.cursor
    if c'.atEnd then return ((v :: acc).reverse, c')
    else if !t.crossed && c'.column != 0 && c.column != c'.column then none
    else if c'.column = column then
      if atDash c'.rest then blockItems? column level n (v :: acc) c'
      else if level then return ((v :: acc).reverse, c')
      else none
    else if c'.column < column then return ((v :: acc).reverse, c')
    else none

/-- Read the members of a block mapping at a column, after `acc` (newest first). -/
def blockMembers? (column : Nat) :
    Nat → List (Node × Node) → Cursor → Option (List (Node × Node) × Cursor)
  | 0, _, _ => none
  | n + 1, acc, c => do
    let (key, value, c) ←
      if atQuestion c.rest then do
        let (key, c) ← blockNode? column true false n (c.skip 1)
        let t ← c.nextToken? column
        if t.cursor.column = column && atColon t.cursor.rest then
          let (value, c) ← blockNode? column true true n (t.cursor.skip 1)
          pure (key, value, c)
        else pure (key, Node.null, c)
      else do
        let (key, c) ← key? ((column : Int) - 1) n c
        let (value, c) ← blockNode? column false true n c
        pure (key, value, c)
    let acc ← addMember acc key value
    let t ← c.nextToken? column
    let c' := t.cursor
    if c'.atEnd then return (acc.reverse, c')
    else if c'.column = column then blockMembers? column n acc c'
    else if c'.column < column then return (acc.reverse, c')
    else none

end

/-! ## Documents -/

/-- Whether a line holds nothing but blanks and a comment. -/
def isVoid (line : List Char) : Bool :=
  match line.dropWhile isBlank with
  | [] => true
  | ch :: _ => ch == '#'

/-- Drop directives, comments and empty lines, and marks that end a document. -/
def skipPreamble : List (List Char) → List (List Char)
  | [] => []
  | line :: later =>
    if isVoid line || line.head? == some '%' ||
        ("...".toList.isPrefixOf line && isVoid (line.drop 3)) then skipPreamble later
    else line :: later

/-- Read a file of at most one document. The result has no value if the file has no document. -/
def read? (text : String) : Option (Option Node) := do
  let lines := skipPreamble (linesOf [] text.toList)
  match lines with
  | [] => return none
  | line :: later =>
    let marked := "---".toList.isPrefixOf line && atBlank (line.drop 3)
    let start : Cursor := if marked then ⟨line.drop 3, 3, later, []⟩ else ⟨line, 0, later, []⟩
    let (v, c) ← blockNode? (-1) (!marked) false (2 * text.length + 8) start
    let t ← c.nextToken? (-1)
    let rest := t.cursor
    if rest.rest.isEmpty then return some v
    else if rest.column = 0 && "...".toList.isPrefixOf rest.rest && isVoid (rest.rest.drop 3) &&
        (skipPreamble rest.later).isEmpty then
      return some v
    else none

end ReplayRegistry.Yaml
