import ReplayRegistry.Settings.Basic
import ReplayRegistry.Settings.Path
import ReplayRegistry.Yaml.Reader

/-!
# Loading settings

Settings come from up to four sources, each laid over the ones before it: the file `hookdb.yaml`, if
there is one; a file named by the caller; a file named by the environment; and single variables of
the environment. A named file has to be there, and every file has to be well formed.
-/

namespace ReplayRegistry.Settings

/-- A source of settings: values by the keys that name their places. -/
abbrev Source := List (String × Value)

/-- Texts by name: the files at hand, or the variables of an environment. -/
abbrev Texts := List (String × String)

/-- The text of a name. -/
def Texts.get? (ts : Texts) (name : String) : Option String :=
  (ts.find? fun t => t.1 == name).map Prod.snd

/-- Why settings cannot be loaded. -/
inductive LoadError where
  /-- There is no file of this name. -/
  | missing (name : String)
  /-- The file of this name is not one table of settings. -/
  | malformed (name : String)
  /-- A value cannot be converted to what its setting expects. -/
  | unsuitable
deriving DecidableEq, Repr

/-- The text of an error. -/
def LoadError.message : LoadError → String
  | missing name => "settings file " ++ name ++ " not found"
  | malformed name => "settings file " ++ name ++ " is malformed"
  | unsuitable => "a setting has a value that does not suit it"

/-! ## Files -/

/-- A name without the steps that stay in the directory where they start. -/
def plainName (name : String) : List Char := drop (name.toList.length) name.toList
where
  /-- Drop steps at the front; `n` bounds their number. -/
  drop : Nat → List Char → List Char
  | n + 1, '.' :: '/' :: s => drop n (s.dropWhile (· == '/'))
  | _, s => s

/-- The names under which a file is looked for, in this order. The ending of the name may be left
out. -/
def candidates (name : String) : List String :=
  let plain := plainName name
  if plain.isEmpty then []
  else [[], ".yaml".toList, ".yml".toList].map fun ending => String.ofList (plain ++ ending)

/-- The text of the file that a name stands for. -/
def file? (files : Texts) (name : String) : Option String := (candidates name).findSome? files.get?

/-- The source that the text of a file is. A file without a document says nothing. -/
def Source.ofFile? (text : String) : Option Source := do
  let text := match text.toList with
    | '\uFEFF' :: s => String.ofList s
    | _ => text
  match ← Yaml.read? text with
  | none => some []
  | some n =>
    match ← Value.ofNode? n with
    | .table ms => some ms
    | _ => none

/-- The source that the file of a name is. -/
def Source.load (files : Texts) (name : String) : Except LoadError Source :=
  match file? files name with
  | none => .error (.missing name)
  | some text =>
    match Source.ofFile? text with
    | none => .error (.malformed name)
    | some source => .ok source

/-! ## The environment -/

/-- The variable that names a file. -/
def fileVariable : String := "HOOKDB_CONFIG"

/-- What the names of variables for single settings start with, in any case. -/
def variableMark : List Char := "hookdb__".toList

/-- Put a point for each pair of underscores. -/
def pointed : List Char → List Char
  | '_' :: '_' :: s => '.' :: pointed s
  | c :: s => c :: pointed s
  | [] => []

/-- What the text of a variable stands for. -/
def ofVariable (s : String) : Value :=
  if Text.isWord "true" s then .bool true
  else if Text.isWord "false" s then .bool false
  else
    match Yaml.int64? 10 s.toList with
    | some i => .int i
    | none =>
      match Binary64.parse? s with
      | some x => .real x
      | none => .text s

/-- The settings that an environment gives one by one. -/
def Source.ofEnvironment (env : Texts) : Source :=
  env.filterMap fun (name, s) =>
    let key := Text.lowered name
    if variableMark.isPrefixOf key then
      some (String.ofList (pointed (key.drop variableMark.length)), ofVariable s)
    else none

/-! ## Layers -/

/-- Lay a source over what the sources before it have given. -/
def layer (root : Value) (source : Source) : Value :=
  source.foldl (fun root entry => Path.place entry.2 (Path.ofKey entry.1) (some root)) root

/-- The settings that sources give, the last of them on top. -/
def ofSources (sources : List Source) : Except LoadError Settings :=
  match ofValue? (sources.foldl layer (.table [])) with
  | some s => .ok s
  | none => .error .unsuitable

/-- The file that is read if it is there. -/
def usualFile : String := "hookdb.yaml"

/-- Load settings from files and an environment; `path` is a file named by the caller. -/
def load (files env : Texts) (path : Option String) : Except LoadError Settings := do
  let usual ← match file? files usualFile with
    | none => pure []
    | some _ => Source.load files usualFile
  let named ← match path with
    | none => pure []
    | some name => Source.load files name
  let pointedAt ← match env.get? fileVariable with
    | none => pure []
    | some name => Source.load files name
  ofSources [usual, named, pointedAt, Source.ofEnvironment env]

end ReplayRegistry.Settings
