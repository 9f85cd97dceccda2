import ReplayRegistry.Url.Host

/-!
# Absolute URLs

Webhooks are reached under absolute URLs with a host. Text is read as a browser reads it: white
space around it and line breaks inside it do not count, and the slashes after a scheme that names
hosts on a network may be missing or doubled. What follows the host can hold anything.
-/

namespace ReplayRegistry.Url

/-- How the text after a scheme is laid out. -/
inductive SchemeKind where
  /-- The scheme of local files. -/
  | file
  /-- A scheme that names hosts on a network. -/
  | network
  | other
deriving DecidableEq

/-- The kind of a scheme in small letters. -/
def SchemeKind.of (scheme : List Char) : SchemeKind :=
  match String.ofList scheme with
  | "file" => .file
  | "http" | "https" | "ws" | "wss" | "ftp" => .network
  | _ => .other

/-- Whether a character may stand in a scheme after its first letter. -/
def isSchemeChar (c : Char) : Bool := c.isAlphanum || c == '+' || c == '-' || c == '.'

/-- Drop control characters and spaces at both ends, and tabs and line breaks everywhere. -/
def strip (s : List Char) : List Char :=
  let outside := fun (c : Char) => c.toNat ≤ 0x20
  ((s.dropWhile outside).reverse.dropWhile outside).reverse.filter fun c =>
    !(c == '\t' || c == '\n' || c == '\r')

/-- Split a stripped text into the kind of its scheme and what follows the colon. -/
def scheme? (s : List Char) : Option (SchemeKind × List Char) :=
  match s with
  | c :: _ =>
    if c.isAlpha then
      match s.dropWhile isSchemeChar with
      | ':' :: rest => some (.of ((s.takeWhile isSchemeChar).map Char.toLower), rest)
      | _ => none
    else none
  | [] => none

/-- Whether a character is a slash; a backslash counts where the scheme names hosts. -/
def isSlash (backslash : Bool) (c : Char) : Bool := c == '/' || (backslash && c == '\\')

/-- Whether a character ends the authority. -/
def endsAuthority (backslash : Bool) (c : Char) : Bool :=
  isSlash backslash c || c == '?' || c == '#'

/-- Drop what stands before the last `@` of an authority. -/
def dropUserInfo (authority : List Char) : List Char :=
  if authority.contains '@' then (authority.reverse.takeWhile (· != '@')).reverse else authority

/-- Split an authority after its host: at the first colon that is not in brackets. -/
def splitHost : Bool → List Char → List Char × List Char
  | _, [] => ([], [])
  | inside, c :: s =>
    if c = ':' ∧ !inside then ([], c :: s)
    else
      let (host, rest) := splitHost (if c = '[' then true else if c = ']' then false else inside) s
      (c :: host, rest)

/-- Whether what follows the host in an authority is nothing or a port; `backslash` tells whether a
backslash has ended the authority already. -/
def isPort (backslash : Bool) : List Char → Bool
  | [] => true
  | _ :: port =>
    let port := if backslash then port else port.takeWhile (· != '\\')
    port.all Char.isDigit && port.foldl (fun n c => 10 * n + (c.toNat - 48)) 0 ≤ 65535

/-- The host of an authority, if the host is in order and not empty and the port is in order. -/
def authorityHost? (network : Bool) (s : List Char) : Option Host :=
  let authority := dropUserInfo (s.takeWhile (!endsAuthority network ·))
  let (host, port) := splitHost false authority
  if host.isEmpty || !isPort network port then none
  else if network then networkHost? host
  else opaqueHost? host

/-! ## Local files -/

/-- Whether a text is a drive letter with its colon or bar. -/
def isDrive : List Char → Bool
  | [c, m] => c.isAlpha && (m == ':' || m == '|')
  | _ => false

/-- What a segment of a path does. -/
inductive Segment where
  /-- Stays where it is. -/
  | here
  /-- Goes up by one. -/
  | up
  /-- Goes down into a name. -/
  | down (name : List Char)

/-- Read a segment; a dot may be written as an escaped byte. -/
def Segment.of (s : List Char) : Segment :=
  match (String.ofList (s.map Char.toLower)) with
  | "." | "%2e" => .here
  | ".." | ".%2e" | "%2e." | "%2e%2e" => .up
  | _ => .down s

/-- Whether a path names a drive as its first segment once dots are resolved; `depth` is the number
of segments resolved so far. -/
def startsAtDrive : Nat → List (List Char) → Bool
  | _, [] => false
  | depth, s :: rest =>
    match Segment.of s with
    | .here => startsAtDrive depth rest
    | .up => startsAtDrive (depth - 1) rest
    | .down name => (depth == 0 && isDrive name) || startsAtDrive (depth + 1) rest

/-- The host of a file URL after its scheme: two slashes, the host, and a path. The local machine
counts as no host, and so does the host of a path that names a drive. -/
def fileHost? (s : List Char) : Option Host :=
  match s with
  | a :: b :: s =>
    if isSlash true a && isSlash true b then
      let text := s.takeWhile (!endsAuthority true ·)
      let path := (s.dropWhile (!endsAuthority true ·)).takeWhile fun c => c != '?' && c != '#'
      let segments := (path.drop 1).splitOnP (isSlash true)
      if text.isEmpty || isDrive text || startsAtDrive 0 segments then none
      else
        match networkHost? text with
        | some (.domain name) => if name = "localhost".toList then none else some (.domain name)
        | host => host
    else none
  | _ => none

/-- The host of an absolute URL; none, if the text is not an absolute URL or has no host. -/
def host? (text : String) : Option Host :=
  match scheme? (strip text.toList) with
  | none => none
  | some (.file, s) => fileHost? s
  | some (.network, s) => authorityHost? true (s.dropWhile (isSlash true))
  | some (.other, s) =>
    match s with
    | '/' :: '/' :: s => authorityHost? false s
    | _ => none

end ReplayRegistry.Url

namespace ReplayRegistry

/-- Whether a text is an absolute URL with a host. -/
def isUrl (text : String) : Bool := (Url.host? text).isSome

end ReplayRegistry
