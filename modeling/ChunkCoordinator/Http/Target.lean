import ChunkCoordinator.Http.ServerName
import ChunkCoordinator.Text.Blank
import ChunkCoordinator.Text.Percent
import ChunkCoordinator.Text.Split

/-!
# Request targets

A `Target` is what a request asks for: a path and perhaps a query, both still percent-encoded.
`Target.parse` reads one as it stands in a request. `Target.ofUrl?` takes it from an address
of the web, by the rules for such addresses: white space at the ends and line breaks anywhere are
dropped, a backslash is a slash, the segments `.` and `..` are resolved, and what cannot stand in
a path or query is percent-encoded. The server that the address names has to be well formed.
-/

namespace ChunkCoordinator.Http

open Text (splitOn splitAtFirst)

/-- What a request asks for. -/
structure Target where
  path : List Char
  query : Option (List Char)
  deriving DecidableEq

namespace Target

/-- What stands behind the scheme and the server of a target that names them. -/
def behindServer (cs : List Char) : List Char :=
  match cs.head?, splitAtFirst ':' cs with
  | some '/', _ => cs
  | _, (_, some ('/' :: '/' :: rest)) => rest.dropWhile fun c => c ≠ '/' && c ≠ '?'
  | _, _ => cs

/-- Reads a target. A fragment is dropped. -/
def parse (s : String) : Target :=
  let (path, query) := splitAtFirst '?' (behindServer (splitAtFirst '#' s.toList).1)
  ⟨path, query⟩

/-! ## Segments -/

/-- The character separates segments in an address. -/
def isSlash (c : Char) : Bool := c = '/' || c = '\\'

/-- The segment stands for where it is. -/
def isHere (segment : List Char) : Bool :=
  segment.map Char.toLower ∈ [['.'], "%2e".toList]

/-- The segment stands for one level up. -/
def isUp (segment : List Char) : Bool :=
  segment.map Char.toLower ∈ ["..".toList, ".%2e".toList, "%2e.".toList, "%2e%2e".toList]

/-- The segment names a drive: a letter and a colon or bar. -/
def isDrive : List Char → Bool
  | [c, d] => c.isAlpha && (d = ':' || d = '|')
  | _ => false

/-- The segments one level up. No way leads up from a drive. -/
def parent (above : List (List Char)) : List (List Char) :=
  if above.getLast?.any isDrive then above else above.dropLast

/-- Appends segments to those of a path, going where the dots say. A path that ends in dots ends
in a slash. -/
def resolve (above : List (List Char)) : List (List Char) → List (List Char)
  | [] => above
  | segment :: rest =>
    let last := if rest.isEmpty then [[]] else []
    if isUp segment then resolve (parent above ++ last) rest
    else if isHere segment then resolve (above ++ last) rest
    else resolve (above ++ [segment]) rest

/-- A path with a slash before each segment. -/
def joinSegments (segments : List (List Char)) : List Char := segments.flatMap ('/' :: ·)

/-! ## Characters that have to be encoded -/

/-- The character is a control character or not of the basic Latin ones. -/
def isForeign (c : Char) : Bool := c.toNat < 0x20 || 0x7E < c.toNat

/-- The character cannot stand in a path. -/
def isPathSpecial (c : Char) : Bool :=
  isForeign c || c ∈ [' ', '"', '#', '<', '>', '?', '^', '\x60', '\x7b', '\x7d']

/-- The character cannot stand in a query. -/
def isQuerySpecial (c : Char) : Bool := isForeign c || c ∈ [' ', '"', '#', '<', '>', '\x27']

/-- The target that a path and a query name. -/
def ofParts (path : List Char) (query : Option (List Char)) : Target where
  path := joinSegments (resolve [] (splitOn isSlash (Text.Percent.encode isPathSpecial path)))
  query := query.map (Text.Percent.encode isQuerySpecial)

/-! ## Addresses -/

/-- What follows the scheme of an address, if it is one of the web. -/
def afterScheme? (cs : List Char) : Option (List Char) :=
  match splitAtFirst ':' cs with
  | (scheme, some rest) =>
    if scheme.map Char.toLower ∈ ["http".toList, "https".toList] then some rest else none
  | _ => none

/-- The target that an address names, if it is one of the web. -/
def ofUrl? (s : String) : Option Target := do
  let cs := Text.trimList (·.toNat ≤ 0x20) s.toList
  let rest ← afterScheme? (cs.filter fun c => c ∉ ['\t', '\n', '\r'])
  let (server, rest) := (rest.dropWhile isSlash).span fun c => !isSlash c && c ≠ '?' && c ≠ '#'
  if ServerName.isServer server then
    let (path, query) := splitAtFirst '?' (splitAtFirst '#' rest).1
    some (ofParts (path.drop 1) query)
  else none

end Target

end ChunkCoordinator.Http
