import ChunkCoordinator.Text.Hex

/-!
# Socket addresses

A `SocketAddress` is a version 4 or version 6 address with a port. `SocketAddress.parse?` reads
`1.2.3.4:80` and `[::1%5]:80`; `SocketAddress.toText` writes the shortest form, in which the
longest run of zero groups of a version 6 address is left out.
-/

namespace ChunkCoordinator

/-- A network address and a port. -/
inductive SocketAddress where
  | v4 (bytes : List Nat) (port : UInt16)
  | v6 (groups : List Nat) (scope : UInt32) (port : UInt16)
  deriving DecidableEq

namespace SocketAddress

/-! ## Reading -/

/-- The value of a digit in a base up to sixteen. -/
def digit? (base : Nat) (c : Char) : Option Nat := (Text.Hex.digit? c).filter (· < base)

/-- Reads as many digits as there are. The answer holds their value, their number and the rest. -/
def readDigits (base : Nat) : Nat → Nat → List Char → Nat × Nat × List Char
  | value, count, [] => (value, count, [])
  | value, count, c :: cs =>
    match digit? base c with
    | some d => readDigits base (base * value + d) (count + 1) cs
    | none => (value, count, c :: cs)

/-- Reads a number below a bound, of any length. -/
def readNumber (bound : Nat) (cs : List Char) : Option (Nat × List Char) :=
  let (value, count, rest) := readDigits 10 0 0 cs
  if 0 < count ∧ value < bound then some (value, rest) else none

/-- Reads a byte: one to three decimal digits without a leading zero. -/
def readByte (cs : List Char) : Option (Nat × List Char) :=
  let (value, count, rest) := readDigits 10 0 0 cs
  if 0 < count ∧ count ≤ 3 ∧ value < 256 ∧ !(cs.head? = some '0' && 1 < count) then
    some (value, rest)
  else none

/-- Reads one to four hexadecimal digits. -/
def readGroup (cs : List Char) : Option (Nat × List Char) :=
  let (value, count, rest) := readDigits 16 0 0 cs
  if 0 < count ∧ count ≤ 4 then some (value, rest) else none

/-- Reads a given character. -/
def readChar (c : Char) : List Char → Option (List Char)
  | [] => none
  | c' :: cs => if c' = c then some cs else none

/-- Reads a version 4 address. -/
def readV4 (cs : List Char) : Option (List Nat × List Char) := do
  let (a, cs) ← readByte cs
  let (b, cs) ← readByte (← readChar '.' cs)
  let (c, cs) ← readByte (← readChar '.' cs)
  let (d, cs) ← readByte (← readChar '.' cs)
  pure ([a, b, c, d], cs)

/-- Reads up to `limit` groups between colons, after those already read. The last two may be
written as a version 4 address; the answer tells whether they were. -/
def readGroups : Nat → List Nat → List Char → List Nat × Bool × List Char
  | 0, groups, cs => (groups, false, cs)
  | limit + 1, groups, cs =>
    let behindColon := if groups.isEmpty then some cs else readChar ':' cs
    let embedded := if limit = 0 then none else behindColon.bind readV4
    match embedded, behindColon.bind readGroup with
    | some ([a, b, c, d], rest), _ => (groups ++ [256 * a + b, 256 * c + d], true, rest)
    | _, some (group, rest) => readGroups limit (groups ++ [group]) rest
    | _, none => (groups, false, cs)

/-- Reads a version 6 address, in which one run of zero groups may be left out. -/
def readV6 (cs : List Char) : Option (List Nat × List Char) := do
  let (head, embedded, rest) := readGroups 8 [] cs
  if head.length = 8 then return (head, rest)
  if embedded then none
  let rest ← readChar ':' (← readChar ':' rest)
  let (tail, _, rest) := readGroups (7 - head.length) [] rest
  pure (head ++ List.replicate (8 - head.length - tail.length) 0 ++ tail, rest)

/-- Reads the number of a zone, if there is one. -/
def readScope (cs : List Char) : Option (UInt32 × List Char) :=
  match readChar '%' cs with
  | none => some (0, cs)
  | some rest => (readNumber UInt32.size rest).map fun (scope, rest) => (.ofNat scope, rest)

/-- Reads a port. -/
def readPort (cs : List Char) : Option (UInt16 × List Char) := do
  let (port, rest) ← readNumber UInt16.size (← readChar ':' cs)
  pure (.ofNat port, rest)

/-- Reads a version 4 address and a port. -/
def readSocketV4 (cs : List Char) : Option (SocketAddress × List Char) := do
  let (bytes, rest) ← readV4 cs
  let (port, rest) ← readPort rest
  pure (v4 bytes port, rest)

/-- Reads a version 6 address in brackets, which may name a zone, and a port. -/
def readSocketV6 (cs : List Char) : Option (SocketAddress × List Char) := do
  let (groups, rest) ← readV6 (← readChar '[' cs)
  let (scope, rest) ← readScope rest
  let (port, rest) ← readPort (← readChar ']' rest)
  pure (v6 groups scope port, rest)

/-- Reads an address that takes up the whole text. -/
def parse? (s : String) : Option SocketAddress :=
  match (readSocketV4 s.toList).or (readSocketV6 s.toList) with
  | some (address, []) => some address
  | _ => none

/-! ## Writing -/

/-- Four bytes with points between them. -/
def v4Text (bytes : List Nat) : String := ".".intercalate (bytes.map Nat.repr)

/-- Groups with colons between them. -/
def groupsText (groups : List Nat) : String :=
  ":".intercalate (groups.map fun g => .ofList (Text.Hex.minimal g))

/-- The first longest run of zeros, by its start and length, among a run that began at `start`
and the runs that end later; `best` is the longest before. -/
def longestRun (best : Nat × Nat) (start length index : Nat) : List Nat → Nat × Nat
  | [] => if best.2 < length then (start, length) else best
  | g :: gs =>
    if g = 0 then longestRun best (if length = 0 then index else start) (length + 1) (index + 1) gs
    else longestRun (if best.2 < length then (start, length) else best) 0 0 (index + 1) gs

/-- A version 6 address. One that stands for a version 4 address shows it. -/
def v6Text (groups : List Nat) : String :=
  match groups with
  | [0, 0, 0, 0, 0, 0xFFFF, x, y] => "::ffff:" ++ v4Text [x / 256, x % 256, y / 256, y % 256]
  | _ =>
    let (start, length) := longestRun (0, 0) 0 0 0 groups
    if 1 < length then
      groupsText (groups.take start) ++ "::" ++ groupsText (groups.drop (start + length))
    else groupsText groups

/-- The shortest form of an address. -/
def toText : SocketAddress → String
  | v4 bytes port => s!"{v4Text bytes}:{port.toNat}"
  | v6 groups scope port =>
    let zone := if scope = 0 then "" else s!"%{scope.toNat}"
    s!"[{v6Text groups}{zone}]:{port.toNat}"

end SocketAddress

end ChunkCoordinator
