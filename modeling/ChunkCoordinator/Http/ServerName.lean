import ChunkCoordinator.Http.ServerName.Label
import ChunkCoordinator.SocketAddress
import ChunkCoordinator.Text.Percent

/-!
# The server in an address of the web

An address of the web names its server between the scheme and the path (`isServer`): perhaps a
user, then a name or a version 6 address in brackets, perhaps a port.

A name is percent-decoded and brought into its plain form, and its labels have to be well formed
(`isName`). If the last label looks like a number, the name is a version 4 address, and has to be
one: up to four numbers (`isV4`), each decimal, octal behind `0` or hexadecimal behind `0x`, of
which the last takes up all bytes that the others leave.
-/

namespace ChunkCoordinator.Http.ServerName

open Text (splitOn splitAtFirst)

/-! ## Version 4 addresses -/

/-- The value of digits to a base. No digits have the value zero. -/
def numberTo? (base : Nat) (cs : List Char) : Option Nat :=
  match SocketAddress.readDigits base 0 0 cs with
  | (value, _, []) => some value
  | _ => none

/-- The number that a label stands for. -/
def number? : List Char → Option Nat
  | [] => none
  | '0' :: 'x' :: cs => numberTo? 16 cs
  | '0' :: c :: cs => numberTo? 8 (c :: cs)
  | cs => numberTo? 10 cs

/-- The labels without the empty one behind a full stop at the end. -/
def withoutEnd (labels : List (List Char)) : List (List Char) :=
  if labels.getLast? = some [] then labels.dropLast else labels

/-- The last label is a number or looks like one. -/
def endsInNumber (labels : List (List Char)) : Bool :=
  (withoutEnd labels).getLast?.any fun label =>
    (!label.isEmpty && label.all Char.isDigit) || (number? label).isSome

/-- The labels are a version 4 address. -/
def isV4 (labels : List (List Char)) : Bool :=
  match (withoutEnd labels).mapM number? with
  | none => false
  | some numbers =>
    let bytes := numbers.dropLast
    numbers.length ≤ 4 && bytes.all (· < 256) &&
      numbers.getLast?.all (· < 1 <<< (8 * (4 - bytes.length)))

/-! ## Servers -/

/-- A name, or a version 4 address. -/
def isName (name : List Char) : Bool :=
  (plainText? name).any fun name =>
    let labels := splitOn (· = '.') name
    !name.isEmpty && (labels.mapM decoded?).any (fun texts =>
      texts.all isWellFormed && areOneWay texts) && (!endsInNumber labels || isV4 labels)

/-- A version 6 address in brackets, or a name. -/
def isHost (cs : List Char) : Bool :=
  match cs with
  | '[' :: rest =>
    match SocketAddress.readV6 rest with
    | some (_, [']']) => true
    | _ => false
  | _ => ((Text.Utf8.decode (Text.Percent.decode cs)).mapM id).any isName

/-- A port, which may be empty. -/
def isPort (cs : List Char) : Bool := (numberTo? 10 cs).any (· < UInt16.size)

/-- A host, perhaps with a user in front, perhaps with a port behind. -/
def isServer (cs : List Char) : Bool :=
  let cs := (splitOn (· = '@') cs).getLastD []
  let (bracketed, rest) := cs.span (· ≠ ']')
  let (host, port) :=
    if cs.head? = some '[' then
      let (more, port) := splitAtFirst ':' rest
      (bracketed ++ more, port)
    else splitAtFirst ':' cs
  isHost host && port.all isPort

end ChunkCoordinator.Http.ServerName
