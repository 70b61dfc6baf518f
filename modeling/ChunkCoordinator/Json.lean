import ChunkCoordinator.Text.Hex

/-!
# JSON values

A `Json` is a value whose numbers are natural. `Json.compact` writes it without any space and
`Json.pretty` with one member or item a line. Both come from `Json.render`, to which a `Layout`
says what to put between the parts; a layout puts nothing there but white space.

In strings, only the quotation mark, the backslash and the control characters below the space are
escaped (`Json.escape`).
-/

namespace ChunkCoordinator

/-- A JSON value with natural numbers. The members of an object are in order. -/
inductive Json where
  | null
  | bool (b : Bool)
  | number (n : Nat)
  | string (s : String)
  | array (items : List Json)
  | object (members : List (String × Json))
  deriving Inhabited

namespace Json

/-! ## Strings -/

/-- A character as it stands in a string. -/
def escape (c : Char) : List Char :=
  if c = '"' then ['\\', '"']
  else if c = '\\' then ['\\', '\\']
  else if c = '\n' then ['\\', 'n']
  else if c = '\r' then ['\\', 'r']
  else if c = '\t' then ['\\', 't']
  else if c.toNat = 0x08 then ['\\', 'b']
  else if c.toNat = 0x0C then ['\\', 'f']
  else if c.toNat < 0x20 then '\\' :: 'u' :: Text.Hex.digits 4 c.toNat
  else [c]

/-- A text between quotation marks. -/
def quoted (s : String) : List Char := '"' :: s.toList.flatMap escape ++ ['"']

/-! ## Layout -/

/-- What stands between the parts of a value: `gap depth` around the items of an array and the
members of an object, `space` behind a colon. -/
structure Layout where
  gap : Nat → List Char
  space : List Char

/-- Nothing between the parts. -/
def Layout.compact : Layout := ⟨fun _ => [], []⟩

/-- Each item and member on a line of its own, indented by two spaces a level. -/
def Layout.pretty : Layout := ⟨fun depth => '\n' :: List.replicate (2 * depth) ' ', [' ']⟩

/-- A member of an object, given its value as written. -/
def memberText (l : Layout) (name : String) (value : List Char) : List Char :=
  quoted name ++ ':' :: l.space ++ value

mutual

/-- A value as written at a given depth. -/
def render (l : Layout) (depth : Nat) : Json → List Char
  | null => ['n', 'u', 'l', 'l']
  | bool true => ['t', 'r', 'u', 'e']
  | bool false => ['f', 'a', 'l', 's', 'e']
  | number n => Nat.toDigits 10 n
  | string s => quoted s
  | array [] => ['[', ']']
  | array (j :: js) =>
    '[' :: l.gap (depth + 1) ++ render l (depth + 1) j ++ renderItems l depth js
  | object [] => ['{', '}']
  | object ((name, j) :: ms) =>
    '{' :: l.gap (depth + 1) ++ memberText l name (render l (depth + 1) j) ++
      renderMembers l depth ms

/-- The items after the first, and the end of the array. -/
def renderItems (l : Layout) (depth : Nat) : List Json → List Char
  | [] => l.gap depth ++ [']']
  | j :: js => ',' :: l.gap (depth + 1) ++ render l (depth + 1) j ++ renderItems l depth js

/-- The members after the first, and the end of the object. -/
def renderMembers (l : Layout) (depth : Nat) : List (String × Json) → List Char
  | [] => l.gap depth ++ ['}']
  | (name, j) :: ms =>
    ',' :: l.gap (depth + 1) ++ memberText l name (render l (depth + 1) j) ++
      renderMembers l depth ms

end

/-- A value without any space. -/
def compact (j : Json) : String := .ofList (j.render .compact 0)

/-- A value with one item or member a line. -/
def pretty (j : Json) : String := .ofList (j.render .pretty 0)

end Json

end ChunkCoordinator
