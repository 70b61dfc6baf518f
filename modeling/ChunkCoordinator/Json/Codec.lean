import ChunkCoordinator.Json.Reader
import ChunkCoordinator.Uuid

/-!
# Values as JSON

A `Codec` says how the values of a type are written as JSON, which texts are read as one, and what
value the text read stands for. Simple types have codecs of their own here; `Codec.list` and
`Codec.optional` make new ones, and a record gets its codec from its `Fields`.

`Codec.text` writes a value, `Codec.read` reads one from text as received and `Codec.parse?` from a
string.
-/

namespace ChunkCoordinator

open Json (Flaw)
open Text (Received)

/-- How the values of a type are written as JSON and read back. What `reader` gives is in the form
that `encode` gives, up to the order and number of items in a set. -/
structure Codec (α : Type) where
  reader : Json.Reader Json
  encode : α → Json
  decode? : Json → Option α

namespace Codec

variable {α β : Type}

/-! ## Reading and writing -/

/-- Reads a value from a whole text. -/
def read (c : Codec α) (text : Received) : Except Flaw α :=
  match Json.document c.reader text with
  | .error flaw => .error flaw
  | .ok j =>
    match c.decode? j with
    | some value => .ok value
    | none => .error .mismatch

/-- Reads a value from a whole text, if it holds one. -/
def parse? (c : Codec α) (text : String) : Option α := (c.read (.ofString text)).toOption

/-- Writes a value without any space. -/
def text (c : Codec α) (value : α) : String := (c.encode value).compact

/-- Writes a value with one item or member a line. -/
def pretty (c : Codec α) (value : α) : String := (c.encode value).pretty

/-! ## Simple values -/

/-- A number below a bound. -/
def natural (bound : Nat) : Codec Nat where
  reader := .natural bound
  encode n := .number n
  decode? | .number n => some n | _ => none

/-- The number of things in a list. -/
def count : Codec Nat := natural UInt64.size

/-- A codec for a type that is a part of another or the same in another form. -/
def convert (c : Codec α) (project : β → α) (build : α → β) : Codec β where
  reader := c.reader
  encode b := c.encode (project b)
  decode? j := (c.decode? j).map build

/-- A word of 64 bits. -/
def word : Codec UInt64 := (natural UInt64.size).convert UInt64.toNat .ofNat

/-- A word of 32 bits. -/
def word32 : Codec UInt32 := (natural UInt32.size).convert UInt32.toNat .ofNat

/-- A word of 16 bits. -/
def word16 : Codec UInt16 := (natural UInt16.size).convert UInt16.toNat .ofNat

/-- A truth value. -/
def truth : Codec Bool where
  reader := .truth
  encode b := .bool b
  decode? | .bool b => some b | _ => none

/-- A text. -/
def string : Codec String where
  reader := Json.string <$> Json.Reader.text
  encode s := .string s
  decode? | .string s => some s | _ => none

/-- An identifier, which may be written in any of its forms. -/
def uuid : Codec Uuid where
  reader := do
    match Uuid.parse? (← Json.Reader.text) with
    | some u => pure (.string u.toText)
    | none => Json.Reader.mismatch
  encode u := .string u.toText
  decode? | .string s => Uuid.parse? s | _ => none

/-- One of some values that have names. -/
def named (all : List α) (name : α → String) : Codec α where
  reader := .word (all.map name)
  encode a := .string (name a)
  decode? | .string s => all.find? fun a => name a = s | _ => none

/-! ## Lists and options -/

/-- A list. -/
def list (c : Codec α) : Codec (List α) where
  reader := .list c.reader
  encode values := .array (values.map c.encode)
  decode? | .array js => js.mapM c.decode? | _ => none

/-- A value or nothing. The values themselves are never written as `null`. -/
def optional (c : Codec α) : Codec (Option α) where
  reader := .optional c.reader
  encode | some value => c.encode value | none => .null
  decode? | .null => some none | j => (c.decode? j).map some

end Codec

/-! ## Records -/

/-- The fields of a record, and how a tuple of their values is written and read. -/
structure Fields (α : Type) where
  fields : List Json.Reader.Field
  encode : α → List (String × Json)
  decode? : List (String × Json) → Option α

namespace Fields

variable {α β : Type}

/-- No fields. -/
def none : Fields Unit where
  fields := []
  encode _ := []
  decode? | [] => some () | _ => .none

/-- A field in front of others. -/
def field (name : String) (presence : Json.Reader.Presence) (c : Codec α) (rest : Fields β) :
    Fields (α × β) where
  fields := ⟨name, presence, c.reader⟩ :: rest.fields
  encode v := (name, c.encode v.1) :: rest.encode v.2
  decode?
    | (_, j) :: js => do return (← c.decode? j, ← rest.decode? js)
    | [] => .none

/-- A field that has to be there. -/
def need (name : String) (c : Codec α) (rest : Fields β) : Fields (α × β) :=
  field name .required c rest

/-- The codec of a record that is built from the values of its fields. -/
def record (fs : Fields α) (project : β → α) (build : α → β) : Codec β where
  reader := .record fs.fields
  encode v := .object (fs.encode (project v))
  decode? | .object js => (fs.decode? js).map build | _ => .none

end Fields

end ChunkCoordinator
