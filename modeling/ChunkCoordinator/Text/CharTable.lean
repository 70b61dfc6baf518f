import ChunkCoordinator.Text.Hex
import ChunkCoordinator.Text.Split

/-!
# Tables of characters

A `CharTable` tells something of the characters of some ranges, and a `CharSet` tells no more than
that they are in it. Both are looked up by bisection (`CharTable.find?`).

A table is written as words with numbers to the base sixteen. `300-36F` is a range and `483` a
single character; behind `>` stands what is told of the range. Where that is a list with commas, its
members belong to the characters from the first one on.
-/

namespace ChunkCoordinator.Text

/-- What is told of the characters of a range of numbers. -/
structure Stretch (α : Type) where
  low : Nat
  high : Nat
  value : α

/-- Stretches in ascending order. -/
structure CharTable (α : Type) where
  stretches : Array (Stretch α)

namespace CharTable

variable {α : Type}

/-! ## Looking up -/

/-- Looks for the stretch around a number among those from one place on and before another. -/
def search (t : CharTable α) (n first past : Nat) : Option (Stretch α) :=
  if first < past then
    let middle := (first + past) / 2
    match t.stretches[middle]? with
    | none => none
    | some s =>
      if n < s.low then t.search n first middle
      else if s.high < n then t.search n (middle + 1) past
      else some s
  else none
termination_by past - first

/-- The stretch around a character. -/
def find? (t : CharTable α) (c : Char) : Option (Stretch α) :=
  t.search c.toNat 0 t.stretches.size

/-! ## Reading -/

/-- The words between blanks and line breaks. -/
def words (text : String) : List (List Char) :=
  (splitOn (fun c => c = ' ' || c = '\n') text.toList).filter (!·.isEmpty)

/-- The number that digits to the base sixteen stand for. -/
def number (cs : List Char) : Nat := (Hex.value? cs).getD 0

/-- A range that is written with a hyphen, or a single number. -/
def range (cs : List Char) : Nat × Nat :=
  let (low, high) := splitAtFirst '-' cs
  (number low, number (high.getD low))

/-- The stretches that a word stands for. -/
def ofWord (read : List Char → α) (word : List Char) : List (Stretch α) :=
  let (cs, told) := splitAtFirst '>' word
  let (low, high) := range cs
  match splitOn (· = ',') (told.getD []) with
  | [value] => [⟨low, high, read value⟩]
  | values => values.zipIdx.map fun (value, i) => ⟨low + i, low + i, read value⟩

/-- The table that is written in a text. -/
def ofText (read : List Char → α) (text : String) : CharTable α :=
  ⟨((words text).flatMap (ofWord read)).toArray⟩

/-- Characters whose numbers stand between full stops. -/
def chars (cs : List Char) : List Char := (splitOn (· = '.') cs).map (.ofNat ∘ number)

end CharTable

/-- A set of characters. -/
abbrev CharSet := CharTable Unit

namespace CharSet

/-- The character is in the set. -/
def contains (s : CharSet) (c : Char) : Bool := (s.find? c).isSome

/-- The set that is written in a text. -/
def ofText (text : String) : CharSet := CharTable.ofText (fun _ => ()) text

end CharSet

end ChunkCoordinator.Text
