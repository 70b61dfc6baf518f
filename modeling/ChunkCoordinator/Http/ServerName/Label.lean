import ChunkCoordinator.Http.ServerName.PlainForm
import ChunkCoordinator.Text.Direction
import ChunkCoordinator.Text.Joining
import ChunkCoordinator.Text.Punycode

/-!
# Labels of a name

The labels of a name stand between full stops. One that begins with `xn--` is written in Punycode
(`decoded?`). A label holds allowed characters only, does not begin with a mark, and joins letters
only where they can be joined (`isWellFormed`). In a name with text from right to left, each label
has to be readable in one direction (`isOneWay`).
-/

namespace ChunkCoordinator.Http.ServerName

open Text (Direction)

/-- A label has characters that are not basic Latin ones. -/
def isForeignLabel (label : List Char) : Bool := label.any (0x80 ≤ ·.toNat)

/-! ## Characters -/

/-- The basic Latin character cannot stand in a name. -/
def isForbidden (c : Char) : Bool := c ≤ ' ' || c = '\x7F' || c ∈ "#/:<>?@[\\]^|%".toList

/-- The character without width that keeps letters apart. -/
def nonJoiner : Char := '\u200C'

/-- The character without width that joins letters. -/
def joiner : Char := '\u200D'

/-- A joiner stands behind the sign that takes the vowel from a letter. So does what keeps letters
apart, unless it is between letters that would be joined. What stands before comes last one first. -/
def joinsWell (before : List Char) : List Char → Bool
  | [] => true
  | c :: cs =>
    let canJoin (side : List Char) (joins : Char → Bool) : Bool :=
      (side.dropWhile Text.Joining.isTransparent).head?.any joins
    let fits :=
      (c ≠ nonJoiner && c ≠ joiner) || before.head?.any Text.isVirama ||
        (c = nonJoiner && canJoin before Text.Joining.joinsNext &&
          canJoin cs Text.Joining.joinsPrevious)
    fits && joinsWell (c :: before) cs

/-- The characters of a label may stand where they do. -/
def isWellFormed (label : List Char) : Bool :=
  label.all (!isForbidden ·) && !label.head?.any Text.Category.isMark && joinsWell [] label

/-! ## Directions -/

/-- The character makes a text go from right to left. -/
def turns (c : Char) : Bool :=
  0x80 ≤ c.toNat && Direction.ofChar c ∈ [.rightToLeft, .arabicDigit]

/-- A label reads in one direction. It begins with a letter, which gives the direction, and ends in
a letter of that direction or a digit, perhaps with marks behind. In between is nothing of the other
direction, and if it goes from right to left, its digits are of one kind. A letter that has nothing
but marks behind it can be of either direction. -/
def isOneWay (label : List Char) : Bool :=
  match label.map Direction.ofChar with
  | [] => true
  | first :: rest =>
    match rest.reverse.dropWhile (· = .mark), first with
    | [], .leftToRight | [], .rightToLeft => true
    | last :: middle, .leftToRight =>
      (last = .leftToRight || last = .europeanDigit) &&
        middle.all fun d => d ≠ .rightToLeft && d ≠ .arabicDigit
    | last :: middle, .rightToLeft =>
      last ∈ [.rightToLeft, .europeanDigit, .arabicDigit] && middle.all (· ≠ .leftToRight) &&
        !((last :: middle).contains .europeanDigit && (last :: middle).contains .arabicDigit)
    | _, _ => false

/-- Every label reads in one direction, if any goes from right to left. -/
def areOneWay (labels : List (List Char)) : Bool :=
  !labels.any (·.any turns) || labels.all isOneWay

/-! ## Labels in Punycode -/

/-- What begins a label that is written in Punycode. -/
def codedMark : List Char := "xn--".toList

/-- The text that is written in Punycode. It has to be in its plain form and to need Punycode, and
what is written must not be too long. -/
def decodedText? (coded : List Char) : Option (List Char) := do
  if coded.getLast? = some '-' || 2000 < coded.length then none
  let cs ← Text.Punycode.decode? coded
  if isForeignLabel cs && cs.all (fun c => isPlain c && c ≠ '.') && Text.composed cs = cs then
    some cs
  else none

/-- The text of a label in its plain form. A text that needs Punycode must not be too long. -/
def decoded? (label : List Char) : Option (List Char) := do
  let cs ← match codedMark.isPrefixOf? label with
    | some coded => decodedText? coded
    | none => some label
  if isForeignLabel cs && 1000 < cs.length then none
  some cs

end ChunkCoordinator.Http.ServerName
