/-!
# Blank text

White space is the Unicode property `White_Space`. `isBlank` is its table, `trim` takes it off
both ends of a text, and a text is blank if it holds nothing else.
-/

namespace ChunkCoordinator.Text

/-- The characters with the Unicode property `White_Space`. -/
def isBlank (c : Char) : Bool :=
  let n := c.toNat
  (0x09 ≤ n && n ≤ 0x0D) || n == 0x20 || n == 0x85 || n == 0xA0 || n == 0x1680 ||
    (0x2000 ≤ n && n ≤ 0x200A) || n == 0x2028 || n == 0x2029 || n == 0x202F || n == 0x205F ||
    n == 0x3000

/-- Takes a class of characters off both ends of a list. -/
def trimList (p : Char → Bool) (cs : List Char) : List Char :=
  ((cs.dropWhile p).reverse.dropWhile p).reverse

/-- The text without the white space at its ends. -/
def trim (s : String) : String := .ofList (trimList isBlank s.toList)

/-- The text holds white space only. -/
def blank (s : String) : Bool := s.toList.all isBlank

end ChunkCoordinator.Text
