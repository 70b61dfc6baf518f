import ChunkCoordinator.Text.Hex

/-!
# Identifiers of files and chunks

Files and chunks are named by 128-bit identifiers, ordered as numbers. `Uuid.toText` writes one
as lower-case hexadecimal digits in five hyphenated groups; `Uuid.parse?` also reads the digits
without hyphens, in braces and behind `urn:uuid:`, in either case. New identifiers come from an
`IdSupply`, a sequence of which some part has been drawn.
-/

namespace ChunkCoordinator

/-- A 128-bit identifier. -/
structure Uuid where
  bits : BitVec 128
  deriving DecidableEq

/-- The identifier of a file. -/
abbrev FileId := Uuid

/-- The identifier of a chunk. -/
abbrev ChunkId := Uuid

namespace Uuid

instance : Ord Uuid := ⟨compareOn bits⟩

instance : Std.TransOrd Uuid := inferInstanceAs (Std.TransCmp (compareOn Uuid.bits))

instance : Std.LawfulEqOrd Uuid where
  eq_of_compare {a b} h := by
    cases a
    cases b
    exact congrArg mk (Std.LawfulEqOrd.eq_of_compare h)

/-- The identifier whose bits are all zero. -/
def zero : Uuid := ⟨0⟩

instance : Inhabited Uuid := ⟨zero⟩

/-! ## Text -/

/-- How many digits stand between the hyphens. -/
def groups : List Nat := [8, 4, 4, 4, 12]

/-- Puts hyphens between groups of the given lengths. -/
def hyphenate : List Nat → List Char → List Char
  | [], cs => cs
  | [_], cs => cs
  | n :: ns, cs => cs.take n ++ '-' :: hyphenate ns (cs.drop n)

/-- Takes the hyphens out from between groups of exactly the given lengths. -/
def unhyphenate? : List Nat → List Char → Option (List Char)
  | [], cs => if cs.isEmpty then some [] else none
  | [n], cs => if cs.length = n then some cs else none
  | n :: ns, cs =>
    match cs.drop n with
    | '-' :: rest => (unhyphenate? ns rest).map (cs.take n ++ ·)
    | _ => none

/-- The digits of an identifier, in hyphenated groups. -/
def toChars (u : Uuid) : List Char := hyphenate groups (Text.Hex.digits 32 u.bits.toNat)

/-- The text of an identifier. -/
def toText (u : Uuid) : String := .ofList u.toChars

/-- Reads thirty-two digits. -/
def ofDigits? (cs : List Char) : Option Uuid :=
  if cs.length = 32 then (Text.Hex.value? cs).map fun n => ⟨.ofNat 128 n⟩ else none

/-- Reads digits in hyphenated groups. -/
def ofHyphenated? (cs : List Char) : Option Uuid := (unhyphenate? groups cs).bind ofDigits?

/-- What stands in front of an identifier that is written as a resource name. -/
def urn : List Char := "urn:uuid:".toList

/-- Reads an identifier in any of its written forms. -/
def ofChars? (cs : List Char) : Option Uuid :=
  if cs.length = 32 then ofDigits? cs
  else if cs.length = 36 then ofHyphenated? cs
  else if cs.length = 38 then
    if cs.head? = some '{' ∧ cs.getLast? = some '}' then ofHyphenated? (cs.drop 1).dropLast
    else none
  else if (cs.take 9).map Char.toLower = urn then ofHyphenated? (cs.drop 9)
  else none

/-- Reads an identifier in any of its written forms. -/
def parse? (s : String) : Option Uuid := ofChars? s.toList

/-! ## New identifiers -/

/-- Marks the bits of a number as those of a random identifier: version 4, variant 1. -/
def ofRandom (n : Nat) : Uuid :=
  ⟨(.ofNat 128 n &&& 0xFFFFFFFFFFFF4FFFBFFFFFFFFFFFFFFF) ||| 0x00000000000040008000000000000000⟩

end Uuid

/-- A sequence of identifiers, numbered from one, of which the first `drawn` are in use. -/
structure IdSupply where
  nth : Nat → Uuid
  drawn : Nat

namespace IdSupply

/-- The next identifiers, and the supply without them. -/
def draw (s : IdSupply) (count : Nat) : List Uuid × IdSupply :=
  ((List.range' (s.drawn + 1) count).map s.nth, { s with drawn := s.drawn + count })

/-- The supply whose `k`-th identifier carries `seed + k * step` in its upper and `k` in its
lower half. -/
def stepped (seed step : UInt64) : IdSupply where
  nth k := .ofRandom ((seed + .ofNat k * step).toNat * UInt64.size + k % UInt64.size)
  drawn := 0

theorem length_draw (s : IdSupply) (count : Nat) : (s.draw count).1.length = count := by
  simp [draw]

end IdSupply

end ChunkCoordinator
