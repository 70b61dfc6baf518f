import ChunkCoordinator.Text.Hex
import ChunkCoordinator.Text.Utf8

/-!
# Percent encoding

A byte may be written as a percent sign and two hexadecimal digits. `Percent.decode` gives the
bytes that a text stands for, `Percent.encode` writes the characters of some class that way.
-/

namespace ChunkCoordinator.Text.Percent

/-- The byte that two digits at the beginning of a text stand for. -/
def byte? : List Char → Option UInt8
  | a :: b :: _ => do return .ofNat (16 * (← Hex.digit? a) + (← Hex.digit? b))
  | _ => none

/-- The bytes that a text stands for, of which some characters have been used already. -/
def decodeFrom : Nat → List Char → List UInt8
  | _, [] => []
  | used + 1, _ :: cs => decodeFrom used cs
  | 0, c :: cs =>
    if c = '%' then
      match byte? cs with
      | some byte => byte :: decodeFrom 2 cs
      | none => 0x25 :: decodeFrom 0 cs
    else String.utf8EncodeChar c ++ decodeFrom 0 cs

/-- The bytes that a text stands for. A percent sign without two digits stands for itself. -/
def decode (cs : List Char) : List UInt8 := decodeFrom 0 cs

/-- A byte as a percent sign and two upper-case digits. -/
def encodeByte (b : UInt8) : List Char := '%' :: (Hex.digits 2 b.toNat).map Char.toUpper

/-- Writes the bytes of the characters of a class by number. -/
def encode (special : Char → Bool) (cs : List Char) : List Char :=
  cs.flatMap fun c => if special c then (String.utf8EncodeChar c).flatMap encodeByte else [c]

/-- Text without characters of the class is left as it is. -/
theorem encode_of_not_special {special : Char → Bool} {cs : List Char}
    (h : ∀ c ∈ cs, special c = false) : encode special cs = cs := by
  induction cs with
  | nil => rfl
  | cons c cs ih =>
    have hcs := ih fun d hd => h d (List.mem_cons_of_mem c hd)
    simp only [encode, List.flatMap_cons] at hcs ⊢
    simp [hcs, h c]

end ChunkCoordinator.Text.Percent
