/-!
# Text as bytes

`Utf8.decode` reads bytes as characters, and where they encode no character it notes one gap for each
longest part that could have begun one. A `Received` is text with such gaps; `Received.lossy` fills
each of them with the replacement character.
-/

namespace ChunkCoordinator.Text

/-- Text as it was received: `none` stands for bytes that encode no character. -/
abbrev Received := List (Option Char)

namespace Received

/-- Text without gaps. -/
def ofString (s : String) : Received := s.toList.map some

/-- The text with a replacement character in each gap. -/
def lossy (r : Received) : String := .ofList (r.map fun c => c.getD '\uFFFD')

/-- The text, if it has no gaps. -/
def whole? (r : Received) : Option String := (r.mapM id).map String.ofList

end Received

namespace Utf8

/-- A character of which the first bytes have been read: their value so far, the range in which
the next byte has to be, and how many bytes follow that one. -/
structure Partial where
  value : Nat
  low : Nat
  high : Nat
  after : Nat
  deriving DecidableEq

/-- What a byte can begin. -/
inductive Start where
  | whole (c : Char)
  | more (p : Partial)
  | invalid

/-- What a byte begins. The ranges leave out overlong forms, surrogates and numbers beyond the
last character. -/
def Start.ofByte (b : Nat) : Start :=
  if b < 0x80 then .whole (.ofNat b)
  else if b < 0xC2 then .invalid
  else if b < 0xE0 then .more ⟨b - 0xC0, 0x80, 0xBF, 0⟩
  else if b = 0xE0 then .more ⟨0, 0xA0, 0xBF, 1⟩
  else if b = 0xED then .more ⟨0xD, 0x80, 0x9F, 1⟩
  else if b < 0xF0 then .more ⟨b - 0xE0, 0x80, 0xBF, 1⟩
  else if b = 0xF0 then .more ⟨0, 0x90, 0xBF, 2⟩
  else if b < 0xF4 then .more ⟨b - 0xF0, 0x80, 0xBF, 2⟩
  else if b = 0xF4 then .more ⟨4, 0x80, 0x8F, 2⟩
  else .invalid

/-- Reads a byte where a character begins. -/
def first (b : Nat) : Received × Option Partial :=
  match Start.ofByte b with
  | .whole c => ([some c], none)
  | .more p => ([], some p)
  | .invalid => ([none], none)

/-- Reads a byte. A byte that cannot go on what has begun leaves a gap and begins anew. -/
def step (begun : Option Partial) (b : Nat) : Received × Option Partial :=
  match begun with
  | none => first b
  | some p =>
    if p.low ≤ b ∧ b ≤ p.high then
      let value := 64 * p.value + (b - 0x80)
      match p.after with
      | 0 => ([some (.ofNat value)], none)
      | after + 1 => ([], some ⟨value, 0x80, 0xBF, after⟩)
    else
      let (read, begun) := first b
      (none :: read, begun)

/-- Reads bytes on from what has begun. -/
def decodeFrom (begun : Option Partial) : List UInt8 → Received
  | [] => if begun.isSome then [none] else []
  | b :: bs =>
    let (read, begun) := step begun b.toNat
    read ++ decodeFrom begun bs

/-- Reads bytes. -/
def decode (bytes : List UInt8) : Received := decodeFrom none bytes

end Utf8

end ChunkCoordinator.Text
