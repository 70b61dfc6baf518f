/-!
# Punycode

Punycode writes a text with basic Latin characters only. Its basic characters come first, and behind
a hyphen stand numbers that tell which characters to put between them, and where.
`Punycode.decode?` gives the text back. Every number takes up a part of what is written
(`length_number?`), which is why reading ends.
-/

namespace ChunkCoordinator.Text.Punycode

/-! ## Numbers -/

/-- The value of a digit to the base 36: letters of either case come before the decimal digits. -/
def digit? (c : Char) : Option Nat :=
  if c.isAlpha then some (c.toLower.toNat - 'a'.toNat)
  else if c.isDigit then some (c.toNat - '0'.toNat + 26)
  else none

/-- A digit below this value is the last one of its number. It depends on the place of the digit,
which is 36 for the first and grows by 36. -/
def threshold (bias place : Nat) : Nat := max 1 (min 26 (place - bias))

/-- Reads a number, from a digit at a place and with a weight. Weights have 32 bits. -/
def number? (bias : Nat) : Nat → Nat → List Char → Option (Nat × List Char)
  | _, _, [] => none
  | place, weight, c :: cs =>
    let limit := threshold bias place
    match digit? c with
    | none => none
    | some d =>
      if d < limit then some (d * weight, cs)
      else if UInt32.size ≤ weight * (36 - limit) then none
      else (number? bias (place + 36) (weight * (36 - limit)) cs).map fun r => (d * weight + r.1, r.2)

theorem length_number? {bias place weight n : Nat} {cs rest : List Char}
    (h : number? bias place weight cs = some (n, rest)) : rest.length < cs.length := by
  induction cs generalizing place weight n with
  | nil => simp [number?] at h
  | cons c cs ih =>
    rw [number?] at h
    split at h
    · simp at h
    · split at h
      · simp only [Option.some.injEq, Prod.mk.injEq] at h
        simp [h.2]
      · split at h
        · simp at h
        · obtain ⟨⟨m, rest'⟩, hr, h⟩ := Option.map_eq_some_iff.1 h
          obtain ⟨-, rfl⟩ := Prod.mk.inj h
          exact Nat.lt_succ_of_lt (ih hr)

/-- Divides a number by 35 until it is at most 455. The answer holds what is left and 36 for each
division. -/
def damp (delta : Nat) : Nat × Nat :=
  if 455 < delta then
    let (left, places) := damp (delta / 35)
    (left, places + 36)
  else (delta, 0)

/-- The bias behind a number, when so many characters are there. -/
def nextBias (delta length : Nat) (isFirst : Bool) : Nat :=
  let delta := if isFirst then delta / 700 else delta / 2
  let (left, places) := damp (delta + delta / length)
  places + 36 * left / (left + 38)

/-! ## Texts -/

/-- The character of a number, if it is one. -/
def char? (n : Nat) : Option Char := if h : n.isValidChar then some (.ofNatAux n h) else none

/-- Puts characters into a text as numbers tell. A number counts the places at which no character
goes, from a position in the text on and through the characters from `code` on. -/
def insertFrom? (bias code position : Nat) (text cs : List Char) : Option (List Char) :=
  match cs with
  | [] => some text
  | c :: cs =>
    match _hn : number? bias 36 1 (c :: cs) with
    | none => none
    | some (delta, rest) =>
      let length := text.length + 1
      let code' := code + (position + delta) / length
      let place := (position + delta) % length
      match char? code' with
      | none => none
      | some new =>
        insertFrom? (nextBias delta length (text.all (·.toNat < 0x80))) code' (place + 1)
          (text.take place ++ new :: text.drop place) rest
termination_by cs.length
decreasing_by exact length_number? _hn

/-- The text that is written. A hyphen at the beginning sets no basic characters apart. -/
def decode? (cs : List Char) : Option (List Char) :=
  match cs.reverse.span (· ≠ '-') with
  | (behind, '-' :: front@(_ :: _)) =>
    if front.all (·.toNat < 0x80) then insertFrom? 72 0x80 0 front.reverse behind.reverse else none
  | _ => insertFrom? 72 0x80 0 [] cs

end ChunkCoordinator.Text.Punycode
