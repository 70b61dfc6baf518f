/-!
# Numbers as JSON writes them

A `Numeral` is a number as it is written. `Numeral.plain?` is the value of one that is written with
digits only, and `Numeral.isHuge` picks out those that no floating-point number of 64 bits can hold.

A number is taken as a whole number below `2 ^ 64` times a power of ten (`Numeral.scaled`), so a
long one is cut off behind its first digits. Both factors are rounded before they are multiplied.
-/

namespace ChunkCoordinator.Json

/-- A number as written: its digits before and behind the point, and its exponent. -/
structure Numeral where
  negative : Bool
  whole : List Char
  fraction : Option (List Char)
  exponent : Option Int
  deriving DecidableEq

namespace Numeral

/-- The value of a decimal digit. -/
def digit (c : Char) : Nat := c.toNat - '0'.toNat

/-- The value of digits behind others that have a value already. -/
def valueFrom (value : Nat) : List Char → Nat
  | [] => value
  | c :: cs => valueFrom (10 * value + digit c) cs

/-- Appends digits to a value up to the first that would lift it to a bound. The answer holds the
value and the digits from there on. -/
def appendDigits (bound value : Nat) : List Char → Nat × List Char
  | [] => (value, [])
  | c :: cs =>
    let next := valueFrom value [c]
    if next < bound then appendDigits bound next cs else (value, c :: cs)

theorem le_valueFrom (value : Nat) (cs : List Char) : value ≤ valueFrom value cs := by
  induction cs generalizing value with
  | nil => exact Nat.le_refl value
  | cons c cs ih =>
    have : value ≤ 10 * value + digit c := by omega
    exact Nat.le_trans this (ih _)

/-- All digits of a number below the bound are appended. -/
theorem appendDigits_of_lt {bound value : Nat} {cs : List Char} (h : valueFrom value cs < bound) :
    appendDigits bound value cs = (valueFrom value cs, []) := by
  induction cs generalizing value with
  | nil => rfl
  | cons c cs ih =>
    have hc : valueFrom value [c] < bound := Nat.lt_of_le_of_lt (le_valueFrom _ cs) h
    simp only [appendDigits, hc, ↓reduceIte]
    exact ih h

/-- The value of digits, if it is below a bound. -/
def below? (bound : Nat) (cs : List Char) : Option Nat :=
  match appendDigits bound 0 cs with
  | (value, []) => some value
  | _ => none

theorem below?_of_lt {bound : Nat} {cs : List Char} (h : valueFrom 0 cs < bound) :
    below? bound cs = some (valueFrom 0 cs) := by
  rw [below?, appendDigits_of_lt h]

/-- The value of a number that is written with digits only, if it is below a bound. -/
def plain? (bound : Nat) (n : Numeral) : Option Nat :=
  if n.negative || n.fraction.isSome || n.exponent.isSome then none else below? bound n.whole

/-! ## Size -/

/-- A whole number times a power of ten. -/
structure Scaled where
  significand : Nat
  exponent : Int
  deriving DecidableEq

/-- The number without its sign and the digits that are cut off. A whole digit that is cut off
counts as a zero. -/
def scaled (n : Numeral) : Scaled :=
  let fraction := n.fraction.getD []
  let (value, wholeLeft) := appendDigits UInt64.size 0 n.whole
  let (value, fractionLeft) := appendDigits UInt64.size value fraction
  let shift : Int := wholeLeft.length - (fraction.length - fractionLeft.length)
  ⟨value, shift + n.exponent.getD 0⟩

/-- The nearest number of at most 53 binary digits and zeros behind them; a tie goes to the even
one. -/
def nearest (n : Nat) : Nat :=
  let unit := 1 <<< (n.log2 - 52)
  let (quotient, rest) := (n / unit, n % unit)
  if unit < 2 * rest || (unit = 2 * rest && quotient % 2 = 1) then (quotient + 1) * unit
  else quotient * unit

/-- The smallest number that is rounded beyond all floating-point numbers of 64 bits. -/
def overflowLimit : Nat := (1 <<< 1024) - (1 <<< 970)

/-- The product is rounded beyond all floating-point numbers of 64 bits. -/
def Scaled.overflows (s : Scaled) : Bool :=
  s.significand ≠ 0 && 0 ≤ s.exponent &&
    (308 < s.exponent ||
      overflowLimit ≤ nearest s.significand * nearest (Nat.pow 10 s.exponent.toNat))

/-- The number is too large for a floating-point number of 64 bits. -/
def isHuge (n : Numeral) : Bool := n.scaled.overflows

end Numeral

end ChunkCoordinator.Json
