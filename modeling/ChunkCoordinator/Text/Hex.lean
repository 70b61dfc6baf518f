/-!
# Hexadecimal numbers

`Hex.digits width n` writes a number in a fixed number of lower-case digits and `Hex.value?`
reads digits of either case. Reading undoes writing for every number that fits the width
(`value?_digits`).
-/

namespace ChunkCoordinator.Text.Hex

/-- The lower-case digit of a number below sixteen. -/
def digit (n : Nat) : Char :=
  if n < 10 then Char.ofNat ('0'.toNat + n) else Char.ofNat ('a'.toNat + (n - 10))

/-- The number that a digit of either case stands for. -/
def digit? (c : Char) : Option Nat :=
  if '0' ≤ c ∧ c ≤ '9' then some (c.toNat - '0'.toNat)
  else if 'a' ≤ c ∧ c ≤ 'f' then some (c.toNat - 'a'.toNat + 10)
  else if 'A' ≤ c ∧ c ≤ 'F' then some (c.toNat - 'A'.toNat + 10)
  else none

/-- The last `width` digits of a number. -/
def digits : Nat → Nat → List Char
  | 0, _ => []
  | width + 1, n => digits width (n / 16) ++ [digit (n % 16)]

/-- Reads on from the value of the digits before. -/
def valueFrom (acc : Nat) : List Char → Option Nat
  | [] => some acc
  | c :: cs => (digit? c).bind fun d => valueFrom (16 * acc + d) cs

/-- The value of a list of digits; no digits have the value zero. -/
def value? (cs : List Char) : Option Nat := valueFrom 0 cs

/-- A number in as few lower-case digits as it needs. -/
def minimal (n : Nat) : List Char := Nat.toDigits 16 n

theorem digit?_digit {n : Nat} (h : n < 16) : digit? (digit n) = some n := by
  have : ∀ m : Fin 16, digit? (digit m) = some m.1 := by decide
  exact this ⟨n, h⟩

theorem length_digits (width n : Nat) : (digits width n).length = width := by
  induction width generalizing n with
  | zero => rfl
  | succ width ih => simp [digits, ih]

theorem valueFrom_append (acc : Nat) (cs ds : List Char) :
    valueFrom acc (cs ++ ds) = (valueFrom acc cs).bind fun v => valueFrom v ds := by
  induction cs generalizing acc with
  | nil => rfl
  | cons c cs ih =>
    simp only [List.cons_append, valueFrom]
    cases digit? c <;> simp [ih]

theorem value?_digits {width n : Nat} (h : n < Nat.pow 16 width) :
    value? (digits width n) = some n := by
  unfold value?
  induction width generalizing n with
  | zero => simp at h; simp [digits, valueFrom, h]
  | succ width ih =>
    have hpow : Nat.pow 16 (width + 1) = Nat.pow 16 width * 16 := rfl
    have hdiv : n / 16 < Nat.pow 16 width := by omega
    rw [digits, valueFrom_append, ih hdiv]
    simp only [Option.bind_some, valueFrom, digit?_digit (Nat.mod_lt n (by decide : 16 > 0))]
    congr 1
    omega

end ChunkCoordinator.Text.Hex
