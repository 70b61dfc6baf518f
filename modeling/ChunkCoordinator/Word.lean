/-!
# Saturating and checked words

Sizes, capacities and times are 64-bit words. Where the coordinator must not wrap around it
either stops at the ends of the range (`UInt64.satSub`, `UInt64.satAdd`, `UInt64.satMul`) or
notices that the range is left (`UInt64.add?`, `UInt64.double?`). Each operation is pinned down
by its value in `Nat`: `toNat_satSub`, `toNat_satAdd`, `toNat_satMul`, `toNat_add?`.
-/

namespace UInt64

/-- The greatest word. -/
def greatest : UInt64 := 0xFFFFFFFFFFFFFFFF

/-- Subtraction that stops at zero. -/
def satSub (a b : UInt64) : UInt64 :=
  if b ≤ a then a - b else 0

/-- Addition that stops at the greatest word. -/
def satAdd (a b : UInt64) : UInt64 :=
  if a.toNat + b.toNat < UInt64.size then a + b else greatest

/-- Multiplication that stops at the greatest word. -/
def satMul (a b : UInt64) : UInt64 :=
  if a.toNat * b.toNat < UInt64.size then a * b else greatest

/-- The sum, if it is a word. -/
def add? (a b : UInt64) : Option UInt64 :=
  if a.toNat + b.toNat < UInt64.size then some (a + b) else none

/-- Twice the word, if that is a word. -/
def double? (a : UInt64) : Option UInt64 := a.add? a

theorem toNat_pos {a : UInt64} (h : a ≠ 0) : 0 < a.toNat :=
  Nat.pos_of_ne_zero fun hzero => h (UInt64.toNat_inj.1 hzero)

theorem toNat_greatest : greatest.toNat = UInt64.size - 1 := rfl

theorem toNat_satSub (a b : UInt64) : (a.satSub b).toNat = a.toNat - b.toNat := by
  unfold satSub
  split
  · next h => exact UInt64.toNat_sub_of_le a b h
  · next h =>
    have : a.toNat < b.toNat := by simpa [UInt64.le_iff_toNat_le] using h
    simp
    omega

theorem toNat_satAdd (a b : UInt64) :
    (a.satAdd b).toNat = min (a.toNat + b.toNat) (UInt64.size - 1) := by
  unfold satAdd
  simp only [UInt64.size]
  split
  · rw [UInt64.toNat_add]
    omega
  · simp only [toNat_greatest, UInt64.size]
    omega

theorem toNat_satMul (a b : UInt64) :
    (a.satMul b).toNat = min (a.toNat * b.toNat) (UInt64.size - 1) := by
  unfold satMul
  simp only [UInt64.size]
  split
  · rw [UInt64.toNat_mul]
    omega
  · simp only [toNat_greatest, UInt64.size]
    omega

theorem toNat_add? (a b : UInt64) :
    (a.add? b).map UInt64.toNat =
      if a.toNat + b.toNat < UInt64.size then some (a.toNat + b.toNat) else none := by
  unfold add?
  split
  · next h => rw [Option.map_some, UInt64.toNat_add, Nat.mod_eq_of_lt h]
  · rfl

end UInt64
