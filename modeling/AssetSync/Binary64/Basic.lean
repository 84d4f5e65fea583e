namespace AssetSync

/-- The number ± significand · 2^shift · 2⁻¹⁰⁷⁴, in its only canonical form. -/
structure Binary64 where
  negative : Bool
  significand : Nat
  shift : Nat
  significand_lt : significand < 1 <<< 53
  shift_le : shift ≤ 2045
  normal : shift = 0 ∨ 1 <<< 52 ≤ significand
  deriving DecidableEq

namespace Binary64

/-- The quotient of two naturals rounded to nearest, a tie going to the even neighbour. -/
def roundDiv (num den : Nat) : Nat :=
  let floor := num / den
  let twice := 2 * (num % den)
  if twice > den ∨ (twice = den ∧ floor % 2 = 1) then floor + 1 else floor

def bitLength (n : Nat) : Nat :=
  if n = 0 then 0 else n.log2 + 1

def ofFields? (negative : Bool) (significand shift : Nat) : Option Binary64 :=
  if h : significand < 1 <<< 53 ∧ shift ≤ 2045 ∧ (shift = 0 ∨ 1 <<< 52 ≤ significand) then
    some ⟨negative, significand, shift, h.1, h.2.1, h.2.2⟩
  else none

def ofRatio? (negative : Bool) (num den : Nat) : Option Binary64 :=
  let units := num <<< 1074
  let shift := bitLength (units / den) - 53
  let significand := roundDiv units (den <<< shift)
  if significand = 1 <<< 53 then ofFields? negative (1 <<< 52) (shift + 1)
  else ofFields? negative significand shift

def zero : Binary64 :=
  ⟨false, 0, 0, by decide, by decide, .inl rfl⟩

def neg (x : Binary64) : Binary64 :=
  { x with negative := !x.negative }

def isZero (x : Binary64) : Bool :=
  x.significand == 0

def units (x : Binary64) : Nat :=
  x.significand <<< x.shift

def ofNat (n : Nat) : Binary64 :=
  (ofRatio? false n 1).getD zero

def mul? (x y : Binary64) : Option Binary64 :=
  ofRatio? (x.negative != y.negative) (x.units * y.units) (1 <<< 2148)

def div? (x y : Binary64) : Option Binary64 :=
  ofRatio? (x.negative != y.negative) x.units y.units

def addMagnitudes? (x y : Binary64) : Option Binary64 :=
  ofRatio? false (x.units + y.units) (1 <<< 1074)

def ofDecimal? (negative : Bool) (digits : Nat) (exponent : Int) : Option Binary64 :=
  let width := (Nat.toDigits 10 digits).length
  if digits = 0 ∨ exponent + width < -330 then some { zero with negative }
  else if exponent + width > 310 then none
  else if exponent ≥ 0 then ofRatio? negative (digits * Nat.pow 10 exponent.toNat) 1
  else ofRatio? negative digits (Nat.pow 10 (-exponent).toNat)

end Binary64

end AssetSync
