import AssetSync.Binary64.Basic

/-!
The shortest decimal that reads back as a given binary64 number: the fewest digits first, of those
the nearest, a tie going to the even last digit.
-/

namespace AssetSync.Binary64

structure Decimal where
  digits : Nat
  exponent : Int
  deriving DecidableEq

def magnitude (num den : Nat) : Int :=
  if den ≤ num then ((Nat.toDigits 10 (num / den)).length : Int) - 1
  else
    let inverse := (den + num - 1) / num
    Int.negOfNat (Nat.toDigits 10 (inverse - 1)).length

/-- Four times the ends of the interval that rounds to a number, in units of 2^shift. -/
def interval (x : Binary64) : Nat × Nat :=
  let below := if x.significand = 1 <<< 52 ∧ x.shift > 0 then 1 else 2
  (4 * x.significand - below, 4 * x.significand + 2)

def roundsFrom (x : Binary64) (num den : Nat) : Bool :=
  let (low, high) := x.interval
  let low := (low <<< x.shift) * den
  let high := (high <<< x.shift) * den
  let point := 4 * num
  if x.significand % 2 = 0 then low ≤ point && point ≤ high else low < point && point < high

def onGrid? (x : Binary64) (place : Int) : Option Nat :=
  -- a grid point `c` is `c · up / down` units
  let up := if place ≥ 0 then Nat.pow 10 place.toNat <<< 1074 else 1 <<< 1074
  let down := if place ≥ 0 then 1 else Nat.pow 10 (-place).toNat
  let floor := x.units * down / up
  let ceiling := floor + 1
  match x.roundsFrom (floor * up) down, x.roundsFrom (ceiling * up) down with
  | false, false => none
  | true, false => some floor
  | false, true => some ceiling
  | true, true =>
    let below := x.units * down - floor * up
    let above := ceiling * up - x.units * down
    if below < above ∨ (below = above ∧ floor % 2 = 0) then some floor else some ceiling

def stripZeros : Nat → Decimal → Decimal
  | 0, d => d
  | fuel + 1, d =>
    if d.digits % 10 = 0 ∧ d.digits ≠ 0 then stripZeros fuel ⟨d.digits / 10, d.exponent + 1⟩ else d

def shortest (x : Binary64) : Decimal :=
  if x.isZero then ⟨0, 0⟩
  else
    let top := magnitude x.units (1 <<< 1074)
    let onWidth (width : Nat) : Option Decimal :=
      let place := top - width
      (x.onGrid? place).map fun c => stripZeros (width + 2) ⟨c, place⟩
    ((List.range 17).findSome? onWidth).getD ⟨0, 0⟩

end AssetSync.Binary64
