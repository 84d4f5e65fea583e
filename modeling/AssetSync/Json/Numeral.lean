import AssetSync.Json.Basic
import AssetSync.Json.Failure

/-!
Reading numbers. A whole number that fits 64 bits is kept as it is; any other becomes the binary64
number that one product or quotient of its first digits and a power of ten rounds to.
-/

namespace AssetSync.Json

abbrev Reader (α : Type) := List Char → Except Failure (α × List Char)

def digitValue (c : Char) : Nat :=
  c.toNat - '0'.toNat

def appendDigits (significand : Nat) : List Char → Nat × Nat
  | [] => (significand, 0)
  | d :: ds =>
    let next := significand * 10 + digitValue d
    if next < 0x10000000000000000 then appendDigits next ds else (significand, ds.length + 1)

def scale? (x : Binary64) (exponent : Int) : Option Binary64 :=
  if exponent.natAbs ≤ 308 then
    (Binary64.ofDecimal? false 1 exponent.natAbs).bind fun power =>
      if 0 ≤ exponent then x.mul? power else x.div? power
  else if x.isZero then some x
  else if 0 ≤ exponent then none
  else
    (Binary64.ofDecimal? false 1 308).bind fun power =>
      (x.div? power).bind fun y => scale? y (exponent + 308)
termination_by exponent.natAbs
decreasing_by omega

def real (negative : Bool) (significand : Nat) (exponent : Int) (rest : List Char) :
    Except Failure (Number × List Char) :=
  match scale? (.ofNat significand) exponent with
  | some x => .ok (.real (if negative then x.neg else x), rest)
  | none => .error (.here .numberOutOfRange rest)

def exponentValue (value : Nat) : List Char → List Char → Except (List Char) Nat
  | [], _ => .ok value
  | d :: ds, rest =>
    let next := value * 10 + digitValue d
    if next < 0x80000000 then exponentValue next ds rest else .error (ds ++ rest)

def exponent (negative : Bool) (significand : Nat) (start : Int) : Reader Number := fun input =>
  let (down, afterSign) := match input with
    | '-' :: r => (true, r)
    | '+' :: r => (false, r)
    | r => (false, r)
  match afterSign with
  | [] => .error (.here .eofInValue [])
  | c :: _ =>
    if c.isDigit then
      let (digits, rest) := afterSign.span Char.isDigit
      match exponentValue 0 digits rest with
      | .ok value => real negative significand (if down then start - value else start + value) rest
      | .error left =>
        if significand ≠ 0 ∧ !down then .error (.here .numberOutOfRange left)
        else .ok (.real { Binary64.zero with negative }, rest)
    else .error (.next .invalidNumber afterSign)

def afterWhole (negative : Bool) (significand leftOver : Nat) : Reader Number
  | '.' :: input =>
    let (digits, rest) := input.span Char.isDigit
    let (significand, dropped) := appendDigits significand digits
    let power : Int := leftOver - (digits.length - dropped : Nat)
    match digits, rest with
    | [], [] => .error (.here .eofInValue [])
    | [], _ => .error (.next .invalidNumber rest)
    | _, 'e' :: r => exponent negative significand power r
    | _, 'E' :: r => exponent negative significand power r
    | _, _ => real negative significand power rest
  | 'e' :: r => exponent negative significand leftOver r
  | 'E' :: r => exponent negative significand leftOver r
  | rest =>
    if leftOver = 0 then
      if h : negative = false ∧ significand < 0x10000000000000000 then
        .ok (.integer ⟨significand, by omega, by omega⟩, rest)
      else if h : negative = true ∧ 0 < significand ∧ significand ≤ 0x8000000000000000 then
        .ok (.integer ⟨-significand, by omega, by omega⟩, rest)
      else real negative significand 0 rest
    else real negative significand leftOver rest

def magnitude (negative : Bool) : Reader Number
  | [] => .error (.here .eofInValue [])
  | '0' :: rest =>
    match rest with
    | c :: _ =>
      if c.isDigit then .error (.next .invalidNumber rest) else afterWhole negative 0 0 rest
    | [] => afterWhole negative 0 0 []
  | c :: rest =>
    if c.isDigit then
      let (digits, rest) := (c :: rest).span Char.isDigit
      let (significand, leftOver) := appendDigits 0 digits
      afterWhole negative significand leftOver rest
    else .error (.next .invalidNumber (c :: rest))

end AssetSync.Json
