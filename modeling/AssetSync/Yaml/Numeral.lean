import AssetSync.Json.Basic
import AssetSync.Text.Hex

namespace AssetSync.Yaml

def digits? (base : Nat) (cs : List Char) : Option Nat :=
  if cs.isEmpty then none
  else cs.foldlM (fun value c =>
    (Text.hexValue? c).bind fun d => if d < base then some (value * base + d) else none) 0

def dropSign : List Char → List Char
  | '+' :: rest => rest
  | '-' :: rest => rest
  | cs => cs

def hasLeadingZero (cs : List Char) : Bool :=
  match dropSign cs with
  | '0' :: rest => !rest.isEmpty && rest.all Char.isDigit
  | _ => false

def based? : List Char → Option Nat
  | '0' :: 'x' :: rest => digits? 16 rest
  | '0' :: 'o' :: rest => digits? 8 rest
  | '0' :: 'b' :: rest => digits? 2 rest
  | _ => none

def magnitude? (cs : List Char) : Option Nat :=
  (based? cs).or (if hasLeadingZero cs then none else digits? 10 cs)

def unsigned? : List Char → Option Nat
  | '+' :: cs => magnitude? cs
  | cs => magnitude? cs

def integer? : List Char → Option Int
  | '-' :: cs => (magnitude? cs).map fun n => -(n : Int)
  | cs => (unsigned? cs).map Int.ofNat

inductive Real where
  | finite (value : Binary64)
  | infinite
  | notANumber

def power? : List Char → Option Int
  | [] => some 0
  | e :: cs =>
    if e ≠ 'e' ∧ e ≠ 'E' then none
    else match cs with
      | '-' :: cs => (digits? 10 cs).map fun n => -(n : Int)
      | '+' :: cs => (digits? 10 cs).map Int.ofNat
      | cs => (digits? 10 cs).map Int.ofNat

def decimal? (negative : Bool) (cs : List Char) : Option Binary64 := do
  let (whole, rest) := cs.span Char.isDigit
  let (fraction, rest) := match rest with
    | '.' :: rest => rest.span Char.isDigit
    | rest => ([], rest)
  let mantissa ← digits? 10 (whole ++ fraction)
  Binary64.ofDecimal? negative mantissa ((← power? rest) - fraction.length)

def infinities : List String :=
  [".inf", ".Inf", ".INF"]

def real? (cs : List Char) : Option Real :=
  if [".nan", ".NaN", ".NAN"].contains (String.ofList cs) then some .notANumber
  else if infinities.contains (String.ofList (dropSign cs)) then some .infinite
  else match cs with
    | '-' :: cs => (decimal? true cs).map .finite
    | '+' :: cs => (decimal? false cs).map .finite
    | cs => (decimal? false cs).map .finite

end AssetSync.Yaml
