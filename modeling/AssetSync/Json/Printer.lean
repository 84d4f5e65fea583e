import AssetSync.Binary64.Shortest
import AssetSync.Json.Basic

namespace AssetSync

namespace Number

def zeros (n : Nat) : List Char :=
  List.replicate n '0'

/-- Digits with a point from 10⁻⁵ up to 10¹⁶, and with a signed power of ten outside that range. -/
def decimalChars (d : Binary64.Decimal) : List Char :=
  let digits := Nat.toDigits 10 d.digits
  let point := digits.length + d.exponent
  if 0 ≤ d.exponent ∧ point ≤ 16 then digits ++ zeros d.exponent.toNat ++ ['.', '0']
  else if 0 < point ∧ point ≤ 16 then
    digits.take point.toNat ++ '.' :: digits.drop point.toNat
  else if -5 < point ∧ point ≤ 0 then '0' :: '.' :: zeros (-point).toNat ++ digits
  else
    let power := point - 1
    let mantissa := if digits.length = 1 then digits else digits.take 1 ++ '.' :: digits.drop 1
    mantissa ++ 'e' :: (if power < 0 then '-' else '+') :: Nat.toDigits 10 power.natAbs

def realChars (x : Binary64) : List Char :=
  if x.negative then '-' :: decimalChars x.shortest else decimalChars x.shortest

def integerChars (i : Integer) : List Char :=
  if i.val < 0 then '-' :: Nat.toDigits 10 i.val.natAbs else Nat.toDigits 10 i.val.natAbs

def chars : Number → List Char
  | .integer i => integerChars i
  | .real x => realChars x

end Number

namespace Json

def hexDigit (n : Nat) : Char :=
  Nat.digitChar (n % 16)

def escapedChar (c : Char) : List Char :=
  match c with
  | '"' => ['\\', '"']
  | '\\' => ['\\', '\\']
  | '\n' => ['\\', 'n']
  | '\r' => ['\\', 'r']
  | '\t' => ['\\', 't']
  | '\x08' => ['\\', 'b']
  | '\x0c' => ['\\', 'f']
  | c =>
    if c.toNat < 0x20 then ['\\', 'u', '0', '0', hexDigit (c.toNat / 16), hexDigit c.toNat]
    else [c]

def stringChars (text : String) : List Char :=
  '"' :: (text.toList.flatMap escapedChar ++ ['"'])

mutual

def charsOnto : Json → List Char → List Char
  | .null, rest => 'n' :: 'u' :: 'l' :: 'l' :: rest
  | .bool true, rest => 't' :: 'r' :: 'u' :: 'e' :: rest
  | .bool false, rest => 'f' :: 'a' :: 'l' :: 's' :: 'e' :: rest
  | .num n, rest => n.chars ++ rest
  | .str text, rest => stringChars text ++ rest
  | .arr [], rest => '[' :: ']' :: rest
  | .arr (item :: items), rest => '[' :: charsOnto item (itemsOnto items rest)
  | .obj [], rest => '{' :: '}' :: rest
  | .obj ((name, value) :: fields), rest =>
    '{' :: (stringChars name ++ ':' :: charsOnto value (fieldsOnto fields rest))

def itemsOnto : List Json → List Char → List Char
  | [], rest => ']' :: rest
  | item :: items, rest => ',' :: charsOnto item (itemsOnto items rest)

def fieldsOnto : List (String × Json) → List Char → List Char
  | [], rest => '}' :: rest
  | (name, value) :: fields, rest =>
    ',' :: (stringChars name ++ ':' :: charsOnto value (fieldsOnto fields rest))

end

def chars (json : Json) : List Char :=
  charsOnto json []

def text (json : Json) : String :=
  String.ofList json.chars

end Json

end AssetSync
