import AssetSync.Json.Numeral
import AssetSync.Text.Hex

/-!
Reading JSON texts. Containers nest at most 127 levels deep; of fields with one name the last
counts.
-/

namespace AssetSync.Json

open Text (hexValue?)

def isJsonBlank (c : Char) : Bool :=
  c == ' ' || c == '\n' || c == '\t' || c == '\r'

def skipBlanks (input : List Char) : List Char :=
  input.dropWhile isJsonBlank

def hexUnit? (a b c d : Char) : Option Nat := do
  some (((← hexValue? a) * 16 + (← hexValue? b)) * 256 + (← hexValue? c) * 16 + (← hexValue? d))

def byteLength (cs : List Char) : Nat :=
  cs.foldl (fun n c => n + c.utf8Size) 0

def hexUnit (input : List Char) : Except Failure Nat :=
  let digits := input.take 4
  match digits with
  | [a, b, c, d] =>
    match hexUnit? a b c d with
    | some unit => .ok unit
    | none => .error ⟨.invalidEscape, input, 4⟩
  | _ =>
    if byteLength digits < 4 then .error (.here .eofInString [])
    else .error ⟨.invalidEscape, input, 4⟩

def lowSurrogate (high : Nat) (input : List Char) : Except Failure Char := do
  match input with
  | [] => .error (.here .eofInString [])
  | '\\' :: [] => .error (.here .eofInString [])
  | '\\' :: 'u' :: rest =>
    let low ← hexUnit rest
    if low < 0xdc00 ∨ 0xdfff < low then .error (.here .loneSurrogate (rest.drop 4))
    else .ok (Char.ofNat (0x10000 + (high - 0xd800) * 0x400 + (low - 0xdc00)))
  | '\\' :: rest => .error (.next .unexpectedEndOfHexEscape rest)
  | rest => .error (.next .unexpectedEndOfHexEscape rest)

def escape (input : List Char) : Except Failure (Char × Nat) :=
  match input with
  | [] => .error (.here .eofInString [])
  | '"' :: _ => .ok ('"', 1)
  | '\\' :: _ => .ok ('\\', 1)
  | '/' :: _ => .ok ('/', 1)
  | 'b' :: _ => .ok ('\x08', 1)
  | 'f' :: _ => .ok ('\x0c', 1)
  | 'n' :: _ => .ok ('\n', 1)
  | 'r' :: _ => .ok ('\r', 1)
  | 't' :: _ => .ok ('\t', 1)
  | 'u' :: rest => do
    let unit ← hexUnit rest
    if 0xdc00 ≤ unit ∧ unit ≤ 0xdfff then .error (.here .loneSurrogate (rest.drop 4))
    else if 0xd800 ≤ unit ∧ unit ≤ 0xdbff then
      let c ← lowSurrogate unit (rest.drop 4)
      .ok (c, 11)
    else .ok (Char.ofNat unit, 5)
  | rest => .error (.next .invalidEscape rest)

/-- Reads a string after its opening quote. The first `skip` characters belong to an escape whose
character is read already. -/
def stringBody (read : List Char) : Nat → List Char → Except Failure (String × List Char)
  | _, [] => .error (.here .eofInString [])
  | skip + 1, _ :: rest => stringBody read skip rest
  | 0, '"' :: rest => .ok (String.ofList read.reverse, rest)
  | 0, '\\' :: rest =>
    match escape rest with
    | .ok (c, length) => stringBody (c :: read) length rest
    | .error failure => .error failure
  | 0, c :: rest =>
    if c.toNat < 0x20 then .error (.next .controlCharacter (c :: rest))
    else stringBody (c :: read) 0 rest

def string : Reader String :=
  stringBody [] 0

def word (value : Json) : List Char → Reader Json
  | [], rest => .ok (value, rest)
  | _ :: _, [] => .error (.here .eofInValue [])
  | expected :: letters, c :: rest =>
    if c = expected then word value letters rest
    else .error (.next .expectedIdentifier (c :: rest))

def arrayItems (item : Reader Json) : Nat → List Json → Reader Json
  | 0, _, _ => .error (.here .eofInList [])
  | fuel + 1, items, input => do
    let (value, rest) ← item input
    match skipBlanks rest with
    | [] => .error (.here .eofInList [])
    | ']' :: rest => .ok (.arr (value :: items).reverse, rest)
    | ',' :: rest =>
      match skipBlanks rest with
      | [] => .error (.here .eofInValue [])
      | ']' :: rest => .error (.next .trailingComma (']' :: rest))
      | next => arrayItems item fuel (value :: items) next
    | rest => .error (.next .expectedListCommaOrEnd rest)

def array (item : Reader Json) : Reader Json := fun input =>
  match skipBlanks input with
  | [] => .error (.here .eofInList [])
  | ']' :: rest => .ok (.arr [], rest)
  | next => arrayItems item next.length [] next

def fieldName : Reader String
  | [] => .error (.here .eofInValue [])
  | '"' :: rest => string rest
  | rest => .error (.next .keyNotString rest)

def fieldValue (item : Reader Json) : Reader Json := fun input =>
  match skipBlanks input with
  | [] => .error (.here .eofInObject [])
  | ':' :: rest => item rest
  | rest => .error (.next .expectedColon rest)

def objectFields (item : Reader Json) : Nat → List (String × Json) → Reader Json
  | 0, _, _ => .error (.here .eofInObject [])
  | fuel + 1, fields, input => do
    let (name, rest) ← fieldName input
    let (value, rest) ← fieldValue item rest
    match skipBlanks rest with
    | [] => .error (.here .eofInObject [])
    | '\x7d' :: rest => .ok (.ofFields ((name, value) :: fields).reverse, rest)
    | ',' :: rest =>
      match skipBlanks rest with
      | '\x7d' :: rest => .error (.next .trailingComma ('\x7d' :: rest))
      | next => objectFields item fuel ((name, value) :: fields) next
    | rest => .error (.next .expectedObjectCommaOrEnd rest)

def object (item : Reader Json) : Reader Json := fun input =>
  match skipBlanks input with
  | [] => .error (.here .eofInObject [])
  | '\x7d' :: rest => .ok (.obj [], rest)
  | next => objectFields item next.length [] next

def number (negative : Bool) : Reader Json := fun input => do
  let (n, rest) ← magnitude negative input
  .ok (.num n, rest)

def value (depth : Nat) : Reader Json := fun input =>
  match skipBlanks input with
  | [] => .error (.here .eofInValue [])
  | 'n' :: rest => word .null ['u', 'l', 'l'] rest
  | 't' :: rest => word (.bool true) ['r', 'u', 'e'] rest
  | 'f' :: rest => word (.bool false) ['a', 'l', 's', 'e'] rest
  | '-' :: rest => number true rest
  | '"' :: rest => (string rest).map fun (text, rest) => (.str text, rest)
  | '[' :: rest =>
    match depth with
    | 0 => .error (.next .tooDeep ('[' :: rest))
    | depth + 1 => array (value depth) rest
  | '\x7b' :: rest =>
    match depth with
    | 0 => .error (.next .tooDeep ('\x7b' :: rest))
    | depth + 1 => object (value depth) rest
  | c :: rest =>
    if c.isDigit then number false (c :: rest) else .error (.next .expectedValue (c :: rest))

def maxDepth : Nat := 127

def readChars (input : List Char) : Except Failure Json := do
  let (json, rest) ← value maxDepth input
  match skipBlanks rest with
  | [] => .ok json
  | rest => .error (.next .trailingCharacters rest)

def parse (text : String) : Except SyntaxError Json :=
  (readChars text.toList).mapError (·.inText text.toList)

end AssetSync.Json
