namespace AssetSync.Json

inductive Fault where
  | eofInValue
  | eofInList
  | eofInObject
  | eofInString
  | expectedColon
  | expectedListCommaOrEnd
  | expectedObjectCommaOrEnd
  | expectedIdentifier
  | expectedValue
  | invalidEscape
  | invalidNumber
  | numberOutOfRange
  | controlCharacter
  | keyNotString
  | loneSurrogate
  | unexpectedEndOfHexEscape
  | trailingComma
  | trailingCharacters
  | tooDeep
  deriving DecidableEq

def Fault.message : Fault → String
  | .eofInValue => "EOF while parsing a value"
  | .eofInList => "EOF while parsing a list"
  | .eofInObject => "EOF while parsing an object"
  | .eofInString => "EOF while parsing a string"
  | .expectedColon => "expected `:`"
  | .expectedListCommaOrEnd => "expected `,` or `]`"
  | .expectedObjectCommaOrEnd => "expected `,` or `\x7d`"
  | .expectedIdentifier => "expected ident"
  | .expectedValue => "expected value"
  | .invalidEscape => "invalid escape"
  | .invalidNumber => "invalid number"
  | .numberOutOfRange => "number out of range"
  | .controlCharacter => "control character (\\u0000-\\u001F) found while parsing a string"
  | .keyNotString => "key must be a string"
  | .loneSurrogate => "lone leading surrogate in hex escape"
  | .unexpectedEndOfHexEscape => "unexpected end of hex escape"
  | .trailingComma => "trailing comma"
  | .trailingCharacters => "trailing characters"
  | .tooDeep => "recursion limit exceeded"

structure Failure where
  fault : Fault
  left : List Char
  ahead : Nat
  deriving DecidableEq

def Failure.here (fault : Fault) (left : List Char) : Failure :=
  ⟨fault, left, 0⟩

def Failure.next (fault : Fault) (left : List Char) : Failure :=
  ⟨fault, left, 1⟩

/-- Lines count from one; a column counts the bytes of its line so far. -/
structure Position where
  line : Nat
  column : Nat
  deriving DecidableEq

namespace Position

def step (p : Position) (c : Char) : Position :=
  if c = '\n' then ⟨p.line + 1, 0⟩ else ⟨p.line, p.column + c.utf8Size⟩

def skip (p : Position) : Nat → List Char → Position
  | _, [] => p
  | bytes, c :: rest =>
    if c.utf8Size ≤ bytes then (p.step c).skip (bytes - c.utf8Size) rest
    else ⟨p.line, p.column + bytes⟩

end Position

structure SyntaxError where
  fault : Fault
  position : Position
  deriving DecidableEq

def Failure.inText (f : Failure) (input : List Char) : SyntaxError :=
  let read := input.take (input.length - f.left.length)
  ⟨f.fault, (read.foldl Position.step ⟨1, 0⟩).skip f.ahead f.left⟩

def SyntaxError.message (e : SyntaxError) : String :=
  e.fault.message ++ " at line " ++ toString e.position.line ++ " column " ++
    toString e.position.column

end AssetSync.Json
