/-!
References to environment variables in a text. A reference is a dollar sign and a name in braces;
the text is read once from left to right, so what a value brings in is not read again.
-/

namespace AssetSync

abbrev Environment := List (String × String)

namespace Environment

def isNameStart (c : Char) : Bool :=
  c.isAlpha || c == '_'

def isNameChar (c : Char) : Bool :=
  c.isAlphanum || c == '_'

def bracedName? : List Char → Option (List Char)
  | '\x7b' :: rest =>
    let name := rest.takeWhile isNameChar
    match name, rest.drop name.length with
    | c :: _, '\x7d' :: _ => if isNameStart c then some name else none
    | _, _ => none
  | _ => none

inductive Segment where
  | char (c : Char)
  | reference (name : String)
  deriving DecidableEq

/-- Splits a text of which the first `skip` characters belong to a reference. -/
def segmentsAfter : Nat → List Char → List Segment
  | _, [] => []
  | skip + 1, _ :: rest => segmentsAfter skip rest
  | 0, c :: rest =>
    if c = '$' then
      match bracedName? rest with
      | some name => .reference (String.ofList name) :: segmentsAfter (name.length + 2) rest
      | none => .char c :: segmentsAfter 0 rest
    else .char c :: segmentsAfter 0 rest

def segments (text : List Char) : List Segment :=
  segmentsAfter 0 text

def unsetName? (env : Environment) : Segment → Option String
  | .char _ => none
  | .reference name => if (env.lookup name).isSome then none else some name

def missing (env : Environment) (text : List Char) : List String :=
  ((segments text).filterMap (unsetName? env)).foldl
    (fun names name => if names.contains name then names else names ++ [name]) []

def expansion (env : Environment) : Segment → List Char
  | .char c => [c]
  | .reference name => ((env.lookup name).getD "").toList

def substitute (env : Environment) (text : String) : Except (List String) String :=
  match missing env text.toList with
  | [] => .ok (String.ofList ((segments text.toList).flatMap (expansion env)))
  | names => .error names

def missingMessage (names : List String) : String :=
  "Missing environment variable(s): " ++ ", ".intercalate names

end Environment

end AssetSync
