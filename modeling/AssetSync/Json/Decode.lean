import AssetSync.Json.Printer
import AssetSync.Text.Quoted

/-!
Reading typed values out of JSON values. A record is given as an object or as the array of its
fields. In an object the fields are looked at in their order and the first bad one is reported; a
missing field is reported only when all given ones are good.
-/

namespace AssetSync.Json

inductive Kind where
  | null
  | boolean (value : Bool)
  | integer (value : Integer)
  | real (value : Binary64)
  | string (value : String)
  | sequence
  | map
  deriving DecidableEq

inductive DecodeError where
  | missingField (name : String)
  | unknownField (name : String) (known : List String)
  | unknownVariant (name : String) (known : List String)
  | invalidType (found : Kind) (expected : String)
  | invalidValue (found : Kind) (expected : String)
  | invalidLength (length : Nat) (expected : String)
  deriving DecidableEq

def kind : Json → Kind
  | .null => .null
  | .bool b => .boolean b
  | .num (.integer i) => .integer i
  | .num (.real x) => .real x
  | .str s => .string s
  | .arr _ => .sequence
  | .obj _ => .map

def ticked (text : String) : String :=
  "`" ++ text ++ "`"

def Kind.text : Kind → String
  | .null => "null"
  | .boolean b => "boolean " ++ ticked (if b then "true" else "false")
  | .integer i => "integer " ++ ticked (String.ofList (Number.integerChars i))
  | .real x => "floating point " ++ ticked (String.ofList (Number.realChars x))
  | .string s => "string " ++ Text.quoted s
  | .sequence => "sequence"
  | .map => "map"

def alternatives : List String → String
  | [] => "there are no fields"
  | [a] => "expected " ++ ticked a
  | [a, b] => "expected " ++ ticked a ++ " or " ++ ticked b
  | names => "expected one of " ++ ", ".intercalate (names.map ticked)

def DecodeError.message : DecodeError → String
  | .missingField name => "missing field " ++ ticked name
  | .unknownField name known => "unknown field " ++ ticked name ++ ", " ++ alternatives known
  | .unknownVariant name known => "unknown variant " ++ ticked name ++ ", " ++ alternatives known
  | .invalidType found expected => "invalid type: " ++ found.text ++ ", expected " ++ expected
  | .invalidValue found expected => "invalid value: " ++ found.text ++ ", expected " ++ expected
  | .invalidLength length expected =>
    "invalid length " ++ toString length ++ ", expected " ++ expected

abbrev Decoder (α : Type) := Json → Except DecodeError α

namespace Decoder

def any : Decoder Json := .ok

def text (expected : String) : Decoder String
  | .str s => .ok s
  | other => .error (.invalidType other.kind expected)

def string : Decoder String := text "a string"

def count (limit : Nat) (expected : String) : Decoder Nat
  | .num (.integer i) =>
    match i.toNat? with
    | some n => if n < limit then .ok n else .error (.invalidValue (.integer i) expected)
    | none => .error (.invalidValue (.integer i) expected)
  | other => .error (.invalidType other.kind expected)

def uint32 : Decoder UInt32 := fun json =>
  (count UInt32.size "u32" json).map UInt32.ofNat

def uint64 : Decoder UInt64 := fun json =>
  (count UInt64.size "u64" json).map UInt64.ofNat

def size : Decoder Nat :=
  count UInt64.size "usize"

def option {α : Type} (inner : Decoder α) : Decoder (Option α)
  | .null => .ok none
  | json => (inner json).map some

def list {α : Type} (inner : Decoder α) : Decoder (List α)
  | .arr items => items.mapM inner
  | other => .error (.invalidType other.kind "a sequence")

def find {α : Type} (variants : List (String × α)) (name : String) : Except DecodeError α :=
  match variants.lookup name with
  | some value => .ok value
  | none => .error (.unknownVariant name (variants.map Prod.fst))

/-- One of several names, alone or as the only field of an object, with null as its value. -/
def variant {α : Type} (variants : List (String × α)) : Decoder α
  | .str name => find variants name
  | .obj [(name, payload)] => do
    let value ← find variants name
    if payload.isNull then .ok value else .error (.invalidType payload.kind "unit")
  | .obj _ => .error (.invalidValue .map "map with a single key")
  | other => .error (.invalidType other.kind "string or map")

end Decoder

structure Field where
  name : String
  optional : Bool
  check : Decoder Unit

def Field.required {α : Type} (name : String) (decode : Decoder α) : Field :=
  ⟨name, false, fun json => (decode json).map fun _ => ()⟩

def Field.defaulted {α : Type} (name : String) (decode : Decoder α) : Field :=
  ⟨name, true, fun json => (decode json).map fun _ => ()⟩

structure Shape where
  name : String
  fields : List Field
  closed : Bool

namespace Shape

def size (shape : Shape) : String :=
  "struct " ++ shape.name ++ " with " ++ toString shape.fields.length ++
    (if shape.fields.length = 1 then " element" else " elements")

def checkGiven (shape : Shape) : List (String × Json) → Except DecodeError Unit
  | [] => .ok ()
  | (name, value) :: rest => do
    match shape.fields.find? (·.name == name) with
    | some field => field.check value
    | none => if shape.closed then .error (.unknownField name (shape.fields.map Field.name))
    checkGiven shape rest

def checkMissing (given : List (String × Json)) : List Field → Except DecodeError Unit
  | [] => .ok ()
  | field :: rest =>
    if field.optional || (given.lookup field.name).isSome then checkMissing given rest
    else .error (.missingField field.name)

def nameItems (shape : Shape) (total : Nat) : Nat → List Field → List Json →
    Except DecodeError (List (String × Json))
  | _, [], [] => .ok []
  | _, [], _ :: _ => .error (.invalidLength total "fewer elements in array")
  | index, field :: fields, [] =>
    if field.optional then nameItems shape total (index + 1) fields []
    else .error (.invalidLength index shape.size)
  | index, field :: fields, item :: items => do
    field.check item
    .ok ((field.name, item) :: (← nameItems shape total (index + 1) fields items))

def given (shape : Shape) : Decoder (List (String × Json))
  | .obj fields => do
    checkGiven shape fields
    checkMissing fields shape.fields
    .ok fields
  | .arr items => nameItems shape items.length 0 shape.fields items
  | other => .error (.invalidType other.kind ("struct " ++ shape.name))

end Shape

def requiredField {α : Type} (given : List (String × Json)) (name : String) (decode : Decoder α) :
    Except DecodeError α :=
  match given.lookup name with
  | some value => decode value
  | none => .error (.missingField name)

def fieldOr {α : Type} (given : List (String × Json)) (name : String) (decode : Decoder α)
    (default : α) : Except DecodeError α :=
  match given.lookup name with
  | some value => decode value
  | none => .ok default

end AssetSync.Json
