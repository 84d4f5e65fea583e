import AssetSync.Yaml.Node
import AssetSync.Yaml.Numeral

/-!
Reading typed values out of YAML nodes. Collections nest at most as deep as a bound given from
outside, and aliases are followed at most a hundred times for each event of the document.
-/

namespace AssetSync.Yaml

open Text (Octets)

/-- A decoder answers nothing for a node that does not fit. It is given how many more collections may
be entered, and its state is how many more aliases may be followed. -/
abbrev Decoder (α : Type) := Document → Nat → Node → StateT Nat Option α

def isNullText (text : String) : Bool :=
  ["null", "Null", "NULL", "~"].contains text

def bool? (text : String) : Option Bool :=
  if ["true", "True", "TRUE"].contains text then some true
  else if ["false", "False", "FALSE"].contains text then some false
  else none

def isLocal (tag : Octets) : Bool :=
  tag.head? == some '!'.toUInt8

def localTag? (tag : Option Octets) : Option String :=
  tag.bind fun tag =>
    if tag == Octets.ofString "!" then some "!"
    else if isLocal tag then Octets.text? (tag.drop 1)
    else none

def integerJson? (cs : List Char) : Option (Option Json) :=
  (integer? cs).bind fun i =>
    if h : -0x8000000000000000 ≤ i ∧ i < 0x10000000000000000 then
      some (some (.num (.integer ⟨i, h.1, h.2⟩)))
    else if -(1 <<< 127 : Nat) ≤ i ∧ i < (1 <<< 128 : Nat) then some none
    else none

def realJson : Real → Json
  | .finite x => .num (.real x)
  | .infinite => .null
  | .notANumber => .null

def plainJson? (text : String) : Option Json :=
  let cs := text.toList
  if text.isEmpty || isNullText text then some .null
  else match bool? text, integerJson? cs with
    | some b, _ => some (.bool b)
    | none, some value => value
    | none, none =>
      match real? cs with
      | some x => some (if hasLeadingZero cs then .str text else realJson x)
      | none => some (.str text)

def scalarJson? (tag : Option Octets) (style : ScalarStyle) (text : String) : Option Json :=
  match tag with
  | none => if style == .plain then plainJson? text else some (.str text)
  | some tag =>
    if (localTag? tag).isSome then none
    else if tag == coreTag "bool" then (bool? text).map .bool
    else if tag == coreTag "int" then (integerJson? text.toList).join
    else if tag == coreTag "float" then (real? text.toList).map realJson
    else if tag == coreTag "null" then if isNullText text then some .null else none
    else if isLocal tag && style == .plain then plainJson? text
    else some (.str text)

namespace Decoder

def follow (document : Document) : Node → StateT Nat Option Node
  | .anchored _ node => pure node
  | .reference anchor => fun left =>
    match left with
    | 0 => none
    | left + 1 => (document.anchors.reverse.lookup anchor).map (·, left)
  | node => pure node

def text : Decoder String := fun document _ node => do
  match ← follow document node with
  | .scalar _ _ text => pure text
  | _ => failure

def count (limit : Nat) : Decoder Nat := fun document _ node => do
  match ← follow document node with
  | .scalar tag style text =>
    if style == .plain || (style == .literal && tag == some (coreTag "int")) then
      match unsigned? text.toList with
      | some n => if n < limit then pure n else failure
      | none => failure
    else failure
  | _ => failure

def option {α : Type} (inner : Decoder α) : Decoder (Option α) := fun document depth node => do
  let node ← follow document node
  match node with
  | .scalar none .plain text =>
    if text.isEmpty || isNullText text then pure none else some <$> inner document depth node
  | .scalar (some tag) .plain text =>
    if tag == coreTag "null" then if isNullText text then pure none else failure
    else some <$> inner document depth node
  | _ => some <$> inner document depth node

def variant {α : Type} (variants : List (String × α)) : Decoder α := fun document _ node => do
  match ← follow document node with
  | .scalar tag style text =>
    let name ← match localTag? tag with
      | none => pure text
      | some name =>
        if style == .plain && (text.isEmpty || isNullText text) then pure name else failure
    variants.lookup name
  | _ => failure

def fields (names : List String) : Decoder (List (String × Node)) := fun document depth node => do
  match ← follow document node, depth with
  | .scalar _ .plain "", _ => pure []
  | .mapping _ pairs, _ + 1 =>
    let pairs ← pairs.mapM fun (k, v) => return (← text document 0 k, v)
    let given := pairs.filter (names.contains ·.1)
    if (given.map Prod.fst).Nodup then pure given else failure
  | _, _ => failure

def requiredField {α : Type} (given : List (String × Node)) (name : String) (inner : Decoder α)
    (document : Document) (depth : Nat) : StateT Nat Option α :=
  match given.lookup name with
  | some node => inner document (depth - 1) node
  | none => failure

def fieldOr {α : Type} (given : List (String × Node)) (name : String) (inner : Decoder α)
    (default : α) (document : Document) (depth : Nat) : StateT Nat Option α :=
  match given.lookup name with
  | some node => inner document (depth - 1) node
  | none => pure default

def json (document : Document) : Nat → Node → StateT Nat Option Json
  | depth, node => do
    match ← follow document node, depth with
    | .scalar tag style text, _ => scalarJson? tag style text
    | .sequence tag items, depth + 1 =>
      if (localTag? tag).isSome then failure
      return .arr (← items.mapM (json document depth))
    | .mapping tag pairs, depth + 1 =>
      if (localTag? tag).isSome then failure
      let fields ← pairs.mapM fun (k, v) =>
        return (← text document 0 k, ← json document depth v)
      return .ofFields fields
    | _, _ => failure

end Decoder

def decode? {α : Type} (decoder : Decoder α) (text : String) : Option α := do
  let document ← Document.ofString? text
  let (value, _) ← (decoder document 128 document.root).run (100 * document.events)
  return value

end AssetSync.Yaml
