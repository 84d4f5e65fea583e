import AssetSync.Yaml.Token

namespace AssetSync.Yaml

open Text (Octets)

inductive Node where
  | reference (anchor : Nat)
  | anchored (anchor : Nat) (node : Node)
  | scalar (tag : Option Octets) (style : ScalarStyle) (text : String)
  | sequence (tag : Option Octets) (items : List Node)
  | mapping (tag : Option Octets) (pairs : List (Node × Node))
  deriving Inhabited

namespace Node

def empty : Node :=
  .scalar none .plain ""

theorem sizeOf_lt_of_mem_pairs {k v : Node} {pairs : List (Node × Node)} (h : (k, v) ∈ pairs) :
    sizeOf k < sizeOf pairs ∧ sizeOf v < sizeOf pairs := by
  have := List.sizeOf_lt_of_mem h
  simp only [Prod.mk.sizeOf_spec] at this
  omega

def anchors : Node → List (Nat × Node)
  | reference _ => []
  | anchored anchor node => (anchor, node) :: node.anchors
  | scalar _ _ _ => []
  | sequence _ items => items.attach.flatMap fun ⟨item, _⟩ => item.anchors
  | mapping _ pairs => pairs.attach.flatMap fun ⟨(k, v), h⟩ =>
    have := sizeOf_lt_of_mem_pairs h
    k.anchors ++ v.anchors

def events : Node → Nat
  | reference _ => 1
  | anchored _ node => node.events
  | scalar _ _ _ => 1
  | sequence _ items => items.attach.foldl (fun n ⟨item, _⟩ => n + item.events) 2
  | mapping _ pairs => pairs.attach.foldl (fun n ⟨(k, v), h⟩ =>
    have := sizeOf_lt_of_mem_pairs h
    n + k.events + v.events) 2

end Node

abbrev Handles := List (String × Octets)

def coreTag (name : String) : Octets :=
  Octets.ofString ("tag:yaml.org,2002:" ++ name)

namespace Handles

def standard : Handles :=
  [("!", Octets.ofString "!"), ("!!", coreTag "")]

def resolve (handles : Handles) (tag : WrittenTag) : Option Octets :=
  if tag.handle.isEmpty then some tag.suffix.beforeZero
  else (handles.lookup tag.handle).map fun meaning => meaning.beforeZero ++ tag.suffix.beforeZero

end Handles

abbrev Tokens := List Token

abbrev TokenReader (α : Type) := Tokens → Option (α × Tokens)

structure Properties where
  anchor : Option Nat
  tag : Option Octets

namespace Properties

def isEmpty (p : Properties) : Bool :=
  p.anchor.isNone && p.tag.isNone

def apply (p : Properties) (node : Node) : Node :=
  match p.anchor with
  | some anchor => .anchored anchor node
  | none => node

def read (handles : Handles) : TokenReader Properties
  | .anchor a :: .tag t :: rest => (handles.resolve t).map fun t => (⟨some a, some t⟩, rest)
  | .tag t :: .anchor a :: rest => (handles.resolve t).map fun t => (⟨some a, some t⟩, rest)
  | .anchor a :: rest => some (⟨some a, none⟩, rest)
  | .tag t :: rest => (handles.resolve t).map fun t => (⟨none, some t⟩, rest)
  | rest => some (⟨none, none⟩, rest)

end Properties

/-- Where a node stands: in a block collection, there perhaps with a sequence that is not indented,
or inside brackets. -/
inductive Place where
  | block
  | blockPair
  | flow
  deriving DecidableEq

def endsBlockPair : Tokens → Bool
  | .key :: _ | .value :: _ | .blockEnd :: _ => true
  | _ => false

mutual

def node (handles : Handles) (place : Place) : Nat → TokenReader Node
  | 0, _ => none
  | _, .reference anchor :: rest => some (.reference anchor, rest)
  | fuel + 1, tokens => do
    let (p, tokens) ← Properties.read handles tokens
    match tokens with
    | .scalar style text :: rest =>
      return (p.apply (.scalar p.tag style text), rest)
    | .flowSequenceStart :: rest =>
      let (items, rest) ← flowItems handles true fuel rest
      return (p.apply (.sequence p.tag items), rest)
    | .flowMappingStart :: rest =>
      let (pairs, rest) ← flowPairs handles true fuel rest
      return (p.apply (.mapping p.tag pairs), rest)
    | .blockSequenceStart :: rest =>
      if place == .flow then none
      let (items, rest) ← blockItems handles fuel rest
      return (p.apply (.sequence p.tag items), rest)
    | .blockMappingStart :: rest =>
      if place == .flow then none
      let (pairs, rest) ← blockPairs handles fuel rest
      return (p.apply (.mapping p.tag pairs), rest)
    | .blockEntry :: _ =>
      if place == .blockPair then
        let (items, rest) ← alignedItems handles fuel tokens
        return (p.apply (.sequence p.tag items), rest)
      else if p.isEmpty then none
      else return (p.apply (.scalar p.tag .plain ""), tokens)
    | _ => if p.isEmpty then none else return (p.apply (.scalar p.tag .plain ""), tokens)

def blockItems (handles : Handles) : Nat → TokenReader (List Node)
  | _, .blockEnd :: rest => some ([], rest)
  | fuel + 1, .blockEntry :: rest => do
    let (item, rest) ← match rest with
      | .blockEntry :: _ | .blockEnd :: _ => some (.empty, rest)
      | _ => node handles .block fuel rest
    let (items, rest) ← blockItems handles fuel rest
    return (item :: items, rest)
  | _, _ => none

def alignedItems (handles : Handles) : Nat → TokenReader (List Node)
  | fuel + 1, .blockEntry :: rest => do
    let (item, rest) ←
      if endsBlockPair rest then some (.empty, rest)
      else match rest with
        | .blockEntry :: _ => some (.empty, rest)
        | _ => node handles .block fuel rest
    let (items, rest) ← alignedItems handles fuel rest
    return (item :: items, rest)
  | _, rest => some ([], rest)

def blockPairs (handles : Handles) : Nat → TokenReader (List (Node × Node))
  | _, .blockEnd :: rest => some ([], rest)
  | fuel + 1, tokens => do
    let (k, tokens) ← match tokens with
      | .key :: rest =>
        if endsBlockPair rest then some (.empty, rest) else node handles .blockPair fuel rest
      | _ => none
    let (v, tokens) ← match tokens with
      | .value :: rest =>
        if endsBlockPair rest then some (.empty, rest) else node handles .blockPair fuel rest
      | _ => some (.empty, tokens)
    let (pairs, rest) ← blockPairs handles fuel tokens
    return ((k, v) :: pairs, rest)
  | _, _ => none

def flowItems (handles : Handles) (first : Bool) : Nat → TokenReader (List Node)
  | _, .flowSequenceEnd :: rest => some ([], rest)
  | fuel + 1, tokens => do
    let tokens ← match first, tokens with
      | true, _ => some tokens
      | false, .flowEntry :: rest => some rest
      | false, _ => none
    match tokens with
    | .flowSequenceEnd :: rest => return ([], rest)
    | .key :: rest =>
      let (pair, rest) ← flowItemPair handles fuel rest
      let (items, rest) ← flowItems handles false fuel rest
      return (.mapping none [pair] :: items, rest)
    | _ =>
      let (item, rest) ← node handles .flow fuel tokens
      let (items, rest) ← flowItems handles false fuel rest
      return (item :: items, rest)
  | _, _ => none

def flowItemPair (handles : Handles) : Nat → TokenReader (Node × Node)
  | 0, _ => none
  | fuel + 1, tokens => do
    let (k, tokens) ← match tokens with
      | .value :: rest | .flowEntry :: rest | .flowSequenceEnd :: rest => some (.empty, rest)
      | _ => node handles .flow fuel tokens
    match tokens with
    | .value :: rest =>
      match rest with
      | .flowEntry :: _ | .flowSequenceEnd :: _ => return ((k, .empty), rest)
      | _ =>
        let (v, rest) ← node handles .flow fuel rest
        return ((k, v), rest)
    | _ => return ((k, .empty), tokens)

def flowPairs (handles : Handles) (first : Bool) : Nat → TokenReader (List (Node × Node))
  | _, .flowMappingEnd :: rest => some ([], rest)
  | fuel + 1, tokens => do
    let tokens ← match first, tokens with
      | true, _ => some tokens
      | false, .flowEntry :: rest => some rest
      | false, _ => none
    match tokens with
    | .flowMappingEnd :: rest => return ([], rest)
    | .key :: rest =>
      let (k, rest) ← match rest with
        | .value :: _ | .flowEntry :: _ | .flowMappingEnd :: _ => some (.empty, rest)
        | _ => node handles .flow fuel rest
      let (v, rest) ← match rest with
        | .value :: rest =>
          match rest with
          | .flowEntry :: _ | .flowMappingEnd :: _ => some (.empty, rest)
          | _ => node handles .flow fuel rest
        | _ => some (.empty, rest)
      let (pairs, rest) ← flowPairs handles false fuel rest
      return ((k, v) :: pairs, rest)
    | _ =>
      let (k, rest) ← node handles .flow fuel tokens
      let (pairs, rest) ← flowPairs handles false fuel rest
      return ((k, .empty) :: pairs, rest)
  | _, _ => none

end

structure Document where
  root : Node
  anchors : List (Nat × Node)
  events : Nat

namespace Document

def directives (hasVersion : Bool) (handles : Handles) : TokenReader Handles
  | .directive (.version major minor) :: rest =>
    if hasVersion ∨ major ≠ 1 ∨ (minor ≠ 1 ∧ minor ≠ 2) then none
    else directives true handles rest
  | .directive (.handle name meaning) :: rest =>
    if (handles.lookup name).isSome then none
    else directives hasVersion ((name, meaning) :: handles) rest
  | rest => some (handles ++ .standard, rest)

def content (handles : Handles) : TokenReader Node := fun tokens =>
  match tokens with
  | [] | .directive _ :: _ | .documentStart :: _ | .documentEnd :: _ => some (.empty, tokens)
  | _ => node handles .block (2 * tokens.length + 2) tokens

def first (tokens : Tokens) : Option (Node × Tokens) :=
  match tokens with
  | [] => none
  | .directive _ :: _ => do
    let (handles, rest) ← directives false [] tokens
    match rest with
    | .documentStart :: rest => content handles rest
    | _ => none
  | .documentStart :: rest => content .standard rest
  | _ => node .standard .block (2 * tokens.length + 2) tokens

def isDocumentEnd : Token → Bool
  | .documentEnd => true
  | _ => false

def ofString? (text : String) : Option Document := do
  let (root, rest) ← first (← Token.ofGlyphs? (← Glyphs.ofString text))
  if !rest.all isDocumentEnd then none
  return ⟨root, root.anchors, root.events⟩

end Document

end AssetSync.Yaml
