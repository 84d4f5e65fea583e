import AssetSync.Yaml.Block
import AssetSync.Yaml.Tag
import AssetSync.Yaml.Words

/-!
The tokens of a YAML text. What begins like a key is known to be one only at the colon behind it, so
the place before a possible key is remembered, and its tokens are put in there later.
-/

namespace AssetSync.Yaml

inductive ScalarStyle where
  | plain
  | quoted
  | literal
  | folded
  deriving DecidableEq

inductive Token where
  | directive (directive : Directive)
  | documentStart
  | documentEnd
  | blockSequenceStart
  | blockMappingStart
  | blockEnd
  | flowSequenceStart
  | flowSequenceEnd
  | flowMappingStart
  | flowMappingEnd
  | blockEntry
  | flowEntry
  | key
  | value
  | reference (anchor : Nat)
  | anchor (anchor : Nat)
  | tag (tag : WrittenTag)
  | scalar (style : ScalarStyle) (text : String)

/-- A place where a key may have begun, and the number of tokens before it. A key that begins at the
margin of its collection has to be one. -/
structure PossibleKey where
  start : Glyph
  position : Nat
  required : Bool

structure Scan where
  found : Array Token
  margins : List Nat
  possibleKey : Option PossibleKey
  outerKeys : List (Option PossibleKey)
  keyAllowed : Bool
  anchors : List (String × Nat)

namespace Scan

def start : Scan :=
  ⟨#[], [], none, [], true, []⟩

def inFlow (s : Scan) : Bool :=
  !s.outerKeys.isEmpty

def floor (s : Scan) : Nat :=
  match s.margins with
  | margin :: _ => margin + 1
  | [] => 0

def push (s : Scan) (token : Token) : Scan :=
  { s with found := s.found.push token }

def dropKey (s : Scan) : Option Scan :=
  match s.possibleKey with
  | some key => if key.required then none else some { s with possibleKey := none }
  | none => some s

def offerKey (s : Scan) (g : Glyph) : Option Scan :=
  if s.keyAllowed then
    s.dropKey.map fun s =>
      { s with possibleKey := some ⟨g, s.found.size, !s.inFlow && s.margins.head? == some g.column⟩ }
  else some s

/-- A key stays on one line and within 1024 characters. -/
def isStale (g : Glyph) (key : PossibleKey) : Bool :=
  key.start.line < g.line || key.start.offset + 1024 < g.offset

def dropStaleKeys (s : Scan) (g : Glyph) : Option Scan :=
  let keep (key : Option PossibleKey) : Option PossibleKey := key.filter (!isStale g ·)
  let lost (key : Option PossibleKey) : Bool := key.any fun key => isStale g key && key.required
  if (s.possibleKey :: s.outerKeys).any lost then none
  else some { s with possibleKey := keep s.possibleKey, outerKeys := s.outerKeys.map keep }

def openBlock (s : Scan) (token : Token) (column position : Nat) : Scan :=
  if !s.inFlow && s.floor ≤ column then
    { s with
      margins := column :: s.margins
      found := s.found.insertIdxIfInBounds position token }
  else s

def closeBlocks (s : Scan) (closes : Nat → Bool) : Scan :=
  if s.inFlow then s
  else
    let closed := s.margins.takeWhile closes
    { s with
      margins := s.margins.drop closed.length
      found := s.found ++ Array.replicate closed.length Token.blockEnd }

def endBlocks (s : Scan) : Option Scan :=
  (s.closeBlocks fun _ => true).dropKey.map ({ · with keyAllowed := false })

def openFlow (s : Scan) (g : Glyph) (token : Token) : Option Scan :=
  (s.offerKey g).map fun s =>
    { s.push token with
      possibleKey := none
      outerKeys := s.possibleKey :: s.outerKeys
      keyAllowed := true }

def closeFlow (s : Scan) (token : Token) : Option Scan :=
  s.dropKey.map fun s =>
    let s := { s.push token with keyAllowed := false }
    match s.outerKeys with
    | key :: outer => { s with possibleKey := key, outerKeys := outer }
    | [] => s

def separate (s : Scan) : Option Scan :=
  s.dropKey.map ({ ·.push .flowEntry with keyAllowed := true })

def blockEntry (s : Scan) (g : Glyph) : Option Scan :=
  if !s.inFlow && !s.keyAllowed then none
  else
    (s.openBlock .blockSequenceStart g.column s.found.size).dropKey.map
      ({ ·.push .blockEntry with keyAllowed := true })

def key (s : Scan) (g : Glyph) : Option Scan :=
  if !s.inFlow && !s.keyAllowed then none
  else
    (s.openBlock .blockMappingStart g.column s.found.size).dropKey.map fun s =>
      { s.push .key with keyAllowed := !s.inFlow }

def value (s : Scan) (g : Glyph) : Option Scan :=
  match s.possibleKey with
  | some key =>
    let s := { s with
      found := s.found.insertIdxIfInBounds key.position Token.key
      possibleKey := none
      keyAllowed := false }
    some ((s.openBlock .blockMappingStart key.start.column key.position).push .value)
  | none =>
    if !s.inFlow && !s.keyAllowed then none
    else
      let s := s.openBlock .blockMappingStart g.column s.found.size
      some { s.push .value with keyAllowed := !s.inFlow }

/-- The number of a new anchor is how many names were known before it. -/
def nameAnchor (s : Scan) (name : String) : Scan :=
  let number := s.anchors.length
  { s.push (.anchor number) with anchors := (name, number) :: s.anchors.filter (·.1 ≠ name) }

def useAnchor (s : Scan) (name : String) : Option Scan :=
  (s.anchors.lookup name).map fun number => s.push (.reference number)

def content (s : Scan) (g : Glyph) : Option Scan :=
  (s.offerKey g).map ({ · with keyAllowed := false })

def plainScalar (s : Scan) (g : Glyph) (gs : Glyphs) : Option (Scan × Glyphs) := do
  let s ← s.content g
  let (plain, rest) ← plain s.inFlow s.floor gs.length gs
  let s := s.push (.scalar .plain (String.ofList plain.text))
  return ({ s with keyAllowed := plain.endsLine }, rest)

def quotedScalar (s : Scan) (g : Glyph) (gs : Glyphs) : Option (Scan × Glyphs) := do
  let s ← s.content g
  let (text, rest) ← quoted g.char (gs.length + 1) gs
  return (s.push (.scalar .quoted (String.ofList text)), rest)

def blockScalar (s : Scan) (folds : Bool) (gs : Glyphs) : Option (Scan × Glyphs) := do
  let s ← s.dropKey
  let (text, rest) ← block folds s.floor gs
  let style := if folds then .folded else .literal
  return ({ s.push (.scalar style (String.ofList text)) with keyAllowed := true }, rest)

def startsPlain (s : Scan) (g : Glyph) (rest : Glyphs) : Bool :=
  let beforeBlank := match rest with
    | next :: _ => next.isBlank
    | [] => false
  !(g.isWhite || "-?:,[]\x7b\x7d#&*!|>'\"%@`".toList.contains g.char) ||
    (g.char == '-' && !beforeBlank) ||
    (!s.inFlow && (g.char == '?' || g.char == ':') && !rest.atWhite)

def token (s : Scan) (g : Glyph) (rest : Glyphs) : Option (Scan × Glyphs) := do
  let gs : Glyphs := g :: rest
  let plain (s : Scan) : Option (Scan × Glyphs) :=
    if s.startsPlain g rest then s.plainScalar g gs else none
  if g.column == 0 && g.char == '%' then
    let s ← s.endBlocks
    let (directive, rest) ← directive rest
    return (s.push (.directive directive), rest)
  if gs.atMarker '-' then
    return ((← s.endBlocks).push .documentStart, gs.drop 3)
  if gs.atMarker '.' then
    return ((← s.endBlocks).push .documentEnd, gs.drop 3)
  match g.char with
  | '[' => return (← s.openFlow g .flowSequenceStart, rest)
  | '{' => return (← s.openFlow g .flowMappingStart, rest)
  | ']' => return (← s.closeFlow .flowSequenceEnd, rest)
  | '}' => return (← s.closeFlow .flowMappingEnd, rest)
  | ',' => return (← s.separate, rest)
  | '-' => if rest.atWhite then return (← s.blockEntry g, rest) else plain s
  | '?' => if s.inFlow || rest.atWhite then return (← s.key g, rest) else plain s
  | ':' => if s.inFlow || rest.atWhite then return (← s.value g, rest) else plain s
  | '*' =>
    let s ← s.content g
    let (name, rest) ← anchorName rest
    return (← s.useAnchor name, rest)
  | '&' =>
    let s ← s.content g
    let (name, rest) ← anchorName rest
    return (s.nameAnchor name, rest)
  | '!' =>
    let s ← s.content g
    let (tag, rest) ← tag s.inFlow gs
    return (s.push (.tag tag), rest)
  | '|' => if s.inFlow then none else s.blockScalar false rest
  | '>' => if s.inFlow then none else s.blockScalar true rest
  | '\'' => s.quotedScalar g rest
  | '"' => s.quotedScalar g rest
  | _ => plain s

/-- Skips white space and comments. Outside brackets a line break allows a key, and where a key is
allowed a tab is no white space. A byte order mark is skipped at the start of a line, where it takes
up a column. -/
def skipWhite (inFlow : Bool) : Bool → Bool → Glyphs → Bool × Glyphs
  | keyAllowed, _, [] => (keyAllowed, [])
  | keyAllowed, inComment, g :: rest =>
    if g.isBreak then skipWhite inFlow (keyAllowed || !inFlow) false rest
    else if inComment || g.char == ' ' || (g.char == '\t' && (inFlow || !keyAllowed)) ||
        (g.char == '\ufeff' && g.column == 0) then
      skipWhite inFlow keyAllowed inComment rest
    else if g.char == '#' then skipWhite inFlow keyAllowed true rest
    else (keyAllowed, g :: rest)

def run : Nat → Scan → Glyphs → Option (Array Token)
  | 0, _, _ => none
  | fuel + 1, s, gs =>
    let (keyAllowed, gs) := skipWhite s.inFlow s.keyAllowed false gs
    let s := { s with keyAllowed }
    match gs with
    | [] => s.endBlocks.map Scan.found
    | g :: rest => do
      let s ← s.dropStaleKeys g
      let (s, left) ← (s.closeBlocks (g.column < ·)).token g rest
      run fuel s left

end Scan

namespace Token

def ofGlyphs? (gs : Glyphs) : Option (List Token) :=
  (Scan.start.run (gs.length + 1) gs).map Array.toList

end Token

end AssetSync.Yaml
