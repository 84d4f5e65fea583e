import AssetSync.Text.Octets
import AssetSync.Yaml.Glyph

namespace AssetSync.Yaml

open Text (Octets)

/-- A tag as it is written: a handle, whose meaning a directive may set, and the octets of a suffix. A
tag that is written out in full has no handle. -/
structure WrittenTag where
  handle : String
  suffix : Octets

inductive Directive where
  | version (major minor : Nat)
  | handle (name : String) (meaning : Octets)

def isUriChar (verbatim : Bool) (g : Glyph) : Bool :=
  g.isWord || ";/?:@&=+$.!~*'()".toList.contains g.char ||
    (verbatim && ",[]".toList.contains g.char)

def octet : Reader UInt8
  | percent :: a :: b :: rest =>
    if percent.char == '%' then (Text.hexOctet? a.char b.char).map (·, rest) else none
  | _ => none

def continuation : Nat → Reader Octets
  | 0, gs => some ([], gs)
  | n + 1, gs => do
    let (next, rest) ← octet gs
    if next.toNat / 64 ≠ 2 then none
    let (more, rest) ← continuation n rest
    return (next :: more, rest)

def followers? (lead : UInt8) : Option Nat :=
  let n := lead.toNat
  if n < 0x80 then some 0
  else if n / 32 = 6 then some 1
  else if n / 16 = 14 then some 2
  else if n / 8 = 30 then some 3
  else none

def spelledChar : Reader Octets := fun gs => do
  let (lead, rest) ← octet gs
  let (more, rest) ← continuation (← followers? lead) rest
  return (lead :: more, rest)

def tagText (verbatim : Bool) : Nat → Reader Octets
  | 0, gs => some ([], gs)
  | _, [] => some ([], [])
  | fuel + 1, g :: rest => do
    if g.char == '%' then
      let (octets, rest) ← spelledChar (g :: rest)
      let (more, left) ← tagText verbatim fuel rest
      return (octets ++ more, left)
    else if isUriChar verbatim g then
      let (more, left) ← tagText verbatim fuel rest
      return (UInt8.ofNat g.char.toNat :: more, left)
    else return ([], g :: rest)

def handle : Reader (List Char)
  | [] => none
  | g :: rest =>
    if g.char ≠ '!' then none
    else
      let (word, left) := rest.span Glyph.isWord
      let closing := if Glyphs.startsWith left '!' then ['!'] else []
      some ('!' :: Glyphs.text word ++ closing, left.drop closing.length)

def isClosed (handle : List Char) : Bool :=
  handle.length > 1 && handle.getLast? == some '!'

def verbatimTag : Reader WrittenTag := fun gs => do
  let (suffix, rest) ← tagText true gs.length gs
  if suffix.isEmpty || !rest.startsWith '>' then none
  return (⟨"", suffix⟩, rest.drop 1)

def shorthandTag : Reader WrittenTag := fun gs => do
  let (start, rest) ← handle gs
  let (suffix, rest) ← tagText false rest.length rest
  if isClosed start then
    if suffix.isEmpty then none
    return (⟨String.ofList start, suffix⟩, rest)
  let suffix := Octets.ofString (String.ofList (start.drop 1)) ++ suffix
  if suffix.beforeZero.isEmpty then return (⟨"", Octets.ofString "!"⟩, rest)
  return (⟨"!", suffix⟩, rest)

def tag (inFlow : Bool) : Reader WrittenTag := fun gs => do
  let (tag, rest) ←
    if Glyphs.startsWith (gs.drop 1) '<' then verbatimTag (gs.drop 2) else shorthandTag gs
  if rest.atWhite || (inFlow && rest.startsWith ',') then return (tag, rest) else none

def anchorName : Reader String := fun gs =>
  let (name, rest) := gs.span Glyph.isWord
  let ends := match rest with
    | g :: _ => g.isWhite || "?:,]\x7d%@`".toList.contains g.char
    | [] => true
  if name.isEmpty || !ends then none else some (String.ofList (Glyphs.text name), rest)

def versionNumber : Reader Nat := fun gs =>
  let (digits, rest) := gs.span (·.char.isDigit)
  if digits.isEmpty || 9 < digits.length then none
  else some (digits.foldl (fun n d => n * 10 + (d.char.toNat - '0'.toNat)) 0, rest)

def versionDirective : Reader Directive := fun gs => do
  let (major, rest) ← versionNumber gs
  if !rest.startsWith '.' then none
  let (minor, rest) ← versionNumber (rest.drop 1)
  return (.version major minor, rest)

def handleDirective : Reader Directive := fun gs => do
  let (name, rest) ← handle gs
  if name ≠ ['!'] ∧ !isClosed name then none
  if rest.isEmpty ∨ !rest.atWhite ∨ rest.atLineEnd then none
  let meaning := rest.skipBlanks
  let (meaning, rest) ← tagText true meaning.length meaning
  if meaning.isEmpty ∨ !rest.atWhite then none
  return (.handle (String.ofList name) meaning, rest)

def directive : Reader Directive := fun gs => do
  let (name, rest) := gs.span Glyph.isWord
  if !Glyphs.atWhite rest then none
  let (directive, rest) ← match String.ofList (Glyphs.text name) with
    | "YAML" => versionDirective (Glyphs.skipBlanks rest)
    | "TAG" => handleDirective (Glyphs.skipBlanks rest)
    | _ => none
  return (directive, ← rest.finishLine)

end AssetSync.Yaml
