/-!
The characters of a YAML text with their places. A line break of any spelling is one glyph: a line
feed, unless it is the line or the paragraph separator.
-/

namespace AssetSync.Yaml

structure Glyph where
  char : Char
  line : Nat
  column : Nat
  offset : Nat

abbrev Glyphs := List Glyph

abbrev Reader (α : Type) := Glyphs → Option (α × Glyphs)

def isAllowed (c : Char) : Bool :=
  let n := c.toNat
  n == 9 || n == 10 || n == 13 || (0x20 ≤ n && n ≤ 0x7e) || n == 0x85 ||
    (0xa0 ≤ n && n ≤ 0xd7ff) || (0xe000 ≤ n && n ≤ 0xfffd) || 0x10000 ≤ n

namespace Glyph

def isBlank (g : Glyph) : Bool :=
  g.char == ' ' || g.char == '\t'

def isBreak (g : Glyph) : Bool :=
  g.char == '\n' || g.char == '\u2028' || g.char == '\u2029'

def isWhite (g : Glyph) : Bool :=
  g.isBlank || g.isBreak

def isWord (g : Glyph) : Bool :=
  g.char.isAlphanum || g.char == '_' || g.char == '-'

end Glyph

namespace Glyphs

def text (gs : Glyphs) : List Char :=
  gs.map Glyph.char

def startsWith (gs : Glyphs) (c : Char) : Bool :=
  match gs with
  | g :: _ => g.char == c
  | [] => false

def atWhite : Glyphs → Bool
  | g :: _ => g.isWhite
  | [] => true

def atLineEnd : Glyphs → Bool
  | g :: _ => g.isBreak
  | [] => true

def atMarker (c : Char) : Glyphs → Bool
  | a :: b :: d :: rest => a.column == 0 && a.char == c && b.char == c && d.char == c && atWhite rest
  | _ => false

def atDocumentMarker (gs : Glyphs) : Bool :=
  gs.atMarker '-' || gs.atMarker '.'

def skipBlanks (gs : Glyphs) : Glyphs :=
  gs.dropWhile Glyph.isBlank

def skipComment (gs : Glyphs) : Glyphs :=
  if gs.startsWith '#' then gs.dropWhile (!·.isBreak) else gs

def finishLine (gs : Glyphs) : Option Glyphs :=
  match gs.skipBlanks.skipComment with
  | [] => some []
  | g :: rest => if g.isBreak then some rest else none

def place (line column offset : Nat) : List Char → Option Glyphs
  | [] => some []
  | '\r' :: '\n' :: rest =>
    (place (line + 1) 0 (offset + 2) rest).map (⟨'\n', line, column, offset⟩ :: ·)
  | c :: rest =>
    if !isAllowed c then none
    else
      let char := if c == '\r' || c == '\u0085' then '\n' else c
      let glyph : Glyph := ⟨char, line, column, offset⟩
      if glyph.isBreak then (place (line + 1) 0 (offset + 1) rest).map (glyph :: ·)
      else (place line (column + 1) (offset + 1) rest).map (glyph :: ·)

def ofString (text : String) : Option Glyphs :=
  place 0 0 0 text.toList

end Glyphs

end AssetSync.Yaml
