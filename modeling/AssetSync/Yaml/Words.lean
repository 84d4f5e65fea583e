import AssetSync.Text.Hex
import AssetSync.Yaml.Glyph

/-!
Flow scalars, plain or quoted. Between two words a single line break reads as a space, and of
several breaks all but the first are kept.
-/

namespace AssetSync.Yaml

structure Gap where
  blanks : List Char
  breaks : List Char

namespace Gap

def isEmpty (gap : Gap) : Bool :=
  gap.blanks.isEmpty && gap.breaks.isEmpty

def folded (gap : Gap) : List Char :=
  match gap.breaks with
  | [] => gap.blanks
  | ['\n'] => [' ']
  | '\n' :: more => more
  | breaks => breaks

def read (margin : Nat) : Reader Gap := fun gs =>
  let (blanks, rest) := gs.span Glyph.isBlank
  let (lines, rest) := rest.span Glyph.isWhite
  if lines.any fun g => g.char == '\t' && g.column < margin then none
  else some (⟨Glyphs.text blanks, Glyphs.text (lines.filter Glyph.isBreak)⟩, rest)

end Gap

def isFlowEnd (c : Char) : Bool :=
  c == ',' || c == '[' || c == ']' || c == '{' || c == '}'

def plainWord (inFlow : Bool) : Reader (List Char)
  | [] => some ([], [])
  | g :: rest =>
    let beforeFlow := match rest with
      | next :: _ => isFlowEnd next.char || next.char == '?'
      | [] => false
    if g.isWhite then some ([], g :: rest)
    else if inFlow && g.char == ':' && beforeFlow then none
    else if g.char == ':' && Glyphs.atWhite rest then some ([], g :: rest)
    else if inFlow && isFlowEnd g.char then some ([], g :: rest)
    else (plainWord inFlow rest).map fun (word, left) => (g.char :: word, left)

structure Plain where
  text : List Char
  endsLine : Bool

def plain (inFlow : Bool) (margin : Nat) : Nat → Reader Plain
  | 0, gs => some (⟨[], false⟩, gs)
  | fuel + 1, gs => do
    let (word, gs) ← plainWord inFlow gs
    let (gap, gs) ← Gap.read margin gs
    let endsLine := !gap.breaks.isEmpty
    let outdented := match gs with
      | g :: _ => !inFlow && g.column < margin
      | [] => true
    if gap.isEmpty || outdented || gs.atDocumentMarker || gs.startsWith '#' then
      return (⟨word, endsLine⟩, gs)
    let (more, left) ← plain inFlow margin fuel gs
    if more.text.isEmpty then return (⟨word, endsLine⟩, left)
    return (⟨word ++ gap.folded ++ more.text, more.endsLine⟩, left)

def numbered (width : Nat) : Reader Char := fun gs => do
  let digits := gs.take width
  if digits.length < width then none
  let value ← digits.foldlM (fun n g => (Text.hexValue? g.char).map (n * 16 + ·)) 0
  if value.isValidChar then return (Char.ofNat value, gs.drop width) else none

def escaped : Reader Char
  | [] => none
  | g :: rest =>
    match g.char with
    | '0' => some ('\x00', rest)
    | 'a' => some ('\x07', rest)
    | 'b' => some ('\x08', rest)
    | 't' | '\t' => some ('\t', rest)
    | 'n' => some ('\n', rest)
    | 'v' => some ('\x0b', rest)
    | 'f' => some ('\x0c', rest)
    | 'r' => some ('\r', rest)
    | 'e' => some ('\x1b', rest)
    | ' ' => some (' ', rest)
    | '"' => some ('"', rest)
    | '/' => some ('/', rest)
    | '\\' => some ('\\', rest)
    | 'N' => some ('\u0085', rest)
    | '_' => some ('\u00a0', rest)
    | 'L' => some ('\u2028', rest)
    | 'P' => some ('\u2029', rest)
    | 'x' => numbered 2 rest
    | 'u' => numbered 4 rest
    | 'U' => numbered 8 rest
    | _ => none

def quoted (quote : Char) : Nat → Reader (List Char)
  | 0, _ => none
  | _, [] => none
  | fuel + 1, g :: rest =>
    let before (read : List Char) (gs : Glyphs) : Option (List Char × Glyphs) :=
      (quoted quote fuel gs).map fun (more, left) => (read ++ more, left)
    if Glyphs.atDocumentMarker (g :: rest) then none
    else if g.char == quote then
      if quote == '\'' && Glyphs.startsWith rest '\'' then before ['\''] (rest.drop 1) else some ([], rest)
    else if quote == '"' && g.char == '\\' then
      match rest with
      | [] => none
      | next :: afterBreak =>
        if next.isBreak then do
          let (gap, left) ← Gap.read 0 afterBreak
          before gap.breaks left
        else do
          let (c, left) ← escaped rest
          before [c] left
    else if g.isWhite then do
      let (gap, left) ← Gap.read 0 (g :: rest)
      before gap.folded left
    else before [g.char] rest

end AssetSync.Yaml
