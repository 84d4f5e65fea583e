import AssetSync.Yaml.Glyph

namespace AssetSync.Yaml

inductive Chomping where
  | strip
  | clip
  | keep
  deriving DecidableEq

structure BlockHeader where
  chomping : Chomping
  indentation : Option Nat

namespace BlockHeader

def chomping? (gs : Glyphs) : Option Chomping :=
  if gs.startsWith '+' then some .keep
  else if gs.startsWith '-' then some .strip
  else none

def indentation? : Glyphs → Option Nat
  | g :: _ => if g.char.isDigit then some (g.char.toNat - '0'.toNat) else none
  | [] => none

def read : Reader BlockHeader := fun gs => do
  let first := chomping? gs
  let gs := gs.drop (if first.isSome then 1 else 0)
  let indentation := indentation? gs
  if indentation == some 0 then none
  let gs := gs.drop (if indentation.isSome then 1 else 0)
  let last := if first.isNone && indentation.isSome then chomping? gs else none
  let gs := gs.drop (if last.isSome then 1 else 0)
  let rest ← Glyphs.finishLine gs
  return (⟨(first.or last).getD .clip, indentation⟩, rest)

end BlockHeader

structure EmptyLines where
  breaks : List Char
  widest : Nat

/-- Reads empty lines. Spaces count as indentation left of `margin`, or anywhere when no margin is
known; a tab among them is an error. -/
def emptyLines (margin : Option Nat) : Reader EmptyLines
  | [] => some (⟨[], 0⟩, [])
  | g :: rest =>
    let indents := match margin with
      | some margin => decide (g.column < margin)
      | none => true
    if indents && g.char == ' ' then emptyLines margin rest
    else if indents && g.char == '\t' then none
    else if g.isBreak then
      (emptyLines margin rest).map fun (more, left) =>
        (⟨g.char :: more.breaks, max g.column more.widest⟩, left)
    else some (⟨[], g.column⟩, g :: rest)

structure BlockLine where
  text : List Char
  ending : List Char
  after : List Char

def BlockLine.isIndented (line : BlockLine) : Bool :=
  match line.text with
  | c :: _ => c == ' ' || c == '\t'
  | [] => false

def blockLines (margin : Nat) : Nat → Reader (List BlockLine)
  | 0, gs => some ([], gs)
  | _, [] => some ([], [])
  | fuel + 1, g :: gs =>
    if g.column ≠ margin then some ([], g :: gs)
    else do
      let (text, rest) := (g :: gs).span (!·.isBreak)
      let (empty, rest) ← emptyLines (some margin) (rest.drop 1)
      let ending := ((g :: gs).drop text.length).take 1
      let (more, left) ← blockLines margin fuel rest
      return (⟨Glyphs.text text, Glyphs.text ending, empty.breaks⟩ :: more, left)

def joinLines (folds : Bool) (chomping : Chomping) (ending after : List Char) (indented : Bool) :
    List BlockLine → List Char
  | [] =>
    (if chomping == .strip then [] else ending) ++ (if chomping == .keep then after else [])
  | line :: more =>
    let between :=
      if folds && ending == ['\n'] && !indented && !line.isIndented then
        if after.isEmpty then [' '] else after
      else ending ++ after
    between ++ line.text ++ joinLines folds chomping line.ending line.after line.isIndented more

def block (folds : Bool) (floor : Nat) : Reader (List Char) := fun gs => do
  let (header, gs) ← BlockHeader.read gs
  let given := header.indentation.map (floor - 1 + ·)
  let (first, gs) ← emptyLines given gs
  let margin := given.getD (max first.widest (max floor 1))
  let (lines, gs) ← blockLines margin gs.length gs
  return (joinLines folds header.chomping [] first.breaks false lines, gs)

end AssetSync.Yaml
