import AssetSync.Lines.Record
import AssetSync.Source.Basic

/-!
The pages of a file of JSON lines. A page holds the ids of its lines, each once; the cursor behind
it is the number of lines up to there.
-/

namespace AssetSync

def lineCursor (count : Nat) : Cursor :=
  match Integer.ofNat? count with
  | some i => .num (.integer i)
  | none => .null

namespace LinesConfig

def addLine (config : LinesConfig) (ids : List AssetId) (line : Line) : List AssetId :=
  match config.record? line with
  | some r => if ids.contains r.id then ids else ids ++ [r.id]
  | none => ids

def page (ids : List AssetId) (count : Nat) : Page :=
  ⟨.pending (ids.map .discovered), lineCursor count⟩

/-- The pages of the remaining lines, the first of which has the number `count`; `ids` are those of
the page begun, which has taken a line already if it is `begun`. -/
def pagesAfter (config : LinesConfig) (size count : Nat) (ids : List AssetId) (begun : Bool) :
    List Line → List Page
  | [] => if begun then [page ids count] else []
  | line :: rest =>
    let ids := config.addLine ids line
    if ids.length = size then
      page ids (count + 1) :: pagesAfter config size (count + 1) [] false rest
    else pagesAfter config size (count + 1) ids true rest

def pagesFrom (config : LinesConfig) (lines : List Line) (start size : Nat) : List Page :=
  pagesAfter config (Nat.max size 1) start [] false (lines.drop start)

end LinesConfig

end AssetSync
