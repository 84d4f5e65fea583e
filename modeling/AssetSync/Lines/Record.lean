import AssetSync.Asset.Record
import AssetSync.Json.Parser
import AssetSync.Lines.Config
import AssetSync.Text.Blank

/-!
The lines of a file that is still being written, and the records on them. A line counts once its
newline is there; a line is usable if it is JSON with an id.
-/

namespace AssetSync

abbrev Line := List Char

namespace Line

def ofReversed : List Char → Line
  | '\r' :: rest => rest.reverse
  | cs => cs.reverse

def splitOnto (done : List Line) (current : List Char) : List Char → List Line
  | [] => done
  | c :: rest =>
    if c = '\n' then splitOnto (ofReversed current :: done) [] rest
    else splitOnto done (c :: current) rest

def complete (text : String) : List Line :=
  (splitOnto [] [] text.toList).reverse

end Line

structure LineRecord where
  id : AssetId
  value : Json

namespace LinesConfig

def record? (config : LinesConfig) (line : Line) : Option LineRecord :=
  if line.all Text.isBlank then none
  else
    match Json.readChars line with
    | .error _ => none
    | .ok value =>
      ((value.field? config.idField).bind AssetId.ofJson?).map fun id => ⟨id, value⟩

def isTerminal (config : LinesConfig) (value : Json) : Bool :=
  ((value.field? config.stateField).bind Json.string?).any config.terminalStates.contains

end LinesConfig

end AssetSync
