import AssetSync.Json.Printer
import AssetSync.Lines.Fetch
import AssetSync.Lines.Pages

namespace AssetSync

def linesSourceName : String := "jsonl"

abbrev TextReader (σ : Type) := String → σ → Except String String

namespace LinesConfig

variable {σ : Type}

def readLines (config : LinesConfig) (read : TextReader σ) (s : σ) :
    Except SourceError (List Line) :=
  match read config.path s with
  | .ok text => .ok (Line.complete text)
  | .error reason =>
    .error ⟨.transientNetwork, "IO", "failed to read " ++ config.path ++ ": " ++ reason⟩

def initCursor (config : LinesConfig) (read : TextReader σ) (s : σ) : Except SourceError Cursor :=
  match config.startFrom with
  | .fileBeginning => .ok (lineCursor 0)
  | .fileEnd => (config.readLines read s).map fun lines => lineCursor lines.length

def pages (config : LinesConfig) (read : TextReader σ) (cursor : Cursor) (size : Nat) (s : σ) :
    List (Except SourceError Page) :=
  match cursor.count? with
  | none => [.error ⟨.data, "INVALID_CURSOR",
      "jsonl cursor must be a line count, got " ++ cursor.text⟩]
  | some start =>
    match config.readLines read s with
    | .error e => [.error e]
    | .ok lines => (config.pagesFrom lines start size).map .ok

def fetch (config : LinesConfig) (read : TextReader σ) (request : Batch) (s : σ) :
    Except SourceError Batch :=
  if request.assets.isEmpty then .ok .empty
  else (config.readLines read s).map fun lines => config.answer lines request.assets

def source (config : LinesConfig) (read : TextReader σ) : Source σ where
  name := linesSourceName
  initCursor s := (config.initCursor read s, s)
  firstPage? cursor size s := ((config.pages read cursor size s).head?, s)
  fetch request s :=
    match config.fetch read request s with
    | .ok batch => (.answer batch, s)
    | .error e => (.failed e, s)

end LinesConfig

end AssetSync
