import AssetSync.Source.Basic

/-!
A source that answers from a script: one start, some pages, and the fetches in turn. A fetch past
the end of the script finishes every asset.
-/

namespace AssetSync

inductive ScriptedFetch where
  | every (state : AssetState)
  | answer (batch : Batch)
  | failed (e : SourceError)
  | crashed

structure Script where
  start : Except SourceError Cursor
  pages : List (Except SourceError Page)
  fetches : List ScriptedFetch

namespace Script

def perform (request : Batch) : ScriptedFetch → Fetched
  | .every state => .answer (.withData
      (.ofFields [("data", .arr (request.ids.map .str))])
      (request.assets.map (·.withState state)))
  | .answer batch => .answer batch
  | .failed e => .failed e
  | .crashed => .crashed

def source : Source Script where
  name := "script"
  initCursor script := (script.start, script)
  firstPage? _ _ script := (script.pages.head?, script)
  fetch request script :=
    (perform request (script.fetches.head?.getD (.every .finished)),
      { script with fetches := script.fetches.tail })

end Script

end AssetSync
