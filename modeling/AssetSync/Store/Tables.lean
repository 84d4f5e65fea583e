import AssetSync.Key

/-!
The four tables of a tracking store. Rows are in the order in which they were first written; a key
has at most one cursor row and one state row for each asset.
-/

namespace AssetSync

structure CursorRow where
  key : SyncerKey
  cursorText : String
  label : String
  updatedAt : String
  deriving DecidableEq

structure StateRow where
  key : SyncerKey
  assetId : String
  state : String
  retryCount : Int64
  deriving DecidableEq

structure PayloadRow where
  key : SyncerKey
  text : String
  deriving DecidableEq

structure CycleCounts where
  total : Int64
  finished : Int64
  active : Int64
  failed : Int64
  bytes : Int64
  durationMs : Int64
  deriving DecidableEq

structure CycleRow where
  key : SyncerKey
  status : String
  counts : CycleCounts
  errorMessage : Option String
  finishedAt : String
  deriving DecidableEq

structure Tables where
  cursors : List CursorRow
  states : List StateRow
  payloads : List PayloadRow
  cycles : List CycleRow
  deriving DecidableEq

def upsert {α : Type} (same : α → Bool) (row : α) : List α → List α
  | [] => [row]
  | old :: rest => if same old then row :: rest else old :: upsert same row rest

namespace Tables

def empty : Tables :=
  ⟨[], [], [], []⟩

def putCursor (tables : Tables) (row : CursorRow) : Tables :=
  { tables with cursors := upsert (·.key == row.key) row tables.cursors }

def putState (tables : Tables) (row : StateRow) : Tables :=
  { tables with
    states := upsert (fun old => old.key == row.key && old.assetId == row.assetId) row
      tables.states }

def addPayload (tables : Tables) (row : PayloadRow) : Tables :=
  { tables with payloads := tables.payloads ++ [row] }

def addCycle (tables : Tables) (row : CycleRow) : Tables :=
  { tables with cycles := tables.cycles ++ [row] }

end Tables

def rowLimit (limit : Nat) : Nat :=
  Nat.min limit 0x7fffffffffffffff

def newest {α : Type} (limit : Nat) (rows : List α) : List α :=
  rows.reverse.take (rowLimit limit)

end AssetSync
