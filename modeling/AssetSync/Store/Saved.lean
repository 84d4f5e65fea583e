import AssetSync.Json.Parser
import AssetSync.Json.Printer
import AssetSync.Store.Embedded

namespace AssetSync.Saved

def formatField : String := "format"

def formatName : String := "asset tracking store"

def ofInt64 (n : Int64) : Json :=
  .num (.integer (.ofInt64 n))

def int64? : Json → Option Int64
  | .num (.integer i) =>
    if -0x8000000000000000 ≤ i.val ∧ i.val < 0x8000000000000000 then some (Int64.ofInt i.val)
    else none
  | _ => none

def ofKey (key : SyncerKey) : List Json :=
  [.str key.integrationId, .str key.instanceId]

def ofCursorRow (row : CursorRow) : Json :=
  .arr (ofKey row.key ++ [.str row.cursorText, .str row.label, .str row.updatedAt])

def cursorRow? : Json → Option CursorRow
  | .arr [.str i, .str s, .str cursorText, .str label, .str updatedAt] =>
    some ⟨⟨i, s⟩, cursorText, label, updatedAt⟩
  | _ => none

def ofStateRow (row : StateRow) : Json :=
  .arr (ofKey row.key ++ [.str row.assetId, .str row.state, ofInt64 row.retryCount])

def stateRow? : Json → Option StateRow
  | .arr [.str i, .str s, .str assetId, .str state, retryCount] =>
    (int64? retryCount).map fun n => ⟨⟨i, s⟩, assetId, state, n⟩
  | _ => none

def ofPayloadRow (row : PayloadRow) : Json :=
  .arr (ofKey row.key ++ [.str row.text])

def payloadRow? : Json → Option PayloadRow
  | .arr [.str i, .str s, .str text] => some ⟨⟨i, s⟩, text⟩
  | _ => none

def ofCycleRow (row : CycleRow) : Json :=
  let counts := [row.counts.total, row.counts.finished, row.counts.active, row.counts.failed,
    row.counts.bytes, row.counts.durationMs]
  let message := match row.errorMessage with
    | some text => .str text
    | none => .null
  .arr (ofKey row.key ++ [.str row.status, .arr (counts.map ofInt64), message, .str row.finishedAt])

def cycleCounts? (counts : List Json) : Option CycleCounts := do
  match ← counts.mapM int64? with
  | [total, finished, active, failed, bytes, durationMs] =>
    some ⟨total, finished, active, failed, bytes, durationMs⟩
  | _ => none

def cycleRow? : Json → Option CycleRow
  | .arr [.str i, .str s, .str status, .arr counts, message, .str finishedAt] => do
    let errorMessage ← match message with
      | .str text => some (some text)
      | .null => some none
      | _ => none
    some ⟨⟨i, s⟩, status, ← cycleCounts? counts, errorMessage, finishedAt⟩
  | _ => none

def ofTables (tables : Tables) : Json :=
  .ofFields [(formatField, .str formatName),
    (TableName.cursors.text, .arr (tables.cursors.map ofCursorRow)),
    (TableName.states.text, .arr (tables.states.map ofStateRow)),
    (TableName.payloads.text, .arr (tables.payloads.map ofPayloadRow)),
    (TableName.cycles.text, .arr (tables.cycles.map ofCycleRow))]

def rows? {α : Type} (json : Json) (table : TableName) (row? : Json → Option α) :
    Option (List α) :=
  match json.field? table.text with
  | some (.arr rows) => rows.mapM row?
  | _ => none

def tables? (json : Json) : Option Tables := do
  if (json.field? formatField).bind Json.string? ≠ some formatName then none
  else some {
    cursors := ← rows? json .cursors cursorRow?
    states := ← rows? json .states stateRow?
    payloads := ← rows? json .payloads payloadRow?
    cycles := ← rows? json .cycles cycleRow? }

def text (db : Embedded) : String :=
  (ofTables db.tables).text

def database? (text : String) : Option Embedded :=
  match Json.parse text with
  | .ok json => (tables? json).map fun tables => ⟨tables, [], []⟩
  | .error _ => none

end AssetSync.Saved
