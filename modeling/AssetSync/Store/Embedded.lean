import AssetSync.Asset.Record
import AssetSync.Json.Parser
import AssetSync.Store.Service
import AssetSync.Store.Tables
import AssetSync.Store.Timestamp

/-!
The tracking store in an embedded database file. A table may be missing and an asset may be refused;
a call that fails changes nothing.
-/

namespace AssetSync

inductive TableName where
  | cursors
  | states
  | payloads
  | cycles
  deriving DecidableEq

def TableName.text : TableName → String
  | .cursors => "syncer_cursors"
  | .states => "asset_states"
  | .payloads => "tracking_payloads"
  | .cycles => "sync_cycles"

def TableName.all : List TableName :=
  [.cursors, .states, .payloads, .cycles]

structure Embedded where
  tables : Tables
  missing : List TableName
  rejected : List AssetId
  deriving DecidableEq

namespace Embedded

def empty : Embedded :=
  ⟨.empty, [], []⟩

def reopen (db : Embedded) : Embedded :=
  { db with missing := [] }

def drop (db : Embedded) (table : TableName) : Embedded :=
  let missing := table :: db.missing
  match table with
  | .cursors => { db with missing, tables := { db.tables with cursors := [] } }
  | .states => ⟨{ db.tables with states := [] }, missing, []⟩
  | .payloads => { db with missing, tables := { db.tables with payloads := [] } }
  | .cycles => { db with missing, tables := { db.tables with cycles := [] } }

def reject (db : Embedded) (id : AssetId) : Embedded :=
  { db with rejected := id :: db.rejected }

def noSuchTable (table : TableName) : String :=
  "no such table: " ++ table.text

def query {α : Type} (table : TableName) (answer : Tables → Except StoreError α) :
    StoreCall Embedded α := fun db =>
  if db.missing.contains table then (.error (.backend (noSuchTable table)), db)
  else (answer db.tables, db)

def execute (table : TableName) (change : Tables → Tables) : StoreCall Embedded Unit := fun db =>
  if db.missing.contains table then (.error (.backend (noSuchTable table)), db)
  else (.ok (), { db with tables := change db.tables })

def checkpoint (row : CursorRow) : Except StoreError Checkpoint := do
  let cursor ← (Json.parse row.cursorText).mapError .serialization
  match CursorLabel.ofName? row.label with
  | some label => .ok ⟨cursor, label, Timestamp.shown row.updatedAt⟩
  | none => .error (.unknownLabel row.label)

def looseState (row : StateRow) : Json :=
  looseRecord row.assetId row.state (.ofInt64 row.retryCount)

def retryCount? (stored : Int64) : Option UInt32 :=
  let n := stored.toInt
  if 0 ≤ n ∧ n < UInt32.size then some (UInt32.ofNat n.toNat) else none

def assets (rows : List StateRow) : Except StoreError (List Asset) :=
  match rows with
  | [] => .ok []
  | row :: rest => do
    let some state := AssetState.ofName? row.state
      | .error (.unknownState row.state row.assetId)
    let some retryCount := retryCount? row.retryCount
      | .error (.badRetryCount row.retryCount.toInt row.assetId)
    .ok (⟨row.assetId, state, retryCount⟩ :: (← assets rest))

def payloadValues (rows : List PayloadRow) : Except StoreError (List Json) :=
  rows.mapM fun row => (Json.parse row.text).mapError .serialization

def count (n : Int64) : UInt64 :=
  UInt64.ofNat n.toInt.toNat

/-- A count as it is stored: above 2⁶³ − 1 it turns negative. -/
def signed (n : UInt64) : Int64 :=
  n.toInt64

def cycle (row : CycleRow) : Except StoreError CycleRecord :=
  match CycleStatus.ofName? row.status with
  | none => .error (.unknownStatus row.status)
  | some status => .ok {
      status
      assetsTotal := count row.counts.total
      assetsFinished := count row.counts.finished
      assetsActive := count row.counts.active
      assetsFailed := count row.counts.failed
      bytesSent := count row.counts.bytes
      durationMs := count row.counts.durationMs
      errorMessage := row.errorMessage
      finishedAt := some (Timestamp.shown row.finishedAt) }

def stateRow (key : SyncerKey) (asset : Asset) : StateRow :=
  ⟨key, asset.id, asset.state.name, Int64.ofNat asset.retryCount.toNat⟩

def writeStates (key : SyncerKey) (rejected : List AssetId) :
    List Asset → Tables → Except StoreError Tables
  | [], tables => .ok tables
  | asset :: rest, tables =>
    if rejected.contains asset.id then
      .error (.backendContext "save_assets_state: execute" "rejected")
    else writeStates key rejected rest (tables.putState (stateRow key asset))

/-- All rows of a call or none: what a transaction has written is dropped when a row is refused. -/
def saveStates (key : SyncerKey) (assets : List Asset) : StoreCall Embedded Unit := fun db =>
  if assets.isEmpty then (.ok (), db)
  else if db.missing.contains .states then
    (.error (.backendContext "save_assets_state: prepare" (noSuchTable .states)), db)
  else
    match writeStates key db.rejected assets db.tables with
    | .ok tables => (.ok (), { db with tables })
    | .error e => (.error e, db)

def cycleRow (key : SyncerKey) (record : CycleRecord) (now : String) : CycleRow where
  key := key
  status := record.status.name
  counts := {
    total := signed record.assetsTotal
    finished := signed record.assetsFinished
    active := signed record.assetsActive
    failed := signed record.assetsFailed
    bytes := signed record.bytesSent
    durationMs := signed record.durationMs }
  errorMessage := record.errorMessage
  finishedAt := now

def service (now : String) : TrackingService Embedded where
  loadCheckpoint key := query .cursors fun tables =>
    (tables.cursors.find? (·.key == key)).mapM checkpoint
  loadActive key := query .states fun tables =>
    .ok ((tables.states.filter fun row =>
      row.key == key && row.state != AssetState.finished.name).map looseState)
  savePayload key data := execute .payloads (·.addPayload ⟨key, data.text⟩)
  saveStates := saveStates
  saveCursor key label cursor := execute .cursors (·.putCursor ⟨key, cursor.text, label.name, now⟩)
  recordCycle key record := execute .cycles (·.addCycle (cycleRow key record now))
  assetStates key withFinished := query .states fun tables =>
    assets (tables.states.filter fun row =>
      row.key == key && (withFinished || row.state != AssetState.finished.name))
  payloads key limit := query .payloads fun tables =>
    (payloadValues (newest limit (tables.payloads.filter (·.key == key)))).map List.reverse
  recentCycles key limit := query .cycles fun tables =>
    (newest limit (tables.cycles.filter (·.key == key))).mapM cycle

def unusable (text : String) : TrackingService Embedded where
  loadCheckpoint _ db := (.error (.backend text), db)
  loadActive _ db := (.error (.backend text), db)
  savePayload _ _ db := (.error (.backend text), db)
  saveStates _ assets db :=
    if assets.isEmpty then (.ok (), db)
    else (.error (.backendContext "save_assets_state: execute" text), db)
  saveCursor _ _ _ db := (.error (.backend text), db)
  recordCycle _ _ db := (.error (.backend text), db)
  assetStates _ _ db := (.error (.backend text), db)
  payloads _ _ db := (.error (.backend text), db)
  recentCycles _ _ db := (.error (.backend text), db)

def refuse (table : TableName) (text : String) : StoreCall Embedded Unit := fun db =>
  (.error (.backend (if db.missing.contains table then noSuchTable table else text)), db)

def readOnly (text now : String) : TrackingService Embedded :=
  { service now with
    savePayload := fun _ _ => refuse .payloads text
    saveStates := fun key assets db =>
      if assets.isEmpty || db.missing.contains .states then saveStates key assets db
      else (.error (.backendContext "save_assets_state: execute" text), db)
    saveCursor := fun _ _ _ => refuse .cursors text
    recordCycle := fun _ _ => refuse .cycles text }

end Embedded

end AssetSync
