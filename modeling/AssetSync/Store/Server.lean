import AssetSync.Asset.Record
import AssetSync.Json.Parser
import AssetSync.Store.Service
import AssetSync.Store.Tables

/-!
The tracking store on a database server, which may refuse single requests. Every call prepares one
statement and executes it; saving states does so inside a transaction, once for each asset.
-/

namespace AssetSync

inductive RequestKind where
  | begin
  | prepare
  | execute
  | commit
  deriving DecidableEq

structure ServerFault where
  kind : RequestKind
  skip : Nat
  deriving DecidableEq

structure Server where
  tables : Tables
  faults : List ServerFault
  deriving DecidableEq

namespace Server

def empty : Server :=
  ⟨.empty, []⟩

def arm (server : Server) (fault : ServerFault) : Server :=
  { server with faults := server.faults ++ [fault] }

def request (kind : RequestKind) : List ServerFault → Bool × List ServerFault
  | [] => (false, [])
  | fault :: rest =>
    if fault.kind = kind then
      if fault.skip = 0 then (true, rest) else (false, ⟨kind, fault.skip - 1⟩ :: rest)
    else
      let (refused, rest) := request kind rest
      (refused, fault :: rest)

def refusal : String := "db error"

def statement {α : Type} (run : Tables → Except StoreError α × Tables) : StoreCall Server α :=
  fun server =>
    let (refused, faults) := request .prepare server.faults
    if refused then (.error (.backend refusal), { server with faults })
    else
      let (refused, faults) := request .execute faults
      if refused then (.error (.backend refusal), { server with faults })
      else
        let (answer, tables) := run server.tables
        (answer, { tables, faults })

def query {α : Type} (answer : Tables → Except StoreError α) : StoreCall Server α :=
  statement fun tables => (answer tables, tables)

def update (change : Tables → Tables) : StoreCall Server Unit :=
  statement fun tables => (.ok (), change tables)

def checkpointOf (row : CursorRow) : Except StoreError Checkpoint :=
  match Json.parse row.cursorText, CursorLabel.ofName? row.label with
  | .error fault, _ => .error (.serialization fault)
  | .ok _, none => .error (.unknownLabel row.label)
  | .ok cursor, some label => .ok ⟨cursor, label, row.updatedAt⟩

def assetOf (row : StateRow) : Except StoreError Asset :=
  match AssetState.ofName? row.state with
  | none => .error (.unknownState row.state row.assetId)
  | some state =>
    let n := row.retryCount.toInt
    if n < 0 ∨ UInt32.size ≤ n then .error (.badRetryCount n row.assetId)
    else .ok ⟨row.assetId, state, UInt32.ofNat n.toNat⟩

def payloadOf (row : PayloadRow) : Except StoreError Json :=
  match Json.parse row.text with
  | .ok payload => .ok payload
  | .error fault => .error (.serialization fault)

def natural (n : Int64) : UInt64 :=
  if n < 0 then 0 else n.toUInt64

def recordOf (row : CycleRow) : Except StoreError CycleRecord := do
  let some status := CycleStatus.ofName? row.status | .error (.unknownStatus row.status)
  .ok {
    status
    assetsTotal := natural row.counts.total
    assetsFinished := natural row.counts.finished
    assetsActive := natural row.counts.active
    assetsFailed := natural row.counts.failed
    bytesSent := natural row.counts.bytes
    durationMs := natural row.counts.durationMs
    errorMessage := row.errorMessage
    finishedAt := some row.finishedAt }

def rowOf (key : SyncerKey) (asset : Asset) : StateRow :=
  ⟨key, asset.id, asset.state.name, Int64.ofNat asset.retryCount.toNat⟩

def rowOfRecord (key : SyncerKey) (record : CycleRecord) (now : String) : CycleRow where
  key := key
  status := record.status.name
  counts := ⟨record.assetsTotal.toInt64, record.assetsFinished.toInt64,
    record.assetsActive.toInt64, record.assetsFailed.toInt64, record.bytesSent.toInt64,
    record.durationMs.toInt64⟩
  errorMessage := record.errorMessage
  finishedAt := now

def executeEach (key : SyncerKey) : List Asset → Tables → List ServerFault →
    Option Tables × List ServerFault
  | [], tables, faults => (some tables, faults)
  | asset :: rest, tables, faults =>
    let (refused, faults) := request .execute faults
    if refused then (none, faults)
    else executeEach key rest (tables.putState (rowOf key asset)) faults

def refusedAt (step : String) : StoreError :=
  .backendContext ("save_assets_state: " ++ step) refusal

def saveStates (key : SyncerKey) (assets : List Asset) : StoreCall Server Unit := fun server =>
  if assets.isEmpty then (.ok (), server)
  else
    let (refused, faults) := request .begin server.faults
    if refused then (.error (refusedAt "begin tx"), { server with faults })
    else
      let (refused, faults) := request .prepare faults
      if refused then (.error (refusedAt "prepare"), { server with faults })
      else
        let (changed, faults) := executeEach key assets server.tables faults
        match changed with
        | none => (.error (refusedAt "execute"), { server with faults })
        | some tables =>
          let (refused, faults) := request .commit faults
          if refused then (.error (refusedAt "commit"), { server with faults })
          else (.ok (), { tables, faults })

def service (now : String) : TrackingService Server where
  loadCheckpoint key := query fun tables =>
    match tables.cursors.filter (·.key == key) with
    | [] => .ok none
    | row :: _ => (checkpointOf row).map some
  loadActive key := query fun tables =>
    let rows := tables.states.filter (·.key == key)
    .ok ((rows.filter (·.state != AssetState.finished.name)).map fun row =>
      looseRecord row.assetId row.state (.ofInt64 row.retryCount))
  savePayload key data := update (·.addPayload ⟨key, data.text⟩)
  saveStates := saveStates
  saveCursor key label cursor := update (·.putCursor ⟨key, cursor.text, label.name, now⟩)
  recordCycle key record := update (·.addCycle (rowOfRecord key record now))
  assetStates key withFinished := query fun tables =>
    let rows := tables.states.filter (·.key == key)
    (rows.filter (withFinished || ·.state != AssetState.finished.name)).mapM assetOf
  payloads key limit := query fun tables => do
    let payloads ← (newest limit (tables.payloads.filter (·.key == key))).mapM payloadOf
    .ok payloads.reverse
  recentCycles key limit := query fun tables =>
    (newest limit (tables.cycles.filter (·.key == key))).mapM recordOf

end Server

end AssetSync
