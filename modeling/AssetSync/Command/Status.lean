import AssetSync.Command.Loading
import AssetSync.Text.Fixed

namespace AssetSync.Command

def checkpointLine : Option Checkpoint → String
  | some c => "  Cursor:  " ++ c.cursor.text ++ " (" ++ c.label.name ++ ", updated " ++ c.updatedAt ++ ")"
  | none => "  Cursor:  none (next cycle starts from the adapter's initial cursor)"

def cycleLine (r : CycleRecord) : String :=
  let counted (name : String) (n : UInt64) : String := " " ++ name ++ "=" ++ toString n.toNat
  "    " ++ Text.padRight 25 (r.finishedAt.getD "-") ++ " " ++ Text.padRight 9 r.status.name ++
    counted "assets" r.assetsTotal ++ counted "finished" r.assetsFinished ++
    counted "active" r.assetsActive ++ counted "failed" r.assetsFailed ++
    counted "bytes" r.bytesSent ++ " " ++ toString r.durationMs.toNat ++ "ms" ++
    (r.errorMessage.map ("  error: " ++ ·)).getD ""

def historyLines : List CycleRecord → List String
  | [] => ["  No cycles recorded."]
  | records => "  Recent cycles:" :: records.map cycleLine

def assetLine (asset : Asset) : String :=
  "    " ++ Text.padRight 40 asset.id ++ " " ++ Text.padRight 15 asset.state.name ++ " retries=" ++
    toString asset.retryCount.toNat

def assetLines (assets : List Asset) : List String :=
  ("  Tracked assets (" ++ toString assets.length ++ "):") :: assets.map assetLine

def statusOf (service : TrackingService OpenStore) (key : SyncerKey) (active : Bool)
    (cycles : Nat) (s : OpenStore) : CommandOutcome :=
  let title := "Syncer " ++ key.display
  match (service.loadCheckpoint key s).1 with
  | .error e => .failed [title] e.message e.causes
  | .ok checkpoint =>
    let lines := [title, checkpointLine checkpoint]
    match (service.recentCycles key cycles s).1 with
    | .error e => .failed lines "Failed to load cycle history" (e.message :: e.causes)
    | .ok records =>
      let lines := lines ++ historyLines records
      if !active then .done lines
      else
        match (service.assetStates key false s).1 with
        | .error e => .failed lines "Failed to load asset states" (e.message :: e.causes)
        | .ok assets => .done (lines ++ assetLines assets)

def openConfigured (env : Environment) (file : String) :
    Opening CommandFailure (SyncerKey × StoreHandle) := do
  let config ← ExceptT.mk (return (SyncerConfig.load env file (← get)).mapError LoadError.failure)
  let handle ← ExceptT.adapt (fun e => (⟨e.message, e.causes⟩ : CommandFailure))
    (Workspace.openStore env config.state)
  return (config.key, handle)

def status (env : Environment) (now : Timestamp.Fields) (file : String) (active : Bool)
    (cycles : Nat) (w : Workspace) : CommandOutcome × Workspace :=
  match (openConfigured env file).run.run w with
  | (.error failure, w) => (⟨[], .failed failure⟩, w)
  | (.ok (key, handle), w) =>
    (statusOf (OpenStore.service now) key active cycles ⟨w, handle⟩, w.close handle)

end AssetSync.Command
