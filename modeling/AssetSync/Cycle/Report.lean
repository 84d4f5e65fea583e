import AssetSync.Asset.Basic
import AssetSync.Checkpoint
import AssetSync.CycleRecord
import AssetSync.Duration

namespace AssetSync

inductive AbortStage where
  | loadCheckpoint
  | initCursor
  | loadActiveAssets
  | saveTrackingData
  | saveAssetsState
  | updateCursor
  deriving DecidableEq

namespace AbortStage

def name : AbortStage → String
  | .loadCheckpoint => "load_checkpoint"
  | .initCursor => "init_cursor"
  | .loadActiveAssets => "load_active_assets"
  | .saveTrackingData => "save_tracking_data"
  | .saveAssetsState => "save_assets_state"
  | .updateCursor => "update_cursor"

def all : List AbortStage :=
  [.loadCheckpoint, .initCursor, .loadActiveAssets, .saveTrackingData, .saveAssetsState,
    .updateCursor]

def ofName? (name : String) : Option AbortStage :=
  all.find? (·.name == name)

end AbortStage

inductive CycleOutcome where
  | committed (cursor : Cursor) (label : CursorLabel)
  | aborted (stage : AbortStage) (message : String)

structure CycleProgress where
  assets : List Asset
  exhausted : Nat
  skippedRecords : Nat
  fetchErrors : Nat
  pageError : Option String
  payloadsSent : Nat
  bytesSent : Nat

def CycleProgress.start : CycleProgress :=
  ⟨[], 0, 0, 0, none, 0, 0⟩

structure CycleReport extends CycleProgress where
  outcome : CycleOutcome
  duration : Duration

namespace CycleReport

def isCommitted (report : CycleReport) : Bool :=
  match report.outcome with
  | .committed _ _ => true
  | .aborted _ _ => false

def count (report : CycleReport) (state : AssetState) : Nat :=
  report.assets.countP (·.state == state)

def errorMessage? (report : CycleReport) : Option String :=
  match report.outcome with
  | .committed _ _ => none
  | .aborted stage message => some (stage.name ++ ": " ++ message)

def toRecord (report : CycleReport) : CycleRecord where
  status := if report.isCommitted then .committed else .aborted
  assetsTotal := UInt64.ofNat report.assets.length
  assetsFinished := UInt64.ofNat (report.count .finished)
  assetsActive := UInt64.ofNat (report.count .active)
  assetsFailed := UInt64.ofNat (report.count .failedRequest)
  bytesSent := UInt64.ofNat report.bytesSent
  durationMs := report.duration.millis
  errorMessage := report.errorMessage?
  finishedAt := none

end CycleReport

end AssetSync
