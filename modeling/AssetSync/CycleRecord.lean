namespace AssetSync

inductive CycleStatus where
  | committed
  | aborted
  deriving DecidableEq

namespace CycleStatus

def name : CycleStatus → String
  | .committed => "committed"
  | .aborted => "aborted"

def all : List CycleStatus :=
  [.committed, .aborted]

def ofName? (name : String) : Option CycleStatus :=
  all.find? (·.name == name)

theorem ofName?_name (status : CycleStatus) : ofName? status.name = some status := by
  cases status <;> decide

end CycleStatus

structure CycleRecord where
  status : CycleStatus
  assetsTotal : UInt64
  assetsFinished : UInt64
  assetsActive : UInt64
  assetsFailed : UInt64
  bytesSent : UInt64
  durationMs : UInt64
  errorMessage : Option String
  finishedAt : Option String
  deriving DecidableEq

end AssetSync
