import AssetSync.Saturating

namespace AssetSync

abbrev AssetId := String

inductive AssetState where
  | init
  | active
  | finished
  | failedRequest
  deriving DecidableEq

namespace AssetState

def name : AssetState → String
  | .init => "init"
  | .active => "active"
  | .finished => "finished"
  | .failedRequest => "failed_request"

def all : List AssetState :=
  [.init, .active, .finished, .failedRequest]

def ofName? (name : String) : Option AssetState :=
  all.find? (·.name == name)

def isOpen (state : AssetState) : Bool :=
  state != .finished

theorem ofName?_name (state : AssetState) : ofName? state.name = some state := by
  cases state <;> decide

end AssetState

structure Asset where
  id : AssetId
  state : AssetState
  retryCount : UInt32
  deriving DecidableEq

namespace Asset

def discovered (id : AssetId) : Asset :=
  ⟨id, .init, 0⟩

def withState (asset : Asset) (state : AssetState) : Asset :=
  { asset with state }

def finish (asset : Asset) : Asset :=
  asset.withState .finished

def activate (asset : Asset) : Asset :=
  asset.withState .active

def fail (asset : Asset) : Asset :=
  { asset with state := .failedRequest, retryCount := saturatingSucc asset.retryCount }

def exceeds (asset : Asset) (maxRetries : UInt32) : Bool :=
  maxRetries < asset.retryCount

end Asset

end AssetSync
