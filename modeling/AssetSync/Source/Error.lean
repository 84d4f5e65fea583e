namespace AssetSync

inductive ErrorCategory where
  | config
  | transientNetwork
  | data
  deriving DecidableEq

namespace ErrorCategory

def name : ErrorCategory → String
  | .config => "config"
  | .transientNetwork => "transient_network"
  | .data => "data"

def all : List ErrorCategory :=
  [.config, .transientNetwork, .data]

end ErrorCategory

structure SourceError where
  category : ErrorCategory
  code : String
  message : String
  deriving DecidableEq

def SourceError.display (e : SourceError) : String :=
  "[" ++ e.category.name ++ "] " ++ e.code ++ ": " ++ e.message

end AssetSync
