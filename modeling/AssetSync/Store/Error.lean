import AssetSync.Json.Failure

namespace AssetSync

inductive StoreError where
  | backend (text : String)
  | backendContext (context text : String)
  | io (text : String)
  | serialization (fault : Json.SyntaxError)
  | corrupt (text : String)
  | unavailable (text : String)
  | unsupported (operation : String)
  | lockPoisoned
  deriving DecidableEq

namespace StoreError

def message : StoreError → String
  | .backend text => "backend error: " ++ text
  | .backendContext context text => context ++ ": " ++ text
  | .io text => "i/o error: " ++ text
  | .serialization fault => "serialization error: " ++ fault.message
  | .corrupt text => "corrupt state row: " ++ text
  | .unavailable text => "tracking service unavailable: " ++ text
  | .unsupported operation => "operation not supported by this backend: " ++ operation
  | .lockPoisoned => "state backend lock poisoned"

def unknownLabel (label : String) : StoreError :=
  .corrupt ("unknown cursor label '" ++ label ++ "'")

def unknownState (state : String) (id : String) : StoreError :=
  .corrupt ("unknown state '" ++ state ++ "' for asset " ++ id)

def badRetryCount (count : Int) (id : String) : StoreError :=
  .corrupt ("retry_count " ++ toString count ++ " for asset " ++ id)

def unknownStatus (status : String) : StoreError :=
  .corrupt ("unknown cycle status '" ++ status ++ "'")

end StoreError

end AssetSync
