/-!
The key under which one syncer keeps its state. Keys are compared by their two parts: two keys may
share one display text.
-/

namespace AssetSync

structure SyncerKey where
  integrationId : String
  instanceId : String
  deriving DecidableEq

def SyncerKey.display (key : SyncerKey) : String :=
  key.integrationId ++ "/" ++ key.instanceId

end AssetSync
