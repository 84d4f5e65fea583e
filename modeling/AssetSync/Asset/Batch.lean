import AssetSync.Asset.Basic
import AssetSync.Json.Basic

namespace AssetSync

structure Batch where
  data : Option Json
  assets : List Asset

namespace Batch

def empty : Batch :=
  ⟨none, []⟩

def pending (assets : List Asset) : Batch :=
  ⟨none, assets⟩

def withData (data : Json) (assets : List Asset) : Batch :=
  ⟨some data, assets⟩

def ids (batch : Batch) : List AssetId :=
  batch.assets.map Asset.id

def carries : Json → Bool
  | .null => false
  | .obj fields => !fields.isEmpty
  | .arr items => !items.isEmpty
  | _ => true

def hasData (batch : Batch) : Bool :=
  batch.data.any carries

def payload? (batch : Batch) : Option Json :=
  batch.data.filter carries

end Batch

end AssetSync
