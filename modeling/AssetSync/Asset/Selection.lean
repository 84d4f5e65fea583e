import AssetSync.Asset.Record

namespace AssetSync

structure OpenAssets where
  assets : List Asset
  skipped : Nat

namespace OpenAssets

def add (found : OpenAssets) (record : Json) : OpenAssets :=
  match Asset.ofRecord record with
  | .error _ => { found with skipped := found.skipped + 1 }
  | .ok asset =>
    if found.assets.any (·.id == asset.id) then found
    else { found with assets := found.assets ++ [asset] }

def ofRecords (records : List Json) : OpenAssets :=
  records.foldl add ⟨[], 0⟩

end OpenAssets

structure Budgeted where
  fetchable : List Asset
  exhausted : List Asset

namespace Budgeted

def ofAssets (assets : List Asset) (maxRetries : UInt32) : Budgeted :=
  ⟨assets.filter (!·.exceeds maxRetries), assets.filter (·.exceeds maxRetries)⟩

def failedCount (b : Budgeted) : Nat :=
  b.fetchable.countP (·.state == .failedRequest)

end Budgeted

def appendNew (known : List Asset) (exclude : List AssetId) : List Asset → List Asset
  | [] => known
  | asset :: rest =>
    if exclude.contains asset.id || known.any (·.id == asset.id) then appendNew known exclude rest
    else appendNew (known ++ [asset]) exclude rest

def fetchSet (active discovered : List Asset) (exclude : List AssetId) : List Asset :=
  appendNew active exclude discovered

def firstRepeated? (seen : List AssetId) : List Asset → Option AssetId
  | [] => none
  | asset :: rest =>
    if seen.contains asset.id then some asset.id else firstRepeated? (asset.id :: seen) rest

end AssetSync
