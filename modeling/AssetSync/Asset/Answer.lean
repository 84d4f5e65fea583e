import AssetSync.Asset.Basic

/-!
What the answer to a fetch means for the assets that were asked for. The answer decides the next
state only; ids and retry counts come from the request.
-/

namespace AssetSync

def answeredState? (answered : List Asset) (id : AssetId) : Option AssetState :=
  (answered.find? (·.id == id)).map Asset.state

def Asset.afterAnswer (asset : Asset) : Option AssetState → Asset
  | some .active => asset.activate
  | some .finished | some .init => asset.finish
  | some .failedRequest | none => asset.fail

def applyAnswer (requested answered : List Asset) : List Asset :=
  requested.map fun asset => asset.afterAnswer (answeredState? answered asset.id)

def failAll (requested : List Asset) : List Asset :=
  requested.map Asset.fail

end AssetSync
