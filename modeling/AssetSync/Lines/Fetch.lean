import AssetSync.Asset.Batch
import AssetSync.Lines.Record

namespace AssetSync.LinesConfig

def latest? (records : List LineRecord) (id : AssetId) : Option Json :=
  (records.reverse.find? (·.id == id)).map LineRecord.value

/-- Pairs each asset with the last record of its id. A record is handed out once, so an id that is
asked for again has none. -/
def assign (records : List LineRecord) (taken : List AssetId) :
    List Asset → List (Asset × Option Json)
  | [] => []
  | asset :: rest =>
    let found := if taken.contains asset.id then none else latest? records asset.id
    (asset, found) :: assign records (asset.id :: taken) rest

def stateOf (config : LinesConfig) : Option Json → AssetState
  | some value => if config.isTerminal value then .finished else .active
  | none => .failedRequest

def answer (config : LinesConfig) (lines : List Line) (requested : List Asset) : Batch :=
  let records := lines.filterMap config.record?
  let assigned := assign records [] requested
  let assets := assigned.map fun (asset, found) => asset.withState (config.stateOf found)
  let values := assigned.filterMap Prod.snd
  if values.isEmpty then .pending assets
  else .withData (.obj [("assets", .arr values)]) assets

end AssetSync.LinesConfig
