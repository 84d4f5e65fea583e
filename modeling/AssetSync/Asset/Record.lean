import AssetSync.Asset.Basic
import AssetSync.Json.Printer

/-!
The loose record in which a tracking service hands out an open asset, and reading it back. A record
that does not make sense is skipped with a reason, never a failure.
-/

namespace AssetSync

def AssetId.ofJson? : Json → Option AssetId
  | .str text => if text.isEmpty then none else some text
  | .num n => some (String.ofList n.chars)
  | _ => none

inductive SkipReason where
  | noId
  | unknownState (name : String) (id : AssetId)
  | noState (id : AssetId)
  | badRetryCount (value : Json) (id : AssetId)

def SkipReason.message : SkipReason → String
  | .noId => "missing or invalid asset_uri"
  | .unknownState name id => "unknown state '" ++ name ++ "' for asset " ++ id
  | .noState id => "missing state for asset " ++ id
  | .badRetryCount value id => "malformed retry_count " ++ value.text ++ " for asset " ++ id

def looseRecord (id : AssetId) (state : String) (retryCount : Integer) : Json :=
  .ofFields [
    ("asset_uri", .str id),
    ("state", .str state),
    ("data", .ofFields [("retry_count", .num (.integer retryCount))])]

def Asset.toRecord (asset : Asset) : Json :=
  looseRecord asset.id asset.state.name (.ofUInt32 asset.retryCount)

def retryCountOfJson? : Option Json → Option UInt32
  | none => some 0
  | some .null => some 0
  | some (.num (.integer i)) =>
    match i.toNat? with
    | some n => if n < UInt32.size then some (UInt32.ofNat n) else none
    | none => none
  | some _ => none

def Asset.ofRecord (record : Json) : Except SkipReason Asset :=
  match (record.field? "asset_uri").bind AssetId.ofJson? with
  | none => .error .noId
  | some id =>
    match record.field? "state" with
    | some (.str name) =>
      match AssetState.ofName? name with
      | none => .error (.unknownState name id)
      | some state =>
        let given := (record.field? "data").bind (·.field? "retry_count")
        match retryCountOfJson? given with
        | some retryCount => .ok ⟨id, state, retryCount⟩
        | none => .error (.badRetryCount (given.getD .null) id)
    | _ => .error (.noState id)

end AssetSync
