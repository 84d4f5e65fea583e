import AssetSync.Asset.Batch
import AssetSync.Checkpoint
import AssetSync.CycleRecord
import AssetSync.Json.Decode
import AssetSync.Key
import AssetSync.Source.Error

namespace AssetSync

open Json

def optionalField (name : String) : Option Json → List (String × Json)
  | some value => [(name, value)]
  | none => []

def AssetState.variants : List (String × AssetState) :=
  all.map fun state => (state.name, state)

def AssetState.decode : Decoder AssetState :=
  Decoder.variant variants

namespace Asset

def toJson (asset : Asset) : Json :=
  .ofFields [
    ("asset_id", .str asset.id),
    ("state", .str asset.state.name),
    ("retry_count", .ofUInt32 asset.retryCount)]

def shape : Shape where
  name := "AssetToState"
  fields := [
    .required "asset_id" Decoder.string,
    .required "state" AssetState.decode,
    .defaulted "retry_count" Decoder.uint32]
  closed := false

def decode : Decoder Asset := fun json => do
  let given ← shape.given json
  .ok {
    id := ← requiredField given "asset_id" Decoder.string
    state := ← requiredField given "state" AssetState.decode
    retryCount := ← fieldOr given "retry_count" Decoder.uint32 0 }

end Asset

namespace Batch

def toJson (batch : Batch) : Json :=
  .ofFields (optionalField "data" batch.data ++
    [("assets_to_state", .arr (batch.assets.map Asset.toJson))])

def shape : Shape where
  name := "Assets"
  fields := [
    .defaulted "data" (Decoder.option Decoder.any),
    .required "assets_to_state" (Decoder.list Asset.decode)]
  closed := false

def decode : Decoder Batch := fun json => do
  let given ← shape.given json
  .ok {
    data := ← fieldOr given "data" (Decoder.option Decoder.any) none
    assets := ← requiredField given "assets_to_state" (Decoder.list Asset.decode) }

end Batch

def CursorLabel.variants : List (String × CursorLabel) :=
  all.map fun label => (label.name, label)

def CursorLabel.decode : Decoder CursorLabel :=
  Decoder.variant variants

namespace Cursor

def toJson (cursor : Cursor) : Json :=
  cursor

def decode : Decoder Cursor :=
  Decoder.any

end Cursor

namespace Checkpoint

def toJson (checkpoint : Checkpoint) : Json :=
  .ofFields [
    ("cursor", checkpoint.cursor.toJson),
    ("label", .str checkpoint.label.name),
    ("updated_at", .str checkpoint.updatedAt)]

def shape : Shape where
  name := "CursorCheckpoint"
  fields := [
    .required "cursor" Cursor.decode,
    .required "label" CursorLabel.decode,
    .required "updated_at" Decoder.string]
  closed := false

def decode : Decoder Checkpoint := fun json => do
  let given ← shape.given json
  .ok {
    cursor := ← requiredField given "cursor" Cursor.decode
    label := ← requiredField given "label" CursorLabel.decode
    updatedAt := ← requiredField given "updated_at" Decoder.string }

end Checkpoint

def CycleStatus.variants : List (String × CycleStatus) :=
  all.map fun status => (status.name, status)

def CycleStatus.decode : Decoder CycleStatus :=
  Decoder.variant variants

namespace CycleRecord

def toJson (record : CycleRecord) : Json :=
  .ofFields ([
    ("status", .str record.status.name),
    ("assets_total", .ofUInt64 record.assetsTotal),
    ("assets_finished", .ofUInt64 record.assetsFinished),
    ("assets_active", .ofUInt64 record.assetsActive),
    ("assets_failed", .ofUInt64 record.assetsFailed),
    ("bytes_sent", .ofUInt64 record.bytesSent),
    ("duration_ms", .ofUInt64 record.durationMs)] ++
    optionalField "error_message" (record.errorMessage.map .str) ++
    optionalField "finished_at" (record.finishedAt.map .str))

def shape : Shape where
  name := "CycleRecord"
  fields := [
    .required "status" CycleStatus.decode,
    .required "assets_total" Decoder.uint64,
    .required "assets_finished" Decoder.uint64,
    .required "assets_active" Decoder.uint64,
    .required "assets_failed" Decoder.uint64,
    .required "bytes_sent" Decoder.uint64,
    .required "duration_ms" Decoder.uint64,
    .defaulted "error_message" (Decoder.option Decoder.string),
    .defaulted "finished_at" (Decoder.option Decoder.string)]
  closed := false

def decode : Decoder CycleRecord := fun json => do
  let given ← shape.given json
  .ok {
    status := ← requiredField given "status" CycleStatus.decode
    assetsTotal := ← requiredField given "assets_total" Decoder.uint64
    assetsFinished := ← requiredField given "assets_finished" Decoder.uint64
    assetsActive := ← requiredField given "assets_active" Decoder.uint64
    assetsFailed := ← requiredField given "assets_failed" Decoder.uint64
    bytesSent := ← requiredField given "bytes_sent" Decoder.uint64
    durationMs := ← requiredField given "duration_ms" Decoder.uint64
    errorMessage := ← fieldOr given "error_message" (Decoder.option Decoder.string) none
    finishedAt := ← fieldOr given "finished_at" (Decoder.option Decoder.string) none }

end CycleRecord

namespace SyncerKey

def toJson (key : SyncerKey) : Json :=
  .ofFields [
    ("integration_id", .str key.integrationId),
    ("syncer_instance_id", .str key.instanceId)]

def shape : Shape where
  name := "SyncerKey"
  fields := [
    .required "integration_id" Decoder.string,
    .required "syncer_instance_id" Decoder.string]
  closed := false

def decode : Decoder SyncerKey := fun json => do
  let given ← shape.given json
  .ok {
    integrationId := ← requiredField given "integration_id" Decoder.string
    instanceId := ← requiredField given "syncer_instance_id" Decoder.string }

end SyncerKey

def ErrorCategory.variants : List (String × ErrorCategory) :=
  all.map fun category => (category.name, category)

def ErrorCategory.decode : Decoder ErrorCategory :=
  Decoder.variant variants

namespace SourceError

def toJson (e : SourceError) : Json :=
  .ofFields [
    ("category", .str e.category.name),
    ("code", .str e.code),
    ("message", .str e.message)]

def shape : Shape where
  name := "AdapterError"
  fields := [
    .required "category" ErrorCategory.decode,
    .required "code" Decoder.string,
    .required "message" Decoder.string]
  closed := false

def decode : Decoder SourceError := fun json => do
  let given ← shape.given json
  .ok {
    category := ← requiredField given "category" ErrorCategory.decode
    code := ← requiredField given "code" Decoder.string
    message := ← requiredField given "message" Decoder.string }

end SourceError

end AssetSync
