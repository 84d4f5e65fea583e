import AssetSync.Cycle.Run
import AssetSync.Json.Decode
import AssetSync.Lines.Source
import AssetSync.Runner.Loop

namespace AssetSync

open Json

structure SyncSection where
  intervalSeconds : UInt64
  batchSize : Nat
  maxRetryCount : UInt32
  maxBackoffSeconds : UInt64
  deriving DecidableEq

structure AdapterSection where
  use : String
  config : Json

inductive BackendKind where
  | sqlite
  | postgres
  deriving DecidableEq

structure StateSection where
  backend : BackendKind
  connection : Option String
  deriving DecidableEq

structure MetricsSection where
  listen : Option String
  deriving DecidableEq

structure SyncerConfig where
  version : String
  integrationId : String
  instanceId : String
  sync : SyncSection
  adapter : AdapterSection
  state : StateSection
  metrics : MetricsSection

def optionalText : Option String → Json
  | some text => .str text
  | none => .null

namespace SyncSection

def default : SyncSection :=
  ⟨10, 100, 5, 300⟩

def shape : Shape where
  name := "SyncSettings"
  fields := [
    .defaulted "interval_seconds" Decoder.uint64,
    .defaulted "batch_size" Decoder.size,
    .defaulted "max_retry_count" Decoder.uint32,
    .defaulted "max_backoff_seconds" Decoder.uint64]
  closed := false

def decode : Decoder SyncSection := fun json => do
  let given ← shape.given json
  .ok {
    intervalSeconds := ← fieldOr given "interval_seconds" Decoder.uint64 10
    batchSize := ← fieldOr given "batch_size" Decoder.size 100
    maxRetryCount := ← fieldOr given "max_retry_count" Decoder.uint32 5
    maxBackoffSeconds := ← fieldOr given "max_backoff_seconds" Decoder.uint64 300 }

def toJson (s : SyncSection) : Json :=
  .ofFields [
    ("interval_seconds", .ofUInt64 s.intervalSeconds),
    ("batch_size", .ofUInt64 (UInt64.ofNat s.batchSize)),
    ("max_retry_count", .ofUInt32 s.maxRetryCount),
    ("max_backoff_seconds", .ofUInt64 s.maxBackoffSeconds)]

def runnerOptions (s : SyncSection) (maxCycles : Option Nat) : RunnerOptions :=
  ⟨.ofSeconds s.intervalSeconds, .ofSeconds s.maxBackoffSeconds, maxCycles⟩

end SyncSection

namespace AdapterSection

def shape : Shape where
  name := "AdapterConfig"
  fields := [
    .required "use" Decoder.string,
    .defaulted "config" Decoder.any]
  closed := false

def decode : Decoder AdapterSection := fun json => do
  let given ← shape.given json
  .ok {
    use := ← requiredField given "use" Decoder.string
    config := ← fieldOr given "config" Decoder.any .null }

def toJson (s : AdapterSection) : Json :=
  .ofFields [("use", .str s.use), ("config", s.config)]

end AdapterSection

namespace BackendKind

def name : BackendKind → String
  | .sqlite => "sqlite"
  | .postgres => "postgres"

def variants : List (String × BackendKind) :=
  [("sqlite", .sqlite), ("postgres", .postgres)]

end BackendKind

namespace StateSection

def default : StateSection :=
  ⟨.sqlite, none⟩

def shape : Shape where
  name := "StateConfig"
  fields := [
    .defaulted "backend" (Decoder.variant BackendKind.variants),
    .defaulted "connection" (Decoder.option Decoder.string)]
  closed := false

def decode : Decoder StateSection := fun json => do
  let given ← shape.given json
  .ok {
    backend := ← fieldOr given "backend" (Decoder.variant BackendKind.variants) .sqlite
    connection := ← fieldOr given "connection" (Decoder.option Decoder.string) none }

def toJson (s : StateSection) : Json :=
  .ofFields [("backend", .str s.backend.name), ("connection", optionalText s.connection)]

end StateSection

namespace MetricsSection

def default : MetricsSection :=
  ⟨none⟩

def shape : Shape where
  name := "MetricsConfig"
  fields := [.defaulted "listen" (Decoder.option Decoder.string)]
  closed := false

def decode : Decoder MetricsSection := fun json => do
  let given ← shape.given json
  .ok { listen := ← fieldOr given "listen" (Decoder.option Decoder.string) none }

def toJson (s : MetricsSection) : Json :=
  .ofFields [("listen", optionalText s.listen)]

end MetricsSection

namespace SyncerConfig

def shape : Shape where
  name := "SyncerConfig"
  fields := [
    .required "version" Decoder.string,
    .required "integration_id" Decoder.string,
    .required "syncer_instance_id" Decoder.string,
    .defaulted "sync" SyncSection.decode,
    .required "adapter" AdapterSection.decode,
    .defaulted "state" StateSection.decode,
    .defaulted "metrics" MetricsSection.decode]
  closed := false

def decode : Decoder SyncerConfig := fun json => do
  let given ← shape.given json
  .ok {
    version := ← requiredField given "version" Decoder.string
    integrationId := ← requiredField given "integration_id" Decoder.string
    instanceId := ← requiredField given "syncer_instance_id" Decoder.string
    sync := ← fieldOr given "sync" SyncSection.decode .default
    adapter := ← requiredField given "adapter" AdapterSection.decode
    state := ← fieldOr given "state" StateSection.decode .default
    metrics := ← fieldOr given "metrics" MetricsSection.decode .default }

def toJson (c : SyncerConfig) : Json :=
  .ofFields [
    ("version", .str c.version),
    ("integration_id", .str c.integrationId),
    ("syncer_instance_id", .str c.instanceId),
    ("sync", c.sync.toJson),
    ("adapter", c.adapter.toJson),
    ("state", c.state.toJson),
    ("metrics", c.metrics.toJson)]

def key (c : SyncerConfig) : SyncerKey :=
  ⟨c.integrationId, c.instanceId⟩

def settings? (c : SyncerConfig) : Option SyncSettings :=
  if h : 0 < c.sync.batchSize then some ⟨c.key, c.sync.batchSize, c.sync.maxRetryCount, h⟩
  else none

end SyncerConfig

end AssetSync
