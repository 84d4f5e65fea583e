import AssetSync.Config.Basic
import AssetSync.Config.SocketAddress
import AssetSync.Text.Blank

namespace AssetSync

def availableSources : List String :=
  [linesSourceName]

inductive ConfigProblem where
  | version (version : String)
  | blankIntegrationId
  | blankInstanceId
  | zeroBatchSize
  | zeroInterval
  | shortBackoff (maxBackoff interval : UInt64)
  | noSource
  | unknownSource (name : String)
  | noConnection
  | badListen (listen : String)
  deriving DecidableEq

def unknownSourceMessage (name : String) : String :=
  "Unknown adapter '" ++ name ++ "', available: " ++ ", ".intercalate availableSources

def zeroBatchSizeMessage : String := "sync.batch_size must be at least 1"

def ConfigProblem.message : ConfigProblem → String
  | .version given => "Unsupported syncer version '" ++ given ++ "', expected '1.0'"
  | .blankIntegrationId => "integration_id must not be empty"
  | .blankInstanceId => "syncer_instance_id must not be empty"
  | .zeroBatchSize => zeroBatchSizeMessage
  | .zeroInterval => "sync.interval_seconds must be > 0"
  | .shortBackoff maxBackoff interval =>
    "sync.max_backoff_seconds (" ++ toString maxBackoff.toNat ++ ") must be >= interval_seconds (" ++
      toString interval.toNat ++ ")"
  | .noSource => "Adapter reference (use) must not be empty"
  | .unknownSource name => unknownSourceMessage name
  | .noConnection => "state.backend 'postgres' requires state.connection"
  | .badListen listen =>
    "metrics.listen '" ++ listen ++ "' is not a socket address (host:port)"

namespace SyncerConfig

def check (ok : Bool) (problem : ConfigProblem) : List ConfigProblem :=
  if ok then [] else [problem]

def sourceName (c : SyncerConfig) : String :=
  Text.trim c.adapter.use

def sourceProblems (c : SyncerConfig) : List ConfigProblem :=
  if c.sourceName.isEmpty then [.noSource]
  else check (availableSources.contains c.sourceName) (.unknownSource c.sourceName)

def listenProblems (c : SyncerConfig) : List ConfigProblem :=
  match c.metrics.listen with
  | some listen => check (SocketAddress.isValid listen) (.badListen listen)
  | none => []

def problems (c : SyncerConfig) : List ConfigProblem :=
  check (c.version == "1.0") (.version c.version) ++
  check (!Text.isAllBlank c.integrationId) .blankIntegrationId ++
  check (!Text.isAllBlank c.instanceId) .blankInstanceId ++
  check (c.sync.batchSize != 0) .zeroBatchSize ++
  check (c.sync.intervalSeconds != 0) .zeroInterval ++
  check (c.sync.intervalSeconds ≤ c.sync.maxBackoffSeconds)
    (.shortBackoff c.sync.maxBackoffSeconds c.sync.intervalSeconds) ++
  sourceProblems c ++
  check (c.state.backend != .postgres || c.state.connection.any (!Text.isAllBlank ·))
    .noConnection ++
  listenProblems c

def problemsMessage (problems : List ConfigProblem) : String :=
  "Syncer validation failed:\n  - " ++ "\n  - ".intercalate (problems.map ConfigProblem.message)

def validate (c : SyncerConfig) : Except (List ConfigProblem) Unit :=
  match c.problems with
  | [] => .ok ()
  | problems => .error problems

def linesConfig (c : SyncerConfig) : Except String LinesConfig :=
  if c.sourceName = linesSourceName then
    (LinesConfig.ofJson c.adapter.config).mapError SourceError.display
  else .error (unknownSourceMessage c.sourceName)

end SyncerConfig

end AssetSync
