import AssetSync.Config.Basic
import AssetSync.Config.Environment
import AssetSync.Yaml.Decode

namespace AssetSync

open Yaml Yaml.Decoder

def SyncSection.ofYaml : Yaml.Decoder SyncSection := fun document depth node => do
  let given ← fields
    ["interval_seconds", "batch_size", "max_retry_count", "max_backoff_seconds"] document depth node
  return {
    intervalSeconds :=
      .ofNat (← fieldOr given "interval_seconds" (count UInt64.size) 10 document depth)
    batchSize := ← fieldOr given "batch_size" (count UInt64.size) 100 document depth
    maxRetryCount := .ofNat (← fieldOr given "max_retry_count" (count UInt32.size) 5 document depth)
    maxBackoffSeconds :=
      .ofNat (← fieldOr given "max_backoff_seconds" (count UInt64.size) 300 document depth) }

def AdapterSection.ofYaml : Yaml.Decoder AdapterSection := fun document depth node => do
  let given ← fields ["use", "config"] document depth node
  return {
    use := ← requiredField given "use" text document depth
    config := ← fieldOr given "config" json .null document depth }

def StateSection.ofYaml : Yaml.Decoder StateSection := fun document depth node => do
  let given ← fields ["backend", "connection"] document depth node
  return {
    backend := ← fieldOr given "backend" (variant BackendKind.variants) .sqlite document depth
    connection := ← fieldOr given "connection" (option text) none document depth }

def MetricsSection.ofYaml : Yaml.Decoder MetricsSection := fun document depth node => do
  let given ← fields ["listen"] document depth node
  return { listen := ← fieldOr given "listen" (option text) none document depth }

def SyncerConfig.ofYaml : Yaml.Decoder SyncerConfig := fun document depth node => do
  let given ← fields ["version", "integration_id", "syncer_instance_id", "sync", "adapter", "state",
    "metrics"] document depth node
  return {
    version := ← requiredField given "version" text document depth
    integrationId := ← requiredField given "integration_id" text document depth
    instanceId := ← requiredField given "syncer_instance_id" text document depth
    sync := ← fieldOr given "sync" SyncSection.ofYaml .default document depth
    adapter := ← requiredField given "adapter" AdapterSection.ofYaml document depth
    state := ← fieldOr given "state" StateSection.ofYaml .default document depth
    metrics := ← fieldOr given "metrics" MetricsSection.ofYaml .default document depth }

inductive ConfigReadError where
  | missingVariables (names : List String)
  | malformed
  deriving DecidableEq

def ConfigReadError.message : ConfigReadError → String
  | .missingVariables names => Environment.missingMessage names
  | .malformed => "Failed to parse syncer YAML"

def SyncerConfig.read (env : Environment) (text : String) : Except ConfigReadError SyncerConfig :=
  match env.substitute text with
  | .error names => .error (.missingVariables names)
  | .ok text =>
    match Yaml.decode? SyncerConfig.ofYaml text with
    | some config => .ok config
    | none => .error .malformed

end AssetSync
