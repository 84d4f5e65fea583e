import AssetSync.Duration
import AssetSync.Key

namespace AssetSync

inductive Metric where
  | cycleTime (elapsed : Duration)
  | chunkTime (elapsed : Duration)
  | fetchTime (elapsed : Duration)
  | sendTime (elapsed : Duration)
  | fetchSetSize (count : Nat)
  | payloadBytes (count : Nat)
  | fetchError (message : String)
  | cycleError (message : String)
  | failedAssets (count : Nat)
  | exhaustedAssets (count : Nat)
  deriving DecidableEq

inductive Instrument where
  | histogram (value : Binary64)
  | gauge (value : Binary64)
  | counter

structure Sample where
  instrument : Instrument
  series : String
  labels : List (String × String)

namespace Metric

def series : Metric → String
  | .cycleTime _ => "generic_syncer_sync_once_total_duration_seconds"
  | .chunkTime _ => "generic_syncer_sync_once_batch_duration_seconds"
  | .fetchTime _ => "generic_syncer_get_assets_data_response_time_seconds"
  | .sendTime _ => "generic_syncer_save_tracking_data_response_time_seconds"
  | .fetchSetSize _ => "generic_syncer_total_assets_size"
  | .payloadBytes _ => "generic_syncer_assets_data_batch_size_bytes"
  | .fetchError _ => "generic_syncer_assets_data_error_counter"
  | .cycleError _ => "generic_syncer_error_counter"
  | .failedAssets _ => "generic_syncer_total_failed_assets_requests"
  | .exhaustedAssets _ => "generic_syncer_total_max_retry_assets_requests"

def instrument : Metric → Instrument
  | .cycleTime d | .chunkTime d | .fetchTime d | .sendTime d => .histogram d.toSeconds
  | .payloadBytes n => .histogram (.ofNat n)
  | .fetchSetSize n | .failedAssets n | .exhaustedAssets n => .gauge (.ofNat n)
  | .fetchError _ | .cycleError _ => .counter

def labels (metric : Metric) (key : SyncerKey) : List (String × String) :=
  let keyed := [("integration_id", key.integrationId), ("syncer_instance_id", key.instanceId)]
  match metric with
  | .fetchError message | .cycleError message => keyed ++ [("error_message", message)]
  | _ => keyed

def sample (metric : Metric) (key : SyncerKey) : Sample :=
  ⟨metric.instrument, metric.series, metric.labels key⟩

end Metric

end AssetSync
