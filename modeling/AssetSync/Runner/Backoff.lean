import AssetSync.Duration

/-!
How long a runner waits after failed cycles: the interval doubles with each failure after the first
and never exceeds the largest wait, or the interval itself where that is longer.
-/

namespace AssetSync

def backoffFactor (failures : UInt32) : Nat :=
  if failures.toNat ≤ 32 then 1 <<< (failures.toNat - 1) else UInt32.size - 1

def backoff (interval maxBackoff : Duration) (failures : UInt32) : Duration :=
  (interval.scale (backoffFactor failures)).min (maxBackoff.max interval)

end AssetSync
