import AssetSync.Store.Service

/-!
A tracking service that refuses some calls of a cycle. A refused call reaches nobody, so it changes
nothing.
-/

namespace AssetSync

inductive TrackingCall where
  | loadCheckpoint
  | loadActive
  | savePayload
  | saveStates
  | saveCursor
  | recordCycle
  deriving DecidableEq

abbrev Refusals := TrackingCall → List TrackingCall → Option StoreError

structure Refusing (τ : Type) where
  inner : τ
  calls : List TrackingCall

namespace Refusing

variable {τ α : Type}

def pass (run : StoreCall τ α) : StoreCall (Refusing τ) α := fun s =>
  let (answer, inner) := run s.inner
  (answer, { s with inner })

def guard (refusals : Refusals) (call : TrackingCall) (run : StoreCall τ α) :
    StoreCall (Refusing τ) α := fun s =>
  let calls := call :: s.calls
  match refusals call s.calls with
  | some e => (.error e, { s with calls })
  | none =>
    let (answer, inner) := run s.inner
    (answer, ⟨inner, calls⟩)

def service (behind : TrackingService τ) (refusals : Refusals) : TrackingService (Refusing τ) where
  loadCheckpoint key := guard refusals .loadCheckpoint (behind.loadCheckpoint key)
  loadActive key := guard refusals .loadActive (behind.loadActive key)
  savePayload key data := guard refusals .savePayload (behind.savePayload key data)
  saveStates key assets := guard refusals .saveStates (behind.saveStates key assets)
  saveCursor key label cursor := guard refusals .saveCursor (behind.saveCursor key label cursor)
  recordCycle key record := guard refusals .recordCycle (behind.recordCycle key record)
  assetStates key withFinished := pass (behind.assetStates key withFinished)
  payloads key limit := pass (behind.payloads key limit)
  recentCycles key limit := pass (behind.recentCycles key limit)

end Refusing

end AssetSync
