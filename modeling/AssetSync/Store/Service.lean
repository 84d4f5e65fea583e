import AssetSync.Asset.Basic
import AssetSync.Checkpoint
import AssetSync.CycleRecord
import AssetSync.Key
import AssetSync.Store.Error

namespace AssetSync

abbrev StoreCall (τ α : Type) := τ → Except StoreError α × τ

structure TrackingService (τ : Type) where
  loadCheckpoint : SyncerKey → StoreCall τ (Option Checkpoint)
  loadActive : SyncerKey → StoreCall τ (List Json)
  savePayload : SyncerKey → Json → StoreCall τ Unit
  saveStates : SyncerKey → List Asset → StoreCall τ Unit
  saveCursor : SyncerKey → CursorLabel → Cursor → StoreCall τ Unit
  recordCycle : SyncerKey → CycleRecord → StoreCall τ Unit
  assetStates : SyncerKey → Bool → StoreCall τ (List Asset)
  payloads : SyncerKey → Nat → StoreCall τ (List Json)
  recentCycles : SyncerKey → Nat → StoreCall τ (List CycleRecord)

def TrackingService.forgetful : TrackingService Unit where
  loadCheckpoint _ s := (.ok none, s)
  loadActive _ s := (.ok [], s)
  savePayload _ _ s := (.ok (), s)
  saveStates _ _ s := (.ok (), s)
  saveCursor _ _ _ s := (.ok (), s)
  recordCycle _ _ s := (.ok (), s)
  assetStates _ _ s := (.error (.unsupported "asset_states"), s)
  payloads _ _ s := (.error (.unsupported "tracking_payloads"), s)
  recentCycles _ _ s := (.error (.unsupported "recent_cycles"), s)

end AssetSync
