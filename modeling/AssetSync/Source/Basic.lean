import AssetSync.Asset.Batch
import AssetSync.Checkpoint
import AssetSync.Source.Error

namespace AssetSync

structure Page where
  batch : Batch
  nextCursor : Cursor

inductive Fetched where
  | answer (batch : Batch)
  | failed (e : SourceError)
  /-- The source brought the whole cycle down. -/
  | crashed

structure Source (σ : Type) where
  name : String
  initCursor : σ → Except SourceError Cursor × σ
  firstPage? : Cursor → Nat → σ → Option (Except SourceError Page) × σ
  fetch : Batch → σ → Fetched × σ

end AssetSync
