import AssetSync.Cycle.Metric
import AssetSync.Cycle.Report
import AssetSync.Source.Basic
import AssetSync.Store.Error

namespace AssetSync

inductive Event where
  | loadCheckpoint (key : SyncerKey) (answer : Except StoreError (Option Checkpoint))
  | initCursor (answer : Except SourceError Cursor)
  | loadActive (key : SyncerKey) (answer : Except StoreError (List Json))
  | discover (cursor : Cursor) (size : Nat) (answer : Option (Except SourceError Page))
  | fetch (request : Batch) (answer : Fetched)
  | savePayload (key : SyncerKey) (data : Json) (answer : Except StoreError Unit)
  | saveStates (key : SyncerKey) (assets : List Asset) (answer : Except StoreError Unit)
  | saveCursor (key : SyncerKey) (label : CursorLabel) (cursor : Cursor)
    (answer : Except StoreError Unit)
  | recordCycle (key : SyncerKey) (record : CycleRecord) (answer : Except StoreError Unit)
  | metric (metric : Metric)

end AssetSync
