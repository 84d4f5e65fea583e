import AssetSync.Asset.Answer
import AssetSync.Asset.Selection
import AssetSync.Cycle.Event
import AssetSync.Json.Printer
import AssetSync.Store.Service

/-!
One sync cycle: load the checkpoint and the open assets, discover a page of new ones, fetch all of
them in chunks and send each payload, and only then commit the states and the cursor. No time passes
during a cycle, and nothing is logged.
-/

namespace AssetSync

inductive SyncError where
  | duplicateAsset (id : AssetId)
  | stateCountMismatch (expected actual : Nat)
  deriving DecidableEq

def SyncError.message : SyncError → String
  | .duplicateAsset id => "asset " ++ id ++ " appears more than once in the merged batch"
  | .stateCountMismatch expected actual =>
    "asset state count mismatch: " ++ toString expected ++ " fetched, " ++ toString actual ++
      " updated"

structure SyncSettings where
  key : SyncerKey
  batchSize : Nat
  maxRetries : UInt32
  batchSize_pos : 0 < batchSize

inductive Interrupt where
  | abort (stage : AbortStage) (message : String)
  | violation (e : SyncError)
  | crash

inductive CycleEnd where
  | reported (report : CycleReport)
  | violated (e : SyncError)
  | crashed

def chunks {α : Type} (size : Nat) (positive : 0 < size) (xs : List α) : List (List α) :=
  match xs with
  | [] => []
  | x :: rest => (x :: rest).take size :: chunks size positive ((x :: rest).drop size)
termination_by xs.length
decreasing_by simp; omega

structure CycleWorld (σ τ : Type) where
  source : σ
  store : τ
  progress : CycleProgress
  trace : List Event

namespace CycleWorld

variable {σ τ α : Type}

def log (w : CycleWorld σ τ) (event : Event) : CycleWorld σ τ :=
  { w with trace := w.trace ++ [event] }

def track (w : CycleWorld σ τ) (call : StoreCall τ α) (event : Except StoreError α → Event) :
    Except StoreError α × CycleWorld σ τ :=
  let (answer, store) := call w.store
  (answer, { w with store }.log (event answer))

def ask (w : CycleWorld σ τ) (call : σ → α × σ) (event : α → Event) : α × CycleWorld σ τ :=
  let (answer, source) := call w.source
  (answer, { w with source }.log (event answer))

end CycleWorld

namespace Cycle

variable {σ τ α : Type}

abbrev Step (σ τ : Type) := ExceptT Interrupt (StateM (CycleWorld σ τ))

def measure (metric : Metric) : Step σ τ Unit :=
  modify (·.log (.metric metric))

def note (change : CycleProgress → CycleProgress) : Step σ τ Unit :=
  modify fun w => { w with progress := change w.progress }

def track (call : StoreCall τ α) (event : Except StoreError α → Event) :
    Step σ τ (Except StoreError α) :=
  modifyGet (·.track call event)

def ask (call : σ → α × σ) (event : α → Event) : Step σ τ α :=
  modifyGet (·.ask call event)

def orAbort (stage : AbortStage) : Except StoreError α → Step σ τ α
  | .ok value => return value
  | .error e => throw (.abort stage e.message)

def start (source : Source σ) (service : TrackingService τ) (key : SyncerKey) :
    Step σ τ (Cursor × CursorLabel) := do
  let checkpoint ← orAbort .loadCheckpoint
    (← track (service.loadCheckpoint key) (.loadCheckpoint key))
  match checkpoint with
  | some checkpoint => return (checkpoint.cursor, .update)
  | none =>
    match ← ask source.initCursor .initCursor with
    | .ok cursor => return (cursor, .init)
    | .error e => throw (.abort .initCursor e.display)

def loadOpen (service : TrackingService τ) (settings : SyncSettings) : Step σ τ Budgeted := do
  let records ← orAbort .loadActiveAssets
    (← track (service.loadActive settings.key) (.loadActive settings.key))
  let found := OpenAssets.ofRecords records
  let budgeted := Budgeted.ofAssets found.assets settings.maxRetries
  note fun p =>
    { p with skippedRecords := found.skipped, exhausted := budgeted.exhausted.length }
  measure (.failedAssets budgeted.failedCount)
  measure (.exhaustedAssets budgeted.exhausted.length)
  return budgeted

def discover (source : Source σ) (size : Nat) (cursor : Cursor) :
    Step σ τ (List Asset × Cursor) := do
  match ← ask (source.firstPage? cursor size) (.discover cursor size) with
  | none => return ([], cursor)
  | some (.ok page) => return (page.batch.assets, page.nextCursor)
  | some (.error e) =>
    measure (.cycleError e.display)
    note fun p => { p with pageError := some e.display }
    return ([], cursor)

def send (service : TrackingService τ) (key : SyncerKey) (data : Json) : Step σ τ Unit := do
  let bytes := data.text.utf8ByteSize
  measure (.payloadBytes bytes)
  let sent ← track (service.savePayload key data) (.savePayload key data)
  measure (.sendTime .zero)
  orAbort .saveTrackingData sent
  note fun p => { p with payloadsSent := p.payloadsSent + 1, bytesSent := p.bytesSent + bytes }

def forward (source : Source σ) (service : TrackingService τ) (key : SyncerKey)
    (chunk : List Asset) : Step σ τ (List Asset) := do
  let request := Batch.pending chunk
  let fetched ← ask (source.fetch request) (.fetch request)
  match fetched with
  | .crashed => throw .crash
  | .failed e =>
    measure (.fetchTime .zero)
    measure (.fetchError e.display)
    note fun p => { p with fetchErrors := p.fetchErrors + 1 }
    return failAll chunk
  | .answer batch =>
    measure (.fetchTime .zero)
    match batch.payload? with
    | some data => send service key data
    | none => pure ()
    return applyAnswer chunk batch.assets

/-- Takes the time of a chunk, also when it ends the cycle. -/
def timed (step : Step σ τ α) : Step σ τ α := do
  match ← ExceptT.lift step.run with
  | .ok value =>
    measure (.chunkTime .zero)
    return value
  | .error .crash => throw .crash
  | .error interrupt =>
    measure (.chunkTime .zero)
    throw interrupt

def forwardAll (source : Source σ) (service : TrackingService τ) (key : SyncerKey) :
    List (List Asset) → Step σ τ (List Asset)
  | [] => return []
  | chunk :: rest => do
    let states ← timed (forward source service key chunk)
    return states ++ (← forwardAll source service key rest)

def commit (service : TrackingService τ) (key : SyncerKey) (states : List Asset)
    (label : CursorLabel) (cursor : Cursor) : Step σ τ Unit := do
  unless states.isEmpty do
    orAbort .saveAssetsState
      (← track (service.saveStates key states) (.saveStates key states))
  orAbort .updateCursor
    (← track (service.saveCursor key label cursor) (.saveCursor key label cursor))

def body (source : Source σ) (service : TrackingService τ) (settings : SyncSettings) :
    Step σ τ (Cursor × CursorLabel) := do
  let key := settings.key
  let (cursor, label) ← start source service key
  let budgeted ← loadOpen service settings
  let (discovered, next) ← discover source settings.batchSize cursor
  let merged := fetchSet budgeted.fetchable discovered (budgeted.exhausted.map Asset.id)
  if let some id := firstRepeated? [] merged then
    throw (.violation (.duplicateAsset id))
  measure (.fetchSetSize merged.length)
  let updated ← forwardAll source service key
    (chunks settings.batchSize settings.batchSize_pos merged)
  unless updated.length = merged.length do
    throw (.violation (.stateCountMismatch merged.length updated.length))
  note fun p => { p with assets := updated }
  commit service key updated label next
  return (next, label)

/-- Reports how the cycle ended and adds a row to the history; that this fails changes nothing. -/
def report (service : TrackingService τ) (key : SyncerKey) (outcome : CycleOutcome)
    (w : CycleWorld σ τ) : CycleEnd × CycleWorld σ τ :=
  let report : CycleReport := { w.progress with outcome, duration := .zero }
  let row := report.toRecord
  (.reported report, (w.track (service.recordCycle key row) (.recordCycle key row)).2)

def conclude (service : TrackingService τ) (key : SyncerKey) :
    Except Interrupt (Cursor × CursorLabel) → CycleWorld σ τ → CycleEnd × CycleWorld σ τ
  | .error .crash, w => (.crashed, w)
  | .ok (cursor, label), w =>
    report service key (.committed cursor label) (w.log (.metric (.cycleTime .zero)))
  | .error (.abort stage message), w =>
    report service key (.aborted stage message)
      ((w.log (.metric (.cycleTime .zero))).log (.metric (.cycleError message)))
  | .error (.violation e), w =>
    (.violated e, (w.log (.metric (.cycleTime .zero))).log (.metric (.cycleError e.message)))

end Cycle

structure CycleRun (σ τ : Type) where
  ended : CycleEnd
  source : σ
  store : τ
  trace : List Event

def runCycle {σ τ : Type} (source : Source σ) (service : TrackingService τ)
    (settings : SyncSettings) (s : σ) (t : τ) : CycleRun σ τ :=
  let (done, w) := Cycle.body source service settings ⟨s, t, .start, []⟩
  let (ended, w) := Cycle.conclude service settings.key done w
  ⟨ended, w.source, w.store, w.trace⟩

end AssetSync
