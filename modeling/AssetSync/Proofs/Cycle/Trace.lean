import AssetSync.Cycle.Run

/-!
The traces that a cycle can leave, part by part, each with what the part comes to. Calls stand in
the order in which they are made, with the measurements between them; a part that fails is followed
by no other call but the row in the history.
-/

namespace AssetSync.Cycle

inductive StartTrace (key : SyncerKey) :
    List Event → Except Interrupt (Cursor × CursorLabel) → Prop
  | resumed (checkpoint : Checkpoint) :
    StartTrace key [.loadCheckpoint key (.ok (some checkpoint))] (.ok (checkpoint.cursor, .update))
  | fresh (cursor : Cursor) :
    StartTrace key [.loadCheckpoint key (.ok none), .initCursor (.ok cursor)] (.ok (cursor, .init))
  | unloaded (e : StoreError) :
    StartTrace key [.loadCheckpoint key (.error e)] (.error (.abort .loadCheckpoint e.message))
  | sourceless (e : SourceError) :
    StartTrace key [.loadCheckpoint key (.ok none), .initCursor (.error e)]
      (.error (.abort .initCursor e.display))

def budgeted (settings : SyncSettings) (records : List Json) : Budgeted :=
  .ofAssets (OpenAssets.ofRecords records).assets settings.maxRetries

inductive LoadTrace (settings : SyncSettings) : List Event → Except Interrupt Budgeted → Prop
  | loaded (records : List Json) :
    LoadTrace settings
      [.loadActive settings.key (.ok records),
        .metric (.failedAssets (budgeted settings records).failedCount),
        .metric (.exhaustedAssets (budgeted settings records).exhausted.length)]
      (.ok (budgeted settings records))
  | failed (e : StoreError) :
    LoadTrace settings [.loadActive settings.key (.error e)]
      (.error (.abort .loadActiveAssets e.message))

def discovery (cursor : Cursor) : Option (Except SourceError Page) → List Asset × Cursor
  | some (.ok page) => (page.batch.assets, page.nextCursor)
  | _ => ([], cursor)

def discoveryMetrics : Option (Except SourceError Page) → List Event
  | some (.error e) => [.metric (.cycleError e.display)]
  | _ => []

structure Plan where
  assets : List Asset
  cursor : Cursor
  label : CursorLabel

def plan (b : Budgeted) (cursor : Cursor) (label : CursorLabel)
    (page : Option (Except SourceError Page)) : Plan where
  assets := fetchSet b.fetchable (discovery cursor page).1 (b.exhausted.map Asset.id)
  cursor := (discovery cursor page).2
  label := label

inductive PlanTrace (settings : SyncSettings) : List Event → Except Interrupt Plan → Prop
  | unstarted {events : List Event} {interrupt : Interrupt}
      (started : StartTrace settings.key events (.error interrupt)) :
    PlanTrace settings events (.error interrupt)
  | unloaded {events loading : List Event} {cursor : Cursor} {label : CursorLabel}
      {interrupt : Interrupt} (started : StartTrace settings.key events (.ok (cursor, label)))
      (loaded : LoadTrace settings loading (.error interrupt)) :
    PlanTrace settings (events ++ loading) (.error interrupt)
  | planned {events loading : List Event} {cursor : Cursor} {label : CursorLabel} {b : Budgeted}
      (started : StartTrace settings.key events (.ok (cursor, label)))
      (loaded : LoadTrace settings loading (.ok b)) (page : Option (Except SourceError Page)) :
    PlanTrace settings
      (events ++ loading ++ .discover cursor settings.batchSize page ::
        (discoveryMetrics page ++
          [.metric (.fetchSetSize (plan b cursor label page).assets.length)]))
      (.ok (plan b cursor label page))

inductive ChunkTrace (key : SyncerKey) (chunk : List Asset) :
    List Event → Except Interrupt (List Asset) → Prop
  | unfetched (e : SourceError) :
    ChunkTrace key chunk
      [.fetch (.pending chunk) (.failed e), .metric (.fetchTime .zero),
        .metric (.fetchError e.display)]
      (.ok (failAll chunk))
  | silent {batch : Batch} (nothing : batch.hasData = false) :
    ChunkTrace key chunk
      [.fetch (.pending chunk) (.answer batch), .metric (.fetchTime .zero)]
      (.ok (applyAnswer chunk batch.assets))
  | sent {batch : Batch} {data : Json} (worth : batch.hasData) (payload : batch.data = some data) :
    ChunkTrace key chunk
      [.fetch (.pending chunk) (.answer batch), .metric (.fetchTime .zero),
        .metric (.payloadBytes data.text.utf8ByteSize), .savePayload key data (.ok ()),
        .metric (.sendTime .zero)]
      (.ok (applyAnswer chunk batch.assets))
  | unsent {batch : Batch} {data : Json} (worth : batch.hasData) (payload : batch.data = some data)
      (e : StoreError) :
    ChunkTrace key chunk
      [.fetch (.pending chunk) (.answer batch), .metric (.fetchTime .zero),
        .metric (.payloadBytes data.text.utf8ByteSize), .savePayload key data (.error e),
        .metric (.sendTime .zero)]
      (.error (.abort .saveTrackingData e.message))
  | crashed :
    ChunkTrace key chunk [.fetch (.pending chunk) .crashed] (.error .crash)

def timing : Except Interrupt (List Asset) → List Event
  | .error .crash => []
  | _ => [.metric (.chunkTime .zero)]

inductive ForwardTrace (key : SyncerKey) :
    List (List Asset) → List Event → Except Interrupt (List Asset) → Prop
  | done : ForwardTrace key [] [] (.ok [])
  | next {chunk : List Asset} {rest : List (List Asset)} {events later : List Event}
      {states : List Asset} {result : Except Interrupt (List Asset)}
      (first : ChunkTrace key chunk events (.ok states))
      (others : ForwardTrace key rest later result) :
    ForwardTrace key (chunk :: rest) (events ++ timing (.ok states) ++ later)
      (result.map (states ++ ·))
  | stopped {chunk : List Asset} {rest : List (List Asset)} {events : List Event}
      {interrupt : Interrupt} (first : ChunkTrace key chunk events (.error interrupt)) :
    ForwardTrace key (chunk :: rest) (events ++ timing (.error interrupt)) (.error interrupt)

inductive CommitTrace (key : SyncerKey) (plan : Plan) (states : List Asset) :
    List Event → Except Interrupt Unit → Prop
  | unsaved (nonempty : plan.assets ≠ []) (e : StoreError) :
    CommitTrace key plan states [.saveStates key states (.error e)]
      (.error (.abort .saveAssetsState e.message))
  | saved (nonempty : plan.assets ≠ []) (answer : Except StoreError Unit) :
    CommitTrace key plan states
      [.saveStates key states (.ok ()), .saveCursor key plan.label plan.cursor answer]
      (answer.mapError fun e => .abort .updateCursor e.message)
  | nothing (empty : plan.assets = []) (answer : Except StoreError Unit) :
    CommitTrace key plan states [.saveCursor key plan.label plan.cursor answer]
      (answer.mapError fun e => .abort .updateCursor e.message)

inductive DeliverTrace (settings : SyncSettings) (plan : Plan) :
    List Event → Except Interrupt (Cursor × CursorLabel) → List Asset → Prop
  | interrupted {forwarding : List Event} {interrupt : Interrupt}
      (forwarded : ForwardTrace settings.key
        (chunks settings.batchSize settings.batchSize_pos plan.assets) forwarding
        (.error interrupt)) :
    DeliverTrace settings plan forwarding (.error interrupt) []
  | forwarded {forwarding commit : List Event} {states : List Asset}
      {result : Except Interrupt Unit}
      (forwarded : ForwardTrace settings.key
        (chunks settings.batchSize settings.batchSize_pos plan.assets) forwarding (.ok states))
      (committed : CommitTrace settings.key plan states commit result) :
    DeliverTrace settings plan (forwarding ++ commit)
      (result.map fun _ => (plan.cursor, plan.label)) states

inductive BodyTrace (settings : SyncSettings) :
    List Event → Except Interrupt (Cursor × CursorLabel) → List Asset → Prop
  | unplanned {events : List Event} {interrupt : Interrupt}
      (planned : PlanTrace settings events (.error interrupt)) :
    BodyTrace settings events (.error interrupt) []
  | planned {events later : List Event} {plan : Plan} {states : List Asset}
      {result : Except Interrupt (Cursor × CursorLabel)}
      (planned : PlanTrace settings events (.ok plan))
      (delivered : DeliverTrace settings plan later result states) :
    BodyTrace settings (events ++ later) result states

/-- A cycle ends with one row in the history, whatever its answer, unless the source crashed. -/
inductive CycleTrace (settings : SyncSettings) : List Event → CycleEnd → Prop
  | crashed {events : List Event} {states : List Asset}
      (body : BodyTrace settings events (.error .crash) states) :
    CycleTrace settings events .crashed
  | aborted {events : List Event} {stage : AbortStage} {message : String} {report : CycleReport}
      (body : BodyTrace settings events (.error (.abort stage message)) report.assets)
      (outcome : report.outcome = .aborted stage message) (answer : Except StoreError Unit) :
    CycleTrace settings
      (events ++ [.metric (.cycleTime .zero), .metric (.cycleError message),
        .recordCycle settings.key report.toRecord answer])
      (.reported report)
  | committed {events : List Event} {cursor : Cursor} {label : CursorLabel} {report : CycleReport}
      (body : BodyTrace settings events (.ok (cursor, label)) report.assets)
      (outcome : report.outcome = .committed cursor label) (answer : Except StoreError Unit) :
    CycleTrace settings
      (events ++ [.metric (.cycleTime .zero), .recordCycle settings.key report.toRecord answer])
      (.reported report)

end AssetSync.Cycle
