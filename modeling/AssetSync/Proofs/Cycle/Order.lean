import AssetSync.Proofs.Cycle.Execution

namespace AssetSync

variable {σ τ : Type}

def CycleEnd.isCommitted : CycleEnd → Bool
  | .reported report => report.isCommitted
  | _ => false

def CycleEnd.records : CycleEnd → List CycleRecord
  | .reported report => [report.toRecord]
  | _ => []

namespace Cycle

/-- Every call is made with the key, exactly the payloads of the answers are sent, in their order,
and nothing but the closing calls follows a failed one. -/
structure Orderly (key : SyncerKey) (completed : Bool) (records : List CycleRecord)
    (calls : List Event) : Prop where
  keys : ∀ call ∈ calls, ∀ other, call.key? = some other → other = key
  payloads : calls.filterMap Event.payload? = calls.filterMap Event.fetched?
  records : calls.filterMap Event.record? = records
  stops : calls.Pairwise fun call later => call.Failed → later.Closing
  unfailed : completed → ∀ call ∈ calls, ¬ call.Failed

attribute [local simp] Event.key? Event.payload? Event.fetched? Event.record? Event.Failed
  Event.Closing

variable {key : SyncerKey} {completed : Bool} {records others : List CycleRecord}
  {calls later : List Event}

theorem Orderly.append (h : Orderly key true records calls)
    (h' : Orderly key completed others later) :
    Orderly key completed (records ++ others) (calls ++ later) where
  keys call hcall := (List.mem_append.mp hcall).elim (h.keys call) (h'.keys call)
  payloads := by rw [List.filterMap_append, List.filterMap_append, h.payloads, h'.payloads]
  records := by rw [List.filterMap_append, h.records, h'.records]
  stops := List.pairwise_append.mpr
    ⟨h.stops, h'.stops, fun call hcall _ _ hfailed => absurd hfailed (h.unfailed rfl call hcall)⟩
  unfailed hdone call hcall :=
    (List.mem_append.mp hcall).elim (h.unfailed rfl call) (h'.unfailed hdone call)

theorem Orderly.close (h : Orderly key completed records calls)
    (h' : Orderly key true others later) (hclosing : ∀ call ∈ later, call.Closing) :
    Orderly key completed (records ++ others) (calls ++ later) where
  keys call hcall := (List.mem_append.mp hcall).elim (h.keys call) (h'.keys call)
  payloads := by rw [List.filterMap_append, List.filterMap_append, h.payloads, h'.payloads]
  records := by rw [List.filterMap_append, h.records, h'.records]
  stops := List.pairwise_append.mpr
    ⟨h.stops, h'.stops, fun _ _ call hcall _ => hclosing call hcall⟩
  unfailed hdone call hcall :=
    (List.mem_append.mp hcall).elim (h.unfailed hdone call) (h'.unfailed rfl call)

theorem StartTrace.orderly {result : Except Interrupt (Cursor × CursorLabel)}
    (h : StartTrace key calls result) : Orderly key result.isOk [] calls := by
  cases h <;> exact ⟨by simp, rfl, rfl, by simp, by simp [Except.isOk, Except.toBool]⟩

theorem LoadTrace.orderly {settings : SyncSettings} {result : Except Interrupt Budgeted}
    (h : LoadTrace settings calls result) : Orderly settings.key result.isOk [] calls := by
  cases h <;> exact ⟨by simp, rfl, rfl, by simp, by simp [Except.isOk, Except.toBool]⟩

theorem discovery_orderly (cursor : Cursor) (size : Nat) (page : Option (Except SourceError Page))
    (m : Metric) :
    Orderly key true [] (.discover cursor size page :: (discoveryMetrics page ++ [.metric m])) := by
  rcases page with _ | _ | _ <;>
    exact ⟨by simp [discoveryMetrics], rfl, rfl, by simp [discoveryMetrics],
      by simp [discoveryMetrics]⟩

theorem PlanTrace.orderly {settings : SyncSettings} {result : Except Interrupt Plan}
    (h : PlanTrace settings calls result) : Orderly settings.key result.isOk [] calls := by
  cases h with
  | unstarted started => exact started.orderly
  | unloaded started loaded => exact started.orderly.append loaded.orderly
  | planned started loaded page =>
    exact (started.orderly.append loaded.orderly).append (discovery_orderly _ _ page _)

theorem ChunkTrace.orderly {chunk : List Asset} {result : Except Interrupt (List Asset)}
    (h : ChunkTrace key chunk calls result) : Orderly key result.isOk [] calls := by
  cases h with
  | unfetched => exact ⟨by simp, rfl, rfl, by simp, by simp⟩
  | silent nothing =>
    exact ⟨by simp, by simp [List.filterMap_cons, nothing], rfl, by simp, by simp⟩
  | sent worth payload =>
    exact ⟨by simp, by simp [List.filterMap_cons, worth, payload], rfl, by simp, by simp⟩
  | unsent worth payload e =>
    exact ⟨by simp, by simp [List.filterMap_cons, worth, payload], rfl, by simp,
      by simp [Except.isOk, Except.toBool]⟩
  | crashed => exact ⟨by simp, rfl, rfl, by simp, by simp⟩

theorem timing_orderly (result : Except Interrupt (List Asset)) :
    Orderly key true [] (timing result) := by
  rcases result with (_ | _ | _) | _ <;>
    exact ⟨by simp [timing], rfl, rfl, by simp [timing], by simp [timing]⟩

theorem closing_of_mem_timing {result : Except Interrupt (List Asset)} {call : Event}
    (h : call ∈ timing result) : call.Closing := by
  rcases result with (_ | _ | _) | _ <;> simp_all [timing]

theorem ForwardTrace.orderly {pieces : List (List Asset)}
    {result : Except Interrupt (List Asset)} (h : ForwardTrace key pieces calls result) :
    Orderly key result.isOk [] calls := by
  induction h with
  | done => exact ⟨by simp, rfl, rfl, by simp, by simp⟩
  | @next _ _ _ _ states result first _ ih =>
    have hok : (result.map (states ++ ·)).isOk = result.isOk := by cases result <;> rfl
    rw [hok]
    exact (first.orderly.append (timing_orderly _)).append ih
  | stopped first => exact first.orderly.close (timing_orderly _) fun _ => closing_of_mem_timing

theorem CommitTrace.orderly {plan : Plan} {states : List Asset} {result : Except Interrupt Unit}
    (h : CommitTrace key plan states calls result) : Orderly key result.isOk [] calls := by
  cases h with
  | unsaved => exact ⟨by simp, rfl, rfl, by simp, by simp [Except.isOk, Except.toBool]⟩
  | saved _ answer =>
    cases answer with
    | error e => exact ⟨by simp, rfl, rfl, by simp, fun hdone => Bool.noConfusion hdone⟩
    | ok => exact ⟨by simp, rfl, rfl, by simp, by simp⟩
  | nothing _ answer =>
    cases answer with
    | error e => exact ⟨by simp, rfl, rfl, by simp, fun hdone => Bool.noConfusion hdone⟩
    | ok => exact ⟨by simp, rfl, rfl, by simp, by simp⟩

theorem DeliverTrace.orderly {settings : SyncSettings} {plan : Plan} {states : List Asset}
    {result : Except Interrupt (Cursor × CursorLabel)}
    (h : DeliverTrace settings plan calls result states) :
    Orderly settings.key result.isOk [] calls := by
  cases h with
  | interrupted forwarded => exact forwarded.orderly
  | @forwarded _ _ _ result forwarded committed =>
    have hok : (result.map fun _ => (plan.cursor, plan.label)).isOk = result.isOk := by
      cases result <;> rfl
    rw [hok]
    exact forwarded.orderly.append committed.orderly

theorem BodyTrace.orderly {settings : SyncSettings} {states : List Asset}
    {result : Except Interrupt (Cursor × CursorLabel)}
    (h : BodyTrace settings calls result states) :
    Orderly settings.key result.isOk [] calls := by
  cases h with
  | unplanned planned => exact planned.orderly
  | planned planned delivered => exact planned.orderly.append delivered.orderly

theorem CycleTrace.orderly {settings : SyncSettings} {ended : CycleEnd}
    (h : CycleTrace settings calls ended) :
    Orderly settings.key ended.isCommitted ended.records calls := by
  cases h with
  | crashed body => exact body.orderly
  | aborted body outcome answer =>
    simp only [CycleEnd.isCommitted, CycleReport.isCommitted, outcome]
    exact body.orderly.close ⟨by simp, rfl, rfl, by simp, by simp⟩ (by simp)
  | committed body outcome answer =>
    simp only [CycleEnd.isCommitted, CycleReport.isCommitted, outcome]
    exact body.orderly.close ⟨by simp, rfl, rfl, by simp, by simp⟩ (by simp)

variable (source : Source σ) (service : TrackingService τ)
  (recordCycle : SyncerKey → CycleRecord → StoreCall τ Unit)

theorem forwardAll_recordCycle (key : SyncerKey) (pieces : List (List Asset)) :
    forwardAll source { service with recordCycle } key pieces =
      forwardAll source service key pieces := by
  induction pieces with
  | nil => rfl
  | cons chunk rest ih => rw [forwardAll, ih]; rfl

theorem body_recordCycle (settings : SyncSettings) :
    body source { service with recordCycle } settings = body source service settings := by
  unfold body
  simp only [forwardAll_recordCycle]
  rfl

theorem conclude_recordCycle (key : SyncerKey) (done : Except Interrupt (Cursor × CursorLabel))
    (w : CycleWorld σ τ) :
    (conclude { service with recordCycle } key done w).1 = (conclude service key done w).1 := by
  rcases done with (_ | _ | _) | _ <;> rfl

end Cycle

open AssetSync.Cycle

theorem runCycle_orderly (source : Source σ) (service : TrackingService τ)
    (settings : SyncSettings) (s : σ) (t : τ) :
    let run := runCycle source service settings s t
    CycleTrace settings run.trace run.ended ∧
      Chain (Event.Performed source service) run.trace (s, t) (run.source, run.store) ∧
      Orderly settings.key run.ended.isCommitted run.ended.records run.trace ∧
      ∀ recordCycle : SyncerKey → CycleRecord → StoreCall τ Unit,
        (runCycle source { service with recordCycle } settings s t).ended = run.ended := by
  intro run
  obtain ⟨htrace, hperformed⟩ := runCycle_follows source service settings s t
  refine ⟨htrace, hperformed, htrace.orderly, fun recordCycle => ?_⟩
  simp only [run, runCycle, body_recordCycle]
  exact conclude_recordCycle service recordCycle _ _ _

end AssetSync
