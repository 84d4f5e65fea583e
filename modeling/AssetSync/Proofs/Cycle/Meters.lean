import AssetSync.Proofs.Cycle.Row

namespace AssetSync

variable {σ τ : Type}

inductive Timer where
  | cycle
  | chunk
  | fetch
  | send
  deriving DecidableEq

namespace Event

def timer? : Event → Option Timer
  | metric (.cycleTime _) => some .cycle
  | metric (.chunkTime _) => some .chunk
  | metric (.fetchTime _) => some .fetch
  | metric (.sendTime _) => some .send
  | _ => none

def measuredBytes? : Event → Option Nat
  | metric (.payloadBytes count) => some count
  | _ => none

def fetchMessage? : Event → Option String
  | metric (.fetchError message) => some message
  | _ => none

def cycleMessage? : Event → Option String
  | metric (.cycleError message) => some message
  | _ => none

def isGauge : Event → Bool
  | metric (.failedAssets _) | metric (.exhaustedAssets _) | metric (.fetchSetSize _) => true
  | _ => false

def fetchFailure? : Event → Option String
  | fetch _ (.failed e) => some e.display
  | _ => none

def pageFailure? : Event → Option String
  | discover _ _ (some (.error e)) => some e.display
  | _ => none

def Plans : Event → Prop
  | loadActive _ _ | discover _ _ _ => True
  | call => call.isGauge

end Event

def Interrupt.crashCount : Interrupt → Nat
  | .crash => 1
  | _ => 0

def CycleReport.abort? (report : CycleReport) : Option (AbortStage × String) :=
  match report.outcome with
  | .committed _ _ => none
  | .aborted stage message => some (stage, message)

namespace Cycle

variable {settings : SyncSettings} {key : SyncerKey} {cycles crashes : Nat}
  {messages : List String} {calls later : List Event}

/-- Every fetch is timed, itself and with its chunk, but for those in which the source crashed;
every payload is measured and timed, whether it is taken or not; and every error has its message. -/
structure Metered (cycles crashes : Nat) (messages : List String) (calls : List Event) :
    Prop where
  cycles : (calls.filterMap Event.timer?).count .cycle = cycles
  chunks : (calls.filterMap Event.timer?).count .chunk + crashes =
    (calls.filterMap Event.request?).length
  fetches : (calls.filterMap Event.timer?).count .fetch + crashes =
    (calls.filterMap Event.request?).length
  failures : calls.filterMap Event.fetchMessage? = calls.filterMap Event.fetchFailure?
  sizes : calls.filterMap Event.measuredBytes? =
    (calls.filterMap Event.payload?).map fun data => data.text.utf8ByteSize
  sends : (calls.filterMap Event.timer?).count .send = (calls.filterMap Event.payload?).length
  errors : calls.filterMap Event.cycleMessage? = calls.filterMap Event.pageFailure? ++ messages

theorem Metered.append (h : Metered 0 0 [] calls) (h' : Metered cycles crashes messages later) :
    Metered cycles crashes messages (calls ++ later) := by
  constructor
  · rw [List.filterMap_append, List.count_append, h.cycles, h'.cycles, Nat.zero_add]
  · have hcalls := h.chunks
    have hlater := h'.chunks
    simp only [List.filterMap_append, List.count_append, List.length_append]
    omega
  · have hcalls := h.fetches
    have hlater := h'.fetches
    simp only [List.filterMap_append, List.count_append, List.length_append]
    omega
  · rw [List.filterMap_append, List.filterMap_append, h.failures, h'.failures]
  · rw [List.filterMap_append, List.filterMap_append, h.sizes, h'.sizes, List.map_append]
  · rw [List.filterMap_append, List.filterMap_append, List.count_append, List.length_append,
      h.sends, h'.sends]
  · rw [List.filterMap_append, List.filterMap_append, h.errors, h'.errors, List.append_nil,
      List.append_assoc]

def crashCount {α : Type} : Except Interrupt α → Nat
  | .error interrupt => interrupt.crashCount
  | .ok _ => 0

theorem crashCount_map {α β : Type} (f : α → β) (result : Except Interrupt α) :
    crashCount (result.map f) = crashCount result := by
  cases result <;> rfl

theorem StartTrace.metered {result : Except Interrupt (Cursor × CursorLabel)}
    (h : StartTrace key calls result) : Metered 0 (crashCount result) [] calls := by
  cases h <;> constructor <;> rfl

theorem LoadTrace.metered {result : Except Interrupt Budgeted}
    (h : LoadTrace settings calls result) : Metered 0 (crashCount result) [] calls := by
  cases h <;> constructor <;> rfl

theorem discovery_metered (cursor : Cursor) (size count : Nat)
    (page : Option (Except SourceError Page)) :
    Metered 0 0 [] (.discover cursor size page ::
      (discoveryMetrics page ++ [.metric (.fetchSetSize count)])) := by
  rcases page with _ | _ | _ <;> constructor <;> rfl

theorem PlanTrace.metered {result : Except Interrupt Plan} (h : PlanTrace settings calls result) :
    Metered 0 (crashCount result) [] calls := by
  cases h with
  | unstarted started => exact started.metered
  | unloaded started loaded => exact started.metered.append loaded.metered
  | planned started loaded page =>
    exact (started.metered.append loaded.metered).append (discovery_metered _ _ _ page)

theorem ChunkTrace.metered {chunk : List Asset} {result : Except Interrupt (List Asset)}
    (h : ChunkTrace key chunk calls result) :
    Metered 0 (crashCount result) [] (calls ++ timing result) := by
  cases h <;> constructor <;> rfl

theorem ForwardTrace.metered {pieces : List (List Asset)} {result : Except Interrupt (List Asset)}
    (h : ForwardTrace key pieces calls result) : Metered 0 (crashCount result) [] calls := by
  induction h with
  | done => constructor <;> rfl
  | next first _ ih =>
    rw [crashCount_map]
    exact first.metered.append ih
  | stopped first => exact first.metered

theorem CommitTrace.metered {plan : Plan} {states : List Asset} {result : Except Interrupt Unit}
    (h : CommitTrace key plan states calls result) : Metered 0 (crashCount result) [] calls := by
  cases h with
  | unsaved => constructor <;> rfl
  | saved _ answer | nothing _ answer => cases answer <;> constructor <;> rfl

theorem DeliverTrace.metered {plan : Plan} {states : List Asset}
    {result : Except Interrupt (Cursor × CursorLabel)}
    (h : DeliverTrace settings plan calls result states) :
    Metered 0 (crashCount result) [] calls := by
  cases h with
  | interrupted forwarded => exact forwarded.metered
  | forwarded forwarded committed =>
    rw [crashCount_map]
    exact forwarded.metered.append committed.metered

theorem BodyTrace.metered {states : List Asset}
    {result : Except Interrupt (Cursor × CursorLabel)}
    (h : BodyTrace settings calls result states) : Metered 0 (crashCount result) [] calls := by
  cases h with
  | unplanned planned => exact planned.metered
  | planned planned delivered => exact planned.metered.append delivered.metered

theorem CycleTrace.metered_crashed (h : CycleTrace settings calls .crashed) :
    Metered 0 1 [] calls ∧ ∃ request, .fetch request .crashed ∈ calls := by
  cases h with
  | crashed body => exact ⟨body.metered, body.crashed⟩

theorem CycleTrace.metered {report : CycleReport}
    (h : CycleTrace settings calls (.reported report)) :
    Metered 1 0 (report.abort?.toList.map Prod.snd) calls := by
  cases h with
  | aborted body outcome answer | committed body outcome answer =>
    rw [CycleReport.abort?, outcome]
    apply body.metered.append
    constructor <;> rfl

theorem length_payloads (calls : List Event) :
    (calls.filterMap Event.payload?).length = (calls.filterMap Event.accepted?).length +
      (calls.filterMap Event.failure?).countP (·.1 = .saveTrackingData) := by
  induction calls with
  | nil => rfl
  | cons call calls ih =>
    cases call with
    | savePayload key data answer =>
      cases answer <;>
        simp [List.filterMap_cons, Event.payload?, Event.accepted?, Event.failure?, ih] <;> omega
    | loadCheckpoint _ answer | initCursor answer | loadActive _ answer | saveStates _ _ answer
    | saveCursor _ _ _ answer =>
      cases answer <;>
        simp [List.filterMap_cons, Event.payload?, Event.accepted?, Event.failure?, ih]
    | _ => simp [List.filterMap_cons, Event.payload?, Event.accepted?, Event.failure?, ih]

theorem CycleTrace.attempts {report : CycleReport}
    (h : CycleTrace settings calls (.reported report))
    (tallies : report.toCycleProgress.Tallies calls) :
    (calls.filterMap Event.payload?).length = report.payloadsSent +
      if report.abort?.map Prod.fst = some .saveTrackingData then 1 else 0 := by
  rw [length_payloads, tallies.payloads, h.failure?, CycleReport.abort?]
  cases report.outcome with
  | committed => rfl
  | aborted stage message => cases stage <;> rfl

def gauges (settings : SyncSettings) (records : List Json) (listed : List Asset) : List Event :=
  let known := firstById (readable records)
  [.metric (.failedAssets (known.countP fun asset =>
      asset.state = .failedRequest ∧ asset.retryCount ≤ settings.maxRetries)),
    .metric (.exhaustedAssets (known.countP (settings.maxRetries < ·.retryCount))),
    .metric (.fetchSetSize (fetchSequence settings records listed).length)]

theorem failedCount_budgeted (settings : SyncSettings) (records : List Json) :
    (budgeted settings records).failedCount = (firstById (readable records)).countP fun asset =>
      asset.state = .failedRequest ∧ asset.retryCount ≤ settings.maxRetries := by
  rw [budgeted_eq, Budgeted.failedCount, List.countP_filter]
  apply List.countP_congr
  simp

theorem length_exhausted_budgeted (settings : SyncSettings) (records : List Json) :
    (budgeted settings records).exhausted.length =
      (firstById (readable records)).countP (settings.maxRetries < ·.retryCount) := by
  rw [budgeted_eq, List.countP_eq_length_filter]

/-- The gauges are set when the open assets are loaded, and not at all if they never are. -/
structure Gauged (settings : SyncSettings) (calls : List Event) : Prop where
  loaded : ∀ records, .loadActive settings.key (.ok records) ∈ calls →
    ∃ before after origin page,
      calls = before ++ .loadActive settings.key (.ok records) :: after ∧
      before.filter Event.isGauge = [] ∧ calls.filterMap page? = [(origin, page)] ∧
      after.filter Event.isGauge = gauges settings records (discovery origin page).1
  unloaded : (∀ records, .loadActive settings.key (.ok records) ∉ calls) →
    calls.filter Event.isGauge = [] ∧ calls.filterMap page? = []

theorem filter_isGauge_eq_nil (h : ∀ call ∈ calls, ¬ call.Plans) :
    calls.filter Event.isGauge = [] := by
  rw [List.filter_eq_nil_iff]
  intro call hcall hgauge
  apply h call hcall
  cases call with
  | metric m => exact hgauge
  | _ => cases hgauge

theorem Gauged.append (h : Gauged settings calls) (hlater : ∀ call ∈ later, ¬ call.Plans) :
    Gauged settings (calls ++ later) := by
  have hgauges := filter_isGauge_eq_nil hlater
  have hpages : later.filterMap page? = [] := by
    rw [List.filterMap_eq_nil_iff]
    intro call hcall
    cases call with
    | discover => exact absurd trivial (hlater _ hcall)
    | _ => rfl
  constructor
  · intro records hcall
    rcases List.mem_append.mp hcall with hcall | hcall
    · obtain ⟨before, after, origin, page, hsplit, hbefore, hpage, hafter⟩ := h.loaded records hcall
      refine ⟨before, after ++ later, origin, page, ?_, hbefore, ?_, ?_⟩
      · rw [hsplit, List.append_assoc, List.cons_append]
      · rw [List.filterMap_append, hpage, hpages, List.append_nil]
      · rw [List.filter_append, hafter, hgauges, List.append_nil]
    · exact absurd trivial (hlater _ hcall)
  · intro hnone
    obtain ⟨hquiet, hpage⟩ := h.unloaded fun records hcall =>
      hnone records (List.mem_append_left _ hcall)
    rw [List.filter_append, List.filterMap_append, hquiet, hpage, hgauges, hpages]
    exact ⟨rfl, rfl⟩

attribute [local simp] Event.Plans Event.isGauge

theorem PlanTrace.gauged {result : Except Interrupt Plan} (h : PlanTrace settings calls result) :
    Gauged settings calls := by
  cases h with
  | unstarted started =>
    cases started <;> exact ⟨fun records hcall => by simp at hcall, fun _ => ⟨rfl, rfl⟩⟩
  | unloaded started loaded =>
    cases started <;> cases loaded <;>
      exact ⟨fun records hcall => by simp at hcall, fun _ => ⟨rfl, rfl⟩⟩
  | @planned starting _ origin label _ started loaded page =>
    cases loaded with
    | loaded records =>
      constructor
      · intro records' hcall
        obtain rfl : records' = records := by
          cases started <;> rcases page with _ | _ | _ <;> simpa [discoveryMetrics] using hcall
        refine ⟨starting, _, origin, page, List.append_assoc .., ?_, ?_, ?_⟩
        · cases started <;> rfl
        · cases started <;> rcases page with _ | _ | _ <;> rfl
        · rw [gauges, ← failedCount_budgeted, ← length_exhausted_budgeted,
            ← plan_assets settings records' origin label page]
          rcases page with _ | _ | _ <;> rfl
      · intro hnone
        exact absurd (by simp) (hnone records)

theorem ChunkTrace.not_plans {chunk : List Asset} {result : Except Interrupt (List Asset)}
    (h : ChunkTrace key chunk calls result) : ∀ call ∈ calls, ¬ call.Plans := by
  cases h <;> simp

theorem timing_not_plans (result : Except Interrupt (List Asset)) :
    ∀ call ∈ timing result, ¬ call.Plans := by
  rcases result with (_ | _ | _) | _ <;> simp [timing]

theorem ForwardTrace.not_plans {pieces : List (List Asset)}
    {result : Except Interrupt (List Asset)} (h : ForwardTrace key pieces calls result) :
    ∀ call ∈ calls, ¬ call.Plans := by
  induction h with
  | done => simp
  | next first _ ih =>
    simp only [List.forall_mem_append]
    exact ⟨⟨first.not_plans, timing_not_plans _⟩, ih⟩
  | stopped first =>
    simp only [List.forall_mem_append]
    exact ⟨first.not_plans, timing_not_plans _⟩

theorem CommitTrace.not_plans {plan : Plan} {states : List Asset} {result : Except Interrupt Unit}
    (h : CommitTrace key plan states calls result) : ∀ call ∈ calls, ¬ call.Plans := by
  cases h <;> simp

theorem BodyTrace.gauged {states : List Asset}
    {result : Except Interrupt (Cursor × CursorLabel)}
    (h : BodyTrace settings calls result states) : Gauged settings calls := by
  cases h with
  | unplanned planned => exact planned.gauged
  | planned planned delivered =>
    apply planned.gauged.append
    cases delivered with
    | interrupted forwarded => exact forwarded.not_plans
    | forwarded forwarded committed =>
      rw [List.forall_mem_append]
      exact ⟨forwarded.not_plans, committed.not_plans⟩

theorem CycleTrace.gauged {ended : CycleEnd} (h : CycleTrace settings calls ended) :
    Gauged settings calls := by
  cases h with
  | crashed body => exact body.gauged
  | aborted body | committed body => exact body.gauged.append (by simp)

end Cycle

open AssetSync.Cycle

theorem runCycle_measures (source : Source σ) (service : TrackingService τ)
    (settings : SyncSettings) (s : σ) (t : τ) :
    let run := runCycle source service settings s t
    Gauged settings run.trace ∧
      ((run.ended = .crashed ∧ Metered 0 1 [] run.trace ∧
          ∃ request, .fetch request .crashed ∈ run.trace) ∨
        ∃ report, run.ended = .reported report ∧
          Metered 1 0 (report.abort?.toList.map Prod.snd) run.trace ∧
          (run.trace.filterMap Event.payload?).length = report.payloadsSent +
            if report.abort?.map Prod.fst = some .saveTrackingData then 1 else 0) := by
  intro run
  have htrace : CycleTrace settings run.trace run.ended :=
    (runCycle_follows source service settings s t).1
  refine ⟨htrace.gauged, ?_⟩
  cases hended : run.ended with
  | crashed =>
    rw [hended] at htrace
    exact .inl ⟨rfl, htrace.metered_crashed⟩
  | violated e =>
    rw [hended] at htrace
    exact htrace.ne_violated.elim
  | reported report =>
    rw [hended] at htrace
    exact .inr ⟨report, rfl, htrace.metered, htrace.attempts (runCycle_tallies hended)⟩

end AssetSync
