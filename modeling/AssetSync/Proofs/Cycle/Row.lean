import AssetSync.Proofs.Cycle.FetchSequence
import AssetSync.Proofs.Cycle.Tally

namespace AssetSync

variable {σ τ α β : Type}

namespace Event

def failure? : Event → Option (AbortStage × String)
  | loadCheckpoint _ (.error e) => some (.loadCheckpoint, e.message)
  | initCursor (.error e) => some (.initCursor, e.display)
  | loadActive _ (.error e) => some (.loadActiveAssets, e.message)
  | savePayload _ _ (.error e) => some (.saveTrackingData, e.message)
  | saveStates _ _ (.error e) => some (.saveAssetsState, e.message)
  | saveCursor _ _ _ (.error e) => some (.updateCursor, e.message)
  | _ => none

def states? : Event → Option (List Asset)
  | saveStates _ states _ => some states
  | _ => none

theorem failure?_of_closing {call : Event} (h : call.Closing) : call.failure? = none := by
  cases call with
  | recordCycle | metric => rfl
  | _ => exact h.elim

end Event

def Interrupt.abort? : Interrupt → Option (AbortStage × String)
  | .abort stage message => some (stage, message)
  | _ => none

theorem length_eq_count_states {assets : List Asset} (h : ∀ asset ∈ assets, asset.state ≠ .init) :
    assets.length = assets.countP (·.state == .finished) + assets.countP (·.state == .active) +
      assets.countP (·.state == .failedRequest) := by
  induction assets with
  | nil => rfl
  | cons asset rest ih =>
    have hrest := ih fun other hother => h other (List.mem_cons_of_mem _ hother)
    have hasset := h asset List.mem_cons_self
    simp only [List.length_cons, List.countP_cons]
    cases hstate : asset.state with
    | init => exact absurd hstate hasset
    | _ => simp; omega

namespace Cycle

variable {settings : SyncSettings} {key : SyncerKey} {calls : List Event}

def aborts : Except Interrupt α → List (AbortStage × String)
  | .error interrupt => interrupt.abort?.toList
  | .ok _ => []

theorem aborts_map (f : α → β) (result : Except Interrupt α) :
    aborts (result.map f) = aborts result := by
  cases result <;> rfl

theorem StartTrace.failure? {result : Except Interrupt (Cursor × CursorLabel)}
    (h : StartTrace key calls result) :
    calls.filterMap Event.failure? = aborts result := by
  cases h <;> rfl

theorem LoadTrace.failure? {result : Except Interrupt Budgeted}
    (h : LoadTrace settings calls result) :
    calls.filterMap Event.failure? = aborts result := by
  cases h <;> rfl

theorem PlanTrace.failure? {result : Except Interrupt Plan} (h : PlanTrace settings calls result) :
    calls.filterMap Event.failure? = aborts result := by
  cases h with
  | unstarted started => exact started.failure?
  | unloaded started loaded =>
    rw [List.filterMap_append, started.failure?, loaded.failure?]
    rfl
  | planned started loaded page =>
    rw [List.filterMap_append, List.filterMap_append, started.failure?, loaded.failure?]
    rcases page with _ | _ | _ <;> rfl

theorem ChunkTrace.failure? {chunk : List Asset} {result : Except Interrupt (List Asset)}
    (h : ChunkTrace key chunk calls result) :
    calls.filterMap Event.failure? = aborts result := by
  cases h <;> rfl

theorem timing_failure? (result : Except Interrupt (List Asset)) :
    (timing result).filterMap Event.failure? = [] := by
  rcases result with (_ | _ | _) | _ <;> rfl

theorem ForwardTrace.failure? {pieces : List (List Asset)}
    {result : Except Interrupt (List Asset)} (h : ForwardTrace key pieces calls result) :
    calls.filterMap Event.failure? = aborts result := by
  induction h with
  | done => rfl
  | next first _ ih =>
    rw [List.filterMap_append, List.filterMap_append, first.failure?, timing_failure?, ih,
      aborts_map]
    rfl
  | stopped first =>
    rw [List.filterMap_append, first.failure?, timing_failure?, List.append_nil]

theorem CommitTrace.failure? {plan : Plan} {states : List Asset} {result : Except Interrupt Unit}
    (h : CommitTrace key plan states calls result) :
    calls.filterMap Event.failure? = aborts result := by
  cases h with
  | unsaved => rfl
  | saved _ answer => cases answer <;> rfl
  | nothing _ answer => cases answer <;> rfl

theorem DeliverTrace.failure? {plan : Plan} {states : List Asset}
    {result : Except Interrupt (Cursor × CursorLabel)}
    (h : DeliverTrace settings plan calls result states) :
    calls.filterMap Event.failure? = aborts result := by
  cases h with
  | interrupted forwarded => exact forwarded.failure?
  | forwarded forwarded committed =>
    rw [List.filterMap_append, forwarded.failure?, committed.failure?, aborts_map]
    rfl

theorem BodyTrace.failure? {states : List Asset}
    {result : Except Interrupt (Cursor × CursorLabel)}
    (h : BodyTrace settings calls result states) :
    calls.filterMap Event.failure? = aborts result := by
  cases h with
  | unplanned planned => exact planned.failure?
  | planned planned delivered =>
    rw [List.filterMap_append, planned.failure?, delivered.failure?]
    rfl

theorem states?_eq_nil (h : ∀ call ∈ calls, ¬ call.Commits) :
    calls.filterMap Event.states? = [] := by
  refine List.filterMap_eq_nil_iff.mpr fun call hcall => ?_
  cases call with
  | saveStates => exact absurd trivial (h _ hcall)
  | _ => rfl

theorem CommitTrace.states? {plan : Plan} {states : List Asset} {result : Except Interrupt Unit}
    (h : CommitTrace key plan states calls result) :
    calls.filterMap Event.states? = if plan.assets = [] then [] else [states] := by
  cases h with
  | unsaved nonempty | saved nonempty =>
    rw [if_neg nonempty]
    rfl
  | nothing empty =>
    rw [if_pos empty]
    rfl

structure Leaves (calls : List Event) (states : List Asset) : Prop where
  saves : calls.filterMap Event.states? = if states = [] then [] else [states]
  answered : ∀ state ∈ states, state.state ≠ .init

theorem Leaves.nothing (h : ∀ call ∈ calls, ¬ call.Commits) : Leaves calls [] :=
  ⟨states?_eq_nil h, by simp⟩

theorem BodyTrace.leaves {states : List Asset} {result : Except Interrupt (Cursor × CursorLabel)}
    (h : BodyTrace settings calls result states) : Leaves calls states := by
  cases h with
  | unplanned planned => exact .nothing planned.not_commits
  | planned planned delivered =>
    cases delivered with
    | interrupted forwarded =>
      apply Leaves.nothing
      intro call hcall
      exact (List.mem_append.mp hcall).elim (planned.not_commits call)
        (forwarded.not_commits call)
    | forwarded forwarded committed =>
      constructor
      · rw [List.filterMap_append, List.filterMap_append, states?_eq_nil planned.not_commits,
          states?_eq_nil forwarded.not_commits, committed.states?]
        simp only [List.nil_append, forwarded.states_eq_nil_iff]
      · intro state hstate
        obtain ⟨asset, -, answer, rfl⟩ := forwarded.answered state hstate
        exact asset.afterAnswer_state_ne_init answer

theorem BodyTrace.fetched {states : List Asset} {checkpoint : Cursor × CursorLabel}
    (h : BodyTrace settings calls (.ok checkpoint) states) :
    ∃ records origin page, .loadActive settings.key (.ok records) ∈ calls ∧
      calls.filterMap page? = [(origin, page)] ∧ states.map Asset.id =
        (fetchSequence settings records (discovery origin page).1).map Asset.id := by
  generalize hr : (Except.ok checkpoint : Except Interrupt (Cursor × CursorLabel)) = result at h
  cases h with
  | unplanned => cases hr
  | @planned planning delivering plan _ _ planned delivered =>
    obtain ⟨records, hloaded⟩ := planned.loaded
    obtain ⟨records', origin, page, honly, hpage, hassets⟩ := planned.sequence
    obtain rfl := honly _ _ hloaded
    have hdelivering : delivering.filterMap page? = [] :=
      filterMap_page?_eq_nil fun call hcall =>
        (delivered.forwards_or_commits call hcall).imp_right .inl
    refine ⟨records, origin, page, List.mem_append_left _ hloaded, ?_, ?_⟩
    · rw [List.filterMap_append, hpage, hdelivering, List.append_nil]
    · cases delivered with
      | interrupted => cases hr
      | forwarded forwarded _ => rw [forwarded.ids, chunks_flatten, hassets]

theorem CycleTrace.ne_violated {e : SyncError} (h : CycleTrace settings calls (.violated e)) :
    False := by
  cases h

structure Accounts (settings : SyncSettings) (calls : List Event) (report : CycleReport) :
    Prop where
  answered : ∀ asset ∈ report.assets, asset.state ≠ .init
  total : report.toRecord.assetsTotal = report.toRecord.assetsFinished +
    report.toRecord.assetsActive + report.toRecord.assetsFailed
  saves : calls.filterMap Event.states? = if report.assets = [] then [] else [report.assets]
  fetched : report.isCommitted → ∃ records origin page,
    .loadActive settings.key (.ok records) ∈ calls ∧ calls.filterMap page? = [(origin, page)] ∧
      let sequence := fetchSequence settings records (discovery origin page).1
      report.assets.map Asset.id = sequence.map Asset.id ∧
        report.toRecord.assetsTotal = .ofNat sequence.length
  tallies : report.toCycleProgress.Tallies calls
  bytes : report.toRecord.bytesSent =
    .ofNat ((calls.filterMap Event.accepted?).map fun data => data.text.utf8ByteSize).sum
  success : report.toRecord.errorMessage = none ↔ report.isCommitted
  failure : ∀ stage message, report.outcome = .aborted stage message →
    calls.filterMap Event.failure? = [(stage, message)] ∧
      report.toRecord.errorMessage = some (stage.name ++ ": " ++ message)

theorem CycleTrace.leaves {report : CycleReport}
    (h : CycleTrace settings calls (.reported report)) : Leaves calls report.assets := by
  obtain ⟨events, closing, rfl, closed, body⟩ := h.reported
  refine ⟨?_, body.leaves.answered⟩
  have hclosing : closing.filterMap Event.states? = [] :=
    states?_eq_nil fun call hcall => not_commits_of_closing (closed call hcall)
  rw [List.filterMap_append, hclosing, List.append_nil, body.leaves.saves]

theorem CycleTrace.failure? {report : CycleReport}
    (h : CycleTrace settings calls (.reported report)) :
    calls.filterMap Event.failure? = aborts report.outcome.result := by
  obtain ⟨events, closing, rfl, closed, body⟩ := h.reported
  have hclosing : closing.filterMap Event.failure? = [] :=
    List.filterMap_eq_nil_iff.mpr fun call hcall => Event.failure?_of_closing (closed call hcall)
  rw [List.filterMap_append, hclosing, List.append_nil, body.failure?]

theorem CycleTrace.fetched {report : CycleReport}
    (h : CycleTrace settings calls (.reported report)) (committed : report.isCommitted) :
    ∃ records origin page, .loadActive settings.key (.ok records) ∈ calls ∧
      calls.filterMap page? = [(origin, page)] ∧ report.assets.map Asset.id =
        (fetchSequence settings records (discovery origin page).1).map Asset.id := by
  obtain ⟨events, closing, rfl, closed, body⟩ := h.reported
  cases houtcome : report.outcome with
  | aborted => simp [CycleReport.isCommitted, houtcome] at committed
  | committed cursor label =>
    rw [houtcome] at body
    obtain ⟨records, origin, page, hloaded, hpage, hids⟩ := body.fetched
    refine ⟨records, origin, page, List.mem_append_left _ hloaded, ?_, hids⟩
    have hclosing : closing.filterMap page? = [] :=
      filterMap_page?_eq_nil fun call hcall => .inr (.inr (closed call hcall))
    rw [List.filterMap_append, hpage, hclosing, List.append_nil]

theorem CycleTrace.accounts {report : CycleReport}
    (h : CycleTrace settings calls (.reported report))
    (tallies : report.toCycleProgress.Tallies calls) : Accounts settings calls report where
  answered := h.leaves.answered
  total := by
    have hlength := length_eq_count_states h.leaves.answered
    simp only [CycleReport.toRecord, CycleReport.count]
    rw [hlength, UInt64.ofNat_add, UInt64.ofNat_add]
  saves := h.leaves.saves
  fetched committed := by
    obtain ⟨records, origin, page, hloaded, hpage, hids⟩ := h.fetched committed
    have hlength : report.assets.length =
        (fetchSequence settings records (discovery origin page).1).length := by
      simpa using congrArg List.length hids
    exact ⟨records, origin, page, hloaded, hpage, hids, congrArg UInt64.ofNat hlength⟩
  tallies := tallies
  bytes := congrArg UInt64.ofNat tallies.bytes
  success := by
    simp only [CycleReport.toRecord, CycleReport.errorMessage?, CycleReport.isCommitted]
    cases report.outcome <;> simp
  failure stage message outcome := by
    refine ⟨?_, ?_⟩
    · rw [h.failure?, outcome]
      rfl
    · simp only [CycleReport.toRecord, CycleReport.errorMessage?, outcome]

end Cycle

open AssetSync.Cycle

theorem runCycle_accounts (source : Source σ) (service : TrackingService τ)
    (settings : SyncSettings) (s : σ) (t : τ) :
    let run := runCycle source service settings s t
    (run.ended = .crashed ∧ run.trace.filterMap Event.record? = []) ∨
      ∃ report, run.ended = .reported report ∧
        run.trace.filterMap Event.record? = [report.toRecord] ∧
        Accounts settings run.trace report := by
  intro run
  have htrace : CycleTrace settings run.trace run.ended :=
    (runCycle_follows source service settings s t).1
  have hrecords := htrace.orderly.records
  cases hended : run.ended with
  | crashed =>
    rw [hended] at hrecords
    exact .inl ⟨rfl, hrecords⟩
  | violated e =>
    rw [hended] at htrace
    exact htrace.ne_violated.elim
  | reported report =>
    rw [hended] at htrace hrecords
    exact .inr ⟨report, rfl, hrecords, htrace.accounts (runCycle_tallies hended)⟩

end AssetSync
