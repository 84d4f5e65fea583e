import AssetSync.Proofs.Cycle.FetchSequence
import AssetSync.Store.Embedded
import AssetSync.Store.Refusing

namespace AssetSync

variable {σ τ : Type}

namespace Event

def updated : Event → List Asset
  | fetch request (.answer batch) => applyAnswer request.assets batch.assets
  | fetch request (.failed _) => failAll request.assets
  | _ => []

theorem updated_of_request? {call : Event} (h : call.request? = none) : call.updated = [] := by
  cases call with
  | fetch => cases h
  | _ => rfl

end Event

instance : DecidablePred CycleEnd.CutShort
  | .reported report =>
    match houtcome : report.outcome with
    | .committed _ _ => .isFalse fun ⟨_, hcut⟩ => nomatch houtcome.symm.trans hcut
    | .aborted stage message =>
      decidable_of_iff (stage = .saveTrackingData)
        ⟨fun hstage => ⟨message, hstage ▸ houtcome⟩,
          fun ⟨_, hcut⟩ => (CycleOutcome.aborted.inj (houtcome.symm.trans hcut)).1⟩
  | .crashed => .isTrue trivial
  | .violated _ => .isFalse id

def updates (calls : List Event) : List Asset :=
  calls.flatMap Event.updated

theorem updates_append (calls later : List Event) :
    updates (calls ++ later) = updates calls ++ updates later :=
  List.flatMap_append

theorem updates_eq_nil {calls : List Event} (h : calls.filterMap Event.request? = []) :
    updates calls = [] :=
  List.flatMap_eq_nil_iff.mpr fun call hcall =>
    Event.updated_of_request? (List.filterMap_eq_nil_iff.mp h call hcall)

theorem updates_ids {calls : List Event} (answered : ∀ request, .fetch request .crashed ∉ calls) :
    (updates calls).map Asset.id = (calls.filterMap Event.request?).flatMap Batch.ids := by
  induction calls with
  | nil => rfl
  | cons call rest ih =>
    have hrest := ih fun request hcall => answered request (List.mem_cons_of_mem _ hcall)
    rw [updates, List.flatMap_cons, List.map_append, List.filterMap_cons]
    cases call with
    | fetch request answer =>
      have hfirst : (Event.fetch request answer).updated.map Asset.id = request.ids := by
        cases answer with
        | answer batch => exact Cycle.applyAnswer_ids _ _
        | failed e => exact Cycle.failAll_ids _
        | crashed => exact absurd List.mem_cons_self (answered request)
      rw [hfirst]
      exact congrArg _ hrest
    | _ => exact hrest

namespace Cycle

variable {settings : SyncSettings} {key : SyncerKey} {calls : List Event} {ended : CycleEnd}

theorem ChunkTrace.updates {chunk : List Asset} {result : Except Interrupt (List Asset)}
    (h : ChunkTrace key chunk calls result) :
    match result with
    | .ok states => updates calls = states
    | .error .crash => True
    | .error _ => (updates calls).length = chunk.length := by
  cases h with
  | unsent => simp [AssetSync.updates, Event.updated, applyAnswer, Batch.pending]
  | crashed => trivial
  | _ => simp [AssetSync.updates, Event.updated, Batch.pending]

theorem timing_updates (result : Except Interrupt (List Asset)) : updates (timing result) = [] :=
  updates_eq_nil (timing_request? result)

theorem ForwardTrace.updates {pieces : List (List Asset)} {result : Except Interrupt (List Asset)}
    (h : ForwardTrace key pieces calls result) (nonempty : ∀ chunk ∈ pieces, chunk ≠ []) :
    match result with
    | .ok states => updates calls = states
    | .error .crash => True
    | .error _ => updates calls ≠ [] := by
  induction h with
  | done => rfl
  | @next chunk rest events later states result first _ ih =>
    have hfirst : AssetSync.updates events = states := first.updates
    have hrest := ih fun piece hpiece => nonempty piece (List.mem_cons_of_mem _ hpiece)
    rw [updates_append, updates_append, hfirst, timing_updates, List.append_nil]
    rcases result with (_ | _ | _) | others
    · exact fun h => hrest (List.append_eq_nil_iff.mp h).2
    · exact fun h => hrest (List.append_eq_nil_iff.mp h).2
    · trivial
    · exact congrArg _ hrest
  | @stopped chunk rest events interrupt first =>
    have hchunk : 0 < chunk.length := List.length_pos_iff.mpr (nonempty chunk List.mem_cons_self)
    have hfirst := first.updates
    rw [updates_append, timing_updates, List.append_nil]
    rcases interrupt with _ | _ | _
    · exact List.length_pos_iff.mp (hfirst ▸ hchunk)
    · exact List.length_pos_iff.mp (hfirst ▸ hchunk)
    · trivial

/-- What becomes of the updates: a refused payload loses them all, and a crash leaves no report. -/
def Publishes {α : Type} (calls : List Event) (states : List Asset) : Except Interrupt α → Prop
  | .error .crash => True
  | .error (.abort .saveTrackingData _) => states = [] ∧ updates calls ≠ []
  | _ => states = updates calls

theorem PlanTrace.publishes {interrupt : Interrupt}
    (h : PlanTrace settings calls (.error interrupt)) :
    Publishes calls [] (.error interrupt : Except Interrupt (Cursor × CursorLabel)) := by
  have hnone : [] = updates calls := (updates_eq_nil h.request?_eq_nil).symm
  cases h with
  | unstarted started => cases started <;> exact hnone
  | unloaded _ loaded =>
    cases loaded
    exact hnone

theorem DeliverTrace.publishes {plan : Plan} {states : List Asset}
    {result : Except Interrupt (Cursor × CursorLabel)}
    (h : DeliverTrace settings plan calls result states) : Publishes calls states result := by
  cases h with
  | @interrupted _ interrupt forwarded =>
    have hupdates := forwarded.updates fun _ => ne_nil_of_mem_chunks
    have hforwarding := forwarded.forwarding
    rcases interrupt with ⟨stage, message⟩ | _ | _
    · cases stage with
      | saveTrackingData => exact ⟨rfl, hupdates⟩
      | _ => exact hforwarding.elim
    · exact hforwarding.elim
    · trivial
  | @forwarded forwarding commit _ _ forwarded committed =>
    have hcommit : AssetSync.updates commit = [] :=
      updates_eq_nil (request?_eq_nil fun call hcall => .inl (committed.all_commits call hcall))
    have hstates : states = AssetSync.updates (forwarding ++ commit) := by
      rw [updates_append, hcommit, List.append_nil]
      exact (forwarded.updates fun _ => ne_nil_of_mem_chunks).symm
    cases committed with
    | unsaved => exact hstates
    | saved _ answer => cases answer <;> exact hstates
    | nothing _ answer => cases answer <;> exact hstates

theorem BodyTrace.publishes {states : List Asset}
    {result : Except Interrupt (Cursor × CursorLabel)}
    (h : BodyTrace settings calls result states) : Publishes calls states result := by
  cases h with
  | unplanned planned => exact planned.publishes
  | @planned planning delivering _ _ _ planned delivered =>
    have hupdates : updates (planning ++ delivering) = updates delivering := by
      rw [updates_append, updates_eq_nil planned.request?_eq_nil, List.nil_append]
    have hpublishes := delivered.publishes
    unfold Publishes at hpublishes ⊢
    rwa [hupdates]

theorem CycleTrace.publishes {report : CycleReport}
    (h : CycleTrace settings calls (.reported report)) :
    Publishes calls report.assets report.outcome.result := by
  obtain ⟨events, closing, rfl, closed, body⟩ := h.reported
  have hclosing : updates closing = [] :=
    updates_eq_nil (request?_eq_nil fun call hcall => .inr (closed call hcall))
  have hpublishes := body.publishes
  unfold Publishes at hpublishes ⊢
  rwa [updates_append, hclosing, List.append_nil]

theorem PlanTrace.answers {result : Except Interrupt Plan} (h : PlanTrace settings calls result)
    (request : Batch) : .fetch request .crashed ∉ calls := by
  intro hcall
  have hnone := List.filterMap_eq_nil_iff.mp h.request?_eq_nil _ hcall
  cases hnone

theorem ChunkTrace.answers {chunk : List Asset} {result : Except Interrupt (List Asset)}
    (h : ChunkTrace key chunk calls result) (hresult : result ≠ .error .crash) (request : Batch) :
    .fetch request .crashed ∉ calls := by
  cases h <;> simp at hresult ⊢

theorem ForwardTrace.answers {pieces : List (List Asset)}
    {result : Except Interrupt (List Asset)} (h : ForwardTrace key pieces calls result)
    (hresult : result ≠ .error .crash) (request : Batch) : .fetch request .crashed ∉ calls := by
  have htiming (outcome : Except Interrupt (List Asset)) :
      .fetch request .crashed ∉ timing outcome :=
    fun hcall => closing_of_mem_timing hcall
  induction h with
  | done => simp
  | @next _ _ _ _ states result first _ ih =>
    have hrest : result ≠ .error .crash := by
      rintro rfl
      exact hresult rfl
    simp only [List.mem_append, not_or]
    exact ⟨⟨first.answers (by simp) request, htiming _⟩, ih hrest⟩
  | stopped first =>
    simp only [List.mem_append, not_or]
    exact ⟨first.answers (by simpa using hresult) request, htiming _⟩

theorem BodyTrace.answers {states : List Asset} {result : Except Interrupt (Cursor × CursorLabel)}
    (h : BodyTrace settings calls result states) (hresult : result ≠ .error .crash)
    (request : Batch) : .fetch request .crashed ∉ calls := by
  cases h with
  | unplanned planned => exact planned.answers request
  | planned planned delivered =>
    rw [List.mem_append, not_or]
    refine ⟨planned.answers request, ?_⟩
    cases delivered with
    | interrupted forwarded => exact forwarded.answers (by simpa using hresult) request
    | forwarded forwarded committed =>
      rw [List.mem_append, not_or]
      exact ⟨forwarded.answers (by simp) request, fun hcall => committed.all_commits _ hcall⟩

theorem CycleTrace.answers {report : CycleReport}
    (h : CycleTrace settings calls (.reported report)) (request : Batch) :
    .fetch request .crashed ∉ calls := by
  obtain ⟨events, closing, rfl, closed, body⟩ := h.reported
  have hcrash : report.outcome.result ≠ .error .crash := by
    cases report.outcome <;> simp [CycleOutcome.result]
  rw [List.mem_append, not_or]
  exact ⟨body.answers hcrash request, fun hcall => closed _ hcall⟩

end Cycle

open AssetSync.Cycle

/-- The updates of a cycle follow its requests, each answer giving its assets their new states. The
report has all of them, unless the service refused a payload: then it has none, although at least
the chunk of that payload was fetched. -/
theorem runCycle_updates (source : Source σ) (service : TrackingService τ)
    (settings : SyncSettings) (s : σ) (t : τ) (report : CycleReport)
    (reported : (runCycle source service settings s t).ended = .reported report) :
    let run := runCycle source service settings s t
    let requests := run.trace.filterMap Event.request?
    (updates run.trace).map Asset.id = requests.flatMap Batch.ids ∧
      (updates run.trace = [] ↔ requests = []) ∧
      (¬ run.ended.CutShort → report.assets = updates run.trace) ∧
      (run.ended.CutShort → report.assets = [] ∧ updates run.trace ≠ []) := by
  intro run requests
  have htrace : CycleTrace settings run.trace (.reported report) :=
    reported ▸ (runCycle_follows source service settings s t).1
  have hids : (updates run.trace).map Asset.id = requests.flatMap Batch.ids :=
    updates_ids htrace.answers
  have hpublishes := htrace.publishes
  refine ⟨hids, ⟨fun hnone => ?_, updates_eq_nil⟩, fun hcut => ?_, fun hcut => ?_⟩
  · rw [hnone, List.map_nil] at hids
    rcases htrace.pursues with ⟨idle, -⟩ | ⟨planning, later, plan, -, planned, -, pursues⟩
    · exact idle.requests
    · have hbounded := (pursues.requested planned.nodup).bounded
      refine List.eq_nil_iff_forall_not_mem.mpr fun request hrequest => ?_
      have hempty : request.ids = [] := List.flatMap_eq_nil_iff.mp hids.symm request hrequest
      rw [Batch.ids, List.map_eq_nil_iff] at hempty
      simpa [hempty] using hbounded request hrequest
  · rw [reported] at hcut
    rcases houtcome : report.outcome with ⟨cursor, label⟩ | ⟨stage, message⟩
    · rwa [houtcome] at hpublishes
    · rw [houtcome] at hpublishes
      cases stage with
      | saveTrackingData => exact absurd ⟨message, houtcome⟩ hcut
      | _ => exact hpublishes
  · rw [reported] at hcut
    obtain ⟨message, houtcome⟩ := hcut
    rwa [houtcome] at hpublishes

theorem runCycle_updates_refused :
    let service := Refusing.service (Embedded.service "now") fun call earlier =>
      if call = .savePayload ∧ .savePayload ∈ earlier then some (.unavailable "sink") else none
    let script : Script := ⟨.ok .null, [.ok ⟨.pending (["a", "b"].map .discovered), .null⟩], []⟩
    let settings : SyncSettings := ⟨⟨"files", "local"⟩, 1, 5, by decide⟩
    let run := runCycle Script.source service settings script ⟨.empty, []⟩
    updates run.trace = [⟨"a", .finished, 0⟩, ⟨"b", .finished, 0⟩] ∧
      run.ended.records = [{
        status := .aborted, assetsTotal := 0, assetsFinished := 0, assetsActive := 0
        assetsFailed := 0, bytesSent := 14, durationMs := 0
        errorMessage := some "save_tracking_data: tracking service unavailable: sink"
        finishedAt := none }] ∧
      ∃ report, run.ended = .reported report ∧ report.assets = [] := by
  intro service script settings run
  have hrow : run.ended.records ≠ [] := by decide +kernel
  have hcut : run.ended.CutShort := by decide +kernel
  refine ⟨by decide +kernel, by decide +kernel, ?_⟩
  cases hended : run.ended with
  | reported report =>
    obtain ⟨-, -, -, hlost⟩ := runCycle_updates Script.source service settings script _ report hended
    exact ⟨report, rfl, (hlost hcut).1⟩
  | violated | crashed =>
    rw [hended] at hrow
    exact absurd rfl hrow

end AssetSync
