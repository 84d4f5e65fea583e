import AssetSync.Proofs.Asset.Firsts
import AssetSync.Proofs.Cycle.Invariant
import AssetSync.Proofs.Cycle.Requests
import AssetSync.Source.Script

namespace AssetSync

variable {σ τ α β : Type}

def fetchSequence (settings : SyncSettings) (records : List Json) (listed : List Asset) :
    List Asset :=
  let known := firstById (readable records)
  known.filter (·.retryCount ≤ settings.maxRetries) ++
    (firstById listed).filter (·.id ∉ known.map Asset.id)

theorem readable_filter (records : List Json) :
    readable (records.filter fun record => (Asset.ofRecord record).isOk) = readable records := by
  rw [readable, readable, List.filterMap_filter]
  congr 1
  funext record
  cases Asset.ofRecord record <;> rfl

theorem fetchSequence_filter (settings : SyncSettings) (records : List Json)
    (listed : List Asset) :
    fetchSequence settings (records.filter fun record => (Asset.ofRecord record).isOk) listed =
      fetchSequence settings records listed := by
  rw [fetchSequence, readable_filter]
  rfl

section

variable {size : Nat} {positive : 0 < size} {xs chunk : List α}

theorem length_of_mem_chunks (h : chunk ∈ chunks size positive xs) :
    1 ≤ chunk.length ∧ chunk.length ≤ size := by
  fun_induction chunks size positive xs with
  | case1 => simp at h
  | case2 x rest ih =>
    rcases List.mem_cons.mp h with rfl | hrest
    · rw [List.length_take, List.length_cons]
      omega
    · exact ih hrest

theorem length_of_mem_dropLast_chunks (h : chunk ∈ (chunks size positive xs).dropLast) :
    chunk.length = size := by
  fun_induction chunks size positive xs with
  | case1 => simp at h
  | case2 x rest ih =>
    have hfull : chunks size positive ((x :: rest).drop size) ≠ [] →
        ((x :: rest).take size).length = size := by
      intro hmore
      have hrest : (x :: rest).drop size ≠ [] := by
        intro hnil
        rw [hnil, chunks] at hmore
        exact hmore rfl
      have hlong : ¬ (x :: rest).length ≤ size := mt List.drop_eq_nil_iff.mpr hrest
      rw [List.length_take]
      omega
    cases hmore : chunks size positive ((x :: rest).drop size) with
    | nil =>
      rw [hmore] at h
      simp at h
    | cons next others =>
      rw [hmore, List.dropLast_cons_cons] at h
      rcases List.mem_cons.mp h with rfl | hrest
      · exact hfull (by simp [hmore])
      · apply ih
        rwa [hmore]

end

theorem mem_dropLast_of_isPrefix {first all : List α} (h : first <+: all) {x : α}
    (hx : x ∈ first.dropLast) : x ∈ all.dropLast := by
  obtain ⟨later, rfl⟩ := h
  cases later with
  | nil => rwa [List.append_nil]
  | cons y rest =>
    rw [List.dropLast_append_of_ne_nil (by simp)]
    exact List.mem_append_left _ ((List.dropLast_sublist first).subset hx)

namespace Cycle

variable {source : Source σ} {service : TrackingService τ} {settings : SyncSettings}
  {key : SyncerKey} {calls : List Event} {ended : CycleEnd}

theorem budgeted_eq (settings : SyncSettings) (records : List Json) :
    budgeted settings records =
      ⟨(firstById (readable records)).filter (·.retryCount ≤ settings.maxRetries),
        (firstById (readable records)).filter (settings.maxRetries < ·.retryCount)⟩ := by
  have hwithin : (fun asset : Asset => !asset.exceeds settings.maxRetries) =
      fun asset => decide (asset.retryCount ≤ settings.maxRetries) := by
    funext asset
    rw [Bool.eq_iff_iff]
    simp [Asset.exceeds]
  rw [budgeted, OpenAssets.ofRecords_eq, Budgeted.ofAssets, hwithin]
  rfl

theorem plan_assets (settings : SyncSettings) (records : List Json) (cursor : Cursor)
    (label : CursorLabel) (page : Option (Except SourceError Page)) :
    (plan (budgeted settings records) cursor label page).assets =
      fetchSequence settings records (discovery cursor page).1 := by
  rw [budgeted_eq]
  simp only [plan, fetchSet, fetchSequence, appendNew_eq]
  congr 1
  apply List.filter_congr
  intro asset _
  rw [Asset.isNew, Bool.eq_iff_iff]
  simp only [Bool.not_eq_true', Bool.or_eq_false_iff, List.contains_eq_mem, decide_eq_false_iff_not,
    List.any_eq_false, beq_iff_eq, decide_eq_true_eq, List.mem_map, List.mem_filter, not_exists,
    not_and, and_imp]
  constructor
  · rintro ⟨hover, hwithin⟩ known hknown
    by_cases hbudget : known.retryCount ≤ settings.maxRetries
    · exact hwithin known hknown hbudget
    · exact hover known hknown (UInt32.not_le.mp hbudget)
  · intro hnew
    exact ⟨fun known hknown _ => hnew known hknown, fun known hknown _ => hnew known hknown⟩

theorem PlanTrace.sequence {plan : Plan} (h : PlanTrace settings calls (.ok plan)) :
    ∃ records origin page,
      (∀ key' records', .loadActive key' (.ok records') ∈ calls → records' = records) ∧
      calls.filterMap page? = [(origin, page)] ∧
      plan.assets = fetchSequence settings records (discovery origin page).1 := by
  cases h with
  | @planned starting _ origin label _ started loaded page =>
    cases loaded with
    | loaded records =>
      refine ⟨records, origin, page, ?_, ?_, plan_assets settings records origin label page⟩
      · intro key' records' hcall
        cases started <;> rcases page with _ | _ | _ <;> simp_all [discoveryMetrics]
      · cases started <;> rcases page with _ | _ | _ <;> rfl

theorem CycleTrace.loaded (h : CycleTrace settings calls ended) (committed : ended.isCommitted) :
    ∃ records, .loadActive settings.key (.ok records) ∈ calls := by
  rcases h.pursues with ⟨-, hidle⟩ | ⟨planning, later, plan, rfl, planned, -, -⟩
  · rw [committed] at hidle
    cases hidle
  · obtain ⟨records, hcall⟩ := planned.loaded
    exact ⟨records, List.mem_append_left _ hcall⟩

theorem ForwardTrace.unsent {pieces : List (List Asset)} {interrupt : Interrupt}
    (h : ForwardTrace key pieces calls (.error interrupt)) :
    interrupt = .crash ∨ ∃ data e, .savePayload key data (.error e) ∈ calls := by
  generalize hr : (Except.error interrupt : Except Interrupt (List Asset)) = result at h
  induction h with
  | done => cases hr
  | @next _ _ _ _ _ result _ _ ih =>
    cases result with
    | ok => cases hr
    | error =>
      cases hr
      rcases ih rfl with hcrash | ⟨data, e, hcall⟩
      · exact .inl hcrash
      · exact .inr ⟨data, e, List.mem_append_right _ hcall⟩
  | stopped first =>
    cases hr
    cases first with
    | crashed => exact .inl rfl
    | @unsent _ data _ _ e => exact .inr ⟨data, e, by simp⟩

theorem BodyTrace.unsent {states : List Asset} {message : String}
    (h : BodyTrace settings calls (.error (.abort .saveTrackingData message)) states) :
    ∃ data e, .savePayload settings.key data (.error e) ∈ calls := by
  generalize hr : (Except.error (.abort .saveTrackingData message) :
    Except Interrupt (Cursor × CursorLabel)) = result at h
  cases h with
  | unplanned planned =>
    cases planned with
    | unstarted started => cases started <;> cases hr
    | unloaded _ loaded => cases loaded; cases hr
  | planned _ delivered =>
    cases delivered with
    | interrupted forwarded =>
      cases hr
      rcases forwarded.unsent with hcrash | ⟨data, e, hcall⟩
      · cases hcrash
      · exact ⟨data, e, List.mem_append_right _ hcall⟩
    | forwarded _ committed =>
      cases committed with
      | unsaved => cases hr
      | saved _ answer => cases answer <;> cases hr
      | nothing _ answer => cases answer <;> cases hr

theorem CycleTrace.unsent (h : CycleTrace settings calls ended) (hcut : ended.CutShort) :
    ended = .crashed ∨ ∃ data e, .savePayload settings.key data (.error e) ∈ calls := by
  cases h with
  | crashed => exact .inl rfl
  | aborted body outcome =>
    obtain ⟨message, hreport⟩ := hcut
    rw [outcome] at hreport
    cases hreport
    obtain ⟨data, e, hcall⟩ := body.unsent
    exact .inr ⟨data, e, List.mem_append_left _ hcall⟩
  | committed _ outcome =>
    obtain ⟨message, hreport⟩ := hcut
    rw [outcome] at hreport
    cases hreport

/-- The requests ask for the sequence in its order, in chunks that are full but for the last. -/
structure Requests (size : Nat) (sequence : List Asset) (requests : List Batch) : Prop where
  inOrder : requests.flatMap Batch.assets <+: sequence
  unique : (sequence.map Asset.id).Nodup
  bounded : ∀ request ∈ requests, 1 ≤ request.assets.length ∧ request.assets.length ≤ size
  full : ∀ request ∈ requests.dropLast, request.assets.length = size

theorem flatMap_assets_pending (pieces : List (List Asset)) :
    (pieces.map Batch.pending).flatMap Batch.assets = pieces.flatten := by
  rw [List.flatMap_map, List.flatMap_def]
  exact congrArg List.flatten (List.map_id pieces)

theorem Pursues.requested {plan : Plan} (h : Pursues settings plan calls ended)
    (unique : (plan.assets.map Asset.id).Nodup) :
    Requests settings.batchSize plan.assets (calls.filterMap Event.request?) where
  inOrder := by
    obtain ⟨later, hlater⟩ := h.requests
    have hall := congrArg (List.flatMap Batch.assets) hlater
    rw [flatMap_assets_pending, chunks_flatten, List.flatMap_append] at hall
    exact ⟨_, hall⟩
  unique := unique
  bounded request hrequest := by
    obtain ⟨chunk, hchunk, rfl⟩ := List.mem_map.mp (h.requests.subset hrequest)
    exact length_of_mem_chunks hchunk
  full request hrequest := by
    have hlast := mem_dropLast_of_isPrefix h.requests hrequest
    rw [← List.map_dropLast] at hlast
    obtain ⟨chunk, hchunk, rfl⟩ := List.mem_map.mp hlast
    exact length_of_mem_dropLast_chunks hchunk

theorem Pursues.flatMap_requests {plan : Plan} (h : Pursues settings plan calls ended)
    (hcut : ¬ ended.CutShort) :
    (calls.filterMap Event.request?).flatMap Batch.assets = plan.assets := by
  rw [h.complete hcut, flatMap_assets_pending, chunks_flatten]

def Counted (key : SyncerKey) (w : CycleWorld σ τ) : Prop :=
  ∀ records, .loadActive key (.ok records) ∈ w.trace →
    w.progress.skippedRecords = unreadableCount records

theorem Counted.log {w : CycleWorld σ τ} {event : Event} (h : Counted key w)
    (hevent : ∀ records, event ≠ .loadActive key (.ok records)) : Counted key (w.log event) := by
  intro records hcall
  rcases List.mem_append.mp hcall with hcall | hcall
  · exact h records hcall
  · exact absurd (List.mem_singleton.mp hcall).symm (hevent records)

theorem counted_ignores {event : Event} (hevent : ∀ records, event ≠ .loadActive key (.ok records)) :
    Ignores (Counted key : CycleWorld σ τ → Prop) event :=
  fun w h s t => Counted.log (w := { w with source := s, store := t }) h hevent

theorem counted_overlooks {change : CycleProgress → CycleProgress}
    (same : ∀ p, (change p).skippedRecords = p.skippedRecords) :
    Overlooks (Counted key : CycleWorld σ τ → Prop) change :=
  fun w h records hcall => (same w.progress).trans (h records hcall)

theorem counted_steady : Steady (Counted key : CycleWorld σ τ → Prop) where
  metric _ := counted_ignores (by simp)
  discover _ _ _ := counted_ignores (by simp)
  saveStates _ _ _ := counted_ignores (by simp)
  saveCursor _ _ _ _ := counted_ignores (by simp)
  pageError _ := counted_overlooks fun _ => rfl
  assets _ := counted_overlooks fun _ => rfl

def Keeps (key : SyncerKey) (step : Step σ τ α) : Prop :=
  ∀ w, Counted key w → Counted key (step w).2

namespace Keeps

theorem measure (m : Metric) : Keeps key (measure m : Step σ τ Unit) :=
  Preserves.measure (counted_steady.metric m)

theorem send (data : Json) : Keeps key (send service key data : Step σ τ Unit) := by
  apply Preserves.bind (measure _)
  intro _
  apply Preserves.bind (.track fun _ => counted_ignores (by simp))
  intro sent
  apply Preserves.bind (measure _)
  intro _
  exact Preserves.bind (.orAbort _ sent) fun _ => .note (counted_overlooks fun _ => rfl)

theorem forward (chunk : List Asset) : Keeps key (forward source service key chunk) := by
  apply Preserves.bind (.ask fun _ => counted_ignores (by simp))
  rintro (batch | e | _)
  · apply Preserves.bind (measure _)
    intro _
    cases batch.payload? with
    | some data => exact .bind (send data) fun _ => .pure _
    | none => exact .pure _
  · exact .bind (measure _) fun _ => .bind (measure _) fun _ =>
      .bind (.note (counted_overlooks fun _ => rfl)) fun _ => .pure _
  · exact .throw _

end Keeps

theorem loadOpen_counted {w : CycleWorld σ τ}
    (unloaded : ∀ records, .loadActive settings.key (.ok records) ∉ w.trace) :
    Counted settings.key (loadOpen service settings w).2 := by
  rcases hload : service.loadActive settings.key w.store with ⟨answer, t⟩
  unfold loadOpen
  rw [bind_apply, track_apply, hload]
  cases answer with
  | error e =>
    intro records hcall
    rcases List.mem_append.mp hcall with hcall | hcall
    · exact absurd hcall (unloaded records)
    · simp at hcall
  | ok records =>
    let found := OpenAssets.ofRecords records
    let b := Budgeted.ofAssets found.assets settings.maxRetries
    let noted : CycleWorld σ τ :=
      { { w with store := t }.log (.loadActive settings.key (.ok records)) with
        progress := { w.progress with
          skippedRecords := found.skipped, exhausted := b.exhausted.length } }
    have hnoted : Counted settings.key noted := by
      intro records' hcall
      rcases List.mem_append.mp hcall with hcall | hcall
      · exact absurd hcall (unloaded records')
      · cases List.mem_singleton.mp hcall
        exact congrArg OpenAssets.skipped (OpenAssets.ofRecords_eq records)
    have hrest : Keeps settings.key (do
        Cycle.measure (.failedAssets b.failedCount)
        Cycle.measure (.exhaustedAssets b.exhausted.length)
        return b : Step σ τ Budgeted) :=
      Preserves.bind (Keeps.measure _) fun _ => .bind (Keeps.measure _) fun _ => .pure _
    exact hrest noted hnoted

theorem body_counted (s : σ) (t : τ) :
    Counted settings.key (body source service settings ⟨s, t, .start, []⟩).2 := by
  obtain ⟨starting, result, hstart, hstarts⟩ :
      ∃ events result, StartTrace settings.key events result ∧ Ends source service
        (start source service settings.key) ⟨s, t, .start, []⟩ events result [] :=
    start_ends settings.key _
  have hunloaded : ∀ records, .loadActive settings.key (.ok records) ∉
      (start source service settings.key ⟨s, t, .start, []⟩).2.trace := by
    intro records
    rw [hstarts.trace]
    cases hstart <;> simp
  rw [body_eq, bind_apply]
  rcases hrun : start source service settings.key ⟨s, t, .start, []⟩ with ⟨_ | ⟨cursor, label⟩, w⟩
  · rw [hrun] at hunloaded
    exact fun records hcall => absurd hcall (hunloaded records)
  rw [hrun] at hunloaded
  have hloaded : Counted settings.key (loadOpen service settings w).2 := loadOpen_counted hunloaded
  simp only
  rw [bind_apply]
  rcases hload : loadOpen service settings w with ⟨_ | b, w'⟩
  · rwa [hload] at hloaded
  rw [hload] at hloaded
  exact counted_steady.pursue Keeps.forward cursor label b w' hloaded

theorem conclude_counted {done : Except Interrupt (Cursor × CursorLabel)} {w : CycleWorld σ τ}
    (h : Counted key w) {report : CycleReport}
    (hended : (conclude service key done w).1 = .reported report) {records : List Json}
    (hcall : .loadActive key (.ok records) ∈ (conclude service key done w).2.trace) :
    report.skippedRecords = unreadableCount records := by
  obtain ⟨hprogress, closing, htrace, closed⟩ := conclude_reported hended
  rw [htrace] at hcall
  rw [hprogress]
  exact h records ((List.mem_append.mp hcall).resolve_right fun hclosing => closed _ hclosing)

end Cycle

open AssetSync.Cycle

theorem runCycle_requests (source : Source σ) (service : TrackingService τ)
    (settings : SyncSettings) (s : σ) (t : τ) (records : List Json)
    (loaded : .loadActive settings.key (.ok records) ∈
      (runCycle source service settings s t).trace) :
    let run := runCycle source service settings s t
    let requests := run.trace.filterMap Event.request?
    ∃ origin page, run.trace.filterMap page? = [(origin, page)] ∧
      let sequence := fetchSequence settings records (discovery origin page).1
      Requests settings.batchSize sequence requests ∧
      ((∀ data e, .savePayload settings.key data (.error e) ∉ run.trace) → run.ended ≠ .crashed →
        requests.flatMap Batch.assets = sequence) ∧
      sequence = fetchSequence settings
        (records.filter fun record => (Asset.ofRecord record).isOk) (discovery origin page).1 ∧
      ∀ report, run.ended = .reported report →
        report.skippedRecords = unreadableCount records := by
  intro run requests
  have htrace : CycleTrace settings run.trace run.ended :=
    (runCycle_follows source service settings s t).1
  rcases htrace.pursues with ⟨idle, -⟩ | ⟨planning, later, plan, hsplit, planned, hlater, pursues⟩
  · exact absurd loaded (idle.unloaded _ _)
  obtain ⟨records', origin, page, honly, hpage, hassets⟩ := planned.sequence
  have hrecords : records = records' := by
    have hcall : .loadActive settings.key (.ok records) ∈ planning ++ later := hsplit ▸ loaded
    rcases List.mem_append.mp hcall with hcall | hcall
    · exact honly _ _ hcall
    · rcases hlater _ hcall with h | h | h <;> exact h.elim
  subst hrecords
  refine ⟨origin, page, ?_, ?_, ?_, (fetchSequence_filter _ _ _).symm, ?_⟩
  · rw [hsplit, List.filterMap_append, hpage, filterMap_page?_eq_nil hlater, List.append_nil]
  · rw [← hassets]
    exact pursues.requested planned.nodup
  · intro hsent hended
    have hcut : ¬ run.ended.CutShort := by
      intro hcut
      rcases htrace.unsent hcut with hcrash | ⟨data, e, hcall⟩
      · exact hended hcrash
      · exact hsent data e hcall
    rw [← hassets]
    exact pursues.flatMap_requests hcut
  · intro report hended
    have hcounted : Counted settings.key (body source service settings ⟨s, t, .start, []⟩).2 :=
      body_counted s t
    exact conclude_counted hcounted hended loaded

theorem runCycle_loads {source : Source σ} {service : TrackingService τ} {settings : SyncSettings}
    {s : σ} {t : τ} {records : List Json}
    (loads : ∀ t, (service.loadActive settings.key t).1 = .ok records)
    (committed : (runCycle source service settings s t).ended.isCommitted) :
    .loadActive settings.key (.ok records) ∈ (runCycle source service settings s t).trace := by
  obtain ⟨htrace, hperformed⟩ := runCycle_follows source service settings s t
  obtain ⟨records', hcall⟩ := htrace.loaded committed
  obtain ⟨_, _, _, _, -, -, hload, -⟩ := hperformed.split hcall
  cases hload with
  | asked h => cases h
  | tracked h =>
    cases h with
    | loadActive h =>
      have hanswer := congrArg Prod.fst h
      rw [loads] at hanswer
      cases hanswer
      exact hcall

theorem runCycle_requests_repeated :
    let record (id state : String) (retries : UInt32) : Json :=
      looseRecord id state (.ofUInt32 retries)
    let records := [record "a" "lost" 0, record "a" "active" 1, record "b" "init" 9, .null,
      record "a" "init" 0, record "c" "failed_request" 0]
    let service : TrackingService Unit :=
      { TrackingService.forgetful with loadActive := fun _ s => (.ok records, s) }
    let listed := ["d", "b", "c", "d", "e"].map Asset.discovered
    let script : Script := ⟨.ok .null, [.ok ⟨.pending listed, .null⟩], []⟩
    let settings : SyncSettings := ⟨⟨"files", "local"⟩, 3, 1, by decide⟩
    let run := runCycle Script.source service settings script ()
    let requests := run.trace.filterMap Event.request?
    fetchSequence settings records listed =
        [⟨"a", .active, 1⟩, ⟨"c", .failedRequest, 0⟩, .discovered "d", .discovered "e"] ∧
      requests.map Batch.ids = [["a", "c", "d"], ["e"]] ∧
      ∃ origin page, run.trace.filterMap page? = [(origin, page)] ∧
        Requests settings.batchSize
          (fetchSequence settings records (discovery origin page).1) requests := by
  intro record records service listed script settings run requests
  refine ⟨by decide +kernel, by decide +kernel, ?_⟩
  have hloaded : .loadActive settings.key (.ok records) ∈ run.trace :=
    runCycle_loads (fun _ => rfl) (by decide +kernel)
  obtain ⟨origin, page, hpage, hrequests, -⟩ :=
    runCycle_requests Script.source service settings script () records hloaded
  exact ⟨origin, page, hpage, hrequests⟩

end AssetSync
