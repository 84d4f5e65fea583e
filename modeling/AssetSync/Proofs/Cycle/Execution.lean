import AssetSync.Proofs.Chain
import AssetSync.Proofs.Cycle.Event
import AssetSync.Proofs.Cycle.FetchSet

/-!
Every cycle leaves one of the traces of a cycle, and each event of the trace is a call that the
source or the service answered in the state in which the events before it had left them.
-/

namespace AssetSync

variable {σ τ α β : Type}

namespace Cycle

theorem bind_apply (step : Step σ τ α) (next : α → Step σ τ β) (w : CycleWorld σ τ) :
    (step >>= next) w = match step w with
      | (.ok value, w') => next value w'
      | (.error interrupt, w') => (.error interrupt, w') := by
  change ExceptT.bindCont next (step w).1 (step w).2 = _
  rcases step w with ⟨_ | _, _⟩ <;> rfl

/-- Run in a world, the step comes to the result and leaves the events; the new states of the fetch
set are `states` then. -/
structure Ends (source : Source σ) (service : TrackingService τ) (step : Step σ τ α)
    (w : CycleWorld σ τ) (events : List Event) (result : Except Interrupt α)
    (states : List Asset) : Prop where
  result : (step w).1 = result
  trace : (step w).2.trace = w.trace ++ events
  performed : Chain (Event.Performed source service) events (w.source, w.store)
    ((step w).2.source, (step w).2.store)
  assets : (step w).2.progress.assets = states

variable {source : Source σ} {service : TrackingService τ} {w : CycleWorld σ τ}
  {events later : List Event} {states states' : List Asset}

namespace Ends

theorem pure (value : α) : Ends source service (pure value) w [] (.ok value) w.progress.assets :=
  ⟨rfl, (List.append_nil _).symm, rfl, rfl⟩

theorem throw (interrupt : Interrupt) :
    Ends source service (throw interrupt : Step σ τ α) w [] (.error interrupt) w.progress.assets :=
  ⟨rfl, (List.append_nil _).symm, rfl, rfl⟩

section

variable {step : Step σ τ α} {next : α → Step σ τ β} {value : α} {result : Except Interrupt β}

theorem bind (h : Ends source service step w events (.ok value) states)
    (h' : Ends source service (next value) (step w).2 later result states') :
    Ends source service (step >>= next) w (events ++ later) result states' := by
  have hrun : (step >>= next) w = next value (step w).2 := by
    obtain ⟨w', hw⟩ : ∃ w', step w = (.ok value, w') := ⟨_, Prod.ext h.result rfl⟩
    rw [bind_apply, hw]
  constructor
  · rw [hrun, h'.result]
  · rw [hrun, h'.trace, h.trace, List.append_assoc]
  · rw [hrun]
    exact chain_append.mpr ⟨_, h.performed, h'.performed⟩
  · rw [hrun, h'.assets]

theorem bind_error {interrupt : Interrupt}
    (h : Ends source service step w events (.error interrupt) states) :
    Ends source service (step >>= next) w events (.error interrupt) states := by
  have hrun : (step >>= next) w = (.error interrupt, (step w).2) := by
    obtain ⟨w', hw⟩ : ∃ w', step w = (.error interrupt, w') := ⟨_, Prod.ext h.result rfl⟩
    rw [bind_apply, hw]
  constructor
  · rw [hrun]
  · rw [hrun, h.trace]
  · rw [hrun]
    exact h.performed
  · rw [hrun, h.assets]

theorem cons {event : Event} (h : Ends source service step w [event] (.ok value) states)
    (h' : Ends source service (next value) (step w).2 later result states') :
    Ends source service (step >>= next) w (event :: later) result states' :=
  h.bind h'

theorem skip (h : Ends source service step w [] (.ok value) states)
    (h' : Ends source service (next value) (step w).2 later result states') :
    Ends source service (step >>= next) w later result states' :=
  h.bind h'

theorem last (h : Ends source service step w events (.ok value) states)
    (h' : Ends source service (next value) (step w).2 [] result states') :
    Ends source service (step >>= next) w events result states' := by
  simpa only [List.append_nil] using h.bind h'

theorem yields {value' : β} (h : Ends source service step w events (.ok value) states)
    (hnext : next value = Pure.pure value') :
    Ends source service (step >>= next) w events (.ok value') states := by
  obtain rfl := h.assets
  exact h.last (hnext ▸ .pure value')

end

theorem measure (m : Metric) :
    Ends source service (measure m) w [.metric m] (.ok ()) w.progress.assets :=
  ⟨rfl, rfl, ⟨_, .metric, rfl⟩, rfl⟩

theorem note (change : CycleProgress → CycleProgress) :
    Ends source service (note change) w [] (.ok ()) (change w.progress).assets :=
  ⟨rfl, (List.append_nil _).symm, rfl, rfl⟩

theorem track {call : StoreCall τ α} {event : Except StoreError α → Event}
    {answer : Except StoreError α} {t : τ} (h : call w.store = (answer, t))
    (performed : (event answer).Performed source service (w.source, w.store) (w.source, t)) :
    Ends source service (track call event) w [event answer] (.ok answer) w.progress.assets := by
  obtain ⟨rfl, rfl⟩ : answer = (call w.store).1 ∧ t = (call w.store).2 := by simp [h]
  exact ⟨rfl, rfl, ⟨_, performed, rfl⟩, rfl⟩

theorem ask {call : σ → α × σ} {event : α → Event} {answer : α} {s : σ}
    (h : call w.source = (answer, s))
    (performed : (event answer).Performed source service (w.source, w.store) (s, w.store)) :
    Ends source service (ask call event) w [event answer] (.ok answer) w.progress.assets := by
  obtain ⟨rfl, rfl⟩ : answer = (call w.source).1 ∧ s = (call w.source).2 := by simp [h]
  exact ⟨rfl, rfl, ⟨_, performed, rfl⟩, rfl⟩

theorem orAbort {call : StoreCall τ α} {event : Except StoreError α → Event}
    {answer : Except StoreError α} {t : τ} (h : call w.store = (answer, t))
    (performed : (event answer).Performed source service (w.source, w.store) (w.source, t))
    (stage : AbortStage) :
    Ends source service (do orAbort stage (← Cycle.track call event)) w [event answer]
      (answer.mapError fun e => .abort stage e.message) w.progress.assets := by
  cases answer with
  | ok => exact .cons (.track h performed) (.pure _)
  | error e => exact .cons (.track h performed) (.throw _)

theorem timed {step : Step σ τ (List Asset)} {result : Except Interrupt (List Asset)}
    (h : Ends source service step w events result states) :
    Ends source service (timed step) w (events ++ timing result) result states := by
  obtain rfl := h.assets
  have hlift : Ends source service (ExceptT.lift step.run : Step σ τ _) w events (.ok result) _ :=
    ⟨congrArg Except.ok h.result, h.trace, h.performed, rfl⟩
  rcases result with (_ | _ | _) | value
  · exact hlift.bind (.last (.measure _) (.throw _))
  · exact hlift.bind (.last (.measure _) (.throw _))
  · exact hlift.bind (.throw _)
  · exact hlift.bind (.last (.measure _) (.pure _))

end Ends

theorem start_ends (key : SyncerKey) (w : CycleWorld σ τ) :
    ∃ events result, StartTrace key events result ∧
      Ends source service (start source service key) w events result w.progress.assets := by
  unfold start
  rcases hload : service.loadCheckpoint key w.store with ⟨e | _ | checkpoint, t⟩
  · exact ⟨_, _, .unloaded e,
      .cons (.track hload (.tracked (.loadCheckpoint hload))) (.bind_error (.throw _))⟩
  · rcases hinit : source.initCursor w.source with ⟨e | cursor, s⟩
    · exact ⟨_, _, .sourceless e,
        .cons (.track hload (.tracked (.loadCheckpoint hload))) (.skip (.pure _)
          (.cons (.ask hinit (.asked (.initCursor hinit))) (.throw _)))⟩
    · exact ⟨_, _, .fresh cursor,
        .cons (.track hload (.tracked (.loadCheckpoint hload))) (.skip (.pure _)
          (.cons (.ask hinit (.asked (.initCursor hinit))) (.pure _)))⟩
  · exact ⟨_, _, .resumed checkpoint,
      .cons (.track hload (.tracked (.loadCheckpoint hload))) (.skip (.pure _) (.pure _))⟩

theorem loadOpen_ends (settings : SyncSettings) (w : CycleWorld σ τ) :
    ∃ events result, LoadTrace settings events result ∧
      Ends source service (loadOpen service settings) w events result w.progress.assets := by
  unfold loadOpen
  rcases hload : service.loadActive settings.key w.store with ⟨e | records, t⟩
  · exact ⟨_, _, .failed e,
      .cons (.track hload (.tracked (.loadActive hload))) (.bind_error (.throw _))⟩
  · exact ⟨_, _, .loaded records,
      .cons (.track hload (.tracked (.loadActive hload))) (.skip (.pure _) (.skip (.note _)
        (.cons (.measure _) (.cons (.measure _) (.pure _)))))⟩

theorem discover_ends (size : Nat) (cursor : Cursor) (w : CycleWorld σ τ) :
    ∃ page, Ends source service (discover source size cursor) w
      (.discover cursor size page :: discoveryMetrics page) (.ok (discovery cursor page))
      w.progress.assets := by
  unfold discover
  rcases hpage : source.firstPage? cursor size w.source with ⟨_ | e | page, s⟩
  · exact ⟨none, .cons (.ask hpage (.asked (.discover hpage))) (.pure _)⟩
  · exact ⟨some (.error e), .cons (.ask hpage (.asked (.discover hpage)))
      (.cons (.measure _) (.skip (.note _) (.pure _)))⟩
  · exact ⟨some (.ok page), .cons (.ask hpage (.asked (.discover hpage))) (.pure _)⟩

theorem send_ends {key : SyncerKey} {data : Json} {w : CycleWorld σ τ}
    {answer : Except StoreError Unit} {t : τ}
    (hsave : service.savePayload key data w.store = (answer, t)) :
    Ends source service (send service key data) w
      [.metric (.payloadBytes data.text.utf8ByteSize), .savePayload key data answer,
        .metric (.sendTime .zero)]
      (answer.mapError fun e => .abort .saveTrackingData e.message) w.progress.assets := by
  unfold send
  cases answer with
  | ok =>
    exact .cons (.measure _) (.cons (.track hsave (.tracked (.savePayload hsave)))
      (.cons (.measure _) (.skip (.pure _) (.note _))))
  | error e =>
    exact .cons (.measure _) (.cons (.track hsave (.tracked (.savePayload hsave)))
      (.cons (.measure _) (.bind_error (.throw _))))

theorem payload?_of_hasData {batch : Batch} (h : batch.hasData = true) :
    ∃ data, batch.data = some data ∧ batch.payload? = some data := by
  unfold Batch.hasData at h
  unfold Batch.payload?
  cases hdata : batch.data with
  | none => simp [hdata] at h
  | some data => exact ⟨data, rfl, by simpa [hdata] using h⟩

theorem payload?_of_not_hasData {batch : Batch} (h : batch.hasData = false) :
    batch.payload? = none := by
  unfold Batch.hasData at h
  unfold Batch.payload?
  cases hdata : batch.data with
  | none => rfl
  | some data => simpa [hdata] using h

theorem forward_ends (key : SyncerKey) (chunk : List Asset) (w : CycleWorld σ τ) :
    ∃ events result, ChunkTrace key chunk events result ∧
      Ends source service (forward source service key chunk) w events result
        w.progress.assets := by
  unfold forward
  rcases hfetch : source.fetch (.pending chunk) w.source with ⟨batch | e | _, s⟩
  · cases hdata : batch.hasData with
    | false =>
      refine ⟨_, _, .silent hdata,
        .cons (.ask hfetch (.asked (.fetch hfetch))) (.cons (.measure _) ?_)⟩
      simp only [payload?_of_not_hasData hdata]
      exact .pure _
    | true =>
      obtain ⟨data, hsome, hpayload⟩ := payload?_of_hasData hdata
      rcases hsave : service.savePayload key data w.store with ⟨e | ⟨⟩, t⟩
      · refine ⟨_, _, .unsent hdata hsome e,
          .cons (.ask hfetch (.asked (.fetch hfetch))) (.cons (.measure _) ?_)⟩
        simp only [hpayload]
        exact .bind_error (send_ends hsave)
      · refine ⟨_, _, .sent hdata hsome,
          .cons (.ask hfetch (.asked (.fetch hfetch))) (.cons (.measure _) ?_)⟩
        simp only [hpayload]
        exact .yields (send_ends hsave) rfl
  · exact ⟨_, _, .unfetched e, .cons (.ask hfetch (.asked (.fetch hfetch)))
      (.cons (.measure _) (.cons (.measure _) (.skip (.note _) (.pure _))))⟩
  · exact ⟨_, _, .crashed, .cons (.ask hfetch (.asked (.fetch hfetch))) (.throw _)⟩

theorem forwardAll_ends (key : SyncerKey) (pieces : List (List Asset)) (w : CycleWorld σ τ) :
    ∃ events result, ForwardTrace key pieces events result ∧
      Ends source service (forwardAll source service key pieces) w events result
        w.progress.assets := by
  induction pieces generalizing w with
  | nil => exact ⟨_, _, .done, .pure _⟩
  | cons chunk rest ih =>
    unfold forwardAll
    obtain ⟨events, result, hchunk, hends⟩ :=
      forward_ends key chunk w
    cases result with
    | error interrupt => exact ⟨_, _, .stopped hchunk, .bind_error hends.timed⟩
    | ok states =>
      obtain ⟨later, result, hrest, hlater⟩ := ih (timed (forward source service key chunk) w).2
      rw [hends.timed.assets] at hlater
      refine ⟨_, _, .next hchunk hrest, hends.timed.bind ?_⟩
      cases result with
      | error interrupt => exact .bind_error hlater
      | ok others => exact .yields hlater rfl

theorem commit_ends (key : SyncerKey) (plan : Plan) {states : List Asset}
    (hlength : states.length = plan.assets.length) (w : CycleWorld σ τ) :
    ∃ events result, CommitTrace key plan states events result ∧
      Ends source service (commit service key states plan.label plan.cursor) w events result
        w.progress.assets := by
  unfold commit
  cases hempty : states.isEmpty with
  | true =>
    have hplan : plan.assets = [] := by
      apply List.eq_nil_of_length_eq_zero
      rw [← hlength, List.isEmpty_iff.mp hempty, List.length_nil]
    rcases hcursor : service.saveCursor key plan.label plan.cursor w.store with ⟨answer, t⟩
    exact ⟨_, _, .nothing hplan answer, .orAbort hcursor (.tracked (.saveCursor hcursor)) _⟩
  | false =>
    have hplan : plan.assets ≠ [] := by
      intro hnil
      rw [hnil, List.length_nil, List.length_eq_zero_iff] at hlength
      simp [hlength] at hempty
    rcases hsave : service.saveStates key states w.store with ⟨e | ⟨⟩, t⟩
    · exact ⟨_, _, .unsaved hplan e,
        .cons (.track hsave (.tracked (.saveStates hsave))) (.bind_error (.throw _))⟩
    · have hstore :
          (track (service.saveStates key states) (.saveStates key states) w).2.store = t :=
        congrArg Prod.snd hsave
      rcases hcursor : service.saveCursor key plan.label plan.cursor t with ⟨answer, t'⟩
      rw [← hstore] at hcursor
      exact ⟨_, _, .saved hplan answer, .cons (.track hsave (.tracked (.saveStates hsave)))
        (.skip (.pure _) (.orAbort hcursor (.tracked (.saveCursor hcursor)) _))⟩

theorem deliver_ends (settings : SyncSettings) (plan : Plan) {w : CycleWorld σ τ}
    (hw : w.progress.assets = []) :
    ∃ events result states, DeliverTrace settings plan events result states ∧
      Ends source service (do
          let updated ← forwardAll source service settings.key
            (chunks settings.batchSize settings.batchSize_pos plan.assets)
          unless updated.length = plan.assets.length do
            throw (.violation (.stateCountMismatch plan.assets.length updated.length))
          note fun p => { p with assets := updated }
          commit service settings.key updated plan.label plan.cursor
          return (plan.cursor, plan.label))
        w events result states := by
  obtain ⟨forwarding, result, hforward, hforwards⟩ := forwardAll_ends settings.key
    (chunks settings.batchSize settings.batchSize_pos plan.assets) w
  rw [hw] at hforwards
  cases result with
  | error interrupt => exact ⟨_, _, _, .interrupted hforward, .bind_error hforwards⟩
  | ok updated =>
    have hlength : updated.length = plan.assets.length := by
      rw [hforward.length_states, chunks_flatten]
    obtain ⟨committing, result, hcommit, hcommits⟩ := commit_ends settings.key plan hlength
      (note (fun p => { p with assets := updated })
        (forwardAll source service settings.key
          (chunks settings.batchSize settings.batchSize_pos plan.assets) w).2).2
    refine ⟨_, _, _, .forwarded hforward hcommit, hforwards.bind ?_⟩
    simp only [hlength, if_true]
    cases result with
    | error interrupt => exact .skip (.note _) (.bind_error hcommits)
    | ok => exact .skip (.note _) (.yields hcommits rfl)

theorem body_ends (settings : SyncSettings) {w : CycleWorld σ τ} (hw : w.progress.assets = []) :
    ∃ events result states, BodyTrace settings events result states ∧
      Ends source service (body source service settings) w events result states := by
  unfold body
  obtain ⟨starting, result, hstart, hstarts⟩ := start_ends settings.key w
  rw [hw] at hstarts
  cases result with
  | error interrupt => exact ⟨_, _, _, .unplanned (.unstarted hstart), .bind_error hstarts⟩
  | ok started =>
    obtain ⟨cursor, label⟩ := started
    let w₁ := (start source service settings.key w).2
    obtain ⟨loading, result, hload, hloads⟩ := loadOpen_ends settings w₁
    rw [hstarts.assets] at hloads
    cases result with
    | error interrupt =>
      exact ⟨_, _, _, .unplanned (.unloaded hstart hload), hstarts.bind (.bind_error hloads)⟩
    | ok b =>
      let w₂ := (loadOpen service settings w₁).2
      obtain ⟨page, hdiscovers⟩ := discover_ends settings.batchSize cursor w₂
      rw [hloads.assets] at hdiscovers
      have hplan := PlanTrace.planned hstart hload page
      let size : Metric := .fetchSetSize (plan b cursor label page).assets.length
      let w₃ := (measure size (discover source settings.batchSize cursor w₂).2).2
      obtain ⟨delivering, result, states, hdeliver, hdelivers⟩ :=
        deliver_ends settings (plan b cursor label page) (w := w₃) hdiscovers.assets
      refine ⟨starting ++ (loading ++ (.discover cursor settings.batchSize page ::
        discoveryMetrics page ++ .metric size :: delivering)), result, states, ?_,
        hstarts.bind (hloads.bind (hdiscovers.bind ?_))⟩
      · simpa using BodyTrace.planned hplan hdeliver
      · have hunique : firstRepeated? [] (fetchSet b.fetchable (discovery cursor page).1
            (b.exhausted.map Asset.id)) = none :=
          firstRepeated?_eq_none hplan.nodup (by simp)
        simp only [hunique]
        exact .cons (.measure size) hdelivers

theorem ChunkTrace.ne_violation {key : SyncerKey} {chunk : List Asset} {e : SyncError}
    (h : ChunkTrace key chunk events (.error (.violation e))) : False := by
  cases h

theorem ForwardTrace.ne_violation {key : SyncerKey} {pieces : List (List Asset)} {e : SyncError}
    (h : ForwardTrace key pieces events (.error (.violation e))) : False := by
  generalize hr : (Except.error (.violation e) : Except Interrupt (List Asset)) = result at h
  induction h with
  | done => cases hr
  | @next _ _ _ _ _ result _ _ ih =>
    cases result with
    | error => cases hr; exact ih rfl
    | ok => cases hr
  | stopped first => cases hr; exact first.ne_violation

theorem BodyTrace.ne_violation {settings : SyncSettings} {e : SyncError}
    (h : BodyTrace settings events (.error (.violation e)) states) : False := by
  cases h with
  | unplanned planned =>
    cases planned with
    | unstarted started => cases started
    | unloaded _ loaded => cases loaded
  | planned _ delivered =>
    generalize hr : (Except.error (.violation e) : Except Interrupt (Cursor × CursorLabel)) = result
      at delivered
    cases delivered with
    | interrupted forwarded => cases hr; exact forwarded.ne_violation
    | forwarded _ committed =>
      cases committed with
      | unsaved => cases hr
      | saved _ answer => cases answer <;> cases hr
      | nothing _ answer => cases answer <;> cases hr

section

variable {key : SyncerKey} {settings : SyncSettings} {calls : List Event}

theorem ForwardTrace.crashed {pieces : List (List Asset)}
    (h : ForwardTrace key pieces calls (.error .crash)) :
    ∃ request, .fetch request .crashed ∈ calls := by
  generalize hr : (Except.error .crash : Except Interrupt (List Asset)) = result at h
  induction h with
  | done => cases hr
  | @next _ _ _ _ _ result _ _ ih =>
    cases result with
    | error =>
      cases hr
      obtain ⟨request, hcall⟩ := ih rfl
      exact ⟨request, List.mem_append_right _ hcall⟩
    | ok => cases hr
  | stopped first =>
    cases hr
    cases first with
    | crashed => exact ⟨_, List.mem_cons_self⟩

theorem BodyTrace.crashed {states : List Asset} (h : BodyTrace settings calls (.error .crash) states) :
    ∃ request, .fetch request .crashed ∈ calls := by
  generalize hr : (Except.error .crash : Except Interrupt (Cursor × CursorLabel)) = result at h
  cases h with
  | unplanned planned =>
    cases hr
    cases planned with
    | unstarted started => cases started
    | unloaded _ loaded => cases loaded
  | planned _ delivered =>
    cases delivered with
    | interrupted forwarded =>
      cases hr
      obtain ⟨request, hcall⟩ := forwarded.crashed
      exact ⟨request, List.mem_append_right _ hcall⟩
    | forwarded _ committed =>
      cases committed with
      | unsaved => cases hr
      | saved _ answer | nothing _ answer => cases answer <;> cases hr

theorem CycleTrace.reported_or_crashed {ended : CycleEnd} (h : CycleTrace settings calls ended) :
    (∃ report, ended = .reported report) ∨
      ended = .crashed ∧ ∃ request, .fetch request .crashed ∈ calls := by
  cases h with
  | crashed body => exact .inr ⟨rfl, body.crashed⟩
  | @aborted _ _ _ report => exact .inl ⟨report, rfl⟩
  | @committed _ _ _ report => exact .inl ⟨report, rfl⟩

end

end Cycle

open AssetSync.Cycle

/-- Every cycle leaves a trace of a cycle, whose events lead from the states of the source and the
service before it to those after it. -/
theorem runCycle_follows (source : Source σ) (service : TrackingService τ)
    (settings : SyncSettings) (s : σ) (t : τ) :
    let run := runCycle source service settings s t
    CycleTrace settings run.trace run.ended ∧
      Chain (Event.Performed source service) run.trace (s, t) (run.source, run.store) := by
  obtain ⟨events, result, states, hbody, hends⟩ :
      ∃ events result states, BodyTrace settings events result states ∧ Ends source service
        (body source service settings) ⟨s, t, .start, []⟩ events result states :=
    body_ends settings rfl
  obtain ⟨w, hw⟩ : ∃ w, body source service settings ⟨s, t, .start, []⟩ = (result, w) :=
    ⟨_, Prod.ext hends.result rfl⟩
  obtain ⟨-, htrace, hperformed, hassets⟩ := hends
  rw [hw] at htrace hperformed hassets
  subst hassets
  simp only [List.nil_append] at htrace
  simp only [runCycle, hw]
  rcases result with (⟨stage, message⟩ | e | _) | ⟨cursor, label⟩
  · let report : CycleReport :=
      { w.progress with outcome := .aborted stage message, duration := .zero }
    have hcycle : CycleTrace settings _ (.reported report) :=
      .aborted hbody rfl (service.recordCycle settings.key report.toRecord w.store).1
    simp only [conclude, Cycle.report, CycleWorld.track, CycleWorld.log, htrace, List.append_assoc]
    exact ⟨hcycle, chain_append.mpr
      ⟨_, hperformed, _, .metric, _, .metric, _, .tracked (.recordCycle rfl), rfl⟩⟩
  · exact hbody.ne_violation.elim
  · simp only [conclude, htrace]
    exact ⟨.crashed hbody, hperformed⟩
  · let report : CycleReport :=
      { w.progress with outcome := .committed cursor label, duration := .zero }
    have hcycle : CycleTrace settings _ (.reported report) :=
      .committed hbody rfl (service.recordCycle settings.key report.toRecord w.store).1
    simp only [conclude, Cycle.report, CycleWorld.track, CycleWorld.log, htrace, List.append_assoc]
    exact ⟨hcycle, chain_append.mpr
      ⟨_, hperformed, _, .metric, _, .tracked (.recordCycle rfl), rfl⟩⟩

end AssetSync
