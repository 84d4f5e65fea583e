import AssetSync.Proofs.Cycle.Execution

/-!
Invariants of the world of a cycle. One that the start, the loading and each chunk keep, and that
does not look at what else a cycle does, is kept by the whole cycle.
-/

namespace AssetSync

variable {σ τ α β : Type}

namespace Cycle

variable {I : CycleWorld σ τ → Prop} {source : Source σ} {service : TrackingService τ}

theorem measure_apply (m : Metric) (w : CycleWorld σ τ) :
    measure m w = (.ok (), w.log (.metric m)) := rfl

theorem note_apply (change : CycleProgress → CycleProgress) (w : CycleWorld σ τ) :
    note change w = (.ok (), { w with progress := change w.progress }) := rfl

theorem track_apply (call : StoreCall τ α) (event : Except StoreError α → Event)
    (w : CycleWorld σ τ) :
    track call event w = (.ok (call w.store).1,
      { w with store := (call w.store).2 }.log (event (call w.store).1)) := rfl

theorem ask_apply (call : σ → α × σ) (event : α → Event) (w : CycleWorld σ τ) :
    ask call event w = (.ok (call w.source).1,
      { w with source := (call w.source).2 }.log (event (call w.source).1)) := rfl

theorem orAbort_ok (stage : AbortStage) (value : α) (w : CycleWorld σ τ) :
    orAbort stage (.ok value) w = (.ok value, w) := rfl

theorem orAbort_error (stage : AbortStage) (e : StoreError) (w : CycleWorld σ τ) :
    (orAbort stage (.error e) : Step σ τ α) w = (.error (.abort stage e.message), w) := rfl

def Preserves (I : CycleWorld σ τ → Prop) (step : Step σ τ α) : Prop :=
  ∀ w, I w → I (step w).2

def Ignores (I : CycleWorld σ τ → Prop) (event : Event) : Prop :=
  ∀ w, I w → ∀ s t, I ({ w with source := s, store := t }.log event)

def Overlooks (I : CycleWorld σ τ → Prop) (change : CycleProgress → CycleProgress) : Prop :=
  ∀ w, I w → I { w with progress := change w.progress }

namespace Preserves

theorem pure (value : α) : Preserves I (pure value : Step σ τ α) :=
  fun _ h => h

theorem throw (interrupt : Interrupt) : Preserves I (throw interrupt : Step σ τ α) :=
  fun _ h => h

theorem bind {step : Step σ τ α} {next : α → Step σ τ β} (h : Preserves I step)
    (h' : ∀ value, Preserves I (next value)) : Preserves I (step >>= next) := by
  intro w hw
  have hkept := h w hw
  rw [bind_apply]
  rcases hrun : step w with ⟨_ | value, w'⟩
  · rwa [hrun] at hkept
  · rw [hrun] at hkept
    exact h' value w' hkept

theorem note {change : CycleProgress → CycleProgress} (h : Overlooks I change) :
    Preserves I (note change : Step σ τ Unit) :=
  h

theorem measure {m : Metric} (h : Ignores I (.metric m)) :
    Preserves I (measure m : Step σ τ Unit) :=
  fun w hw => h w hw _ _

theorem track {call : StoreCall τ α} {event : Except StoreError α → Event}
    (h : ∀ answer, Ignores I (event answer)) : Preserves I (track call event : Step σ τ _) :=
  fun w hw => h _ w hw _ _

theorem ask {call : σ → α × σ} {event : α → Event} (h : ∀ answer, Ignores I (event answer)) :
    Preserves I (ask call event : Step σ τ α) :=
  fun w hw => h _ w hw _ _

theorem orAbort (stage : AbortStage) (answer : Except StoreError α) :
    Preserves I (orAbort stage answer : Step σ τ α) := by
  cases answer with
  | ok value => exact pure value
  | error e => exact throw _

end Preserves

/-- The invariant is about the start of a cycle and its chunks only. -/
structure Steady (I : CycleWorld σ τ → Prop) : Prop where
  metric (m : Metric) : Ignores I (.metric m)
  discover (cursor : Cursor) (size : Nat) (answer : Option (Except SourceError Page)) :
    Ignores I (.discover cursor size answer)
  saveStates (key : SyncerKey) (states : List Asset) (answer : Except StoreError Unit) :
    Ignores I (.saveStates key states answer)
  saveCursor (key : SyncerKey) (label : CursorLabel) (cursor : Cursor)
    (answer : Except StoreError Unit) : Ignores I (.saveCursor key label cursor answer)
  pageError (message : String) : Overlooks I fun p => { p with pageError := some message }
  assets (states : List Asset) : Overlooks I fun p => { p with assets := states }

def pursue (source : Source σ) (service : TrackingService τ) (settings : SyncSettings)
    (cursor : Cursor) (label : CursorLabel) (budgeted : Budgeted) :
    Step σ τ (Cursor × CursorLabel) := do
  let key := settings.key
  let (discovered, next) ← discover source settings.batchSize cursor
  let merged := fetchSet budgeted.fetchable discovered (budgeted.exhausted.map Asset.id)
  if let some id := firstRepeated? [] merged then
    throw (.violation (.duplicateAsset id))
  measure (.fetchSetSize merged.length)
  let updated ← forwardAll source service key
    (chunks settings.batchSize settings.batchSize_pos merged)
  unless updated.length = merged.length do
    throw (.violation (.stateCountMismatch merged.length updated.length))
  note fun p => { p with assets := updated }
  commit service key updated label next
  return (next, label)

theorem body_eq (settings : SyncSettings) :
    body source service settings = (do
      let (cursor, label) ← start source service settings.key
      let budgeted ← loadOpen service settings
      pursue source service settings cursor label budgeted) :=
  rfl

namespace Steady

theorem discovers (steady : Steady I) (size : Nat) (cursor : Cursor) :
    Preserves I (Cycle.discover source size cursor : Step σ τ _) := by
  apply Preserves.bind (.ask (steady.discover cursor size))
  rintro (_ | e | page)
  · exact .pure _
  · exact .bind (.measure (steady.metric _)) fun _ =>
      .bind (.note (steady.pageError _)) fun _ => .pure _
  · exact .pure _

theorem timed (steady : Steady I) {step : Step σ τ α} (h : Preserves I step) :
    Preserves I (timed step) := by
  have hlift : Preserves I (ExceptT.lift step.run : Step σ τ _) := h
  have hmeasure : Preserves I (measure (.chunkTime .zero) : Step σ τ Unit) :=
    .measure (steady.metric _)
  apply Preserves.bind hlift
  rintro ((_ | _ | _) | value)
  · exact .bind hmeasure fun _ => .throw _
  · exact .bind hmeasure fun _ => .throw _
  · exact .throw _
  · exact .bind hmeasure fun _ => .pure _

theorem forwardAll (steady : Steady I) {key : SyncerKey}
    (h : ∀ chunk, Preserves I (forward source service key chunk)) (pieces : List (List Asset)) :
    Preserves I (forwardAll source service key pieces) := by
  induction pieces with
  | nil => exact .pure _
  | cons chunk rest ih =>
    apply Preserves.bind (steady.timed (h chunk))
    intro states
    exact .bind ih fun _ => .pure _

theorem commit (steady : Steady I) (key : SyncerKey) (states : List Asset) (label : CursorLabel)
    (cursor : Cursor) : Preserves I (commit service key states label cursor : Step σ τ Unit) := by
  have hcursor : Preserves I (do
      orAbort .updateCursor
        (← track (service.saveCursor key label cursor) (.saveCursor key label cursor)) :
      Step σ τ Unit) :=
    .bind (.track (steady.saveCursor key label cursor)) fun _ => .orAbort _ _
  unfold Cycle.commit
  cases states.isEmpty with
  | true => exact hcursor
  | false =>
    exact .bind (.track (steady.saveStates key states)) fun _ =>
      .bind (.orAbort _ _) fun _ => hcursor

theorem pursue (steady : Steady I) {settings : SyncSettings}
    (h : ∀ chunk, Preserves I (forward source service settings.key chunk)) (cursor : Cursor)
    (label : CursorLabel) (budgeted : Budgeted) :
    Preserves I (pursue source service settings cursor label budgeted) := by
  apply Preserves.bind (steady.discovers _ _)
  rintro ⟨discovered, next⟩
  let merged := fetchSet budgeted.fetchable discovered (budgeted.exhausted.map Asset.id)
  have hcommit (updated : List Asset) : Preserves I (do
      note fun p => { p with assets := updated }
      Cycle.commit service settings.key updated label next
      return (next, label) : Step σ τ _) :=
    .bind (.note (steady.assets updated)) fun _ =>
      .bind (steady.commit settings.key updated label next) fun _ => .pure _
  have hforward : Preserves I (do
      measure (.fetchSetSize merged.length)
      let updated ← Cycle.forwardAll source service settings.key
        (chunks settings.batchSize settings.batchSize_pos merged)
      unless updated.length = merged.length do
        throw (.violation (.stateCountMismatch merged.length updated.length))
      note fun p => { p with assets := updated }
      Cycle.commit service settings.key updated label next
      return (next, label) : Step σ τ _) := by
    apply Preserves.bind (.measure (steady.metric _))
    intro _
    apply Preserves.bind (steady.forwardAll h _)
    intro updated
    split
    · exact hcommit updated
    · exact .bind (.throw _) fun _ => hcommit updated
  simp only
  split
  · exact .bind (.throw _) fun _ => hforward
  · exact hforward

theorem body (steady : Steady I) {settings : SyncSettings}
    (hstart : Preserves I (start source service settings.key))
    (hload : Preserves I (loadOpen service settings))
    (hforward : ∀ chunk, Preserves I (forward source service settings.key chunk)) :
    Preserves I (body source service settings) := by
  rw [body_eq]
  apply Preserves.bind hstart
  rintro ⟨cursor, label⟩
  exact .bind hload (steady.pursue hforward cursor label)

end Steady

theorem conclude_reported {key : SyncerKey} {done : Except Interrupt (Cursor × CursorLabel)}
    {w : CycleWorld σ τ} {report : CycleReport}
    (h : (conclude service key done w).1 = .reported report) :
    report.toCycleProgress = w.progress ∧ ∃ closing,
      (conclude service key done w).2.trace = w.trace ++ closing ∧
        ∀ call ∈ closing, call.Closing := by
  rcases done with (⟨stage, message⟩ | e | _) | ⟨cursor, label⟩
  · cases h
    simp [conclude, Cycle.report, CycleWorld.track, CycleWorld.log, Event.Closing]
  · cases h
  · cases h
  · cases h
    simp [conclude, Cycle.report, CycleWorld.track, CycleWorld.log, Event.Closing]

end Cycle

end AssetSync
