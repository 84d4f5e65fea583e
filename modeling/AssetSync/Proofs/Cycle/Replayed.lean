import AssetSync.Proofs.Cycle.Replies

namespace AssetSync

variable {σ τ α β : Type}

structure Source.Rests (source : Source σ) (s : σ) (replies : Replies) : Prop where
  initCursor : source.initCursor s = (replies.initCursor, s)
  firstPage? (cursor : Cursor) (size : Nat) :
    source.firstPage? cursor size s = (replies.firstPage? cursor size, s)
  fetch (request : Batch) : source.fetch request s = (replies.fetch request, s)

def Replies.source (replies : Replies) : Source Unit where
  name := ""
  initCursor u := (replies.initCursor, u)
  firstPage? cursor size u := (replies.firstPage? cursor size, u)
  fetch request u := (replies.fetch request, u)

def CycleWorld.sourceless (w : CycleWorld σ τ) : CycleWorld Unit τ :=
  ⟨(), w.store, w.progress, w.trace⟩

namespace Cycle

/-- From every world with the source in `s`, the steps come to the same, and the source stays. -/
def Mirrors (s : σ) (step : Step σ τ α) (mirror : Step Unit τ α) : Prop :=
  ∀ w : CycleWorld σ τ, w.source = s →
    mirror w.sourceless = ((step w).1, (step w).2.sourceless) ∧ (step w).2.source = s

variable {s : σ} {source : Source σ} {service : TrackingService τ} {replies : Replies}

namespace Mirrors

theorem bind {step : Step σ τ α} {mirror : Step Unit τ α} {next : α → Step σ τ β}
    {next' : α → Step Unit τ β} (h : Mirrors s step mirror)
    (h' : ∀ value, Mirrors s (next value) (next' value)) :
    Mirrors s (step >>= next) (mirror >>= next') := by
  intro w hw
  obtain ⟨hrun, hstays⟩ := h w hw
  rw [bind_apply, bind_apply, hrun]
  generalize step w = done at hstays ⊢
  obtain ⟨interrupt | value, w'⟩ := done
  · exact ⟨rfl, hstays⟩
  · exact h' value w' hstays

theorem pure (value : α) : Mirrors (τ := τ) s (pure value) (pure value) :=
  fun _ hw => ⟨rfl, hw⟩

theorem throw_bind (interrupt : Interrupt) (next : α → Step σ τ β) (next' : α → Step Unit τ β) :
    Mirrors s (throw interrupt >>= next) (throw interrupt >>= next') :=
  fun _ hw => ⟨rfl, hw⟩

theorem throw (interrupt : Interrupt) :
    Mirrors (τ := τ) (α := α) s (throw interrupt) (throw interrupt) :=
  fun _ hw => ⟨rfl, hw⟩

theorem measure (m : Metric) : Mirrors (τ := τ) s (measure m) (measure m) :=
  fun _ hw => ⟨rfl, hw⟩

theorem note (change : CycleProgress → CycleProgress) :
    Mirrors (τ := τ) s (note change) (note change) :=
  fun _ hw => ⟨rfl, hw⟩

theorem track (call : StoreCall τ α) (event : Except StoreError α → Event) :
    Mirrors s (track call event) (track call event) :=
  fun _ hw => ⟨rfl, hw⟩

theorem ask {call : σ → α × σ} {answer : α} (h : call s = (answer, s)) (event : α → Event) :
    Mirrors (τ := τ) s (ask call event) (ask (fun u => (answer, u)) event) := by
  rintro w rfl
  have hrun : Cycle.ask call event w =
      (.ok answer, { w with source := w.source }.log (event answer)) := by
    change (Except.ok (w.ask call event).1, (w.ask call event).2) = _
    rw [CycleWorld.ask, h]
  rw [hrun]
  exact ⟨rfl, rfl⟩

theorem orAbort (stage : AbortStage) (answer : Except StoreError α) :
    Mirrors (τ := τ) s (orAbort stage answer) (orAbort stage answer) := by
  cases answer with
  | ok value => exact .pure value
  | error e => exact .throw _

theorem timed {step : Step σ τ α} {mirror : Step Unit τ α} (h : Mirrors s step mirror) :
    Mirrors s (timed step) (timed mirror) := by
  have hlift : Mirrors s (ExceptT.lift step.run : Step σ τ _) (ExceptT.lift mirror.run) := by
    intro w hw
    obtain ⟨hrun, hstays⟩ := h w hw
    refine ⟨?_, hstays⟩
    change (Except.ok (mirror w.sourceless).1, (mirror w.sourceless).2) = _
    rw [hrun]
    rfl
  refine hlift.bind fun result => ?_
  rcases result with (_ | _ | _) | value
  · exact (measure _).bind fun _ => .throw _
  · exact (measure _).bind fun _ => .throw _
  · exact .throw _
  · exact (measure _).bind fun _ => .pure value

end Mirrors

theorem start_mirrors (h : source.Rests s replies) (key : SyncerKey) :
    Mirrors s (start source service key) (start replies.source service key) := by
  refine (Mirrors.track _ _).bind fun answer => (Mirrors.orAbort _ _).bind fun checkpoint => ?_
  cases checkpoint with
  | some => exact .pure _
  | none =>
    refine (Mirrors.ask h.initCursor _).bind fun answer => ?_
    cases answer with
    | ok cursor => exact .pure _
    | error e => exact .throw _

theorem loadOpen_mirrors (settings : SyncSettings) :
    Mirrors s (loadOpen service settings) (loadOpen service settings) := by
  refine (Mirrors.track _ _).bind fun answer => (Mirrors.orAbort _ _).bind fun records => ?_
  exact (Mirrors.note _).bind fun _ => (Mirrors.measure _).bind fun _ =>
    (Mirrors.measure _).bind fun _ => .pure _

theorem discover_mirrors (h : source.Rests s replies) (size : Nat) (cursor : Cursor) :
    Mirrors (τ := τ) s (discover source size cursor) (discover replies.source size cursor) := by
  refine (Mirrors.ask (h.firstPage? cursor size) _).bind fun page => ?_
  rcases page with _ | e | page
  · exact .pure _
  · exact (Mirrors.measure _).bind fun _ => (Mirrors.note _).bind fun _ => .pure _
  · exact .pure _

theorem send_mirrors (key : SyncerKey) (data : Json) :
    Mirrors s (send service key data) (send service key data) := by
  refine (Mirrors.measure _).bind fun _ => (Mirrors.track _ _).bind fun sent => ?_
  exact (Mirrors.measure _).bind fun _ => (Mirrors.orAbort _ _).bind fun _ => .note _

theorem forward_mirrors (h : source.Rests s replies) (key : SyncerKey) (chunk : List Asset) :
    Mirrors s (forward source service key chunk) (forward replies.source service key chunk) := by
  refine (Mirrors.ask (h.fetch (.pending chunk)) _).bind fun fetched => ?_
  rcases fetched with batch | e | _
  · refine (Mirrors.measure _).bind fun _ => ?_
    cases hpayload : batch.payload? with
    | none => exact .pure _
    | some data => exact (send_mirrors key data).bind fun _ => .pure _
  · exact (Mirrors.measure _).bind fun _ => (Mirrors.measure _).bind fun _ =>
      (Mirrors.note _).bind fun _ => .pure _
  · exact .throw _

theorem forwardAll_mirrors (h : source.Rests s replies) (key : SyncerKey)
    (pieces : List (List Asset)) :
    Mirrors s (forwardAll source service key pieces)
      (forwardAll replies.source service key pieces) := by
  induction pieces with
  | nil => exact .pure _
  | cons chunk rest ih =>
    exact (forward_mirrors h key chunk).timed.bind fun states => ih.bind fun others => .pure _

theorem commit_mirrors (key : SyncerKey) (states : List Asset) (label : CursorLabel)
    (cursor : Cursor) :
    Mirrors s (commit service key states label cursor)
      (commit service key states label cursor) := by
  have hcursor : Mirrors s
      (track (service.saveCursor key label cursor) (.saveCursor key label cursor) >>=
        orAbort .updateCursor)
      (track (service.saveCursor key label cursor) (.saveCursor key label cursor) >>=
        orAbort .updateCursor) :=
    (Mirrors.track _ _).bind fun _ => .orAbort _ _
  unfold commit
  cases states.isEmpty with
  | true => exact hcursor
  | false => exact (Mirrors.track _ _).bind fun _ => (Mirrors.orAbort _ _).bind fun _ => hcursor

theorem body_mirrors (h : source.Rests s replies) (service : TrackingService τ)
    (settings : SyncSettings) :
    Mirrors s (body source service settings) (body replies.source service settings) := by
  refine (start_mirrors h settings.key).bind fun ⟨cursor, label⟩ => ?_
  refine (loadOpen_mirrors settings).bind fun budgeted => ?_
  refine (discover_mirrors h settings.batchSize cursor).bind fun ⟨discovered, next⟩ => ?_
  simp only
  generalize fetchSet budgeted.fetchable discovered (budgeted.exhausted.map Asset.id) = merged
  cases firstRepeated? [] merged with
  | some id => exact .throw_bind _ _ _
  | none =>
    refine (Mirrors.measure _).bind fun _ => (forwardAll_mirrors h _ _).bind fun updated => ?_
    by_cases hlength : updated.length = merged.length
    · simp only [hlength, if_true]
      exact (Mirrors.note _).bind fun _ => (commit_mirrors _ _ _ _).bind fun _ => .pure _
    · simp only [hlength, if_false]
      exact .throw_bind _ _ _

end Cycle

open AssetSync.Cycle

theorem runCycle_replayed {source : Source σ} {s : σ} {replies : Replies}
    (h : source.Rests s replies) (service : TrackingService τ) (settings : SyncSettings) (t : τ) :
    let run := runCycle source service settings s t
    let replayed := runCycle replies.source service settings () t
    run.ended = replayed.ended ∧ run.source = s ∧ run.store = replayed.store ∧
      run.trace = replayed.trace := by
  obtain ⟨hbody, hstays⟩ := body_mirrors h service settings ⟨s, t, .start, []⟩ rfl
  have hmirror : body replies.source service settings ⟨(), t, .start, []⟩ =
      ((body source service settings ⟨s, t, .start, []⟩).1,
        (body source service settings ⟨s, t, .start, []⟩).2.sourceless) := hbody
  simp only [runCycle, hmirror]
  generalize body source service settings ⟨s, t, .start, []⟩ = done at hstays ⊢
  obtain ⟨result, w⟩ := done
  rcases result with (_ | _ | _) | _
  all_goals exact ⟨rfl, hstays, rfl, rfl⟩

end AssetSync
