import AssetSync.Proofs.Cycle.Replayed
import AssetSync.Proofs.Lines.Forward

namespace AssetSync

namespace LinesConfig

variable (config : LinesConfig)

def replies (lines : List Line) : Replies where
  initCursor :=
    match config.startFrom with
    | .fileBeginning => .ok (lineCursor 0)
    | .fileEnd => .ok (lineCursor lines.length)
  firstPage? cursor size :=
    match cursor.count? with
    | none => some (.error ⟨.data, "INVALID_CURSOR",
        "jsonl cursor must be a line count, got " ++ cursor.text⟩)
    | some start => ((config.pagesFrom lines start size).map .ok).head?
  fetch request :=
    .answer (if request.assets.isEmpty then .empty else config.answer lines request.assets)

theorem source_rests (text : String) :
    (config.source reader).Rests text (config.replies (Line.complete text)) where
  initCursor := by
    simp only [source, initCursor, replies]
    cases config.startFrom <;> rfl
  firstPage? cursor size := by
    simp only [source, pages, replies]
    cases cursor.count? <;> rfl
  fetch request := by
    simp only [source, fetch, replies]
    cases request.assets.isEmpty <;> rfl

end LinesConfig

variable {τ : Type} (config : LinesConfig)

theorem runCycle_lines {text : String} {lines : List Line} (h : Line.complete text = lines)
    (service : TrackingService τ) (settings : SyncSettings) (t : τ) :
    let run := runCycle (config.source LinesConfig.reader) service settings text t
    let replayed := runCycle (config.replies lines).source service settings () t
    run.ended = replayed.ended ∧ run.store = replayed.store ∧ run.trace = replayed.trace := by
  obtain ⟨hended, -, hstore, htrace⟩ :=
    runCycle_replayed (config.source_rests text) service settings t
  rw [h] at hended hstore htrace
  exact ⟨hended, hstore, htrace⟩

theorem runCycle_complete_lines {text other : String}
    (h : Line.complete text = Line.complete other) (service : TrackingService τ)
    (settings : SyncSettings) (t : τ) :
    let run := runCycle (config.source LinesConfig.reader) service settings text t
    let run' := runCycle (config.source LinesConfig.reader) service settings other t
    run.ended = run'.ended ∧ run.store = run'.store ∧ run.trace = run'.trace := by
  intro run run'
  obtain ⟨hended, hstore, htrace⟩ := runCycle_lines config h service settings t
  have hother : Line.complete other = Line.complete other := rfl
  obtain ⟨hended', hstore', htrace'⟩ := runCycle_lines config hother service settings t
  exact ⟨hended.trans hended'.symm, hstore.trans hstore'.symm, htrace.trans htrace'.symm⟩

end AssetSync
