import AssetSync.Proofs.Store.Operation
import AssetSync.Proofs.Store.Rows

namespace AssetSync

def CycleRow.untimed (row : CycleRow) : CycleRow :=
  { row with finishedAt := "" }

def Checkpoint.untimed (checkpoint : Checkpoint) : Checkpoint :=
  { checkpoint with updatedAt := "" }

def CycleRecord.untimed (record : CycleRecord) : CycleRecord :=
  { record with finishedAt := none }

def Reply.untimed : Reply → Reply
  | .checkpoint found => .checkpoint (found.map Checkpoint.untimed)
  | .cycles found => .cycles (found.map CycleRecord.untimed)
  | reply => reply

def Tables.view (key : SyncerKey) (tables : Tables) : Tables where
  cursors := (tables.cursors.filter (·.key == key)).map CursorRow.untimed
  states := tables.states.filter (·.key == key)
  payloads := tables.payloads.filter (·.key == key)
  cycles := (tables.cycles.filter (·.key == key)).map CycleRow.untimed

namespace Tables

variable {key : SyncerKey} (tables : Tables)

theorem view_putCursor (row : CursorRow) :
    (tables.putCursor row).view row.key = (tables.view row.key).putCursor row.untimed := by
  have hfilter : (tables.putCursor row).cursors.filter (·.key == row.key) =
      upsert (·.key == row.key) row (tables.cursors.filter (·.key == row.key)) :=
    filter_upsert_of_imp (by simp) (fun _ => id) tables.cursors
  rw [view, hfilter, map_untimed_upsert]
  rfl

theorem view_putCursor_of_ne {row : CursorRow} (h : row.key ≠ key) :
    (tables.putCursor row).view key = tables.view key := by
  have hfilter : (upsert (·.key == row.key) row tables.cursors).filter (·.key == key) =
      tables.cursors.filter (·.key == key) := by
    refine filter_upsert_of_not (by simpa using h) (fun old hold => ?_) _
    simpa [beq_iff_eq.mp hold] using h
  rw [view, putCursor, hfilter]
  rfl

theorem view_putState (row : StateRow) :
    (tables.putState row).view row.key = (tables.view row.key).putState row := by
  have hfilter : (tables.putState row).states.filter (·.key == row.key) =
      upsert (fun old => old.key == row.key && old.assetId == row.assetId) row
        (tables.states.filter (·.key == row.key)) :=
    filter_upsert_of_imp (by simp) (fun _ hold => (Bool.and_eq_true_iff.mp hold).1) tables.states
  rw [view, hfilter]
  rfl

theorem view_putState_of_ne {row : StateRow} (h : row.key ≠ key) :
    (tables.putState row).view key = tables.view key := by
  have hfilter : (tables.putState row).states.filter (·.key == key) =
      tables.states.filter (·.key == key) := by
    refine filter_upsert_of_not (by simpa using h) (fun old hold => ?_) _
    obtain ⟨hkey, -⟩ : old.key = row.key ∧ old.assetId = row.assetId := by simpa using hold
    simpa [hkey] using h
  rw [view, hfilter]
  rfl

theorem view_addPayload (row : PayloadRow) :
    (tables.addPayload row).view row.key = (tables.view row.key).addPayload row := by
  simp [view, addPayload]

theorem view_addPayload_of_ne {row : PayloadRow} (h : row.key ≠ key) :
    (tables.addPayload row).view key = tables.view key := by
  simp [view, addPayload, h]

theorem view_addCycle (row : CycleRow) :
    (tables.addCycle row).view row.key = (tables.view row.key).addCycle row.untimed := by
  simp [view, addCycle]

theorem view_addCycle_of_ne {row : CycleRow} (h : row.key ≠ key) :
    (tables.addCycle row).view key = tables.view key := by
  simp [view, addCycle, h]

theorem find?_view (key : SyncerKey) : (tables.view key).cursors.find? (·.key == key) =
    (tables.cursors.find? (·.key == key)).map CursorRow.untimed := by
  have hfind : (tables.cursors.filter (·.key == key)).find? (·.key == key) =
      tables.cursors.find? (·.key == key) := by
    rw [← List.head?_filter, List.filter_filter]
    simp only [Bool.and_self, List.head?_filter]
  rw [← hfind]
  exact List.find?_map ..

theorem filter_states_view (key : SyncerKey) (p : StateRow → Bool) :
    (tables.view key).states.filter (fun row => row.key == key && p row) =
      tables.states.filter fun row => row.key == key && p row := by
  rw [view, List.filter_filter]
  refine List.filter_congr fun row _ => ?_
  cases row.key == key <;> simp

theorem filter_payloads_view (key : SyncerKey) :
    (tables.view key).payloads.filter (·.key == key) = tables.payloads.filter (·.key == key) := by
  simp [view]

theorem filter_cycles_view (key : SyncerKey) : (tables.view key).cycles.filter (·.key == key) =
    (tables.cycles.filter (·.key == key)).map CycleRow.untimed := by
  refine List.filter_eq_self.mpr fun row hrow => ?_
  obtain ⟨old, hold, rfl⟩ := List.mem_map.mp hrow
  exact (List.mem_filter.mp hold).2

end Tables

namespace Embedded

theorem checkpoint_untimed (row : CursorRow) :
    (checkpoint row.untimed).map Checkpoint.untimed = (checkpoint row).map Checkpoint.untimed := by
  simp only [checkpoint, CursorRow.untimed]
  cases Json.parse row.cursorText with
  | error => rfl
  | ok cursor =>
    simp only [Except.mapError, bind, Except.bind]
    cases CursorLabel.ofName? row.label <;> rfl

theorem cycle_untimed (row : CycleRow) :
    (cycle row.untimed).map CycleRecord.untimed = (cycle row).map CycleRecord.untimed := by
  simp only [cycle, CycleRow.untimed]
  cases CycleStatus.ofName? row.status <;> rfl

theorem newest_map {α β : Type} (f : α → β) (limit : Nat) (rows : List α) :
    newest limit (rows.map f) = (newest limit rows).map f := by
  rw [newest, newest, ← List.map_reverse, List.map_take]

theorem mapM_map_congr {α β γ ε : Type} {f g : α → Except ε β} {u : β → γ}
    (h : ∀ a, (f a).map u = (g a).map u) (as : List α) :
    (as.mapM f).map (List.map u) = (as.mapM g).map (List.map u) := by
  have hcons : ∀ (f : α → Except ε β) (a : α) (rest : List α),
      ((a :: rest).mapM f).map (List.map u) =
        ((f a).map u).bind fun b => ((rest.mapM f).map (List.map u)).map (b :: ·) := by
    intro f a rest
    rw [List.mapM_cons]
    cases f a with
    | error => rfl
    | ok b =>
      cases rest.mapM f <;> rfl
  induction as with
  | nil => rfl
  | cons a rest ih => rw [hcons, hcons, h, ih]

theorem cycles_untimed (rows : List CycleRow) :
    ((rows.map CycleRow.untimed).mapM cycle).map (List.map CycleRecord.untimed) =
      (rows.mapM cycle).map (List.map CycleRecord.untimed) := by
  rw [List.mapM_map]
  exact mapM_map_congr cycle_untimed rows

variable {tables : Tables}

theorem view_putStates (key : SyncerKey) (assets : List Asset) (tables : Tables) :
    (assets.foldl (fun tables asset => tables.putState (stateRow key asset)) tables).view key =
      assets.foldl (fun tables asset => tables.putState (stateRow key asset))
        (tables.view key) := by
  induction assets generalizing tables with
  | nil => rfl
  | cons asset rest ih =>
    have hput : (tables.putState (stateRow key asset)).view key =
        (tables.view key).putState (stateRow key asset) :=
      tables.view_putState (stateRow key asset)
    rw [List.foldl_cons, ih, List.foldl_cons, hput]

theorem view_putStates_of_ne {key other : SyncerKey} (h : other ≠ key) (assets : List Asset)
    (tables : Tables) :
    (assets.foldl (fun tables asset => tables.putState (stateRow other asset)) tables).view key =
      tables.view key := by
  induction assets generalizing tables with
  | nil => rfl
  | cons asset rest ih =>
    rw [List.foldl_cons, ih]
    exact tables.view_putState_of_ne h

namespace Step

theorem run_other {key : SyncerKey} {step : Step} (h : step.key ≠ key) (now : String)
    (tables : Tables) : (step.run now tables).2.view key = tables.view key := by
  obtain ⟨e, hfailed⟩ | hrun := step.run_cases
  · rw [hfailed]
  rw [hrun]
  obtain ⟨other, operation, file, rejected⟩ := step
  cases operation with
  | savePayload data => exact tables.view_addPayload_of_ne h
  | saveStates assets =>
    rw [run_saveStates]
    exact view_putStates_of_ne h assets tables
  | saveCursor label cursor => exact tables.view_putCursor_of_ne h
  | recordCycle record => exact tables.view_addCycle_of_ne h
  | _ => rfl

section

variable {file : FileCondition} {rejected : List AssetId}

theorem loadCheckpoint_view (key : SyncerKey) (now : String) (tables : Tables) :
    (run (unhindered ⟨key, .loadCheckpoint, file, rejected⟩) now tables).1.map Reply.untimed =
      (run (unhindered ⟨key, .loadCheckpoint, file, rejected⟩) "" (tables.view key)).1.map
        Reply.untimed := by
  have hfound : ∀ (row : CursorRow),
      (((some row).mapM checkpoint).map Reply.checkpoint).map Reply.untimed =
        ((checkpoint row).map Checkpoint.untimed).map fun found => .checkpoint (some found) := by
    intro row
    rw [Option.mapM_some]
    cases checkpoint row <;> rfl
  change (((tables.cursors.find? (·.key == key)).mapM checkpoint).map _).map _ =
    ((((tables.view key).cursors.find? (·.key == key)).mapM checkpoint).map _).map _
  rw [tables.find?_view]
  cases tables.cursors.find? (·.key == key) with
  | none => rfl
  | some row => rw [Option.map_some, hfound, hfound, checkpoint_untimed]

theorem recentCycles_view (key : SyncerKey) (limit : Nat) (now : String) (tables : Tables) :
    (run (unhindered ⟨key, .recentCycles limit, file, rejected⟩) now tables).1.map Reply.untimed =
      (run (unhindered ⟨key, .recentCycles limit, file, rejected⟩) "" (tables.view key)).1.map
        Reply.untimed := by
  have hreply : ∀ rows : List CycleRow, ((rows.mapM cycle).map Reply.cycles).map Reply.untimed =
      ((rows.mapM cycle).map (List.map CycleRecord.untimed)).map Reply.cycles := by
    intro rows
    cases rows.mapM cycle <;> rfl
  change (((newest limit (tables.cycles.filter (·.key == key))).mapM cycle).map _).map _ =
    (((newest limit ((tables.view key).cycles.filter (·.key == key))).mapM cycle).map _).map _
  rw [tables.filter_cycles_view, newest_map, hreply, hreply, cycles_untimed]

end

theorem run_own (step : Step) (now : String) (tables : Tables) :
    (step.run now tables).1.map Reply.untimed =
        (step.run "" (tables.view step.key)).1.map Reply.untimed ∧
      (step.run now tables).2.view step.key = (step.run "" (tables.view step.key)).2 := by
  obtain ⟨e, hfailed⟩ | hrun := step.run_cases
  · simp only [hfailed, and_self]
  rw [hrun]
  obtain ⟨key, operation, file, rejected⟩ := step
  cases operation with
  | loadCheckpoint => exact ⟨loadCheckpoint_view key now tables, rfl⟩
  | loadActive =>
    have hrows := tables.filter_states_view key (·.state != AssetState.finished.name)
    exact ⟨congrArg (fun rows => (.ok (.records (List.map looseState rows)) : Answer)) hrows.symm,
      rfl⟩
  | savePayload data => exact ⟨rfl, tables.view_addPayload ⟨key, data.text⟩⟩
  | saveStates assets =>
    rw [run_saveStates, run_saveStates]
    exact ⟨rfl, view_putStates key assets tables⟩
  | saveCursor label cursor =>
    exact ⟨rfl, tables.view_putCursor ⟨key, cursor.text, label.name, now⟩⟩
  | recordCycle record => exact ⟨rfl, tables.view_addCycle (cycleRow key record now)⟩
  | assetStates withFinished =>
    have hrows := tables.filter_states_view key
      fun row => withFinished || row.state != AssetState.finished.name
    exact ⟨congrArg (fun rows => ((assets rows).map Reply.assets).map Reply.untimed) hrows.symm, rfl⟩
  | payloads limit =>
    have hrows := tables.filter_payloads_view key
    exact ⟨congrArg (fun rows => (((payloadValues (newest limit rows)).map List.reverse).map
      Reply.payloads).map Reply.untimed) hrows.symm, rfl⟩
  | recentCycles limit => exact ⟨recentCycles_view key limit now tables, rfl⟩

end Step

variable {key : SyncerKey}

def untimed (made : List (Step × Answer)) : List (Step × Answer) :=
  made.map fun (step, answer) => (step, answer.map Reply.untimed)

theorem untimed_cons (step : Step) (answer : Answer) (made : List (Step × Answer)) :
    untimed ((step, answer) :: made) = (step, answer.map Reply.untimed) :: untimed made := rfl

theorem transcript_view {tables tables' : Tables} (h : tables.view key = tables'.view key)
    (clock own : Stream' String) (steps : List Step) :
    untimed ((transcript clock steps tables).filter (·.1.key == key)) =
      untimed (transcript own (steps.filter (·.key == key)) tables') := by
  induction steps generalizing tables tables' clock own with
  | nil => rfl
  | cons step rest ih =>
    -- the views stay equal: a call of the key changes both alike, any other call neither of them
    by_cases hkey : step.key = key
    · subst hkey
      obtain ⟨hanswer, hview⟩ := step.run_own clock.head tables
      obtain ⟨hanswer', hview'⟩ := step.run_own own.head tables'
      have hviews : (step.run clock.head tables).2.view step.key =
          (step.run own.head tables').2.view step.key := by
        rw [hview, h, hview']
      have hrest := ih hviews clock.tail own.tail
      have hsame : (step.run clock.head tables).1.map Reply.untimed =
          (step.run own.head tables').1.map Reply.untimed := by
        rw [hanswer, h, hanswer']
      rw [List.filter_cons_of_pos (by simp), transcript, transcript,
        List.filter_cons_of_pos (by simp), untimed_cons, untimed_cons, hsame, hrest]
    · have hview := Step.run_other hkey clock.head tables
      rw [List.filter_cons_of_neg (by simpa using hkey), transcript,
        List.filter_cons_of_neg (by simpa using hkey)]
      exact ih (hview.trans h) clock.tail own

theorem answers_isolated (clock own : Stream' String) (steps : List Step) (key : SyncerKey) :
    untimed ((transcript clock steps .empty).filter (·.1.key == key)) =
      untimed (transcript own (steps.filter (·.key == key)) .empty) :=
  transcript_view rfl clock own steps

example : (⟨"a/b", "c"⟩ : SyncerKey).display = (⟨"a", "b/c"⟩ : SyncerKey).display ∧
    (⟨"a/b", "c"⟩ : SyncerKey) ≠ ⟨"a", "b/c"⟩ := by
  decide

end Embedded

end AssetSync
