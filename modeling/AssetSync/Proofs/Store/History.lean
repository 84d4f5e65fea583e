import AssetSync.Proofs.Json.RoundTrip
import AssetSync.Proofs.Store.Atomic
import AssetSync.Proofs.Store.Operation
import AssetSync.Proofs.Store.Stored

namespace AssetSync

/-- The assets as they were last, in the order in which their ids came first. -/
def currentAssets (saved : List Asset) : List Asset :=
  (saved.map Asset.id).eraseDups.filterMap fun id => saved.reverse.find? (·.id == id)

theorem exists_find?_reverse {saved : List Asset} {id : AssetId}
    (h : id ∈ (saved.map Asset.id).eraseDups) :
    ∃ asset, saved.reverse.find? (·.id == id) = some asset ∧ asset.id = id := by
  obtain ⟨asset, hasset, hid⟩ := List.mem_map.mp (List.mem_eraseDups.mp h)
  have hsome : (saved.reverse.find? (·.id == id)).isSome :=
    List.find?_isSome.mpr ⟨asset, List.mem_reverse.mpr hasset, by simp [hid]⟩
  obtain ⟨found, hfound⟩ := Option.isSome_iff_exists.mp hsome
  exact ⟨found, hfound, by simpa using List.find?_some hfound⟩

theorem currentAssets_append_singleton (saved : List Asset) (asset : Asset) :
    currentAssets (saved ++ [asset]) = upsert (·.id == asset.id) asset (currentAssets saved) := by
  have hids : ((saved ++ [asset]).map Asset.id).eraseDups =
      addId (saved.map Asset.id).eraseDups asset.id := by
    rw [List.map_append, List.map_singleton, eraseDups_append_singleton]
  have hfind : (fun id => (saved ++ [asset]).reverse.find? (·.id == id)) =
      Function.update (fun id => saved.reverse.find? (·.id == id)) asset.id (some asset) := by
    funext id
    rw [List.reverse_append, List.reverse_singleton, List.singleton_append]
    by_cases hid : id = asset.id
    · subst hid
      rw [Function.update_self, List.find?_cons_of_pos (by simp)]
    · rw [Function.update_of_ne hid, List.find?_cons_of_neg (by simpa using Ne.symm hid)]
  rw [currentAssets, hids, hfind]
  exact (upsert_filterMap (nodup_eraseDups _) (fun _ => exists_find?_reverse) asset).symm

namespace Embedded

def Step.savedAssets (key : SyncerKey) (step : Step) : Answer → List Asset
  | .ok _ =>
    match step.operation with
    | .saveStates assets => if step.key = key then assets else []
    | _ => []
  | .error _ => []

def Step.savedMark? (key : SyncerKey) (step : Step) : Answer → Option (CursorLabel × Cursor)
  | .ok _ =>
    match step.operation with
    | .saveCursor label cursor => if step.key = key then some (label, cursor) else none
    | _ => none
  | .error _ => none

def savedAssets (key : SyncerKey) (history : List (Step × Answer)) : List Asset :=
  history.flatMap fun (step, answer) => step.savedAssets key answer

def savedMarks (key : SyncerKey) (history : List (Step × Answer)) : List (CursorLabel × Cursor) :=
  history.filterMap fun (step, answer) => step.savedMark? key answer

variable {key : SyncerKey}

theorem Step.savedAssets_saveStates {step : Step} {assets : List Asset} {reply : Reply}
    (h : step.operation = .saveStates assets) (key : SyncerKey) :
    step.savedAssets key (.ok reply) = if step.key = key then assets else [] := by
  simp only [savedAssets, h]

theorem Step.savedMark?_saveCursor {step : Step} {label : CursorLabel} {cursor : Cursor}
    {reply : Reply} (h : step.operation = .saveCursor label cursor) (key : SyncerKey) :
    step.savedMark? key (.ok reply) = if step.key = key then some (label, cursor) else none := by
  simp only [savedMark?, h]

theorem Step.run_ledger (step : Step) (now : String) (tables : Tables) :
    ((step.run now tables).2.ledger = tables.ledger ∧
        ∀ key, step.savedAssets key (step.run now tables).1 = [] ∧
          step.savedMark? key (step.run now tables).1 = none) ∨
      (∃ assets, step.operation = .saveStates assets ∧ (step.run now tables).1 = .ok .done ∧
        (step.run now tables).2.ledger = tables.ledger.putStates step.key assets) ∨
      ∃ label cursor, step.operation = .saveCursor label cursor ∧
        (step.run now tables).1 = .ok .done ∧
        (step.run now tables).2.ledger =
          tables.ledger.putCursor ⟨step.key, cursor.text, label.name, now⟩ := by
  obtain ⟨e, hfailed⟩ | hrun := step.run_cases
  · rw [hfailed]
    exact .inl ⟨rfl, fun _ => ⟨rfl, rfl⟩⟩
  rw [hrun]
  obtain ⟨key, operation, file, rejected⟩ := step
  cases operation with
  | saveStates assets =>
    rw [run_saveStates]
    exact .inr (.inl ⟨assets, rfl, rfl, writeStates_ledger (writeStates_accepted key assets tables)⟩)
  | saveCursor label cursor => exact .inr (.inr ⟨label, cursor, rfl, rfl, rfl⟩)
  | _ =>
    refine .inl ⟨rfl, fun other => ?_⟩
    generalize (run _ now tables).1 = answer
    cases answer <;> exact ⟨rfl, rfl⟩

structure Recalls (l : Ledger) (key : SyncerKey) (assets : List Asset)
    (marks : List (CursorLabel × Cursor)) : Prop where
  rows : l.rows key = (currentAssets assets).map (stateRow key)
  cursor : (l.cursors.find? (·.key == key)).map (fun row => (row.cursorText, row.label)) =
    marks.getLast?.map fun (label, cursor) => (cursor.text, label.name)

section

variable {l : Ledger} {other : SyncerKey} {assets : List Asset}
  {marks : List (CursorLabel × Cursor)}

theorem Recalls.putStates (h : Recalls l key assets marks) (more : List Asset) :
    Recalls (l.putStates key more) key (assets ++ more) marks := by
  induction more generalizing l assets with
  | nil => rwa [Ledger.putStates_nil, List.append_nil]
  | cons asset rest ih =>
    have hput : Recalls (l.putState (stateRow key asset)) key (assets ++ [asset]) marks := by
      refine ⟨?_, h.cursor⟩
      rw [Ledger.rows_putState, h.rows, currentAssets_append_singleton]
      exact (map_upsert (stateRow key) (·.assetId == asset.id) asset _).symm
    rw [Ledger.putStates_cons, List.append_cons]
    exact ih hput

theorem Recalls.putStates_other (h : Recalls l key assets marks) (hother : other ≠ key)
    (more : List Asset) : Recalls (l.putStates other more) key assets marks := by
  refine ⟨?_, ?_⟩
  · rw [Ledger.rows_putStates_of_ne hother, h.rows]
  · rw [Ledger.putStates_cursors, h.cursor]

theorem Recalls.putCursor (h : Recalls l key assets marks) (label : CursorLabel) (cursor : Cursor)
    (now : String) :
    Recalls (l.putCursor ⟨key, cursor.text, label.name, now⟩) key assets
      (marks ++ [(label, cursor)]) := by
  refine ⟨h.rows, ?_⟩
  rw [Ledger.putCursor, find?_upsert _ (by simp), List.getLast?_concat]
  rfl

theorem Recalls.putCursor_other (h : Recalls l key assets marks) {row : CursorRow}
    (hrow : row.key ≠ key) : Recalls (l.putCursor row) key assets marks := by
  refine ⟨h.rows, ?_⟩
  rw [Ledger.find?_putCursor_of_ne hrow, h.cursor]

end

theorem Recalls.run {tables : Tables} {assets : List Asset} {marks : List (CursorLabel × Cursor)}
    (h : Recalls tables.ledger key assets marks) (step : Step) (now : String) :
    Recalls (step.run now tables).2.ledger key
      (assets ++ step.savedAssets key (step.run now tables).1)
      (marks ++ (step.savedMark? key (step.run now tables).1).toList) := by
  obtain ⟨hledger, hnothing⟩ | ⟨saved, hsaves, hanswer, hledger⟩ |
    ⟨label, cursor, hsaves, hanswer, hledger⟩ := step.run_ledger now tables
  · rw [hledger, (hnothing key).1, (hnothing key).2]
    simpa using h
  · have hmark : step.savedMark? key (.ok .done) = none := by simp only [Step.savedMark?, hsaves]
    rw [hledger, hanswer, hmark, Step.savedAssets_saveStates hsaves, Option.toList_none,
      List.append_nil]
    by_cases hkey : step.key = key
    · rw [if_pos hkey, hkey]
      exact h.putStates saved
    · rw [if_neg hkey, List.append_nil]
      exact h.putStates_other hkey saved
  · have hassets : step.savedAssets key (.ok .done) = [] := by simp only [Step.savedAssets, hsaves]
    rw [hledger, hanswer, hassets, Step.savedMark?_saveCursor hsaves, List.append_nil]
    by_cases hkey : step.key = key
    · rw [if_pos hkey, hkey, Option.toList_some]
      exact h.putCursor label cursor now
    · rw [if_neg hkey, Option.toList_none, List.append_nil]
      exact h.putCursor_other hkey

theorem Recalls.after {tables : Tables} {assets : List Asset} {marks : List (CursorLabel × Cursor)}
    (h : Recalls tables.ledger key assets marks) (clock : Stream' String) (steps : List Step) :
    Recalls (after clock steps tables).ledger key
      (assets ++ savedAssets key (transcript clock steps tables))
      (marks ++ savedMarks key (transcript clock steps tables)) := by
  induction steps generalizing clock tables assets marks with
  | nil => simpa [Embedded.after, savedAssets, savedMarks, transcript] using h
  | cons step rest ih =>
    have hrest := ih (h.run step clock.head) clock.tail
    have hmarks : savedMarks key (transcript clock (step :: rest) tables) =
        (step.savedMark? key (step.run clock.head tables).1).toList ++
          savedMarks key (transcript clock.tail rest (step.run clock.head tables).2) := by
      cases hmark : step.savedMark? key (step.run clock.head tables).1 <;>
        simp [savedMarks, transcript, hmark]
    rw [hmarks, ← List.append_assoc]
    rw [List.append_assoc] at hrest
    exact hrest

theorem recalls_empty (key : SyncerKey) : Recalls Tables.empty.ledger key [] [] :=
  ⟨rfl, rfl⟩

theorem looseState_stateRow (key : SyncerKey) (asset : Asset) :
    looseState (stateRow key asset) = asset.toRecord := by
  have hcount : Integer.ofInt64 (Int64.ofNat asset.retryCount.toNat) =
      .ofUInt32 asset.retryCount := by
    simp only [Integer.ofInt64, Integer.ofUInt32, toInt_ofNat_toNat]
  rw [looseState, stateRow, hcount, Asset.toRecord]

section

variable {tables : Tables} {assets : List Asset} {marks : List (CursorLabel × Cursor)}

theorem Recalls.assetStates (h : Recalls tables.ledger key assets marks) (rejected : List AssetId)
    (now : String) :
    ((service now).assetStates key true ⟨tables, [], rejected⟩).1 = .ok (currentAssets assets) := by
  let db : Embedded := ⟨tables, [], rejected⟩
  have hpresent : TableName.states ∉ db.missing := List.not_mem_nil
  exact assetStates_of_rows hpresent h.rows now

theorem Recalls.openRecords {l : Ledger} (h : Recalls l key assets marks) :
    l.openRecords key =
      ((currentAssets assets).filter (·.state.isOpen)).map Asset.toRecord := by
  have hopen : ((fun row : StateRow => row.state != AssetState.finished.name) ∘ stateRow key) =
      fun asset => asset.state.isOpen :=
    funext fun asset => AssetState.name_bne_finished asset.state
  have hrecord : looseState ∘ stateRow key = Asset.toRecord :=
    funext fun asset => looseState_stateRow key asset
  rw [Ledger.openRecords, h.rows, List.filter_map, hopen, List.map_map, hrecord]

theorem Recalls.loadActive (h : Recalls tables.ledger key assets marks) (rejected : List AssetId)
    (now : String) :
    ((service now).loadActive key ⟨tables, [], rejected⟩).1 =
      .ok (((currentAssets assets).filter (·.state.isOpen)).map Asset.toRecord) := by
  have hrecords : ((service now).loadActive key ⟨tables, [], rejected⟩).1 =
      .ok (tables.ledger.openRecords key) := by
    rw [Ledger.openRecords, Ledger.rows, List.filter_filter]
    simp only [service, query, Tables.ledger, Bool.and_comm]
    rfl
  rw [hrecords, h.openRecords]

theorem Recalls.loadCheckpoint_none (h : Recalls tables.ledger key assets marks)
    (hmarks : marks.getLast? = none) (rejected : List AssetId) (now : String) :
    ((service now).loadCheckpoint key ⟨tables, [], rejected⟩).1 = .ok none := by
  have hfind : tables.cursors.find? (·.key == key) = none := by
    have hcursor := h.cursor
    rwa [hmarks, Option.map_none, Option.map_eq_none_iff] at hcursor
  change (tables.cursors.find? (·.key == key)).mapM checkpoint = .ok none
  rw [hfind]
  rfl

theorem Recalls.loadCheckpoint_some (h : Recalls tables.ledger key assets marks)
    {label : CursorLabel} {cursor : Cursor} (hmarks : marks.getLast? = some (label, cursor))
    (hplain : Json.Plain Json.maxDepth cursor) (rejected : List AssetId) (now : String) :
    ∃ time, ((service now).loadCheckpoint key ⟨tables, [], rejected⟩).1 =
      .ok (some ⟨cursor, label, time⟩) := by
  have hcursor := h.cursor
  rw [hmarks, Option.map_some, Option.map_eq_some_iff] at hcursor
  obtain ⟨row, hfind, hrow⟩ := hcursor
  obtain ⟨htext, hlabel⟩ := Prod.mk.inj hrow
  refine ⟨Timestamp.shown row.updatedAt, ?_⟩
  change (tables.ledger.cursors.find? (·.key == key)).mapM checkpoint = _
  rw [hfind, Option.mapM_some]
  simp only [checkpoint, htext, hlabel, Json.parse_text hplain, CursorLabel.ofName?_name]
  rfl

end

theorem FileCondition.saveStates_error {file : FileCondition} {now : String} {assets : List Asset}
    {db db' : Embedded} {e : StoreError}
    (h : (file.service now).saveStates key assets db = (.error e, db')) : db' = db := by
  have hsound : saveStates key assets db = (.error e, db') → db' = db := by
    intro hsaved
    obtain ⟨hsame, -⟩ | ⟨-, -, hok⟩ := saveStates_answer hsaved
    · exact hsame
    · cases hok
  cases file with
  | sound => exact hsound h
  | readOnly text =>
    simp only [FileCondition.service, Embedded.readOnly] at h
    split at h
    · exact hsound h
    · exact (Prod.mk.inj h).2.symm
  | unusable text =>
    simp only [FileCondition.service, Embedded.unusable] at h
    split at h
    · cases h
    · exact (Prod.mk.inj h).2.symm

theorem answers_after_history (clock : Stream' String) (history : List Step) (key : SyncerKey)
    (rejected : List AssetId) (now : String) :
    let db : Embedded := ⟨after clock history .empty, [], rejected⟩
    let made := transcript clock history .empty
    let current := currentAssets (savedAssets key made)
    ((service now).assetStates key true db).1 = .ok current ∧
      ((service now).loadActive key db).1 =
        .ok ((current.filter (·.state.isOpen)).map Asset.toRecord) ∧
      (match (savedMarks key made).getLast? with
        | none => ((service now).loadCheckpoint key db).1 = .ok none
        | some (label, cursor) => Json.Plain Json.maxDepth cursor →
          ∃ time, ((service now).loadCheckpoint key db).1 = .ok (some ⟨cursor, label, time⟩)) ∧
      ∀ (file : FileCondition) assets e db',
        (file.service now).saveStates key assets db = (.error e, db') → db' = db := by
  intro db made current
  have h : Recalls db.tables.ledger key (savedAssets key made) (savedMarks key made) :=
    (recalls_empty key).after clock history
  refine ⟨h.assetStates rejected now, h.loadActive rejected now, ?_, ?_⟩
  · rcases hmarks : (savedMarks key made).getLast? with _ | ⟨label, cursor⟩
    · exact h.loadCheckpoint_none hmarks rejected now
    · exact fun hplain => h.loadCheckpoint_some hmarks hplain rejected now
  · intro file assets e db'
    exact FileCondition.saveStates_error

theorem answers_after_history_refusal :
    let key : SyncerKey := ⟨"jobs", "local"⟩
    let a := Asset.discovered "a"
    let b := Asset.discovered "b"
    let c := Asset.discovered "c"
    let history : List Step := [
      ⟨key, .saveStates [a, b, a.activate], .sound, []⟩,
      ⟨key, .saveStates [c, a.finish], .sound, ["a"]⟩,
      ⟨key, .saveCursor .update (.arr [.str "after", .null]), .sound, []⟩,
      ⟨key, .saveStates [b.finish], .sound, []⟩]
    let db : Embedded := ⟨after (Stream'.const "now") history .empty, [], ["a"]⟩
    ((service "now").assetStates key true db).1 = .ok [a.activate, b.finish] ∧
      ((service "now").loadActive key db).1 = .ok [a.activate.toRecord] ∧
      (∃ time, ((service "now").loadCheckpoint key db).1 =
        .ok (some ⟨.arr [.str "after", .null], .update, time⟩)) ∧
      ((service "now").saveStates key [c, a] db).2 = db := by
  intro key a b c history db
  obtain ⟨hstates, hactive, hcheckpoint, hrefused⟩ :=
    answers_after_history (Stream'.const "now") history key ["a"] "now"
  have hsaved : savedAssets key (transcript (Stream'.const "now") history .empty) =
      [a, b, a.activate, b.finish] := by
    decide +kernel
  have hmark : (savedMarks key (transcript (Stream'.const "now") history .empty)).getLast? =
      some (.update, .arr [.str "after", .null]) := by
    rfl
  have hcurrent : currentAssets [a, b, a.activate, b.finish] = [a.activate, b.finish] := by
    decide +kernel
  rw [hsaved, hcurrent] at hstates hactive
  rw [hmark] at hcheckpoint
  have hplain : Json.Plain Json.maxDepth (.arr [.str "after", .null]) := by
    refine .arr fun item hitem => ?_
    obtain rfl | rfl : item = .str "after" ∨ item = .null := by simpa using hitem
    · exact .str _ _
    · exact .null _
  refine ⟨hstates, hactive, hcheckpoint hplain, ?_⟩
  exact hrefused .sound [c, a] (.backendContext "save_assets_state: execute" "rejected") _ rfl

end Embedded

end AssetSync
