import AssetSync.Proofs.Store.Isolation
import AssetSync.Store.Server

namespace AssetSync

def TrackingService.answers {τ : Type} (service : String → TrackingService τ)
    (clock : Stream' String) : List (SyncerKey × Operation) → τ → List Answer
  | [], _ => []
  | (key, operation) :: rest, t =>
    let (answer, changed) := (service clock.head).perform key operation t
    answer :: answers service clock.tail rest changed

def Tables.untimed (tables : Tables) : Tables :=
  { tables with
    cursors := tables.cursors.map CursorRow.untimed
    cycles := tables.cycles.map CycleRow.untimed }

theorem Tables.view_untimed (key : SyncerKey) (tables : Tables) :
    tables.untimed.view key = tables.view key := by
  have hcursors : ((tables.cursors.map CursorRow.untimed).filter (·.key == key)).map
      CursorRow.untimed = (tables.cursors.filter (·.key == key)).map CursorRow.untimed := by
    rw [List.filter_map, List.map_map]
    rfl
  have hcycles : ((tables.cycles.map CycleRow.untimed).filter (·.key == key)).map
      CycleRow.untimed = (tables.cycles.filter (·.key == key)).map CycleRow.untimed := by
    rw [List.filter_map, List.map_map]
    rfl
  simp only [view, untimed, hcursors, hcycles]

open Embedded (Step)

namespace Server

theorem checkpointOf_untimed (row : CursorRow) :
    (checkpointOf row).map Checkpoint.untimed =
      (Embedded.checkpoint row).map Checkpoint.untimed := by
  unfold checkpointOf Embedded.checkpoint
  cases Json.parse row.cursorText with
  | error => rfl
  | ok cursor =>
    cases CursorLabel.ofName? row.label <;> rfl

theorem natural_eq_count (n : Int64) : natural n = Embedded.count n := by
  have hneg : n < 0 ↔ n.toInt < 0 := Int64.lt_iff_toInt_lt
  unfold natural Embedded.count
  by_cases h : n < 0
  · have hzero : n.toInt.toNat = 0 := Int.toNat_of_nonpos (Int.le_of_lt (hneg.mp h))
    rw [if_pos h, hzero]
    rfl
  · have hpos : 0 ≤ n.toInt := Int.not_lt.mp (mt hneg.mpr h)
    have hbits : n.toInt = if 2 * n.toUInt64.toNat < 2 ^ 64 then (n.toUInt64.toNat : Int)
        else n.toUInt64.toNat - (2 ^ 64 : Nat) :=
      BitVec.toInt_eq_toNat_cond n.toBitVec
    have hlt := n.toUInt64.toNat_lt
    rw [if_neg h]
    apply UInt64.toNat_inj.mp
    rw [UInt64.toNat_ofNat']
    split at hbits <;> omega

theorem recordOf_untimed (row : CycleRow) :
    (recordOf row).map CycleRecord.untimed = (Embedded.cycle row).map CycleRecord.untimed := by
  unfold recordOf Embedded.cycle
  cases hstatus : CycleStatus.ofName? row.status with
  | none => rfl
  | some status =>
    simp only [natural_eq_count]
    rfl

theorem mapM_assetOf (rows : List StateRow) : rows.mapM assetOf = Embedded.assets rows := by
  induction rows with
  | nil => rfl
  | cons row rest ih =>
    rw [List.mapM_cons, ih, Embedded.assets, assetOf]
    cases hstate : AssetState.ofName? row.state with
    | none => rfl
    | some state =>
      simp only
      by_cases h : row.retryCount.toInt < 0 ∨ UInt32.size ≤ row.retryCount.toInt
      · have hcount : Embedded.retryCount? row.retryCount = none := by
          rw [Embedded.retryCount?, if_neg]
          omega
        rw [if_pos h, hcount]
        rfl
      · have hcount : Embedded.retryCount? row.retryCount =
            some (UInt32.ofNat row.retryCount.toInt.toNat) := by
          rw [Embedded.retryCount?, if_pos]
          omega
        rw [if_neg h, hcount]
        rfl

theorem mapM_payloadOf (rows : List PayloadRow) :
    rows.mapM payloadOf = Embedded.payloadValues rows := by
  unfold Embedded.payloadValues
  congr 1
  funext row
  rw [payloadOf]
  cases Json.parse row.text <;> rfl

theorem executeEach_accepted (key : SyncerKey) (assets : List Asset) (tables : Tables) :
    executeEach key assets tables [] =
      (some (assets.foldl (fun tables asset => tables.putState (Embedded.stateRow key asset)) tables),
        []) := by
  induction assets generalizing tables with
  | nil => rfl
  | cons asset rest ih => exact ih _

theorem saveStates_accepted (key : SyncerKey) (assets : List Asset) (tables : Tables) :
    saveStates key assets ⟨tables, []⟩ =
      (.ok (), ⟨assets.foldl (fun tables asset => tables.putState (Embedded.stateRow key asset))
        tables, []⟩) := by
  unfold saveStates
  cases assets with
  | nil => rfl
  | cons asset rest =>
    rw [if_neg (by simp)]
    simp only [request, executeEach_accepted, Bool.false_eq_true, if_false]

theorem first_checkpoint (rows : List CursorRow) :
    ((match rows with
      | [] => Except.ok none
      | row :: _ => (checkpointOf row).map some).map Reply.checkpoint).map Reply.untimed =
      ((rows.head?.mapM Embedded.checkpoint).map Reply.checkpoint).map Reply.untimed := by
  cases rows with
  | nil => rfl
  | cons row rest =>
    have hserver : (((checkpointOf row).map some).map Reply.checkpoint).map Reply.untimed =
        ((checkpointOf row).map Checkpoint.untimed).map fun found => .checkpoint (some found) := by
      cases checkpointOf row <;> rfl
    have hembedded : (((some row).mapM Embedded.checkpoint).map Reply.checkpoint).map
        Reply.untimed = ((Embedded.checkpoint row).map Checkpoint.untimed).map
          fun found => .checkpoint (some found) := by
      rw [Option.mapM_some]
      cases Embedded.checkpoint row <;> rfl
    rw [List.head?_cons, hembedded, ← checkpointOf_untimed]
    exact hserver

theorem cycles_untimed (rows : List CycleRow) :
    ((rows.mapM recordOf).map Reply.cycles).map Reply.untimed =
      ((rows.mapM Embedded.cycle).map Reply.cycles).map Reply.untimed := by
  have hreply : ∀ found : Except StoreError (List CycleRecord),
      (found.map Reply.cycles).map Reply.untimed =
        (found.map (List.map CycleRecord.untimed)).map Reply.cycles := by
    intro found
    cases found <;> rfl
  rw [hreply, hreply, Embedded.mapM_map_congr recordOf_untimed]

theorem filter_filter_key (key : SyncerKey) (p : StateRow → Bool) (rows : List StateRow) :
    (rows.filter (·.key == key)).filter p = rows.filter fun row => row.key == key && p row := by
  rw [List.filter_filter]
  apply List.filter_congr
  intro row _
  exact Bool.and_comm _ _

theorem perform_eq (key : SyncerKey) (operation : Operation) (now : String) (tables : Tables) :
    ∃ answer, (service now).perform key operation ⟨tables, []⟩ =
        (answer, ⟨(Step.run ⟨key, operation, .sound, []⟩ now tables).2, []⟩) ∧
      answer.map Reply.untimed =
        (Step.run ⟨key, operation, .sound, []⟩ now tables).1.map Reply.untimed := by
  cases operation with
  | loadCheckpoint =>
    refine ⟨_, rfl, (first_checkpoint _).trans ?_⟩
    rw [List.head?_filter]
    rfl
  | loadActive =>
    refine ⟨_, rfl, ?_⟩
    have hrows := filter_filter_key key (·.state != AssetState.finished.name) tables.states
    exact congrArg (fun rows => (.ok (.records (List.map Embedded.looseState rows)) : Answer)) hrows
  | savePayload data => exact ⟨_, rfl, rfl⟩
  | saveStates assets =>
    have hrun := Step.run_saveStates key assets .sound [] now tables
    have hserver := saveStates_accepted key assets tables
    refine ⟨.ok .done, ?_, (congrArg (fun out => out.1.map Reply.untimed) hrun).symm⟩
    change (((saveStates key assets ⟨tables, []⟩).1.map _), (saveStates key assets ⟨tables, []⟩).2) =
      (_, ⟨(Step.run (Step.unhindered ⟨key, .saveStates assets, .sound, []⟩) now tables).2, []⟩)
    rw [hrun, hserver]
    rfl
  | saveCursor label cursor => exact ⟨_, rfl, rfl⟩
  | recordCycle record => exact ⟨_, rfl, rfl⟩
  | assetStates withFinished =>
    refine ⟨_, rfl, ?_⟩
    have hrows := filter_filter_key key (withFinished || ·.state != AssetState.finished.name)
      tables.states
    have hassets := congrArg Embedded.assets hrows
    rw [← mapM_assetOf] at hassets
    exact congrArg (fun found => (found.map Reply.assets).map Reply.untimed) hassets
  | payloads limit =>
    refine ⟨_, rfl, ?_⟩
    have hrows := mapM_payloadOf (newest limit (tables.payloads.filter (·.key == key)))
    have hfound := congrArg (Except.map List.reverse) hrows
    exact congrArg (fun found => (found.map Reply.payloads).map Reply.untimed) hfound
  | recentCycles limit => exact ⟨_, rfl, cycles_untimed _⟩

end Server

theorem Embedded.perform_eq (key : SyncerKey) (operation : Operation) (now : String)
    (tables : Tables) :
    (Embedded.service now).perform key operation ⟨tables, [], []⟩ =
      ((Step.run ⟨key, operation, .sound, []⟩ now tables).1,
        ⟨(Step.run ⟨key, operation, .sound, []⟩ now tables).2, [], []⟩) := by
  cases operation with
  | saveStates assets =>
    have hsaved := Embedded.saveStates_accepted key assets tables
    have hrun := Step.run_saveStates key assets .sound [] now tables
    change (((Embedded.saveStates key assets ⟨tables, [], []⟩).1.map _),
        (Embedded.saveStates key assets ⟨tables, [], []⟩).2) =
      ((Step.run (Step.unhindered ⟨key, .saveStates assets, .sound, []⟩) now tables).1,
        ⟨(Step.run (Step.unhindered ⟨key, .saveStates assets, .sound, []⟩) now tables).2, [], []⟩)
    rw [hrun, hsaved]
    rfl
  | _ => rfl

theorem answers_of_views {tables tables' : Tables} (h : ∀ key, tables.view key = tables'.view key)
    (clock clock' : Stream' String) (calls : List (SyncerKey × Operation)) :
    (TrackingService.answers Embedded.service clock calls ⟨tables, [], []⟩).map
        (Except.map Reply.untimed) =
      (TrackingService.answers Server.service clock' calls ⟨tables', []⟩).map
        (Except.map Reply.untimed) := by
  induction calls generalizing tables tables' clock clock' with
  | nil => rfl
  | cons call rest ih =>
    obtain ⟨key, operation⟩ := call
    let step : Step := ⟨key, operation, .sound, []⟩
    obtain ⟨answer', hserver, hanswer'⟩ :=
      Server.perform_eq key operation clock'.head tables'
    have hembedded := Embedded.perform_eq key operation clock.head tables
    obtain ⟨hown, hview⟩ := step.run_own clock.head tables
    obtain ⟨hown', hview'⟩ := step.run_own clock'.head tables'
    have hanswer : (step.run clock.head tables).1.map Reply.untimed =
        answer'.map Reply.untimed := by
      rw [hown, h, ← hown', hanswer']
    -- a call changes the view of its own key alike in both, and no other view
    have hviews : ∀ other, (step.run clock.head tables).2.view other =
        (step.run clock'.head tables').2.view other := by
      intro other
      by_cases hother : key = other
      · subst hother
        rw [hview, h, hview']
      · rw [Step.run_other hother, h, Step.run_other hother]
    rw [TrackingService.answers, TrackingService.answers, hembedded, hserver]
    simp only [List.map_cons]
    rw [hanswer, ih hviews]

theorem backends_agree (clock clock' : Stream' String) (calls : List (SyncerKey × Operation))
    {tables tables' : Tables} (rows : tables.untimed = tables'.untimed) :
    (TrackingService.answers Embedded.service clock calls ⟨tables, [], []⟩).map
        (Except.map Reply.untimed) =
      (TrackingService.answers Server.service clock' calls ⟨tables', []⟩).map
        (Except.map Reply.untimed) := by
  apply answers_of_views
  intro key
  rw [← tables.view_untimed, rows, tables'.view_untimed]

theorem backends_agree_damaged :
    let key : SyncerKey := ⟨"jobs", "local"⟩
    let tables (time : String) : Tables :=
      ⟨[⟨key, "[1", "lost", time⟩], [⟨key, "a", "active", -1⟩, ⟨key, "b", "gone", 0⟩],
        [⟨key, "nul"⟩], [⟨key, "odd", ⟨-1, 0, 0, 0, 0, 0⟩, none, time⟩]⟩
    let calls : List (SyncerKey × Operation) :=
      [(key, .loadCheckpoint), (key, .assetStates true), (key, .loadActive), (key, .payloads 5),
        (key, .recentCycles 1), (key, .saveCursor .update .null), (key, .loadCheckpoint)]
    let early := TrackingService.answers Embedded.service (Stream'.const "early") calls
      ⟨tables "old", [], []⟩
    let late := TrackingService.answers Server.service (Stream'.const "late") calls
      ⟨tables "new", []⟩
    (tables "old").untimed = (tables "new").untimed ∧
      late.map (fun | .error e => e.message | .ok _ => "") =
        ["serialization error: EOF while parsing a list at line 1 column 2",
          "corrupt state row: retry_count -1 for asset a", "",
          "serialization error: EOF while parsing a value at line 1 column 3",
          "corrupt state row: unknown cycle status 'odd'", "", ""] ∧
      early.map (Except.map Reply.untimed) = late.map (Except.map Reply.untimed) := by
  intro key tables calls early late
  have rows : (tables "old").untimed = (tables "new").untimed := rfl
  exact ⟨rows, by decide +kernel, backends_agree _ _ calls rows⟩

end AssetSync
