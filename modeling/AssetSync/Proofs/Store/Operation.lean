import AssetSync.Store.Embedded
import Mathlib.Data.Stream.Init

/-!
Histories of an embedded store: calls of its service by any number of syncers, one after the other,
whatever becomes of the file below it. Whether a call is carried out does not depend on what is
stored.
-/

namespace AssetSync

inductive Operation where
  | loadCheckpoint
  | loadActive
  | savePayload (data : Json)
  | saveStates (assets : List Asset)
  | saveCursor (label : CursorLabel) (cursor : Cursor)
  | recordCycle (record : CycleRecord)
  | assetStates (withFinished : Bool)
  | payloads (limit : Nat)
  | recentCycles (limit : Nat)

inductive Reply where
  | done
  | checkpoint (found : Option Checkpoint)
  | records (found : List Json)
  | assets (found : List Asset)
  | payloads (found : List Json)
  | cycles (found : List CycleRecord)

abbrev Answer := Except StoreError Reply

def StoreCall.map {τ α β : Type} (f : α → β) (call : StoreCall τ α) : StoreCall τ β := fun t =>
  ((call t).1.map f, (call t).2)

def TrackingService.perform {τ : Type} (service : TrackingService τ) (key : SyncerKey) :
    Operation → StoreCall τ Reply
  | .loadCheckpoint => StoreCall.map .checkpoint (service.loadCheckpoint key)
  | .loadActive => StoreCall.map .records (service.loadActive key)
  | .savePayload data => StoreCall.map (fun _ => .done) (service.savePayload key data)
  | .saveStates assets => StoreCall.map (fun _ => .done) (service.saveStates key assets)
  | .saveCursor label cursor => StoreCall.map (fun _ => .done) (service.saveCursor key label cursor)
  | .recordCycle record => StoreCall.map (fun _ => .done) (service.recordCycle key record)
  | .assetStates withFinished => StoreCall.map .assets (service.assetStates key withFinished)
  | .payloads limit => StoreCall.map .payloads (service.payloads key limit)
  | .recentCycles limit => StoreCall.map .cycles (service.recentCycles key limit)

namespace Embedded

inductive FileCondition where
  | sound
  | readOnly (text : String)
  | unusable (text : String)

def FileCondition.service (now : String) : FileCondition → TrackingService Embedded
  | .sound => Embedded.service now
  | .readOnly text => Embedded.readOnly text now
  | .unusable text => Embedded.unusable text

structure Step where
  key : SyncerKey
  operation : Operation
  file : FileCondition
  rejected : List AssetId

namespace Step

def run (step : Step) (now : String) : StoreCall Tables Reply := fun tables =>
  let (answer, db) :=
    (step.file.service now).perform step.key step.operation ⟨tables, [], step.rejected⟩
  (answer, db.tables)

def unhindered (step : Step) : Step :=
  { step with file := .sound, rejected := [] }

end Step

def after (clock : Stream' String) : List Step → Tables → Tables
  | [], tables => tables
  | step :: rest, tables => after clock.tail rest (step.run clock.head tables).2

def transcript (clock : Stream' String) : List Step → Tables → List (Step × Answer)
  | [], _ => []
  | step :: rest, tables =>
    let (answer, changed) := step.run clock.head tables
    (step, answer) :: transcript clock.tail rest changed

section

variable {key : SyncerKey} {rejected : List AssetId}

theorem writeStates_cases (key : SyncerKey) (rejected : List AssetId) (assets : List Asset) :
    (∃ e, ∀ tables, writeStates key rejected assets tables = .error e) ∨
      ∀ tables, writeStates key rejected assets tables = writeStates key [] assets tables := by
  induction assets with
  | nil => exact .inr fun _ => rfl
  | cons asset rest ih =>
    by_cases hasset : rejected.contains asset.id
    · refine .inl ⟨.backendContext "save_assets_state: execute" "rejected", fun tables => ?_⟩
      rw [writeStates, if_pos hasset]
    · obtain ⟨e, hrest⟩ | hrest := ih
      · refine .inl ⟨e, fun tables => ?_⟩
        rw [writeStates, if_neg hasset, hrest]
      · refine .inr fun tables => ?_
        rw [writeStates, if_neg hasset, hrest, writeStates, if_neg (by simp)]

theorem writeStates_accepted (key : SyncerKey) (assets : List Asset) (tables : Tables) :
    writeStates key [] assets tables =
      .ok (assets.foldl (fun tables asset => tables.putState (stateRow key asset)) tables) := by
  induction assets generalizing tables with
  | nil => rfl
  | cons asset rest ih => rw [writeStates, if_neg (by simp), ih, List.foldl_cons]

theorem saveStates_accepted (key : SyncerKey) (assets : List Asset) (tables : Tables) :
    saveStates key assets ⟨tables, [], []⟩ =
      (.ok (), ⟨assets.foldl (fun tables asset => tables.putState (stateRow key asset)) tables,
        [], []⟩) := by
  unfold saveStates
  cases assets with
  | nil => rfl
  | cons asset rest =>
    rw [if_neg (by simp), if_neg (by simp)]
    simp only [writeStates_accepted]

namespace Step

variable {rejected : List AssetId} {text : String}

theorem run_saveStates_empty (key : SyncerKey) (file : FileCondition) :
    run ⟨key, .saveStates [], file, rejected⟩ = run ⟨key, .saveStates [], .sound, []⟩ := by
  cases file <;> rfl

theorem run_saveStates (key : SyncerKey) (assets : List Asset) (file : FileCondition)
    (rejected : List AssetId) (now : String) (tables : Tables) :
    run (unhindered ⟨key, .saveStates assets, file, rejected⟩) now tables =
      (.ok .done,
        assets.foldl (fun tables asset => tables.putState (stateRow key asset)) tables) := by
  simp [run, unhindered, FileCondition.service, TrackingService.perform, StoreCall.map, service,
    saveStates_accepted, Except.map]

theorem run_cases (step : Step) :
    (∃ e, ∀ now tables, step.run now tables = (.error e, tables)) ∨
      step.run = step.unhindered.run := by
  obtain ⟨key, operation, file, rejected⟩ := step
  cases operation with
  | saveStates assets =>
    cases assets with
    | nil => exact .inr (run_saveStates_empty key file)
    | cons asset rest =>
      cases file with
      | sound =>
        -- a row is refused for its id alone, so what is stored makes no difference
        obtain ⟨e, hrefused⟩ | haccepted := writeStates_cases key rejected (asset :: rest)
        · refine .inl ⟨e, fun now tables => ?_⟩
          simp [run, FileCondition.service, TrackingService.perform, StoreCall.map, service,
            saveStates, hrefused, Except.map]
        · refine .inr (funext fun now => funext fun tables => ?_)
          simp [run, unhindered, FileCondition.service, TrackingService.perform, StoreCall.map,
            service, saveStates, haccepted, writeStates_accepted]
      | readOnly text | unusable text => exact .inl ⟨_, fun _ _ => rfl⟩
  | savePayload | saveCursor | recordCycle =>
    cases file with
    | sound => exact .inr rfl
    | readOnly text | unusable text => exact .inl ⟨.backend text, fun _ _ => rfl⟩
  | _ =>
    cases file with
    | sound | readOnly => exact .inr rfl
    | unusable text => exact .inl ⟨_, fun _ _ => rfl⟩

end Step

end

end Embedded

end AssetSync
