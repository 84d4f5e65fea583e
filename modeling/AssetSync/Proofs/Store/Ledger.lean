import AssetSync.Proofs.Cycle.Event
import AssetSync.Store.Embedded

/-!
The part of a tracking store that later cycles go on from, and what each call of a cycle may do to
it. A service is faithful if its answers are right and nothing but the two commits changes the
ledger; it is atomic if moreover a failed call changes nothing.
-/

namespace AssetSync

theorem mem_upsert {α : Type} {same : α → Bool} {row other : α} {rows : List α}
    (h : other ∈ upsert same row rows) : other = row ∨ other ∈ rows := by
  induction rows with
  | nil => exact .inl (List.mem_singleton.mp h)
  | cons old rest ih =>
    unfold upsert at h
    split at h
    · exact (List.mem_cons.mp h).imp_right (List.mem_cons_of_mem _)
    · rcases List.mem_cons.mp h with rfl | hrest
      · exact .inr (by simp)
      · exact (ih hrest).imp_right (List.mem_cons_of_mem _)

theorem find?_upsert {α : Type} {same : α → Bool} {row : α} (rows : List α) (hrow : same row) :
    (upsert same row rows).find? same = some row := by
  induction rows with
  | nil => simp [upsert, hrow]
  | cons old rest ih =>
    unfold upsert
    split
    · simp [hrow]
    · rename_i hold
      rw [List.find?_cons_of_neg hold, ih]

@[ext] structure Ledger where
  cursors : List CursorRow
  states : List StateRow
  deriving DecidableEq

def Tables.ledger (tables : Tables) : Ledger :=
  ⟨tables.cursors, tables.states⟩

namespace Ledger

def putCursor (l : Ledger) (row : CursorRow) : Ledger :=
  { l with cursors := upsert (·.key == row.key) row l.cursors }

def putState (l : Ledger) (row : StateRow) : Ledger :=
  { l with
    states := upsert (fun old => old.key == row.key && old.assetId == row.assetId) row l.states }

def putStates (l : Ledger) (key : SyncerKey) (assets : List Asset) : Ledger :=
  assets.foldl (fun l asset => l.putState (Embedded.stateRow key asset)) l

def Holds (l : Ledger) (key : SyncerKey) (found : Option Checkpoint) : Prop :=
  match l.cursors.find? (·.key == key), found with
  | none, none => True
  | some row, some checkpoint =>
    Json.parse row.cursorText = .ok checkpoint.cursor ∧
      CursorLabel.ofName? row.label = some checkpoint.label
  | _, _ => False

def rows (l : Ledger) (key : SyncerKey) : List StateRow :=
  l.states.filter (·.key == key)

def openRecords (l : Ledger) (key : SyncerKey) : List Json :=
  ((l.rows key).filter (·.state != AssetState.finished.name)).map Embedded.looseState

@[simp] theorem putStates_nil (l : Ledger) (key : SyncerKey) : l.putStates key [] = l := rfl

@[simp] theorem putStates_cons (l : Ledger) (key : SyncerKey) (asset : Asset) (rest : List Asset) :
    l.putStates key (asset :: rest) =
      (l.putState (Embedded.stateRow key asset)).putStates key rest :=
  rfl

@[simp] theorem putStates_cursors (l : Ledger) (key : SyncerKey) (assets : List Asset) :
    (l.putStates key assets).cursors = l.cursors := by
  induction assets generalizing l with
  | nil => rfl
  | cons asset rest ih => exact ih _

theorem mem_rows_putStates {l : Ledger} {key : SyncerKey} {assets : List Asset} {row : StateRow}
    (h : row ∈ (l.putStates key assets).rows key) :
    (∃ asset ∈ assets, row = Embedded.stateRow key asset) ∨ row ∈ l.rows key := by
  induction assets generalizing l with
  | nil => exact .inr h
  | cons asset rest ih =>
    rcases ih h with ⟨other, hother, hrow⟩ | hput
    · exact .inl ⟨other, by simp [hother], hrow⟩
    · obtain ⟨hmem, hkey⟩ := List.mem_filter.mp hput
      rcases mem_upsert hmem with rfl | hold
      · exact .inl ⟨asset, by simp, rfl⟩
      · exact .inr (List.mem_filter.mpr ⟨hold, hkey⟩)

end Ledger

@[simp] theorem Tables.ledger_putCursor (tables : Tables) (row : CursorRow) :
    (tables.putCursor row).ledger = tables.ledger.putCursor row := rfl

@[simp] theorem Tables.ledger_addPayload (tables : Tables) (row : PayloadRow) :
    (tables.addPayload row).ledger = tables.ledger := rfl

@[simp] theorem Tables.ledger_addCycle (tables : Tables) (row : CycleRow) :
    (tables.addCycle row).ledger = tables.ledger := rfl

theorem Ledger.holds_iff {l : Ledger} {key : SyncerKey} {checkpoint : Checkpoint} :
    l.Holds key (some checkpoint) ↔ ∃ row, l.cursors.find? (·.key == key) = some row ∧
      Json.parse row.cursorText = .ok checkpoint.cursor ∧
      CursorLabel.ofName? row.label = some checkpoint.label := by
  unfold Holds
  cases l.cursors.find? (·.key == key) <;> simp

theorem Ledger.holds_none_iff {l : Ledger} {key : SyncerKey} :
    l.Holds key none ↔ l.cursors.find? (·.key == key) = none := by
  unfold Holds
  cases l.cursors.find? (·.key == key) <;> simp

def Checkpoint.mark (checkpoint : Checkpoint) : CursorLabel × Cursor :=
  (checkpoint.label, checkpoint.cursor)

theorem Ledger.Holds.unique {l : Ledger} {key : SyncerKey} {found other : Option Checkpoint}
    (h : l.Holds key found) (h' : l.Holds key other) :
    found.map Checkpoint.mark = other.map Checkpoint.mark := by
  cases found with
  | none =>
    cases other with
    | none => rfl
    | some =>
      obtain ⟨row, hrow, -, -⟩ := Ledger.holds_iff.mp h'
      rw [Ledger.holds_none_iff.mp h] at hrow
      cases hrow
  | some checkpoint =>
    obtain ⟨row, hrow, hcursor, hlabel⟩ := Ledger.holds_iff.mp h
    cases other with
    | none =>
      rw [Ledger.holds_none_iff.mp h'] at hrow
      cases hrow
    | some checkpoint' =>
      obtain ⟨row', hrow', hcursor', hlabel'⟩ := Ledger.holds_iff.mp h'
      obtain rfl := Option.some.inj (hrow.symm.trans hrow')
      have hcursors := Except.ok.inj (hcursor.symm.trans hcursor')
      have hlabels := Option.some.inj (hlabel.symm.trans hlabel')
      simp only [Option.map_some, Checkpoint.mark, hcursors, hlabels]

/-- What a call may do to the ledger. A failed commit may have been carried out, in part or as a
whole. -/
def Event.Effect : Event → Ledger → Ledger → Prop
  | loadCheckpoint key answer, l, l' => l' = l ∧ ∀ found, answer = .ok found → l.Holds key found
  | loadActive key answer, l, l' =>
    l' = l ∧ ∀ records, answer = .ok records → records = l.openRecords key
  | saveStates key assets answer, l, l' =>
    ∃ stored, stored.Sublist assets ∧ (answer = .ok () → stored = assets) ∧
      l' = l.putStates key stored
  | saveCursor key label cursor answer, l, l' =>
    (l' = l ∧ answer ≠ .ok ()) ∨ ∃ now, l' = l.putCursor ⟨key, cursor.text, label.name, now⟩
  | _, l, l' => l' = l

variable {τ : Type}

structure TrackingService.Faithful (service : TrackingService τ) (ledger : τ → Ledger) : Prop where
  effect {call : Event} {t t' : τ} (h : service.Answers call t t') :
    call.Effect (ledger t) (ledger t')

structure TrackingService.Atomic (service : TrackingService τ) (ledger : τ → Ledger) : Prop
    extends service.Faithful ledger where
  unchanged {call : Event} {t t' : τ} (h : service.Answers call t t') (failed : call.Failed) :
    ledger t' = ledger t

theorem TrackingService.Atomic.of {service : TrackingService τ} {ledger : τ → Ledger}
    (h : ∀ {call : Event} {t t' : τ}, service.Answers call t t' →
      call.Effect (ledger t) (ledger t') ∧ (call.Failed → ledger t' = ledger t)) :
    service.Atomic ledger where
  effect hcall := (h hcall).1
  unchanged hcall := (h hcall).2

end AssetSync
