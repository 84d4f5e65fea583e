import AssetSync.Proofs.Asset.Open
import AssetSync.Proofs.Cycle.Effect
import AssetSync.Proofs.Lines.Forward

namespace AssetSync

namespace Ledger

def openAssets (l : Ledger) (key : SyncerKey) : List Asset :=
  (OpenAssets.ofRecords (l.openRecords key)).assets

def At (l : Ledger) (key : SyncerKey) (start : Nat) : Prop :=
  (l.cursors.find? (·.key == key)).elim (start = 0) fun row =>
    row.cursorText = (lineCursor start).text

def Lacks (l : Ledger) (key : SyncerKey) : Prop :=
  l.cursors.find? (·.key == key) = none ∧ l.rows key = []

def Persists (l : Ledger) (key : SyncerKey) (count : Nat) : Prop :=
  ∃ checkpoint, l.Holds key (some checkpoint) ∧ checkpoint.cursor.count? = some count

variable {l : Ledger} {key : SyncerKey} {start : Nat}

theorem Lacks.at_zero (h : l.Lacks key) : l.At key 0 := by
  rw [At, h.1, Option.elim_none]

theorem At.cursor_eq (h : l.At key start) {checkpoint : Checkpoint}
    (holds : l.Holds key (some checkpoint)) : checkpoint.cursor = lineCursor start := by
  obtain ⟨row, hrow, hparse, -⟩ := holds_iff.mp holds
  rw [At, hrow, Option.elim_some] at h
  rw [h, parse_lineCursor] at hparse
  exact (Except.ok.inj hparse).symm

theorem At.eq_of_persists (h : l.At key start) {count : Nat} (persists : l.Persists key count) :
    start = count := by
  obtain ⟨checkpoint, holds, hcount⟩ := persists
  rw [h.cursor_eq holds] at hcount
  exact count?_lineCursor hcount

theorem persists_lineCursor {count : Nat} {label : CursorLabel} {now : String}
    (hrow : l.cursors.find? (·.key == key) =
      some ⟨key, (lineCursor count).text, label.name, now⟩)
    (hcount : (lineCursor count).count? = some count) : l.Persists key count := by
  refine ⟨⟨lineCursor count, label, now⟩, ?_, hcount⟩
  exact holds_iff.mpr ⟨_, hrow, parse_lineCursor count, CursorLabel.ofName?_name label⟩

theorem At.putStates (h : l.At key start) (other : SyncerKey) (assets : List Asset) :
    (l.putStates other assets).At key start := by
  rwa [At, putStates_cursors]

theorem at_putCursor (l : Ledger) (key : SyncerKey) (next : Nat) (label now : String) :
    (l.putCursor ⟨key, (lineCursor next).text, label, now⟩).At key next := by
  have hfind : (upsert (·.key == key) ⟨key, (lineCursor next).text, label, now⟩ l.cursors).find?
      (·.key == key) = some ⟨key, (lineCursor next).text, label, now⟩ :=
    find?_upsert l.cursors (by simp)
  rw [At, putCursor, hfind, Option.elim_some]

end Ledger

open AssetSync.Cycle

namespace LinesConfig

variable {config : LinesConfig} {lines : List Line} {key : SyncerKey} {l l' : Ledger}

def Tracks (config : LinesConfig) (lines : List Line) (key : SyncerKey) (l : Ledger) : Prop :=
  ∀ row ∈ l.rows key, ∃ id ∈ config.ids lines, ∃ state,
    (state = .active ∨ state = .finished) ∧ row = Embedded.stateRow key ⟨id, state, 0⟩

theorem ne_empty_of_mem_ids {id : AssetId} (h : id ∈ config.ids lines) : id ≠ "" := by
  obtain ⟨r, hr, rfl⟩ := List.mem_map.mp h
  obtain ⟨line, -, hline⟩ := List.mem_filterMap.mp hr
  unfold record? at hline
  split at hline
  · cases hline
  split at hline
  · cases hline
  · obtain ⟨id, hid, rfl⟩ := Option.map_eq_some_iff.mp hline
    obtain ⟨json, -, hjson⟩ := Option.bind_eq_some_iff.mp hid
    exact AssetId.ofJson?_ne_empty hjson

theorem Tracks.mem_openAssets (h : config.Tracks lines key l) {asset : Asset}
    (hasset : asset ∈ l.openAssets key) :
    asset.id ∈ config.ids lines ∧ asset.retryCount = 0 ∧
      Embedded.stateRow key asset ∈ l.rows key := by
  obtain ⟨record, hrecord, hread⟩ := OpenAssets.mem_ofRecords hasset
  obtain ⟨row, hrow, rfl⟩ := List.mem_map.mp hrecord
  obtain ⟨hmem, -⟩ := List.mem_filter.mp hrow
  obtain ⟨id, hid, state, -, rfl⟩ := h row hmem
  rw [Asset.ofRecord_looseState key (ne_empty_of_mem_ids hid)] at hread
  obtain rfl := Except.ok.inj hread
  exact ⟨hid, rfl, hmem⟩

theorem Tracks.budgeted (h : config.Tracks lines key l) (settings : SyncSettings) :
    budgeted settings (l.openRecords key) = ⟨l.openAssets key, []⟩ := by
  have hwithin : ∀ asset ∈ l.openAssets key, asset.exceeds settings.maxRetries = false := by
    intro asset hasset
    rw [Asset.exceeds, (h.mem_openAssets hasset).2.1]
    simp
  rw [Cycle.budgeted, Budgeted.ofAssets, ← Ledger.openAssets,
    List.filter_eq_self.mpr fun asset hasset => by simp [hwithin asset hasset],
    List.filter_eq_nil_iff.mpr fun asset hasset => by simp [hwithin asset hasset]]

variable {text : String} {calls : List Event}

theorem start_of_starts {start : Nat} {origin : Cursor} {label : CursorLabel}
    (hbeginning : config.startFrom = .fileBeginning)
    (answered : ∀ call ∈ calls, config.Answered text call) (hat : l.At key start)
    (h : Starts l key calls origin label) : origin = lineCursor start := by
  cases h with
  | resumed stored => exact hat.cursor_eq stored
  | fresh nothing asked =>
    rw [Ledger.At, Ledger.holds_none_iff.mp nothing, Option.elim_none] at hat
    have hinit := answered _ asked
    rw [Answered, initCursor, hbeginning] at hinit
    rw [hat]
    exact Except.ok.inj hinit

end LinesConfig

open LinesConfig

variable {config : LinesConfig} {settings : SyncSettings} {l l' : Ledger} {text : String}
  {calls forwarding : List Event}

theorem Cycle.PlanTrace.follows_lines {p : Plan} {start : Nat}
    (h : PlanTrace settings calls (.ok p)) (hchain : Chain Event.Effect calls l l')
    (hbeginning : config.startFrom = .fileBeginning)
    (answered : ∀ call ∈ calls, config.Answered text call)
    (htracks : config.Tracks (Line.complete text) settings.key l) (hat : l.At settings.key start)
    (hle : start ≤ (Line.complete text).length) :
    ∃ next, start ≤ next ∧ next ≤ (Line.complete text).length ∧ p.cursor = lineCursor next ∧
      p.assets = appendNew (l.openAssets settings.key) []
        ((config.pageIds (Line.complete text) start next).map .discovered) := by
  obtain ⟨origin, page, hstarts, hdiscover, -, hplan⟩ := h.plans hchain
  obtain rfl := start_of_starts hbeginning answered hat hstarts
  obtain ⟨next, hnext, hend, hpage⟩ := config.discovery_pages settings.batchSize hle
  have hanswer := answered _ hdiscover
  simp only [Answered] at hanswer
  rw [← hanswer] at hpage
  rw [htracks.budgeted settings] at hplan
  refine ⟨next, hnext, hend, ?_, ?_⟩
  · rw [hplan, plan, hpage]
  · rw [hplan, plan, hpage]
    rfl

namespace LinesConfig

theorem pageIds_subset {lines : List Line} {start next : Nat} {id : AssetId}
    (h : id ∈ config.pageIds lines start next) : id ∈ config.ids lines := by
  have hmem := (mem_addIds.mp h).resolve_left (by simp)
  exact ids_subset ((List.take_sublist _ _).trans (List.drop_sublist _ _)) hmem

theorem Tracks.mem_fetched {lines : List Line} {key : SyncerKey} {start next : Nat}
    (h : config.Tracks lines key l) {asset : Asset}
    (hasset : asset ∈ appendNew (l.openAssets key) []
      ((config.pageIds lines start next).map .discovered)) :
    asset.id ∈ config.ids lines ∧ asset.retryCount = 0 := by
  rcases mem_appendNew hasset with hopen | hnew
  · exact ⟨(h.mem_openAssets hopen).1, (h.mem_openAssets hopen).2.1⟩
  · obtain ⟨id, hid, rfl⟩ := List.mem_map.mp hnew
    exact ⟨pageIds_subset hid, rfl⟩

end LinesConfig

theorem Cycle.PlanTrace.forwards_lines {p : Plan} {start : Nat} {states : List Asset}
    (planned : PlanTrace settings calls (.ok p)) (hchain : Chain Event.Effect calls l l')
    (forwarded : ForwardTrace settings.key
      (chunks settings.batchSize settings.batchSize_pos p.assets) forwarding (.ok states))
    (hbeginning : config.startFrom = .fileBeginning)
    (answered : ∀ call ∈ calls ++ forwarding, config.Answered text call)
    (htracks : config.Tracks (Line.complete text) settings.key l) (hat : l.At settings.key start)
    (hle : start ≤ (Line.complete text).length) :
    ∃ next, start ≤ next ∧ next ≤ (Line.complete text).length ∧ p.cursor = lineCursor next ∧
      p.assets = appendNew (l.openAssets settings.key) []
        ((config.pageIds (Line.complete text) start next).map .discovered) ∧
      (∀ asset ∈ p.assets, asset.id ∈ config.ids (Line.complete text) ∧ asset.retryCount = 0) ∧
      states = p.assets.map (config.update (Line.complete text)) ∧
      ∀ asset ∈ p.assets, config.Delivers text settings.key forwarding asset.id := by
  obtain ⟨next, hnext, hend, hcursor, hassets⟩ := planned.follows_lines hchain hbeginning
    (fun call hcall => answered call (by simp [hcall])) htracks hat hle
  have hfetched : ∀ asset ∈ p.assets,
      asset.id ∈ config.ids (Line.complete text) ∧ asset.retryCount = 0 :=
    fun asset hasset => htracks.mem_fetched (hassets ▸ hasset)
  obtain ⟨hstates, hdelivers⟩ := forwarded.delivers_chunks
    (fun call hcall => answered call (by simp [hcall]))
    (fun asset hasset => (hfetched asset hasset).1) planned.nodup
  exact ⟨next, hnext, hend, hcursor, hassets, hfetched, hstates, hdelivers⟩

end AssetSync
