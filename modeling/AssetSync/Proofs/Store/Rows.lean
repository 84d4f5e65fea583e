import AssetSync.Proofs.Asset.Ids
import AssetSync.Proofs.Asset.Open
import AssetSync.Proofs.Store.Ledger
import AssetSync.Store.Server
import Mathlib.Data.List.Basic

namespace AssetSync

theorem filter_upsert_of_imp {α : Type} {p same : α → Bool} {row : α} (hrow : p row)
    (hsame : ∀ old, same old → p old) (rows : List α) :
    (upsert same row rows).filter p = upsert same row (rows.filter p) := by
  induction rows with
  | nil => simp [upsert, hrow]
  | cons old rest ih =>
    rw [upsert]
    by_cases hold : same old
    · rw [if_pos hold, List.filter_cons_of_pos hrow, List.filter_cons_of_pos (hsame old hold), upsert,
        if_pos hold]
    · rw [if_neg hold, List.filter_cons, List.filter_cons, ih]
      split
      · rw [upsert, if_neg hold]
      · rfl

theorem upsert_congr {α : Type} {same same' : α → Bool} {row : α} {rows : List α}
    (h : ∀ old ∈ rows, same old = same' old) : upsert same row rows = upsert same' row rows := by
  induction rows with
  | nil => rfl
  | cons old rest ih =>
    rw [upsert, upsert, h old (by simp), ih fun other hother => h other (by simp [hother])]

theorem filter_upsert {α : Type} {p same : α → Bool} {row : α} (hrow : p row) (rows : List α) :
    (upsert (fun old => p old && same old) row rows).filter p =
      upsert same row (rows.filter p) := by
  rw [filter_upsert_of_imp hrow fun old hold => (Bool.and_eq_true_iff.mp hold).1]
  refine upsert_congr fun old hold => ?_
  rw [(List.mem_filter.mp hold).2, Bool.true_and]

theorem filter_upsert_of_not {α : Type} {p same : α → Bool} {row : α} (hrow : ¬ p row)
    (hsame : ∀ old, same old → ¬ p old) (rows : List α) :
    (upsert same row rows).filter p = rows.filter p := by
  induction rows with
  | nil => simp [upsert, hrow]
  | cons old rest ih =>
    unfold upsert
    split
    · rename_i hold
      rw [List.filter_cons_of_neg hrow, List.filter_cons_of_neg (hsame old hold)]
    · rw [List.filter_cons, List.filter_cons, ih]

theorem map_upsert {α β : Type} (f : α → β) (same : β → Bool) (row : α) (rows : List α) :
    (upsert (fun old => same (f old)) row rows).map f = upsert same (f row) (rows.map f) := by
  induction rows with
  | nil => rfl
  | cons old rest ih =>
    rw [upsert, List.map_cons, upsert]
    by_cases hold : same (f old)
    · rw [if_pos hold, if_pos hold, List.map_cons]
    · rw [if_neg hold, if_neg hold, List.map_cons, ih]

def CursorRow.untimed (row : CursorRow) : CursorRow :=
  { row with updatedAt := "" }

theorem map_untimed_upsert (row : CursorRow) (rows : List CursorRow) :
    (upsert (·.key == row.key) row rows).map CursorRow.untimed =
      upsert (·.key == row.key) row.untimed (rows.map CursorRow.untimed) :=
  map_upsert CursorRow.untimed (·.key == row.key) row rows

section

variable {α : Type} {ident : α → AssetId} {ids : List AssetId} {f : AssetId → Option α}

theorem upsert_filterMap (hids : ids.Nodup) (hf : ∀ id ∈ ids, ∃ old, f id = some old ∧ ident old = id)
    (row : α) :
    upsert (ident · == ident row) row (ids.filterMap f) =
      (addId ids (ident row)).filterMap (Function.update f (ident row) (some row)) := by
  induction ids with
  | nil => simp [upsert, addId]
  | cons first rest ih =>
    obtain ⟨hnew, hrest⟩ := List.nodup_cons.mp hids
    obtain ⟨old, hold, hident⟩ := hf first (by simp)
    have ih := ih hrest fun id hid => hf id (by simp [hid])
    rw [List.filterMap_cons_some hold, upsert]
    by_cases hfirst : first = ident row
    · have hput : Function.update f (ident row) (some row) first = some row := by
        rw [hfirst, Function.update_self]
      have hothers : rest.filterMap (Function.update f (ident row) (some row)) =
          rest.filterMap f := by
        refine List.filterMap_congr fun id hid => Function.update_of_ne ?_ _ _
        rintro rfl
        exact hnew (hfirst ▸ hid)
      rw [if_pos (by simp [hident, hfirst]), addId_of_mem (by simp [hfirst]),
        List.filterMap_cons_some hput, hothers]
    · have hadd : addId (first :: rest) (ident row) = first :: addId rest (ident row) := by
        unfold addId
        by_cases hmem : ident row ∈ rest <;> simp [hmem, Ne.symm hfirst]
      have hkept : Function.update f (ident row) (some row) first = some old := by
        rw [Function.update_of_ne hfirst, hold]
      rw [if_neg (by simp [hident, hfirst]), ih, hadd, List.filterMap_cons_some hkept]

end

namespace Ledger

variable {l : Ledger} {key : SyncerKey} {ids : List AssetId} {st : AssetId → AssetState}

def rowsOf (key : SyncerKey) (ids : List AssetId) (st : AssetId → AssetState) : List StateRow :=
  ids.map fun id => Embedded.stateRow key ⟨id, st id, 0⟩

theorem rows_putState (l : Ledger) (key : SyncerKey) (asset : Asset) :
    (l.putState (Embedded.stateRow key asset)).rows key =
      upsert (·.assetId == asset.id) (Embedded.stateRow key asset) (l.rows key) :=
  filter_upsert (by simp [Embedded.stateRow]) l.states

theorem rows_putStates_of_ne {other : SyncerKey} (h : other ≠ key) (l : Ledger)
    (assets : List Asset) : (l.putStates other assets).rows key = l.rows key := by
  induction assets generalizing l with
  | nil => rfl
  | cons asset rest ih =>
    rw [putStates_cons, ih]
    refine filter_upsert_of_not (by simpa [Embedded.stateRow] using h) (fun old hold => ?_) l.states
    obtain ⟨hkey, -⟩ : old.key = other ∧ old.assetId = asset.id := by
      simpa [Embedded.stateRow] using hold
    simpa [hkey] using h

theorem find?_putCursor_of_ne {row : CursorRow} (h : row.key ≠ key) (l : Ledger) :
    (l.putCursor row).cursors.find? (·.key == key) = l.cursors.find? (·.key == key) := by
  have hfilter : (l.putCursor row).cursors.filter (·.key == key) =
      l.cursors.filter (·.key == key) := by
    refine filter_upsert_of_not (by simpa using h) (fun old hold => ?_) l.cursors
    simpa [beq_iff_eq.mp hold] using h
  rw [← List.head?_filter, hfilter, List.head?_filter]

theorem upsert_rowsOf (hids : ids.Nodup) (id : AssetId) (state : AssetState) :
    upsert (·.assetId == id) (Embedded.stateRow key ⟨id, state, 0⟩) (rowsOf key ids st) =
      rowsOf key (addId ids id) fun other => if other = id then state else st other := by
  have hrows : ∀ (ids : List AssetId) (st : AssetId → AssetState), rowsOf key ids st =
      ids.filterMap fun id => some (Embedded.stateRow key ⟨id, st id, 0⟩) :=
    fun _ _ => by rw [rowsOf, List.filterMap_eq_map']
  have hids' : ∀ id ∈ ids, ∃ row : StateRow,
      some (Embedded.stateRow key ⟨id, st id, 0⟩) = some row ∧ row.assetId = id :=
    fun id _ => ⟨_, rfl, rfl⟩
  have hput := upsert_filterMap hids hids' (Embedded.stateRow key ⟨id, state, 0⟩)
  rw [hrows, hrows]
  refine hput.trans (List.filterMap_congr fun other _ => ?_)
  by_cases hother : other = id
  · subst hother
    exact (Function.update_self ..).trans (by rw [if_pos rfl])
  · exact (Function.update_of_ne hother ..).trans (by rw [if_neg hother])

theorem rows_putStates {assets : List Asset} {st' : AssetId → AssetState}
    (h : l.rows key = rowsOf key ids st) (hids : ids.Nodup)
    (hassets : ∀ asset ∈ assets, asset = ⟨asset.id, st' asset.id, 0⟩) :
    (l.putStates key assets).rows key = rowsOf key (addIds ids (assets.map Asset.id))
      fun id => if id ∈ assets.map Asset.id then st' id else st id := by
  induction assets generalizing l ids st with
  | nil => simpa using h
  | cons asset rest ih =>
    have hput : (l.putState (Embedded.stateRow key asset)).rows key =
        rowsOf key (addId ids asset.id)
          fun other => if other = asset.id then st' asset.id else st other := by
      rw [rows_putState, h, hassets asset (by simp)]
      exact upsert_rowsOf hids _ _
    have hnodup : (addId ids asset.id).Nodup := nodup_addIds hids [asset.id]
    rw [putStates_cons, ih hput hnodup fun other hother => hassets other (by simp [hother]),
      List.map_cons, addIds_cons]
    congr 1
    funext id
    by_cases hrest : id ∈ rest.map Asset.id
    · rw [if_pos hrest, if_pos (List.mem_cons_of_mem _ hrest)]
    · by_cases hid : id = asset.id
      · simp [hid]
      · rw [if_neg hrest, if_neg hid, if_neg (by simp [hid, hrest])]

end Ledger

theorem Embedded.retryCount?_ofNat (n : UInt32) :
    retryCount? (Int64.ofNat n.toNat) = some n := by
  have hn := n.toNat_lt_size
  simp only [retryCount?, toInt_ofNat_toNat]
  rw [if_pos (by omega), Int.toNat_natCast, UInt32.ofNat_toNat]

theorem Embedded.assets_stateRow (key : SyncerKey) (found : List Asset) :
    assets (found.map (stateRow key)) = .ok found := by
  induction found with
  | nil => rfl
  | cons asset rest ih =>
    rw [List.map_cons, assets]
    simp only [ih, stateRow, AssetState.ofName?_name, retryCount?_ofNat]
    rfl

theorem Server.assetOf_stateRow (key : SyncerKey) (asset : Asset) :
    assetOf (Embedded.stateRow key asset) = .ok asset := by
  have hn := asset.retryCount.toNat_lt_size
  simp only [assetOf, Embedded.stateRow, AssetState.ofName?_name, toInt_ofNat_toNat]
  rw [if_neg (by omega), Int.toNat_natCast, UInt32.ofNat_toNat]

theorem Server.mapM_assetOf_stateRow (key : SyncerKey) (found : List Asset) :
    (found.map (Embedded.stateRow key)).mapM assetOf = Except.ok found := by
  induction found with
  | nil => rfl
  | cons asset rest ih =>
    rw [List.map_cons, List.mapM_cons, assetOf_stateRow, ih]
    rfl

theorem Embedded.assetStates_of_rows {db : Embedded} {key : SyncerKey} {found : List Asset}
    (hmissing : .states ∉ db.missing)
    (hrows : db.tables.ledger.rows key = found.map (stateRow key)) (now : String) :
    ((service now).assetStates key true db).1 = .ok found := by
  have hfilter : (db.tables.states.filter fun row =>
      row.key == key && (true || row.state != AssetState.finished.name)) =
        db.tables.ledger.rows key := by
    simp [Ledger.rows, Tables.ledger]
  simp only [service, query, List.contains_eq_mem, hmissing, decide_false, Bool.false_eq_true,
    if_false]
  rw [hfilter, hrows, assets_stateRow]

theorem Server.assetStates_of_rows {server : Server} {key : SyncerKey} {found : List Asset}
    (hfaults : server.faults = [])
    (hrows : server.tables.ledger.rows key = found.map (Embedded.stateRow key)) (now : String) :
    ((service now).assetStates key true server).1 = .ok found := by
  have hfilter : ((server.tables.states.filter (·.key == key)).filter
      (true || ·.state != AssetState.finished.name)) = server.tables.ledger.rows key := by
    simp [Ledger.rows, Tables.ledger]
  simp only [service, query, statement, hfaults, request, Bool.false_eq_true, if_false]
  rw [hfilter, hrows, mapM_assetOf_stateRow]

end AssetSync
