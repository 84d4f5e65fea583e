import AssetSync.Proofs.Cycle.Trace
import AssetSync.Proofs.Store.Rows
import Mathlib.Data.List.Nodup

namespace AssetSync

theorem mem_upsert_of_not {α : Type} {same : α → Bool} {row other : α} {rows : List α}
    (h : other ∈ rows) (hother : ¬ same other) : other ∈ upsert same row rows := by
  induction rows with
  | nil => cases h
  | cons old rest ih =>
    unfold upsert
    rcases List.mem_cons.mp h with rfl | hrest
    · rw [if_neg hother]
      simp
    · split
      · exact List.mem_cons_of_mem _ hrest
      · exact List.mem_cons_of_mem _ (ih hrest)

theorem map_assetId_upsert {row : StateRow} {id : AssetId} (hrow : row.assetId = id)
    (rows : List StateRow) :
    (upsert (·.assetId == id) row rows).map StateRow.assetId =
      addId (rows.map StateRow.assetId) id := by
  induction rows with
  | nil => simp [upsert, addId, hrow]
  | cons old rest ih =>
    unfold upsert
    by_cases hold : old.assetId = id
    · rw [if_pos (by simp [hold]), List.map_cons, List.map_cons, addId_of_mem (by simp [hold]), hrow,
        hold]
    · rw [if_neg (by simp [hold]), List.map_cons, List.map_cons, ih]
      unfold addId
      by_cases hmem : id ∈ rest.map StateRow.assetId
      · rw [if_pos hmem, if_pos (List.mem_cons_of_mem _ hmem)]
      · rw [if_neg hmem, if_neg (by simp [hmem, Ne.symm hold]), List.cons_append]

theorem AssetState.name_injective {state other : AssetState} (h : state.name = other.name) :
    state = other := by
  have hname := ofName?_name state
  rw [h, ofName?_name] at hname
  exact (Option.some.inj hname).symm

theorem Embedded.stateRow_injective {key : SyncerKey} {asset other : Asset}
    (h : stateRow key asset = stateRow key other) : asset = other := by
  have hid : asset.id = other.id := congrArg StateRow.assetId h
  have hstate : asset.state = other.state :=
    AssetState.name_injective (congrArg StateRow.state h)
  have hcount : asset.retryCount = other.retryCount := by
    have hread := congrArg (retryCount? ·.retryCount) h
    simpa only [stateRow, retryCount?_ofNat, Option.some.injEq] using hread
  cases asset
  cases other
  simp only at hid hstate hcount
  rw [hid, hstate, hcount]

namespace Ledger

variable {l : Ledger} {key : SyncerKey} {asset other : Asset} {assets : List Asset}
  {Kept : Asset → Prop}

def ids (l : Ledger) (key : SyncerKey) : List AssetId :=
  (l.rows key).map StateRow.assetId

def Has (l : Ledger) (key : SyncerKey) (asset : Asset) : Prop :=
  Embedded.stateRow key asset ∈ l.rows key

theorem Has.id_mem (h : l.Has key asset) : asset.id ∈ l.ids key :=
  List.mem_map.mpr ⟨_, h, rfl⟩

theorem ids_putStates (l : Ledger) (key : SyncerKey) (assets : List Asset) :
    (l.putStates key assets).ids key = addIds (l.ids key) (assets.map Asset.id) := by
  induction assets generalizing l with
  | nil => rfl
  | cons asset rest ih =>
    have hput : (l.putState (Embedded.stateRow key asset)).ids key =
        addId (l.ids key) asset.id := by
      have hrow : (Embedded.stateRow key asset).assetId = asset.id := rfl
      rw [ids, rows_putState]
      exact map_assetId_upsert hrow _
    rw [putStates_cons, ih, hput, List.map_cons, addIds_cons]

theorem Has.putStates (h : l.Has key asset) (hnew : asset.id ∉ assets.map Asset.id) :
    (l.putStates key assets).Has key asset := by
  induction assets generalizing l with
  | nil => exact h
  | cons saved rest ih =>
    obtain ⟨hsaved, hrest⟩ : asset.id ≠ saved.id ∧ asset.id ∉ rest.map Asset.id := by
      simpa using hnew
    rw [putStates_cons]
    refine ih ?_ hrest
    rw [Has, rows_putState]
    exact mem_upsert_of_not h (by simpa [Embedded.stateRow] using hsaved)

structure Stores (l : Ledger) (key : SyncerKey) (Kept : Asset → Prop) : Prop where
  assets : ∀ row ∈ l.rows key, ∃ asset : Asset, asset.id ≠ "" ∧ Kept asset ∧
    row = Embedded.stateRow key asset
  nodup : (l.ids key).Nodup

theorem stores_of_empty (h : l.rows key = []) : l.Stores key Kept where
  assets row hrow := by simp [h] at hrow
  nodup := by simp [ids, h]

theorem Stores.of_rows {l' : Ledger} (h : l.Stores key Kept) (hrows : l'.rows key = l.rows key) :
    l'.Stores key Kept where
  assets row hrow := h.assets row (hrows ▸ hrow)
  nodup := by
    rw [ids, hrows]
    exact h.nodup

theorem Stores.putStates (h : l.Stores key Kept)
    (hassets : ∀ asset ∈ assets, asset.id ≠ "" ∧ Kept asset) :
    (l.putStates key assets).Stores key Kept where
  assets row hrow := by
    rcases mem_rows_putStates hrow with ⟨asset, hasset, rfl⟩ | hold
    · exact ⟨asset, (hassets asset hasset).1, (hassets asset hasset).2, rfl⟩
    · exact h.assets row hold
  nodup := by
    rw [ids_putStates]
    exact nodup_addIds h.nodup _

theorem Stores.kept (h : l.Stores key Kept) (has : l.Has key asset) :
    asset.id ≠ "" ∧ Kept asset := by
  obtain ⟨stored, hid, hkept, hrow⟩ := h.assets _ has
  obtain rfl := Embedded.stateRow_injective hrow
  exact ⟨hid, hkept⟩

theorem Stores.eq_of_id (h : l.Stores key Kept) (has : l.Has key asset) (has' : l.Has key other)
    (hid : asset.id = other.id) : asset = other :=
  Embedded.stateRow_injective (List.inj_on_of_nodup_map h.nodup has has' hid)

theorem Stores.filter_rows (h : l.Stores key Kept) (has : l.Has key asset) :
    (l.rows key).filter (·.assetId == asset.id) = [Embedded.stateRow key asset] := by
  have hnodup := h.nodup
  rw [ids] at hnodup
  unfold Has at has
  generalize l.rows key = rows at hnodup has
  induction rows with
  | nil => cases has
  | cons first rest ih =>
    obtain ⟨hfirst, hrest⟩ := List.nodup_cons.mp hnodup
    rcases List.mem_cons.mp has with rfl | hmem
    · have hnone : rest.filter (·.assetId == asset.id) = [] := by
        refine List.filter_eq_nil_iff.mpr fun row hrow he => hfirst ?_
        exact List.mem_map.mpr ⟨row, hrow, beq_iff_eq.mp he⟩
      rw [List.filter_cons_of_pos (by simp [Embedded.stateRow]), hnone]
    · have hne : first.assetId ≠ asset.id := by
        rintro he
        exact hfirst (List.mem_map.mpr ⟨_, hmem, he.symm⟩)
      rw [List.filter_cons_of_neg (by simpa using hne)]
      exact ih hrest hmem

end Ledger

theorem AssetState.name_bne_finished (state : AssetState) :
    (state.name != finished.name) = state.isOpen := by
  cases state <;> decide

theorem OpenAssets.id_mem_ofRecords {records : List Json} {record : Json} {asset : Asset}
    (h : record ∈ records) (hread : Asset.ofRecord record = .ok asset) :
    asset.id ∈ (ofRecords records).assets.map Asset.id := by
  have hkeep : ∀ (more : List Json) (found : OpenAssets),
      found.assets ⊆ (more.foldl add found).assets := by
    intro more
    induction more with
    | nil => exact fun found => List.Subset.refl _
    | cons next rest ih =>
      intro found other hother
      refine ih _ ?_
      unfold add
      split
      · exact hother
      · split
        · exact hother
        · exact List.mem_append_left _ hother
  obtain ⟨before, after, rfl⟩ := List.append_of_mem h
  rw [ofRecords, List.foldl_append, List.foldl_cons]
  refine List.map_subset _ (hkeep after _) ?_
  generalize before.foldl add ⟨[], 0⟩ = found
  rw [add, hread]
  by_cases hany : found.assets.any (·.id == asset.id) = true
  · simp only [hany, if_true]
    simpa using hany
  · simp [hany]

namespace Ledger.Stores

variable {l : Ledger} {key : SyncerKey} {Kept : Asset → Prop} {asset : Asset}

theorem mem_openRecords (h : l.Stores key Kept) {record : Json} (hrecord : record ∈ l.openRecords key) :
    ∃ asset, l.Has key asset ∧ asset.state.isOpen ∧ Asset.ofRecord record = .ok asset := by
  obtain ⟨row, hrow, rfl⟩ := List.mem_map.mp hrecord
  obtain ⟨hmem, hopen⟩ := List.mem_filter.mp hrow
  obtain ⟨asset, hid, -, rfl⟩ := h.assets row hmem
  exact ⟨asset, hmem, AssetState.name_bne_finished _ ▸ hopen, Asset.ofRecord_looseState key hid⟩

theorem mem_opened (h : l.Stores key Kept) :
    asset ∈ (OpenAssets.ofRecords (l.openRecords key)).assets ↔
      l.Has key asset ∧ asset.state.isOpen := by
  have hopened : ∀ {asset}, asset ∈ (OpenAssets.ofRecords (l.openRecords key)).assets →
      l.Has key asset ∧ asset.state.isOpen := by
    intro asset hasset
    obtain ⟨record, hrecord, hread⟩ := OpenAssets.mem_ofRecords hasset
    obtain ⟨stored, has, hopen, hread'⟩ := h.mem_openRecords hrecord
    obtain rfl := Except.ok.inj (hread.symm.trans hread')
    exact ⟨has, hopen⟩
  refine ⟨hopened, fun ⟨has, hopen⟩ => ?_⟩
  have hrecord : Embedded.looseState (Embedded.stateRow key asset) ∈ l.openRecords key := by
    refine List.mem_map_of_mem (List.mem_filter.mpr ⟨has, ?_⟩)
    exact (AssetState.name_bne_finished asset.state).trans hopen
  have hread := Asset.ofRecord_looseState key (h.kept has).1
  obtain ⟨loaded, hloaded, hid⟩ := List.mem_map.mp (OpenAssets.id_mem_ofRecords hrecord hread)
  exact h.eq_of_id has (hopened hloaded).1 hid.symm ▸ hloaded

variable {settings : SyncSettings}

theorem mem_fetchable (h : l.Stores settings.key Kept) :
    asset ∈ (Cycle.budgeted settings (l.openRecords settings.key)).fetchable ↔
      l.Has settings.key asset ∧ asset.state.isOpen ∧ asset.exceeds settings.maxRetries = false := by
  rw [Cycle.budgeted, Budgeted.ofAssets, List.mem_filter, h.mem_opened, and_assoc]
  simp

theorem mem_exhausted (h : l.Stores settings.key Kept) :
    asset ∈ (Cycle.budgeted settings (l.openRecords settings.key)).exhausted ↔
      l.Has settings.key asset ∧ asset.state.isOpen ∧ asset.exceeds settings.maxRetries = true := by
  rw [Cycle.budgeted, Budgeted.ofAssets, List.mem_filter, h.mem_opened, and_assoc]

end Ledger.Stores

end AssetSync
