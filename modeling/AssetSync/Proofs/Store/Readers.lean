import AssetSync.Proofs.Asset.Firsts
import AssetSync.Proofs.Asset.Grammar
import AssetSync.Proofs.Store.Rows

/-!
The two ways to read the unfinished assets of a key: by records, of which those that make no sense are
skipped, and by columns, where one that makes no sense is an error. On every table they tell the same.
-/

namespace AssetSync

def StateRow.WellFormed (row : StateRow) : Prop :=
  (∃ state ∈ AssetState.all, row.state = state.name) ∧
    0 ≤ row.retryCount.toInt ∧ row.retryCount.toInt < UInt32.size

def StateRow.Usable (row : StateRow) : Prop :=
  row.WellFormed ∧ row.assetId ≠ ""

instance : DecidablePred StateRow.WellFormed := fun _ => inferInstanceAs (Decidable (_ ∧ _))

instance : DecidablePred StateRow.Usable := fun _ => inferInstanceAs (Decidable (_ ∧ _))

namespace Embedded

variable {key : SyncerKey} {row : StateRow} {rows : List StateRow} {asset : Asset}

theorem retryCount?_eq_some_iff {stored : Int64} {n : UInt32} :
    retryCount? stored = some n ↔ stored = Int64.ofNat n.toNat := by
  have hn := n.toNat_lt_size
  rw [← Int64.toInt_inj, toInt_ofNat_toNat]
  simp only [retryCount?]
  by_cases h : 0 ≤ stored.toInt ∧ stored.toInt < UInt32.size
  · rw [if_pos h, Option.some.injEq, ← UInt32.toNat_inj, UInt32.toNat_ofNat_of_lt' (by omega)]
    omega
  · rw [if_neg h]
    simp only [reduceCtorEq, false_iff]
    omega

theorem wellFormed_stateRow (key : SyncerKey) (asset : Asset) : (stateRow key asset).WellFormed := by
  have hn := asset.retryCount.toNat_lt_size
  have hcount : (stateRow key asset).retryCount.toInt = asset.retryCount.toNat :=
    toInt_ofNat_toNat asset.retryCount
  have hstate : asset.state ∈ AssetState.all := by
    cases asset.state <;> decide
  exact ⟨⟨asset.state, hstate, rfl⟩, by omega, by omega⟩

theorem exists_stateRow (hkey : row.key = key) (h : row.WellFormed) :
    ∃ asset, stateRow key asset = row := by
  obtain ⟨⟨state, -, hstate⟩, hlower, hupper⟩ := h
  have hcount : row.retryCount = Int64.ofNat (UInt32.ofNat row.retryCount.toInt.toNat).toNat :=
    retryCount?_eq_some_iff.mp (if_pos ⟨hlower, hupper⟩)
  refine ⟨⟨row.assetId, state, UInt32.ofNat row.retryCount.toInt.toNat⟩, ?_⟩
  simp only [stateRow, ← hcount, ← hstate, ← hkey]

theorem assets_cons_stateRow (key : SyncerKey) (asset : Asset) (rest : List StateRow) :
    assets (stateRow key asset :: rest) = (assets rest).map (asset :: ·) := by
  have hcount : retryCount? (stateRow key asset).retryCount = some asset.retryCount :=
    retryCount?_eq_some_iff.mpr rfl
  rw [assets, hcount]
  simp only [stateRow, AssetState.ofName?_name]
  cases assets rest <;> rfl

theorem assets_cons_malformed (h : ¬ row.WellFormed) (rest : List StateRow) :
    ∃ text, assets (row :: rest) = .error (.corrupt text) := by
  rw [assets]
  cases hstate : AssetState.ofName? row.state with
  | none => exact ⟨_, rfl⟩
  | some state =>
    cases hcount : retryCount? row.retryCount with
    | none => exact ⟨_, rfl⟩
    | some n =>
      have hrow : row = stateRow row.key ⟨row.assetId, state, n⟩ := by
        simp only [stateRow, ← AssetState.ofName?_eq_some_iff.mp hstate,
          ← retryCount?_eq_some_iff.mp hcount]
      exact absurd (hrow ▸ wellFormed_stateRow _ _) h

theorem assets_cases (hkeys : ∀ row ∈ rows, row.key = key) :
    (∃ found, assets rows = .ok found ∧ found.map (stateRow key) = rows) ∨
      ((∃ row ∈ rows, ¬ row.WellFormed) ∧ ∃ text, assets rows = .error (.corrupt text)) := by
  induction rows with
  | nil => exact .inl ⟨[], rfl, rfl⟩
  | cons row rest ih =>
    obtain ⟨hkey, hrest⟩ := List.forall_mem_cons.mp hkeys
    by_cases hrow : row.WellFormed
    · obtain ⟨asset, rfl⟩ := exists_stateRow hkey hrow
      rw [assets_cons_stateRow]
      rcases ih hrest with ⟨found, hfound, hrows⟩ | ⟨⟨bad, hbad, hmalformed⟩, text, htext⟩
      · exact .inl ⟨asset :: found, by rw [hfound]; rfl, by rw [List.map_cons, hrows]⟩
      · exact .inr ⟨⟨bad, List.mem_cons_of_mem _ hbad, hmalformed⟩, text, by rw [htext]; rfl⟩
    · exact .inr ⟨⟨row, List.mem_cons_self, hrow⟩, assets_cons_malformed hrow rest⟩

theorem ofRecord_looseState_iff (hkey : row.key = key) :
    Asset.ofRecord (looseState row) = .ok asset ↔ row = stateRow key asset ∧ row.assetId ≠ "" := by
  constructor
  · intro h
    rw [looseState, looseRecord_eq, Asset.ofRecord_obj_iff] at h
    have hid := Asset.id_ne_empty_of_recorded h
    obtain ⟨⟨json, hjson, hgiven⟩, hstate, hretries⟩ := h
    obtain rfl : Json.str row.assetId = json := Option.some.inj hjson
    have hsame := hgiven.eq_text
    have hname : row.state = asset.state.name := by
      simpa [List.lookup_cons] using hstate
    have hcount : row.retryCount = Int64.ofNat asset.retryCount.toNat := by
      rw [← Int64.toInt_inj, toInt_ofNat_toNat]
      exact retryCountOfJson?_integer.mp (retriesGiven_iff.mpr hretries)
    refine ⟨?_, hsame ▸ hid⟩
    rw [stateRow, ← hkey, hsame, ← hname, ← hcount]
  · rintro ⟨hrow, hid⟩
    rw [hrow] at hid ⊢
    exact Asset.ofRecord_looseState key hid

theorem usable_iff (hkey : row.key = key) :
    row.Usable ↔ ∃ asset, Asset.ofRecord (looseState row) = .ok asset := by
  constructor
  · rintro ⟨hrow, hid⟩
    obtain ⟨asset, hasset⟩ := exists_stateRow hkey hrow
    exact ⟨asset, (ofRecord_looseState_iff hkey).mpr ⟨hasset.symm, hid⟩⟩
  · rintro ⟨asset, h⟩
    obtain ⟨hrow, hid⟩ := (ofRecord_looseState_iff hkey).mp h
    exact ⟨hrow ▸ wellFormed_stateRow key asset, hid⟩

theorem readable_looseState (hkeys : ∀ row ∈ rows, row.key = key) :
    (readable (rows.map looseState)).map (stateRow key) = rows.filter (·.Usable) := by
  induction rows with
  | nil => rfl
  | cons row rest ih =>
    obtain ⟨hkey, hrest⟩ := List.forall_mem_cons.mp hkeys
    have hcons : readable ((row :: rest).map looseState) =
        (Asset.ofRecord (looseState row)).toOption.toList ++ readable (rest.map looseState) := by
      rw [List.map_cons, readable, List.filterMap_cons]
      cases (Asset.ofRecord (looseState row)).toOption <;> rfl
    rw [hcons, List.map_append, ih hrest]
    by_cases h : row.Usable
    · obtain ⟨asset, hasset⟩ := (usable_iff hkey).mp h
      have hrow := ((ofRecord_looseState_iff hkey).mp hasset).1
      rw [List.filter_cons_of_pos (by simpa using h), hasset, hrow]
      rfl
    · cases hread : Asset.ofRecord (looseState row) with
      | ok asset => exact absurd ((usable_iff hkey).mpr ⟨asset, hread⟩) h
      | error reason =>
        rw [List.filter_cons_of_neg (by simpa using h)]
        rfl

theorem unreadableCount_looseState (hkeys : ∀ row ∈ rows, row.key = key) :
    unreadableCount (rows.map looseState) = rows.countP (¬ ·.Usable) := by
  rw [unreadableCount, List.countP_map]
  apply List.countP_congr
  intro row hrow
  have husable := usable_iff (hkeys row hrow)
  cases hread : Asset.ofRecord (looseState row) <;>
    simp [hread, Except.isOk, Except.toBool] at husable ⊢ <;> exact husable

theorem readers_agree (tables : Tables) (rejected : List AssetId) (key : SyncerKey) (now : String)
    (distinct : ((tables.states.filter (·.key == key)).map StateRow.assetId).Nodup) :
    let db : Embedded := ⟨tables, [], rejected⟩
    let unfinished := (tables.states.filter (·.key == key)).filter (·.state != "finished")
    let shown := ((service now).assetStates key false db).1
    ∃ records found, ((service now).loadActive key db).1 = .ok records ∧
      OpenAssets.ofRecords records = found ∧
      found.assets.map (stateRow key) = unfinished.filter (·.Usable) ∧
      found.skipped = unfinished.countP (¬ ·.Usable) ∧
      ((∃ text, shown = .error (.corrupt text)) ↔ ∃ row ∈ unfinished, ¬ row.WellFormed) ∧
      ((∀ row ∈ unfinished, row.WellFormed) →
        ∃ assets, shown = .ok assets ∧ assets.map (stateRow key) = unfinished) ∧
      ((∀ row ∈ unfinished, row.Usable) → shown = .ok found.assets) := by
  intro db unfinished shown
  have hkeys : ∀ row ∈ unfinished, row.key = key := by
    intro row hrow
    exact beq_iff_eq.mp (List.mem_filter.mp (List.mem_filter.mp hrow).1).2
  have hrows : tables.states.filter (fun row => row.key == key && row.state != "finished") =
      unfinished := by
    simp only [unfinished, List.filter_filter, Bool.and_comm]
  have hactive : ((service now).loadActive key db).1 = .ok (unfinished.map looseState) :=
    congrArg (fun rows => Except.ok (List.map looseState rows)) hrows
  have hshown : shown = assets unfinished := congrArg assets hrows
  have hreadable := readable_looseState hkeys
  have hids : ((readable (unfinished.map looseState)).map Asset.id).Nodup := by
    have hsub : ((unfinished.filter (·.Usable)).map StateRow.assetId).Nodup :=
      distinct.sublist ((List.filter_sublist.trans List.filter_sublist).map _)
    rw [← hreadable, List.map_map] at hsub
    exact hsub
  have hfound : OpenAssets.ofRecords (unfinished.map looseState) =
      ⟨readable (unfinished.map looseState), unfinished.countP (¬ ·.Usable)⟩ := by
    rw [OpenAssets.ofRecords_eq, firstById_of_nodup hids, unreadableCount_looseState hkeys]
  refine ⟨_, _, hactive, hfound, hreadable, rfl, ?_, ?_, ?_⟩
  · rw [hshown]
    obtain ⟨found, hok, hfound⟩ | ⟨hbad, text, htext⟩ := assets_cases hkeys
    · constructor
      · rintro ⟨text, htext⟩
        rw [hok] at htext
        cases htext
      · rintro ⟨row, hrow, hmalformed⟩
        rw [← hfound] at hrow
        obtain ⟨asset, -, rfl⟩ := List.mem_map.mp hrow
        exact absurd (wellFormed_stateRow key asset) hmalformed
    · exact ⟨fun _ => hbad, fun _ => ⟨text, htext⟩⟩
  · intro hgood
    rw [hshown]
    obtain hok | ⟨⟨row, hrow, hmalformed⟩, -⟩ := assets_cases hkeys
    · exact hok
    · exact absurd (hgood row hrow) hmalformed
  · intro husable
    have hall : (readable (unfinished.map looseState)).map (stateRow key) = unfinished := by
      rw [hreadable, List.filter_eq_self.mpr (by simpa using husable)]
    have hread := assets_stateRow key (readable (unfinished.map looseState))
    rw [hall] at hread
    rw [hshown, hread]

theorem readers_agree_damaged :
    let key : SyncerKey := ⟨"jobs", "local"⟩
    let rows : List StateRow := [⟨key, "a", "active", 1⟩, ⟨key, "b", "finished", -1⟩,
      ⟨key, "", "init", 0⟩, ⟨key, "c", "paused", 0⟩, ⟨key, "d", "failed_request", 0x100000000⟩]
    let db : Embedded := ⟨⟨[], ⟨⟨"jobs", "other"⟩, "a", "active", 0⟩ :: rows, [], []⟩, [], []⟩
    (rows.map StateRow.assetId).Nodup ∧
      ∃ records, ((service "now").loadActive key db).1 = .ok records ∧
        (OpenAssets.ofRecords records).assets.map (stateRow key) = [⟨key, "a", "active", 1⟩] ∧
        (OpenAssets.ofRecords records).skipped = 3 ∧
        ∃ text, ((service "now").assetStates key false db).1 = .error (.corrupt text) := by
  intro key rows db
  have distinct : ((db.tables.states.filter (·.key == key)).map StateRow.assetId).Nodup := by
    decide +kernel
  obtain ⟨records, found, hrecords, rfl, hassets, hskipped, hcorrupt, -⟩ :=
    readers_agree db.tables [] key "now" distinct
  refine ⟨by decide +kernel, records, hrecords, hassets.trans ?_, hskipped.trans ?_, hcorrupt.mpr ?_⟩
  · decide +kernel
  · decide +kernel
  · exact ⟨⟨key, "c", "paused", 0⟩, by decide +kernel⟩

end Embedded

end AssetSync
