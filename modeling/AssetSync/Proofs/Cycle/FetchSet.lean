import AssetSync.Proofs.Cycle.Trace

namespace AssetSync

theorem OpenAssets.add_nodup {found : OpenAssets} (record : Json)
    (h : (found.assets.map Asset.id).Nodup) : ((found.add record).assets.map Asset.id).Nodup := by
  unfold OpenAssets.add
  split
  · exact h
  · rename_i asset _
    split
    · exact h
    · rename_i hnew
      have hfresh : asset.id ∉ found.assets.map Asset.id := by simpa using hnew
      simp only [List.map_append, List.map_cons, List.map_nil]
      exact List.nodup_append.mpr
        ⟨h, by simp, by rintro a ha b hb rfl; exact hfresh (List.mem_singleton.mp hb ▸ ha)⟩

theorem OpenAssets.ofRecords_nodup (records : List Json) :
    ((OpenAssets.ofRecords records).assets.map Asset.id).Nodup := by
  have hfold (found : OpenAssets) (h : (found.assets.map Asset.id).Nodup) :
      ((records.foldl OpenAssets.add found).assets.map Asset.id).Nodup := by
    induction records generalizing found with
    | nil => exact h
    | cons record rest ih => exact ih _ (add_nodup record h)
  exact hfold ⟨[], 0⟩ (by simp)

theorem appendNew_nodup {known : List Asset} (exclude : List AssetId) (found : List Asset)
    (h : (known.map Asset.id).Nodup) : ((appendNew known exclude found).map Asset.id).Nodup := by
  induction found generalizing known with
  | nil => exact h
  | cons asset rest ih =>
    unfold appendNew
    split
    · exact ih h
    · rename_i hnew
      simp only [Bool.or_eq_true, List.any_eq_true, beq_iff_eq, not_or, not_exists, not_and] at hnew
      apply ih
      simp only [List.map_append, List.map_cons, List.map_nil]
      refine List.nodup_append.mpr ⟨h, by simp, ?_⟩
      rintro id hid _ hlast rfl
      obtain ⟨other, hother, he⟩ := List.mem_map.mp hid
      exact hnew.2 other hother (he.trans (List.mem_singleton.mp hlast))

theorem firstRepeated?_eq_none {assets : List Asset} {seen : List AssetId}
    (h : (assets.map Asset.id).Nodup) (hseen : ∀ asset ∈ assets, asset.id ∉ seen) :
    firstRepeated? seen assets = none := by
  induction assets generalizing seen with
  | nil => rfl
  | cons asset rest ih =>
    obtain ⟨hnew, hrest⟩ := List.nodup_cons.mp h
    have hfirst : seen.contains asset.id = false := by simpa using hseen asset (by simp)
    simp only [firstRepeated?, hfirst, Bool.false_eq_true, if_false]
    apply ih hrest
    intro other hother hmem
    rcases List.mem_cons.mp hmem with he | hold
    · exact hnew (List.mem_map.mpr ⟨other, hother, he⟩)
    · exact hseen other (by simp [hother]) hold

namespace Cycle

theorem budgeted_nodup (settings : SyncSettings) (records : List Json) :
    ((budgeted settings records).fetchable.map Asset.id).Nodup :=
  (OpenAssets.ofRecords_nodup records).sublist (List.filter_sublist.map Asset.id)

theorem LoadTrace.nodup {settings : SyncSettings} {events : List Event} {b : Budgeted}
    (h : LoadTrace settings events (.ok b)) : (b.fetchable.map Asset.id).Nodup := by
  cases h with
  | loaded records => exact budgeted_nodup settings records

theorem plan_nodup {b : Budgeted} (h : (b.fetchable.map Asset.id).Nodup) (cursor : Cursor)
    (label : CursorLabel) (page : Option (Except SourceError Page)) :
    ((plan b cursor label page).assets.map Asset.id).Nodup :=
  appendNew_nodup _ _ h

theorem PlanTrace.nodup {settings : SyncSettings} {events : List Event} {plan : Plan}
    (h : PlanTrace settings events (.ok plan)) : (plan.assets.map Asset.id).Nodup := by
  cases h with
  | planned _ loaded page => exact plan_nodup loaded.nodup _ _ page

end Cycle

theorem chunks_flatten {α : Type} (size : Nat) (positive : 0 < size) (xs : List α) :
    (chunks size positive xs).flatten = xs := by
  fun_induction chunks size positive xs with
  | case1 => rfl
  | case2 x rest ih => rw [List.flatten_cons, ih, List.take_append_drop]

theorem ne_nil_of_mem_chunks {α : Type} {size : Nat} {positive : 0 < size} {xs chunk : List α}
    (h : chunk ∈ chunks size positive xs) : chunk ≠ [] := by
  fun_induction chunks size positive xs with
  | case1 => simp at h
  | case2 x rest ih =>
    rcases List.mem_cons.mp h with rfl | hrest
    · simp; omega
    · exact ih hrest

namespace Cycle

theorem applyAnswer_ids (requested answered : List Asset) :
    (applyAnswer requested answered).map Asset.id = requested.map Asset.id := by
  simp only [applyAnswer, List.map_map, List.map_inj_left, Function.comp_apply]
  intro asset _
  unfold Asset.afterAnswer
  split <;> rfl

theorem failAll_ids (requested : List Asset) :
    (failAll requested).map Asset.id = requested.map Asset.id := by
  simp [failAll, Asset.fail]

theorem ChunkTrace.ids {key : SyncerKey} {chunk states : List Asset} {events : List Event}
    (h : ChunkTrace key chunk events (.ok states)) : states.map Asset.id = chunk.map Asset.id := by
  cases h with
  | unfetched e => exact failAll_ids chunk
  | silent _ => exact applyAnswer_ids _ _
  | sent _ _ => exact applyAnswer_ids _ _

theorem ForwardTrace.ids {key : SyncerKey} {pieces : List (List Asset)} {events : List Event}
    {states : List Asset} (h : ForwardTrace key pieces events (.ok states)) :
    states.map Asset.id = pieces.flatten.map Asset.id := by
  generalize hr : (Except.ok states : Except Interrupt (List Asset)) = result at h
  induction h generalizing states with
  | done => cases hr; rfl
  | @next chunk rest events later first result hfirst _ ih =>
    cases result with
    | error => cases hr
    | ok others =>
      cases hr
      rw [List.map_append, hfirst.ids, ih rfl, List.flatten_cons, List.map_append]
  | stopped => cases hr

theorem ForwardTrace.length_states {key : SyncerKey} {pieces : List (List Asset)}
    {events : List Event} {states : List Asset}
    (h : ForwardTrace key pieces events (.ok states)) : states.length = pieces.flatten.length := by
  simpa only [List.length_map] using congrArg List.length h.ids

theorem ForwardTrace.states_eq_nil_iff {key : SyncerKey} {settings : SyncSettings} {plan : Plan}
    {events : List Event} {states : List Asset}
    (h : ForwardTrace key (chunks settings.batchSize settings.batchSize_pos plan.assets) events
      (.ok states)) : states = [] ↔ plan.assets = [] := by
  rw [← List.length_eq_zero_iff, h.length_states, chunks_flatten, List.length_eq_zero_iff]

end Cycle

end AssetSync
