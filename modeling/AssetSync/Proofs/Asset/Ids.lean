import AssetSync.Asset.Selection

namespace AssetSync

def addId (ids : List AssetId) (id : AssetId) : List AssetId :=
  if id ∈ ids then ids else ids ++ [id]

def addIds (ids more : List AssetId) : List AssetId :=
  more.foldl addId ids

variable {ids more : List AssetId} {id other : AssetId}

theorem addId_of_mem (h : id ∈ ids) : addId ids id = ids :=
  if_pos h

theorem mem_addId : other ∈ addId ids id ↔ other ∈ ids ∨ other = id := by
  unfold addId
  split
  · rename_i h
    constructor
    · exact .inl
    · rintro (h' | rfl)
      · exact h'
      · exact h
  · simp

@[simp] theorem addIds_nil (ids : List AssetId) : addIds ids [] = ids := rfl

theorem addIds_cons (ids : List AssetId) (id : AssetId) (more : List AssetId) :
    addIds ids (id :: more) = addIds (addId ids id) more := rfl

theorem addIds_append (ids more rest : List AssetId) :
    addIds ids (more ++ rest) = addIds (addIds ids more) rest :=
  List.foldl_append

theorem mem_addIds : other ∈ addIds ids more ↔ other ∈ ids ∨ other ∈ more := by
  induction more generalizing ids with
  | nil => simp
  | cons id rest ih => rw [addIds_cons, ih, mem_addId, List.mem_cons, or_assoc]

theorem addIds_of_subset (h : more ⊆ ids) : addIds ids more = ids := by
  induction more with
  | nil => rfl
  | cons id rest ih =>
    rw [addIds_cons, addId_of_mem (h (by simp)), ih fun _ hmem => h (by simp [hmem])]

theorem addIds_addIds (ids more rest : List AssetId) :
    addIds ids (addIds more rest) = addIds ids (more ++ rest) := by
  induction rest generalizing more with
  | nil => simp
  | cons id rest ih =>
    rw [addIds_cons, ih]
    unfold addId
    split
    · rename_i hmem
      rw [addIds_append, addIds_append, addIds_cons, addId_of_mem]
      exact mem_addIds.mpr (.inr hmem)
    · simp

theorem nodup_addIds (h : ids.Nodup) (more : List AssetId) : (addIds ids more).Nodup := by
  induction more generalizing ids with
  | nil => exact h
  | cons id rest ih =>
    rw [addIds_cons]
    apply ih
    unfold addId
    split
    · exact h
    · rename_i hnew
      exact List.nodup_append.mpr ⟨h, by simp, fun a ha b hb =>
        fun he => hnew (List.mem_singleton.mp hb ▸ he ▸ ha)⟩

theorem eraseDups_append_singleton (ids : List AssetId) (id : AssetId) :
    (ids ++ [id]).eraseDups = addId ids.eraseDups id := by
  rw [List.eraseDups_append]
  unfold addId
  by_cases h : id ∈ ids
  · simp [h, List.removeAll]
  · simp [h, List.removeAll]
    rfl

theorem addIds_eraseDups (ids more : List AssetId) :
    addIds ids.eraseDups more = (ids ++ more).eraseDups := by
  induction more generalizing ids with
  | nil => simp
  | cons id rest ih =>
    rw [addIds_cons, ← eraseDups_append_singleton, ih, List.append_assoc, List.singleton_append]

theorem addIds_nil_left (ids : List AssetId) : addIds [] ids = ids.eraseDups :=
  addIds_eraseDups [] ids

theorem nodup_eraseDups (ids : List AssetId) : ids.eraseDups.Nodup := by
  rw [← addIds_nil_left]
  exact nodup_addIds List.nodup_nil ids

theorem find?_filter_mem {α : Type} (key : α → AssetId) (xs : List α) (h : id ∈ ids) :
    (xs.filter (key · ∈ ids)).find? (key · == id) = xs.find? (key · == id) := by
  rw [List.find?_filter]
  congr 1
  funext x
  by_cases hx : key x = id
  · simp [hx, h]
  · simp [hx]

theorem appendNew_ids (known found : List Asset) :
    (appendNew known [] found).map Asset.id = addIds (known.map Asset.id) (found.map Asset.id) := by
  induction found generalizing known with
  | nil => rfl
  | cons asset rest ih =>
    rw [List.map_cons, addIds_cons, appendNew]
    have hknown : known.any (·.id == asset.id) = true ↔ asset.id ∈ known.map Asset.id := by simp
    unfold addId
    by_cases h : asset.id ∈ known.map Asset.id
    · simp only [hknown.mpr h, Bool.or_true, if_true, if_pos h]
      exact ih known
    · have hany : known.any (·.id == asset.id) = false := by simpa [h] using hknown
      simp only [hany, List.contains_nil, Bool.or_false, Bool.false_eq_true, if_false, if_neg h]
      rw [ih, List.map_append, List.map_singleton]

theorem subset_appendNew (known : List Asset) (exclude : List AssetId) (found : List Asset) :
    known ⊆ appendNew known exclude found := by
  induction found generalizing known with
  | nil => exact List.Subset.refl _
  | cons first rest ih =>
    unfold appendNew
    split
    · exact ih known
    · exact fun asset hasset => ih _ (List.mem_append_left _ hasset)

theorem new_of_mem_appendNew {known found : List Asset} {exclude : List AssetId} {asset : Asset}
    (h : asset ∈ appendNew known exclude found) (hnew : asset ∉ known) :
    asset ∈ found ∧ asset.id ∉ known.map Asset.id ∧ asset.id ∉ exclude := by
  induction found generalizing known with
  | nil => exact absurd h hnew
  | cons first rest ih =>
    unfold appendNew at h
    split at h
    · obtain ⟨hmem, hrest⟩ := ih h hnew
      exact ⟨List.mem_cons_of_mem _ hmem, hrest⟩
    · rename_i hfirst
      by_cases hlast : asset ∈ known ++ [first]
      · obtain rfl : asset = first := by simpa [hnew] using hlast
        refine ⟨by simp, ?_, ?_⟩
        · intro hid
          apply hfirst
          simpa using Or.inr hid
        · intro hid
          apply hfirst
          simp [hid]
      · obtain ⟨hmem, hknown, hexclude⟩ := ih h hlast
        refine ⟨List.mem_cons_of_mem _ hmem, fun hid => hknown ?_, hexclude⟩
        rw [List.map_append]
        exact List.mem_append_left _ hid

theorem mem_appendNew {known found : List Asset} {exclude : List AssetId} {asset : Asset}
    (h : asset ∈ appendNew known exclude found) : asset ∈ known ∨ asset ∈ found := by
  by_cases hknown : asset ∈ known
  · exact .inl hknown
  · exact .inr (new_of_mem_appendNew h hknown).1

theorem id_mem_appendNew {known found : List Asset} {exclude : List AssetId} {asset : Asset}
    (h : asset ∈ found) (hexclude : asset.id ∉ exclude) :
    asset.id ∈ (appendNew known exclude found).map Asset.id := by
  induction found generalizing known with
  | nil => cases h
  | cons first rest ih =>
    unfold appendNew
    rcases List.mem_cons.mp h with rfl | hrest
    · split
      · rename_i hold
        have hknown : asset.id ∈ known.map Asset.id := by simpa [hexclude] using hold
        exact List.map_subset _ (subset_appendNew _ _ _) hknown
      · exact List.mem_map_of_mem (subset_appendNew _ _ _ (by simp))
    · split
      · exact ih hrest
      · exact ih hrest

end AssetSync
