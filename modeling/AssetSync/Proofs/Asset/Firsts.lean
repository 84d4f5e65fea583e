import AssetSync.Asset.Selection

namespace AssetSync

def firstById : List Asset → List Asset
  | [] => []
  | asset :: rest => asset :: (firstById rest).filter (·.id != asset.id)

theorem firstById_of_nodup {found : List Asset} (h : (found.map Asset.id).Nodup) :
    firstById found = found := by
  induction found with
  | nil => rfl
  | cons asset rest ih =>
    obtain ⟨hnew, hrest⟩ := List.nodup_cons.mp h
    rw [firstById, ih hrest, List.filter_eq_self.mpr]
    intro other hother
    have hne : other.id ≠ asset.id := by
      rintro he
      exact hnew (he ▸ List.mem_map_of_mem hother)
    simpa using hne

def readable (records : List Json) : List Asset :=
  records.filterMap fun record => (Asset.ofRecord record).toOption

def unreadableCount (records : List Json) : Nat :=
  records.countP fun record => !(Asset.ofRecord record).isOk

def Asset.isNew (known : List Asset) (exclude : List AssetId) (asset : Asset) : Bool :=
  !(exclude.contains asset.id || known.any (·.id == asset.id))

theorem appendNew_eq (known : List Asset) (exclude : List AssetId) (found : List Asset) :
    appendNew known exclude found =
      known ++ (firstById found).filter (Asset.isNew known exclude) := by
  induction found generalizing known with
  | nil => simp [appendNew, firstById]
  | cons asset rest ih =>
    rw [appendNew, firstById]
    by_cases h : (exclude.contains asset.id || known.any (·.id == asset.id)) = true
    · have hold : asset.isNew known exclude = false := by
        rw [Asset.isNew, h]
        rfl
      rw [if_pos h, ih, List.filter_cons_of_neg (by simp [hold]), List.filter_filter]
      congr 1
      apply List.filter_congr
      intro other _
      by_cases hid : other.id = asset.id
      · have hother : other.isNew known exclude = false := by
          rw [← hold, Asset.isNew, hid]
          rfl
        rw [hother, Bool.false_and]
      · simp [hid]
    · have hnew : asset.isNew known exclude = true := by
        rw [Asset.isNew, eq_false_of_ne_true h]
        rfl
      rw [if_neg h, ih, List.filter_cons_of_pos hnew, List.filter_filter, List.append_assoc,
        List.singleton_append]
      congr 2
      apply List.filter_congr
      intro other _
      have hlast : (known ++ [asset]).any (·.id == other.id) =
          (known.any (·.id == other.id) || asset.id == other.id) := by
        simp
      rw [Asset.isNew, Asset.isNew, hlast, ← Bool.or_assoc, Bool.not_or, bne, Bool.beq_comm]

namespace OpenAssets

theorem foldl_add (records : List Json) (found : OpenAssets) :
    records.foldl add found = ⟨appendNew found.assets [] (readable records),
      found.skipped + unreadableCount records⟩ := by
  induction records generalizing found with
  | nil => rfl
  | cons record rest ih =>
    rw [List.foldl_cons, ih, add]
    cases hread : Asset.ofRecord record with
    | error reason =>
      have hreadable : readable (record :: rest) = readable rest := by
        simp [readable, hread, Except.toOption]
      have hcount : unreadableCount (record :: rest) = unreadableCount rest + 1 := by
        simp [unreadableCount, hread, Except.isOk, Except.toBool]
      rw [hreadable, hcount]
      congr 1
      simp only
      omega
    | ok asset =>
      have hreadable : readable (record :: rest) = asset :: readable rest := by
        simp [readable, hread, Except.toOption]
      have hcount : unreadableCount (record :: rest) = unreadableCount rest := by
        simp [unreadableCount, hread, Except.isOk, Except.toBool]
      rw [hreadable, hcount, appendNew, List.contains_nil, Bool.false_or]
      simp only
      split
      · rfl
      · rfl

theorem ofRecords_eq (records : List Json) :
    ofRecords records = ⟨firstById (readable records), unreadableCount records⟩ := by
  rw [ofRecords, foldl_add, appendNew_eq]
  simp [Asset.isNew]

end OpenAssets

end AssetSync
