import AssetSync.Asset.Selection
import AssetSync.Store.Embedded

namespace AssetSync

open Json

theorem toInt_ofNat_toNat (n : UInt32) : (Int64.ofNat n.toNat).toInt = n.toNat :=
  Int64.toInt_ofNat_of_lt (by have := n.toNat_lt; omega)

theorem ofInt64_ofNat_toNat (n : UInt32) :
    (Integer.ofInt64 (Int64.ofNat n.toNat)).toNat? = some n.toNat := by
  simp only [Integer.ofInt64, Integer.toNat?, toInt_ofNat_toNat, Int.natCast_nonneg, if_true,
    Int.toNat_natCast]

theorem looseRecord_eq (id : AssetId) (state : String) (count : Integer) :
    looseRecord id state count = .obj [("asset_uri", .str id),
      ("data", .obj [("retry_count", .num (.integer count))]), ("state", .str state)] := by
  have hstate : ¬ "state" < "asset_uri" := by decide
  have hdata : ¬ "data" < "asset_uri" ∧ "data" < "state" := by decide
  simp [looseRecord, ofFields, insertField, hstate, hdata]

theorem Asset.ofRecord_looseState (key : SyncerKey) {asset : Asset} (h : asset.id ≠ "") :
    Asset.ofRecord (Embedded.looseState (Embedded.stateRow key asset)) = .ok asset := by
  have hid : AssetId.ofJson? (.str asset.id) = some asset.id := by simp [AssetId.ofJson?, h]
  have hcount := asset.retryCount.toNat_lt_size
  simp [Embedded.looseState, Embedded.stateRow, looseRecord_eq, ofRecord, field?, List.lookup_cons,
    hid, AssetState.ofName?_name, retryCountOfJson?, ofInt64_ofNat_toNat, hcount]

namespace OpenAssets

variable {records : List Json} {record : Json} {found : OpenAssets} {asset : Asset}

theorem mem_add (h : asset ∈ (found.add record).assets) :
    asset ∈ found.assets ∨ Asset.ofRecord record = .ok asset := by
  unfold add at h
  split at h
  · exact .inl h
  · rename_i new hnew
    split at h
    · exact .inl h
    · rcases List.mem_append.mp h with hold | hlast
      · exact .inl hold
      · exact .inr (List.mem_singleton.mp hlast ▸ hnew)

theorem mem_foldl_add (h : asset ∈ (records.foldl add found).assets) :
    asset ∈ found.assets ∨ ∃ record ∈ records, Asset.ofRecord record = .ok asset := by
  induction records generalizing found with
  | nil => exact .inl h
  | cons record rest ih =>
    rcases ih h with hadd | ⟨other, hother, hasset⟩
    · exact (mem_add hadd).imp_right fun hasset => ⟨record, by simp, hasset⟩
    · exact .inr ⟨other, by simp [hother], hasset⟩

theorem mem_ofRecords (h : asset ∈ (ofRecords records).assets) :
    ∃ record ∈ records, Asset.ofRecord record = .ok asset :=
  (mem_foldl_add h).resolve_left (by simp)

end OpenAssets

theorem Number.decimalChars_ne_nil (d : Binary64.Decimal) : decimalChars d ≠ [] := by
  unfold decimalChars
  simp only
  split
  · simp
  split
  · simp
  split
  · simp
  · simp

theorem Number.chars_ne_nil (n : Number) : n.chars ≠ [] := by
  cases n with
  | integer i =>
    simp only [chars, integerChars]
    split
    · simp
    · exact Nat.toDigits_ne_nil
  | real x =>
    simp only [chars, realChars]
    split
    · simp
    · exact decimalChars_ne_nil _

theorem AssetId.ofJson?_ne_empty {json : Json} {id : AssetId} (h : ofJson? json = some id) :
    id ≠ "" := by
  unfold ofJson? at h
  split at h
  · split at h
    · cases h
    · rename_i hempty
      cases h
      exact fun he => hempty (by simp [he])
  · cases h
    rename_i n
    intro he
    have := congrArg String.toList he
    rw [String.toList_ofList] at this
    exact n.chars_ne_nil this
  · cases h

end AssetSync
