import AssetSync.Asset.Answer

namespace AssetSync

theorem toNat_saturatingSucc (n : UInt32) :
    (saturatingSucc n).toNat = min (n.toNat + 1) (UInt32.size - 1) := by
  have hn := n.toNat_lt_size
  have hmax : (UInt32.ofNat (UInt32.size - 1)).toNat = UInt32.size - 1 := by decide
  unfold saturatingSucc
  by_cases h : n = UInt32.ofNat (UInt32.size - 1)
  · rw [if_pos h, h, hmax]
    omega
  · have hlt : n.toNat ≠ UInt32.size - 1 := by
      intro he
      apply h
      rw [← UInt32.toNat_inj, hmax, he]
    rw [if_neg h, UInt32.toNat_add, UInt32.toNat_one, Nat.mod_eq_of_lt]
    · omega
    · simp only [UInt32.size] at hn hlt
      omega

namespace Asset

variable {maxRetries : UInt32}

theorem afterAnswer_id (asset : Asset) (answered : Option AssetState) :
    (asset.afterAnswer answered).id = asset.id := by
  unfold afterAnswer
  split <;> rfl

theorem afterAnswer_state_ne_init (asset : Asset) (answered : Option AssetState) :
    (asset.afterAnswer answered).state ≠ .init := by
  unfold afterAnswer
  split <;> simp [activate, finish, fail, withState]

theorem toNat_retryCount_afterAnswer (asset : Asset) (answered : Option AssetState) :
    (asset.afterAnswer answered).retryCount.toNat =
      if (asset.afterAnswer answered).state = .failedRequest then
        min (asset.retryCount.toNat + 1) (UInt32.size - 1)
      else asset.retryCount.toNat := by
  unfold afterAnswer
  split <;> simp [activate, finish, fail, withState, toNat_saturatingSucc]

def Within (asset : Asset) (maxRetries : UInt32) : Prop :=
  match asset.state with
  | .init => False
  | .active | .finished => asset.retryCount.toNat ≤ maxRetries.toNat
  | .failedRequest => asset.retryCount.toNat ≤ maxRetries.toNat + 1

theorem exceeds_iff {asset : Asset} :
    asset.exceeds maxRetries = true ↔ maxRetries.toNat < asset.retryCount.toNat := by
  simp [exceeds, UInt32.lt_iff_toNat_lt]

theorem within_afterAnswer {asset : Asset} (answered : Option AssetState)
    (h : asset.retryCount.toNat ≤ maxRetries.toNat) :
    (asset.afterAnswer answered).Within maxRetries := by
  have hinit := asset.afterAnswer_state_ne_init answered
  have hcount := asset.toNat_retryCount_afterAnswer answered
  unfold Within
  cases hstate : (asset.afterAnswer answered).state with
  | init => exact hinit hstate
  | active =>
    rw [hstate, if_neg (by simp)] at hcount
    exact hcount ▸ h
  | finished =>
    rw [hstate, if_neg (by simp)] at hcount
    exact hcount ▸ h
  | failedRequest =>
    rw [hstate, if_pos rfl] at hcount
    simp only
    omega

theorem Within.failedRequest {asset : Asset} (h : asset.Within maxRetries)
    (hexceeds : asset.exceeds maxRetries) : asset.state = .failedRequest := by
  have hlt := exceeds_iff.mp hexceeds
  unfold Within at h
  cases hstate : asset.state with
  | failedRequest => rfl
  | init => simp [hstate] at h
  | active =>
    simp only [hstate] at h
    omega
  | finished =>
    simp only [hstate] at h
    omega

end Asset

end AssetSync
