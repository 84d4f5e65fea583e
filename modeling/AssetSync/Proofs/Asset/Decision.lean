import AssetSync.Proofs.Asset.Answer
import AssetSync.Proofs.Asset.Ids
import Mathlib.Data.List.Forall2

namespace AssetSync

variable {requested answered other : List Asset} {id : AssetId} {entry : Asset}

def FirstEntry (answered : List Asset) (id : AssetId) (entry : Asset) : Prop :=
  ∃ before after, answered = before ++ entry :: after ∧ entry.id = id ∧ id ∉ before.map Asset.id

theorem find?_eq_some_iff_firstEntry :
    answered.find? (·.id == id) = some entry ↔ FirstEntry answered id entry := by
  simp only [List.find?_eq_some_iff_append, FirstEntry, beq_iff_eq]
  constructor
  · rintro ⟨hid, before, after, hsplit, hbefore⟩
    refine ⟨before, after, hsplit, hid, ?_⟩
    simpa using hbefore
  · rintro ⟨before, after, hsplit, hid, hbefore⟩
    refine ⟨hid, before, after, hsplit, ?_⟩
    simpa using hbefore

theorem FirstEntry.iff_eq (h : FirstEntry answered id entry) {later : Asset} :
    FirstEntry answered id later ↔ later = entry := by
  rw [← find?_eq_some_iff_firstEntry, find?_eq_some_iff_firstEntry.mpr h, Option.some_inj, eq_comm]

theorem FirstEntry.answeredState? (h : FirstEntry answered id entry) :
    AssetSync.answeredState? answered id = some entry.state := by
  rw [AssetSync.answeredState?, find?_eq_some_iff_firstEntry.mpr h, Option.map_some]

theorem answeredState?_of_not_mem (h : id ∉ answered.map Asset.id) :
    answeredState? answered id = none := by
  have hfind : answered.find? (·.id == id) = none := by
    apply List.find?_eq_none.mpr
    intro entry hentry hid
    exact h (List.mem_map.mpr ⟨entry, hentry, beq_iff_eq.mp hid⟩)
  rw [answeredState?, hfind, Option.map_none]

theorem exists_firstEntry (h : id ∈ answered.map Asset.id) :
    ∃ entry, FirstEntry answered id entry := by
  cases hfind : answered.find? (·.id == id) with
  | none =>
    obtain ⟨entry, hentry, hid⟩ := List.mem_map.mp h
    exact absurd (beq_iff_eq.mpr hid) (List.find?_eq_none.mp hfind entry hentry)
  | some entry => exact ⟨entry, find?_eq_some_iff_firstEntry.mp hfind⟩

theorem FirstEntry.mem_ids (h : FirstEntry answered id entry) : id ∈ answered.map Asset.id := by
  obtain ⟨before, after, rfl, rfl, -⟩ := h
  simp

structure Asset.Decided (answered : List Asset) (asset result : Asset) : Prop where
  id : result.id = asset.id
  known : result.state ≠ .init
  active : result.state = .active ↔
    ∃ entry, FirstEntry answered asset.id entry ∧ entry.state = .active
  finished : result.state = .finished ↔
    ∃ entry, FirstEntry answered asset.id entry ∧ (entry.state = .finished ∨ entry.state = .init)
  failed : result.state = .failedRequest ↔
    (∃ entry, FirstEntry answered asset.id entry ∧ entry.state = .failedRequest) ∨
      asset.id ∉ answered.map Asset.id
  retryCount : result.retryCount.toNat =
    if result.state = .failedRequest then min (asset.retryCount.toNat + 1) (UInt32.size - 1)
    else asset.retryCount.toNat

theorem Asset.decided_afterAnswer (answered : List Asset) (asset : Asset) :
    asset.Decided answered (asset.afterAnswer (answeredState? answered asset.id)) := by
  have hid := asset.afterAnswer_id (answeredState? answered asset.id)
  have hinit := asset.afterAnswer_state_ne_init (answeredState? answered asset.id)
  have hcount := asset.toNat_retryCount_afterAnswer (answeredState? answered asset.id)
  by_cases hmem : asset.id ∈ answered.map Asset.id
  · obtain ⟨entry, hentry⟩ := exists_firstEntry hmem
    refine ⟨hid, hinit, ?_, ?_, ?_, hcount⟩
    all_goals
      simp only [hentry.answeredState?, hentry.iff_eq, exists_eq_left, hmem, not_true, or_false]
      cases entry.state <;> simp [afterAnswer, activate, finish, fail, withState]
  · have hnone : ∀ entry, ¬ FirstEntry answered asset.id entry :=
      fun entry hentry => hmem hentry.mem_ids
    refine ⟨hid, hinit, ?_, ?_, ?_, hcount⟩
    all_goals
      simp [answeredState?_of_not_mem hmem, hnone, hmem, afterAnswer, fail]

theorem applyAnswer_congr
    (h : ∀ id ∈ requested.map Asset.id, answeredState? other id = answeredState? answered id) :
    applyAnswer requested other = applyAnswer requested answered := by
  apply List.map_congr_left
  intro asset hasset
  rw [h asset.id (List.mem_map_of_mem hasset)]

theorem answeredState?_filter {ids : List AssetId} (h : id ∈ ids) (answered : List Asset) :
    answeredState? (answered.filter (·.id ∈ ids)) id = answeredState? answered id := by
  rw [answeredState?, answeredState?, find?_filter_mem Asset.id answered h]

theorem answeredState?_repeat {before after : List Asset} (h : entry.id ∈ before.map Asset.id) :
    answeredState? (before ++ entry :: after) id = answeredState? (before ++ after) id := by
  rw [answeredState?, answeredState?, List.find?_append, List.find?_append]
  by_cases hid : entry.id = id
  · obtain ⟨first, hfirst⟩ := exists_firstEntry (hid ▸ h)
    rw [find?_eq_some_iff_firstEntry.mpr hfirst, Option.some_or, Option.some_or]
  · rw [List.find?_cons_of_neg (by simpa using hid)]

theorem answeredState?_map (answered : List Asset) (id : AssetId) :
    answeredState? answered id =
      ((answered.map fun entry => (entry.id, entry.state)).find? (·.1 == id)).map Prod.snd := by
  rw [List.find?_map, Option.map_map]
  rfl

theorem firstEntry_of_mem (hnodup : (answered.map Asset.id).Nodup) (h : entry ∈ answered) :
    FirstEntry answered entry.id entry := by
  obtain ⟨before, after, rfl⟩ := List.append_of_mem h
  refine ⟨before, after, rfl, rfl, ?_⟩
  rw [List.map_append, List.map_cons] at hnodup
  intro hbefore
  exact (List.nodup_append.mp hnodup).2.2 _ hbefore _ List.mem_cons_self rfl

theorem answeredState?_perm (h : other.Perm answered) (hnodup : (answered.map Asset.id).Nodup) :
    answeredState? other id = answeredState? answered id := by
  have hids : (other.map Asset.id).Perm (answered.map Asset.id) := h.map Asset.id
  by_cases hid : id ∈ answered.map Asset.id
  · obtain ⟨entry, hentry, rfl⟩ := List.mem_map.mp hid
    have hfirst := firstEntry_of_mem hnodup hentry
    have hfirst' := firstEntry_of_mem (hids.nodup_iff.mpr hnodup) (h.mem_iff.mpr hentry)
    rw [hfirst.answeredState?, hfirst'.answeredState?]
  · have hid' : id ∉ other.map Asset.id := mt hids.mem_iff.mp hid
    rw [answeredState?_of_not_mem hid, answeredState?_of_not_mem hid']

theorem applyAnswer_decided (requested answered : List Asset) :
    List.Forall₂ (Asset.Decided answered) requested (applyAnswer requested answered) ∧
      (∀ other, other.filter (·.id ∈ requested.map Asset.id) =
          answered.filter (·.id ∈ requested.map Asset.id) →
        applyAnswer requested other = applyAnswer requested answered) ∧
      (∀ before entry after, answered = before ++ after → entry.id ∈ before.map Asset.id →
        applyAnswer requested (before ++ entry :: after) = applyAnswer requested answered) ∧
      (∀ other, (other.map fun entry => (entry.id, entry.state)) =
          (answered.map fun entry => (entry.id, entry.state)) →
        applyAnswer requested other = applyAnswer requested answered) ∧
      (∀ other, other.Perm answered → (answered.map Asset.id).Nodup →
        applyAnswer requested other = applyAnswer requested answered) ∧
      applyAnswer requested [] = failAll requested := by
  refine ⟨?_, ?_, ?_, ?_, ?_, rfl⟩
  · apply List.forall₂_map_right_iff.mpr
    apply List.forall₂_same.mpr
    intro asset _
    exact asset.decided_afterAnswer answered
  · intro other hother
    apply applyAnswer_congr
    intro id hid
    rw [← answeredState?_filter hid other, hother, answeredState?_filter hid]
  · rintro before entry after rfl hrepeated
    apply applyAnswer_congr
    intro id _
    exact answeredState?_repeat hrepeated
  · intro other hother
    apply applyAnswer_congr
    intro id _
    rw [answeredState?_map, hother, ← answeredState?_map]
  · intro other hperm hnodup
    apply applyAnswer_congr
    intro id _
    exact answeredState?_perm hperm hnodup

theorem applyAnswer_decided_contradicted :
    let most : UInt32 := .ofNat (UInt32.size - 1)
    let requested : List Asset := [⟨"a", .init, 0⟩, ⟨"b", .failedRequest, most⟩, ⟨"c", .active, 3⟩]
    let answered : List Asset := [⟨"c", .init, 0⟩, ⟨"a", .active, 0⟩]
    let result : List Asset := [⟨"a", .active, 0⟩, ⟨"b", .failedRequest, most⟩, ⟨"c", .finished, 3⟩]
    applyAnswer requested answered = result ∧
      applyAnswer requested (⟨"d", .active, 1⟩ :: answered) = result ∧
      applyAnswer requested (answered ++ [⟨"c", .failedRequest, 0⟩]) = result ∧
      applyAnswer requested [⟨"c", .init, 8⟩, ⟨"a", .active, 9⟩] = result ∧
      applyAnswer requested answered.reverse = result := by
  intro most requested answered result
  have hresult : applyAnswer requested answered = result := by decide
  obtain ⟨-, hforeign, hrepeat, hcounts, hperm, -⟩ := applyAnswer_decided requested answered
  refine ⟨hresult, ?_, ?_, ?_, ?_⟩
  · exact (hforeign _ (by decide)).trans hresult
  · exact (hrepeat answered _ [] (List.append_nil _).symm (by decide)).trans hresult
  · exact (hcounts _ rfl).trans hresult
  · exact (hperm _ (List.reverse_perm _) (by decide)).trans hresult

end AssetSync
