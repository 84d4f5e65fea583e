import AssetSync.Proofs.Cycle.Requests
import AssetSync.Proofs.Store.Stored

namespace AssetSync

def Event.Lists (Listed : Asset → Prop) : Event → Prop
  | discover _ _ (some (.ok page)) => ∀ asset ∈ page.batch.assets, Listed asset
  | _ => True

namespace Cycle

variable {settings : SyncSettings} {l : Ledger} {calls : List Event} {plan : Plan}
  {origin : Cursor} {page : Option (Except SourceError Page)} {Kept : Asset → Prop} {asset : Asset}

namespace Planned

theorem assets_eq (h : Planned settings l calls plan origin page) :
    plan.assets = appendNew (budgeted settings (l.openRecords settings.key)).fetchable
      ((budgeted settings (l.openRecords settings.key)).exhausted.map Asset.id)
      (discovery origin page).1 :=
  congrArg Plan.assets h.eq

theorem nodup (h : Planned settings l calls plan origin page) :
    (plan.assets.map Asset.id).Nodup := by
  rw [h.assets_eq]
  exact appendNew_nodup _ _ (budgeted_nodup settings _)

theorem fetches (h : Planned settings l calls plan origin page)
    (stores : l.Stores settings.key Kept) (has : l.Has settings.key asset)
    (hopen : asset.state.isOpen) (hwithin : asset.exceeds settings.maxRetries = false) :
    asset ∈ plan.assets := by
  rw [h.assets_eq]
  exact subset_appendNew _ _ _ (stores.mem_fetchable.mpr ⟨has, hopen, hwithin⟩)

theorem mem_cases (h : Planned settings l calls plan origin page)
    (stores : l.Stores settings.key Kept) (hasset : asset ∈ plan.assets) :
    (l.Has settings.key asset ∧ asset.state.isOpen ∧ asset.exceeds settings.maxRetries = false) ∨
      (asset ∈ (discovery origin page).1 ∧ ∀ other, l.Has settings.key other →
        other.state.isOpen → other.id ≠ asset.id) := by
  rw [h.assets_eq] at hasset
  by_cases hknown : asset ∈ (budgeted settings (l.openRecords settings.key)).fetchable
  · exact .inl (stores.mem_fetchable.mp hknown)
  · obtain ⟨hlisted, hfetchable, hexhausted⟩ := new_of_mem_appendNew hasset hknown
    refine .inr ⟨hlisted, fun other has hopen hid => ?_⟩
    cases hover : other.exceeds settings.maxRetries with
    | false =>
      have hmem := stores.mem_fetchable.mpr ⟨has, hopen, hover⟩
      exact hfetchable (List.mem_map.mpr ⟨other, hmem, hid⟩)
    | true =>
      have hmem := stores.mem_exhausted.mpr ⟨has, hopen, hover⟩
      exact hexhausted (List.mem_map.mpr ⟨other, hmem, hid⟩)

theorem not_fetches (h : Planned settings l calls plan origin page)
    (stores : l.Stores settings.key Kept) (has : l.Has settings.key asset)
    (hopen : asset.state.isOpen) (hover : asset.exceeds settings.maxRetries = true) :
    asset.id ∉ plan.assets.map Asset.id := by
  intro hid
  obtain ⟨other, hother, he⟩ := List.mem_map.mp hid
  rcases h.mem_cases stores hother with ⟨has', -, hwithin⟩ | ⟨-, hnew⟩
  · obtain rfl := stores.eq_of_id has has' he.symm
    rw [hover] at hwithin
    cases hwithin
  · exact hnew asset has hopen he.symm

theorem covers (h : Planned settings l calls plan origin page)
    (stores : l.Stores settings.key Kept) (hlisted : asset ∈ (discovery origin page).1) :
    asset.id ∈ l.ids settings.key ∨ asset.id ∈ plan.assets.map Asset.id := by
  rw [h.assets_eq]
  by_cases hover : asset.id ∈
      (budgeted settings (l.openRecords settings.key)).exhausted.map Asset.id
  · obtain ⟨stored, hstored, hid⟩ := List.mem_map.mp hover
    exact .inl (hid ▸ (stores.mem_exhausted.mp hstored).1.id_mem)
  · exact .inr (id_mem_appendNew hlisted hover)

theorem listed {Listed : Asset → Prop} (h : Planned settings l calls plan origin page)
    (lists : ∀ call ∈ calls, call.Lists Listed) (hasset : asset ∈ (discovery origin page).1) :
    Listed asset := by
  obtain ⟨size, hcall⟩ := mem_filterMap_page?.mp (h.pages ▸ List.mem_singleton.mpr rfl)
  have hlists := lists _ hcall
  rcases page with _ | _ | page
  · cases hasset
  · cases hasset
  · exact hlists asset hasset

end Planned

theorem Pursues.mem_of_requested {ended : CycleEnd} (h : Pursues settings plan calls ended)
    {request : Batch} {answer : Fetched} (hcall : .fetch request answer ∈ calls) :
    request.assets ⊆ plan.assets := by
  have hmem : request ∈ calls.filterMap Event.request? :=
    List.mem_filterMap.mpr ⟨_, hcall, rfl⟩
  obtain ⟨chunk, hchunk, rfl⟩ := List.mem_map.mp (h.requests.subset hmem)
  intro asset hasset
  rw [← chunks_flatten settings.batchSize settings.batchSize_pos plan.assets]
  exact List.mem_flatten.mpr ⟨chunk, hchunk, hasset⟩

end Cycle

end AssetSync
