import AssetSync.Proofs.Run.Budget

namespace AssetSync

open AssetSync.Cycle

variable {σ τ : Type} {key : SyncerKey} {ledger : τ → Ledger} {maxRetries : UInt32}

def requestedIds (calls : List Event) : List AssetId :=
  (calls.filterMap Event.request?).flatMap Batch.ids

theorem flatMap_pending_chunks {size : Nat} (positive : 0 < size) (assets : List Asset) :
    ((chunks size positive assets).map Batch.pending).flatMap Batch.ids =
      assets.map Asset.id := by
  calc ((chunks size positive assets).map Batch.pending).flatMap Batch.ids
      = ((chunks size positive assets).map (List.map Asset.id)).flatten := by
        rw [List.flatMap_def, List.map_map]
        rfl
    _ = (chunks size positive assets).flatten.map Asset.id := List.map_flatten.symm
    _ = assets.map Asset.id := by rw [chunks_flatten]

namespace Cycle.Pursues

variable {settings : SyncSettings} {plan : Plan} {calls : List Event} {ended : CycleEnd}

theorem requestedIds_prefix_ids (h : Pursues settings plan calls ended) :
    requestedIds calls <+: plan.assets.map Asset.id := by
  obtain ⟨rest, hrest⟩ := h.requests
  refine ⟨rest.flatMap Batch.ids, ?_⟩
  rw [requestedIds, ← List.flatMap_append, hrest, flatMap_pending_chunks]

theorem requestedIds_eq (h : Pursues settings plan calls ended) (hcut : ¬ ended.CutShort) :
    requestedIds calls = plan.assets.map Asset.id := by
  rw [requestedIds, h.complete hcut, flatMap_pending_chunks]

end Cycle.Pursues

theorem Chain.ids_subset {calls : List Event} {l l' : Ledger} (h : Chain Event.Effect calls l l')
    (hkeys : ∀ call ∈ calls, ∀ other, call.key? = some other → other = key) :
    l.ids key ⊆ l'.ids key := by
  intro id hid
  refine h.invariant (I := (id ∈ ·.ids key)) hid fun call hcall l₁ l₂ hmem heffect => ?_
  rcases heffect.states_cases with hstates | ⟨other, states, answer, stored, rfl, -, rfl⟩
  · have hrows : l₂.rows key = l₁.rows key := congrArg (List.filter _) hstates
    rwa [Ledger.ids, hrows]
  · obtain rfl := hkeys _ hcall other rfl
    rw [Ledger.ids_putStates]
    exact mem_addIds.mpr (.inl hmem)

theorem retained_invariant (Listed : Asset → Prop) (id : AssetId) :
    RowInvariant (σ := σ) key ledger (SyncSetup.Meets maxRetries ledger Listed)
      fun l => id ∈ l.ids key where
  faithful setup t meets := meets.faithful
  rows l l' hrows hid := by rwa [Ledger.ids, hrows]
  saves := by
    intro setup t _ _ _ states answer _ l stored hid _
    rw [Ledger.ids_putStates]
    exact mem_addIds.mpr (.inl hid)

theorem named_invariant :
    RowInvariant (σ := σ) key ledger (SyncSetup.Meets maxRetries ledger (·.id ≠ ""))
      fun l => l.Stores key fun _ => True :=
  stores_invariant (fun _ _ _ _ => trivial) fun _ _ hid => ⟨hid, trivial⟩

theorem SyncSetup.stores_page {setup : SyncSetup σ τ} {t : τ} {Kept : Asset → Prop}
    (laws : setup.service.Faithful ledger) (stores : (ledger t).Stores setup.settings.key Kept)
    (committed : (setup.cycle t).ended.isCommitted) {origin : Cursor} {size : Nat} {page : Page}
    (hpage : .discover origin size (some (.ok page)) ∈ (setup.cycle t).trace) {asset : Asset}
    (hasset : asset ∈ page.batch.assets) :
    asset.id ∈ (ledger (setup.cycle t).store).ids setup.settings.key := by
  have heffect := setup.cycle_effect laws t
  have hkeys := setup.cycle_keys t
  rcases setup.cycle_planned laws t with ⟨-, huncommitted⟩ | ⟨plan, start, first, planned, pursues⟩
  · rw [huncommitted] at committed
    cases committed
  have hfirst : (origin, some (.ok page)) ∈ (setup.cycle t).trace.filterMap page? :=
    mem_filterMap_page?.mpr ⟨size, hpage⟩
  rw [planned.pages, List.mem_singleton] at hfirst
  cases hfirst
  rcases planned.covers stores hasset with hold | hfetched
  · exact heffect.ids_subset hkeys hold
  · have hne : plan.assets ≠ [] := by
      intro hnil
      rw [hnil] at hfetched
      cases hfetched
    obtain ⟨states, hsave⟩ := pursues.stores committed hne
    obtain ⟨before, after, l₁, l₂, htrace, -, ⟨stored, -, hall, rfl⟩, hafter⟩ := heffect.split hsave
    obtain rfl := hall rfl
    refine hafter.ids_subset (fun call hcall => hkeys call ?_) ?_
    · rw [htrace]
      exact List.mem_append_right _ (List.mem_cons_of_mem _ hcall)
    · rw [Ledger.ids_putStates, (pursues.saves _ _ _ hsave).2.1]
      exact mem_addIds.mpr (.inr hfetched)

/-- A cycle that has loaded the open assets asks for one page. The ids of all open rows within the
budget are in its fetch set, and it requests the ids of the fetch set once and in order: all of them,
or the first ones if it is cut short. -/
def SyncSetup.Requests (ledger : τ → Ledger) (setup : SyncSetup σ τ) (t : τ) : Prop :=
  ∀ records, .loadActive setup.settings.key (.ok records) ∈ (setup.cycle t).trace →
    ∃ origin label page, (setup.cycle t).trace.filterMap page? = [(origin, page)] ∧
      let fetched :=
        (plan (budgeted setup.settings records) origin label page).assets.map Asset.id
      (∀ row ∈ (ledger t).rows setup.settings.key, row.state ≠ AssetState.finished.name →
        row.retryCount.toInt ≤ setup.settings.maxRetries.toNat → row.assetId ∈ fetched) ∧
      requestedIds (setup.cycle t).trace <+: fetched ∧
      ∀ id ∈ fetched, (requestedIds (setup.cycle t).trace).count id ≤ 1 ∧
        (¬ (setup.cycle t).ended.CutShort → (requestedIds (setup.cycle t).trace).count id = 1)

theorem SyncSetup.requests_open {setup : SyncSetup σ τ} {t : τ} {Kept : Asset → Prop}
    (laws : setup.service.Faithful ledger)
    (stores : (ledger t).Stores setup.settings.key Kept) : setup.Requests ledger t := by
  intro records hload
  rcases setup.cycle_planned laws t with ⟨idle, -⟩ | ⟨plan, origin, page, planned, pursues⟩
  · exact absurd hload (idle.unloaded _ records)
  obtain rfl := (planned.loads records).mp hload
  have hfirst := pursues.requestedIds_prefix_ids
  have hnodup := planned.nodup
  refine ⟨origin, plan.label, page, planned.pages, ?_⟩
  rw [← planned.eq]
  refine ⟨fun row hrow hopen hcount => ?_, hfirst, fun id hid => ⟨?_, fun hcut => ?_⟩⟩
  · obtain ⟨asset, -, -, rfl⟩ := stores.assets row hrow
    have hstate : asset.state.isOpen := by
      rw [← AssetState.name_bne_finished]
      simpa [Embedded.stateRow] using hopen
    have hwithin : asset.exceeds setup.settings.maxRetries = false := by
      simp only [Embedded.stateRow, toInt_ofNat_toNat] at hcount
      rw [Bool.eq_false_iff, ne_eq, Asset.exceeds_iff]
      omega
    exact List.mem_map_of_mem (planned.fetches stores hrow hstate hwithin)
  · exact List.nodup_iff_count_le_one.mp (hnodup.sublist hfirst.sublist) id
  · rw [pursues.requestedIds_eq hcut]
    exact List.count_eq_one_of_mem hnodup hid

theorem SyncRun.assets_retained {history : List (CycleRun σ τ)} {t₀ t : τ}
    (run : SyncRun key ledger (SyncSetup.Meets maxRetries ledger (·.id ≠ "")) t₀ history t)
    (hempty : (ledger t₀).rows key = []) :
    (∀ cycle ∈ history, cycle.ended.isCommitted →
      ∀ origin size page, .discover origin size (some (.ok page)) ∈ cycle.trace →
        ∀ asset ∈ page.batch.assets, asset.id ∈ (ledger t).ids key) ∧
    (∀ t', SyncReach (σ := σ) key ledger (SyncSetup.Meets maxRetries ledger (·.id ≠ "")) t t' →
      (ledger t).ids key ⊆ (ledger t').ids key) ∧
    ∀ setup : SyncSetup σ τ, setup.settings.key = key →
      setup.Meets maxRetries ledger (·.id ≠ "") t → setup.Requests ledger t := by
  have hstart : (ledger t₀).Stores key fun _ => True := Ledger.stores_of_empty hempty
  refine ⟨fun cycle hcycle committed origin size page hpage asset hasset => ?_,
    fun t' reach id hid => (retained_invariant _ id).reach reach hid, ?_⟩
  · obtain ⟨before, after, rfl⟩ := List.append_of_mem hcycle
    obtain ⟨setup, t₁, hbefore, rfl, meets, rfl, hafter⟩ := run.split rfl
    have stores := named_invariant.run hbefore hstart
    apply (retained_invariant _ asset.id).run hafter
    exact setup.stores_page meets.faithful stores committed hpage hasset
  · rintro setup rfl meets
    exact setup.requests_open meets.faithful (named_invariant.run run hstart)

theorem assets_retained_after_failure :
    let settings : SyncSettings := ⟨⟨"jobs", "local"⟩, 1, 1, by decide⟩
    let source : Source Unit := {
      name := "jobs"
      initCursor := fun s => (.ok .null, s)
      firstPage? := fun _ _ s =>
        (some (.ok ⟨.pending [.discovered "a", .discovered "b"], .null⟩), s)
      fetch := fun request s =>
        if "a" ∈ request.ids then (.answer ⟨none, [⟨"a", .finished, 0⟩]⟩, s)
        else (.failed ⟨.data, "DOWN", "no answer"⟩, s) }
    let setup : SyncSetup Unit Embedded := ⟨settings, source, (), Embedded.service "now"⟩
    let first := setup.cycle .empty
    let second := setup.cycle first.store
    ["a", "b"] ⊆ first.store.tables.ledger.ids settings.key ∧
      first.store.tables.ledger.ids settings.key ⊆ second.store.tables.ledger.ids settings.key ∧
      (requestedIds second.trace).count "b" = 1 := by
  intro settings source setup first second
  have meets : ∀ t, setup.Meets 1 (fun db => db.tables.ledger) (·.id ≠ "") t := by
    refine fun t => ⟨rfl, (Embedded.service_atomic "now").toFaithful,
      SyncSetup.lists_of_source t fun _ _ _ page hpage asset hasset => ?_⟩
    obtain rfl := Except.ok.inj (Option.some.inj hpage)
    rcases List.mem_pair.mp hasset with rfl | rfl
    · decide
    · decide
  have hfirst : SyncRun settings.key (fun db => db.tables.ledger)
      (SyncSetup.Meets 1 (fun db => db.tables.ledger) (·.id ≠ "")) Embedded.empty [first]
      first.store :=
    .cycle .start rfl (meets _)
  have hsecond : SyncReach (σ := Unit) settings.key (fun db => db.tables.ledger)
      (SyncSetup.Meets 1 (fun db => db.tables.ledger) (·.id ≠ "")) first.store second.store :=
    .between (.cycle .start rfl (meets _))
  have committed : first.ended.isCommitted := by decide +kernel
  have hpage : (first.trace.filterMap page?).any
      (·.2.any (·.toOption.any (·.batch.ids == ["a", "b"]))) := by
    decide +kernel
  have hrow : Embedded.stateRow settings.key ⟨"b", .failedRequest, 1⟩ ∈
      first.store.tables.ledger.rows settings.key := by
    decide +kernel
  have hsecondCommitted : second.ended.isCommitted := by decide +kernel
  obtain ⟨hdiscovered, hkept, hrequests⟩ := hfirst.assets_retained rfl
  refine ⟨?_, hkept _ hsecond, ?_⟩
  · obtain ⟨⟨origin, page⟩, hfound, hlists⟩ := List.any_eq_true.mp hpage
    obtain ⟨size, hcall⟩ := mem_filterMap_page?.mp hfound
    rcases page with _ | _ | page
    · cases hlists
    · cases hlists
    · obtain hids : page.batch.ids = ["a", "b"] := beq_iff_eq.mp hlists
      rw [← hids]
      rintro id hid
      obtain ⟨asset, hasset, rfl⟩ := List.mem_map.mp hid
      exact hdiscovered first (by simp) committed _ _ page hcall asset hasset
  · have hload : .loadActive settings.key
        (.ok (first.store.tables.ledger.openRecords settings.key)) ∈ second.trace := by
      rcases setup.cycle_planned (meets first.store).faithful first.store with
        ⟨-, huncommitted⟩ | ⟨plan, origin, page, planned, -⟩
      · exact absurd hsecondCommitted (Bool.eq_false_iff.mp huncommitted)
      · exact (planned.loads _).mpr rfl
    obtain ⟨_, _, _, -, hopen, -, hrequested⟩ := hrequests setup rfl (meets _) _ hload
    apply (hrequested "b" (hopen _ hrow (by decide) (by decide))).2
    exact CycleEnd.not_cutShort hsecondCommitted

end AssetSync
