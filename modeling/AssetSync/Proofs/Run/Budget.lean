import AssetSync.Proofs.Cycle.Selection
import AssetSync.Proofs.Run.Basic
import AssetSync.Proofs.Store.Atomic

namespace AssetSync

open AssetSync.Cycle

variable {σ τ : Type} {key : SyncerKey} {ledger : τ → Ledger} {maxRetries : UInt32}
  {Listed Kept : Asset → Prop}

structure SyncSetup.Meets (maxRetries : UInt32) (ledger : τ → Ledger) (Listed : Asset → Prop)
    (setup : SyncSetup σ τ) (t : τ) : Prop where
  retries : setup.settings.maxRetries = maxRetries
  faithful : setup.service.Faithful ledger
  lists : ∀ call ∈ (setup.cycle t).trace, call.Lists Listed

theorem SyncSetup.lists_of_source {setup : SyncSetup σ τ} (t : τ)
    (h : ∀ cursor size s page, (setup.source.firstPage? cursor size s).1 = some (.ok page) →
      ∀ asset ∈ page.batch.assets, Listed asset) :
    ∀ call ∈ (setup.cycle t).trace, call.Lists Listed := by
  refine (setup.cycle_performed t).forall_mem (I := fun _ => True) trivial ?_
  rintro call x y - hcall
  refine ⟨trivial, ?_⟩
  cases hcall with
  | tracked hcall => cases hcall <;> trivial
  | asked hcall =>
    cases hcall with
    | @discover _ _ answer _ _ hpage =>
      rcases answer with _ | _ | page
      · trivial
      · trivial
      · exact h _ _ _ page (congrArg Prod.fst hpage)
    | _ => trivial
  | metric => trivial

theorem stores_invariant
    (hstored : ∀ asset answer, Kept asset → asset.exceeds maxRetries = false →
      Kept (asset.afterAnswer answer))
    (hlisted : ∀ asset answer, Listed asset → asset.id ≠ "" ∧ Kept (asset.afterAnswer answer)) :
    RowInvariant (σ := σ) key ledger (SyncSetup.Meets maxRetries ledger Listed)
      fun l => l.Stores key Kept where
  faithful setup t meets := meets.faithful
  rows l l' hrows stores := stores.of_rows hrows
  saves := by
    rintro setup t rfl meets hstart states answer hcall l stored stores hstored'
    refine stores.putStates fun state hstate => ?_
    rcases setup.cycle_planned meets.faithful t with ⟨idle, -⟩ | ⟨plan, origin, page, planned, pursues⟩
    · exact absurd trivial (idle.quiet _ hcall)
    · obtain ⟨-, -, hanswers⟩ := pursues.saves _ _ _ hcall
      obtain ⟨asset, hasset, answer, rfl⟩ := hanswers state (hstored'.subset hstate)
      rw [asset.afterAnswer_id]
      rcases planned.mem_cases hstart hasset with ⟨has, -, hwithin⟩ | ⟨hnew, -⟩
      · rw [meets.retries] at hwithin
        exact ⟨(hstart.kept has).1, hstored asset answer (hstart.kept has).2 hwithin⟩
      · exact hlisted asset answer (planned.listed meets.lists hnew)

def Asset.Fresh (asset : Asset) : Prop :=
  asset.id ≠ "" ∧ asset = .discovered asset.id

def CountsRetries (key : SyncerKey) (calls : List Event) : Prop :=
  ∀ records, .loadActive key (.ok records) ∈ calls →
    ∀ record ∈ records, ∀ old, Asset.ofRecord record = .ok old →
      ∀ states, .saveStates key states (.ok ()) ∈ calls → ∀ new ∈ states, new.id = old.id →
        new.retryCount.toNat =
          if new.state = .failedRequest then min (old.retryCount.toNat + 1) (UInt32.size - 1)
          else old.retryCount.toNat

theorem within_invariant :
    RowInvariant (σ := σ) key ledger (SyncSetup.Meets maxRetries ledger Asset.Fresh)
      fun l => l.Stores key (·.Within maxRetries) := by
  apply stores_invariant
  · intro asset answer _ hwithin
    apply asset.within_afterAnswer
    have hle : ¬ maxRetries.toNat < asset.retryCount.toNat := by
      rw [← Asset.exceeds_iff, hwithin]
      exact Bool.noConfusion
    omega
  · rintro asset answer ⟨hid, hfresh⟩
    refine ⟨hid, asset.within_afterAnswer answer ?_⟩
    rw [hfresh]
    exact Nat.zero_le _

namespace Cycle.Planned

variable {settings : SyncSettings} {l : Ledger} {calls : List Event} {plan : Plan}
  {origin : Cursor} {page : Option (Except SourceError Page)} {ended : CycleEnd}

theorem countsRetries (planned : Planned settings l calls plan origin page)
    (pursues : Pursues settings plan calls ended) (stores : l.Stores settings.key Kept) :
    CountsRetries settings.key calls := by
  intro records hload record hrecord old hread states hsave new hnew hid
  obtain rfl := (planned.loads records).mp hload
  obtain ⟨stored, has, hopen, hread'⟩ := stores.mem_openRecords hrecord
  obtain rfl := Except.ok.inj (hread.symm.trans hread')
  obtain ⟨-, -, hanswers⟩ := pursues.saves _ _ _ hsave
  obtain ⟨asset, hasset, answer, rfl⟩ := hanswers new hnew
  rw [asset.afterAnswer_id] at hid
  -- the page cannot list an id that is open, so what was fetched is what was stored
  rcases planned.mem_cases stores hasset with ⟨has', -, -⟩ | ⟨-, hother⟩
  · obtain rfl := stores.eq_of_id has' has hid
    exact asset.toNat_retryCount_afterAnswer answer
  · exact absurd hid.symm (hother old has hopen)

end Cycle.Planned

theorem exhausted_invariant {asset : Asset} (hover : asset.exceeds maxRetries) :
    RowInvariant (σ := σ) key ledger (SyncSetup.Meets maxRetries ledger Asset.Fresh)
      fun l => l.Stores key (·.Within maxRetries) ∧ l.Has key asset where
  faithful setup t meets := meets.faithful
  rows l l' hrows h := ⟨h.1.of_rows hrows, by rw [Ledger.Has, hrows]; exact h.2⟩
  saves := by
    rintro setup t rfl meets ⟨hstart, hasstart⟩ states answer hcall l stored ⟨stores, has⟩ hstored
    refine ⟨within_invariant.saves setup t rfl meets hstart states answer hcall l stored stores
      hstored, has.putStates fun hid => ?_⟩
    rcases setup.cycle_planned meets.faithful t with ⟨idle, -⟩ | ⟨plan, origin, page, planned, pursues⟩
    · exact absurd trivial (idle.quiet _ hcall)
    · obtain ⟨-, hids, -⟩ := pursues.saves _ _ _ hcall
      have hopen : asset.state.isOpen := by
        rw [(hstart.kept hasstart).2.failedRequest hover]
        rfl
      rw [← meets.retries] at hover
      apply planned.not_fetches hstart hasstart hopen hover
      rw [← hids]
      exact List.map_subset _ hstored.subset hid

theorem SyncSetup.not_requested {setup : SyncSetup σ τ} {t : τ} {asset : Asset}
    (meets : setup.Meets maxRetries ledger Asset.Fresh t)
    (stores : (ledger t).Stores setup.settings.key (·.Within maxRetries))
    (has : (ledger t).Has setup.settings.key asset) (hover : asset.exceeds maxRetries)
    {request : Batch} {answer : Fetched} (hcall : .fetch request answer ∈ (setup.cycle t).trace) :
    asset.id ∉ request.ids := by
  rcases setup.cycle_planned meets.faithful t with ⟨idle, -⟩ | ⟨plan, origin, page, planned, pursues⟩
  · have hmem : request ∈ (setup.cycle t).trace.filterMap Event.request? :=
      List.mem_filterMap.mpr ⟨_, hcall, rfl⟩
    rw [idle.requests] at hmem
    cases hmem
  · have hopen : asset.state.isOpen := by
      rw [(stores.kept has).2.failedRequest hover]
      rfl
    rw [← meets.retries] at hover
    intro hid
    exact planned.not_fetches stores has hopen hover
      (List.map_subset _ (pursues.mem_of_requested hcall) hid)

/-- From a store without rows of the key, and whatever calls fail: no stored asset is ever over the
budget but by the last failure, and a save counts one retry for each failed fetch. Once an asset is
over the budget, it is not requested and its row does not change any more. -/
theorem SyncRun.retries_bounded {history : List (CycleRun σ τ)} {t₀ t : τ}
    (run : SyncRun key ledger (SyncSetup.Meets maxRetries ledger Asset.Fresh) t₀ history t)
    (hempty : (ledger t₀).rows key = []) :
    (∀ t', SyncReach (σ := σ) key ledger (SyncSetup.Meets maxRetries ledger Asset.Fresh) t₀ t' →
      ∀ row ∈ (ledger t').rows key, ∃ asset : Asset,
        row = Embedded.stateRow key asset ∧ asset.Within maxRetries) ∧
    (∀ cycle ∈ history, CountsRetries key cycle.trace) ∧
    ∀ asset : Asset, Embedded.stateRow key asset ∈ (ledger t).rows key →
      asset.retryCount.toNat = maxRetries.toNat + 1 →
      (∀ later t', SyncRun (σ := σ) key ledger (SyncSetup.Meets maxRetries ledger Asset.Fresh) t
          later t' →
        ∀ cycle ∈ later, ∀ request answer, .fetch request answer ∈ cycle.trace →
          asset.id ∉ request.ids) ∧
      ∀ t', SyncReach (σ := σ) key ledger (SyncSetup.Meets maxRetries ledger Asset.Fresh) t t' →
        ((ledger t').rows key).filter (·.assetId == asset.id) = [Embedded.stateRow key asset] := by
  have hstart : (ledger t₀).Stores key (·.Within maxRetries) := Ledger.stores_of_empty hempty
  refine ⟨fun t' reach row hrow => ?_, fun cycle hcycle => ?_, fun asset hrow hcount => ?_⟩
  · obtain ⟨asset, -, hwithin, hasset⟩ := (within_invariant.reach reach hstart).assets row hrow
    exact ⟨asset, hasset, hwithin⟩
  · obtain ⟨before, after, rfl⟩ := List.append_of_mem hcycle
    obtain ⟨setup, t₁, hbefore, rfl, meets, rfl, -⟩ := run.split rfl
    have stores := within_invariant.run hbefore hstart
    rcases setup.cycle_planned meets.faithful t₁ with ⟨idle, -⟩ | ⟨plan, origin, page, planned, pursues⟩
    · exact fun records hload => absurd hload (idle.unloaded _ records)
    · exact planned.countsRetries pursues stores
  · have hover : asset.exceeds maxRetries := by
      rw [Asset.exceeds_iff]
      omega
    have hbegin := within_invariant.run run hstart
    refine ⟨fun later t' hlater cycle hcycle request answer hcall => ?_, fun t' reach => ?_⟩
    · obtain ⟨before, after, rfl⟩ := List.append_of_mem hcycle
      obtain ⟨setup, t₁, hbefore, rfl, meets, rfl, -⟩ := hlater.split rfl
      obtain ⟨stores, has⟩ := (exhausted_invariant hover).run hbefore ⟨hbegin, hrow⟩
      exact SyncSetup.not_requested meets stores has hover hcall
    · obtain ⟨stores, has⟩ := (exhausted_invariant hover).reach reach ⟨hbegin, hrow⟩
      exact stores.filter_rows has

theorem retries_bounded_after_failure :
    let settings : SyncSettings := ⟨⟨"jobs", "local"⟩, 1, 0, by decide⟩
    let source : Source Unit := {
      name := "jobs"
      initCursor := fun s => (.ok .null, s)
      firstPage? := fun _ _ s => (some (.ok ⟨.pending [.discovered "a"], .null⟩), s)
      fetch := fun _ s => (.failed ⟨.data, "DOWN", "no answer"⟩, s) }
    let setup : SyncSetup Unit Embedded := ⟨settings, source, (), Embedded.service "now"⟩
    let first := setup.cycle .empty
    let second := setup.cycle first.store
    (∀ request answer, .fetch request answer ∈ second.trace → "a" ∉ request.ids) ∧
      (second.store.tables.ledger.rows settings.key).filter (·.assetId == "a") =
        [Embedded.stateRow settings.key ⟨"a", .failedRequest, 1⟩] := by
  intro settings source setup first second
  have meets : ∀ t, setup.Meets 0 (fun db => db.tables.ledger) Asset.Fresh t := by
    refine fun t => ⟨rfl, (Embedded.service_atomic "now").toFaithful,
      SyncSetup.lists_of_source t fun _ _ _ page hpage asset hasset => ?_⟩
    obtain rfl := Except.ok.inj (Option.some.inj hpage)
    obtain rfl := List.mem_singleton.mp hasset
    exact ⟨by decide, rfl⟩
  have hrow : Embedded.stateRow settings.key ⟨"a", .failedRequest, 1⟩ ∈
      first.store.tables.ledger.rows settings.key := by
    decide +kernel
  have hfirst : SyncRun settings.key (fun db => db.tables.ledger)
      (SyncSetup.Meets 0 (fun db => db.tables.ledger) Asset.Fresh) Embedded.empty [first]
      first.store :=
    .cycle .start rfl (meets _)
  have hsecond : SyncRun settings.key (fun db => db.tables.ledger)
      (SyncSetup.Meets 0 (fun db => db.tables.ledger) Asset.Fresh) first.store [second]
      second.store :=
    .cycle .start rfl (meets _)
  obtain ⟨-, -, hover⟩ := hfirst.retries_bounded rfl
  obtain ⟨hrequests, hrows⟩ := hover _ hrow (by decide)
  exact ⟨hrequests _ _ hsecond second (List.mem_singleton.mpr rfl), hrows _ (.between hsecond)⟩

end AssetSync
