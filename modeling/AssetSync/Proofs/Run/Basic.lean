import AssetSync.Proofs.Cycle.Requests

namespace AssetSync

open AssetSync.Cycle

variable {σ τ : Type}

structure SyncSetup (σ τ : Type) where
  settings : SyncSettings
  source : Source σ
  start : σ
  service : TrackingService τ

def SyncSetup.cycle (setup : SyncSetup σ τ) (t : τ) : CycleRun σ τ :=
  runCycle setup.source setup.service setup.settings setup.start t

structure Ledger.SameFor (key : SyncerKey) (l l' : Ledger) : Prop where
  rows : l'.rows key = l.rows key
  cursor : l'.cursors.find? (·.key == key) = l.cursors.find? (·.key == key)

/-- The cycles so far and the state of the store. The syncer may be set up anew for each cycle, with
any source and any service; between cycles the store may change for other keys. -/
inductive SyncRun (key : SyncerKey) (ledger : τ → Ledger) (Allows : SyncSetup σ τ → τ → Prop)
    (t₀ : τ) : List (CycleRun σ τ) → τ → Prop
  | start : SyncRun key ledger Allows t₀ [] t₀
  | cycle {history : List (CycleRun σ τ)} {t : τ} (run : SyncRun key ledger Allows t₀ history t)
      {setup : SyncSetup σ τ} (hkey : setup.settings.key = key) (allowed : Allows setup t) :
    SyncRun key ledger Allows t₀ (history ++ [setup.cycle t]) (setup.cycle t).store
  | elsewhere {history : List (CycleRun σ τ)} {t t' : τ}
      (run : SyncRun key ledger Allows t₀ history t)
      (same : Ledger.SameFor key (ledger t) (ledger t')) :
    SyncRun key ledger Allows t₀ history t'

inductive SyncReach (key : SyncerKey) (ledger : τ → Ledger) (Allows : SyncSetup σ τ → τ → Prop)
    (t₀ : τ) : τ → Prop
  | between {history : List (CycleRun σ τ)} {t : τ} (run : SyncRun key ledger Allows t₀ history t) :
    SyncReach key ledger Allows t₀ t
  | within {history : List (CycleRun σ τ)} {t t' : τ} {setup : SyncSetup σ τ} {s' : σ}
      {done rest : List Event} (run : SyncRun key ledger Allows t₀ history t)
      (hkey : setup.settings.key = key) (allowed : Allows setup t)
      (trace : (setup.cycle t).trace = done ++ rest)
      (performed : Chain (Event.Performed setup.source setup.service) done (setup.start, t)
        (s', t')) :
    SyncReach key ledger Allows t₀ t'

variable {key : SyncerKey} {ledger : τ → Ledger} {Allows : SyncSetup σ τ → τ → Prop}
  {history : List (CycleRun σ τ)} {t₀ t : τ}

theorem SyncRun.split {before after : List (CycleRun σ τ)} {cycle : CycleRun σ τ}
    (run : SyncRun key ledger Allows t₀ history t) (h : history = before ++ cycle :: after) :
    ∃ setup t₁, SyncRun key ledger Allows t₀ before t₁ ∧ setup.settings.key = key ∧
      Allows setup t₁ ∧ cycle = setup.cycle t₁ ∧
      SyncRun key ledger Allows cycle.store after t := by
  induction run generalizing after with
  | start => simp at h
  | @cycle history t run setup hkey allowed ih =>
    rcases List.eq_nil_or_concat after with rfl | ⟨rest, last, rfl⟩
    · obtain ⟨rfl, hlast⟩ := List.append_inj' h rfl
      obtain rfl := List.singleton_inj.mp hlast
      exact ⟨setup, t, run, hkey, allowed, rfl, .start⟩
    · rw [List.concat_eq_append, ← List.cons_append, ← List.append_assoc] at h
      obtain ⟨rfl, hlast⟩ := List.append_inj' h rfl
      obtain rfl := List.singleton_inj.mp hlast
      obtain ⟨setup₁, t₁, hbefore, hkey₁, hallowed, hcycle, hafter⟩ := ih rfl
      rw [List.concat_eq_append]
      exact ⟨setup₁, t₁, hbefore, hkey₁, hallowed, hcycle, hafter.cycle hkey allowed⟩
  | elsewhere _ same ih =>
    obtain ⟨setup, t₁, hbefore, hkey, hallowed, hcycle, hafter⟩ := ih h
    exact ⟨setup, t₁, hbefore, hkey, hallowed, hcycle, hafter.elsewhere same⟩

namespace SyncSetup

theorem cycle_trace (setup : SyncSetup σ τ) (t : τ) :
    CycleTrace setup.settings (setup.cycle t).trace (setup.cycle t).ended :=
  (runCycle_follows setup.source setup.service setup.settings setup.start t).1

theorem cycle_performed (setup : SyncSetup σ τ) (t : τ) :
    Chain (Event.Performed setup.source setup.service) (setup.cycle t).trace (setup.start, t)
      ((setup.cycle t).source, (setup.cycle t).store) :=
  (runCycle_follows setup.source setup.service setup.settings setup.start t).2

theorem cycle_keys (setup : SyncSetup σ τ) (t : τ) :
    ∀ call ∈ (setup.cycle t).trace, ∀ other, call.key? = some other → other = setup.settings.key :=
  (setup.cycle_trace t).orderly.keys

theorem cycle_effect {setup : SyncSetup σ τ} (laws : setup.service.Faithful ledger) (t : τ) :
    Chain Event.Effect (setup.cycle t).trace (ledger t) (ledger (setup.cycle t).store) :=
  (setup.cycle_performed t).map (fun x => ledger x.2) fun _ _ _ _ h => h.effect laws

theorem cycle_cleanEffect {setup : SyncSetup σ τ} (laws : setup.service.Atomic ledger) (t : τ) :
    Chain Event.CleanEffect (setup.cycle t).trace (ledger t) (ledger (setup.cycle t).store) :=
  (setup.cycle_performed t).map (fun x => ledger x.2) fun _ _ _ _ h => h.cleanEffect laws

theorem cycle_planned {setup : SyncSetup σ τ} (laws : setup.service.Faithful ledger) (t : τ) :
    (Idle (setup.cycle t).trace ∧ (setup.cycle t).ended.isCommitted = false) ∨
      ∃ plan origin page,
        Planned setup.settings (ledger t) (setup.cycle t).trace plan origin page ∧
          Pursues setup.settings plan (setup.cycle t).trace (setup.cycle t).ended :=
  (setup.cycle_trace t).planned (setup.cycle_effect laws t)

end SyncSetup

theorem Event.Effect.states_cases {call : Event} {l l' : Ledger} (h : call.Effect l l') :
    l'.states = l.states ∨ ∃ key states answer stored,
      call = .saveStates key states answer ∧ stored.Sublist states ∧
        l' = l.putStates key stored := by
  cases call with
  | saveStates key states answer =>
    obtain ⟨stored, hstored, -, rfl⟩ := h
    exact .inr ⟨key, states, answer, stored, rfl, hstored, rfl⟩
  | saveCursor =>
    rcases h with ⟨rfl, -⟩ | ⟨now, rfl⟩
    · exact .inl rfl
    · exact .inl rfl
  | loadCheckpoint | loadActive => exact .inl (congrArg Ledger.states h.1)
  | _ => exact .inl (congrArg Ledger.states h)

structure RowInvariant (key : SyncerKey) (ledger : τ → Ledger)
    (Allows : SyncSetup σ τ → τ → Prop) (I : Ledger → Prop) : Prop where
  faithful : ∀ setup t, Allows setup t → setup.service.Faithful ledger
  rows : ∀ l l', l'.rows key = l.rows key → I l → I l'
  saves : ∀ setup t, setup.settings.key = key → Allows setup t → I (ledger t) →
    ∀ states answer, .saveStates key states answer ∈ (setup.cycle t).trace →
      ∀ l stored, I l → stored.Sublist states → I (l.putStates key stored)

namespace RowInvariant

variable {I : Ledger → Prop} {setup : SyncSetup σ τ}

theorem calls (inv : RowInvariant key ledger Allows I) (hkey : setup.settings.key = key)
    (allowed : Allows setup t) (hstart : I (ledger t)) {calls : List Event}
    (hcalls : calls ⊆ (setup.cycle t).trace) {l l' : Ledger} (hl : I l)
    (h : Chain Event.Effect calls l l') : I l' := by
  refine h.invariant hl fun call hcall l₁ l₂ hl₁ heffect => ?_
  rcases heffect.states_cases with hstates | ⟨other, states, answer, stored, rfl, hstored, rfl⟩
  · exact inv.rows _ _ (congrArg (List.filter _) hstates) hl₁
  · obtain rfl := setup.cycle_keys t _ (hcalls hcall) other rfl
    subst hkey
    exact inv.saves setup t rfl allowed hstart states answer (hcalls hcall) l₁ stored hl₁ hstored

theorem cycle (inv : RowInvariant key ledger Allows I) (hkey : setup.settings.key = key)
    (allowed : Allows setup t) (hstart : I (ledger t)) : I (ledger (setup.cycle t).store) :=
  inv.calls hkey allowed hstart (List.Subset.refl _) hstart
    (setup.cycle_effect (inv.faithful setup t allowed) t)

theorem run (inv : RowInvariant key ledger Allows I)
    (run : SyncRun key ledger Allows t₀ history t) (hstart : I (ledger t₀)) : I (ledger t) := by
  induction run with
  | start => exact hstart
  | cycle _ hkey allowed ih => exact inv.cycle hkey allowed ih
  | elsewhere _ same ih => exact inv.rows _ _ same.rows ih

theorem reach (inv : RowInvariant key ledger Allows I)
    (reach : SyncReach key ledger Allows t₀ t) (hstart : I (ledger t₀)) : I (ledger t) := by
  cases reach with
  | between run => exact inv.run run hstart
  | @within _ t₁ _ setup _ done rest run hkey allowed trace performed =>
    have hbegin := inv.run run hstart
    have heffect : Chain Event.Effect done (ledger t₁) (ledger t) :=
      performed.map (fun x => ledger x.2) fun _ _ _ _ h => h.effect (inv.faithful setup t₁ allowed)
    exact inv.calls hkey allowed hbegin (by rw [trace]; exact List.subset_append_left _ _) hbegin
      heffect

end RowInvariant

end AssetSync
