import AssetSync.Lines.Source
import AssetSync.Proofs.Cycle.Effect
import AssetSync.Proofs.Store.Atomic

namespace AssetSync

variable {σ τ : Type}

namespace Cycle

variable {calls : List Event} {l l' : Ledger} {key : SyncerKey}

theorem CommitTrace.commits {plan : Plan} {states : List Asset} {result : Except Interrupt Unit}
    (h : CommitTrace key plan states calls result) (hstates : plan.assets = [] → states = [])
    (hchain : Chain Event.CleanEffect calls l l') :
    match result with
    | .ok () => ∃ now, l' = (l.putStates key states).putCursor
        ⟨key, plan.cursor.text, plan.label.name, now⟩
    | .error (.abort .updateCursor _) => l' = l.putStates key states
    | .error _ => l' = l := by
  have hcursor : ∀ {answer l₁ l₂},
      (Event.saveCursor key plan.label plan.cursor answer).CleanEffect l₁ l₂ →
      match answer with
      | .ok () => ∃ now, l₂ = l₁.putCursor ⟨key, plan.cursor.text, plan.label.name, now⟩
      | .error _ => l₂ = l₁ := by
    rintro (e | ⟨⟩) l₁ l₂ ⟨heffect, hunchanged⟩
    · exact hunchanged trivial
    · obtain ⟨-, hfailed⟩ | hput := heffect
      · exact absurd rfl hfailed
      · exact hput
  cases h with
  | unsaved _ e =>
    obtain ⟨_, ⟨-, hunchanged⟩, rfl⟩ := hchain
    exact hunchanged trivial
  | saved _ answer =>
    obtain ⟨_, ⟨⟨stored, -, hall, rfl⟩, -⟩, _, hsave, rfl⟩ := hchain
    obtain rfl := hall rfl
    have := hcursor hsave
    cases answer <;> exact this
  | nothing hempty answer =>
    obtain ⟨_, hsave, rfl⟩ := hchain
    rw [hstates hempty]
    have := hcursor hsave
    cases answer <;> exact this

/-- What a cycle leaves of the ledger `l`, by how it ended. -/
def Settled (l l' : Ledger) (key : SyncerKey) (calls : List Event) : CycleEnd → Prop
  | .reported report =>
    match report.outcome with
    | .committed cursor label =>
      ∃ origin page now, Starts l key calls origin label ∧
        calls.filterMap page? = [(origin, page)] ∧ cursor = (discovery origin page).2 ∧
        l' = (l.putStates key report.assets).putCursor ⟨key, cursor.text, label.name, now⟩
    | .aborted .updateCursor _ => l' = l.putStates key report.assets
    | .aborted _ _ => l' = l
  | _ => l' = l

theorem CycleParts.settled {settings : SyncSettings} {ended : CycleEnd}
    (h : CycleParts settings calls ended) (hchain : Chain Event.CleanEffect calls l l') :
    Settled l l' settings.key calls ended := by
  cases h with
  | unsent quiet outcome =>
    have hledger := hchain.effect.ledger_eq quiet
    cases ended with
    | reported report =>
      obtain ⟨stage, message, houtcome, hstage⟩ := outcome report rfl
      simp only [Settled, houtcome]
      cases stage with
      | updateCursor => exact absurd rfl hstage
      | _ => exact hledger
    | _ => exact hledger
  | @sent planning forwarding commit closing plan result report planned forwarded committed closed
      outcome =>
    obtain ⟨hplan, hcommit⟩ := chain_commit (fun _ _ _ h => h.1) planned forwarded closed hchain
    have hwritten := committed.commits forwarded.states_eq_nil_iff.mpr hcommit
    rcases result with (⟨stage, message⟩ | _ | _) | ⟨⟩
    · have houtcome : report.outcome = .aborted stage message := (Option.some.inj outcome).symm
      simp only [Settled, houtcome]
      cases stage <;> exact hwritten
    · cases outcome
    · cases outcome
    · have houtcome : report.outcome = .committed plan.cursor plan.label :=
        (Option.some.inj outcome).symm
      simp only [Settled, houtcome]
      obtain ⟨now, hledger⟩ := hwritten
      obtain ⟨origin, page, hstarts, -, hpage, hplan⟩ := planned.plans hplan.effect
      refine ⟨origin, page, now, hstarts.mono (by simp), ?_, congrArg Plan.cursor hplan, hledger⟩
      rw [List.filterMap_append, hpage, filterMap_page?_eq_nil, List.append_nil]
      simp only [List.mem_append]
      rintro call (hcall | hcall | hcall)
      · exact .inl (forwarded.forwards call hcall)
      · exact .inr (.inl (committed.all_commits call hcall))
      · exact .inr (.inr (closed call hcall))

end Cycle

open AssetSync.Cycle

theorem runCycle_settled (source : Source σ) {service : TrackingService τ} {ledger : τ → Ledger}
    (laws : service.Atomic ledger) (settings : SyncSettings) (s : σ) (t : τ) :
    let run := runCycle source service settings s t
    Settled (ledger t) (ledger run.store) settings.key run.trace run.ended := by
  intro run
  obtain ⟨htrace, hperformed⟩ := runCycle_follows source service settings s t
  exact htrace.parts.settled
    (hperformed.map (fun x => ledger x.2) fun _ _ _ _ h => h.cleanEffect laws)

theorem runCycle_settled_without_cursor :
    let config : LinesConfig := ⟨"assets", .fileBeginning, ["done"], "id", "state"⟩
    let service := Refusing.service (Embedded.service "now") fun call _ =>
      if call = .saveCursor then some .lockPoisoned else none
    let settings : SyncSettings := ⟨⟨"files", "local"⟩, 1, 0, by decide⟩
    let run := runCycle (config.source fun _ text => .ok text) service settings
      "\x7b\"id\":\"a\"\x7d\n" ⟨.empty, []⟩
    run.store.inner.tables.ledger = ⟨[], [⟨settings.key, "a", "active", 0⟩]⟩ ∧
      Settled Tables.empty.ledger run.store.inner.tables.ledger settings.key run.trace run.ended :=
  ⟨by decide +kernel, runCycle_settled _ (Refusing.service_atomic (Embedded.service_atomic "now") _)
    _ _ _⟩

end AssetSync
