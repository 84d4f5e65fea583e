import AssetSync.Proofs.Cycle.Replies
import AssetSync.Proofs.Run.Basic
import AssetSync.Proofs.Store.Rows
import AssetSync.Lines.Source

namespace AssetSync

open AssetSync.Cycle

variable {σ τ : Type} {settings : SyncSettings} {replies : Replies} {ledger : τ → Ledger} {t₀ t t' : τ}

namespace Ledger

def untimed (l : Ledger) : Ledger :=
  { l with cursors := l.cursors.map CursorRow.untimed }

theorem untimed_putCursor (l : Ledger) (row : CursorRow) :
    (l.putCursor row).untimed = l.untimed.putCursor row.untimed := by
  exact congrArg (fun cursors => ({ l with cursors } : Ledger)) (map_untimed_upsert row l.cursors)

end Ledger

structure SyncSetup.Repeats (settings : SyncSettings) (replies : Replies) (ledger : τ → Ledger)
    (setup : SyncSetup σ τ) : Prop where
  settings : setup.settings = settings
  gives : setup.source.Gives replies
  atomic : setup.service.Atomic ledger

def CycleEnd.isAbortedEarly : CycleEnd → Bool
  | .reported report =>
    match report.outcome with
    | .aborted stage _ => stage != .updateCursor
    | .committed _ _ => false
  | _ => false

def AbortedAttempt (settings : SyncSettings) (replies : Replies) (ledger : τ → Ledger)
    (attempt : CycleRun σ τ) (t t' : τ) : Prop :=
  ∃ setup : SyncSetup σ τ, setup.Repeats settings replies ledger ∧ attempt = setup.cycle t ∧
    t' = attempt.store ∧ attempt.ended.isAbortedEarly

theorem SyncSetup.replied {setup : SyncSetup σ τ} (h : setup.source.Gives replies) (t : τ) :
    ∀ call ∈ (setup.cycle t).trace, call.Replied replies :=
  Event.replied_of_performed h (setup.cycle_performed t)

theorem AbortedAttempt.ledger_eq {attempt : CycleRun σ τ}
    (h : AbortedAttempt settings replies ledger attempt t t') : ledger t' = ledger t := by
  obtain ⟨setup, repeats, rfl, rfl, aborted⟩ := h
  have settled := (setup.cycle_trace t).parts.settled (setup.cycle_cleanEffect repeats.atomic t)
  generalize (setup.cycle t).ended = ended at aborted settled
  cases ended with
  | reported report =>
    cases houtcome : report.outcome with
    | committed => simp [CycleEnd.isAbortedEarly, houtcome] at aborted
    | aborted stage message =>
      simp only [Settled, houtcome] at settled
      cases stage with
      | updateCursor => simp [CycleEnd.isAbortedEarly, houtcome] at aborted
      | _ => exact settled
  | violated | crashed => cases aborted

theorem ledger_of_attempts {attempts : List (CycleRun σ τ)}
    (h : Chain (AbortedAttempt settings replies ledger) attempts t₀ t) : ledger t = ledger t₀ :=
  h.invariant (I := fun t => ledger t = ledger t₀) rfl
    fun _ _ _ _ hledger attempt => attempt.ledger_eq.trans hledger

theorem SyncSetup.Repeats.fulfils {setup : SyncSetup σ τ}
    (h : setup.Repeats settings replies ledger) (committed : (setup.cycle t).ended.isCommitted) :
    ∃ planning plan l, PlanTrace settings planning (.ok plan) ∧
      Chain Event.Effect planning (ledger t) l ∧ (∀ call ∈ planning, call.Replied replies) ∧
      Fulfils settings replies (ledger t) (ledger (setup.cycle t).store) plan
        (setup.cycle t).trace := by
  obtain ⟨rfl, gives, atomic⟩ := h
  have hreplied := SyncSetup.replied gives t
  have heffect := setup.cycle_effect atomic.toFaithful t
  obtain ⟨planning, rest, plan, htrace, planned, fulfils⟩ :=
    (setup.cycle_trace t).fulfils committed (setup.cycle_cleanEffect atomic t) hreplied
  rw [htrace] at heffect
  obtain ⟨l, hplanning, -⟩ := chain_append.mp heffect
  refine ⟨planning, plan, l, planned, hplanning, fun call hcall => ?_, fulfils⟩
  exact hreplied call (htrace ▸ List.mem_append_left _ hcall)

theorem AbortedAttempt.accepted {attempt : CycleRun σ τ}
    (h : AbortedAttempt settings replies ledger attempt t t') {planning : List Event}
    {plan : Plan} {l : Ledger} (planned : PlanTrace settings planning (.ok plan))
    (hchain : Chain Event.Effect planning (ledger t) l)
    (replied : ∀ call ∈ planning, call.Replied replies) :
    attempt.trace.filterMap Event.accepted? <+:
      (plan.pieces settings).filterMap replies.payload? := by
  obtain ⟨setup, ⟨rfl, gives, atomic⟩, rfl, rfl, -⟩ := h
  have hreplied := SyncSetup.replied gives t
  obtain hnothing | ⟨planning', rest, plan', htrace, planned', hprefix⟩ :=
    (setup.cycle_trace t).accepted? hreplied
  · rw [hnothing]
    exact List.nil_prefix
  · have heffect := setup.cycle_effect atomic.toFaithful t
    rw [htrace] at heffect
    obtain ⟨l', hplanning', -⟩ := chain_append.mp heffect
    have hsame : plan' = plan := by
      refine planned'.unique planned hplanning' hchain (fun call hcall => ?_) replied
      exact hreplied call (htrace ▸ List.mem_append_left _ hcall)
    rwa [← hsame]

theorem Cycle.Fulfils.untimed {l l' : Ledger} {plan : Plan} {calls : List Event}
    (h : Fulfils settings replies l l' plan calls) :
    l'.untimed = (l.putStates settings.key
      ((plan.pieces settings).flatMap replies.states)).untimed.putCursor
        ⟨settings.key, plan.cursor.text, plan.label.name, ""⟩ := by
  obtain ⟨now, rfl⟩ := h.ledger
  exact Ledger.untimed_putCursor _ _

/-- A cycle that is committed after aborted attempts asks for the same, sends the same and leaves the
same as one without them, and what each attempt sent is a first part of what it sends. -/
theorem aborted_attempts_transparent {attempts : List (CycleRun σ τ)}
    (tried : Chain (AbortedAttempt settings replies ledger) attempts t₀ t)
    {retry direct : SyncSetup σ τ} (hretry : retry.Repeats settings replies ledger)
    (hdirect : direct.Repeats settings replies ledger)
    (retried : (retry.cycle t).ended.isCommitted)
    (committed : (direct.cycle t₀).ended.isCommitted) :
    (retry.cycle t).trace.filterMap Event.request? =
        (direct.cycle t₀).trace.filterMap Event.request? ∧
      (ledger (retry.cycle t).store).untimed = (ledger (direct.cycle t₀).store).untimed ∧
      (retry.cycle t).trace.filterMap Event.accepted? =
        (direct.cycle t₀).trace.filterMap Event.accepted? ∧
      ∀ attempt ∈ attempts, attempt.trace.filterMap Event.accepted? <+:
        (retry.cycle t).trace.filterMap Event.accepted? := by
  have hledger := ledger_of_attempts tried
  obtain ⟨planning, plan, l, planned, hchain, replied, fulfils⟩ := hretry.fulfils retried
  obtain ⟨planning', plan', l', planned', hchain', replied', fulfils'⟩ := hdirect.fulfils committed
  rw [hledger] at hchain fulfils
  obtain rfl : plan = plan' := planned.unique planned' hchain hchain' replied replied'
  refine ⟨?_, ?_, ?_, ?_⟩
  · rw [fulfils.requests, fulfils'.requests]
  · rw [fulfils.untimed, fulfils'.untimed]
  · rw [fulfils.payloads, fulfils'.payloads]
  · rw [fulfils.payloads]
    -- each attempt finds the first ledger, so if it has a plan it is the one of the direct cycle
    refine tried.forall_mem (I := fun t => ledger t = ledger t₀) rfl ?_
    intro attempt t₁ t₂ hsame aborted
    exact ⟨aborted.ledger_eq.trans hsame, aborted.accepted planned (hsame ▸ hchain) replied⟩

theorem aborted_attempts_transparent_after_refusals :
    let settings : SyncSettings := ⟨⟨"jobs", "local"⟩, 1, 0, by decide⟩
    let replies : Replies := {
      initCursor := .ok (lineCursor 0)
      firstPage? := fun _ _ =>
        some (.ok ⟨.pending [.discovered "a", .discovered "b"], lineCursor 1⟩)
      fetch := fun request =>
        .answer (.withData (.arr (request.ids.map .str)) (request.assets.map .finish)) }
    let source : Source Unit := {
      name := "jobs"
      initCursor := fun s => (replies.initCursor, s)
      firstPage? := fun cursor size s => (replies.firstPage? cursor size, s)
      fetch := fun request s => (replies.fetch request, s) }
    let refusing : Refusals → SyncSetup Unit (Refusing Embedded) := fun refusals =>
      ⟨settings, source, (), Refusing.service (Embedded.service "now") refusals⟩
    let ledger : Refusing Embedded → Ledger := fun s => s.inner.tables.ledger
    let calm := refusing fun _ _ => none
    let unsent := refusing fun call before =>
      if call = .savePayload ∧ .savePayload ∈ before then some .lockPoisoned else none
    let unsaved := refusing fun call _ => if call = .saveStates then some .lockPoisoned else none
    let start : Refusing Embedded := ⟨.empty, []⟩
    let first := unsent.cycle start
    let second := unsaved.cycle first.store
    (calm.cycle second.store).trace.filterMap Event.request? =
        (calm.cycle start).trace.filterMap Event.request? ∧
      (ledger (calm.cycle second.store).store).untimed = (ledger (calm.cycle start).store).untimed ∧
      (∀ attempt ∈ [first, second], attempt.trace.filterMap Event.accepted? <+:
        (calm.cycle second.store).trace.filterMap Event.accepted?) ∧
      [first, second, calm.cycle second.store].map
        (fun cycle => (cycle.trace.filterMap Event.accepted?).length) = [1, 2, 2] := by
  intro settings replies source refusing ledger calm unsent unsaved start first second
  have hrepeats : ∀ refusals, (refusing refusals).Repeats settings replies ledger := fun _ =>
    ⟨rfl, ⟨fun _ => rfl, fun _ _ _ => rfl, fun _ _ => rfl⟩,
      Refusing.service_atomic (Embedded.service_atomic "now") _⟩
  have tried : Chain (AbortedAttempt settings replies ledger) [first, second] start second.store :=
    ⟨first.store, ⟨unsent, hrepeats _, rfl, rfl, by decide +kernel⟩,
      second.store, ⟨unsaved, hrepeats _, rfl, rfl, by decide +kernel⟩, rfl⟩
  have hcalm : calm.Repeats settings replies ledger := hrepeats _
  have hretried : (calm.cycle second.store).ended.isCommitted := by decide +kernel
  have hdirect : (calm.cycle start).ended.isCommitted := by decide +kernel
  obtain ⟨hrequests, hledger, -, hprefix⟩ :=
    aborted_attempts_transparent tried hcalm hcalm hretried hdirect
  exact ⟨hrequests, hledger, hprefix, by decide +kernel⟩

end AssetSync
