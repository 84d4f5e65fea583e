import AssetSync.Proofs.Cycle.Execution
import AssetSync.Proofs.Runner.Advance
import AssetSync.Store.Embedded

namespace AssetSync

open AssetSync.Cycle

def Turn.EndsCycle {ω : Type} (turn : Turn ω) : Prop :=
  ∃ (σ τ : Type) (source : Source σ) (service : TrackingService τ) (settings : SyncSettings)
    (s : σ) (t : τ), turn.ended = (runCycle source service settings s t).ended

structure RunSummary.Sound (summary : RunSummary) : Prop where
  errors : summary.errors = 0
  cycles : summary.cycles = summary.committed + summary.aborted

def RunEnd.summary? : RunEnd → Option RunSummary
  | .stopped summary | .unfinished summary => some summary
  | .failed _ => none

def Runner.Next.summary? : Next → Option RunSummary
  | .ended e => e.summary?
  | .waits summary _ _ => some summary

theorem RunSummary.Sound.add {summary : RunSummary} (h : summary.Sound) (report : CycleReport) :
    (summary.add (.reported report)).Sound := by
  obtain ⟨herrors, hcycles⟩ := h
  simp only [RunSummary.add]
  split
  · exact ⟨herrors, by rw [hcycles]; exact Nat.add_right_comm _ _ _⟩
  · exact ⟨herrors, by rw [hcycles]; rfl⟩

namespace Runner

variable {ω : Type} {turn : ω → Turn ω} {summary : RunSummary}

theorem runOnce_ok (hturn : ∀ w, (turn w).EndsCycle) {r r' : Runner ω} {ended : CycleEnd}
    (h : runOnce turn r = (.ok ended, r')) : ∃ report, ended = .reported report := by
  obtain ⟨σ, τ, source, service, settings, s, t, hended⟩ := hturn r.world
  unfold runOnce at h
  split at h
  · cases h
  · have hends := (runCycle_follows source service settings s t).1.reported_or_crashed
    rw [← hended] at hends
    rcases hends with ⟨report, hreport⟩ | ⟨hcrashed, -⟩
    · simp only [hreport] at h
      cases h
      exact ⟨report, rfl⟩
    · simp only [hcrashed] at h
      cases h

theorem Advanced.sound {options : RunnerOptions} {failures : UInt32} {r : Runner ω}
    {next : Next × Runner ω} (hadvanced : Advanced options turn summary failures r next)
    (hturn : ∀ w, (turn w).EndsCycle) (h : summary.Sound) :
    ∀ after ∈ next.1.summary?, after.Sound := by
  cases hadvanced with
  | cancelled =>
    rintro after ⟨⟩
    exact h
  | failed => rintro after ⟨⟩
  | enough _ ran | waits _ ran =>
    obtain ⟨report, rfl⟩ := runOnce_ok hturn ran
    rintro after ⟨⟩
    exact h.add report

theorem loop_sound (options : RunnerOptions) (hturn : ∀ w, (turn w).EndsCycle) (fuel : Nat)
    (h : summary.Sound) (failures : UInt32) (r : Runner ω) :
    ∀ after ∈ (loop options turn fuel summary failures r).1.summary?, after.Sound := by
  induction fuel generalizing summary failures r with
  | zero =>
    unfold loop
    split
    · rintro after ⟨⟩
      exact h
    · rintro after ⟨⟩
      exact h
  | succ fuel ih =>
    have hstep := (advanced options turn summary failures r).sound hturn h
    rw [loop]
    generalize advance options turn summary failures r = next at hstep ⊢
    obtain ⟨e | ⟨later, failures', delay⟩, r'⟩ := next
    · exact hstep
    · exact ih (hstep later rfl) failures' _

theorem bookkeeping_holds :
    (∀ {σ τ : Type} (source : Source σ) (service : TrackingService τ) (settings : SyncSettings)
      (s : σ) (t : τ),
      let run := runCycle source service settings s t
      (∀ e, run.ended ≠ .violated e) ∧
        (run.ended = .crashed → ∃ request, .fetch request .crashed ∈ run.trace)) ∧
    ∀ {ω : Type} (options : RunnerOptions) (turn : ω → Turn ω), (∀ w, (turn w).EndsCycle) →
      ∀ fuel r summary, (run options turn fuel r).1.summary? = some summary →
        summary.errors = 0 ∧ summary.cycles = summary.committed + summary.aborted := by
  constructor
  · intro σ τ source service settings s t run
    have hends : (∃ report, run.ended = .reported report) ∨
        run.ended = .crashed ∧ ∃ request, .fetch request .crashed ∈ run.trace :=
      (runCycle_follows source service settings s t).1.reported_or_crashed
    rcases hends with ⟨report, hreport⟩ | ⟨hcrashed, hcall⟩
    · rw [hreport]
      exact ⟨fun e => CycleEnd.noConfusion, CycleEnd.noConfusion⟩
    · rw [hcrashed]
      exact ⟨fun e => CycleEnd.noConfusion, fun _ => hcall⟩
  · intro ω options turn hturn fuel r summary hsummary
    have hsound := loop_sound options hturn fuel ⟨rfl, rfl⟩ 0 r summary hsummary
    exact ⟨hsound.errors, hsound.cycles⟩

theorem bookkeeping_holds_against_duplicates :
    let settings : SyncSettings := ⟨⟨"jobs", "local"⟩, 1, 0, by decide⟩
    let record := Embedded.looseState (Embedded.stateRow settings.key ⟨"a", .active, 0⟩)
    let source : Source Unit := {
      name := "jobs"
      initCursor := fun s => (.ok .null, s)
      firstPage? := fun _ _ s =>
        (some (.ok ⟨.pending [.discovered "a", .discovered "b", .discovered "b"], .null⟩), s)
      fetch := fun request s =>
        (.answer ⟨none, request.assets ++ request.assets ++ [.discovered "c"]⟩, s) }
    let service : TrackingService Embedded :=
      { Embedded.service "now" with loadActive := fun _ db => (.ok [record, .null, record], db) }
    let turn : Embedded → Turn Embedded := fun db =>
      let run := runCycle source service settings () db
      ⟨run.ended, false, run.store⟩
    ∃ summary, (run ⟨.zero, .zero, some 2⟩ turn 3 (.new .empty none)).1.summary? = some summary ∧
      summary.committed = 2 ∧ summary.errors = 0 := by
  intro settings record source service turn
  have hsummary : (run ⟨.zero, .zero, some 2⟩ turn 3 (.new .empty none)).1.summary? =
      some ⟨2, 2, 0, 0⟩ := by
    decide +kernel
  have hturn : ∀ w, (turn w).EndsCycle := fun db =>
    ⟨Unit, Embedded, source, service, settings, (), db, rfl⟩
  exact ⟨_, hsummary, rfl, (bookkeeping_holds.2 _ turn hturn _ _ _ hsummary).1⟩

end Runner

end AssetSync
