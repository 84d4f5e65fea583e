import AssetSync.Proofs.Cycle.Execution
import AssetSync.Proofs.Store.Ledger

namespace AssetSync

variable {σ τ : Type}

namespace Event

def Commits : Event → Prop
  | saveStates _ _ _ | saveCursor _ _ _ _ => True
  | _ => False

theorem Effect.eq_of_not_commits {call : Event} {l l' : Ledger} (h : call.Effect l l')
    (hcall : ¬ call.Commits) : l' = l := by
  cases call with
  | loadCheckpoint | loadActive => exact h.1
  | saveStates | saveCursor => exact absurd trivial hcall
  | _ => exact h

theorem Performed.effect {source : Source σ} {service : TrackingService τ} {ledger : τ → Ledger}
    (laws : service.Faithful ledger) {call : Event} {x y : σ × τ}
    (h : call.Performed source service x y) : call.Effect (ledger x.2) (ledger y.2) := by
  cases h with
  | tracked h => exact laws.effect h
  | asked h => cases h <;> rfl
  | metric => rfl

def CleanEffect (call : Event) (l l' : Ledger) : Prop :=
  call.Effect l l' ∧ (call.Failed → l' = l)

theorem Performed.cleanEffect {source : Source σ} {service : TrackingService τ}
    {ledger : τ → Ledger} (laws : service.Atomic ledger) {call : Event} {x y : σ × τ}
    (h : call.Performed source service x y) : call.CleanEffect (ledger x.2) (ledger y.2) := by
  refine ⟨h.effect laws.toFaithful, fun failed => ?_⟩
  cases h with
  | tracked h => exact laws.unchanged h failed
  | asked h => rfl
  | metric => rfl

end Event

variable {calls : List Event} {l l' : Ledger}

theorem Chain.ledger_eq (h : Chain Event.Effect calls l l')
    (hcalls : ∀ call ∈ calls, ¬ call.Commits) : l' = l :=
  h.invariant (I := (· = l)) rfl fun call hcall _ _ hx heffect =>
    (heffect.eq_of_not_commits (hcalls call hcall)).trans hx

theorem Chain.effect (h : Chain Event.CleanEffect calls l l') : Chain Event.Effect calls l l' :=
  h.map id fun _ _ _ _ hclean => hclean.1

namespace Cycle

theorem PlanTrace.not_commits {settings : SyncSettings} {result : Except Interrupt Plan}
    (h : PlanTrace settings calls result) : ∀ call ∈ calls, ¬ call.Commits := by
  cases h with
  | unstarted started => cases started <;> simp [Event.Commits]
  | unloaded started loaded => cases started <;> cases loaded <;> simp [Event.Commits]
  | planned started loaded page =>
    rcases page with _ | _ | _ <;> cases started <;> cases loaded <;>
      simp [Event.Commits, discoveryMetrics]

def Forwards : Event → Prop
  | .fetch _ _ | .savePayload _ _ _ | .metric _ => True
  | _ => False

theorem ChunkTrace.forwards {key : SyncerKey} {chunk : List Asset}
    {result : Except Interrupt (List Asset)} (h : ChunkTrace key chunk calls result) :
    ∀ call ∈ calls, Forwards call := by
  cases h <;> simp [Forwards]

theorem timing_forwards (result : Except Interrupt (List Asset)) :
    ∀ call ∈ timing result, Forwards call := by
  rcases result with (_ | _ | _) | _ <;> simp [timing, Forwards]

theorem ForwardTrace.forwards {key : SyncerKey} {pieces : List (List Asset)}
    {result : Except Interrupt (List Asset)} (h : ForwardTrace key pieces calls result) :
    ∀ call ∈ calls, Forwards call := by
  induction h with
  | done => simp
  | next first _ ih =>
    simp only [List.mem_append]
    rintro call ((hcall | hcall) | hcall)
    · exact first.forwards call hcall
    · exact timing_forwards _ call hcall
    · exact ih call hcall
  | stopped first =>
    simp only [List.mem_append]
    rintro call (hcall | hcall)
    · exact first.forwards call hcall
    · exact timing_forwards _ call hcall

theorem ForwardTrace.not_commits {key : SyncerKey} {pieces : List (List Asset)}
    {result : Except Interrupt (List Asset)} (h : ForwardTrace key pieces calls result) :
    ∀ call ∈ calls, ¬ call.Commits := by
  intro call hcall hcommits
  have hforwards := h.forwards call hcall
  cases call <;> simp_all [Event.Commits, Forwards]

theorem CommitTrace.all_commits {key : SyncerKey} {plan : Plan} {states : List Asset}
    {result : Except Interrupt Unit} (h : CommitTrace key plan states calls result) :
    ∀ call ∈ calls, call.Commits := by
  cases h <;> simp [Event.Commits]

theorem not_commits_of_closing {call : Event} (h : call.Closing) : ¬ call.Commits := by
  cases call <;> simp_all [Event.Commits, Event.Closing]

inductive Starts (l : Ledger) (key : SyncerKey) (calls : List Event) : Cursor → CursorLabel → Prop
  | resumed {checkpoint : Checkpoint} (stored : l.Holds key (some checkpoint)) :
    Starts l key calls checkpoint.cursor .update
  | fresh {cursor : Cursor} (nothing : l.Holds key none)
      (asked : .initCursor (.ok cursor) ∈ calls) : Starts l key calls cursor .init

theorem Starts.mono {key : SyncerKey} {more : List Event} {cursor : Cursor} {label : CursorLabel}
    (h : Starts l key calls cursor label) (hmore : calls ⊆ more) :
    Starts l key more cursor label := by
  cases h with
  | resumed stored => exact .resumed stored
  | fresh nothing asked => exact .fresh nothing (hmore asked)

theorem StartTrace.starts {key : SyncerKey} {cursor : Cursor} {label : CursorLabel}
    (h : StartTrace key calls (.ok (cursor, label))) (hchain : Chain Event.Effect calls l l') :
    l' = l ∧ Starts l key calls cursor label := by
  cases h with
  | resumed checkpoint =>
    obtain ⟨_, ⟨rfl, hholds⟩, rfl⟩ := hchain
    exact ⟨rfl, .resumed (hholds _ rfl)⟩
  | fresh =>
    obtain ⟨_, ⟨rfl, hholds⟩, _, rfl, rfl⟩ := hchain
    exact ⟨rfl, .fresh (hholds _ rfl) (by simp)⟩

theorem LoadTrace.loads {settings : SyncSettings} {b : Budgeted}
    (h : LoadTrace settings calls (.ok b)) (hchain : Chain Event.Effect calls l l') :
    b = budgeted settings (l.openRecords settings.key) := by
  cases h with
  | loaded records =>
    obtain ⟨_, ⟨rfl, hrecords⟩, -⟩ := hchain
    rw [hrecords records rfl]

def page? : Event → Option (Cursor × Option (Except SourceError Page))
  | .discover cursor _ page => some (cursor, page)
  | _ => none

theorem mem_filterMap_page? {origin : Cursor} {page : Option (Except SourceError Page)} :
    (origin, page) ∈ calls.filterMap page? ↔ ∃ size, .discover origin size page ∈ calls := by
  constructor
  · intro hpage
    obtain ⟨call, hcall, hview⟩ := List.mem_filterMap.mp hpage
    cases call with
    | discover cursor size =>
      cases hview
      exact ⟨size, hcall⟩
    | _ => cases hview
  · rintro ⟨size, hcall⟩
    exact List.mem_filterMap.mpr ⟨_, hcall, rfl⟩

theorem filterMap_page?_eq_nil (h : ∀ call ∈ calls, Forwards call ∨ call.Commits ∨ call.Closing) :
    calls.filterMap page? = [] := by
  refine List.filterMap_eq_nil_iff.mpr fun call hcall => ?_
  have hcall := h call hcall
  cases call with
  | discover => simp [Forwards, Event.Commits, Event.Closing] at hcall
  | _ => rfl

theorem PlanTrace.plans {settings : SyncSettings} {p : Plan}
    (h : PlanTrace settings calls (.ok p)) (hchain : Chain Event.Effect calls l l') :
    ∃ origin page, Starts l settings.key calls origin p.label ∧
      .discover origin settings.batchSize page ∈ calls ∧
      calls.filterMap page? = [(origin, page)] ∧
      p = plan (budgeted settings (l.openRecords settings.key)) origin p.label page := by
  cases h with
  | @planned starting loading cursor label b started loaded page =>
    have hload : loading.filterMap page? = [] := by
      cases loaded
      rfl
    obtain ⟨l₂, hplanning, -⟩ := chain_append.mp hchain
    obtain ⟨l₁, hstarting, hloading⟩ := chain_append.mp hplanning
    obtain ⟨rfl, hstarts⟩ := started.starts hstarting
    obtain rfl := loaded.loads hloading
    refine ⟨cursor, page, hstarts.mono fun _ h => by simp [h], by simp, ?_, rfl⟩
    · have hstart : starting.filterMap page? = [] := by cases started <;> rfl
      have hmetrics : (discoveryMetrics page).filterMap page? = [] := by
        rcases page with _ | _ | _ <;> rfl
      simp [hstart, hload, hmetrics, page?, List.filterMap_cons]

def Plan.outcome? (plan : Plan) : Except Interrupt Unit → Option CycleOutcome
  | .ok () => some (.committed plan.cursor plan.label)
  | .error (.abort stage message) => some (.aborted stage message)
  | .error _ => none

inductive CycleParts (settings : SyncSettings) : List Event → CycleEnd → Prop
  | unsent {calls : List Event} {ended : CycleEnd} (quiet : ∀ call ∈ calls, ¬ call.Commits)
      (outcome : ∀ report, ended = .reported report →
        ∃ stage message, report.outcome = .aborted stage message ∧ stage ≠ .updateCursor) :
    CycleParts settings calls ended
  | sent {planning forwarding commit closing : List Event} {plan : Plan}
      {result : Except Interrupt Unit} {report : CycleReport}
      (planned : PlanTrace settings planning (.ok plan))
      (forwarded : ForwardTrace settings.key
        (chunks settings.batchSize settings.batchSize_pos plan.assets) forwarding
        (.ok report.assets))
      (committed : CommitTrace settings.key plan report.assets commit result)
      (closed : ∀ call ∈ closing, call.Closing)
      (outcome : plan.outcome? result = some report.outcome) :
    CycleParts settings (planning ++ (forwarding ++ (commit ++ closing))) (.reported report)

theorem PlanTrace.stage_ne {settings : SyncSettings} {stage : AbortStage} {message : String}
    (h : PlanTrace settings calls (.error (.abort stage message))) : stage ≠ .updateCursor := by
  cases h with
  | unstarted started => cases started <;> simp
  | unloaded _ loaded =>
    cases loaded
    simp

theorem ForwardTrace.stage_ne {key : SyncerKey} {pieces : List (List Asset)} {stage : AbortStage}
    {message : String} (h : ForwardTrace key pieces calls (.error (.abort stage message))) :
    stage ≠ .updateCursor := by
  generalize hr :
    (Except.error (.abort stage message) : Except Interrupt (List Asset)) = result at h
  induction h with
  | done => cases hr
  | @next _ _ _ _ _ result _ _ ih =>
    cases result with
    | error => cases hr; exact ih rfl
    | ok => cases hr
  | stopped first =>
    cases hr
    cases first
    simp

theorem BodyTrace.parts {settings : SyncSettings} {states : List Asset}
    {result : Except Interrupt (Cursor × CursorLabel)}
    (h : BodyTrace settings calls result states) :
    ((∀ call ∈ calls, ¬ call.Commits) ∧ ∃ interrupt, result = .error interrupt ∧
        ∀ message, interrupt ≠ .abort .updateCursor message) ∨
      ∃ planning forwarding commit plan done, calls = planning ++ (forwarding ++ commit) ∧
        PlanTrace settings planning (.ok plan) ∧
        ForwardTrace settings.key (chunks settings.batchSize settings.batchSize_pos plan.assets)
          forwarding (.ok states) ∧
        CommitTrace settings.key plan states commit done ∧
        result = done.map fun _ => (plan.cursor, plan.label) := by
  cases h with
  | unplanned planned =>
    refine .inl ⟨planned.not_commits, _, rfl, fun message hinterrupt => ?_⟩
    subst hinterrupt
    exact planned.stage_ne rfl
  | planned planned delivered =>
    cases delivered with
    | interrupted forwarded =>
      refine .inl ⟨?_, _, rfl, fun message hinterrupt => ?_⟩
      · intro call hcall
        exact (List.mem_append.mp hcall).elim (planned.not_commits call)
          (forwarded.not_commits call)
      · subst hinterrupt
        exact forwarded.stage_ne rfl
    | forwarded forwarded committed =>
      exact .inr ⟨_, _, _, _, _, rfl, planned, forwarded, committed, rfl⟩

theorem CycleTrace.parts {settings : SyncSettings} {ended : CycleEnd}
    (h : CycleTrace settings calls ended) : CycleParts settings calls ended := by
  cases h with
  | crashed body =>
    obtain ⟨hquiet, -⟩ | ⟨_, _, _, _, done, -, -, -, committed, hdone⟩ := body.parts
    · exact .unsent hquiet (by simp)
    · cases committed with
      | unsaved => cases hdone
      | saved _ answer => cases answer <;> cases hdone
      | nothing _ answer => cases answer <;> cases hdone
  | @aborted events stage message report body outcome answer =>
    obtain ⟨hquiet, _, hresult, hstage⟩ | ⟨_, _, _, plan, done, rfl, planned, forwarded, committed,
      hdone⟩ := body.parts
    · cases hresult
      refine .unsent ?_ ?_
      · simp only [List.mem_append]
        rintro call (hcall | hcall)
        · exact hquiet call hcall
        · refine not_commits_of_closing ?_
          revert call
          simp [Event.Closing]
      · rintro _ ⟨⟩
        exact ⟨stage, message, outcome, fun h => hstage message (h ▸ rfl)⟩
    · have hresult : done = .error (.abort stage message) := by
        cases done <;> cases hdone
        rfl
      rw [List.append_assoc, List.append_assoc]
      exact .sent planned forwarded committed (by simp [Event.Closing])
        (by rw [hresult, outcome]; rfl)
  | @committed events cursor label report body outcome answer =>
    obtain ⟨-, _, hresult, -⟩ | ⟨_, _, _, plan, done, rfl, planned, forwarded, committed,
      hdone⟩ := body.parts
    · cases hresult
    · have hresult : done = .ok () ∧ cursor = plan.cursor ∧ label = plan.label := by
        cases done <;> cases hdone
        exact ⟨rfl, rfl, rfl⟩
      obtain ⟨rfl, rfl, rfl⟩ := hresult
      rw [List.append_assoc, List.append_assoc]
      exact .sent planned forwarded committed (by simp [Event.Closing]) (by rw [outcome]; rfl)

theorem chain_commit {R : Event → Ledger → Ledger → Prop}
    (heffect : ∀ call l l', R call l l' → call.Effect l l') {settings : SyncSettings} {plan : Plan}
    {pieces : List (List Asset)} {states : List Asset}
    {planning forwarding commit closing : List Event}
    (planned : PlanTrace settings planning (.ok plan))
    (forwarded : ForwardTrace settings.key pieces forwarding (.ok states))
    (closed : ∀ call ∈ closing, call.Closing)
    (h : Chain R (planning ++ (forwarding ++ (commit ++ closing))) l l') :
    Chain R planning l l ∧ Chain R commit l l' := by
  have hquiet : ∀ {calls l l'}, Chain R calls l l' → (∀ call ∈ calls, ¬ call.Commits) → l' = l := by
    intro calls l l' hcalls
    exact Chain.ledger_eq (hcalls.map id fun call _ => heffect call)
  obtain ⟨l₁, hplan, hrest⟩ := chain_append.mp h
  obtain ⟨l₂, hforward, hrest⟩ := chain_append.mp hrest
  obtain ⟨l₃, hcommit, hclose⟩ := chain_append.mp hrest
  obtain rfl := hquiet hplan planned.not_commits
  obtain rfl := hquiet hforward forwarded.not_commits
  obtain rfl := hquiet hclose fun call hcall => not_commits_of_closing (closed call hcall)
  exact ⟨hplan, hcommit⟩

end Cycle

end AssetSync
