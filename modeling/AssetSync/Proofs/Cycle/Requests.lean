import AssetSync.Proofs.Asset.Answer
import AssetSync.Proofs.Cycle.Effect
import AssetSync.Proofs.Cycle.Order

namespace AssetSync

namespace Event

def request? : Event → Option Batch
  | fetch request _ => some request
  | _ => none

def saved? : Event → Option (CursorLabel × Cursor)
  | saveCursor _ label cursor (.ok ()) => some (label, cursor)
  | _ => none

end Event

/-- The cycle ended while there were still chunks to forward. -/
def CycleEnd.CutShort : CycleEnd → Prop
  | .reported report => ∃ message, report.outcome = .aborted .saveTrackingData message
  | .crashed => True
  | .violated _ => False

theorem CycleEnd.not_cutShort {ended : CycleEnd} (h : ended.isCommitted) : ¬ ended.CutShort := by
  cases ended with
  | reported report =>
    rintro ⟨message, houtcome⟩
    simp [isCommitted, CycleReport.isCommitted, houtcome] at h
  | violated | crashed => cases h

def CycleOutcome.result : CycleOutcome → Except Interrupt (Cursor × CursorLabel)
  | .committed cursor label => .ok (cursor, label)
  | .aborted stage message => .error (.abort stage message)

namespace Cycle

variable {key : SyncerKey} {settings : SyncSettings} {calls : List Event} {ended : CycleEnd}

attribute [local simp] Event.request? Event.saved? page? discoveryMetrics

theorem saved?_eq_nil (h : ∀ call ∈ calls, ¬ call.Commits) : calls.filterMap Event.saved? = [] := by
  refine List.filterMap_eq_nil_iff.mpr fun call hcall => ?_
  have hcall := h call hcall
  cases call with
  | saveCursor => simp [Event.Commits] at hcall
  | _ => rfl

theorem request?_eq_nil (h : ∀ call ∈ calls, call.Commits ∨ call.Closing) :
    calls.filterMap Event.request? = [] := by
  refine List.filterMap_eq_nil_iff.mpr fun call hcall => ?_
  have hcall := h call hcall
  cases call with
  | fetch => simp [Event.Commits, Event.Closing] at hcall
  | _ => rfl

theorem PlanTrace.request?_eq_nil {result : Except Interrupt Plan}
    (h : PlanTrace settings calls result) : calls.filterMap Event.request? = [] := by
  cases h with
  | unstarted started => cases started <;> rfl
  | unloaded started loaded => cases started <;> cases loaded <;> rfl
  | planned started loaded page =>
    rcases page with _ | _ | _ <;> cases started <;> cases loaded <;> rfl

theorem ChunkTrace.request? {chunk : List Asset} {result : Except Interrupt (List Asset)}
    (h : ChunkTrace key chunk calls result) :
    calls.filterMap Event.request? = [.pending chunk] := by
  cases h <;> rfl

theorem timing_request? (result : Except Interrupt (List Asset)) :
    (timing result).filterMap Event.request? = [] := by
  rcases result with (_ | _ | _) | _ <;> rfl

theorem ForwardTrace.request? {pieces : List (List Asset)}
    {result : Except Interrupt (List Asset)} (h : ForwardTrace key pieces calls result) :
    calls.filterMap Event.request? <+: pieces.map .pending ∧
      (result.isOk → calls.filterMap Event.request? = pieces.map .pending) := by
  induction h with
  | done => exact ⟨List.prefix_rfl, fun _ => rfl⟩
  | @next chunk rest events later states result first _ ih =>
    obtain ⟨hfirst, hall⟩ := ih
    rw [List.filterMap_append, List.filterMap_append, first.request?, timing_request?,
      List.append_nil, List.map_cons, List.singleton_append]
    refine ⟨(List.prefix_cons_inj _).mpr hfirst, fun hok => ?_⟩
    have hrest : result.isOk := by
      cases result with
      | error => exact hok
      | ok => rfl
    rw [hall hrest]
  | @stopped chunk rest events interrupt first =>
    rw [List.filterMap_append, first.request?, timing_request?, List.append_nil, List.map_cons]
    exact ⟨⟨_, List.singleton_append⟩, fun hok => Bool.noConfusion hok⟩

theorem ChunkTrace.answered {chunk states : List Asset}
    (h : ChunkTrace key chunk calls (.ok states)) :
    ∀ state ∈ states, ∃ asset ∈ chunk, ∃ answer, state = asset.afterAnswer answer := by
  have happly : ∀ answered, ∀ state ∈ applyAnswer chunk answered,
      ∃ asset ∈ chunk, ∃ answer, state = asset.afterAnswer answer := by
    intro answered state hstate
    obtain ⟨asset, hasset, rfl⟩ := List.mem_map.mp hstate
    exact ⟨asset, hasset, _, rfl⟩
  cases h with
  | unfetched e =>
    intro state hstate
    obtain ⟨asset, hasset, rfl⟩ := List.mem_map.mp hstate
    exact ⟨asset, hasset, none, rfl⟩
  | silent _ => exact happly _
  | sent _ _ => exact happly _

theorem ForwardTrace.answered {pieces : List (List Asset)} {states : List Asset}
    (h : ForwardTrace key pieces calls (.ok states)) :
    ∀ state ∈ states, ∃ asset ∈ pieces.flatten, ∃ answer, state = asset.afterAnswer answer := by
  generalize hr : (Except.ok states : Except Interrupt (List Asset)) = result at h
  induction h generalizing states with
  | done =>
    cases hr
    simp
  | @next chunk rest events later first result hfirst _ ih =>
    cases result with
    | error => cases hr
    | ok others =>
      cases hr
      intro state hstate
      rcases List.mem_append.mp hstate with hmem | hmem
      · obtain ⟨asset, hasset, hanswer⟩ := hfirst.answered state hmem
        exact ⟨asset, by simp [hasset], hanswer⟩
      · obtain ⟨asset, hasset, hanswer⟩ := ih rfl state hmem
        exact ⟨asset, by rw [List.flatten_cons]; exact List.mem_append_right _ hasset, hanswer⟩
  | stopped => cases hr

def Forwarding : Interrupt → Prop
  | .abort .saveTrackingData _ | .crash => True
  | _ => False

theorem ForwardTrace.forwarding {pieces : List (List Asset)} {interrupt : Interrupt}
    (h : ForwardTrace key pieces calls (.error interrupt)) : Forwarding interrupt := by
  generalize hr : (Except.error interrupt : Except Interrupt (List Asset)) = result at h
  induction h with
  | done => cases hr
  | @next _ _ _ _ _ result _ _ ih =>
    cases result with
    | error => cases hr; exact ih rfl
    | ok => cases hr
  | stopped first =>
    cases hr
    cases first <;> trivial

theorem CommitTrace.saved? {plan : Plan} {states : List Asset} {result : Except Interrupt Unit}
    (h : CommitTrace key plan states calls result) :
    calls.filterMap Event.saved? = if result.isOk then [(plan.label, plan.cursor)] else [] := by
  cases h with
  | unsaved => rfl
  | saved _ answer => rcases answer with _ | ⟨⟩ <;> rfl
  | nothing _ answer => rcases answer with _ | ⟨⟩ <;> rfl

theorem CommitTrace.saves {plan : Plan} {states : List Asset} {result : Except Interrupt Unit}
    (h : CommitTrace key plan states calls result) {other : SyncerKey} {assets : List Asset}
    {answer : Except StoreError Unit} (hcall : .saveStates other assets answer ∈ calls) :
    other = key ∧ assets = states := by
  cases h <;> simp at hcall <;> exact ⟨hcall.1, hcall.2.1⟩

structure Idle (calls : List Event) : Prop where
  pages : calls.filterMap page? = []
  requests : calls.filterMap Event.request? = []
  quiet : ∀ call ∈ calls, ¬ call.Commits
  unloaded : ∀ key records, .loadActive key (.ok records) ∉ calls

structure Pursues (settings : SyncSettings) (plan : Plan) (calls : List Event)
    (ended : CycleEnd) : Prop where
  requests : calls.filterMap Event.request? <+:
    (chunks settings.batchSize settings.batchSize_pos plan.assets).map .pending
  complete : ¬ ended.CutShort → calls.filterMap Event.request? =
    (chunks settings.batchSize settings.batchSize_pos plan.assets).map .pending
  saves : ∀ key states answer, .saveStates key states answer ∈ calls →
    key = settings.key ∧ states.map Asset.id = plan.assets.map Asset.id ∧
      ∀ state ∈ states, ∃ asset ∈ plan.assets, ∃ answer, state = asset.afterAnswer answer
  saved : calls.filterMap Event.saved? =
    if ended.isCommitted then [(plan.label, plan.cursor)] else []
  stores : ended.isCommitted → plan.assets ≠ [] →
    ∃ states, .saveStates settings.key states (.ok ()) ∈ calls

theorem PlanTrace.idle {interrupt : Interrupt} (h : PlanTrace settings calls (.error interrupt)) :
    Idle calls := by
  refine ⟨?_, h.request?_eq_nil, h.not_commits, ?_⟩
  · cases h with
    | unstarted started => cases started <;> rfl
    | unloaded started loaded => cases started <;> cases loaded <;> rfl
  · cases h with
    | unstarted started => cases started <;> simp
    | unloaded started loaded => cases started <;> cases loaded <;> simp

theorem Idle.close {closing : List Event} (h : Idle calls)
    (closed : ∀ call ∈ closing, call.Closing) : Idle (calls ++ closing) where
  pages := by
    rw [List.filterMap_append, h.pages, List.nil_append]
    exact filterMap_page?_eq_nil fun call hcall => .inr (.inr (closed call hcall))
  requests := by
    rw [List.filterMap_append, h.requests, List.nil_append]
    exact Cycle.request?_eq_nil fun call hcall => .inr (closed call hcall)
  quiet call hcall := (List.mem_append.mp hcall).elim (h.quiet call)
    fun hclosing => not_commits_of_closing (closed call hclosing)
  unloaded key records hcall := (List.mem_append.mp hcall).elim (h.unloaded key records)
    fun hclosing => (closed _ hclosing).elim

theorem CycleTrace.body (h : CycleTrace settings calls ended) :
    ∃ events closing result states, calls = events ++ closing ∧
      (∀ call ∈ closing, call.Closing) ∧ BodyTrace settings events result states ∧
      ended.isCommitted = result.isOk ∧
      (¬ ended.CutShort → ∀ interrupt, result = .error interrupt → ¬ Forwarding interrupt) := by
  cases h with
  | crashed body =>
    exact ⟨_, [], _, _, (List.append_nil _).symm, by simp, body, rfl, fun hcut => absurd trivial hcut⟩
  | @aborted events stage message report body outcome answer =>
    refine ⟨_, _, _, _, rfl, by simp [Event.Closing], body, ?_, ?_⟩
    · simp only [CycleEnd.isCommitted, CycleReport.isCommitted, outcome]
      rfl
    · rintro hcut interrupt ⟨⟩ hforwarding
      cases stage with
      | saveTrackingData => exact hcut ⟨message, outcome⟩
      | _ => exact hforwarding
  | committed body outcome answer =>
    refine ⟨_, _, _, _, rfl, by simp [Event.Closing], body, ?_, by simp⟩
    simp only [CycleEnd.isCommitted, CycleReport.isCommitted, outcome]
    rfl

theorem CycleTrace.reported {report : CycleReport}
    (h : CycleTrace settings calls (.reported report)) :
    ∃ events closing, calls = events ++ closing ∧ (∀ call ∈ closing, call.Closing) ∧
      BodyTrace settings events report.outcome.result report.assets := by
  cases h with
  | aborted body outcome answer =>
    rw [outcome]
    exact ⟨_, _, rfl, by simp [Event.Closing], body⟩
  | committed body outcome answer =>
    rw [outcome]
    exact ⟨_, _, rfl, by simp [Event.Closing], body⟩

theorem DeliverTrace.later {plan : Plan} {states : List Asset}
    {result : Except Interrupt (Cursor × CursorLabel)}
    (h : DeliverTrace settings plan calls result states) :
    ∃ forwarding rest forwarded, calls = forwarding ++ rest ∧
      ForwardTrace settings.key (chunks settings.batchSize settings.batchSize_pos plan.assets)
        forwarding forwarded ∧
      ((rest = [] ∧ ∃ interrupt, forwarded = .error interrupt ∧ result = .error interrupt) ∨
        ∃ done, forwarded = .ok states ∧ CommitTrace settings.key plan states rest done ∧
          result.isOk = done.isOk) := by
  cases h with
  | interrupted forwarded =>
    exact ⟨_, [], _, (List.append_nil _).symm, forwarded, .inl ⟨rfl, _, rfl, rfl⟩⟩
  | @forwarded _ _ _ done forwarded committed =>
    refine ⟨_, _, _, rfl, forwarded, .inr ⟨done, rfl, committed, ?_⟩⟩
    cases done <;> rfl

theorem DeliverTrace.forwards_or_commits {plan : Plan} {states : List Asset}
    {result : Except Interrupt (Cursor × CursorLabel)}
    (h : DeliverTrace settings plan calls result states) :
    ∀ call ∈ calls, Forwards call ∨ call.Commits := by
  intro call hcall
  cases h with
  | interrupted forwarded => exact .inl (forwarded.forwards call hcall)
  | forwarded forwarded committed =>
    exact (List.mem_append.mp hcall).imp (forwarded.forwards call) (committed.all_commits call)

section

variable {plan : Plan} {pieces : List (List Asset)} {planning forwarding commit closing : List Event}
  {outcome : Except Interrupt (List Asset)}

theorem filterMap_request?_parts (planned : PlanTrace settings planning (.ok plan))
    (commits : ∀ call ∈ commit, call.Commits) (closed : ∀ call ∈ closing, call.Closing) :
    (planning ++ (forwarding ++ commit ++ closing)).filterMap Event.request? =
      forwarding.filterMap Event.request? := by
  have hcommit : commit.filterMap Event.request? = [] :=
    Cycle.request?_eq_nil fun call hcall => .inl (commits call hcall)
  have hclosing : closing.filterMap Event.request? = [] :=
    Cycle.request?_eq_nil fun call hcall => .inr (closed call hcall)
  simp only [List.filterMap_append, planned.request?_eq_nil, hcommit, hclosing, List.nil_append,
    List.append_nil]

theorem filterMap_saved?_parts (planned : PlanTrace settings planning (.ok plan))
    (forwarded : ForwardTrace key pieces forwarding outcome)
    (closed : ∀ call ∈ closing, call.Closing) :
    (planning ++ (forwarding ++ commit ++ closing)).filterMap Event.saved? =
      commit.filterMap Event.saved? := by
  have hclosing : closing.filterMap Event.saved? = [] :=
    saved?_eq_nil fun call hcall => not_commits_of_closing (closed call hcall)
  simp only [List.filterMap_append, saved?_eq_nil planned.not_commits,
    saved?_eq_nil forwarded.not_commits, hclosing, List.nil_append, List.append_nil]

theorem mem_commit_of_commits (planned : PlanTrace settings planning (.ok plan))
    (forwarded : ForwardTrace key pieces forwarding outcome)
    (closed : ∀ call ∈ closing, call.Closing) {call : Event}
    (hcall : call ∈ planning ++ (forwarding ++ commit ++ closing)) (hcommits : call.Commits) :
    call ∈ commit := by
  simp only [List.mem_append] at hcall
  rcases hcall with hcall | (hcall | hcall) | hcall
  · exact absurd hcommits (planned.not_commits _ hcall)
  · exact absurd hcommits (forwarded.not_commits _ hcall)
  · exact hcall
  · exact absurd hcommits (not_commits_of_closing (closed _ hcall))

end

theorem DeliverTrace.pursues {plan : Plan} {states : List Asset} {planning closing : List Event}
    {result : Except Interrupt (Cursor × CursorLabel)}
    (delivered : DeliverTrace settings plan calls result states)
    (planned : PlanTrace settings planning (.ok plan)) (closed : ∀ call ∈ closing, call.Closing)
    (hcommitted : ended.isCommitted = result.isOk)
    (hcut : ¬ ended.CutShort → ∀ interrupt, result = .error interrupt → ¬ Forwarding interrupt) :
    Pursues settings plan (planning ++ (calls ++ closing)) ended := by
  obtain ⟨forwarding, commit, outcome, rfl, forwarded, hcommit⟩ := delivered.later
  have hcommits : ∀ call ∈ commit, call.Commits := by
    rcases hcommit with ⟨rfl, -⟩ | ⟨done, -, committed, -⟩
    · simp
    · exact committed.all_commits
  have hrequests : (planning ++ (forwarding ++ commit ++ closing)).filterMap Event.request? =
      forwarding.filterMap Event.request? :=
    filterMap_request?_parts planned hcommits closed
  have hsaved : (planning ++ (forwarding ++ commit ++ closing)).filterMap Event.saved? =
      commit.filterMap Event.saved? :=
    filterMap_saved?_parts planned forwarded closed
  obtain ⟨hfirst, hall⟩ := forwarded.request?
  rcases hcommit with ⟨rfl, interrupt, rfl, rfl⟩ | ⟨done, rfl, committed, hdone⟩
  · refine ⟨by rwa [hrequests], fun h => ?_, fun _ _ _ hcall => ?_, ?_, fun hok => ?_⟩
    · exact absurd forwarded.forwarding (hcut h interrupt rfl)
    · cases mem_commit_of_commits planned forwarded closed hcall trivial
    · rw [hsaved, hcommitted]
      rfl
    · rw [hcommitted] at hok
      cases hok
  · refine ⟨by rwa [hrequests], fun _ => by rw [hrequests, hall rfl], ?_, ?_, fun hok hne => ?_⟩
    · intro key assets answer hcall
      have hmem := mem_commit_of_commits planned forwarded closed hcall trivial
      obtain ⟨rfl, rfl⟩ := committed.saves hmem
      have hids := forwarded.ids
      have hanswered := forwarded.answered
      rw [chunks_flatten] at hids hanswered
      exact ⟨rfl, hids, hanswered⟩
    · rw [hsaved, committed.saved?, hcommitted, hdone]
    · rw [hcommitted, hdone] at hok
      cases committed with
      | unsaved => cases hok
      | saved => exact ⟨states, by simp⟩
      | nothing hempty => exact absurd hempty hne

theorem CycleTrace.pursues (h : CycleTrace settings calls ended) :
    (Idle calls ∧ ended.isCommitted = false) ∨
      ∃ planning later plan, calls = planning ++ later ∧ PlanTrace settings planning (.ok plan) ∧
        (∀ call ∈ later, Forwards call ∨ call.Commits ∨ call.Closing) ∧
        Pursues settings plan calls ended := by
  obtain ⟨events, closing, result, states, rfl, closed, body, hcommitted, hcut⟩ := h.body
  cases body with
  | unplanned planned => exact .inl ⟨planned.idle.close closed, hcommitted⟩
  | @planned planning delivering plan _ _ planned delivered =>
    refine .inr ⟨planning, delivering ++ closing, plan, List.append_assoc .., planned, ?_, ?_⟩
    · intro call hcall
      rcases List.mem_append.mp hcall with hcall | hcall
      · exact (delivered.forwards_or_commits call hcall).imp_right .inl
      · exact .inr (.inr (closed call hcall))
    · rw [List.append_assoc]
      exact delivered.pursues planned closed hcommitted hcut

structure Planned (settings : SyncSettings) (l : Ledger) (calls : List Event) (plan : Plan)
    (origin : Cursor) (page : Option (Except SourceError Page)) : Prop where
  starts : Starts l settings.key calls origin plan.label
  pages : calls.filterMap page? = [(origin, page)]
  loads : ∀ records, .loadActive settings.key (.ok records) ∈ calls ↔
    records = l.openRecords settings.key
  eq : plan = Cycle.plan (budgeted settings (l.openRecords settings.key)) origin plan.label page

theorem PlanTrace.loaded {plan : Plan} (h : PlanTrace settings calls (.ok plan)) :
    ∃ records, .loadActive settings.key (.ok records) ∈ calls := by
  cases h with
  | planned _ loaded _ =>
    cases loaded with
    | loaded records => exact ⟨records, by simp⟩

theorem PlanTrace.loads {plan : Plan} {l l' : Ledger} (h : PlanTrace settings calls (.ok plan))
    (hchain : Chain Event.Effect calls l l') (records : List Json) :
    .loadActive settings.key (.ok records) ∈ calls ↔ records = l.openRecords settings.key := by
  have hloads : ∀ records, .loadActive settings.key (.ok records) ∈ calls →
      records = l.openRecords settings.key := by
    intro records hcall
    obtain ⟨before, after, l₁, l₂, rfl, hbefore, ⟨-, hrecords⟩, -⟩ := hchain.split hcall
    have hquiet : ∀ call ∈ before, ¬ call.Commits :=
      fun call hmem => h.not_commits call (List.mem_append_left _ hmem)
    rw [← hbefore.ledger_eq hquiet]
    exact hrecords records rfl
  obtain ⟨loaded, hloaded⟩ := h.loaded
  constructor
  · exact hloads records
  · rintro rfl
    rwa [← hloads loaded hloaded]

theorem CycleTrace.planned {l l' : Ledger} (h : CycleTrace settings calls ended)
    (hchain : Chain Event.Effect calls l l') :
    (Idle calls ∧ ended.isCommitted = false) ∨ ∃ plan origin page,
      Planned settings l calls plan origin page ∧ Pursues settings plan calls ended := by
  rcases h.pursues with hidle | ⟨planning, later, plan, rfl, planned, hlater, pursues⟩
  · exact .inl hidle
  · obtain ⟨l₁, hplanning, -⟩ := chain_append.mp hchain
    obtain ⟨origin, page, starts, -, hpage, hplan⟩ := planned.plans hplanning
    refine .inr ⟨plan, origin, page, ⟨starts.mono (by simp), ?_, fun records => ?_, hplan⟩, pursues⟩
    · rw [List.filterMap_append, hpage, filterMap_page?_eq_nil hlater, List.append_nil]
    · rw [List.mem_append, planned.loads hplanning]
      refine or_iff_left fun hcall => ?_
      simpa [Forwards, Event.Commits, Event.Closing] using hlater _ hcall

theorem StartTrace.not_commits {result : Except Interrupt (Cursor × CursorLabel)}
    (h : StartTrace key calls result) : ∀ call ∈ calls, ¬ call.Commits := by
  cases h <;> simp [Event.Commits]

theorem PlanTrace.starting {result : Except Interrupt Plan} (h : PlanTrace settings calls result) :
    ∃ starting rest started, calls = starting ++ rest ∧
      StartTrace settings.key starting started ∧ ∀ answer, .initCursor answer ∉ rest := by
  cases h with
  | unstarted started => exact ⟨_, [], _, (List.append_nil _).symm, started, by simp⟩
  | unloaded started loaded =>
    refine ⟨_, _, _, rfl, started, ?_⟩
    cases loaded
    simp
  | planned started loaded page =>
    refine ⟨_, _, _, List.append_assoc .., started, ?_⟩
    cases loaded
    rcases page with _ | _ | _ <;> simp [discoveryMetrics]

theorem CycleTrace.starting {ended : CycleEnd} (h : CycleTrace settings calls ended) :
    ∃ starting rest started, calls = starting ++ rest ∧
      StartTrace settings.key starting started ∧ ∀ answer, .initCursor answer ∉ rest := by
  obtain ⟨events, closing, result, states, rfl, closed, body, -, -⟩ := h.body
  cases body with
  | unplanned planned =>
    obtain ⟨starting, rest, started, rfl, hstart, hrest⟩ := planned.starting
    refine ⟨starting, rest ++ closing, started, List.append_assoc .., hstart, fun answer hcall => ?_⟩
    exact (List.mem_append.mp hcall).elim (hrest answer) (closed _)
  | @planned planning delivering _ _ _ planned delivered =>
    obtain ⟨starting, rest, started, rfl, hstart, hrest⟩ := planned.starting
    refine ⟨starting, rest ++ delivering ++ closing, started, by simp, hstart, fun answer hcall => ?_⟩
    rcases List.mem_append.mp hcall with hcall | hcall
    · rcases List.mem_append.mp hcall with hcall | hcall
      · exact hrest answer hcall
      · exact (delivered.forwards_or_commits _ hcall).elim id id
    · exact closed _ hcall

theorem CycleTrace.fresh {ended : CycleEnd} (h : CycleTrace settings calls ended)
    {l l' : Ledger} (hchain : Chain Event.Effect calls l l') {answer : Except SourceError Cursor}
    (hcall : .initCursor answer ∈ calls) : l.Holds settings.key none := by
  obtain ⟨starting, rest, started, rfl, hstart, hrest⟩ := h.starting
  obtain ⟨l₁, hstarting, -⟩ := chain_append.mp hchain
  have hasked := (List.mem_append.mp hcall).resolve_right (hrest answer)
  cases hstart with
  | resumed | unloaded => simp at hasked
  | fresh | sourceless =>
    obtain ⟨_, ⟨rfl, hholds⟩, -⟩ := hstarting
    exact hholds _ rfl

end Cycle

end AssetSync
