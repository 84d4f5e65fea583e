import AssetSync.Proofs.Cycle.Atomicity
import AssetSync.Proofs.Cycle.Requests

namespace AssetSync

variable {σ τ : Type}

structure Replies where
  initCursor : Except SourceError Cursor
  firstPage? : Cursor → Nat → Option (Except SourceError Page)
  fetch : Batch → Fetched

structure Source.Gives (source : Source σ) (replies : Replies) : Prop where
  initCursor (s : σ) : (source.initCursor s).1 = replies.initCursor
  firstPage? (cursor : Cursor) (size : Nat) (s : σ) :
    (source.firstPage? cursor size s).1 = replies.firstPage? cursor size
  fetch (request : Batch) (s : σ) : (source.fetch request s).1 = replies.fetch request

namespace Event

def Replied (replies : Replies) : Event → Prop
  | initCursor answer => answer = replies.initCursor
  | discover cursor size answer => answer = replies.firstPage? cursor size
  | fetch request answer => answer = replies.fetch request
  | _ => True

theorem replied_of_performed {source : Source σ} {service : TrackingService τ} {replies : Replies}
    (gives : source.Gives replies) {calls : List Event} {x z : σ × τ}
    (h : Chain (Event.Performed source service) calls x z) :
    ∀ call ∈ calls, call.Replied replies := by
  refine h.forall_mem (I := fun _ => True) trivial ?_
  rintro call x y - hcall
  refine ⟨trivial, ?_⟩
  cases hcall with
  | tracked hcall => cases hcall <;> trivial
  | asked hcall =>
    cases hcall with
    | initCursor h => exact (congrArg Prod.fst h).symm.trans (gives.initCursor _)
    | discover h => exact (congrArg Prod.fst h).symm.trans (gives.firstPage? _ _ _)
    | fetch h => exact (congrArg Prod.fst h).symm.trans (gives.fetch _ _)
  | metric => trivial

def accepted? : Event → Option Json
  | savePayload _ data (.ok ()) => some data
  | _ => none

end Event

namespace Replies

def payload? (replies : Replies) (chunk : List Asset) : Option Json :=
  match replies.fetch (.pending chunk) with
  | .answer batch => batch.payload?
  | _ => none

def states (replies : Replies) (chunk : List Asset) : List Asset :=
  match replies.fetch (.pending chunk) with
  | .answer batch => applyAnswer chunk batch.assets
  | _ => failAll chunk

end Replies

namespace Cycle

variable {settings : SyncSettings} {key : SyncerKey} {replies : Replies} {calls : List Event}
  {ended : CycleEnd}

theorem ChunkTrace.replied {chunk : List Asset} {result : Except Interrupt (List Asset)}
    (h : ChunkTrace key chunk calls result) (replied : ∀ call ∈ calls, call.Replied replies) :
    match result with
    | .ok states => states = replies.states chunk ∧
        calls.filterMap Event.accepted? = (replies.payload? chunk).toList
    | .error _ => calls.filterMap Event.accepted? = [] := by
  cases h with
  | unfetched e =>
    have hfetch : .failed e = replies.fetch (.pending chunk) := replied _ List.mem_cons_self
    simp only [Replies.states, Replies.payload?, ← hfetch, true_and]
    rfl
  | @silent batch nothing =>
    have hfetch : .answer batch = replies.fetch (.pending chunk) := replied _ List.mem_cons_self
    simp only [Replies.states, Replies.payload?, ← hfetch, true_and,
      payload?_of_not_hasData nothing]
    rfl
  | @sent batch data worth payload =>
    have hfetch : .answer batch = replies.fetch (.pending chunk) := replied _ List.mem_cons_self
    obtain ⟨data', hdata, hpayload⟩ := payload?_of_hasData worth
    obtain rfl := Option.some.inj (payload.symm.trans hdata)
    simp only [Replies.states, Replies.payload?, ← hfetch, true_and, hpayload]
    rfl
  | unsent | crashed => rfl

theorem timing_accepted? (result : Except Interrupt (List Asset)) :
    (timing result).filterMap Event.accepted? = [] := by
  rcases result with (_ | _ | _) | _ <;> rfl

theorem ForwardTrace.replied {pieces : List (List Asset)} {result : Except Interrupt (List Asset)}
    (h : ForwardTrace key pieces calls result) (replied : ∀ call ∈ calls, call.Replied replies) :
    match result with
    | .ok states => states = pieces.flatMap replies.states ∧
        calls.filterMap Event.accepted? = pieces.filterMap replies.payload?
    | .error _ => calls.filterMap Event.accepted? <+: pieces.filterMap replies.payload? := by
  have hpieces : ∀ (chunk : List Asset) (rest : List (List Asset)),
      (chunk :: rest).filterMap replies.payload? =
        (replies.payload? chunk).toList ++ rest.filterMap replies.payload? := by
    intro chunk rest
    cases hpayload : replies.payload? chunk <;> simp [hpayload]
  induction h with
  | done => exact ⟨rfl, rfl⟩
  | @next chunk rest events later states result first _ ih =>
    obtain ⟨rfl, hfirst⟩ := first.replied fun call hcall => replied call (by simp [hcall])
    have hrest := ih fun call hcall => replied call (by simp [hcall])
    rw [List.filterMap_append, List.filterMap_append, hfirst, timing_accepted?, List.append_nil,
      hpieces]
    cases result with
    | error => exact (List.prefix_append_right_inj _).mpr hrest
    | ok others =>
      obtain ⟨rfl, hlater⟩ := hrest
      exact ⟨List.flatMap_cons.symm, congrArg _ hlater⟩
  | stopped first =>
    have hfirst := first.replied fun call hcall => replied call (by simp [hcall])
    rw [List.filterMap_append, hfirst, timing_accepted?]
    exact List.nil_prefix

theorem Starts.unique {l : Ledger} {calls' : List Event} {cursor cursor' : Cursor}
    {label label' : CursorLabel} (h : Starts l key calls cursor label)
    (h' : Starts l key calls' cursor' label') (replied : ∀ call ∈ calls, call.Replied replies)
    (replied' : ∀ call ∈ calls', call.Replied replies) : cursor = cursor' ∧ label = label' := by
  cases h with
  | resumed stored =>
    cases h' with
    | resumed stored' =>
      have hmark := Option.some.inj (stored.unique stored')
      exact ⟨congrArg Prod.snd hmark, rfl⟩
    | fresh nothing => cases stored.unique nothing
  | fresh nothing asked =>
    cases h' with
    | resumed stored => cases nothing.unique stored
    | fresh _ asked' =>
      have hcursor : Except.ok cursor = Except.ok cursor' :=
        (replied _ asked).trans (replied' _ asked').symm
      exact ⟨Except.ok.inj hcursor, rfl⟩

theorem PlanTrace.unique {l l₁ l₂ : Ledger} {calls' : List Event} {plan plan' : Plan}
    (h : PlanTrace settings calls (.ok plan)) (h' : PlanTrace settings calls' (.ok plan'))
    (hchain : Chain Event.Effect calls l l₁) (hchain' : Chain Event.Effect calls' l l₂)
    (replied : ∀ call ∈ calls, call.Replied replies)
    (replied' : ∀ call ∈ calls', call.Replied replies) : plan = plan' := by
  obtain ⟨origin, page, hstarts, hasked, -, hplan⟩ := h.plans hchain
  obtain ⟨origin', page', hstarts', hasked', -, hplan'⟩ := h'.plans hchain'
  obtain ⟨rfl, hlabel⟩ := hstarts.unique hstarts' replied replied'
  have hpage : page = page' := (replied _ hasked).trans (replied' _ hasked').symm
  rw [hplan, hplan', hlabel, hpage]

def Plan.pieces (settings : SyncSettings) (plan : Plan) : List (List Asset) :=
  chunks settings.batchSize settings.batchSize_pos plan.assets

theorem PlanTrace.accepted?_eq_nil {result : Except Interrupt Plan}
    (h : PlanTrace settings calls result) : calls.filterMap Event.accepted? = [] := by
  cases h with
  | unstarted started => cases started <;> rfl
  | unloaded started loaded => cases started <;> cases loaded <;> rfl
  | planned started loaded page =>
    rcases page with _ | _ | _ <;> cases started <;> cases loaded <;> rfl

theorem accepted?_eq_nil (h : ∀ call ∈ calls, call.Commits ∨ call.Closing) :
    calls.filterMap Event.accepted? = [] := by
  refine List.filterMap_eq_nil_iff.mpr fun call hcall => ?_
  have hcall := h call hcall
  cases call with
  | savePayload => simp [Event.Commits, Event.Closing] at hcall
  | _ => rfl

theorem DeliverTrace.accepted? {plan : Plan} {states : List Asset}
    {result : Except Interrupt (Cursor × CursorLabel)}
    (h : DeliverTrace settings plan calls result states)
    (replied : ∀ call ∈ calls, call.Replied replies) :
    calls.filterMap Event.accepted? <+: (plan.pieces settings).filterMap replies.payload? := by
  cases h with
  | interrupted forwarded => exact forwarded.replied replied
  | @forwarded forwarding commit _ _ forwarded committed =>
    obtain ⟨-, hsent⟩ := forwarded.replied fun call hcall => replied call (by simp [hcall])
    have hcommit : commit.filterMap Event.accepted? = [] :=
      Cycle.accepted?_eq_nil fun call hcall => .inl (committed.all_commits call hcall)
    rw [List.filterMap_append, hcommit, List.append_nil, hsent]
    exact List.prefix_rfl

theorem CycleTrace.accepted? (h : CycleTrace settings calls ended)
    (replied : ∀ call ∈ calls, call.Replied replies) :
    calls.filterMap Event.accepted? = [] ∨
      ∃ planning rest plan, calls = planning ++ rest ∧ PlanTrace settings planning (.ok plan) ∧
        calls.filterMap Event.accepted? <+: (plan.pieces settings).filterMap replies.payload? := by
  obtain ⟨events, closing, result, states, rfl, closed, body, -, -⟩ := h.body
  have hclosing : closing.filterMap Event.accepted? = [] :=
    Cycle.accepted?_eq_nil fun call hcall => .inr (closed call hcall)
  rw [List.filterMap_append, hclosing, List.append_nil]
  cases body with
  | unplanned planned => exact .inl planned.accepted?_eq_nil
  | @planned planning delivering plan _ _ planned delivered =>
    refine .inr ⟨planning, delivering ++ closing, plan, List.append_assoc .., planned, ?_⟩
    rw [List.filterMap_append, planned.accepted?_eq_nil]
    exact delivered.accepted? fun call hcall => replied call (by simp [hcall])

structure Fulfils (settings : SyncSettings) (replies : Replies) (l l' : Ledger) (plan : Plan)
    (calls : List Event) : Prop where
  requests : calls.filterMap Event.request? = (plan.pieces settings).map .pending
  payloads : calls.filterMap Event.accepted? =
    (plan.pieces settings).filterMap replies.payload?
  ledger : ∃ now, l' = (l.putStates settings.key
    ((plan.pieces settings).flatMap replies.states)).putCursor
      ⟨settings.key, plan.cursor.text, plan.label.name, now⟩

theorem CycleTrace.fulfils {l l' : Ledger} (h : CycleTrace settings calls ended)
    (committed : ended.isCommitted) (hchain : Chain Event.CleanEffect calls l l')
    (replied : ∀ call ∈ calls, call.Replied replies) :
    ∃ planning rest plan, calls = planning ++ rest ∧ PlanTrace settings planning (.ok plan) ∧
      Fulfils settings replies l l' plan calls := by
  cases h.parts with
  | unsent quiet outcome =>
    cases ended with
    | reported report =>
      obtain ⟨stage, message, houtcome, -⟩ := outcome report rfl
      simp [CycleEnd.isCommitted, CycleReport.isCommitted, houtcome] at committed
    | violated | crashed => cases committed
  | @sent planning forwarding commit closing plan result report planned forwarded commits closed
      outcome =>
    obtain rfl : result = .ok () := by
      rcases result with (⟨stage, message⟩ | _ | _) | ⟨⟩
      · have houtcome : report.outcome = .aborted stage message := (Option.some.inj outcome).symm
        simp [CycleEnd.isCommitted, CycleReport.isCommitted, houtcome] at committed
      · cases outcome
      · cases outcome
      · rfl
    obtain ⟨hstates, hsent⟩ := forwarded.replied fun call hcall => replied call (by simp [hcall])
    obtain ⟨-, hcommit⟩ := chain_commit (fun _ _ _ h => h.1) planned forwarded closed hchain
    have hlater : ∀ call ∈ commit ++ closing, call.Commits ∨ call.Closing := by
      intro call hcall
      exact (List.mem_append.mp hcall).imp (commits.all_commits call) (closed call)
    refine ⟨planning, _, plan, rfl, planned, ?_, ?_, ?_⟩
    · rw [List.filterMap_append, List.filterMap_append, planned.request?_eq_nil,
        Cycle.request?_eq_nil hlater, List.append_nil, List.nil_append]
      exact forwarded.request?.2 rfl
    · rw [List.filterMap_append, List.filterMap_append, planned.accepted?_eq_nil,
        Cycle.accepted?_eq_nil hlater, List.append_nil, List.nil_append]
      exact hsent
    · rw [Plan.pieces, ← hstates]
      exact commits.commits forwarded.states_eq_nil_iff.mpr hcommit

end Cycle

end AssetSync
