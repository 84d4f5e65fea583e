import AssetSync.Proofs.Lines.Cursor
import AssetSync.Proofs.Run.Basic
import AssetSync.Proofs.Store.Atomic

namespace AssetSync

open AssetSync.Cycle

variable {σ τ : Type} {key : SyncerKey} {ledger : τ → Ledger}

def savedBy (history : List (CycleRun σ τ)) : List (CursorLabel × Cursor) :=
  (history.flatMap CycleRun.trace).filterMap Event.saved?

theorem savedBy_append (history : List (CycleRun σ τ)) (cycle : CycleRun σ τ) :
    savedBy (history ++ [cycle]) = savedBy history ++ cycle.trace.filterMap Event.saved? := by
  simp [savedBy]

def Ledger.Keeps (l : Ledger) (key : SyncerKey) (saved : List (CursorLabel × Cursor)) : Prop :=
  ∃ found, l.Holds key found ∧ found.map Checkpoint.mark = saved.getLast?

section

variable {l l' : Ledger} {saved : List (CursorLabel × Cursor)}

theorem Ledger.Keeps.of_cursors (h : l.Keeps key saved)
    (hfind : l'.cursors.find? (·.key == key) = l.cursors.find? (·.key == key)) :
    l'.Keeps key saved := by
  obtain ⟨found, holds, hmark⟩ := h
  refine ⟨found, ?_, hmark⟩
  unfold Ledger.Holds
  rw [hfind]
  exact holds

theorem Event.CleanEffect.cursors_eq {call : Event} (h : call.CleanEffect l l')
    (hcall : call.saved? = none) : l'.cursors = l.cursors := by
  cases call with
  | saveCursor _ _ _ answer =>
    cases answer with
    | error => rw [h.2 trivial]
    | ok => cases hcall
  | saveStates =>
    obtain ⟨⟨stored, -, -, rfl⟩, -⟩ := h
    exact Ledger.putStates_cursors ..
  | loadCheckpoint | loadActive => exact congrArg Ledger.cursors h.1.1
  | _ => exact congrArg Ledger.cursors h.1

theorem Ledger.Keeps.call (h : l.Keeps key saved) {call : Event} (heffect : call.CleanEffect l l')
    (hkey : ∀ other, call.key? = some other → other = key)
    (hreads : ∀ label cursor, call = .saveCursor key label cursor (.ok ()) →
      Json.parse cursor.text = .ok cursor) :
    l'.Keeps key (saved ++ call.saved?.toList) := by
  cases hsaved : call.saved? with
  | none =>
    rw [Option.toList_none, List.append_nil]
    exact h.of_cursors (by rw [heffect.cursors_eq hsaved])
  | some mark =>
    unfold Event.saved? at hsaved
    split at hsaved
    · rename_i other label cursor
      obtain rfl := hkey other rfl
      cases hsaved
      obtain ⟨⟨-, hfailed⟩ | ⟨now, rfl⟩, -⟩ := heffect
      · exact absurd rfl hfailed
      · refine ⟨some ⟨cursor, label, now⟩, Ledger.holds_iff.mpr ⟨_, find?_upsert _ (by simp),
          hreads label cursor rfl, CursorLabel.ofName?_name label⟩, ?_⟩
        rw [Option.toList_some, List.getLast?_concat]
        rfl
    · cases hsaved

theorem Ledger.Keeps.calls {calls : List Event} (h : l.Keeps key saved)
    (hchain : Chain Event.CleanEffect calls l l')
    (hkeys : ∀ call ∈ calls, ∀ other, call.key? = some other → other = key)
    (hreads : ∀ label cursor, .saveCursor key label cursor (.ok ()) ∈ calls →
      Json.parse cursor.text = .ok cursor) :
    l'.Keeps key (saved ++ calls.filterMap Event.saved?) := by
  induction calls generalizing l saved with
  | nil =>
    obtain rfl := hchain
    rwa [List.filterMap_nil, List.append_nil]
  | cons call rest ih =>
    obtain ⟨l₁, heffect, hrest⟩ := hchain
    have hsplit : saved ++ (call :: rest).filterMap Event.saved? =
        saved ++ call.saved?.toList ++ rest.filterMap Event.saved? := by
      cases hsaved : call.saved? <;> simp [hsaved]
    have hcall := h.call heffect (hkeys call List.mem_cons_self) fun label cursor he =>
      hreads label cursor (he ▸ List.mem_cons_self)
    rw [hsplit]
    exact ih hcall hrest (fun later hlater => hkeys later (List.mem_cons_of_mem _ hlater))
      fun label cursor hlater => hreads label cursor (List.mem_cons_of_mem _ hlater)

end

structure SyncSetup.ReadsBack (ledger : τ → Ledger) (setup : SyncSetup σ τ) (t : τ) : Prop where
  atomic : setup.service.Atomic ledger
  reads : ∀ label cursor,
    .saveCursor setup.settings.key label cursor (.ok ()) ∈ (setup.cycle t).trace →
      Json.parse cursor.text = .ok cursor

/-- Once the open assets are loaded, one page is asked for, from the cursor saved last or from the
first one of the source if none was saved. -/
structure ResumesFrom (saved : List (CursorLabel × Cursor)) (calls : List Event) : Prop where
  asks : (∃ key records, .loadActive key (.ok records) ∈ calls) → ∃ origin page,
    calls.filterMap page? = [(origin, page)] ∧
      (saved.getLast?.map Prod.snd = some origin ∨
        saved = [] ∧ .initCursor (.ok origin) ∈ calls)
  quiet : (∀ key records, .loadActive key (.ok records) ∉ calls) → calls.filterMap page? = []
  resumed : saved ≠ [] → ∀ answer, .initCursor answer ∉ calls

def SavesAfterStart (call later : Event) : Prop :=
  call.saved?.isSome → ∀ answer, later ≠ .initCursor answer

namespace Cycle

variable {settings : SyncSettings} {calls : List Event} {l l' : Ledger}

theorem Starts.from_saved {saved : List (CursorLabel × Cursor)} {origin : Cursor}
    {label : CursorLabel} (h : Starts l key calls origin label) (keeps : l.Keeps key saved) :
    label = (if saved = [] then .init else .update) ∧
      (saved.getLast?.map Prod.snd = some origin ∨
        saved = [] ∧ .initCursor (.ok origin) ∈ calls) := by
  obtain ⟨found, holds, hmark⟩ := keeps
  cases h with
  | @resumed checkpoint stored =>
    rw [holds.unique stored, Option.map_some] at hmark
    have hsaved : saved ≠ [] := by
      rintro rfl
      cases hmark
    exact ⟨(if_neg hsaved).symm, .inl (by rw [← hmark]; rfl)⟩
  | fresh nothing asked =>
    rw [holds.unique nothing] at hmark
    have hsaved : saved = [] := List.getLast?_eq_none_iff.mp hmark.symm
    exact ⟨(if_pos hsaved).symm, .inr ⟨hsaved, asked⟩⟩

theorem CycleTrace.saves_after_start {ended : CycleEnd} (h : CycleTrace settings calls ended) :
    calls.Pairwise SavesAfterStart := by
  obtain ⟨starting, rest, started, rfl, hstart, hrest⟩ := h.starting
  have hunsaved : ∀ call ∈ starting, ¬ call.saved?.isSome := by
    intro call hcall
    rw [List.filterMap_eq_nil_iff.mp (saved?_eq_nil hstart.not_commits) call hcall]
    exact Bool.noConfusion
  refine List.pairwise_append.mpr ⟨?_, ?_, fun call hcall _ _ hsaved => ?_⟩
  · exact List.pairwise_iff_forall_sublist.mpr fun hpair hsaved =>
      absurd hsaved (hunsaved _ (hpair.subset List.mem_cons_self))
  · exact List.pairwise_iff_forall_sublist.mpr fun hpair _ answer he =>
      hrest answer (he ▸ hpair.subset (by simp))
  · exact absurd hsaved (hunsaved call hcall)

end Cycle

variable {setup : SyncSetup σ τ} {t : τ} {saved : List (CursorLabel × Cursor)}

theorem SyncSetup.keeps_saved (h : setup.ReadsBack ledger t)
    (keeps : (ledger t).Keeps setup.settings.key saved) :
    (ledger (setup.cycle t).store).Keeps setup.settings.key
      (saved ++ (setup.cycle t).trace.filterMap Event.saved?) := by
  exact keeps.calls (setup.cycle_cleanEffect h.atomic t) (setup.cycle_keys t) h.reads

theorem SyncSetup.resumes (h : setup.ReadsBack ledger t)
    (keeps : (ledger t).Keeps setup.settings.key saved) :
    ResumesFrom saved (setup.cycle t).trace := by
  have heffect := setup.cycle_effect h.atomic.toFaithful t
  have hresumed : saved ≠ [] → ∀ answer, .initCursor answer ∉ (setup.cycle t).trace := by
    intro hsaved answer hcall
    obtain ⟨found, holds, hmark⟩ := keeps
    rw [holds.unique ((setup.cycle_trace t).fresh heffect hcall)] at hmark
    exact hsaved (List.getLast?_eq_none_iff.mp hmark.symm)
  rcases setup.cycle_planned h.atomic.toFaithful t with ⟨idle, -⟩ | ⟨plan, origin, page, planned, -⟩
  · refine ⟨?_, fun _ => idle.pages, hresumed⟩
    rintro ⟨other, records, hload⟩
    exact absurd hload (idle.unloaded other records)
  · refine ⟨fun _ => ⟨origin, page, planned.pages, (planned.starts.from_saved keeps).2⟩, ?_, hresumed⟩
    exact fun hunloaded => absurd ((planned.loads _).mpr rfl) (hunloaded _ _)

theorem SyncSetup.saves_labelled (h : setup.ReadsBack ledger t)
    (keeps : (ledger t).Keeps setup.settings.key saved) :
    (setup.cycle t).trace.filterMap Event.saved? = [] ∨
      ∃ cursor, (setup.cycle t).trace.filterMap Event.saved? =
        [(if saved = [] then .init else .update, cursor)] := by
  rcases setup.cycle_planned h.atomic.toFaithful t with ⟨idle, -⟩ | ⟨plan, origin, page, planned, pursues⟩
  · exact .inl (Cycle.saved?_eq_nil idle.quiet)
  · rw [pursues.saved, (planned.starts.from_saved keeps).1]
    split
    · exact .inr ⟨_, rfl⟩
    · exact .inl rfl

namespace SyncRun

variable {t₀ : τ} {history : List (CycleRun σ τ)}

theorem keeps_saved (run : SyncRun key ledger (SyncSetup.ReadsBack ledger) t₀ history t)
    (hnone : (ledger t₀).Holds key none) : (ledger t).Keeps key (savedBy history) := by
  induction run with
  | start => exact ⟨none, hnone, rfl⟩
  | cycle _ hkey reads ih =>
    subst hkey
    rw [savedBy_append]
    exact SyncSetup.keeps_saved reads ih
  | elsewhere _ same ih => exact ih.of_cursors same.cursor

theorem labels (run : SyncRun key ledger (SyncSetup.ReadsBack ledger) t₀ history t)
    (hnone : (ledger t₀).Holds key none) :
    ∀ n label cursor, (savedBy history)[n]? = some (label, cursor) →
      label = if n = 0 then .init else .update := by
  induction run with
  | start => simp [savedBy]
  | @cycle history t run setup hkey reads ih =>
    subst hkey
    intro n label cursor hn
    rw [savedBy_append] at hn
    rcases setup.saves_labelled reads (run.keeps_saved hnone) with hnothing | ⟨last, hlast⟩
    · rw [hnothing, List.append_nil] at hn
      exact ih n label cursor hn
    · rw [hlast] at hn
      by_cases hold : n < (savedBy history).length
      · rw [List.getElem?_append_left hold] at hn
        exact ih n label cursor hn
      · obtain ⟨hlt, hget⟩ := List.getElem?_eq_some_iff.mp hn
        have hlen : n = (savedBy history).length := by
          simp at hlt
          omega
        subst hlen
        simp only [List.getElem_concat_length] at hget
        cases hget
        simp only [List.length_eq_zero_iff]
  | elsewhere _ _ ih => exact ih

theorem saves_after_start (run : SyncRun key ledger (SyncSetup.ReadsBack ledger) t₀ history t)
    (hnone : (ledger t₀).Holds key none) :
    (history.flatMap CycleRun.trace).Pairwise SavesAfterStart := by
  induction run with
  | start => exact .nil
  | @cycle history t run setup hkey reads ih =>
    subst hkey
    rw [List.flatMap_append, List.flatMap_singleton]
    refine List.pairwise_append.mpr ⟨ih, (setup.cycle_trace t).saves_after_start, ?_⟩
    intro call hcall later hlater hsaved answer he
    have hmark : savedBy history ≠ [] := by
      intro hnothing
      rw [List.filterMap_eq_nil_iff.mp hnothing call hcall] at hsaved
      cases hsaved
    exact (setup.resumes reads (run.keeps_saved hnone)).resumed hmark answer (he ▸ hlater)
  | elsewhere _ _ ih => exact ih

theorem cursors_resumed (run : SyncRun key ledger (SyncSetup.ReadsBack ledger) t₀ history t)
    (hnone : (ledger t₀).Holds key none) :
    (∀ before cycle after, history = before ++ cycle :: after →
      ResumesFrom (savedBy before) cycle.trace) ∧
    (history.flatMap CycleRun.trace).Pairwise SavesAfterStart ∧
    ∀ n label cursor, (savedBy history)[n]? = some (label, cursor) →
      label = if n = 0 then .init else .update := by
  refine ⟨fun before cycle after h => ?_, run.saves_after_start hnone, run.labels hnone⟩
  obtain ⟨setup, t₁, hbefore, rfl, reads, rfl, -⟩ := run.split h
  exact setup.resumes reads (hbefore.keeps_saved hnone)

theorem cursors_resumed_after_refusal :
    let settings : SyncSettings := ⟨⟨"jobs", "local"⟩, 1, 0, by decide⟩
    let source : Source Unit := {
      name := "jobs"
      initCursor := fun s => (.ok (lineCursor 0), s)
      firstPage? := fun cursor _ s =>
        (some (.ok ⟨.pending [], lineCursor (cursor.count?.getD 0 + 1)⟩), s)
      fetch := fun _ s => (.crashed, s) }
    let service : Refusals → TrackingService (Refusing Embedded) :=
      Refusing.service (Embedded.service "now")
    let refusing : SyncSetup Unit (Refusing Embedded) := ⟨settings, source, (),
      service fun call _ => if call = .saveCursor then some .lockPoisoned else none⟩
    let calm : SyncSetup Unit (Refusing Embedded) := ⟨settings, source, (), service fun _ _ => none⟩
    let first := refusing.cycle ⟨.empty, []⟩
    let second := calm.cycle first.store
    let third := calm.cycle second.store
    ResumesFrom (savedBy [first, second]) third.trace ∧
      (savedBy [first, second, third]).map (fun (label, cursor) => (label, cursor.count?)) =
        [(.init, some 1), (.update, some 2)] := by
  intro settings source service refusing calm first second third
  have hreads : ∀ (setup : SyncSetup Unit (Refusing Embedded)) t,
      setup.service.Atomic (fun s => s.inner.tables.ledger) →
      ((setup.cycle t).trace.filterMap Event.saved?).all (·.2.count?.isSome) →
      setup.ReadsBack (fun s => s.inner.tables.ledger) t := by
    refine fun setup t atomic hcounts => ⟨atomic, fun label cursor hcall => ?_⟩
    apply Cursor.parse_text
    exact List.all_eq_true.mp hcounts (label, cursor) (List.mem_filterMap.mpr ⟨_, hcall, rfl⟩)
  have hatomic : ∀ refusals, (service refusals).Atomic fun s => s.inner.tables.ledger :=
    Refusing.service_atomic (Embedded.service_atomic "now")
  have hfirst : refusing.ReadsBack (fun s => s.inner.tables.ledger) ⟨.empty, []⟩ :=
    hreads refusing _ (hatomic _) (by decide +kernel)
  have hsecond : calm.ReadsBack (fun s => s.inner.tables.ledger) first.store :=
    hreads calm _ (hatomic _) (by decide +kernel)
  have hthird : calm.ReadsBack (fun s => s.inner.tables.ledger) second.store :=
    hreads calm _ (hatomic _) (by decide +kernel)
  have unstarted : SyncRun (σ := Unit) settings.key (fun s => s.inner.tables.ledger)
      (SyncSetup.ReadsBack fun s => s.inner.tables.ledger) (⟨.empty, []⟩ : Refusing Embedded) []
      ⟨.empty, []⟩ := .start
  have aborted := unstarted.cycle rfl hfirst
  have committed := aborted.cycle rfl hsecond
  have resumed := committed.cycle rfl hthird
  exact ⟨(resumed.cursors_resumed trivial).1 [first, second] third [] rfl, by decide +kernel⟩

end SyncRun

end AssetSync
