import AssetSync.Proofs.Cycle.Invariant
import AssetSync.Proofs.Cycle.Replies
import Mathlib.Algebra.Ring.Nat

namespace AssetSync

variable {σ τ : Type}

namespace Event

def failsFetch : Event → Bool
  | fetch _ (.failed _) => true
  | _ => false

theorem failsFetch_of_closing {call : Event} (h : call.Closing) : call.failsFetch = false := by
  cases call with
  | recordCycle | metric => rfl
  | _ => exact h.elim

end Event

structure CycleProgress.Tallies (p : CycleProgress) (calls : List Event) : Prop where
  payloads : p.payloadsSent = (calls.filterMap Event.accepted?).length
  bytes : p.bytesSent =
    ((calls.filterMap Event.accepted?).map fun data => data.text.utf8ByteSize).sum
  failures : p.fetchErrors = calls.countP Event.failsFetch

namespace CycleProgress.Tallies

variable {p : CycleProgress} {calls more : List Event}

theorem start : CycleProgress.start.Tallies [] :=
  ⟨rfl, rfl, rfl⟩

theorem append (h : p.Tallies calls) (haccepted : more.filterMap Event.accepted? = [])
    (hfails : ∀ call ∈ more, call.failsFetch = false) : p.Tallies (calls ++ more) := by
  have hzero : more.countP Event.failsFetch = 0 :=
    List.countP_eq_zero.mpr fun call hcall => by simp [hfails call hcall]
  constructor
  · rw [List.filterMap_append, haccepted, List.append_nil, h.payloads]
  · rw [List.filterMap_append, haccepted, List.append_nil, h.bytes]
  · rw [List.countP_append, hzero, Nat.add_zero, h.failures]

theorem log (h : p.Tallies calls) (event : Event) (haccepted : event.accepted? = none)
    (hfails : event.failsFetch = false) : p.Tallies (calls ++ [event]) :=
  h.append (by simp [haccepted]) (by simpa using hfails)

theorem send (h : p.Tallies calls) (key : SyncerKey) (data : Json) :
    CycleProgress.Tallies
      { p with
        payloadsSent := p.payloadsSent + 1, bytesSent := p.bytesSent + data.text.utf8ByteSize }
      (calls ++ [.savePayload key data (.ok ())]) where
  payloads := by simp [h.payloads, Event.accepted?]
  bytes := by simp [h.bytes, Event.accepted?]
  failures := by simp [h.failures, Event.failsFetch]

theorem fail (h : p.Tallies calls) (request : Batch) (e : SourceError) :
    CycleProgress.Tallies { p with fetchErrors := p.fetchErrors + 1 }
      (calls ++ [.fetch request (.failed e)]) where
  payloads := by simp [h.payloads, Event.accepted?, List.filterMap_cons]
  bytes := by simp [h.bytes, Event.accepted?, List.filterMap_cons]
  failures := by simp [h.failures, Event.failsFetch]

end CycleProgress.Tallies

namespace Cycle

variable {source : Source σ} {service : TrackingService τ} {settings : SyncSettings}
  {key : SyncerKey}

def Tallied (w : CycleWorld σ τ) : Prop :=
  w.progress.Tallies w.trace

theorem tallied_ignores {event : Event} (haccepted : event.accepted? = none)
    (hfails : event.failsFetch = false) :
    Ignores (Tallied : CycleWorld σ τ → Prop) event :=
  fun _ h _ _ => h.log event haccepted hfails

theorem tallied_overlooks {change : CycleProgress → CycleProgress}
    (payloads : ∀ p, (change p).payloadsSent = p.payloadsSent)
    (bytes : ∀ p, (change p).bytesSent = p.bytesSent)
    (failures : ∀ p, (change p).fetchErrors = p.fetchErrors) :
    Overlooks (Tallied : CycleWorld σ τ → Prop) change :=
  fun w h => ⟨(payloads w.progress).trans h.payloads, (bytes w.progress).trans h.bytes,
    (failures w.progress).trans h.failures⟩

theorem tallied_steady : Steady (Tallied : CycleWorld σ τ → Prop) where
  metric _ := tallied_ignores rfl rfl
  discover _ _ _ := tallied_ignores rfl rfl
  saveStates _ _ _ := tallied_ignores rfl rfl
  saveCursor _ _ _ _ := tallied_ignores rfl rfl
  pageError _ := tallied_overlooks (fun _ => rfl) (fun _ => rfl) fun _ => rfl
  assets _ := tallied_overlooks (fun _ => rfl) (fun _ => rfl) fun _ => rfl

theorem start_tallied : Preserves Tallied (start source service key) := by
  apply Preserves.bind (.track fun _ => tallied_ignores rfl rfl)
  intro answer
  refine .bind (.orAbort _ answer) ?_
  rintro (_ | checkpoint)
  · refine .bind (.ask fun _ => tallied_ignores rfl rfl) ?_
    rintro (e | cursor)
    · exact .throw _
    · exact .pure _
  · exact .pure _

theorem loadOpen_tallied : Preserves Tallied (loadOpen service settings : Step σ τ Budgeted) := by
  apply Preserves.bind (.track fun _ => tallied_ignores rfl rfl)
  intro answer
  refine .bind (.orAbort _ answer) fun records => ?_
  exact .bind (.note (tallied_overlooks (fun _ => rfl) (fun _ => rfl) fun _ => rfl)) fun _ =>
    .bind (.measure (tallied_steady.metric _)) fun _ =>
      .bind (.measure (tallied_steady.metric _)) fun _ => .pure _

theorem send_tallied (data : Json) :
    Preserves Tallied (send service key data : Step σ τ Unit) := by
  intro w h
  have hsize := h.log (.metric (.payloadBytes data.text.utf8ByteSize)) rfl rfl
  rcases hsave : service.savePayload key data w.store with ⟨e | ⟨⟩, t⟩
  · simp only [Cycle.send, bind_apply, measure_apply, track_apply, orAbort_error, CycleWorld.log,
      hsave]
    exact (hsize.log (.savePayload key data (.error e)) rfl rfl).log (.metric (.sendTime .zero))
      rfl rfl
  · simp only [Cycle.send, bind_apply, measure_apply, track_apply, orAbort_ok, CycleWorld.log,
      hsave, note_apply]
    exact (hsize.send key data).log (.metric (.sendTime .zero)) rfl rfl

theorem forward_tallied (chunk : List Asset) :
    Preserves Tallied (forward source service key chunk) := by
  have hmetric (m : Metric) : Preserves Tallied (measure m : Step σ τ Unit) :=
    .measure (tallied_steady.metric m)
  intro w h
  rcases hfetch : source.fetch (.pending chunk) w.source with ⟨batch | e | _, s⟩
  · rw [forward, bind_apply, ask_apply, hfetch]
    refine Preserves.bind (hmetric (.fetchTime .zero)) (fun _ => ?_) _
      (h.log (.fetch (.pending chunk) (.answer batch)) rfl rfl)
    cases batch.payload? with
    | some data => exact .bind (send_tallied data) fun _ => .pure _
    | none => exact .pure _
  · simp only [forward, bind_apply, measure_apply, ask_apply, note_apply, CycleWorld.log, hfetch]
    exact ((h.fail (.pending chunk) e).log (.metric (.fetchTime .zero)) rfl rfl).log
      (.metric (.fetchError e.display)) rfl rfl
  · simp only [forward, bind_apply, ask_apply, hfetch]
    exact h.log (.fetch (.pending chunk) .crashed) rfl rfl

end Cycle

open AssetSync.Cycle

theorem runCycle_tallies {source : Source σ} {service : TrackingService τ}
    {settings : SyncSettings} {s : σ} {t : τ} {report : CycleReport}
    (h : (runCycle source service settings s t).ended = .reported report) :
    report.toCycleProgress.Tallies (runCycle source service settings s t).trace := by
  have hbody : Tallied (body source service settings ⟨s, t, .start, []⟩).2 :=
    tallied_steady.body start_tallied loadOpen_tallied forward_tallied _ .start
  obtain ⟨hprogress, closing, htrace, closed⟩ := conclude_reported h
  rw [hprogress]
  change CycleProgress.Tallies _ (conclude service settings.key _ _).2.trace
  rw [htrace]
  exact hbody.append (accepted?_eq_nil fun call hcall => .inr (closed call hcall))
    fun call hcall => Event.failsFetch_of_closing (closed call hcall)

end AssetSync
