import AssetSync.Proofs.Chain
import AssetSync.Proofs.Cycle.Event
import AssetSync.Proofs.Cycle.FetchSet
import AssetSync.Proofs.Lines.Fetch

namespace AssetSync

variable {τ : Type}

namespace LinesConfig

def Answered (config : LinesConfig) (text : String) : Event → Prop
  | .initCursor answer => answer = config.initCursor reader text
  | .discover cursor size answer => answer = (config.pages reader cursor size text).head?
  | .fetch request answer => answer = ((config.source reader).fetch request text).1
  | _ => True

variable {config : LinesConfig} {text : String}

theorem fetch_state (request : Batch) (text : String) :
    ((config.source reader).fetch request text).2 = text := by
  simp only [source]
  split <;> rfl

theorem answered_of_performed {service : TrackingService τ} {calls : List Event} {t : τ}
    {z : String × τ}
    (h : Chain (Event.Performed (config.source reader) service) calls (text, t) z) :
    ∀ call ∈ calls, config.Answered text call := by
  refine h.forall_mem (I := (·.1 = text)) rfl ?_
  rintro call x y rfl hcall
  cases hcall with
  | tracked hcall => cases hcall <;> exact ⟨rfl, trivial⟩
  | asked hcall =>
    cases hcall with
    | initCursor h =>
      obtain ⟨rfl, rfl⟩ := Prod.mk.inj h
      exact ⟨rfl, rfl⟩
    | discover h =>
      obtain ⟨rfl, rfl⟩ := Prod.mk.inj h
      exact ⟨rfl, rfl⟩
    | fetch h => exact ⟨(congrArg Prod.snd h).symm.trans (fetch_state _ _), by rw [Answered, h]⟩
  | metric => exact ⟨rfl, trivial⟩

theorem fetch_pending {chunk : List Asset} (h : chunk ≠ []) :
    ((config.source reader).fetch (.pending chunk) text).1 =
      .answer (config.answer (Line.complete text) chunk) := by
  simp [source, fetch, Batch.pending, h, readLines, reader, Except.map]

def Delivers (config : LinesConfig) (text : String) (key : SyncerKey) (calls : List Event)
    (id : AssetId) : Prop :=
  ∃ data values value, .savePayload key data (.ok ()) ∈ calls ∧
    data.field? "assets" = some (.arr values) ∧ value ∈ values ∧
    latest? (config.records (Line.complete text)) id = some value

theorem Delivers.mono {key : SyncerKey} {calls more : List Event} {id : AssetId}
    (h : config.Delivers text key calls id) (hmore : calls ⊆ more) :
    config.Delivers text key more id := by
  obtain ⟨data, values, value, hcall, hrest⟩ := h
  exact ⟨data, values, value, hmore hcall, hrest⟩

end LinesConfig

namespace Cycle

open LinesConfig

variable {config : LinesConfig} {text : String} {key : SyncerKey} {calls : List Event}

theorem ChunkTrace.delivers {chunk states : List Asset}
    (h : ChunkTrace key chunk calls (.ok states))
    (answered : ∀ call ∈ calls, config.Answered text call)
    (knows : config.Knows (Line.complete text) chunk) (hnodup : (chunk.map Asset.id).Nodup)
    (hne : chunk ≠ []) :
    states = chunk.map (config.update (Line.complete text)) ∧
      ∀ asset ∈ chunk, config.Delivers text key calls asset.id := by
  obtain ⟨values, hanswer, hvalues⟩ := answer_of_knows knows hnodup hne
  have hfetch : ∀ {fetched}, .fetch (.pending chunk) fetched ∈ calls →
      fetched = .answer (.withData (.obj [("assets", .arr values)])
        (chunk.map (config.update (Line.complete text)))) := by
    intro fetched hcall
    rw [← hanswer, ← fetch_pending hne]
    exact answered _ hcall
  cases h with
  | unfetched e => cases hfetch (List.mem_cons_self ..)
  | silent nothing =>
    cases hfetch (List.mem_cons_self ..)
    simp [Batch.hasData, Batch.withData, Batch.carries] at nothing
  | sent worth payload =>
    cases hfetch (List.mem_cons_self ..)
    cases payload
    refine ⟨applyAnswer_update knows, fun asset hasset => ?_⟩
    obtain ⟨value, hmem, hlatest⟩ := hvalues asset hasset
    exact ⟨.obj [("assets", .arr values)], values, value, by simp, rfl, hmem, hlatest⟩

theorem ForwardTrace.delivers {pieces : List (List Asset)} {states : List Asset}
    (h : ForwardTrace key pieces calls (.ok states))
    (answered : ∀ call ∈ calls, config.Answered text call)
    (knows : config.Knows (Line.complete text) pieces.flatten)
    (hnodup : (pieces.flatten.map Asset.id).Nodup) (hne : ∀ piece ∈ pieces, piece ≠ []) :
    states = pieces.flatten.map (config.update (Line.complete text)) ∧
      ∀ asset ∈ pieces.flatten, config.Delivers text key calls asset.id := by
  generalize hr : (Except.ok states : Except Interrupt (List Asset)) = result at h
  induction h generalizing states with
  | done =>
    cases hr
    exact ⟨rfl, by simp⟩
  | @next chunk rest events later first result hfirst _ ih =>
    cases result with
    | error => cases hr
    | ok others =>
      cases hr
      rw [List.flatten_cons, List.map_append] at hnodup
      obtain ⟨hchunk, hrest, -⟩ := List.nodup_append.mp hnodup
      obtain ⟨rfl, hdelivers⟩ := hfirst.delivers
        (fun call hcall => answered call (by simp [hcall]))
        (fun asset hasset => knows asset (by simp [hasset])) hchunk (hne chunk (by simp))
      obtain ⟨rfl, hlater⟩ := ih (fun call hcall => answered call (by simp [hcall]))
        (fun asset hasset => knows asset (List.mem_append_right chunk hasset)) hrest
        (fun piece hpiece => hne piece (by simp [hpiece])) rfl
      refine ⟨by rw [List.flatten_cons, List.map_append], fun asset hasset => ?_⟩
      rcases List.mem_append.mp hasset with hasset | hasset
      · exact (hdelivers asset hasset).mono fun _ hcall => by simp [hcall]
      · exact (hlater asset hasset).mono fun _ hcall => by simp [hcall]
  | stopped => cases hr

theorem ForwardTrace.delivers_chunks {size : Nat} {positive : 0 < size} {assets states : List Asset}
    (h : ForwardTrace key (chunks size positive assets) calls (.ok states))
    (answered : ∀ call ∈ calls, config.Answered text call)
    (knows : config.Knows (Line.complete text) assets) (hnodup : (assets.map Asset.id).Nodup) :
    states = assets.map (config.update (Line.complete text)) ∧
      ∀ asset ∈ assets, config.Delivers text key calls asset.id := by
  have hdelivers := h.delivers answered (by rwa [chunks_flatten]) (by rwa [chunks_flatten])
    fun _ => ne_nil_of_mem_chunks
  rwa [chunks_flatten] at hdelivers

end Cycle

end AssetSync
