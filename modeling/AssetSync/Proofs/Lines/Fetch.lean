import AssetSync.Proofs.Lines.Pages

namespace AssetSync

namespace LinesConfig

variable {config : LinesConfig} {lines : List Line} {requested : List Asset}

theorem latest?_isSome {records : List LineRecord} {id : AssetId} :
    (latest? records id).isSome ↔ id ∈ records.map LineRecord.id := by
  simp [latest?]

theorem assign_eq {records : List LineRecord} {taken : List AssetId}
    (hnodup : (requested.map Asset.id).Nodup) (htaken : ∀ asset ∈ requested, asset.id ∉ taken) :
    assign records taken requested =
      requested.map fun asset => (asset, latest? records asset.id) := by
  induction requested generalizing taken with
  | nil => rfl
  | cons asset rest ih =>
    obtain ⟨hnew, hrest⟩ := List.nodup_cons.mp hnodup
    have hfirst : taken.contains asset.id = false := by simpa using htaken asset (by simp)
    rw [assign, ih hrest]
    · simp only [hfirst, Bool.false_eq_true, if_false, List.map_cons]
    · intro other hother hmem
      rcases List.mem_cons.mp hmem with he | hold
      · exact hnew (List.mem_map.mpr ⟨other, hother, he⟩)
      · exact htaken other (by simp [hother]) hold

variable (config lines) in
def currentState (id : AssetId) : AssetState :=
  config.stateOf (latest? (config.records lines) id)

variable (config lines) in
def update (asset : Asset) : Asset :=
  asset.withState (config.currentState lines asset.id)

def Knows (config : LinesConfig) (lines : List Line) (requested : List Asset) : Prop :=
  ∀ asset ∈ requested, asset.id ∈ config.ids lines

theorem exists_latest? {id : AssetId} (h : id ∈ config.ids lines) :
    ∃ value, latest? (config.records lines) id = some value :=
  Option.isSome_iff_exists.mp (latest?_isSome.mpr h)

theorem answer_eq (hnodup : (requested.map Asset.id).Nodup) :
    config.answer lines requested =
      let values := (requested.map Asset.id).filterMap (latest? (config.records lines))
      if values.isEmpty then .pending (requested.map (config.update lines))
      else .withData (.obj [("assets", .arr values)]) (requested.map (config.update lines)) := by
  have hassign : assign (lines.filterMap config.record?) [] requested =
      requested.map fun asset => (asset, latest? (config.records lines) asset.id) :=
    assign_eq hnodup (by simp)
  simp only [answer, hassign, List.map_map, List.filterMap_map, Function.comp_def]
  rfl

theorem answer_of_knows (hknows : config.Knows lines requested)
    (hnodup : (requested.map Asset.id).Nodup) (hne : requested ≠ []) :
    ∃ values, config.answer lines requested =
        .withData (.obj [("assets", .arr values)]) (requested.map (config.update lines)) ∧
      ∀ asset ∈ requested, ∃ value ∈ values,
        latest? (config.records lines) asset.id = some value := by
  let values := (requested.map Asset.id).filterMap (latest? (config.records lines))
  have hvalues : ∀ asset ∈ requested, ∃ value ∈ values,
      latest? (config.records lines) asset.id = some value := by
    intro asset hasset
    obtain ⟨value, hvalue⟩ := exists_latest? (hknows asset hasset)
    exact ⟨value, List.mem_filterMap.mpr ⟨_, List.mem_map_of_mem hasset, hvalue⟩, hvalue⟩
  refine ⟨values, ?_, hvalues⟩
  obtain ⟨asset, hasset⟩ := List.exists_mem_of_ne_nil requested hne
  obtain ⟨value, hvalue, -⟩ := hvalues asset hasset
  have hempty : ¬ values.isEmpty = true :=
    mt List.isEmpty_iff.mp (List.ne_nil_of_mem hvalue)
  rw [answer_eq hnodup]
  exact if_neg hempty

theorem stateOf_some (value : Json) :
    config.stateOf (some value) = .finished ∨ config.stateOf (some value) = .active := by
  simp only [stateOf]
  split
  · exact .inl rfl
  · exact .inr rfl

theorem applyAnswer_update (hknows : config.Knows lines requested) :
    applyAnswer requested (requested.map (config.update lines)) =
      requested.map (config.update lines) := by
  refine List.map_congr_left fun asset hasset => ?_
  have hfound : ((requested.map (config.update lines)).find? (·.id == asset.id)).map Asset.state =
      some (config.currentState lines asset.id) := by
    rw [List.find?_map]
    rcases hother : requested.find? ((·.id == asset.id) ∘ config.update lines) with _ | other
    · exact absurd (List.find?_eq_none.mp hother asset hasset) (by simp [update, Asset.withState])
    · have hid : other.id = asset.id := by
        simpa [update, Asset.withState] using List.find?_some hother
      rw [hother, Option.map_some, Option.map_some, update, hid]
      rfl
  obtain ⟨value, hvalue⟩ := exists_latest? (hknows asset hasset)
  rw [answeredState?, hfound, update, currentState, hvalue]
  rcases config.stateOf_some value with hstate | hstate <;> rw [hstate] <;> rfl

end LinesConfig

end AssetSync
