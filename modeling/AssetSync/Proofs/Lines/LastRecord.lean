import AssetSync.Proofs.Lines.Fetch
import Mathlib.Data.List.Forall2

namespace AssetSync

namespace LinesConfig

variable {config : LinesConfig} {lines : List Line} {id : AssetId} {value : Json}

def LastRecord (config : LinesConfig) (lines : List Line) (id : AssetId) (value : Json) : Prop :=
  ∃ before line after, lines = before ++ line :: after ∧
    config.record? line = some ⟨id, value⟩ ∧ id ∉ config.ids after

theorem exists_lastRecord (h : id ∈ config.ids lines) :
    ∃ value, config.LastRecord lines id value := by
  induction lines with
  | nil => cases h
  | cons line rest ih =>
    by_cases hrest : id ∈ config.ids rest
    · obtain ⟨value, before, last, after, hsplit, hlast⟩ := ih hrest
      exact ⟨value, line :: before, last, after, by rw [hsplit, List.cons_append], hlast⟩
    · cases hrecord : config.record? line with
      | none =>
        rw [ids_cons_of_none hrecord] at h
        exact absurd h hrest
      | some r =>
        rw [ids_cons_of_some hrecord] at h
        obtain rfl : id = r.id := (List.mem_cons.mp h).resolve_right hrest
        exact ⟨r.value, [], line, rest, rfl, hrecord, hrest⟩

theorem LastRecord.latest? (h : config.LastRecord lines id value) :
    LinesConfig.latest? (config.records lines) id = some value := by
  obtain ⟨before, line, after, rfl, hrecord, hafter⟩ := h
  have hrecords : config.records (before ++ line :: after) =
      config.records before ++ ⟨id, value⟩ :: config.records after := by
    simp [records, hrecord]
  have hlater : (config.records after).reverse.find? (·.id == id) = none := by
    apply List.find?_eq_none.mpr
    intro r hr hid
    apply hafter
    exact List.mem_map.mpr ⟨r, List.mem_reverse.mp hr, beq_iff_eq.mp hid⟩
  rw [LinesConfig.latest?, hrecords, List.reverse_append, List.reverse_cons, List.append_assoc,
    List.find?_append, hlater, Option.none_or, List.singleton_append, List.find?_cons_of_pos (by simp),
    Option.map_some]

theorem LastRecord.mem_ids (h : config.LastRecord lines id value) : id ∈ config.ids lines := by
  apply latest?_isSome.mp
  rw [h.latest?]
  rfl

theorem LastRecord.iff_eq (h : config.LastRecord lines id value) {other : Json} :
    config.LastRecord lines id other ↔ other = value := by
  constructor
  · intro hother
    exact Option.some.inj (hother.latest?.symm.trans h.latest?)
  · rintro rfl
    exact h

theorem latest?_eq_none_iff : latest? (config.records lines) id = none ↔ id ∉ config.ids lines := by
  rw [← Option.not_isSome_iff_eq_none, latest?_isSome]
  rfl

def Terminal (config : LinesConfig) (value : Json) : Prop :=
  ∃ name ∈ config.terminalStates, value.field? config.stateField = some (.str name)

theorem isTerminal_iff : config.isTerminal value ↔ config.Terminal value := by
  unfold isTerminal Terminal
  rcases value.field? config.stateField with _ | field
  · simp
  · cases field <;> simp [Json.string?]

structure Reflects (config : LinesConfig) (lines : List Line) (asset answered : Asset) : Prop where
  id : answered.id = asset.id
  retryCount : answered.retryCount = asset.retryCount
  failed : answered.state = .failedRequest ↔ asset.id ∉ config.ids lines
  finished : answered.state = .finished ↔
    ∃ value, config.LastRecord lines asset.id value ∧ config.Terminal value
  active : answered.state = .active ↔
    ∃ value, config.LastRecord lines asset.id value ∧ ¬ config.Terminal value

theorem LastRecord.currentState (h : config.LastRecord lines id value) :
    config.currentState lines id = if config.isTerminal value then .finished else .active := by
  rw [LinesConfig.currentState, h.latest?]
  rfl

theorem currentState_of_not_mem (h : id ∉ config.ids lines) :
    config.currentState lines id = .failedRequest := by
  rw [currentState, latest?_eq_none_iff.mpr h]
  rfl

theorem reflects_update (config : LinesConfig) (lines : List Line) (asset : Asset) :
    config.Reflects lines asset (config.update lines asset) := by
  by_cases hid : asset.id ∈ config.ids lines
  · obtain ⟨value, hvalue⟩ := exists_lastRecord hid
    have hstate : (config.update lines asset).state =
        if config.isTerminal value then .finished else .active := hvalue.currentState
    refine ⟨rfl, rfl, ?_, ?_, ?_⟩
    · rw [hstate]
      constructor
      · split <;> exact AssetState.noConfusion
      · exact fun hnot => absurd hid hnot
    · simp only [hstate, hvalue.iff_eq, exists_eq_left, ← isTerminal_iff]
      split <;> simp [*]
    · simp only [hstate, hvalue.iff_eq, exists_eq_left, ← isTerminal_iff]
      split <;> simp [*]
  · have hstate : (config.update lines asset).state = .failedRequest := currentState_of_not_mem hid
    have hnone : ∀ value, ¬ config.LastRecord lines asset.id value :=
      fun value hvalue => hid hvalue.mem_ids
    refine ⟨rfl, rfl, ?_, ?_, ?_⟩
    · simp [hstate, hid]
    · simp [hstate, hnone]
    · simp [hstate, hnone]

theorem answer_reflects (config : LinesConfig) (lines : List Line) {requested : List Asset}
    (hnodup : (requested.map Asset.id).Nodup) :
    List.Forall₂ (config.Reflects lines) requested (config.answer lines requested).assets := by
  have hassets : (config.answer lines requested).assets = requested.map (config.update lines) := by
    rw [answer_eq hnodup]
    simp only
    split <;> rfl
  rw [hassets]
  apply List.forall₂_map_right_iff.mpr
  apply List.forall₂_same.mpr
  intro asset _
  exact config.reflects_update lines asset

theorem lastRecords (config : LinesConfig) (lines : List Line) (ids : List AssetId) :
    List.Forall₂ (config.LastRecord lines) (ids.filter (· ∈ config.ids lines))
      (ids.filterMap (latest? (config.records lines))) := by
  induction ids with
  | nil => exact .nil
  | cons id rest ih =>
    by_cases hid : id ∈ config.ids lines
    · obtain ⟨value, hvalue⟩ := exists_lastRecord hid
      rw [List.filter_cons_of_pos (by simpa using hid), List.filterMap_cons_some hvalue.latest?]
      exact .cons hvalue ih
    · rw [List.filter_cons_of_neg (by simpa using hid),
        List.filterMap_cons_none (latest?_eq_none_iff.mpr hid)]
      exact ih

theorem answer_data_cases (config : LinesConfig) (lines : List Line) {requested : List Asset}
    (hnodup : (requested.map Asset.id).Nodup) :
    let known := (requested.map Asset.id).filter (· ∈ config.ids lines)
    (config.answer lines requested).data = none ∧ known = [] ∨
      ∃ values, (config.answer lines requested).data = some (.obj [("assets", .arr values)]) ∧
        known ≠ [] ∧ List.Forall₂ (config.LastRecord lines) known values := by
  intro known
  have hrecords : List.Forall₂ (config.LastRecord lines) known _ := lastRecords config lines _
  rw [answer_eq hnodup]
  generalize (requested.map Asset.id).filterMap (latest? (config.records lines)) = values
    at hrecords ⊢
  cases values with
  | nil => exact .inl ⟨rfl, List.forall₂_nil_right_iff.mp hrecords⟩
  | cons value rest =>
    refine .inr ⟨value :: rest, rfl, ?_, hrecords⟩
    intro hnil
    have hlength := hrecords.length_eq
    rw [hnil] at hlength
    cases hlength

def concerns (config : LinesConfig) (ids : List AssetId) (line : Line) : Bool :=
  (config.record? line).any (·.id ∈ ids)

theorem records_filter (config : LinesConfig) (ids : List AssetId) (lines : List Line) :
    config.records (lines.filter (config.concerns ids)) =
      (config.records lines).filter (·.id ∈ ids) := by
  rw [records, records, List.filterMap_filter, List.filter_filterMap]
  congr 1
  funext line
  rw [concerns]
  cases config.record? line <;> simp [Option.filter]

theorem latest?_filter {ids : List AssetId} (h : id ∈ ids) (records : List LineRecord) :
    latest? (records.filter (·.id ∈ ids)) id = latest? records id := by
  rw [latest?, latest?, ← List.filter_reverse, find?_filter_mem LineRecord.id _ h]

theorem answer_congr {requested : List Asset} {other : List Line}
    (hnodup : (requested.map Asset.id).Nodup)
    (h : other.filter (config.concerns (requested.map Asset.id)) =
      lines.filter (config.concerns (requested.map Asset.id))) :
    config.answer other requested = config.answer lines requested := by
  have hlatest : ∀ id ∈ requested.map Asset.id,
      latest? (config.records other) id = latest? (config.records lines) id := by
    intro id hid
    rw [← latest?_filter hid, ← records_filter, h, records_filter, latest?_filter hid]
  have hvalues : (requested.map Asset.id).filterMap (latest? (config.records other)) =
      (requested.map Asset.id).filterMap (latest? (config.records lines)) :=
    List.filterMap_congr hlatest
  have hassets : requested.map (config.update other) = requested.map (config.update lines) := by
    apply List.map_congr_left
    intro asset hasset
    rw [update, update, currentState, currentState, hlatest _ (List.mem_map_of_mem hasset)]
  rw [answer_eq hnodup, answer_eq hnodup, hvalues, hassets]

variable {σ : Type}

theorem fetch_eq {read : TextReader σ} {s : σ} {text : String} {request : Batch}
    (readable : read config.path s = .ok text) (nonempty : request.assets ≠ []) :
    (config.source read).fetch request s =
      (.answer (config.answer (Line.complete text) request.assets), s) := by
  simp [source, fetch, readLines, readable, nonempty, Except.map]

theorem fetch_reflects (config : LinesConfig) (read : TextReader σ) {s : σ} {text : String}
    {request : Batch} (readable : read config.path s = .ok text) (nonempty : request.assets ≠ [])
    (distinct : request.ids.Nodup) :
    let lines := Line.complete text
    let known := request.ids.filter (· ∈ config.ids lines)
    ∃ response, (config.source read).fetch request s = (.answer response, s) ∧
      List.Forall₂ (config.Reflects lines) request.assets response.assets ∧
      (response.data = none ↔ known = []) ∧
      (∀ data, response.data = some data → ∃ values, data = .obj [("assets", .arr values)] ∧
        List.Forall₂ (config.LastRecord lines) known values) ∧
      ∀ s' other, read config.path s' = .ok other →
        (Line.complete other).filter (config.concerns request.ids) =
          lines.filter (config.concerns request.ids) →
        (config.source read).fetch request s' = (.answer response, s') := by
  intro lines known
  refine ⟨config.answer lines request.assets, fetch_eq readable nonempty,
    config.answer_reflects lines distinct, ?_, ?_, ?_⟩
  · rcases config.answer_data_cases lines distinct with ⟨hdata, hknown⟩ | ⟨values, hdata, hknown, -⟩
    · exact iff_of_true hdata hknown
    · exact iff_of_false (by simp [hdata]) hknown
  · intro data hsome
    rcases config.answer_data_cases lines distinct with ⟨hdata, -⟩ | ⟨values, hdata, -, hvalues⟩
    · rw [hdata] at hsome
      cases hsome
    · rw [hdata] at hsome
      exact ⟨values, (Option.some.inj hsome).symm, hvalues⟩
  · intro s' other hother hlines
    rw [fetch_eq hother nonempty, answer_congr distinct hlines]

theorem fetch_reflects_unfinished :
    let config : LinesConfig := ⟨"assets", .fileBeginning, ["done"], "id", "state"⟩
    let text := "\x7b\"id\":7\x7d\n\nunusable\n\x7b\"id\":8\x7d\n\x7b\"id\":\"7\",\"state\":\"done\"\x7d\n\x7b\"id\":9\x7d"
    let request : Batch := .pending [⟨"8", .init, 0⟩, ⟨"9", .active, 1⟩, ⟨"7", .failedRequest, 2⟩]
    reader config.path text = .ok text ∧ request.assets ≠ [] ∧ request.ids.Nodup ∧
      ∃ response, (config.source reader).fetch request text = (.answer response, text) ∧
        response.assets = [⟨"8", .active, 0⟩, ⟨"9", .failedRequest, 1⟩, ⟨"7", .finished, 2⟩] ∧
        ∃ first second, response.data = some (.obj [("assets", .arr [first, second])]) ∧
          config.LastRecord (Line.complete text) "8" first ∧
          config.LastRecord (Line.complete text) "7" second := by
  intro config text request
  have readable : reader config.path text = .ok text := rfl
  have nonempty : request.assets ≠ [] := List.cons_ne_nil _ _
  have distinct : request.ids.Nodup := by decide
  have hassets : (config.answer (Line.complete text) request.assets).assets =
      [⟨"8", .active, 0⟩, ⟨"9", .failedRequest, 1⟩, ⟨"7", .finished, 2⟩] := by
    decide +kernel
  have hknown : request.ids.filter (· ∈ config.ids (Line.complete text)) = ["8", "7"] := by
    decide +kernel
  obtain ⟨response, hresponse, -, hnone, hsome, -⟩ :=
    fetch_reflects config reader readable nonempty distinct
  refine ⟨readable, nonempty, distinct, response, hresponse, ?_, ?_⟩
  · rw [fetch_eq readable nonempty] at hresponse
    obtain rfl := Fetched.answer.inj (congrArg Prod.fst hresponse)
    exact hassets
  · rw [hknown] at hnone hsome
    obtain ⟨data, hdata⟩ := Option.ne_none_iff_exists'.mp (mt hnone.mp (List.cons_ne_nil _ _))
    obtain ⟨values, rfl, hvalues⟩ := hsome data hdata
    cases hvalues with
    | @cons _ first _ rest hfirst hrest =>
      cases hrest with
      | @cons _ second _ rest hsecond hrest =>
        cases hrest
        exact ⟨first, second, hdata, hfirst, hsecond⟩

end LinesConfig

end AssetSync
