import AssetSync.Proofs.Lines.Convergence
import AssetSync.Proofs.Lines.Replies
import AssetSync.Proofs.Store.Payloads

/-!
The payloads of a file as the embedded store gives them back. A payload wraps the values of records
two levels deeper than they stood on their lines, so a record may be read from the file and forwarded,
and its payload be too deep to be read again.
-/

namespace AssetSync

open AssetSync.Cycle LinesConfig Embedded
open Json (Plain maxDepth)

namespace LinesConfig

def payloadOf (values : List Json) : Json :=
  .obj [("assets", .arr values)]

variable {config : LinesConfig} {lines : List Line} {text : String} {values : List Json}
  {data value : Json}

theorem plain_payloadOf {depth : Nat} :
    (payloadOf values).Plain (depth + 2) ↔ ∀ value ∈ values, value.Plain depth := by
  constructor
  · intro h
    cases h with
    | obj _ plain =>
      have harr : (Json.arr values).Plain (depth + 1) := plain _ List.mem_cons_self
      cases harr with
      | arr plain => exact plain
  · intro h
    refine .obj (List.pairwise_singleton _ _) fun field hfield => ?_
    rw [List.mem_singleton.mp hfield]
    exact .arr h

def recordValues (config : LinesConfig) (lines : List Line) : List Json :=
  (config.records lines).map LineRecord.value

theorem plain_of_mem_recordValues (h : value ∈ config.recordValues lines) (whole : value.Whole) :
    value.Plain maxDepth := by
  obtain ⟨record, hrecord, rfl⟩ := List.mem_map.mp h
  obtain ⟨line, -, hline⟩ := List.mem_filterMap.mp hrecord
  unfold record? at hline
  split at hline
  · cases hline
  split at hline
  · cases hline
  · rename_i hread
    obtain ⟨id, -, rfl⟩ := Option.map_eq_some_iff.mp hline
    exact Json.plain_of_readChars hread whole

theorem mem_of_mem_assign {records : List LineRecord} {taken : List AssetId}
    {requested : List Asset} {asset : Asset}
    (h : (asset, some value) ∈ assign records taken requested) :
    value ∈ records.map LineRecord.value := by
  induction requested generalizing taken with
  | nil => cases h
  | cons first rest ih =>
    rw [assign] at h
    rcases List.mem_cons.mp h with hfirst | hrest
    · have hfound : latest? records first.id = some value := by
        have hvalue := (congrArg Prod.snd hfirst).symm
        simp only at hvalue
        split at hvalue
        · cases hvalue
        · exact hvalue
      obtain ⟨record, hrecord, rfl⟩ := Option.map_eq_some_iff.mp hfound
      exact List.mem_map_of_mem (List.mem_reverse.mp (List.mem_of_find?_eq_some hrecord))
    · exact ih hrest

def Bundles (config : LinesConfig) (lines : List Line) (values : List Json) : Prop :=
  values ≠ [] ∧ values ⊆ config.recordValues lines

theorem Bundles.grow (h : config.Bundles lines values) (added : List Line) :
    config.Bundles (lines ++ added) values := by
  refine ⟨h.1, fun value hvalue => ?_⟩
  rw [recordValues, records, List.filterMap_append, List.map_append]
  exact List.mem_append_left _ (h.2 hvalue)

theorem Bundles.plain (h : config.Bundles lines values)
    (whole : ∀ value ∈ config.recordValues lines, value.Whole) :
    (payloadOf values).Plain (maxDepth + 2) := by
  apply plain_payloadOf.mpr
  intro value hvalue
  exact plain_of_mem_recordValues (h.2 hvalue) (whole value (h.2 hvalue))

theorem map_payloadOf_eq {sent : List Json} {bundled : List (List Json)}
    (whole : ∀ value ∈ config.recordValues lines, value.Whole)
    (h : ∀ data ∈ sent, ∃ values, data = payloadOf values ∧ config.Bundles lines values)
    (h' : ∀ values ∈ bundled, config.Bundles lines values)
    (hchars : sent.map Json.chars = (bundled.map payloadOf).map Json.chars) :
    sent = bundled.map payloadOf := by
  have hsent : ∀ data ∈ sent, data.Plain (maxDepth + 2) := by
    intro data hdata
    obtain ⟨values, rfl, hvalues⟩ := h data hdata
    exact hvalues.plain whole
  have hbundled : ∀ data ∈ bundled.map payloadOf, data.Plain (maxDepth + 2) := by
    intro data hdata
    obtain ⟨values, hvalues, rfl⟩ := List.mem_map.mp hdata
    exact (h' values hvalues).plain whole
  exact Json.eq_of_map_chars hsent hbundled hchars

theorem answer_data {requested : List Asset}
    (h : (config.answer lines requested).data = some data) :
    ∃ values, data = payloadOf values ∧ config.Bundles lines values := by
  unfold answer at h
  simp only at h
  split at h
  · cases h
  · rename_i hvalues
    refine ⟨_, (Option.some.inj h).symm, mt List.isEmpty_iff.mpr hvalues, fun value hvalue => ?_⟩
    obtain ⟨⟨asset, found⟩, hassigned, rfl⟩ := List.mem_filterMap.mp hvalue
    exact mem_of_mem_assign hassigned

theorem fetch_data {request batch : Batch}
    (h : ((config.source reader).fetch request text).1 = .answer batch)
    (hdata : batch.data = some data) :
    ∃ values, data = payloadOf values ∧ config.Bundles (Line.complete text) values := by
  simp only [source, fetch] at h
  split at h
  · rename_i hfetch
    obtain rfl := Fetched.answer.inj h
    split at hfetch
    · obtain rfl := Except.ok.inj hfetch
      cases hdata
    · obtain rfl := Except.ok.inj hfetch
      exact answer_data hdata
  · cases h

end LinesConfig

def Readable (window : List Json) : Prop :=
  ∀ values, payloadOf values ∈ window → ∀ value ∈ values, value.Plain (maxDepth - 2)

section

variable {config : LinesConfig} {settings : SyncSettings} {key : SyncerKey} {calls : List Event}
  {text : String} {data : Json}

theorem Event.accepted?_payload? {call : Event} (h : call.accepted? = some data) :
    call.payload? = some data := by
  unfold accepted? at h
  split at h
  · exact h
  · cases h

theorem Cycle.Orderly.bundles {completed : Bool} {records : List CycleRecord}
    (h : Orderly key completed records calls) (answered : ∀ call ∈ calls, config.Answered text call)
    (hdata : data ∈ calls.filterMap Event.accepted?) :
    ∃ values, data = payloadOf values ∧ config.Bundles (Line.complete text) values := by
  obtain ⟨sent, hsent, haccepted⟩ := List.mem_filterMap.mp hdata
  have hfetched : data ∈ calls.filterMap Event.fetched? := by
    rw [← h.payloads]
    exact List.mem_filterMap.mpr ⟨sent, hsent, Event.accepted?_payload? haccepted⟩
  obtain ⟨call, hcall, hanswer⟩ := List.mem_filterMap.mp hfetched
  unfold Event.fetched? at hanswer
  split at hanswer
  · split at hanswer
    · exact fetch_data (answered _ hcall).symm hanswer
    · cases hanswer
  · cases hanswer

structure Keeps (config : LinesConfig) (key : SyncerKey) (lines : List Line) (sent : List Json)
    (db : Embedded) : Prop where
  bundles : ∀ data ∈ sent, ∃ values, data = payloadOf values ∧ config.Bundles lines values
  rows : db.tables.payloads.filter (·.key == key) = sent.map (payloadRow key)
  there : .payloads ∉ db.missing

variable {lines : List Line} {sent : List Json} {db : Embedded}

theorem Keeps.grow (h : Keeps config key lines sent db) (added : List Line) :
    Keeps config key (lines ++ added) sent db where
  bundles data hdata := by
    obtain ⟨values, hvalues, hbundles⟩ := h.bundles data hdata
    exact ⟨values, hvalues, hbundles.grow added⟩
  rows := h.rows
  there := h.there

theorem Keeps.cycle {service : TrackingService (Refusing Embedded)} {t : Refusing Embedded}
    (h : Keeps config settings.key (Line.complete text) sent t.inner)
    (serves : Refusing.Serves Embedded.service service) :
    let run := runCycle (config.source reader) service settings text t
    Keeps config settings.key (Line.complete text)
      (sent ++ run.trace.filterMap Event.accepted?) run.store.inner := by
  intro run
  obtain ⟨-, hperformed, horderly, -⟩ := runCycle_orderly (config.source reader) service settings
    text t
  have hrows := runCycle_payloads (config.source reader) serves settings text t
  have hmissing : run.store.inner.missing = t.inner.missing := by
    obtain ⟨now, refusals, rfl⟩ := serves
    refine hperformed.invariant (I := fun x => x.2.inner.missing = t.inner.missing) rfl ?_
    intro call _ x y hx hcall
    exact (performed_missing hcall).1.trans hx
  refine ⟨fun data hdata => ?_, ?_, ?_⟩
  · rcases List.mem_append.mp hdata with hold | hnew
    · exact h.bundles data hold
    · exact horderly.bundles (answered_of_performed hperformed) hnew
  · have hown : ∀ row ∈ (run.trace.filterMap Event.accepted?).map (payloadRow settings.key),
        row.key == settings.key := by
      intro row hrow
      obtain ⟨data, -, rfl⟩ := List.mem_map.mp hrow
      exact beq_self_eq_true settings.key
    rw [hrows, List.filter_append, h.rows, List.filter_eq_self.mpr hown, List.map_append]
  · rw [hmissing]
    exact h.there

end

variable {config : LinesConfig} {settings : SyncSettings} {t₀ t : Refusing Embedded}
  {history : List (CycleRun String (Refusing Embedded))} {text : String}

theorem LinesRun.keeps
    (run : LinesRun config settings (Refusing.Serves Embedded.service) t₀ history text t)
    (there : .payloads ∉ t₀.inner.missing)
    (lacks : ∀ row ∈ t₀.inner.tables.payloads, row.key ≠ settings.key) :
    Keeps config settings.key (Line.complete text)
      (history.flatMap fun cycle => cycle.trace.filterMap Event.accepted?) t.inner := by
  induction run with
  | start text =>
    refine ⟨by simp, ?_, there⟩
    exact List.filter_eq_nil_iff.mpr fun row hrow => by simpa using lacks row hrow
  | grow _ more ih =>
    obtain ⟨added, hadded⟩ := Line.complete_append _ more
    rw [hadded]
    exact ih.grow added
  | cycle _ serves ih =>
    rw [List.flatMap_append, List.flatMap_singleton]
    exact ih.cycle serves

/-- Every payload that was accepted bundles values of the file. The last payloads are read back as
they were sent if their records are shallow enough, and one record that is not makes all of them
unreadable. -/
theorem LinesRun.payloads_window
    (run : LinesRun config settings (Refusing.Serves Embedded.service) t₀ history text t)
    (there : .payloads ∉ t₀.inner.missing)
    (lacks : ∀ row ∈ t₀.inner.tables.payloads, row.key ≠ settings.key)
    (whole : ∀ value ∈ config.recordValues (Line.complete text), value.Whole)
    (now : String) (limit : Nat) :
    let sent := history.flatMap fun cycle => cycle.trace.filterMap Event.accepted?
    let window := sent.rtake (rowLimit limit)
    let answer := ((Embedded.service now).payloads settings.key limit t.inner).1
    (∀ data ∈ sent, ∃ values, data = payloadOf values ∧
      config.Bundles (Line.complete text) values) ∧
    (Readable window → answer = .ok window) ∧
    (¬ Readable window → ∃ fault, answer = .error (.serialization fault)) := by
  intro sent window answer
  have keeps := run.keeps there lacks
  have hwindow : ∀ data ∈ window, ∃ values, data = payloadOf values ∧
      config.Bundles (Line.complete text) values := by
    intro data hdata
    exact keeps.bundles data (List.mem_of_mem_drop hdata)
  refine ⟨keeps.bundles, fun readable => ?_, fun unreadable => ?_⟩
  · apply payloads_of_plain keeps.rows keeps.there
    intro data hdata
    obtain ⟨values, rfl, -⟩ := hwindow data hdata
    exact plain_payloadOf.mpr (readable values hdata)
  · simp only [Readable, not_forall] at unreadable
    obtain ⟨values, hvalues, value, hvalue, deep⟩ := unreadable
    have hplain : (payloadOf values).Plain (maxDepth + 2) := by
      obtain ⟨_, heq, hbundles⟩ := hwindow _ hvalues
      exact heq ▸ hbundles.plain whole
    apply payloads_of_deep keeps.rows keeps.there now hvalues hplain
    intro hshallow
    exact deep (plain_payloadOf.mp hshallow value hvalue)

def nestedRecord (id : AssetId) (n : Nat) : Json :=
  .obj [("id", .str id), ("log", .nested n), ("state", .str "done")]

theorem plain_nestedRecord_iff {id : AssetId} {n depth : Nat} :
    (nestedRecord id n).Plain depth ↔ n < depth := by
  constructor
  · intro h
    cases h with
    | obj _ plain =>
      have hnested := plain ("log", .nested n) (by simp)
      exact Nat.lt_succ_of_le (Json.plain_nested_iff.mp hnested)
  · intro h
    obtain ⟨less, rfl⟩ := Nat.exists_eq_add_of_lt h
    have hsorted : ["id", "log", "state"].Pairwise (· < ·) := by decide
    refine .obj hsorted fun field hfield => ?_
    rcases List.mem_cons.mp hfield with rfl | hfield
    · exact .str _ _
    rcases List.mem_pair.mp hfield with rfl | rfl
    · exact Json.plain_nested_iff.mpr (Nat.le_add_right _ _)
    · exact .str _ _

theorem record?_nestedRecord {config : LinesConfig} (hfield : config.idField = "id") {id : AssetId}
    (hid : AssetId.ofJson? (.str id) = some id) {n : Nat} (hn : n < maxDepth) :
    config.record? (nestedRecord id n).chars = some ⟨id, nestedRecord id n⟩ := by
  have hfound : ((nestedRecord id n).field? config.idField).bind AssetId.ofJson? = some id := by
    rw [hfield]
    exact hid
  have hblank : (nestedRecord id n).chars.all Text.isBlank = false := rfl
  simp only [record?, hblank, Json.readChars_chars (plain_nestedRecord_iff.mpr hn), hfound]
  rfl

theorem LinesRun.payloads_window_deep :
    let config : LinesConfig := ⟨"assets", .fileBeginning, ["done"], "id", "state"⟩
    let settings : SyncSettings := ⟨⟨"files", "local"⟩, 1, 0, by decide⟩
    let deep := nestedRecord "a" 125
    let shallow := nestedRecord "b" 124
    let text := String.ofList (deep.chars ++ '\n' :: shallow.chars ++ ['\n'])
    let service := Refusing.service (Embedded.service "now") fun _ _ => none
    let first := runCycle (config.source reader) service settings text ⟨.empty, []⟩
    let second := runCycle (config.source reader) service settings text first.store
    let answer (limit : Nat) :=
      ((Embedded.service "now").payloads settings.key limit second.store.inner).1
    first.ended.isCommitted ∧ second.ended.isCommitted ∧
      answer 1 = .ok [payloadOf [shallow]] ∧ ∃ fault, answer 2 = .error (.serialization fault) := by
  intro config settings deep shallow text service first second answer
  have run : LinesRun config settings (Refusing.Serves Embedded.service) ⟨.empty, []⟩
      [first, second] text second.store :=
    .cycle (.cycle (.start text) ⟨"now", _, rfl⟩) ⟨"now", _, rfl⟩
  have hlines : Line.complete text = [deep.chars, shallow.chars] := by
    rw [Line.complete, String.toList_ofList]
    decide +kernel
  clear_value text
  have hvalues : config.recordValues (Line.complete text) = [deep, shallow] := by
    rw [hlines, recordValues, records, List.filterMap_cons,
      record?_nestedRecord rfl (by decide) (by decide), List.filterMap_cons,
      record?_nestedRecord rfl (by decide) (by decide)]
    rfl
  let replies := config.replies [deep.chars, shallow.chars]
  let first' := runCycle replies.source service settings () ⟨.empty, []⟩
  let second' := runCycle replies.source service settings () first'.store
  have hfirst : first.ended = first'.ended ∧ first.store = first'.store ∧
      first.trace = first'.trace :=
    runCycle_lines config hlines service settings _
  have hsecond : second.ended = second'.ended ∧ second.trace = second'.trace := by
    obtain ⟨hended, -, htrace⟩ := runCycle_lines config hlines service settings first.store
    have hsame : runCycle replies.source service settings () first.store = second' :=
      congrArg (runCycle replies.source service settings ()) hfirst.2.1
    rw [hsame] at hended htrace
    exact ⟨hended, htrace⟩
  have hcommitted : first'.ended.isCommitted ∧ second'.ended.isCommitted := by decide +kernel
  have hchars : (first'.trace.filterMap Event.accepted? ++
      second'.trace.filterMap Event.accepted?).map Json.chars =
        [payloadOf [deep], payloadOf [shallow]].map Json.chars := by
    decide +kernel
  clear_value first' second' first second
  have whole : ∀ value ∈ config.recordValues (Line.complete text), value.Whole := by
    rw [hvalues]
    intro value hvalue
    rcases List.mem_pair.mp hvalue with rfl | rfl
    all_goals exact (plain_nestedRecord_iff.mpr (Nat.lt_succ_self _)).whole
  have hwindow := run.payloads_window (by decide) (by decide) whole "now"
  have hsent : [first, second].flatMap (fun cycle => cycle.trace.filterMap Event.accepted?) =
      [payloadOf [deep], payloadOf [shallow]] := by
    obtain ⟨hbundles, -⟩ := hwindow 0
    rw [List.flatMap_cons, List.flatMap_singleton, hfirst.2.2, hsecond.2] at hbundles ⊢
    have hsingles : ∀ values ∈ [[deep], [shallow]],
        config.Bundles (Line.complete text) values := by
      intro values hmem
      rcases List.mem_pair.mp hmem with rfl | rfl
      all_goals exact ⟨by simp, by simp [hvalues]⟩
    exact map_payloadOf_eq whole hbundles hsingles hchars
  have hlast : ∀ data data' : Json, [data, data'].rtake (rowLimit 1) = [data'] := fun _ _ => rfl
  have hboth : ∀ data data' : Json, [data, data'].rtake (rowLimit 2) = [data, data'] :=
    fun _ _ => rfl
  obtain ⟨-, hreadable, -⟩ := hwindow 1
  obtain ⟨-, -, hunreadable⟩ := hwindow 2
  rw [hsent, hlast] at hreadable
  rw [hsent, hboth] at hunreadable
  rw [hfirst.1, hsecond.1]
  refine ⟨hcommitted.1, hcommitted.2, hreadable ?_, hunreadable ?_⟩
  · intro values hvalues value hvalue
    cases List.mem_singleton.mp hvalues
    rw [List.mem_singleton.mp hvalue]
    exact plain_nestedRecord_iff.mpr (by decide)
  · intro readable
    have hdeep := readable [deep] (by simp) deep (by simp)
    exact absurd (plain_nestedRecord_iff.mp hdeep) (by decide)

end AssetSync
