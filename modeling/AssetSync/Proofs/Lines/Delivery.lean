import AssetSync.Proofs.Lines.Run
import AssetSync.Proofs.Lines.Tracking
import AssetSync.Proofs.Store.Atomic

namespace AssetSync

open AssetSync.Cycle LinesConfig

variable {τ : Type} {config : LinesConfig} {settings : SyncSettings} {key : SyncerKey}
  {lines : List Line} {text : String} {l l' : Ledger} {history : List (CycleRun String τ)}

namespace LinesConfig

def recordAt? (config : LinesConfig) (lines : List Line) (i : Nat) : Option LineRecord :=
  lines[i]?.bind config.record?

/-- A payload that was accepted in some cycle holds the record of the id on line `i` or on a later
one. -/
def Received (config : LinesConfig) (lines : List Line) (key : SyncerKey)
    (history : List (CycleRun String τ)) (i : Nat) (id : AssetId) : Prop :=
  ∃ run ∈ history, ∃ data values, .savePayload key data (.ok ()) ∈ run.trace ∧
    data.field? "assets" = some (.arr values) ∧
    ∃ j record, i ≤ j ∧ config.recordAt? lines j = some record ∧ record.id = id ∧
      record.value ∈ values

theorem recordAt?_append {added : List Line} {i : Nat} (h : i < lines.length) :
    config.recordAt? (lines ++ added) i = config.recordAt? lines i := by
  rw [recordAt?, recordAt?, List.getElem?_append_left h]

theorem recordAt?_append_eq_some {added : List Line} {i : Nat} {record : LineRecord}
    (h : config.recordAt? lines i = some record) :
    config.recordAt? (lines ++ added) i = some record := by
  have hi : i < lines.length := by
    by_contra hge
    rw [recordAt?, List.getElem?_eq_none (by omega)] at h
    cases h
  rw [recordAt?_append hi, h]

theorem Received.grow {i : Nat} {id : AssetId} (h : config.Received lines key history i id)
    (added : List Line) (runs : List (CycleRun String τ)) :
    config.Received (lines ++ added) key (history ++ runs) i id := by
  obtain ⟨run, hrun, data, values, hcall, hfield, j, record, hj, hrecord, hrest⟩ := h
  exact ⟨run, by simp [hrun], data, values, hcall, hfield, j, record, hj,
    recordAt?_append_eq_some hrecord, hrest⟩

theorem mem_records_drop {i : Nat} {record : LineRecord}
    (h : record ∈ config.records (lines.drop i)) :
    ∃ j, i ≤ j ∧ config.recordAt? lines j = some record := by
  obtain ⟨line, hline, hrecord⟩ := List.mem_filterMap.mp h
  obtain ⟨n, hn⟩ := List.mem_iff_getElem?.mp hline
  rw [List.getElem?_drop] at hn
  exact ⟨i + n, by omega, by rw [recordAt?, hn, Option.bind_some, hrecord]⟩

theorem mem_records_take_drop {i start next : Nat} {record : LineRecord}
    (h : config.recordAt? lines i = some record) (hstart : start ≤ i) (hnext : i < next) :
    record ∈ config.records ((lines.drop start).take (next - start)) := by
  obtain ⟨line, hline, hrecord⟩ := Option.bind_eq_some_iff.mp h
  refine List.mem_filterMap.mpr ⟨line, List.mem_iff_getElem?.mpr ⟨i - start, ?_⟩, hrecord⟩
  rw [List.getElem?_take_of_lt (by omega), List.getElem?_drop, Nat.add_sub_cancel' hstart, hline]

theorem latest?_le {i : Nat} {record : LineRecord} {value : Json}
    (h : config.recordAt? lines i = some record)
    (hlatest : latest? (config.records lines) record.id = some value) :
    ∃ j later, i ≤ j ∧ config.recordAt? lines j = some later ∧ later.id = record.id ∧
      later.value = value := by
  have hsplit : config.records lines =
      config.records (lines.take i) ++ config.records (lines.drop i) := by
    rw [records, records, records, ← List.filterMap_append, List.take_append_drop]
  have hrecord : record ∈ config.records (lines.drop i) := by
    obtain ⟨line, hline, hrecord⟩ := Option.bind_eq_some_iff.mp h
    refine List.mem_filterMap.mpr ⟨line, List.mem_iff_getElem?.mpr ⟨0, ?_⟩, hrecord⟩
    rw [List.getElem?_drop, Nat.add_zero, hline]
  rcases hfind : (config.records (lines.drop i)).reverse.find? (·.id == record.id) with _ | later
  · exact absurd (List.find?_eq_none.mp hfind record (List.mem_reverse.mpr hrecord)) (by simp)
  · rw [latest?, hsplit, List.reverse_append, List.find?_append, hfind] at hlatest
    have hmem := List.mem_reverse.mp (List.mem_of_find?_eq_some hfind)
    obtain ⟨j, hj, hlater⟩ := mem_records_drop hmem
    exact ⟨j, later, hj, hlater, by simpa using List.find?_some hfind, Option.some.inj hlatest⟩

structure Sent (config : LinesConfig) (key : SyncerKey) (history : List (CycleRun String τ))
    (lines : List Line) (l : Ledger) : Prop where
  tracks : config.Tracks lines key l
  received : ∃ start ≤ lines.length, l.At key start ∧ ∀ i record, i < start →
    config.recordAt? lines i = some record → config.Received lines key history i record.id

theorem sent_of_lacks (h : l.Lacks key) : config.Sent (τ := τ) key [] lines l where
  tracks row hrow := by simp [h.2] at hrow
  received := ⟨0, Nat.zero_le _, h.at_zero, fun _ _ hi => absurd hi (Nat.not_lt_zero _)⟩

theorem Tracks.grow (h : config.Tracks lines key l) (added : List Line) :
    config.Tracks (lines ++ added) key l := by
  intro row hrow
  obtain ⟨id, hid, hstate⟩ := h row hrow
  exact ⟨id, by simp [ids_append, hid], hstate⟩

theorem Sent.grow (h : config.Sent key history lines l) (added : List Line)
    (runs : List (CycleRun String τ)) :
    config.Sent key (history ++ runs) (lines ++ added) l where
  tracks := h.tracks.grow added
  received := by
    obtain ⟨start, hle, hat, hreceived⟩ := h.received
    refine ⟨start, by simp; omega, hat, fun i record hi hrecord => ?_⟩
    rw [recordAt?_append (by omega)] at hrecord
    exact (hreceived i record hi hrecord).grow added runs

theorem Tracks.putStates {assets stored : List Asset} (h : config.Tracks lines key l)
    (hassets : ∀ asset ∈ assets, asset.id ∈ config.ids lines ∧ asset.retryCount = 0)
    (hstored : stored.Sublist (assets.map (config.update lines))) :
    config.Tracks lines key (l.putStates key stored) := by
  intro row hrow
  rcases Ledger.mem_rows_putStates hrow with ⟨_, hmem, rfl⟩ | hold
  · obtain ⟨asset, hasset, rfl⟩ := List.mem_map.mp (hstored.subset hmem)
    obtain ⟨hid, hretry⟩ := hassets asset hasset
    obtain ⟨value, hvalue⟩ := exists_latest? hid
    refine ⟨asset.id, hid, config.currentState lines asset.id, ?_, ?_⟩
    · rw [currentState, hvalue]
      exact (config.stateOf_some value).symm
    · rw [update, Asset.withState, hretry]
  · exact h row hold

end LinesConfig

namespace Cycle

theorem CommitTrace.effect {calls : List Event} {plan : Plan} {states : List Asset}
    {result : Except Interrupt Unit} (h : CommitTrace key plan states calls result)
    (hchain : Chain Event.Effect calls l l') :
    ∃ stored, stored.Sublist states ∧ (l' = l.putStates key stored ∨
      ∃ now, l' = (l.putStates key stored).putCursor
        ⟨key, plan.cursor.text, plan.label.name, now⟩) := by
  cases h with
  | unsaved _ e =>
    obtain ⟨_, ⟨stored, hstored, -, rfl⟩, rfl⟩ := hchain
    exact ⟨stored, hstored, .inl rfl⟩
  | saved _ answer =>
    obtain ⟨_, ⟨stored, hstored, -, rfl⟩, _, hcursor, rfl⟩ := hchain
    refine ⟨stored, hstored, ?_⟩
    rcases hcursor with ⟨rfl, -⟩ | hput
    · exact .inl rfl
    · exact .inr hput
  | nothing _ answer =>
    obtain ⟨_, hcursor, rfl⟩ := hchain
    refine ⟨[], List.nil_sublist _, ?_⟩
    rcases hcursor with ⟨rfl, -⟩ | hput
    · exact .inl rfl
    · exact .inr hput

end Cycle

namespace LinesConfig

theorem Sent.cycle (h : config.Sent settings.key history (Line.complete text) l)
    {run : CycleRun String τ} (parts : CycleParts settings run.trace run.ended)
    (hchain : Chain Event.Effect run.trace l l') (hbeginning : config.startFrom = .fileBeginning)
    (answered : ∀ call ∈ run.trace, config.Answered text call) :
    config.Sent settings.key (history ++ [run]) (Line.complete text) l' := by
  have hold : config.Sent settings.key (history ++ [run]) (Line.complete text) l := by
    simpa using h.grow [] [run]
  generalize hcalls : run.trace = calls at parts hchain answered
  generalize run.ended = ended at parts
  cases parts with
  | unsent quiet _ => rwa [hchain.ledger_eq quiet]
  | @sent planning forwarding commit closing plan result report planned forwarded committed closed
      _ =>
    obtain ⟨hplan, hcommit⟩ := chain_commit (fun _ _ _ h => h) planned forwarded closed hchain
    obtain ⟨start, hle, hat, hreceived⟩ := hold.received
    obtain ⟨next, hnext, hend, hcursor, hassets, hfetched, hstates, hdelivers⟩ :=
      planned.forwards_lines hplan forwarded hbeginning
        (fun call hcall => answered call (List.append_assoc .. ▸ List.mem_append_left _ hcall))
        hold.tracks hat hle
    obtain ⟨stored, hstored, hledger⟩ := committed.effect hcommit
    have htracks := hold.tracks.putStates hfetched (hstates ▸ hstored)
    rcases hledger with rfl | ⟨now, rfl⟩
    · exact ⟨htracks, start, hle, hat.putStates _ _, hreceived⟩
    · refine ⟨htracks, next, hend, hcursor ▸ Ledger.at_putCursor .., fun i record hi hrecord => ?_⟩
      -- a line before the old cursor was received earlier, one of the page in this cycle
      rcases Nat.lt_or_ge i start with hbefore | hbehind
      · exact hreceived i record hbefore hrecord
      · have hpage : record.id ∈ config.pageIds (Line.complete text) start next :=
          mem_addIds.mpr (.inr (List.mem_map_of_mem (mem_records_take_drop hrecord hbehind hi)))
        have hid : record.id ∈ plan.assets.map Asset.id := by
          rw [hassets, appendNew_ids, List.map_map, mem_addIds]
          exact .inr (List.mem_map.mpr ⟨record.id, hpage, rfl⟩)
        obtain ⟨asset, hasset, he⟩ := List.mem_map.mp hid
        obtain ⟨data, values, value, hcall, hfield, hvalue, hlatest⟩ := hdelivers asset hasset
        rw [he] at hlatest
        obtain ⟨j, later, hj, hlater, hsame, rfl⟩ := latest?_le hrecord hlatest
        exact ⟨run, by simp, data, values, by simp [hcalls, hcall], hfield, j, later, hj, hlater,
          hsame, hvalue⟩

end LinesConfig

variable {ledger : τ → Ledger} {t₀ t : τ}

theorem LinesRun.sent
    (run : LinesRun config settings (·.Faithful ledger) t₀ history text t)
    (hbeginning : config.startFrom = .fileBeginning) (hlacks : (ledger t₀).Lacks settings.key) :
    config.Sent settings.key history (Line.complete text) (ledger t) := by
  induction run with
  | start text => exact sent_of_lacks hlacks
  | @grow history text t _ more ih =>
    obtain ⟨added, hadded⟩ := Line.complete_append text more
    rw [hadded]
    simpa using ih.grow added []
  | @cycle history text t _ service serves ih =>
    obtain ⟨htrace, hperformed⟩ := runCycle_follows (config.source reader) service settings text t
    exact ih.cycle htrace.parts
      (hperformed.map (fun x => ledger x.2) fun _ _ _ _ h => h.effect serves) hbeginning
      (answered_of_performed hperformed)

theorem LinesRun.received_before_cursor
    (run : LinesRun config settings (·.Faithful ledger) t₀ history text t)
    (hbeginning : config.startFrom = .fileBeginning) (hlacks : (ledger t₀).Lacks settings.key)
    {count : Nat} (persists : (ledger t).Persists settings.key count) {i : Nat} (hi : i < count)
    {record : LineRecord} (hrecord : config.recordAt? (Line.complete text) i = some record) :
    config.Received (Line.complete text) settings.key history i record.id := by
  obtain ⟨start, -, hat, hreceived⟩ := (run.sent hbeginning hlacks).received
  obtain rfl := hat.eq_of_persists persists
  exact hreceived i record hi hrecord

theorem LinesRun.received_after_refusal :
    let config : LinesConfig := ⟨"assets", .fileBeginning, ["done"], "id", "state"⟩
    let settings : SyncSettings := ⟨⟨"files", "local"⟩, 2, 0, by decide⟩
    let text := "\x7b\"id\":7\x7d\n"
    let more := "\x7b\"id\":7,\"state\":\"done\"\x7d\n\x7b\"id\":8"
    let first := runCycle (config.source reader)
      (Refusing.service (Embedded.service "now") fun call _ =>
        if call = .saveCursor then some .lockPoisoned else none) settings text ⟨.empty, []⟩
    let second := runCycle (config.source reader)
      (Refusing.service (Embedded.service "later") fun _ _ => none) settings (text ++ more)
      first.store
    first.store.inner.tables.ledger.cursors = [] ∧ ∀ i < 2,
      config.Received (Line.complete (text ++ more)) settings.key [first, second] i "7" := by
  intro config settings text more first second
  have refused : first.store.inner.tables.ledger.cursors = [] := by decide +kernel
  have hrow : second.store.inner.tables.ledger.cursors.find? (·.key == settings.key) =
      some ⟨settings.key, (lineCursor 2).text, CursorLabel.init.name, "later"⟩ := by
    decide +kernel
  have hids : ∀ i < 2, (config.recordAt? (Line.complete (text ++ more)) i).map LineRecord.id =
      some "7" := by
    decide +kernel
  have run : LinesRun config settings (·.Faithful fun t => t.inner.tables.ledger) ⟨.empty, []⟩
      [first, second] (text ++ more) second.store :=
    (LinesRun.cycle (.grow (.cycle (.start text) ⟨"now", _, rfl⟩) more) ⟨"later", _, rfl⟩).mono
      fun _ serves => (Refusing.Serves.atomic Embedded.service_atomic serves).toFaithful
  clear_value second
  have persists : second.store.inner.tables.ledger.Persists settings.key 2 :=
    Ledger.persists_lineCursor hrow rfl
  refine ⟨refused, fun i hi => ?_⟩
  obtain ⟨record, hrecord, hid⟩ := Option.map_eq_some_iff.mp (hids i hi)
  exact hid ▸ run.received_before_cursor rfl ⟨rfl, rfl⟩ persists hi hrecord

end AssetSync
