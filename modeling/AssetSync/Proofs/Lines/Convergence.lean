import AssetSync.Proofs.Cycle.Atomicity
import AssetSync.Proofs.Cycle.Order
import AssetSync.Proofs.Lines.Run
import AssetSync.Proofs.Lines.Tracking
import AssetSync.Proofs.Store.Rows

namespace AssetSync

open AssetSync.Cycle LinesConfig

variable {τ : Type} {config : LinesConfig} {settings : SyncSettings} {key : SyncerKey}
  {lines : List Line} {text : String} {l l' : Ledger} {start read : Nat}
  {st : AssetId → AssetState}

namespace LinesConfig

/-- The assets of a file: an id for each that has a usable line, finished if its last record says
so. -/
def assetsOf (config : LinesConfig) (text : String) : List Asset :=
  let records := (Line.complete text).filterMap config.record?
  (records.map LineRecord.id).eraseDups.map fun id =>
    let last := (records.filter (·.id == id)).getLast?
    ⟨id, if last.any (config.isTerminal ·.value) then .finished else .active, 0⟩

/-- The cursor of the key stands at line `start`, its rows are those of the ids on the first `read`
lines, and a state is that of the last record unless a usable line of the id is still to come. -/
structure Follows (config : LinesConfig) (key : SyncerKey) (lines : List Line) (l : Ledger)
    (start read : Nat) (st : AssetId → AssetState) : Prop where
  start_le : start ≤ read
  read_le : read ≤ lines.length
  cursor : l.At key start
  rows : l.rows key = Ledger.rowsOf key (addIds [] (config.ids (lines.take read))) st
  found : ∀ id ∈ config.ids (lines.take read), st id = .active ∨ st id = .finished
  current : ∀ id ∈ config.ids lines, id ∉ config.ids (lines.drop start) →
    st id = config.currentState lines id

theorem Follows.of_lacks (h : l.Lacks key) : config.Follows key lines l 0 0 fun _ => .active where
  start_le := Nat.le_refl 0
  read_le := Nat.zero_le _
  cursor := h.at_zero
  rows := h.2
  found := by simp [ids, records]
  current id hid hbehind := absurd hid hbehind

theorem Follows.tracks (h : config.Follows key lines l start read st) :
    config.Tracks lines key l := by
  intro row hrow
  rw [h.rows] at hrow
  obtain ⟨id, hmem, rfl⟩ := List.mem_map.mp hrow
  have hid := (mem_addIds.mp hmem).resolve_left (by simp)
  exact ⟨id, ids_subset (List.take_sublist _ _) hid, st id, h.found id hid, rfl⟩

theorem currentState_append {added : List Line} {id : AssetId} (h : id ∉ config.ids added) :
    config.currentState (lines ++ added) id = config.currentState lines id := by
  have hnone : (config.records added).reverse.find? (·.id == id) = none := by
    refine List.find?_eq_none.mpr fun record hrecord he => h ?_
    exact List.mem_map.mpr ⟨record, List.mem_reverse.mp hrecord, by simpa using he⟩
  rw [currentState, currentState, latest?, latest?, records, List.filterMap_append,
    List.reverse_append, List.find?_append, ← records, ← records, hnone, Option.none_or]

theorem Follows.grow (h : config.Follows key lines l start read st) (added : List Line) :
    config.Follows key (lines ++ added) l start read st := by
  have hread := h.read_le
  have hstart := h.start_le
  have htake : (lines ++ added).take read = lines.take read := List.take_append_of_le_length hread
  refine ⟨hstart, by simp; omega, h.cursor, by rw [htake, h.rows], by rw [htake]; exact h.found, ?_⟩
  intro id hid hbehind
  rw [List.drop_append_of_le_length (by omega), ids_append, List.mem_append, not_or] at hbehind
  rw [ids_append, List.mem_append] at hid
  rw [currentState_append hbehind.2]
  exact h.current id (hid.resolve_right hbehind.2) hbehind.1

theorem addIds_pageIds (next : Nat) {opened : List AssetId} (hstart : start ≤ read)
    (hopened : opened ⊆ addIds [] (config.ids (lines.take read))) :
    addIds (addIds [] (config.ids (lines.take read)))
        (addIds opened (config.pageIds lines start next)) =
      addIds [] (config.ids (lines.take (max read next))) := by
  have htake : ∀ {m n : Nat}, m ≤ n → config.ids (lines.take m) ⊆ config.ids (lines.take n) :=
    fun hle => ids_subset (List.take_sublist_take_left hle)
  have hpage : config.ids (lines.take (min start next)) ++
      config.ids ((lines.drop start).take (next - start)) = config.ids (lines.take next) := by
    rw [← ids_append, ← List.drop_take, ← List.take_take, List.take_append_drop]
  have hknown : addIds (addIds [] (config.ids (lines.take read)))
      (config.ids (lines.take (min start next))) = addIds [] (config.ids (lines.take read)) :=
    addIds_of_subset fun id hid => mem_addIds.mpr (.inr (htake (by omega) hid))
  -- the page overlaps the lines that are read already if an earlier commit stopped half way
  rw [addIds_addIds, addIds_append, addIds_of_subset hopened, pageIds, addIds_addIds,
    List.nil_append, ← hknown, ← addIds_append, hpage]
  rcases Nat.le_total next read with hle | hle
  · rw [Nat.max_eq_left hle]
    exact addIds_of_subset fun id hid => mem_addIds.mpr (.inr (htake hle hid))
  · have hrest : config.ids (lines.take next) = config.ids (lines.take read) ++
        config.ids ((lines.take next).drop read) := by
      rw [← ids_append, ← Nat.min_eq_left hle, ← List.take_take, Nat.min_eq_left hle,
        List.take_append_drop]
    rw [Nat.max_eq_right hle, hrest, addIds_append, addIds_append,
      addIds_of_subset fun id hid => mem_addIds.mpr (.inr hid)]

theorem Follows.putStates (h : config.Follows key lines l start read st) {next : Nat}
    (hnext : start ≤ next) (hend : next ≤ lines.length) {opened : List AssetId}
    (hopened : opened ⊆ addIds [] (config.ids (lines.take read))) {states : List Asset}
    (hids : states.map Asset.id = addIds opened (config.pageIds lines start next))
    (hstates : ∀ asset ∈ states, asset.id ∈ config.ids lines ∧
      asset = ⟨asset.id, config.currentState lines asset.id, 0⟩)
    {cursor : Nat} (hcursor : cursor ≤ next) (hat : l'.At key cursor)
    (hrows : l'.rows key = (l.putStates key states).rows key) :
    config.Follows key lines l' cursor (max read next) fun id =>
      if id ∈ states.map Asset.id then config.currentState lines id else st id := by
  have hread := h.read_le
  have hjoin := addIds_pageIds next h.start_le hopened
  rw [← hids] at hjoin
  refine ⟨by omega, by omega, hat, ?_, ?_, ?_⟩
  · rw [hrows, Ledger.rows_putStates h.rows (nodup_addIds List.nodup_nil _)
      fun asset hasset => (hstates asset hasset).2, hjoin]
  · intro id hid
    split
    · rename_i hmem
      obtain ⟨asset, hasset, rfl⟩ := List.mem_map.mp hmem
      obtain ⟨value, hvalue⟩ := exists_latest? (hstates asset hasset).1
      rw [currentState, hvalue]
      exact (config.stateOf_some value).symm
    · rename_i hnew
      have hmem : id ∈ addIds (addIds [] (config.ids (lines.take read))) (states.map Asset.id) := by
        rw [hjoin]
        exact mem_addIds.mpr (.inr hid)
      have hold := (mem_addIds.mp hmem).resolve_right hnew
      exact h.found id ((mem_addIds.mp hold).resolve_left (by simp))
  · intro id hid hbehind
    split
    · rfl
    · rename_i hnew
      refine h.current id hid fun hahead => ?_
      rw [← List.take_append_drop (next - start) (lines.drop start), ids_append, List.drop_drop,
        Nat.add_sub_cancel' hnext, List.mem_append] at hahead
      rcases hahead with hpage | hlater
      · rw [hids] at hnew
        exact hnew (mem_addIds.mpr (.inr (mem_addIds.mpr (.inr hpage))))
      · exact hbehind (ids_subset (List.drop_sublist_drop_left _ hcursor) hlater)

theorem Follows.openAssets_ids (h : config.Follows key lines l start read st) :
    (l.openAssets key).map Asset.id ⊆ addIds [] (config.ids (lines.take read)) := by
  intro id hid
  obtain ⟨asset, hasset, rfl⟩ := List.mem_map.mp hid
  have hrow := (h.tracks.mem_openAssets hasset).2.2
  rw [h.rows] at hrow
  obtain ⟨id, hid, he⟩ := List.mem_map.mp hrow
  have : id = asset.id := congrArg StateRow.assetId he
  exact this ▸ hid

theorem Follows.cycle (h : config.Follows settings.key (Line.complete text) l start read st)
    {calls : List Event} {ended : CycleEnd} (parts : CycleParts settings calls ended)
    (hchain : Chain Event.CleanEffect calls l l') (hbeginning : config.startFrom = .fileBeginning)
    (answered : ∀ call ∈ calls, config.Answered text call) :
    ∃ start read st, config.Follows settings.key (Line.complete text) l' start read st := by
  cases parts with
  | unsent quiet _ =>
    rw [hchain.effect.ledger_eq quiet]
    exact ⟨start, read, st, h⟩
  | @sent planning forwarding commit closing plan result report planned forwarded committed closed
      outcome =>
    obtain ⟨hplan, hcommit⟩ := chain_commit (fun _ _ _ h => h.1) planned forwarded closed hchain
    have hread := h.read_le
    have hstart := h.start_le
    obtain ⟨next, hnext, hend, hcursor, hassets, hfetched, hstates, -⟩ :=
      planned.forwards_lines hplan.effect forwarded hbeginning
        (fun call hcall => answered call (List.append_assoc .. ▸ List.mem_append_left _ hcall))
        h.tracks h.cursor (by omega)
    have hids : report.assets.map Asset.id = addIds ((l.openAssets settings.key).map Asset.id)
        (config.pageIds (Line.complete text) start next) := by
      have hpage : (config.pageIds (Line.complete text) start next).map
          (Asset.id ∘ Asset.discovered) = config.pageIds (Line.complete text) start next :=
        List.map_id _
      rw [forwarded.ids, chunks_flatten, hassets, appendNew_ids, List.map_map, hpage]
    have hupdated : ∀ asset ∈ report.assets, asset.id ∈ config.ids (Line.complete text) ∧
        asset = ⟨asset.id, config.currentState (Line.complete text) asset.id, 0⟩ := by
      intro asset hasset
      rw [hstates] at hasset
      obtain ⟨fetched, hmem, rfl⟩ := List.mem_map.mp hasset
      obtain ⟨hid, hretry⟩ := hfetched fetched hmem
      exact ⟨hid, by rw [update, Asset.withState, hretry]⟩
    have hwritten := committed.commits forwarded.states_eq_nil_iff.mpr hcommit
    rcases result with (⟨stage, message⟩ | _ | _) | ⟨⟩
    · cases stage with
      | updateCursor =>
        -- the states are ahead of the cursor: the next cycle reads the page again
        obtain rfl := hwritten
        exact ⟨start, _, _, h.putStates hnext hend h.openAssets_ids hids hupdated hnext
          (h.cursor.putStates ..) rfl⟩
      | _ =>
        obtain rfl := hwritten
        exact ⟨start, read, st, h⟩
    · cases outcome
    · cases outcome
    · obtain ⟨now, rfl⟩ := hwritten
      exact ⟨next, _, _, h.putStates hnext hend h.openAssets_ids hids hupdated (Nat.le_refl next)
        (hcursor ▸ Ledger.at_putCursor ..) rfl⟩

theorem currentState_eq {id : AssetId} (h : id ∈ config.ids lines) :
    config.currentState lines id =
      if ((config.records lines).filter (·.id == id)).getLast?.any (config.isTerminal ·.value) then
        .finished
      else .active := by
  obtain ⟨value, hvalue⟩ := exists_latest? h
  rw [currentState, hvalue]
  rw [latest?] at hvalue
  obtain ⟨record, hrecord, rfl⟩ := Option.map_eq_some_iff.mp hvalue
  rw [List.getLast?_filter, hrecord]
  rfl

theorem Follows.rows_at_end (h : config.Follows key (Line.complete text) l
    (Line.complete text).length read st) :
    l.rows key = (config.assetsOf text).map (Embedded.stateRow key) := by
  obtain rfl : read = (Line.complete text).length := Nat.le_antisymm h.read_le h.start_le
  have hids : addIds [] (config.ids (Line.complete text)) =
      (config.ids (Line.complete text)).eraseDups := addIds_eraseDups [] _
  rw [h.rows, List.take_length, hids, Ledger.rowsOf, assetsOf, List.map_map]
  refine List.map_congr_left fun id hid => ?_
  have hmem := List.mem_eraseDups.mp hid
  rw [h.current id hmem (by simp [ids, records]), currentState_eq hmem]
  rfl

end LinesConfig

variable {history : List (CycleRun String τ)} {t₀ t : τ}

theorem LinesRun.follows {ledger : τ → Ledger}
    (run : LinesRun config settings (·.Atomic ledger) t₀ history text t)
    (hbeginning : config.startFrom = .fileBeginning) (hlacks : (ledger t₀).Lacks settings.key) :
    ∃ start read st, config.Follows settings.key (Line.complete text) (ledger t) start read st := by
  induction run with
  | start text => exact ⟨0, 0, _, .of_lacks hlacks⟩
  | @grow history text t _ more ih =>
    obtain ⟨added, hadded⟩ := Line.complete_append text more
    obtain ⟨start, read, st, h⟩ := ih
    exact ⟨start, read, st, hadded ▸ h.grow added⟩
  | @cycle history text t _ service serves ih =>
    obtain ⟨start, read, st, h⟩ := ih
    obtain ⟨htrace, hperformed⟩ := runCycle_follows (config.source reader) service settings text t
    exact h.cycle htrace.parts
      (hperformed.map (fun x => ledger x.2) fun _ _ _ _ h => h.cleanEffect serves) hbeginning
      (answered_of_performed hperformed)

theorem LinesRun.rows_at_end {ledger : τ → Ledger}
    (run : LinesRun config settings (·.Atomic ledger) t₀ history text t)
    (hbeginning : config.startFrom = .fileBeginning) (hlacks : (ledger t₀).Lacks settings.key)
    (persists : (ledger t).Persists settings.key (Line.complete text).length) :
    (ledger t).rows settings.key = (config.assetsOf text).map (Embedded.stateRow settings.key) := by
  obtain ⟨start, read, st, h⟩ := run.follows hbeginning hlacks
  obtain rfl := h.cursor.eq_of_persists persists
  exact h.rows_at_end

theorem performed_missing {source : Source String} {now : String} {refusals : Refusals}
    {call : Event} {x y : String × Refusing Embedded}
    (h : call.Performed source (Refusing.service (Embedded.service now) refusals) x y) :
    y.2.inner.missing = x.2.inner.missing ∧ ∀ key records,
      call = .loadActive key (.ok records) → .states ∉ x.2.inner.missing := by
  cases h with
  | tracked h =>
    obtain hrun | ⟨hinner, hrefused⟩ := Refusing.answers_cases h
    · exact Embedded.answers_missing hrun
    · refine ⟨by rw [hinner], ?_⟩
      rintro key records rfl
      exact hrefused.elim
  | asked h => cases h <;> exact ⟨rfl, by simp⟩
  | metric => exact ⟨rfl, by simp⟩

theorem Cycle.CycleParts.loads_open {calls : List Event} {ended : CycleEnd}
    (h : CycleParts settings calls ended) (committed : ended.isCommitted) :
    ∃ records, .loadActive settings.key (.ok records) ∈ calls := by
  cases h with
  | unsent _ outcome =>
    cases ended with
    | reported report =>
      obtain ⟨stage, message, houtcome, -⟩ := outcome report rfl
      simp [CycleEnd.isCommitted, CycleReport.isCommitted, houtcome] at committed
    | _ => cases committed
  | sent planned =>
    cases planned with
    | planned _ loaded _ =>
      cases loaded with
      | loaded records => exact ⟨records, by simp⟩

theorem states_present {t₀ t : Refusing Embedded}
    {history : List (CycleRun String (Refusing Embedded))}
    {last : CycleRun String (Refusing Embedded)}
    (run : LinesRun config settings (Refusing.Serves Embedded.service) t₀ history text t)
    (hlast : history.getLast? = some last) (committed : last.ended.isCommitted) :
    .states ∉ t.inner.missing := by
  induction run with
  | start => cases hlast
  | grow _ _ ih => exact ih hlast
  | @cycle history text t _ service serves _ =>
    obtain ⟨now, refusals, rfl⟩ := serves
    rw [List.getLast?_concat] at hlast
    obtain rfl := Option.some.inj hlast
    obtain ⟨htrace, hperformed⟩ := runCycle_follows (config.source reader)
      (Refusing.service (Embedded.service now) refusals) settings text t
    obtain ⟨records, hload⟩ := htrace.parts.loads_open committed
    have hpresent := hperformed.forall_mem (I := (·.2.inner.missing = t.inner.missing)) rfl
      (P := fun call => ∀ key records,
        call = .loadActive key (.ok records) → .states ∉ t.inner.missing)
      fun _ _ _ hx hcall => hx ▸ performed_missing hcall
    rw [hperformed.invariant (I := (·.2.inner.missing = t.inner.missing)) rfl
      fun _ _ _ _ hx hcall => (performed_missing hcall).1.trans hx]
    exact hpresent _ hload _ _ rfl

/-- Whatever calls of a store are refused in a run, once a cycle is committed and the cursor stands
at the end of the file, the store lists the assets of the file; `calm` is the store without failures
of its own. -/
def LinesConfig.Converges (config : LinesConfig) (settings : SyncSettings)
    (store : String → TrackingService τ) (tables : τ → Tables) (calm : τ → τ) : Prop :=
  ∀ {t₀ t : Refusing τ} {history : List (CycleRun String (Refusing τ))}
    {last : CycleRun String (Refusing τ)} {text : String},
    LinesRun config settings (Refusing.Serves store) t₀ history text t →
    (tables t₀.inner).ledger.Lacks settings.key →
    history.getLast? = some last → last.ended.isCommitted →
    (tables t.inner).ledger.Persists settings.key (Line.complete text).length →
    ∀ now, ((store now).assetStates settings.key true (calm t.inner)).1 = .ok (config.assetsOf text)

theorem asset_states_converge (hbeginning : config.startFrom = .fileBeginning) :
    config.Converges settings Embedded.service Embedded.tables id ∧
      config.Converges settings Server.service Server.tables
        fun server => { server with faults := [] } := by
  constructor
  · intro t₀ t history last text run hlacks hlast committed persists now
    have hrows := (run.mono fun _ => Refusing.Serves.atomic Embedded.service_atomic).rows_at_end
      hbeginning hlacks persists
    exact Embedded.assetStates_of_rows (states_present run hlast committed) hrows now
  · intro t₀ t history last text run hlacks _ _ persists now
    have hrows := (run.mono fun _ => Refusing.Serves.atomic Server.service_atomic).rows_at_end
      hbeginning hlacks persists
    have hcalm : ({ t.inner with faults := [] } : Server).tables.ledger.rows settings.key =
        (config.assetsOf text).map (Embedded.stateRow settings.key) := hrows
    exact Server.assetStates_of_rows rfl hcalm now

theorem asset_states_converge_after_refusal :
    let config : LinesConfig := ⟨"assets", .fileBeginning, ["done"], "id", "state"⟩
    let settings : SyncSettings := ⟨⟨"files", "local"⟩, 2, 0, by decide⟩
    let text := "\x7b\"id\":7\x7d\n"
    let more := "\x7b\"id\":7,\"state\":\"done\"\x7d\n\x7b\"id\":8"
    let first := runCycle (config.source reader)
      (Refusing.service (Embedded.service "now") fun call _ =>
        if call = .saveCursor then some .lockPoisoned else none) settings text ⟨.empty, []⟩
    let second := runCycle (config.source reader)
      (Refusing.service (Embedded.service "later") fun _ _ => none) settings (text ++ more)
      first.store
    ((Embedded.service "later").assetStates settings.key true second.store.inner).1 =
      .ok (config.assetsOf (text ++ more)) := by
  intro config settings text more first second
  have hrow : second.store.inner.tables.ledger.cursors.find? (·.key == settings.key) =
      some ⟨settings.key, (lineCursor 2).text, CursorLabel.init.name, "later"⟩ := by
    decide +kernel
  have hlines : (Line.complete (text ++ more)).length = 2 := by decide +kernel
  have committed : second.ended.isCommitted := by decide +kernel
  have run : LinesRun config settings (Refusing.Serves Embedded.service) ⟨.empty, []⟩
      [first, second] (text ++ more) second.store :=
    .cycle (.grow (.cycle (.start text) ⟨"now", _, rfl⟩) more) ⟨"later", _, rfl⟩
  -- otherwise the cycle is computed again wherever its store is compared
  clear_value second
  have persists : second.store.inner.tables.ledger.Persists settings.key
      (Line.complete (text ++ more)).length := by
    rw [hlines]
    exact Ledger.persists_lineCursor hrow rfl
  exact (asset_states_converge rfl).1 run ⟨rfl, rfl⟩ rfl committed persists "later"

end AssetSync
