import AssetSync.Proofs.Store.Payloads

namespace AssetSync

def Operation.payload? : Operation → Option Json
  | .savePayload data => some data
  | _ => none

def Operation.cycle? : Operation → Option CycleRecord
  | .recordCycle record => some record
  | _ => none

def keptCount (n : UInt64) : UInt64 :=
  if n.toNat < 2 ^ 63 then n else 0

def CycleRecord.kept (record : CycleRecord) : CycleRecord where
  status := record.status
  assetsTotal := keptCount record.assetsTotal
  assetsFinished := keptCount record.assetsFinished
  assetsActive := keptCount record.assetsActive
  assetsFailed := keptCount record.assetsFailed
  bytesSent := keptCount record.bytesSent
  durationMs := keptCount record.durationMs
  errorMessage := record.errorMessage
  finishedAt := none

namespace Embedded

variable {key : SyncerKey} {sent : List Json} {recorded : List CycleRecord} {tables : Tables}

def Step.given? {α : Type} (pick : Operation → Option α) (key : SyncerKey) (step : Step) :
    Answer → Option α
  | .ok _ => if step.key = key then pick step.operation else none
  | .error _ => none

def given {α : Type} (pick : Operation → Option α) (key : SyncerKey)
    (history : List (Step × Answer)) : List α :=
  history.filterMap fun (step, answer) => step.given? pick key answer

theorem Step.given?_of_none {α : Type} {pick : Operation → Option α} {step : Step}
    (h : pick step.operation = none) (key : SyncerKey) (answer : Answer) :
    step.given? pick key answer = none := by
  cases answer <;> simp [given?, h]

structure Logs (tables : Tables) (key : SyncerKey) (sent : List Json)
    (recorded : List CycleRecord) : Prop where
  payloads : tables.payloads.filter (·.key == key) = sent.map (payloadRow key)
  cycles : (tables.cycles.filter (·.key == key)).map CycleRow.untimed =
    recorded.map (cycleRow key · "")

theorem logs_empty (key : SyncerKey) : Logs .empty key [] [] :=
  ⟨rfl, rfl⟩

theorem Logs.of_eq {other : Tables} (h : Logs tables key sent recorded)
    (hpayloads : other.payloads = tables.payloads) (hcycles : other.cycles = tables.cycles) :
    Logs other key sent recorded := by
  constructor
  · rw [hpayloads, h.payloads]
  · rw [hcycles, h.cycles]

theorem Logs.putStates (h : Logs tables key sent recorded) (other : SyncerKey)
    (assets : List Asset) :
    Logs (assets.foldl (fun tables asset => tables.putState (stateRow other asset)) tables) key sent
      recorded := by
  induction assets generalizing tables with
  | nil => exact h
  | cons asset rest ih => exact ih (h.of_eq rfl rfl)

theorem Logs.addPayload (h : Logs tables key sent recorded) (data : Json) :
    Logs (tables.addPayload ⟨key, data.text⟩) key (sent ++ [data]) recorded := by
  refine ⟨?_, h.cycles⟩
  rw [Tables.addPayload, List.filter_append, h.payloads, List.map_append]
  simp [payloadRow]

theorem Logs.addPayload_other (h : Logs tables key sent recorded) {row : PayloadRow}
    (hrow : row.key ≠ key) : Logs (tables.addPayload row) key sent recorded := by
  refine ⟨?_, h.cycles⟩
  rw [Tables.addPayload, List.filter_append, h.payloads]
  simp [hrow]

theorem Logs.addCycle (h : Logs tables key sent recorded) (record : CycleRecord) (now : String) :
    Logs (tables.addCycle (cycleRow key record now)) key sent (recorded ++ [record]) := by
  refine ⟨h.payloads, ?_⟩
  rw [Tables.addCycle, List.filter_append, List.map_append, h.cycles, List.map_append]
  simp [cycleRow, CycleRow.untimed]

theorem Logs.addCycle_other (h : Logs tables key sent recorded) {row : CycleRow}
    (hrow : row.key ≠ key) : Logs (tables.addCycle row) key sent recorded := by
  refine ⟨h.payloads, ?_⟩
  rw [Tables.addCycle, List.filter_append, List.map_append, h.cycles]
  simp [hrow]

theorem Logs.run (h : Logs tables key sent recorded) (step : Step) (now : String) :
    Logs (step.run now tables).2 key
      (sent ++ (step.given? Operation.payload? key (step.run now tables).1).toList)
      (recorded ++ (step.given? Operation.cycle? key (step.run now tables).1).toList) := by
  obtain ⟨e, hfailed⟩ | hrun := step.run_cases
  · rw [hfailed]
    simpa [Step.given?] using h
  rw [hrun]
  obtain ⟨other, operation, file, rejected⟩ := step
  cases operation with
  | savePayload data =>
    have hanswer : (Step.run (Step.unhindered ⟨other, .savePayload data, file, rejected⟩) now
        tables) = (.ok .done, tables.addPayload ⟨other, data.text⟩) := rfl
    rw [hanswer]
    by_cases hkey : other = key
    · subst hkey
      simpa [Step.given?, Operation.payload?, Operation.cycle?] using h.addPayload data
    · have hrest : Logs (tables.addPayload ⟨other, data.text⟩) key sent recorded :=
        h.addPayload_other hkey
      simpa [Step.given?, hkey] using hrest
  | recordCycle record =>
    have hanswer : (Step.run (Step.unhindered ⟨other, .recordCycle record, file, rejected⟩) now
        tables) = (.ok .done, tables.addCycle (cycleRow other record now)) := rfl
    rw [hanswer]
    by_cases hkey : other = key
    · subst hkey
      simpa [Step.given?, Operation.payload?, Operation.cycle?] using h.addCycle record now
    · have hrest : Logs (tables.addCycle (cycleRow other record now)) key sent recorded :=
        h.addCycle_other hkey
      simpa [Step.given?, hkey] using hrest
  | saveStates assets =>
    rw [Step.given?_of_none rfl, Step.given?_of_none rfl, Step.run_saveStates]
    simpa using h.putStates other assets
  | _ =>
    rw [Step.given?_of_none rfl, Step.given?_of_none rfl]
    simp only [Option.toList_none, List.append_nil]
    exact h.of_eq rfl rfl

theorem Logs.after (h : Logs tables key sent recorded) (clock : Stream' String)
    (steps : List Step) :
    Logs (after clock steps tables) key
      (sent ++ given Operation.payload? key (transcript clock steps tables))
      (recorded ++ given Operation.cycle? key (transcript clock steps tables)) := by
  induction steps generalizing clock tables sent recorded with
  | nil => simpa [Embedded.after, given, transcript] using h
  | cons step rest ih =>
    have hcons : ∀ {α : Type} (pick : Operation → Option α),
        given pick key (transcript clock (step :: rest) tables) =
          (step.given? pick key (step.run clock.head tables).1).toList ++
            given pick key (transcript clock.tail rest (step.run clock.head tables).2) := by
      intro α pick
      cases hmark : step.given? pick key (step.run clock.head tables).1 <;>
        simp [given, transcript, hmark]
    rw [hcons, hcons, ← List.append_assoc, ← List.append_assoc]
    exact ih (h.run step clock.head) clock.tail

theorem count_signed (n : UInt64) : count (signed n) = keptCount n := by
  have hbits : n.toInt64.toInt = if 2 * n.toNat < 2 ^ 64 then (n.toNat : Int)
      else n.toNat - (2 ^ 64 : Nat) :=
    BitVec.toInt_eq_toNat_cond n.toBitVec
  have hn := n.toNat_lt
  rw [count, signed, keptCount, hbits]
  by_cases h : n.toNat < 2 ^ 63
  · rw [if_pos h, if_pos (by omega), Int.toNat_natCast, UInt64.ofNat_toNat]
  · have hnegative : ((n.toNat : Int) - (2 ^ 64 : Nat)).toNat = 0 := by omega
    rw [if_neg h, if_neg (by omega), hnegative]
    rfl

theorem cycle_cycleRow (key : SyncerKey) (record : CycleRecord) (now : String) :
    cycle (cycleRow key record now) =
      .ok { record.kept with finishedAt := some (Timestamp.shown now) } := by
  simp only [cycle, cycleRow, CycleStatus.ofName?_name, count_signed]
  rfl

theorem mapM_cycle_cycleRow (key : SyncerKey) (records : List CycleRecord) (now : String) :
    (records.map (cycleRow key · now)).mapM cycle =
      .ok (records.map fun record =>
        { record.kept with finishedAt := some (Timestamp.shown now) }) := by
  induction records with
  | nil => rfl
  | cons record rest ih =>
    rw [List.map_cons, List.mapM_cons, ih, cycle_cycleRow]
    rfl

theorem newest_eq {α : Type} (limit : Nat) (rows : List α) :
    newest limit rows = (rows.rtake (rowLimit limit)).reverse := by
  rw [newest, List.rtake_eq_reverse_take_reverse, List.reverse_reverse]

theorem rtake_rowLimit {α : Type} {limit : Nat} {rows : List α}
    (h : limit < 2 ^ 63 ∨ rows.length < 2 ^ 63) : rows.rtake (rowLimit limit) = rows.rtake limit := by
  unfold List.rtake
  congr 1
  simp only [rowLimit, Nat.min_def]
  split <;> omega

theorem Logs.recentCycles (h : Logs tables key sent recorded) (rejected : List AssetId)
    (now : String) (limit : Nat) :
    (((service now).recentCycles key limit ⟨tables, [], rejected⟩).1).map
        (List.map CycleRecord.untimed) =
      .ok ((recorded.rtake (rowLimit limit)).reverse.map CycleRecord.kept) := by
  change ((newest limit (tables.cycles.filter (·.key == key))).mapM cycle).map _ = _
  rw [← cycles_untimed, ← newest_map, h.cycles, newest_map, newest_eq, mapM_cycle_cycleRow]
  simp only [Except.map, List.map_map]
  rfl

/-- A table holds fewer than 2⁶³ rows, so the window is never cut below the limit that was given. -/
theorem windows_after_history (clock : Stream' String) (history : List Step) (key : SyncerKey)
    (limit : Nat) (rejected : List AssetId) (now : String) :
    let db : Embedded := ⟨after clock history .empty, [], rejected⟩
    let made := transcript clock history .empty
    let sent := given Operation.payload? key made
    let recorded := given Operation.cycle? key made
    let shown := rowLimit limit
    ((∀ data ∈ sent.rtake shown, data.Plain Json.maxDepth) →
        ((service now).payloads key limit db).1 = .ok (sent.rtake shown)) ∧
      (((service now).recentCycles key limit db).1).map (List.map CycleRecord.untimed) =
        .ok ((recorded.rtake shown).reverse.map CycleRecord.kept) ∧
      (limit < 2 ^ 63 ∨ sent.length < 2 ^ 63 → sent.rtake shown = sent.rtake limit) ∧
      (limit < 2 ^ 63 ∨ recorded.length < 2 ^ 63 → recorded.rtake shown = recorded.rtake limit) := by
  intro db made sent recorded shown
  have h : Logs db.tables key sent recorded := (logs_empty key).after clock history
  refine ⟨fun plain => ?_, h.recentCycles rejected now limit, rtake_rowLimit, rtake_rowLimit⟩
  exact payloads_of_plain h.payloads List.not_mem_nil now plain

theorem windows_after_history_interleaved :
    let key : SyncerKey := ⟨"jobs", "local"⟩
    let other : SyncerKey := ⟨"jobs", "backup"⟩
    let record (count : UInt64) : CycleRecord := ⟨.aborted, count, 0, 0, count, 0, 7, some "e", none⟩
    let history : List Step :=
      [⟨key, .savePayload (.str "first"), .sound, []⟩,
        ⟨key, .recordCycle (record 0x7fffffffffffffff), .sound, []⟩,
        ⟨other, .savePayload (.str "other"), .sound, []⟩,
        ⟨other, .recordCycle (record 1), .sound, []⟩,
        ⟨key, .savePayload (.arr [.null]), .sound, []⟩,
        ⟨key, .savePayload .null, .readOnly "read-only", []⟩,
        ⟨key, .recordCycle (record 0x8000000000000000), .sound, []⟩]
    let db : Embedded := ⟨after (Stream'.const "now") history .empty, [], []⟩
    ((service "now").payloads key 1 db).1 = .ok [.arr [.null]] ∧
      ((service "now").payloads key 0xffffffffffffffff db).1 = .ok [.str "first", .arr [.null]] ∧
      (((service "now").recentCycles key 0xffffffffffffffff db).1).map
        (List.map CycleRecord.untimed) = .ok [record 0, record 0x7fffffffffffffff] := by
  intro key other record history db
  have hplain : ∀ data ∈ [Json.str "first", .arr [.null]], data.Plain Json.maxDepth := by
    intro data hdata
    obtain rfl | rfl : data = .str "first" ∨ data = .arr [.null] := by simpa using hdata
    · exact .str _ _
    · refine .arr fun item hitem => ?_
      obtain rfl := List.mem_singleton.mp hitem
      exact .null _
  obtain ⟨hlast, -⟩ :=
    windows_after_history (Stream'.const "now") history key 1 [] "now"
  obtain ⟨hall, hcycles, -⟩ :=
    windows_after_history (Stream'.const "now") history key 0xffffffffffffffff [] "now"
  have hsent : given Operation.payload? key (transcript (Stream'.const "now") history .empty) =
      [.str "first", .arr [.null]] :=
    rfl
  have hwide : [Json.str "first", .arr [.null]].rtake (rowLimit 0xffffffffffffffff) =
      [.str "first", .arr [.null]] := by
    simp [List.rtake, rowLimit]
  rw [hsent, hwide] at hall
  refine ⟨hlast fun data hdata => hplain data (List.mem_of_mem_drop hdata), hall hplain, ?_⟩
  exact hcycles.trans (congrArg Except.ok (by decide +kernel))

end Embedded

end AssetSync
