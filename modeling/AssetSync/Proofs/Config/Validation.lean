import AssetSync.Command.Run
import AssetSync.Proofs.Runner.Backoff
import Mathlib.Data.List.TakeWhile

namespace AssetSync

theorem trimLeft_eq_nil_iff {cs : List Char} :
    Text.trimLeft cs = [] ↔ ∀ c ∈ cs, Text.isBlank c = true :=
  List.dropWhile_eq_nil_iff

theorem trimLeft_eq_nil_of_blank {cs : List Char}
    (h : ∀ c ∈ Text.trimLeft cs, Text.isBlank c = true) : Text.trimLeft cs = [] := by
  cases hrest : Text.trimLeft cs with
  | nil => rfl
  | cons first rest =>
    have hfirst : ¬ Text.isBlank first = true := by
      have hhead := List.head?_dropWhile_not Text.isBlank cs
      unfold Text.trimLeft at hrest
      simpa [hrest] using hhead
    exact absurd (h first (by simp [hrest])) hfirst

theorem isAllBlank_iff {text : String} : Text.isAllBlank text = true ↔ Text.trim text = "" := by
  have htrim : Text.trim text = "" ↔ Text.trimLeft (Text.trimLeft text.toList).reverse = [] := by
    rw [Text.trim, String.ofList_eq_empty_iff, List.reverse_eq_nil_iff]
  rw [htrim, Text.isAllBlank, List.all_eq_true, trimLeft_eq_nil_iff]
  constructor
  · intro h c hc
    rw [trimLeft_eq_nil_iff.mpr h] at hc
    cases hc
  · intro h
    apply trimLeft_eq_nil_iff.mp
    apply trimLeft_eq_nil_of_blank
    intro c hc
    exact h c (List.mem_reverse.mpr hc)

inductive Requirement where
  | version
  | integrationId
  | instanceId
  | batchSize
  | interval
  | maxBackoff
  | source
  | connection
  | listen
  deriving DecidableEq

namespace Requirement

def all : List Requirement :=
  [version, integrationId, instanceId, batchSize, interval, maxBackoff, source, connection, listen]

theorem count_all (r : Requirement) : all.count r = 1 := by
  cases r <;> decide

theorem mem_all (r : Requirement) : r ∈ all := by
  apply List.count_pos_iff.mp
  rw [count_all]
  decide

def Met (c : SyncerConfig) : Requirement → Prop
  | version => c.version = "1.0"
  | integrationId => Text.trim c.integrationId ≠ ""
  | instanceId => Text.trim c.instanceId ≠ ""
  | batchSize => 0 < c.sync.batchSize
  | interval => 0 < c.sync.intervalSeconds
  | maxBackoff => c.sync.intervalSeconds ≤ c.sync.maxBackoffSeconds
  | source => Text.trim c.adapter.use ∈ availableSources
  | connection => c.state.backend = .postgres → ∃ text ∈ c.state.connection, Text.trim text ≠ ""
  | listen => ∀ text ∈ c.metrics.listen, SocketAddress.isValid text = true

instance (c : SyncerConfig) : DecidablePred (Met c)
  | version => inferInstanceAs (Decidable (_ = _))
  | integrationId | instanceId => inferInstanceAs (Decidable (_ ≠ _))
  | batchSize | interval => inferInstanceAs (Decidable (_ < _))
  | maxBackoff => inferInstanceAs (Decidable (_ ≤ _))
  | source => inferInstanceAs (Decidable (_ ∈ _))
  | connection => inferInstanceAs (Decidable (_ → ∃ text ∈ c.state.connection, _ ≠ _))
  | listen => inferInstanceAs (Decidable (∀ text ∈ c.metrics.listen, _ = _))

def problem (c : SyncerConfig) : Requirement → ConfigProblem
  | version => .version c.version
  | integrationId => .blankIntegrationId
  | instanceId => .blankInstanceId
  | batchSize => .zeroBatchSize
  | interval => .zeroInterval
  | maxBackoff => .shortBackoff c.sync.maxBackoffSeconds c.sync.intervalSeconds
  | source =>
    if Text.trim c.adapter.use = "" then .noSource else .unknownSource (Text.trim c.adapter.use)
  | connection => .noConnection
  | listen => .badListen (c.metrics.listen.getD "")

end Requirement

namespace SyncerConfig

def missed (c : SyncerConfig) : List Requirement :=
  Requirement.all.filter fun r => ¬ r.Met c

def entries (c : SyncerConfig) (r : Requirement) : List ConfigProblem :=
  if r.Met c then [] else [r.problem c]

theorem flatMap_entries (c : SyncerConfig) (rs : List Requirement) :
    rs.flatMap c.entries = (rs.filter fun r => ¬ r.Met c).map (Requirement.problem c) := by
  induction rs with
  | nil => rfl
  | cons r rest ih =>
    rw [List.flatMap_cons, ih, entries]
    by_cases h : r.Met c <;> simp [h]

theorem check_eq {ok : Bool} {p : ConfigProblem} {P : Prop} [Decidable P] (h : ok = true ↔ P) :
    check ok p = if P then [] else [p] := by
  simp only [check, h]

theorem sourceProblems_eq (c : SyncerConfig) : c.sourceProblems = c.entries .source := by
  have hempty : c.sourceName.isEmpty = true ↔ Text.trim c.adapter.use = "" := by
    rw [String.isEmpty_iff, sourceName]
  rw [sourceProblems, entries]
  by_cases hblank : Text.trim c.adapter.use = ""
  · have hmissed : ¬ Requirement.source.Met c := by
      rw [Requirement.Met, hblank]
      decide
    rw [if_pos (hempty.mpr hblank), if_neg hmissed, Requirement.problem, if_pos hblank]
  · rw [if_neg (mt hempty.mp hblank), Requirement.problem, if_neg hblank]
    exact check_eq List.contains_iff_mem

theorem listenProblems_eq (c : SyncerConfig) : c.listenProblems = c.entries .listen := by
  unfold listenProblems
  cases hlisten : c.metrics.listen with
  | none =>
    have hmet : Requirement.listen.Met c := by simp [Requirement.Met, hlisten]
    rw [entries, if_pos hmet]
  | some listen =>
    have hmet : SocketAddress.isValid listen = true ↔ Requirement.listen.Met c := by
      simp [Requirement.Met, hlisten]
    rw [entries, Requirement.problem, hlisten]
    exact check_eq hmet

theorem problems_eq (c : SyncerConfig) : c.problems = c.missed.map (Requirement.problem c) := by
  have hversion : check (c.version == "1.0") (.version c.version) = c.entries .version :=
    check_eq beq_iff_eq
  have hid (id : String) : (!Text.isAllBlank id) = true ↔ Text.trim id ≠ "" := by
    rw [ne_eq, ← isAllBlank_iff, Bool.not_eq_true', Bool.not_eq_true]
  have hintegration : check (!Text.isAllBlank c.integrationId) .blankIntegrationId =
      c.entries .integrationId :=
    check_eq (hid _)
  have hinstance : check (!Text.isAllBlank c.instanceId) .blankInstanceId = c.entries .instanceId :=
    check_eq (hid _)
  have hbatch : check (c.sync.batchSize != 0) .zeroBatchSize = c.entries .batchSize :=
    check_eq (bne_iff_ne.trans Nat.pos_iff_ne_zero.symm)
  have hinterval : check (c.sync.intervalSeconds != 0) .zeroInterval = c.entries .interval :=
    check_eq (bne_iff_ne.trans UInt64.pos_iff_ne_zero.symm)
  have hbackoff : check (c.sync.intervalSeconds ≤ c.sync.maxBackoffSeconds)
      (.shortBackoff c.sync.maxBackoffSeconds c.sync.intervalSeconds) = c.entries .maxBackoff :=
    check_eq decide_eq_true_iff
  have hconnection : check (c.state.backend != .postgres ||
      c.state.connection.any (!Text.isAllBlank ·)) .noConnection = c.entries .connection := by
    apply check_eq
    rw [Bool.or_eq_true, bne_iff_ne, Option.any_eq_true, Requirement.Met, ← imp_iff_not_or]
    simp only [hid, Option.mem_def]
  rw [problems, hversion, hintegration, hinstance, hbatch, hinterval, hbackoff, sourceProblems_eq,
    hconnection, listenProblems_eq, missed, ← flatMap_entries]
  simp only [Requirement.all, List.flatMap_cons, List.flatMap_nil, List.append_assoc, List.append_nil]

theorem missed_eq_nil_iff {c : SyncerConfig} : c.missed = [] ↔ ∀ r : Requirement, r.Met c := by
  rw [missed, List.filter_eq_nil_iff]
  constructor
  · intro h r
    simpa using h r r.mem_all
  · intro h r _
    simpa using h r

theorem validate_eq (c : SyncerConfig) :
    c.validate = if c.missed = [] then .ok () else .error (c.missed.map (Requirement.problem c)) := by
  rw [validate, problems_eq]
  cases c.missed <;> rfl

theorem append_intercalate (separator : String) {texts : List String} (h : texts ≠ []) :
    separator ++ separator.intercalate texts = String.join (texts.map (separator ++ ·)) := by
  induction texts with
  | nil => exact absurd rfl h
  | cons text rest ih =>
    rw [List.map_cons, String.join_cons]
    by_cases hrest : rest = []
    · rw [hrest, String.intercalate_singleton]
      simp
    · rw [String.intercalate_cons_of_ne_nil hrest, ← ih hrest, String.append_assoc,
        String.append_assoc]

theorem problemsMessage_eq {problems : List ConfigProblem} (h : problems ≠ []) :
    problemsMessage problems = "Syncer validation failed:" ++
      String.join (problems.map fun p => "\n  - " ++ p.message) := by
  have htexts : problems.map ConfigProblem.message ≠ [] := mt List.map_eq_nil_iff.mp h
  have hhead : "Syncer validation failed:\n  - " = "Syncer validation failed:" ++ "\n  - " := by
    decide +kernel
  have hentries : problems.map (fun p => "\n  - " ++ p.message) =
      (problems.map ConfigProblem.message).map ("\n  - " ++ ·) :=
    List.map_map.symm
  unfold problemsMessage
  generalize "Syncer validation failed:" = head at hhead ⊢
  rw [hhead, hentries, ← append_intercalate _ htexts, String.append_assoc]

section

variable {c : SyncerConfig} (valid : ∀ r : Requirement, r.Met c)

include valid

theorem settings?_of_valid :
    c.settings? = some ⟨c.key, c.sync.batchSize, c.sync.maxRetryCount, valid .batchSize⟩ :=
  dif_pos (valid .batchSize)

theorem linesConfig_of_valid :
    c.linesConfig = (LinesConfig.ofJson c.adapter.config).mapError SourceError.display := by
  have hsource : c.sourceName = linesSourceName := List.mem_singleton.mp (valid .source)
  rw [linesConfig, if_pos hsource]

theorem checkListen_of_valid : Command.checkListen c = .ok () := by
  unfold Command.checkListen
  cases hlisten : c.metrics.listen with
  | none => rfl
  | some listen => exact if_pos (valid .listen listen hlisten)

theorem backoff_of_valid (maxCycles : Option Nat) (failures : UInt32) :
    let options := c.sync.runnerOptions maxCycles
    let wait := backoff options.interval options.maxBackoff failures
    c.sync.intervalSeconds.toNat * 1000000000 ≤ wait.nanos ∧
      wait.nanos ≤ c.sync.maxBackoffSeconds.toNat * 1000000000 := by
  intro options wait
  have hle : options.interval.nanos ≤ options.maxBackoff.nanos :=
    Nat.mul_le_mul_right _ (UInt64.le_iff_toNat_le.mp (valid .maxBackoff))
  have hbounds := nanos_backoff_bounds options.interval options.maxBackoff failures
  rwa [max_eq_right hle] at hbounds

end

end SyncerConfig

theorem SyncerConfig.validate_exact (c : SyncerConfig) :
    (c.validate = .ok () ↔ ∀ r : Requirement, r.Met c) ∧
    ((∃ r : Requirement, ¬ r.Met c) →
      let problems := (Requirement.all.filter fun r => ¬ r.Met c).map (Requirement.problem c)
      c.validate = .error problems ∧
        problemsMessage problems = "Syncer validation failed:" ++
          String.join (problems.map fun p => "\n  - " ++ p.message)) ∧
    (c.validate = .ok () →
      (∃ settings, c.settings? = some settings ∧ settings.key = c.key ∧
        settings.batchSize = c.sync.batchSize ∧ settings.maxRetries = c.sync.maxRetryCount) ∧
      c.linesConfig = (LinesConfig.ofJson c.adapter.config).mapError SourceError.display ∧
      Command.checkListen c = .ok () ∧
      ∀ (maxCycles : Option Nat) (failures : UInt32),
        let options := c.sync.runnerOptions maxCycles
        let wait := backoff options.interval options.maxBackoff failures
        c.sync.intervalSeconds.toNat * 1000000000 ≤ wait.nanos ∧
          wait.nanos ≤ c.sync.maxBackoffSeconds.toNat * 1000000000) := by
  have hvalid : c.validate = .ok () ↔ ∀ r : Requirement, r.Met c := by
    rw [validate_eq, ← missed_eq_nil_iff]
    by_cases h : c.missed = [] <;> simp [h]
  refine ⟨hvalid, ?_, fun hok => ?_⟩
  · rintro ⟨r, hr⟩ problems
    have hmissed : c.missed ≠ [] := fun hnil => hr (missed_eq_nil_iff.mp hnil r)
    have hproblems : problems ≠ [] := mt List.map_eq_nil_iff.mp hmissed
    exact ⟨(validate_eq c).trans (if_neg hmissed), problemsMessage_eq hproblems⟩
  · have valid := hvalid.mp hok
    exact ⟨⟨_, settings?_of_valid valid, rfl, rfl, rfl⟩, linesConfig_of_valid valid,
      checkListen_of_valid valid, backoff_of_valid valid⟩

theorem SyncerConfig.validate_exact_cases :
    let valid : SyncerConfig := ⟨"1.0", "files", " local", ⟨10, 1, 0, 10⟩,
      ⟨"\tjsonl\u3000", .obj [("path", .str "")]⟩, ⟨.postgres, some "host=db"⟩, ⟨some "[::1]:9091"⟩⟩
    let invalid : SyncerConfig := ⟨"1", "\u2003", "local", ⟨5, 0, 0, 4⟩,
      ⟨" ", .null⟩, ⟨.postgres, some "\n"⟩, ⟨some "localhost:9091"⟩⟩
    valid.validate = .ok () ∧ valid.settings?.isSome ∧
      valid.linesConfig = .error "[config] INVALID_CONFIG: path must not be empty" ∧
      Command.checkListen valid = .ok () ∧
      (backoff (.ofSeconds 10) (.ofSeconds 10) 7).nanos ≤ (10 : UInt64).toNat * 1000000000 ∧
      invalid.validate = .error [.version "1", .blankIntegrationId, .zeroBatchSize, .shortBackoff 4 5,
        .noSource, .noConnection, .badListen "localhost:9091"] := by
  intro valid invalid
  have hok : valid.validate = .ok () := by decide +kernel
  have hmissed : ¬ Requirement.version.Met invalid := by decide
  have hproblems : (Requirement.all.filter fun r => ¬ r.Met invalid).map (Requirement.problem invalid) =
      [.version "1", .blankIntegrationId, .zeroBatchSize, .shortBackoff 4 5, .noSource, .noConnection,
        .badListen "localhost:9091"] := by
    decide +kernel
  obtain ⟨⟨settings, hsettings, -⟩, hlines, hlisten, hwait⟩ := (validate_exact valid).2.2 hok
  obtain ⟨hinvalid, -⟩ := (validate_exact invalid).2.1 ⟨_, hmissed⟩
  refine ⟨hok, ?_, ?_, hlisten, (hwait none 7).2, ?_⟩
  · rw [hsettings]
    rfl
  · rw [hlines]
    decide +kernel
  · rw [hinvalid, hproblems]

end AssetSync
