import AssetSync.Command.Loading
import AssetSync.Text.Fixed

namespace AssetSync.Command

def reportLines (r : CycleReport) : List String :=
  let headline := match r.outcome with
    | .committed cursor label =>
      "Cycle committed at cursor " ++ cursor.text ++ " (" ++ label.name ++ ")"
    | .aborted stage message => "Cycle aborted during " ++ stage.name ++ ": " ++ message
  let counted (title : String) (n : Nat) : List String := if n = 0 then [] else [title ++ toString n]
  [headline,
    "  Assets fetched:  " ++ toString r.assets.length,
    "    Finished:      " ++ toString (r.count .finished),
    "    Active:        " ++ toString (r.count .active),
    "    Failed:        " ++ toString (r.count .failedRequest)] ++
  counted "  Over retry budget: " r.exhausted ++
  counted "  Skipped records: " r.skippedRecords ++
  (r.pageError.map ("  Discovery error: " ++ ·)).toList ++
  ["  Payloads sent:   " ++ toString r.payloadsSent,
    "  Bytes sent:      " ++ Text.byteSize r.bytesSent,
    "  Duration:        " ++ Text.twoPlaces r.duration.nanos 1000000000 ++ "s"]

def summaryLines (key : SyncerKey) (s : RunSummary) : List String :=
  ["Syncer '" ++ key.display ++ "' stopped.",
    "  Cycles:    " ++ toString s.cycles,
    "  Committed: " ++ toString s.committed,
    "  Aborted:   " ++ toString s.aborted,
    "  Errors:    " ++ toString s.errors]

inductive Interruption where
  | never
  | afterCycle
  | duringCycle
  | forced
  deriving DecidableEq

def checkListen (config : SyncerConfig) : Except CommandFailure Unit :=
  match config.metrics.listen with
  | none => .ok ()
  | some listen =>
    if SocketAddress.isValid listen then .ok ()
    else .error ⟨"Invalid metrics.listen address: " ++ listen, ["invalid socket address syntax"]⟩

def buildFailure (e : BuildError) : CommandFailure :=
  ⟨e.message, e.causes⟩

def ready (env : Environment) (file : String) : Opening CommandFailure (SyncerConfig × Syncer) := do
  let config ← ExceptT.mk (return loadValid env file (← get))
  ExceptT.mk (return checkListen config)
  let syncer ← ExceptT.adapt buildFailure (Syncer.build env config)
  return (config, syncer)

def onceOutcome : CycleEnd → CommandOutcome
  | .reported report =>
    if report.isCommitted then .done (reportLines report)
    else .failed (reportLines report) "Sync cycle aborted, nothing committed" []
  | .violated e => .failed [] e.message []
  | .crashed => .failed [] RunnerError.cycleCrashed.message []

def runOnce (env : Environment) (now : Timestamp.Fields) (file : String) (w : Workspace) :
    CommandOutcome × Workspace :=
  match (ready env file).run.run w with
  | (.error failure, w) => (⟨[], .failed failure⟩, w)
  | (.ok (_, syncer), w) =>
    let (ended, _, w) := syncer.cycle now w
    (onceOutcome ended, w)

def runOutcome (key : SyncerKey) : RunEnd → CommandOutcome
  | .stopped summary => .done (summaryLines key summary)
  | .failed e => .failed [] e.message []
  | .unfinished _ => ⟨[], .killed⟩

def turn (now : Timestamp.Fields) (cancels : Bool) : Syncer × Workspace → Turn (Syncer × Workspace) :=
  fun (syncer, w) =>
    let (ended, syncer, w) := syncer.cycle now w
    ⟨ended, cancels, (syncer, w)⟩

/-- Runs cycles until they are enough or the run is interrupted. One that would have more than `fuel`
cycles counts as killed. -/
def run (env : Environment) (now : Timestamp.Fields) (file : String) (maxCycles : Option Nat)
    (interruption : Interruption) (fuel : Nat) (w : Workspace) : CommandOutcome × Workspace :=
  match (ready env file).run.run w with
  | (.error failure, w) => (⟨[], .failed failure⟩, w)
  | (.ok (config, syncer), w) =>
    if interruption = .forced then (⟨[], .killed⟩, w)
    else
      let cancelAt := if interruption = .afterCycle then some 1 else none
      let (ended, r) := (Runner.new (syncer, w) cancelAt).run (config.sync.runnerOptions maxCycles)
        (turn now (interruption = .duringCycle)) fuel
      (runOutcome config.key ended, r.world.2)

end AssetSync.Command
