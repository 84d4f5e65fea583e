import AssetSync.Command.Files
import AssetSync.Store.Saved
import Std.Time.DateTime.Timestamp

namespace AssetSync.Main

def onDisk (path : Path) : String :=
  "/" ++ "/".intercalate path

def loadEntry (isDatabase : Bool) (w : Workspace) (path : Path) : IO Workspace := do
  try
    let content := match Content.ofBytes (← IO.FS.readBinFile (onDisk path)) with
      | .text text =>
        let db := if isDatabase then Saved.database? text else none
        (db.map Content.database).getD (.text text)
      | content => content
    match w.entry? path with
    | some (.file id) => return w.setContent id content
    | _ => return (w.create path content).2
  catch
    | .noFileOrDirectory .. => return w.remove path
    | _ => return w.put path .directory

def pathOf (w : Workspace) (text : String) : Path :=
  (Path.names text).foldl (fun path name =>
    if name == "." then path else if name == ".." then path.dropLast else path ++ [name])
    (w.start text)

def loadPath (isDatabase : Bool) (w : Workspace) (text : String) : IO Workspace := do
  let path := pathOf w text
  let w ← ((Path.ancestors path).drop 1).foldlM (loadEntry false) w
  loadEntry isDatabase w path

def saveDatabase (w : Workspace) (text : String) : IO Unit := do
  let path := pathOf w text
  if let some (.file id) := w.entry? path then
    if let some (.database db) := w.content? id then
      IO.FS.createDirAll (onDisk path.dropLast)
      IO.FS.writeFile (onDisk path) (Saved.text db)

def loadEnvironment (text : String) : IO Environment := do
  let mut env : Environment := []
  for name in "HOME" :: Environment.namesIn text do
    if let some value ← IO.getEnv name then env := (name, value) :: env
  return env

def now : IO Timestamp.Fields := do
  return .ofEpochSeconds (← Std.Time.Timestamp.now).toSecondsSinceUnixEpoch.val.toNat

structure Loaded where
  workspace : Workspace
  env : Environment
  linesFile : Option String
  databaseFile : Option String

def load (invocation : Invocation) : IO Loaded := do
  let start := Workspace.new (← IO.currentDir).toString
  let some file := invocation.file? | return ⟨start, [], none, none⟩
  let w ← loadPath false start file
  let text := (w.readText file).toOption.getD ""
  let env ← loadEnvironment text
  let some config := (SyncerConfig.read env text).toOption | return ⟨w, env, none, none⟩
  let linesFile := config.linesFile?
  let databaseFile := (config.databaseFile? env).filter (!·.isEmpty)
  let w ← (linesFile.toList).foldlM (loadPath false) w
  let w ← (databaseFile.toList).foldlM (loadPath true) w
  return ⟨w, env, linesFile, databaseFile⟩

def report (outcome : CommandOutcome) : IO UInt32 := do
  IO.print outcome.output
  IO.eprint outcome.errors
  return outcome.code.toUInt32

partial def cycles (options : RunnerOptions) (loaded : Loaded) (summary : RunSummary)
    (failures : UInt32) (r : Runner (Syncer × Workspace)) : IO RunEnd := do
  let (syncer, w) := r.world
  let w ← (loaded.linesFile.toList).foldlM (loadPath false) w
  let turn := Command.turn (← now) false
  let (next, r) := { r with world := (syncer, w) }.advance options turn summary failures
  (loaded.databaseFile.toList).forM (saveDatabase r.world.2)
  match next with
  | .ended e => return e
  | .waits summary failures delay =>
    IO.sleep (delay.nanos / 1000000).toUInt32
    cycles options loaded summary failures r

def perform (invocation : Invocation) : IO UInt32 := do
  let loaded ← load invocation
  match invocation with
  | .run file maxCycles =>
    match (Command.ready loaded.env file).run.run loaded.workspace with
    | (.error failure, _) => report ⟨[], .failed failure⟩
    | (.ok (config, syncer), w) =>
      let options := config.sync.runnerOptions maxCycles
      let ended ← cycles options loaded .start 0 (.new (syncer, w) none)
      report (Command.runOutcome config.key ended)
  | _ =>
    let (outcome, w) := invocation.perform loaded.env (← now) .never 0 loaded.workspace
    (loaded.databaseFile.toList).forM (saveDatabase w)
    report outcome

def usage : String :=
  "usage: run FILE [--once | --max-cycles N] | check FILE | status FILE [--active] [--cycles N] | " ++
    "adapters"

end AssetSync.Main

open AssetSync Main in
def main (args : List String) : IO UInt32 := do
  match Invocation.ofArguments? args with
  | none =>
    IO.eprintln usage
    return 2
  | some invocation => perform invocation
