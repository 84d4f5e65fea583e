import AssetSync.Config.Validation
import AssetSync.Workspace.Handle

namespace AssetSync

structure Syncer where
  settings : SyncSettings
  lines : LinesConfig
  store : StoreHandle

inductive BuildError where
  | zeroBatchSize
  | badSource (message : String)
  | noStore (e : OpenError)
  deriving DecidableEq

def BuildError.message : BuildError → String
  | .zeroBatchSize => zeroBatchSizeMessage
  | .badSource message => message
  | .noStore e => e.message

def BuildError.causes : BuildError → List String
  | .noStore e => e.causes
  | _ => []

namespace Workspace

def textOf : TextReader Workspace := fun name w =>
  (w.readText name).mapError FileError.message

end Workspace

namespace Syncer

def build (env : Environment) (config : SyncerConfig) : Opening BuildError Syncer := do
  let some settings := config.settings? | throw .zeroBatchSize
  match config.linesConfig with
  | .error message => throw (.badSource message)
  | .ok lines =>
    let store ← ExceptT.adapt .noStore (Workspace.openStore env config.state)
    return ⟨settings, lines, store⟩

def cycle (now : Timestamp.Fields) (syncer : Syncer) (w : Workspace) : CycleEnd × Syncer × Workspace :=
  let run := runCycle (syncer.lines.source Workspace.textOf) (OpenStore.service now)
    syncer.settings w ⟨w, syncer.store⟩
  (run.ended, { syncer with store := run.store.handle }, run.store.workspace)

end Syncer

end AssetSync
