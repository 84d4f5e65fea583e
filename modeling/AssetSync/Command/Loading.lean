import AssetSync.Command.Outcome
import AssetSync.Config.Reading
import AssetSync.Workspace.Syncer

namespace AssetSync

inductive LoadError where
  | unreadable (file : String) (e : FileError)
  | bad (file : String) (e : ConfigReadError)

def LoadError.failure : LoadError → CommandFailure
  | .unreadable file e => ⟨"Failed to parse syncer: " ++ file,
      ["Failed to read syncer file: " ++ file, e.message]⟩
  | .bad file e => ⟨"Failed to parse syncer: " ++ file, [e.message]⟩

def SyncerConfig.load (env : Environment) (file : String) (w : Workspace) :
    Except LoadError SyncerConfig :=
  match w.readText file with
  | .error e => .error (.unreadable file e)
  | .ok text => (SyncerConfig.read env text).mapError (.bad file)

def invalidConfig (problems : List ConfigProblem) : CommandFailure :=
  ⟨SyncerConfig.problemsMessage problems, []⟩

def loadValid (env : Environment) (file : String) (w : Workspace) :
    Except CommandFailure SyncerConfig := do
  let config ← (SyncerConfig.load env file w).mapError LoadError.failure
  config.validate.mapError invalidConfig
  return config

def StoreError.causes : StoreError → List String
  | .backend text => [text]
  | .io text => [text]
  | .serialization fault => [fault.message]
  | _ => []

end AssetSync
