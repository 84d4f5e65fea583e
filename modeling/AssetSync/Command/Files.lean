import AssetSync.Command.Invocation

namespace AssetSync

namespace Invocation

def file? : Invocation → Option String
  | .runOnce file => some file
  | .run file _ => some file
  | .check file => some file
  | .status file _ _ => some file
  | .adapters => none
  | .version => none

end Invocation

def Environment.namesIn (text : String) : List String :=
  Environment.missing [] text.toList

def SyncerConfig.linesFile? (config : SyncerConfig) : Option String :=
  config.linesConfig.toOption.map LinesConfig.path

def DatabaseAddress.file? (name : String) : Option String :=
  match DatabaseAddress.parse name with
  | .ok a =>
    match a.place with
    | .file => some a.path
    | _ => none
  | .error _ => none

def SyncerConfig.databaseFile? (env : Environment) (config : SyncerConfig) : Option String :=
  match config.state.backend with
  | .sqlite =>
    DatabaseAddress.file? (config.state.connection.getD (Workspace.standardFile env))
  | .postgres => none

end AssetSync
