import AssetSync.Command.Loading

namespace AssetSync.Command

def checkSource (config : SyncerConfig) (w : Workspace) : Bool × List String :=
  match config.linesConfig with
  | .error message => (false, ["Adapter config:    FAILED", "  " ++ message])
  | .ok lines =>
    match lines.initCursor Workspace.textOf w with
    | .ok cursor => (true, ["Adapter config:    OK",
        "Adapter reachable: OK (initial cursor " ++ cursor.text ++ ")"])
    | .error e => (false, ["Adapter config:    OK", "Adapter reachable: FAILED", "  " ++ e.display])

def checkStore (env : Environment) (config : SyncerConfig) (w : Workspace) :
    Bool × List String × Workspace :=
  match (Workspace.openStore env config.state).run.run w with
  | (.ok handle, w) => (true, ["Tracking store:    OK"], w.close handle)
  | (.error _, w) => (false, ["Tracking store:    FAILED"], w)

def check (env : Environment) (file : String) (w : Workspace) : CommandOutcome × Workspace :=
  match loadValid env file w with
  | .error failure => (⟨[], .failed failure⟩, w)
  | .ok config =>
    let (sourceOk, sourceLines) := checkSource config w
    let (storeOk, storeLines, w) := checkStore env config w
    let lines := "Syncer structure:  OK" :: sourceLines ++ storeLines
    if sourceOk && storeOk then (.done (lines ++ ["", "All checks passed."]), w)
    else (.failed lines "One or more checks failed" [], w)

end AssetSync.Command
