import AssetSync.Proofs.Lines.Pages

namespace AssetSync

variable {τ : Type}

/-- The cycles so far, the text of the file and the state of the store. Each cycle may meet another
service, so any of its calls may fail. -/
inductive LinesRun (config : LinesConfig) (settings : SyncSettings)
    (Serves : TrackingService τ → Prop) (t₀ : τ) : List (CycleRun String τ) → String → τ → Prop
  | start (text : String) : LinesRun config settings Serves t₀ [] text t₀
  | grow {history : List (CycleRun String τ)} {text : String} {t : τ}
      (run : LinesRun config settings Serves t₀ history text t) (more : String) :
    LinesRun config settings Serves t₀ history (text ++ more) t
  | cycle {history : List (CycleRun String τ)} {text : String} {t : τ}
      (run : LinesRun config settings Serves t₀ history text t) {service : TrackingService τ}
      (serves : Serves service) :
    LinesRun config settings Serves t₀
      (history ++ [runCycle (config.source LinesConfig.reader) service settings text t]) text
      (runCycle (config.source LinesConfig.reader) service settings text t).store

variable {config : LinesConfig} {settings : SyncSettings} {t₀ t : τ} {text : String}
  {history : List (CycleRun String τ)}

theorem LinesRun.mono {Serves Serves' : TrackingService τ → Prop}
    (run : LinesRun config settings Serves t₀ history text t)
    (h : ∀ service, Serves service → Serves' service) :
    LinesRun config settings Serves' t₀ history text t := by
  induction run with
  | start text => exact .start text
  | grow _ more ih => exact .grow ih more
  | cycle _ serves ih => exact .cycle ih (h _ serves)

end AssetSync
