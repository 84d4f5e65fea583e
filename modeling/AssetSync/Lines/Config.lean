import AssetSync.Json.Decode
import AssetSync.Source.Error

namespace AssetSync

open Json

inductive StartFrom where
  | fileEnd
  | fileBeginning
  deriving DecidableEq

def StartFrom.name : StartFrom → String
  | .fileEnd => "end"
  | .fileBeginning => "beginning"

def StartFrom.variants : List (String × StartFrom) :=
  [("end", .fileEnd), ("beginning", .fileBeginning)]

structure LinesConfig where
  path : String
  startFrom : StartFrom
  terminalStates : List String
  idField : String
  stateField : String
  deriving DecidableEq

namespace LinesConfig

def shape : Shape where
  name := "JsonlConfig"
  fields := [
    .required "path" (Decoder.text "path string"),
    .defaulted "start_from" (Decoder.variant StartFrom.variants),
    .defaulted "terminal_states" (Decoder.list Decoder.string),
    .defaulted "id_field" Decoder.string,
    .defaulted "state_field" Decoder.string]
  closed := true

def decode : Decoder LinesConfig := fun json => do
  let given ← shape.given json
  .ok {
    path := ← requiredField given "path" (Decoder.text "path string")
    startFrom := ← fieldOr given "start_from" (Decoder.variant StartFrom.variants) .fileEnd
    terminalStates := ← fieldOr given "terminal_states" (Decoder.list Decoder.string)
      ["success", "failed", "finished"]
    idField := ← fieldOr given "id_field" Decoder.string "id"
    stateField := ← fieldOr given "state_field" Decoder.string "state" }

def invalid (message : String) : SourceError :=
  ⟨.config, "INVALID_CONFIG", message⟩

def ofJson (json : Json) : Except SourceError LinesConfig :=
  match decode json with
  | .error e => .error (invalid ("jsonl adapter config: " ++ e.message))
  | .ok config =>
    if config.path.isEmpty then .error (invalid "path must not be empty")
    else if config.idField.isEmpty || config.stateField.isEmpty then
      .error (invalid "id_field and state_field must not be empty")
    else .ok config

end LinesConfig

end AssetSync
