namespace AssetSync

structure CommandFailure where
  message : String
  causes : List String
  deriving DecidableEq

namespace CommandFailure

def indented (first more : String) (text : String) : String :=
  first ++ ("\n" ++ more).intercalate (text.splitOn "\n")

def causeLines (causes : List String) : List String :=
  match causes with
  | [cause] => [indented "    " "    " cause]
  | causes => causes.zipIdx.map fun (cause, n) =>
      indented ("    " ++ toString n ++ ": ") "       " cause

def text (f : CommandFailure) : String :=
  let behind := if f.causes.isEmpty then []
    else "" :: "Caused by:" :: causeLines f.causes
  "\n".intercalate (("Error: " ++ f.message) :: behind) ++ "\n"

end CommandFailure

inductive CommandEnd where
  | done
  | failed (f : CommandFailure)
  | killed
  deriving DecidableEq

structure CommandOutcome where
  lines : List String
  ended : CommandEnd
  deriving DecidableEq

namespace CommandOutcome

def done (lines : List String) : CommandOutcome :=
  ⟨lines, .done⟩

def failed (lines : List String) (message : String) (causes : List String) : CommandOutcome :=
  ⟨lines, .failed ⟨message, causes⟩⟩

def code (o : CommandOutcome) : Nat :=
  match o.ended with
  | .done => 0
  | .failed _ => 1
  | .killed => 130

def output (o : CommandOutcome) : String :=
  String.join (o.lines.map (· ++ "\n"))

def errors (o : CommandOutcome) : String :=
  match o.ended with
  | .failed f => f.text
  | _ => ""

end CommandOutcome

end AssetSync
