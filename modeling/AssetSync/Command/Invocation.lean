import AssetSync.Command.Check
import AssetSync.Command.Run
import AssetSync.Command.Status

namespace AssetSync

inductive Invocation where
  | runOnce (file : String)
  | run (file : String) (maxCycles : Option Nat)
  | check (file : String)
  | status (file : String) (active : Bool) (cycles : Nat)
  | adapters
  | version
  deriving DecidableEq

namespace Invocation

structure Arguments where
  words : List String
  once : Bool
  active : Bool
  maxCycles : Option Nat
  cycles : Option Nat

def number? (text : String) : Option Nat :=
  let digits := match text.toList with
    | '+' :: digits => digits
    | digits => digits
  if digits.isEmpty || !digits.all Char.isDigit then none
  else
    let n := digits.foldl (fun n d => n * 10 + (d.toNat - '0'.toNat)) 0
    if n < UInt64.size then some n else none

def splitValue (arg : String) : List String :=
  if arg.startsWith "--" then
    match arg.splitOn "=" with
    | name :: value :: more => [name, "=".intercalate (value :: more)]
    | _ => [arg]
  else [arg]

/-- The arguments with the values of options as arguments of their own, and those that are words
whatever they look like: the ones behind two dashes. -/
def splitValues (args : List String) : List String × List String :=
  let (front, words) := args.span (· != "--")
  (front.flatMap splitValue, words.drop 1)

def Arguments.read (a : Arguments) : List String → Option Arguments
  | [] => some a
  | "--log-level" :: _ :: rest => a.read rest
  | "--once" :: rest => if a.once then none else Arguments.read { a with once := true } rest
  | "--active" :: rest => if a.active then none else Arguments.read { a with active := true } rest
  | "--max-cycles" :: value :: rest => do
    let n ← number? value
    if a.maxCycles.isSome then none else Arguments.read { a with maxCycles := some n } rest
  | "--cycles" :: value :: rest => do
    let n ← number? value
    if a.cycles.isSome then none else Arguments.read { a with cycles := some n } rest
  | arg :: rest =>
    if arg.startsWith "-" && arg != "-" then none
    else Arguments.read { a with words := a.words ++ [arg] } rest

def ofArguments? (args : List String) : Option Invocation := do
  let (front, words) := splitValues args
  if front == ["--version"] || front == ["-V"] then return .version
  let a ← Arguments.read ⟨[], false, false, none, none⟩ front
  if a.words.isEmpty then none
  match { a with words := a.words ++ words } with
  | ⟨["run", file], true, false, none, none⟩ => some (.runOnce file)
  | ⟨["run", file], false, false, maxCycles, none⟩ => some (.run file maxCycles)
  | ⟨["check", file], false, false, none, none⟩ => some (.check file)
  | ⟨["status", file], false, active, none, cycles⟩ => some (.status file active (cycles.getD 5))
  | ⟨["adapters"], false, false, none, none⟩ => some .adapters
  | _ => none

def adaptersOutcome : CommandOutcome :=
  .done ("Available adapters:" :: availableSources.map ("  " ++ ·))

def versionOutcome : CommandOutcome :=
  .done ["tracksync 0.1.0"]

def perform (invocation : Invocation) (env : Environment) (now : Timestamp.Fields)
    (interruption : Command.Interruption) (fuel : Nat) (w : Workspace) :
    CommandOutcome × Workspace :=
  match invocation with
  | .runOnce file => Command.runOnce env now file w
  | .run file maxCycles => Command.run env now file maxCycles interruption fuel w
  | .check file => Command.check env file w
  | .status file active cycles => Command.status env now file active cycles w
  | .adapters => (adaptersOutcome, w)
  | .version => (versionOutcome, w)

end Invocation

end AssetSync
