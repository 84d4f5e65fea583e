import AssetSync.Cycle.Run
import AssetSync.Runner.Backoff
import AssetSync.Saturating

/-!
Cycles one after the other, with waits between them, until enough have run or the runner is
cancelled. Time is virtual: a cycle takes none, and a wait takes exactly its length.
-/

namespace AssetSync

structure RunnerOptions where
  interval : Duration
  maxBackoff : Duration
  maxCycles : Option Nat

structure RunSummary where
  cycles : Nat
  committed : Nat
  aborted : Nat
  errors : Nat
  deriving DecidableEq

inductive RunnerError where
  | cycleCrashed
  | lockPoisoned
  deriving DecidableEq

def RunnerError.message : RunnerError → String
  | .cycleCrashed => "sync cycle task panicked"
  | .lockPoisoned => "syncer lock poisoned"

structure Turn (ω : Type) where
  ended : CycleEnd
  cancels : Bool
  world : ω

structure Runner (ω : Type) where
  world : ω
  now : Nat
  cancelled : Bool
  cancelAt : Option Nat
  poisoned : Bool
  starts : List Nat

inductive RunEnd where
  | stopped (summary : RunSummary)
  | failed (e : RunnerError)
  | unfinished (summary : RunSummary)

namespace RunSummary

def start : RunSummary :=
  ⟨0, 0, 0, 0⟩

def add (s : RunSummary) : CycleEnd → RunSummary
  | .reported report =>
    if report.isCommitted then { s with cycles := s.cycles + 1, committed := s.committed + 1 }
    else { s with cycles := s.cycles + 1, aborted := s.aborted + 1 }
  | _ => { s with cycles := s.cycles + 1, errors := s.errors + 1 }

end RunSummary

def failuresAfter (failures : UInt32) : CycleEnd → UInt32
  | .reported report => if report.isCommitted then 0 else saturatingSucc failures
  | _ => saturatingSucc failures

namespace Runner

variable {ω : Type}

def new (world : ω) (cancelAt : Option Nat) : Runner ω :=
  ⟨world, 0, false, cancelAt, false, []⟩

def isCancelled (r : Runner ω) : Bool :=
  r.cancelled || r.cancelAt.any (· ≤ r.now)

def cancel (r : Runner ω) : Runner ω :=
  { r with cancelled := true }

def runOnce (turn : ω → Turn ω) (r : Runner ω) : Except RunnerError CycleEnd × Runner ω :=
  if r.poisoned then (.error .lockPoisoned, r)
  else
    let t := turn r.world
    let r := { r with
      world := t.world
      cancelled := r.cancelled || t.cancels
      starts := r.starts ++ [r.now] }
    match t.ended with
    | .crashed => (.error .cycleCrashed, { r with poisoned := true })
    | ended => (.ok ended, r)

def wait (delay : Duration) (r : Runner ω) : Runner ω :=
  let wake := r.now + delay.nanos
  if r.isCancelled then r
  else
    match r.cancelAt with
    | some time => { r with now := Nat.min time wake }
    | none => { r with now := wake }

inductive Next where
  | ended (e : RunEnd)
  | waits (summary : RunSummary) (failures : UInt32) (delay : Duration)

def advance (options : RunnerOptions) (turn : ω → Turn ω) (summary : RunSummary)
    (failures : UInt32) (r : Runner ω) : Next × Runner ω :=
  if r.isCancelled then (.ended (.stopped summary), r)
  else
    match runOnce turn r with
    | (.error e, r) => (.ended (.failed e), r)
    | (.ok ended, r) =>
      let summary := summary.add ended
      let failures := failuresAfter failures ended
      if options.maxCycles.any (· ≤ summary.cycles) then (.ended (.stopped summary), r)
      else (.waits summary failures (backoff options.interval options.maxBackoff failures), r)

def loop (options : RunnerOptions) (turn : ω → Turn ω) :
    Nat → RunSummary → UInt32 → Runner ω → RunEnd × Runner ω
  | 0, summary, _, r => (if r.isCancelled then .stopped summary else .unfinished summary, r)
  | fuel + 1, summary, failures, r =>
    match advance options turn summary failures r with
    | (.ended e, r) => (e, r)
    | (.waits summary failures delay, r) => loop options turn fuel summary failures (r.wait delay)

def run (options : RunnerOptions) (turn : ω → Turn ω) (fuel : Nat) (r : Runner ω) :
    RunEnd × Runner ω :=
  loop options turn fuel .start 0 r

end Runner

end AssetSync
