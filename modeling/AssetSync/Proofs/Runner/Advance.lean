import AssetSync.Runner.Loop

namespace AssetSync

namespace Runner

variable {ω : Type}

inductive Advanced (options : RunnerOptions) (turn : ω → Turn ω) (summary : RunSummary)
    (failures : UInt32) (r : Runner ω) : Next × Runner ω → Prop
  | cancelled (before : r.isCancelled) :
    Advanced options turn summary failures r (.ended (.stopped summary), r)
  | failed {e : RunnerError} {r' : Runner ω} (free : r.isCancelled = false)
      (ran : runOnce turn r = (.error e, r')) :
    Advanced options turn summary failures r (.ended (.failed e), r')
  | enough {ended : CycleEnd} {r' : Runner ω} (free : r.isCancelled = false)
      (ran : runOnce turn r = (.ok ended, r'))
      (reached : options.maxCycles.any (· ≤ (summary.add ended).cycles)) :
    Advanced options turn summary failures r (.ended (.stopped (summary.add ended)), r')
  | waits {ended : CycleEnd} {r' : Runner ω} (free : r.isCancelled = false)
      (ran : runOnce turn r = (.ok ended, r'))
      (below : options.maxCycles.any (· ≤ (summary.add ended).cycles) = false) :
    Advanced options turn summary failures r
      (.waits (summary.add ended) (failuresAfter failures ended)
        (backoff options.interval options.maxBackoff (failuresAfter failures ended)), r')

theorem advanced (options : RunnerOptions) (turn : ω → Turn ω) (summary : RunSummary)
    (failures : UInt32) (r : Runner ω) :
    Advanced options turn summary failures r (advance options turn summary failures r) := by
  unfold advance
  split
  · rename_i hcancelled
    exact .cancelled hcancelled
  rename_i hfree
  have hfree := eq_false_of_ne_true hfree
  rcases hrun : runOnce turn r with ⟨e | ended, r'⟩
  · exact .failed hfree hrun
  · simp only
    split
    · rename_i hreached
      exact .enough hfree hrun hreached
    · rename_i hbelow
      exact .waits hfree hrun (eq_false_of_ne_true hbelow)

end Runner

end AssetSync
