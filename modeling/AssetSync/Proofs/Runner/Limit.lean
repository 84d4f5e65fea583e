import AssetSync.Proofs.Runner.Accounting
import AssetSync.Store.Embedded

/-!
How many cycles a runner with a limit starts. The limit is looked at after a cycle, so a limit of
zero lets one cycle run.
-/

namespace AssetSync

theorem RunSummary.cycles_add (summary : RunSummary) (ended : CycleEnd) :
    (summary.add ended).cycles = summary.cycles + 1 := by
  cases ended with
  | reported report =>
    simp only [add]
    split <;> rfl
  | violated | crashed => rfl

namespace Runner

variable {ω : Type} {options : RunnerOptions} {turn : ω → Turn ω} {summary later : RunSummary}
  {failures failures' : UInt32} {delay : Duration} {r r' : Runner ω} {next : Next × Runner ω}

theorem starts_runOnce (turn : ω → Turn ω) (r : Runner ω) :
    ∃ started, (runOnce turn r).2.starts = r.starts ++ started ∧ started.length ≤ 1 := by
  unfold runOnce
  split
  · exact ⟨[], (List.append_nil _).symm, Nat.zero_le 1⟩
  · simp only
    split
    · exact ⟨[r.now], rfl, Nat.le_refl 1⟩
    · exact ⟨[r.now], rfl, Nat.le_refl 1⟩

theorem Advanced.starts (h : Advanced options turn summary failures r next) :
    ∃ started, next.2.starts = r.starts ++ started ∧ started.length ≤ 1 := by
  obtain ⟨started, hstarts, hlength⟩ := starts_runOnce turn r
  cases h with
  | cancelled => exact ⟨[], (List.append_nil _).symm, Nat.zero_le 1⟩
  | failed _ ran | enough _ ran | waits _ ran =>
    rw [ran] at hstarts
    exact ⟨started, hstarts, hlength⟩

theorem Advanced.cycles
    (h : Advanced options turn summary failures r (.waits later failures' delay, r')) :
    later.cycles = summary.cycles + 1 ∧ options.maxCycles.any (· ≤ later.cycles) = false := by
  cases h with
  | waits _ _ below => exact ⟨summary.cycles_add _, below⟩

theorem starts_wait (delay : Duration) (r : Runner ω) : (r.wait delay).starts = r.starts := by
  obtain ⟨now, hwait, -⟩ := wait_eq delay r
  rw [hwait]

theorem starts_loop {m : Nat} (limit : options.maxCycles = some m) (turn : ω → Turn ω) (fuel : Nat)
    (summary : RunSummary) (failures : UInt32) (r : Runner ω) :
    ∃ started, (loop options turn fuel summary failures r).2.starts = r.starts ++ started ∧
      started.length ≤ max (m - summary.cycles) 1 := by
  induction fuel generalizing summary failures r with
  | zero => exact ⟨[], (List.append_nil _).symm, Nat.zero_le _⟩
  | succ fuel ih =>
    have hround := advanced options turn summary failures r
    obtain ⟨started, hstarts, hlength⟩ := hround.starts
    rw [loop]
    generalize advance options turn summary failures r = next at hround hstarts ⊢
    obtain ⟨e | ⟨later, failures', delay⟩, r'⟩ := next
    · exact ⟨started, hstarts, Nat.le_trans hlength (Nat.le_max_right _ _)⟩
    · obtain ⟨hcycles, hmore⟩ := hround.cycles
      have hbelow : later.cycles < m := by simpa [limit] using hmore
      obtain ⟨started', hstarts', hlength'⟩ := ih later failures' (r'.wait delay)
      refine ⟨started ++ started', ?_, ?_⟩
      · rw [hstarts', starts_wait, hstarts, List.append_assoc]
      · rw [List.length_append]
        omega

theorem Ran.reaches {m n fuel : Nat} {e : RunEnd} (limit : options.maxCycles = some m)
    (hran : Ran options turn r n summary r') (hcloses : Closes options turn r fuel n summary e)
    (free : ∀ i < max m 1, ¬ CancelledBefore options turn r i) (enough : max m 1 ≤ fuel) :
    n = max m 1 ∧ e = .stopped summary := by
  have hmost : n ≤ max m 1 := by
    apply Nat.le_of_not_lt
    intro hlt
    have hwithin := hran.within (max m 1 - 1) (by omega)
    simp only [limit, Option.any_some, decide_eq_false_iff_not] at hwithin
    omega
  cases hcloses with
  | cancelled before =>
    refine ⟨Nat.le_antisymm hmost ?_, rfl⟩
    apply Nat.le_of_not_lt
    exact fun hlt => free n hlt before
  | enough reached ran =>
    have hreached : m ≤ n := by simpa [limit] using reached
    exact ⟨by omega, rfl⟩
  | unfinished all _ more =>
    have hmore := more (n - 1) (by omega)
    simp only [limit, Option.any_some, decide_eq_false_iff_not] at hmore
    omega

/-- A runner never starts more cycles than its limit says, or than one if the limit is zero; and if
no cycle crashes and nobody cancels it, it starts as many and stops. -/
theorem run_limited (options : RunnerOptions) (turn : ω → Turn ω) (fuel : Nat) (r : Runner ω)
    {m : Nat} (limit : options.maxCycles = some m) :
    let out := run options turn fuel r
    let most := max m 1
    ∃ started, out.2.starts = r.starts ++ started ∧ started.length ≤ most ∧
      (r.poisoned = false → (∀ i < most, (turn (worldAfter turn r.world i)).ended ≠ .crashed) →
        (∀ i < most, ¬ CancelledBefore options turn r i) → most ≤ fuel →
        started.length = most ∧ ∃ summary, out.1 = .stopped summary ∧ summary.cycles = most) := by
  intro out most
  obtain ⟨started, hstarts, hlength⟩ := starts_loop limit turn fuel .start 0 r
  refine ⟨started, hstarts, hlength, fun unpoisoned uncrashed free enough => ?_⟩
  have hreached : ∀ i, (∀ j < i, options.maxCycles.any (· ≤ j + 1) = false) → i < most := by
    intro i hbelow
    cases i with
    | zero => exact Nat.le_max_right m 1
    | succ i =>
      have hlast := hbelow i (Nat.lt_succ_self i)
      simp only [limit, Option.any_some, decide_eq_false_iff_not] at hlast
      omega
  obtain ⟨n, summary, -, -, hran, hcloses⟩ :=
    (Due.start unpoisoned).loop (fun i hbelow => uncrashed i (hreached i hbelow)) fuel
  rw [Nat.zero_add] at hcloses
  obtain ⟨rfl, hend⟩ := hran.reaches limit hcloses free enough
  have hsame : started = (List.range most).map (startTime options turn r) :=
    List.append_cancel_left (hstarts.symm.trans hran.starts)
  refine ⟨?_, summary, hend, hran.cycles⟩
  rw [hsame, List.length_map, List.length_range]

theorem run_limited_zero :
    let source : Source Unit := {
      name := "jobs"
      initCursor := fun s => (.ok (.num (.integer (.ofUInt32 0))), s)
      firstPage? := fun _ _ s =>
        (some (.ok ⟨.pending [.discovered "a"], .num (.integer (.ofUInt32 1))⟩), s)
      fetch := fun request s =>
        (.answer (.withData (.arr [.str "a"]) (request.assets.map Asset.finish)), s) }
    let settings : SyncSettings := ⟨⟨"jobs", "local"⟩, 2, 2, by decide⟩
    let turn : Embedded → Turn Embedded := fun db =>
      let run := runCycle source (Embedded.service "now") settings () db
      ⟨run.ended, false, run.store⟩
    let options : RunnerOptions := ⟨.ofSeconds 1, .ofSeconds 5, some 0⟩
    let out := run options turn 1 (.new .empty none)
    options.maxCycles = some 0 ∧ out.2.starts.length = 1 ∧
      (∃ summary, out.1 = .stopped summary ∧ summary.cycles = 1) ∧
      out.2.world.tables.payloads.length = 1 ∧ out.2.world.tables.cursors.length = 1 := by
  intro source settings turn options out
  have hstore : out.2.world.tables.payloads.length = 1 ∧ out.2.world.tables.cursors.length = 1 := by
    decide +kernel
  have hcommitted : (turn .empty).ended.isCommitted := by decide +kernel
  have uncrashed : ∀ i < max 0 1, (turn (worldAfter turn .empty i)).ended ≠ .crashed := by
    intro i hi hcrashed
    obtain rfl : i = 0 := by omega
    rw [worldAfter] at hcrashed
    rw [hcrashed] at hcommitted
    cases hcommitted
  have free : ∀ i < max 0 1, ¬ CancelledBefore options turn (.new .empty none) i := by
    intro i hi
    obtain rfl : i = 0 := by omega
    simp [CancelledBefore, new]
  obtain ⟨started, hstarts, -, hexact⟩ := run_limited options turn 1 (.new .empty none) rfl
  obtain ⟨hlength, hend⟩ := hexact rfl uncrashed free (Nat.le_refl 1)
  refine ⟨rfl, ?_, hend, hstore⟩
  rw [hstarts]
  exact hlength

end Runner

end AssetSync
