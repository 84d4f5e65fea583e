import AssetSync.Proofs.Cycle.Order
import AssetSync.Proofs.Runner.Advance
import AssetSync.Proofs.Runner.Backoff

namespace AssetSync

namespace CycleEnd

def isAborted : CycleEnd → Bool
  | .reported report => !report.isCommitted
  | _ => false

def isError : CycleEnd → Bool
  | .violated _ => true
  | _ => false

end CycleEnd

def failureStreak (ends : List CycleEnd) : Nat :=
  (ends.reverse.takeWhile (!·.isCommitted)).length

def RunSummary.tally (ends : List CycleEnd) : RunSummary :=
  ⟨ends.length, ends.countP (·.isCommitted), ends.countP (·.isAborted), ends.countP (·.isError)⟩

theorem failureStreak_append (ends : List CycleEnd) (ended : CycleEnd) :
    failureStreak (ends ++ [ended]) =
      if ended.isCommitted then 0 else failureStreak ends + 1 := by
  rw [failureStreak, List.reverse_append, List.reverse_singleton, List.singleton_append]
  cases h : ended.isCommitted with
  | true => simp [h]
  | false => simp [h, failureStreak]

namespace RunSummary

theorem tally_append (ends : List CycleEnd) {ended : CycleEnd} (h : ended ≠ .crashed) :
    (tally ends).add ended = tally (ends ++ [ended]) := by
  cases ended with
  | crashed => exact absurd rfl h
  | violated e =>
    simp [tally, add, CycleEnd.isCommitted, CycleEnd.isAborted, CycleEnd.isError]
  | reported report =>
    cases hcommitted : report.isCommitted with
    | true =>
      simp [tally, add, CycleEnd.isCommitted, CycleEnd.isAborted, CycleEnd.isError, hcommitted]
    | false =>
      simp [tally, add, CycleEnd.isCommitted, CycleEnd.isAborted, CycleEnd.isError, hcommitted]

theorem tally_cycles {ends : List CycleEnd} (h : ∀ ended ∈ ends, ended ≠ .crashed) :
    (tally ends).cycles =
      (tally ends).committed + (tally ends).aborted + (tally ends).errors := by
  induction ends with
  | nil => rfl
  | cons ended rest ih =>
    have hrest := ih fun other hother => h other (List.mem_cons_of_mem _ hother)
    simp only [tally, List.length_cons, List.countP_cons] at hrest ⊢
    have hone : (if ended.isCommitted then 1 else 0) + (if ended.isAborted then 1 else 0) +
        (if ended.isError then 1 else 0) = 1 := by
      cases ended with
      | crashed => exact absurd rfl (h _ List.mem_cons_self)
      | violated => rfl
      | reported report =>
        cases hcommitted : report.isCommitted <;>
          simp [CycleEnd.isCommitted, CycleEnd.isAborted, CycleEnd.isError, hcommitted]
    omega

end RunSummary

def saturated (n : Nat) : UInt32 :=
  .ofNat (min n (UInt32.size - 1))

theorem toNat_saturated (n : Nat) : (saturated n).toNat = min n (UInt32.size - 1) := by
  rw [saturated, UInt32.toNat_ofNat']
  simp only [UInt32.size]
  omega

theorem saturatingSucc_saturated (n : Nat) : saturatingSucc (saturated n) = saturated (n + 1) := by
  apply UInt32.toNat_inj.mp
  rw [saturatingSucc, toNat_saturated]
  have hsize : (UInt32.ofNat (UInt32.size - 1)).toNat = UInt32.size - 1 := rfl
  split
  · rename_i hlast
    have hn := congrArg UInt32.toNat hlast
    rw [toNat_saturated, hsize] at hn
    rw [toNat_saturated]
    omega
  · rename_i hlast
    have hn : min n (UInt32.size - 1) ≠ UInt32.size - 1 := by
      intro h
      apply hlast
      apply UInt32.toNat_inj.mp
      rw [toNat_saturated, hsize, h]
    have hone : (1 : UInt32).toNat = 1 := rfl
    rw [UInt32.toNat_add, toNat_saturated, hone]
    simp only [UInt32.size] at hn ⊢
    omega

theorem failuresAfter_saturated (ends : List CycleEnd) (ended : CycleEnd) :
    failuresAfter (saturated (failureStreak ends)) ended =
      saturated (failureStreak (ends ++ [ended])) := by
  rw [failureStreak_append]
  cases ended with
  | crashed => exact saturatingSucc_saturated _
  | violated => exact saturatingSucc_saturated _
  | reported report =>
    rw [failuresAfter, CycleEnd.isCommitted]
    cases report.isCommitted with
    | true => rfl
    | false => exact saturatingSucc_saturated _

namespace Runner

variable {ω : Type}

def worldAfter (turn : ω → Turn ω) (w : ω) : Nat → ω
  | 0 => w
  | n + 1 => (turn (worldAfter turn w n)).world

def outcomes (turn : ω → Turn ω) (w : ω) (n : Nat) : List CycleEnd :=
  (List.range n).map fun i => (turn (worldAfter turn w i)).ended

def delayAfter (options : RunnerOptions) (turn : ω → Turn ω) (w : ω) (i : Nat) : Duration :=
  backoff options.interval options.maxBackoff (saturated (failureStreak (outcomes turn w (i + 1))))

def startTime (options : RunnerOptions) (turn : ω → Turn ω) (r : Runner ω) : Nat → Nat
  | 0 => r.now
  | i + 1 => startTime options turn r i + (delayAfter options turn r.world i).nanos

/-- The runner is cancelled before it could start the cycle: before it runs, during an earlier cycle
or from outside. -/
def CancelledBefore (options : RunnerOptions) (turn : ω → Turn ω) (r : Runner ω) (i : Nat) : Prop :=
  r.cancelled ∨ (∃ j < i, (turn (worldAfter turn r.world j)).cancels) ∨
    ∃ time, r.cancelAt = some time ∧ time ≤ startTime options turn r i

structure Ran (options : RunnerOptions) (turn : ω → Turn ω) (r : Runner ω) (n : Nat)
    (summary : RunSummary) (r' : Runner ω) : Prop where
  counted : summary = .tally (outcomes turn r.world n)
  world : r'.world = worldAfter turn r.world n
  starts : r'.starts = r.starts ++ (List.range n).map (startTime options turn r)
  uncancelled : ∀ i < n, ¬ CancelledBefore options turn r i
  within : ∀ i, i + 1 < n → options.maxCycles.any (· ≤ i + 1) = false
  cancelAt : r'.cancelAt = r.cancelAt
  cancelled : r'.cancelled ↔
    r.cancelled ∨ ∃ i < n, (turn (worldAfter turn r.world i)).cancels
  unpoisoned : r'.poisoned = false
  waited : r'.now ≤ startTime options turn r n ∧ ∀ i, n = i + 1 →
    startTime options turn r i ≤ r'.now ∧ ∀ time, r.cancelAt = some time → r'.now ≤ time

variable {options : RunnerOptions} {turn : ω → Turn ω} {r r' : Runner ω} {n : Nat}
  {summary : RunSummary}

theorem outcomes_succ (turn : ω → Turn ω) (w : ω) (n : Nat) :
    outcomes turn w (n + 1) = outcomes turn w n ++ [(turn (worldAfter turn w n)).ended] := by
  rw [outcomes, List.range_succ, List.map_append]
  rfl

theorem isCancelled_iff (r : Runner ω) :
    r.isCancelled ↔ r.cancelled ∨ ∃ time, r.cancelAt = some time ∧ time ≤ r.now := by
  simp [isCancelled, Option.any_eq_true]

theorem Ran.start (unpoisoned : r.poisoned = false) : Ran options turn r 0 .start r where
  counted := rfl
  world := rfl
  starts := (List.append_nil _).symm
  uncancelled := by simp
  within := by simp
  cancelAt := rfl
  cancelled := by simp
  unpoisoned := unpoisoned
  waited := ⟨Nat.le_refl _, by simp⟩

theorem Ran.cycles (h : Ran options turn r n summary r') : summary.cycles = n := by
  rw [h.counted]
  simp [RunSummary.tally, outcomes]

theorem Ran.cancelledBefore (h : Ran options turn r n summary r') (hcancelled : r'.isCancelled) :
    CancelledBefore options turn r n := by
  rcases (isCancelled_iff r').mp hcancelled with hinside | ⟨time, htime, hle⟩
  · rcases h.cancelled.mp hinside with hbefore | hturn
    · exact .inl hbefore
    · exact .inr (.inl hturn)
  · rw [h.cancelAt] at htime
    exact .inr (.inr ⟨time, htime, Nat.le_trans hle h.waited.1⟩)

theorem Ran.not_cancelledBefore (h : Ran options turn r n summary r')
    (hnow : r'.now = startTime options turn r n) (hcancelled : r'.isCancelled = false) :
    ¬ CancelledBefore options turn r n := by
  have hfree : ¬ r'.isCancelled := by simp [hcancelled]
  rw [isCancelled_iff, h.cancelled, h.cancelAt, hnow] at hfree
  rintro (hbefore | hturn | houtside)
  · exact hfree (.inl (.inl hbefore))
  · exact hfree (.inl (.inr hturn))
  · exact hfree (.inr houtside)

def afterTurn (turn : ω → Turn ω) (r : Runner ω) : Runner ω :=
  { r with
    world := (turn r.world).world
    cancelled := r.cancelled || (turn r.world).cancels
    starts := r.starts ++ [r.now] }

theorem runOnce_eq (turn : ω → Turn ω) (unpoisoned : r.poisoned = false)
    (uncrashed : (turn r.world).ended ≠ .crashed) :
    runOnce turn r = (.ok (turn r.world).ended, afterTurn turn r) := by
  rw [runOnce, unpoisoned]
  simp only [Bool.false_eq_true, if_false]
  rw [afterTurn, unpoisoned]

structure Due (options : RunnerOptions) (turn : ω → Turn ω) (r : Runner ω) (n : Nat)
    (summary : RunSummary) (failures : UInt32) (r' : Runner ω) : Prop
    extends Ran options turn r n summary r' where
  failed : failures = saturated (failureStreak (outcomes turn r.world n))
  unfinished : ∀ i < n, options.maxCycles.any (· ≤ i + 1) = false
  punctual : r'.isCancelled = false → r'.now = startTime options turn r n

theorem Due.start (unpoisoned : r.poisoned = false) : Due options turn r 0 .start 0 r :=
  ⟨.start unpoisoned, rfl, by simp, fun _ => rfl⟩

variable {failures : UInt32}

theorem Due.runs (h : Due options turn r n summary failures r') (free : r'.isCancelled = false)
    (uncrashed : (turn r'.world).ended ≠ .crashed) :
    Ran options turn r (n + 1) (summary.add (turn r'.world).ended) (afterTurn turn r') := by
  have hnow := h.punctual free
  have huncancelled := h.not_cancelledBefore hnow free
  constructor
  · rw [h.counted, RunSummary.tally_append _ uncrashed, outcomes_succ, h.world]
  · rw [worldAfter, ← h.world]
    rfl
  · rw [List.range_succ, List.map_append, ← List.append_assoc, ← h.starts, List.map_singleton,
      ← hnow]
    rfl
  · intro i hi
    rcases Nat.lt_succ_iff_lt_or_eq.mp hi with hlt | rfl
    · exact h.uncancelled i hlt
    · exact huncancelled
  · intro i hi
    exact h.unfinished i (by omega)
  · exact h.cancelAt
  · change (r'.cancelled || (turn r'.world).cancels) = true ↔ _
    rw [Bool.or_eq_true, h.cancelled, h.world]
    constructor
    · rintro ((hbefore | ⟨i, hi, hturn⟩) | hlast)
      · exact .inl hbefore
      · exact .inr ⟨i, Nat.lt_succ_of_lt hi, hturn⟩
      · exact .inr ⟨n, Nat.lt_succ_self n, hlast⟩
    · rintro (hbefore | ⟨i, hi, hturn⟩)
      · exact .inl (.inl hbefore)
      · rcases Nat.lt_succ_iff_lt_or_eq.mp hi with hlt | rfl
        · exact .inl (.inr ⟨i, hlt, hturn⟩)
        · exact .inr hturn
  · exact h.unpoisoned
  · change r'.now ≤ _ ∧ ∀ i, _ → _ ≤ r'.now ∧ ∀ time, _ → r'.now ≤ time
    rw [hnow]
    constructor
    · exact Nat.le_add_right _ _
    · intro i hi
      obtain rfl : n = i := Nat.succ.inj hi
      refine ⟨Nat.le_refl _, fun time htime => ?_⟩
      apply Nat.le_of_not_lt
      exact fun hlt => huncancelled (.inr (.inr ⟨time, htime, Nat.le_of_lt hlt⟩))

theorem wait_eq (delay : Duration) (r : Runner ω) :
    ∃ now, r.wait delay = { r with now } ∧ r.now ≤ now ∧ now ≤ r.now + delay.nanos ∧
      (∀ time, r.cancelAt = some time → r.now ≤ time → now ≤ time) ∧
      ((r.wait delay).isCancelled = false → now = r.now + delay.nanos) := by
  cases hcancelled : r.isCancelled with
  | true =>
    have hwait : r.wait delay = r := by simp [wait, hcancelled]
    refine ⟨r.now, hwait, Nat.le_refl _, Nat.le_add_right _ _, fun _ _ h => h, fun hfree => ?_⟩
    rw [hwait, hcancelled] at hfree
    cases hfree
  | false =>
    let wake := r.now + delay.nanos
    obtain hat | ⟨time, hat⟩ : r.cancelAt = none ∨ ∃ time, r.cancelAt = some time := by
      cases r.cancelAt <;> simp
    · have hwait : r.wait delay = { r with now := wake } := by
        rw [wait, hcancelled, hat]
        rfl
      refine ⟨wake, hwait, Nat.le_add_right _ _, Nat.le_refl _, fun time htime => ?_, fun _ => rfl⟩
      rw [hat] at htime
      cases htime
    · have hwait : r.wait delay = { r with now := Nat.min time wake } := by
        rw [wait, hcancelled, hat]
        rfl
      have hfree : ¬ r.isCancelled := by simp [hcancelled]
      have hlater : r.now < time := by
        rw [isCancelled_iff] at hfree
        apply Nat.lt_of_not_le
        exact fun hle => hfree (.inr ⟨time, hat, hle⟩)
      refine ⟨Nat.min time wake, hwait, ?_, Nat.min_le_right _ _, ?_, fun hwoken => ?_⟩
      · exact Nat.le_min.mpr ⟨Nat.le_of_lt hlater, Nat.le_add_right _ _⟩
      · intro time' htime _
        rw [hat] at htime
        cases htime
        exact Nat.min_le_left _ _
      · have hawake : ¬ (r.wait delay).isCancelled := by simp [hwoken]
        rw [isCancelled_iff, hwait] at hawake
        apply Nat.min_eq_right
        apply Nat.le_of_not_lt
        intro hcut
        exact hawake (.inr ⟨time, hat, (Nat.le_min.mpr ⟨Nat.le_refl _, Nat.le_of_lt hcut⟩)⟩)

theorem Ran.waits (h : Ran options turn r (n + 1) summary r')
    (hnow : r'.now = startTime options turn r n)
    (unfinished : options.maxCycles.any (· ≤ n + 1) = false) :
    Due options turn r (n + 1) summary (saturated (failureStreak (outcomes turn r.world (n + 1))))
      (r'.wait (delayAfter options turn r.world n)) := by
  obtain ⟨now, hwait, hfrom, hto, hcut, hfull⟩ := wait_eq (delayAfter options turn r.world n) r'
  rw [hwait] at hfull ⊢
  refine ⟨{ h with waited := ⟨?_, ?_⟩ }, rfl, ?_, ?_⟩
  · rw [startTime, ← hnow]
    exact hto
  · intro i hi
    obtain rfl : n = i := Nat.succ.inj hi
    refine ⟨hnow ▸ hfrom, fun time htime => hcut time (h.cancelAt ▸ htime) ?_⟩
    exact (h.waited.2 n rfl).2 time htime
  · intro i hi
    rcases Nat.lt_succ_iff_lt_or_eq.mp hi with hlt | rfl
    · exact h.within i (Nat.succ_lt_succ hlt)
    · exact unfinished
  · intro hfree
    rw [startTime, ← hnow]
    exact hfull hfree

inductive Closes (options : RunnerOptions) (turn : ω → Turn ω) (r : Runner ω) (fuel n : Nat)
    (summary : RunSummary) : RunEnd → Prop
  | cancelled (before : CancelledBefore options turn r n) :
    Closes options turn r fuel n summary (.stopped summary)
  | enough (reached : options.maxCycles.any (· ≤ n)) (ran : 0 < n) :
    Closes options turn r fuel n summary (.stopped summary)
  | unfinished (all : n = fuel) (free : ¬ CancelledBefore options turn r n)
      (more : ∀ i < n, options.maxCycles.any (· ≤ i + 1) = false) :
    Closes options turn r fuel n summary (.unfinished summary)

theorem Due.loop
    (uncrashed : ∀ i, (∀ j < i, options.maxCycles.any (· ≤ j + 1) = false) →
      (turn (worldAfter turn r.world i)).ended ≠ .crashed)
    (fuel : Nat) (h : Due options turn r n summary failures r') :
    let out := loop options turn fuel summary failures r'
    ∃ last summary', n ≤ last ∧ last ≤ n + fuel ∧ Ran options turn r last summary' out.2 ∧
      Closes options turn r (n + fuel) last summary' out.1 := by
  induction fuel generalizing n summary failures r' with
  | zero =>
    cases hcancelled : r'.isCancelled with
    | true =>
      refine ⟨n, summary, Nat.le_refl _, Nat.le_refl _, h.toRan, ?_⟩
      rw [Runner.loop, hcancelled]
      exact .cancelled (h.cancelledBefore hcancelled)
    | false =>
      refine ⟨n, summary, Nat.le_refl _, Nat.le_refl _, h.toRan, ?_⟩
      rw [Runner.loop, hcancelled]
      exact .unfinished rfl (h.not_cancelledBefore (h.punctual hcancelled) hcancelled) h.unfinished
  | succ fuel ih =>
    have hround := advanced options turn summary failures r'
    have hended : (turn r'.world).ended ≠ .crashed := by
      rw [h.world]
      exact uncrashed n h.unfinished
    have honce := runOnce_eq turn h.unpoisoned hended
    rw [Runner.loop]
    generalize advance options turn summary failures r' = next at hround ⊢
    cases hround with
    | cancelled before =>
      exact ⟨n, summary, Nat.le_refl _, Nat.le_add_right _ _, h.toRan,
        .cancelled (h.cancelledBefore before)⟩
    | failed free ran =>
      rw [honce] at ran
      cases ran
    | enough free ran reached =>
      rw [honce] at ran
      cases ran
      have hran := h.runs free hended
      rw [hran.cycles] at reached
      exact ⟨n + 1, _, Nat.le_succ n, by omega, hran, .enough reached (Nat.succ_pos n)⟩
    | waits free ran below =>
      rw [honce] at ran
      cases ran
      have hran := h.runs free hended
      rw [hran.cycles] at below
      have hfailures : failuresAfter failures (turn r'.world).ended =
          saturated (failureStreak (outcomes turn r.world (n + 1))) := by
        rw [h.failed, failuresAfter_saturated, outcomes_succ, h.world]
      rw [hfailures]
      have hnow : (afterTurn turn r').now = startTime options turn r n := h.punctual free
      obtain ⟨last, summary', hfrom, hto, hlast, hcloses⟩ := ih (hran.waits hnow below)
      have hfuel : n + 1 + fuel = n + (fuel + 1) := by omega
      rw [hfuel] at hto hcloses
      exact ⟨last, summary', by omega, hto, hlast, hcloses⟩

theorem run_accounted (options : RunnerOptions) (turn : ω → Turn ω) (fuel : Nat) (r : Runner ω)
    (unpoisoned : r.poisoned = false)
    (uncrashed : ∀ i, (turn (worldAfter turn r.world i)).ended ≠ .crashed) :
    let out := run options turn fuel r
    ∃ n summary, n ≤ fuel ∧ Ran options turn r n summary out.2 ∧
      Closes options turn r fuel n summary out.1 ∧
      summary.cycles = n ∧
      summary.cycles = summary.committed + summary.aborted + summary.errors ∧
      (∀ i, (turn (worldAfter turn r.world i)).ended.isCommitted →
        delayAfter options turn r.world i = options.interval) ∧
      (r.isCancelled → n = 0) ∧
      ∀ i < n, (turn (worldAfter turn r.world i)).cancels → i + 1 = n := by
  intro out
  obtain ⟨n, summary, -, hfuel, hran, hcloses⟩ :=
    (Due.start unpoisoned).loop (fun i _ => uncrashed i) fuel
  rw [Nat.zero_add] at hfuel hcloses
  refine ⟨n, summary, hfuel, hran, hcloses, hran.cycles, ?_, ?_, ?_, ?_⟩
  · rw [hran.counted]
    apply RunSummary.tally_cycles
    intro ended hended
    obtain ⟨i, -, rfl⟩ := List.mem_map.mp hended
    exact uncrashed i
  · intro i hcommitted
    rw [delayAfter, outcomes_succ, failureStreak_append, if_pos hcommitted]
    exact backoff_of_le_one _ _ (by decide)
  · intro hcancelled
    cases n with
    | zero => rfl
    | succ n =>
      have hfree := hran.uncancelled 0 (Nat.succ_pos n)
      rcases (isCancelled_iff r).mp hcancelled with hinside | ⟨time, htime, hle⟩
      · exact absurd (.inl hinside) hfree
      · exact absurd (.inr (.inr ⟨time, htime, hle⟩)) hfree
  · intro i hi hcancels
    apply Nat.le_antisymm hi
    apply Nat.le_of_not_lt
    intro hlater
    exact hran.uncancelled (i + 1) hlater (.inr (.inl ⟨i, Nat.lt_succ_self i, hcancels⟩))

theorem run_accounted_cancelled :
    let report (outcome : CycleOutcome) : CycleEnd :=
      .reported { CycleProgress.start with outcome, duration := .zero }
    let turn : Nat → Turn Nat := fun
      | 0 => ⟨report (.aborted .updateCursor "busy"), false, 1⟩
      | 1 => ⟨.violated (.duplicateAsset "a"), false, 2⟩
      | 2 => ⟨report (.committed .null .init), false, 3⟩
      | later => ⟨report (.aborted .updateCursor "busy"), true, later⟩
    let options : RunnerOptions := ⟨.ofSeconds 10, .ofSeconds 15, none⟩
    let r : Runner Nat := .new 0 (some 99000000000)
    (run options turn 9 r).2.starts = [0, 10000000000, 25000000000, 35000000000] ∧
      ∃ summary, summary = ⟨4, 1, 2, 1⟩ ∧ Ran options turn r 4 summary (run options turn 9 r).2 ∧
        Closes options turn r 9 4 summary (run options turn 9 r).1 := by
  intro report turn options r
  have hstarts : (run options turn 9 r).2.starts = [0, 10000000000, 25000000000, 35000000000] := by
    decide +kernel
  have huncrashed : ∀ i, (turn (worldAfter turn r.world i)).ended ≠ .crashed := by
    intro i
    rcases worldAfter turn r.world i with _ | _ | _ | _
    all_goals exact CycleEnd.noConfusion
  obtain ⟨n, summary, -, hran, hcloses, -⟩ := run_accounted options turn 9 r rfl huncrashed
  have hcount : (r.starts ++ (List.range n).map (startTime options turn r)).length = 4 := by
    rw [← hran.starts, hstarts]
    rfl
  obtain rfl : n = 4 := by simpa [r, Runner.new] using hcount
  have hsummary : RunSummary.tally (outcomes turn r.world 4) = ⟨4, 1, 2, 1⟩ := by decide +kernel
  exact ⟨hstarts, summary, hran.counted.trans hsummary, hran, hcloses⟩

end Runner

end AssetSync
