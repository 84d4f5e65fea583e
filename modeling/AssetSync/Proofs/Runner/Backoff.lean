import AssetSync.Runner.Backoff
import Mathlib.Algebra.Order.Group.Nat

namespace AssetSync

theorem Duration.ext_nanos {a b : Duration} (h : a.nanos = b.nanos) : a = b := by
  cases a
  cases b
  cases h
  rfl

theorem nanos_min (a b : Duration) : (a.min b).nanos = min a.nanos b.nanos := by
  rw [Duration.min, Nat.min_def]
  split <;> rfl

theorem nanos_max (a b : Duration) : (a.max b).nanos = max a.nanos b.nanos := by
  rw [Duration.max, Nat.max_def]
  split <;> rfl

theorem nanos_ofNanos (n : Nat) :
    (Duration.ofNanos n).nanos = min n (UInt64.size * 1000000000 - 1) := by
  unfold Duration.ofNanos
  split
  · rename_i hfits
    simp only
    omega
  · rename_i hlarge
    simp only
    omega

theorem nanos_scale (d : Duration) (factor : Nat) :
    (d.scale factor).nanos = min (d.nanos * factor) (UInt64.size * 1000000000 - 1) :=
  nanos_ofNanos _

theorem nanos_scale_carry (d : Duration) (factor : Nat) :
    let seconds := d.seconds * factor + d.subsecNanos * factor / 1000000000
    (d.scale factor).nanos =
      if seconds < UInt64.size then
        seconds * 1000000000 + d.subsecNanos * factor % 1000000000
      else UInt64.size * 1000000000 - 1 := by
  intro seconds
  have hrest : d.subsecNanos * factor % 1000000000 < 1000000000 := Nat.mod_lt _ (by decide)
  have hparts : d.nanos * factor =
      seconds * 1000000000 + d.subsecNanos * factor % 1000000000 := by
    have hsplit : d.nanos = d.seconds * 1000000000 + d.subsecNanos := (Nat.div_add_mod' _ _).symm
    rw [hsplit, Nat.add_mul, Nat.mul_right_comm, Nat.add_mul, Nat.add_assoc, Nat.div_add_mod']
  rw [nanos_scale, hparts]
  clear_value seconds
  split <;> omega

def Duration.wordProduct (d : Duration) (factor : UInt32) : Nat :=
  let rest := UInt64.ofNat d.subsecNanos * factor.toUInt64
  let seconds := d.seconds * factor.toNat + (rest / 1000000000).toNat
  if seconds < UInt64.size then seconds * 1000000000 + (rest % 1000000000).toNat
  else UInt64.size * 1000000000 - 1

theorem nanos_scale_eq_wordProduct (d : Duration) (factor : UInt32) :
    (d.scale factor.toNat).nanos = d.wordProduct factor := by
  have hsubsec : d.subsecNanos < 1000000000 := Nat.mod_lt _ (by decide)
  have hfactor : factor.toNat < UInt32.size := factor.toNat_lt_size
  have hfits : d.subsecNanos * factor.toNat < UInt64.size :=
    lt_of_le_of_lt (Nat.mul_le_mul hsubsec.le hfactor.le) (by decide)
  have hword : (UInt64.ofNat d.subsecNanos).toNat = d.subsecNanos :=
    UInt64.toNat_ofNat_of_lt (hsubsec.trans (by decide))
  have hrest : (UInt64.ofNat d.subsecNanos * factor.toUInt64).toNat =
      d.subsecNanos * factor.toNat := by
    rw [UInt64.toNat_mul, hword, UInt32.toNat_toUInt64]
    exact Nat.mod_eq_of_lt hfits
  have hbillion : (1000000000 : UInt64).toNat = 1000000000 := by decide
  rw [nanos_scale_carry, Duration.wordProduct, UInt64.toNat_div, UInt64.toNat_mod, hrest, hbillion]

theorem backoffFactor_eq (failures : UInt32) :
    backoffFactor failures = min (2 ^ (max failures.toNat 1 - 1)) (UInt32.size - 1) := by
  have hexponent : max failures.toNat 1 - 1 = failures.toNat - 1 := by omega
  have hlast : 2 ^ 31 ≤ UInt32.size - 1 := by decide
  have hover : UInt32.size - 1 ≤ 2 ^ 32 := by decide
  rw [backoffFactor, hexponent]
  split
  · have hpower : 2 ^ (failures.toNat - 1) ≤ 2 ^ 31 := Nat.pow_le_pow_right (by decide) (by omega)
    rw [Nat.one_shiftLeft, min_eq_left (hpower.trans hlast)]
  · have hpower : 2 ^ 32 ≤ 2 ^ (failures.toNat - 1) := Nat.pow_le_pow_right (by decide) (by omega)
    rw [min_eq_right (hover.trans hpower)]

theorem backoffFactor_mono {failures later : UInt32} (h : failures ≤ later) :
    backoffFactor failures ≤ backoffFactor later := by
  have hle : failures.toNat ≤ later.toNat := UInt32.le_iff_toNat_le.mp h
  rw [backoffFactor_eq, backoffFactor_eq]
  apply min_le_min_right
  exact Nat.pow_le_pow_right (by decide) (by omega)

theorem one_le_backoffFactor (failures : UInt32) : 1 ≤ backoffFactor failures := by
  rw [backoffFactor_eq]
  exact le_min Nat.one_le_two_pow (by decide)

theorem backoffFactor_lt (failures : UInt32) : backoffFactor failures < UInt32.size := by
  rw [backoffFactor_eq]
  exact lt_of_le_of_lt (min_le_right _ _) (by decide)

theorem backoffFactor_next {failures next : UInt32} (hfailed : 1 ≤ failures)
    (hnext : next.toNat = failures.toNat + 1) :
    backoffFactor next = min (2 * backoffFactor failures) (UInt32.size - 1) := by
  have hone : 1 ≤ failures.toNat := UInt32.le_iff_toNat_le.mp hfailed
  have hexponent : max next.toNat 1 - 1 = max failures.toNat 1 - 1 + 1 := by omega
  rw [backoffFactor_eq, backoffFactor_eq, hexponent, Nat.pow_succ]
  omega

theorem backoffFactor_of_many {failures : UInt32} (h : 33 ≤ failures) :
    backoffFactor failures = UInt32.size - 1 := by
  have hmany : 33 ≤ failures.toNat := UInt32.le_iff_toNat_le.mp h
  rw [backoffFactor, if_neg (by omega)]

theorem nanos_backoff (interval maxBackoff : Duration) (failures : UInt32) :
    (backoff interval maxBackoff failures).nanos =
      min (interval.nanos * backoffFactor failures) (max interval.nanos maxBackoff.nanos) := by
  have hinterval := interval.nanos_lt
  have hmax := maxBackoff.nanos_lt
  rw [backoff, nanos_min, nanos_scale, nanos_max]
  omega

theorem backoff_of_le_one (interval maxBackoff : Duration) {failures : UInt32}
    (h : failures ≤ 1) : backoff interval maxBackoff failures = interval := by
  have hle : failures.toNat ≤ 1 := UInt32.le_iff_toNat_le.mp h
  have hexponent : max failures.toNat 1 - 1 = 0 := by omega
  have hfactor : backoffFactor failures = 1 := by
    rw [backoffFactor_eq, hexponent]
    rfl
  apply Duration.ext_nanos
  rw [nanos_backoff, hfactor, Nat.mul_one]
  omega

theorem nanos_backoff_bounds (interval maxBackoff : Duration) (failures : UInt32) :
    interval.nanos ≤ (backoff interval maxBackoff failures).nanos ∧
      (backoff interval maxBackoff failures).nanos ≤ max interval.nanos maxBackoff.nanos := by
  rw [nanos_backoff]
  have hscaled : interval.nanos ≤ interval.nanos * backoffFactor failures :=
    Nat.le_mul_of_pos_right _ (one_le_backoffFactor failures)
  exact ⟨le_min hscaled (le_max_left _ _), min_le_right _ _⟩

theorem nanos_backoff_mono (interval maxBackoff : Duration) {failures later : UInt32}
    (h : failures ≤ later) :
    (backoff interval maxBackoff failures).nanos ≤ (backoff interval maxBackoff later).nanos := by
  rw [nanos_backoff, nanos_backoff]
  exact min_le_min_right _ (Nat.mul_le_mul_left _ (backoffFactor_mono h))

section

variable {interval maxBackoff : Duration}
  (within : maxBackoff.nanos ≤ interval.nanos * (UInt32.size - 1))

include within

theorem cap_le_last :
    max interval.nanos maxBackoff.nanos ≤ interval.nanos * (UInt32.size - 1) :=
  max_le (Nat.le_mul_of_pos_right _ (by decide)) within

theorem nanos_backoff_next {failures next : UInt32} (hfailed : 1 ≤ failures)
    (hnext : next.toNat = failures.toNat + 1) :
    (backoff interval maxBackoff next).nanos =
      min (2 * (backoff interval maxBackoff failures).nanos)
        (max interval.nanos maxBackoff.nanos) := by
  have hcap := cap_le_last within
  have hdouble : interval.nanos * (2 * backoffFactor failures) =
      2 * (interval.nanos * backoffFactor failures) :=
    Nat.mul_left_comm _ _ _
  rw [nanos_backoff, nanos_backoff, backoffFactor_next hfailed hnext, ← Nat.mul_min_mul_left,
    hdouble]
  omega

theorem nanos_backoff_of_many {failures : UInt32} (h : 33 ≤ failures) :
    (backoff interval maxBackoff failures).nanos = max interval.nanos maxBackoff.nanos := by
  rw [nanos_backoff, backoffFactor_of_many h]
  exact min_eq_right (cap_le_last within)

end

theorem backoff_exact (interval maxBackoff : Duration) :
    let wait (failures : UInt32) := (backoff interval maxBackoff failures).nanos
    let cap := max interval.nanos maxBackoff.nanos
    (∀ failures, wait failures =
      min (interval.nanos * min (2 ^ (max failures.toNat 1 - 1)) (UInt32.size - 1)) cap) ∧
    (∀ failures, ∃ factor : UInt32, factor.toNat = backoffFactor failures ∧
      wait failures = min (interval.wordProduct factor) cap) ∧
    (∀ failures, interval.nanos ≤ wait failures ∧ wait failures ≤ cap) ∧
    (∀ failures later, failures ≤ later → wait failures ≤ wait later) ∧
    (∀ failures, failures ≤ 1 → backoff interval maxBackoff failures = interval) ∧
    (maxBackoff.nanos ≤ interval.nanos * (UInt32.size - 1) →
      (∀ failures next : UInt32, 1 ≤ failures → next.toNat = failures.toNat + 1 →
        wait next = min (2 * wait failures) cap) ∧
      ∀ failures, 33 ≤ failures → wait failures = cap) := by
  intro wait cap
  refine ⟨fun failures => ?_, fun failures => ?_, nanos_backoff_bounds _ _,
    fun _ _ => nanos_backoff_mono _ _, fun _ => backoff_of_le_one _ _, fun within => ?_⟩
  · rw [← backoffFactor_eq]
    exact nanos_backoff interval maxBackoff failures
  · have hfactor : (UInt32.ofNat (backoffFactor failures)).toNat = backoffFactor failures :=
      UInt32.toNat_ofNat_of_lt (backoffFactor_lt failures)
    refine ⟨_, hfactor, ?_⟩
    rw [← nanos_scale_eq_wordProduct, hfactor]
    simp only [wait, cap, backoff, nanos_min, nanos_max, max_comm]
  · exact ⟨fun _ _ => nanos_backoff_next within, fun _ => nanos_backoff_of_many within⟩

theorem backoff_exact_saturated :
    let interval := Duration.ofSeconds 9223372036854775808
    let longest := Duration.ofNanos (UInt64.size * 1000000000)
    let wait (failures : UInt32) := (backoff interval longest failures).nanos
    longest.nanos ≤ interval.nanos * (UInt32.size - 1) ∧
      backoff interval longest 1 = interval ∧ 2 * wait 1 = longest.nanos + 1 ∧
      wait 2 = min (2 * wait 1) (max interval.nanos longest.nanos) ∧
      wait 40 = max interval.nanos longest.nanos ∧ wait 2 ≤ wait 40 := by
  intro interval longest wait
  have within : longest.nanos ≤ interval.nanos * (UInt32.size - 1) := by decide
  obtain ⟨-, -, -, hmono, hfirst, hgrows⟩ := backoff_exact interval longest
  obtain ⟨hnext, hmany⟩ := hgrows within
  exact ⟨within, hfirst 1 (by decide), by decide, hnext 1 2 (by decide) (by decide),
    hmany 40 (by decide), hmono 2 40 (by decide)⟩

end AssetSync
