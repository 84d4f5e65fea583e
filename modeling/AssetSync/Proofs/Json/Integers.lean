import AssetSync.Json.Parser
import AssetSync.Json.Printer
import Mathlib.Data.List.Basic
import Mathlib.Data.List.TakeDrop
import Mathlib.Data.List.TakeWhile

namespace AssetSync

open Nat (toDigits ofDigitChars)

theorem head?_toDigits_ne_zero {n : Nat} (h : n ≠ 0) : (toDigits 10 n).head? ≠ some '0' := by
  induction n using Nat.strongRecOn with
  | ind n ih =>
    rcases Nat.lt_or_ge n 10 with hn | hn
    · have hdigit : ∀ m : Fin 10, m.val ≠ 0 → m.val.digitChar ≠ '0' := by decide
      rw [Nat.toDigits_of_lt_base hn, List.head?_cons]
      exact fun he => hdigit ⟨n, hn⟩ h (Option.some.inj he)
    · rw [Nat.toDigits_of_base_le (by decide) hn, List.head?_append_of_ne_nil _ Nat.toDigits_ne_nil]
      exact ih (n / 10) (by omega) (by omega)

theorem isDigit_of_mem_toDigits {n : Nat} {c : Char} (h : c ∈ toDigits 10 n) : c.isDigit :=
  Nat.isDigit_of_mem_toDigits (by decide) (by decide) h

namespace Json

theorem le_ofDigitChars (digits : List Char) (significand : Nat) :
    significand ≤ ofDigitChars 10 digits significand := by
  induction digits generalizing significand with
  | nil => simp
  | cons d ds ih =>
    rw [Nat.ofDigitChars_cons]
    exact Nat.le_trans (by omega) (ih _)

theorem appendDigits_eq {digits : List Char} {significand : Nat}
    (h : ofDigitChars 10 digits significand < 0x10000000000000000) :
    appendDigits significand digits = (ofDigitChars 10 digits significand, 0) := by
  induction digits generalizing significand with
  | nil => simp [appendDigits]
  | cons d ds ih =>
    rw [Nat.ofDigitChars_cons] at h ⊢
    have hnext : significand * 10 + digitValue d = 10 * significand + (d.toNat - '0'.toNat) := by
      rw [Nat.mul_comm, digitValue]
    have hlt := Nat.lt_of_le_of_lt (le_ofDigitChars ds _) h
    rw [appendDigits]
    simp only [hnext, hlt, if_true]
    exact ih h

theorem appendDigits_toDigits {n : Nat} (h : n < 0x10000000000000000) :
    appendDigits 0 (toDigits 10 n) = (n, 0) := by
  have hfits : ofDigitChars 10 (toDigits 10 n) 0 < 0x10000000000000000 := by
    rwa [Nat.ofDigitChars_ten_toDigits]
  rw [appendDigits_eq hfits, Nat.ofDigitChars_ten_toDigits]

def EndsNumber (rest : List Char) : Prop :=
  ∀ c ∈ rest.head?, c.isDigit = false ∧ c ≠ '.' ∧ c ≠ 'e' ∧ c ≠ 'E'

variable {rest : List Char}

theorem endsNumber_nil : EndsNumber [] := by
  simp [EndsNumber]

theorem span_isDigit {digits : List Char} (h : ∀ c ∈ digits, c.isDigit) (hrest : EndsNumber rest) :
    (digits ++ rest).span Char.isDigit = (digits, rest) := by
  have hhead : ∀ c ∈ rest.head?, ¬ c.isDigit := fun c hc => by simp [(hrest c hc).1]
  have htake : rest.takeWhile Char.isDigit = [] := by
    cases rest with
    | nil => rfl
    | cons c cs => exact List.takeWhile_cons_of_neg (hhead c rfl)
  have hdrop : rest.dropWhile Char.isDigit = rest := by
    cases rest with
    | nil => rfl
    | cons c cs => exact List.dropWhile_cons_of_neg (hhead c rfl)
  rw [List.span_eq_takeWhile_dropWhile, List.takeWhile_append_of_pos h, htake, List.append_nil,
    List.dropWhile_append_of_pos h, hdrop]

theorem afterWhole_integer {i : Integer} (hrest : EndsNumber rest) :
    afterWhole (decide (i.val < 0)) i.val.natAbs 0 rest = .ok (.integer i, rest) := by
  obtain ⟨val, lower, upper⟩ := i
  unfold afterWhole
  split
  · exact absurd rfl (hrest '.' rfl).2.1
  · exact absurd rfl (hrest 'e' rfl).2.2.1
  · exact absurd rfl (hrest 'E' rfl).2.2.2
  · by_cases hneg : val < 0
    · have hpos : ¬ (decide (val < 0) = false ∧ val.natAbs < 0x10000000000000000) := by simp [hneg]
      have hsign : decide (val < 0) = true ∧ 0 < val.natAbs ∧ val.natAbs ≤ 0x8000000000000000 :=
        ⟨by simp [hneg], by omega, by omega⟩
      have hval : -(val.natAbs : Int) = val := by omega
      simp only [if_true, dif_neg hpos, dif_pos hsign, hval]
    · have hsign : decide (val < 0) = false ∧ val.natAbs < 0x10000000000000000 :=
        ⟨by simp [hneg], by omega⟩
      have hval : (val.natAbs : Int) = val := by omega
      simp only [if_true, dif_pos hsign, hval]

theorem magnitude_toDigits {i : Integer} (hrest : EndsNumber rest) :
    magnitude (decide (i.val < 0)) (toDigits 10 i.val.natAbs ++ rest) = .ok (.integer i, rest) := by
  have hwhole := afterWhole_integer (i := i) hrest
  by_cases hzero : i.val.natAbs = 0
  · rw [hzero] at hwhole ⊢
    cases rest with
    | nil => exact hwhole
    | cons c cs =>
      have hc : ¬ c.isDigit = true := by simp [(hrest c rfl).1]
      exact (if_neg hc).trans hwhole
  have hhead := head?_toDigits_ne_zero hzero
  have hfits : i.val.natAbs < 0x10000000000000000 := by
    have := i.lower
    have := i.upper
    omega
  have hvalue := appendDigits_toDigits hfits
  have hspan := span_isDigit (fun c => isDigit_of_mem_toDigits (n := i.val.natAbs)) hrest
  have hdigits : ∀ c ∈ toDigits 10 i.val.natAbs, c.isDigit := fun c => isDigit_of_mem_toDigits
  obtain ⟨d, ds, hcons⟩ :=
    List.exists_cons_of_ne_nil (Nat.toDigits_ne_nil (n := i.val.natAbs) (b := 10))
  rw [hcons] at hdigits hhead hvalue hspan ⊢
  have hd : d ≠ '0' := fun he => hhead (by rw [he, List.head?_cons])
  rw [List.cons_append, magnitude]
  · rw [List.cons_append] at hspan
    simp only [hdigits d (by simp), if_true, hspan, hvalue]
    exact hwhole
  · exact hd

end Json

end AssetSync
