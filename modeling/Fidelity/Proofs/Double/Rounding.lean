import Mathlib

/-!
# Rounding to a double

The numbers that are not negative and that a double can hold, if it had no limit, are the multiples
of a power of two by at most 53 binary digits. Main statements: a rounded number is the nearest of
these, so rounding keeps the order of numbers, and is off by a share of `2 ^ -53` and, where numbers
get very small, half of the least of them.
-/
namespace Fidelity.Double

def OnGrid (w : ℚ) : Prop :=
  ∃ (k : ℕ) (t : ℤ), k ≤ 2 ^ 53 ∧ -1074 ≤ t ∧ w = k * 2 ^ t

/-- A multiple of `2 ^ t` at most half of that away, where `t` is as small as 53 digits allow. -/
def IsRounded (q z : ℚ) : Prop :=
  ∃ (k : ℕ) (t : ℤ), k ≤ 2 ^ 53 ∧ -1074 ≤ t ∧ z = k * 2 ^ t ∧
    (t = -1074 ∨ 2 ^ (t + 52) ≤ q) ∧ |z - q| ≤ 2 ^ t / 2

variable {q q' w z z' : ℚ}

theorem two_zpow_pos (t : ℤ) : (0 : ℚ) < 2 ^ t := zpow_pos two_pos t

theorem two_zpow_add (s t : ℤ) : (2 : ℚ) ^ (s + t) = 2 ^ s * 2 ^ t := zpow_add₀ two_ne_zero s t

theorem two_zpow_le {s t : ℤ} (h : s ≤ t) : (2 : ℚ) ^ s ≤ 2 ^ t :=
  zpow_le_zpow_right₀ one_le_two h

theorem two_zpow_half (t : ℤ) : (2 : ℚ) ^ t / 2 = 2 ^ (t - 1) := by
  rw [zpow_sub_one₀ two_ne_zero, div_eq_mul_inv]

theorem OnGrid.nonneg (h : OnGrid w) : 0 ≤ w := by
  obtain ⟨k, t, -, -, rfl⟩ := h
  have ht := two_zpow_pos t
  positivity

theorem onGrid_natCast {n : ℕ} (h : n ≤ 2 ^ 53) : OnGrid n :=
  ⟨n, 0, h, by norm_num, by simp⟩

theorem onGrid_zero : OnGrid 0 := by
  simpa using onGrid_natCast (Nat.zero_le (2 ^ 53))

theorem onGrid_one : OnGrid 1 := by
  simpa using onGrid_natCast (Nat.one_le_two_pow : 1 ≤ 2 ^ 53)

theorem onGrid_two_zpow {t : ℤ} (h : -1074 ≤ t) : OnGrid (2 ^ t) :=
  ⟨1, t, by norm_num, h, by simp⟩

namespace IsRounded

theorem onGrid (h : IsRounded q z) : OnGrid z := by
  obtain ⟨k, t, hk, ht, hz, -⟩ := h
  exact ⟨k, t, hk, ht, hz⟩

theorem nonneg (h : IsRounded q z) : 0 ≤ z := h.onGrid.nonneg

theorem nearest_multiple {k j : ℕ} {t : ℤ} (hz : |(k : ℚ) * 2 ^ t - q| ≤ 2 ^ t / 2) :
    |(k : ℚ) * 2 ^ t - q| ≤ |(j : ℚ) * 2 ^ t - q| := by
  have ht := two_zpow_pos t
  rcases eq_or_ne j k with rfl | hjk
  · exact le_rfl
  · have hapart : (2 : ℚ) ^ t ≤ |(j : ℚ) * 2 ^ t - k * 2 ^ t| := by
      have hdiff : (1 : ℚ) ≤ |(j : ℚ) - k| := by
        have hint : (1 : ℤ) ≤ |(j : ℤ) - k| := Int.one_le_abs (by omega)
        exact_mod_cast hint
      calc
        (2 : ℚ) ^ t ≤ |(j : ℚ) - k| * 2 ^ t := le_mul_of_one_le_left ht.le hdiff
        _ = |(j : ℚ) * 2 ^ t - k * 2 ^ t| := by
          rw [← sub_mul, abs_mul, abs_of_pos ht]
    have htriangle := abs_sub_le ((j : ℚ) * 2 ^ t) q (k * 2 ^ t)
    rw [abs_sub_comm q] at htriangle
    linarith

theorem nearest (h : IsRounded q z) (hw : OnGrid w) : |z - q| ≤ |w - q| := by
  obtain ⟨k, t, -, -, rfl, hfine, hz⟩ := h
  obtain ⟨j, s, hj, hs, rfl⟩ := hw
  have ht := two_zpow_pos t
  rcases le_or_gt t s with hts | hst
  · -- a coarser grid is part of the finer one
    have hcoarse : (j : ℚ) * 2 ^ s = ((j * 2 ^ (s - t).toNat : ℕ) : ℚ) * 2 ^ t := by
      have hsplit : s = ((s - t).toNat : ℤ) + t := by omega
      conv_lhs => rw [hsplit, two_zpow_add, zpow_natCast]
      push_cast
      ring
    rw [hcoarse]
    exact nearest_multiple hz
  · -- a finer grid ends where this one begins to be used
    have hq : (2 : ℚ) ^ (t + 52) ≤ q := hfine.resolve_left (by omega)
    have hbegin : (2 : ℚ) ^ (t + 52) = ((2 ^ 52 : ℕ) : ℚ) * 2 ^ t := by
      rw [two_zpow_add, mul_comm]
      norm_num
    have hend : (j : ℚ) * 2 ^ s ≤ 2 ^ (t + 52) := by
      have hj' : (j : ℚ) ≤ 2 ^ (53 : ℤ) := by exact_mod_cast hj
      calc
        (j : ℚ) * 2 ^ s ≤ 2 ^ (53 : ℤ) * 2 ^ s :=
          mul_le_mul_of_nonneg_right hj' (two_zpow_pos s).le
        _ = 2 ^ (53 + s) := (two_zpow_add _ _).symm
        _ ≤ 2 ^ (t + 52) := two_zpow_le (by omega)
    have hnear := nearest_multiple (j := 2 ^ 52) hz
    rw [← hbegin, abs_of_nonpos (by linarith : (2 : ℚ) ^ (t + 52) - q ≤ 0)] at hnear
    rw [abs_of_nonpos (by linarith : (j : ℚ) * 2 ^ s - q ≤ 0)]
    linarith

theorem le_of_le (h : IsRounded q z) (hw : OnGrid w) (hle : q ≤ w) : z ≤ w := by
  have hnear := h.nearest hw
  rw [abs_of_nonneg (by linarith : 0 ≤ w - q)] at hnear
  have hz := le_abs_self (z - q)
  linarith

theorem le_of_ge (h : IsRounded q z) (hw : OnGrid w) (hle : w ≤ q) : w ≤ z := by
  have hnear := h.nearest hw
  rw [abs_of_nonpos (by linarith : w - q ≤ 0)] at hnear
  have hz := neg_abs_le (z - q)
  linarith

theorem eq_of_onGrid (h : IsRounded q z) (hq : OnGrid q) : z = q :=
  le_antisymm (h.le_of_le hq le_rfl) (h.le_of_ge hq le_rfl)

theorem mono (h : IsRounded q z) (h' : IsRounded q' z') (hlt : q < q') : z ≤ z' := by
  by_contra hgt
  rw [not_le] at hgt
  have hnear := h.nearest h'.onGrid
  have hnear' := h'.nearest h.onGrid
  rcases abs_cases (z - q) with hz | hz <;> rcases abs_cases (z' - q) with hz' | hz' <;>
    rcases abs_cases (z' - q') with hw | hw <;> rcases abs_cases (z - q') with hw' | hw' <;>
    linarith

theorem error (h : IsRounded q z) (hq : 0 ≤ q) :
    |z - q| ≤ 2 ^ (-53 : ℤ) * q + 2 ^ (-1075 : ℤ) := by
  obtain ⟨k, t, -, -, -, hfine, hz⟩ := h
  rw [two_zpow_half] at hz
  refine hz.trans ?_
  have hshare : 0 ≤ (2 : ℚ) ^ (-53 : ℤ) * q := mul_nonneg (two_zpow_pos _).le hq
  rcases hfine with rfl | hfine
  · exact le_add_of_nonneg_left hshare
  · calc
      (2 : ℚ) ^ (t - 1) = 2 ^ (-53 : ℤ) * 2 ^ (t + 52) := by
        rw [← two_zpow_add]
        congr 1
        omega
      _ ≤ 2 ^ (-53 : ℤ) * q := mul_le_mul_of_nonneg_left hfine (two_zpow_pos _).le
      _ ≤ _ := le_add_of_nonneg_right (two_zpow_pos _).le

end IsRounded

end Fidelity.Double
