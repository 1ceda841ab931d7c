import Fidelity.Decimal.Shortest
import Fidelity.Proofs.Double.Stored

/-!
# The shortest decimal rounds to its double

On a grid of decimals with seventeen digits one of the two neighbours of a double lies in the interval
around it. Main statement: the decimal that is found is a number whose rounding is the double.
-/
namespace Fidelity.Decimal

open Double (IsRounded IsStored two_zpow_pos two_zpow_add two_zpow_half)

variable {i : Interval} {n : ℕ} {k : ℤ}

theorem ten_zpow_pos (k : ℤ) : (0 : ℚ) < 10 ^ k := zpow_pos (by norm_num) k

namespace Interval

def least (i : Interval) : ℚ := i.low / i.denominator

def middle (i : Interval) : ℚ := i.value / i.denominator

def greatest (i : Interval) : ℚ := i.high / i.denominator

theorem mem_of_holds (hden : 0 < i.denominator) (h : i.holds n = true) :
    i.least ≤ n ∧ n ≤ i.greatest := by
  have hpos : (0 : ℚ) < i.denominator := by exact_mod_cast hden
  have hbounds : i.low ≤ n * i.denominator ∧ n * i.denominator ≤ i.high := by
    simp only [holds] at h
    split_ifs at h
    · simpa using h
    · exact (by simpa using h : _ ∧ _).imp le_of_lt le_of_lt
  rw [least, greatest, div_le_iff₀ hpos, le_div_iff₀ hpos]
  exact_mod_cast hbounds

theorem holds_of_mem (hden : 0 < i.denominator) (hlow : i.least < n) (hhigh : n < i.greatest) :
    i.holds n = true := by
  have hpos : (0 : ℚ) < i.denominator := by exact_mod_cast hden
  rw [least, div_lt_iff₀ hpos] at hlow
  rw [greatest, lt_div_iff₀ hpos] at hhigh
  have hlow' : i.low < n * i.denominator := by exact_mod_cast hlow
  have hhigh' : n * i.denominator < i.high := by exact_mod_cast hhigh
  simp only [holds]
  split_ifs
  · simp [hlow'.le, hhigh'.le]
  · simp [hlow', hhigh']

theorem pick?_cases (tie : Tie) (i : Interval) :
    (i.pick? tie = none ∧ i.holds (i.value / i.denominator) = false ∧
        i.holds (i.value / i.denominator + 1) = false) ∨
      ∃ n, i.pick? tie = some n ∧ i.holds n = true := by
  cases hbelow : i.holds (i.value / i.denominator) <;>
    cases habove : i.holds (i.value / i.denominator + 1) <;> simp only [pick?, hbelow, habove]
  · simp
  · exact .inr ⟨_, rfl, habove⟩
  · exact .inr ⟨_, rfl, hbelow⟩
  · right
    cases tie <;> dsimp only <;> split_ifs
    all_goals first | exact ⟨_, rfl, hbelow⟩ | exact ⟨_, rfl, habove⟩

theorem holds_of_pick? {tie : Tie} (h : i.pick? tie = some n) : i.holds n = true := by
  obtain ⟨hnone, -⟩ | ⟨m, hm, hholds⟩ := pick?_cases tie i
  · cases hnone.symm.trans h
  · cases hm.symm.trans h
    exact hholds

/-- The neighbours of the middle are one apart, so a longer interval around it holds one of them. -/
theorem exists_pick? (hden : 0 < i.denominator) (tie : Tie) (hlong : 1 < i.greatest - i.least)
    (hlow : i.least < i.middle) (hhigh : i.middle < i.greatest) : ∃ n, i.pick? tie = some n := by
  have hpos : (0 : ℚ) < i.denominator := by exact_mod_cast hden
  have hbelow : ((i.value / i.denominator : ℕ) : ℚ) ≤ i.middle := Nat.cast_div_le
  have habove : i.middle < (i.value / i.denominator : ℕ) + 1 := by
    rw [middle, div_lt_iff₀ hpos]
    exact_mod_cast Nat.lt_mul_of_div_lt (Nat.lt_succ_self _) hden
  obtain ⟨-, hmiss, hmiss'⟩ | ⟨n, hn, -⟩ := pick?_cases tie i
  · have hnear : ((i.value / i.denominator : ℕ) : ℚ) ≤ i.least := by
      by_contra hlt
      rw [holds_of_mem hden (not_le.mp hlt) (hbelow.trans_lt hhigh)] at hmiss
      cases hmiss
    rw [holds_of_mem hden] at hmiss'
    · cases hmiss'
    · push_cast
      linarith
    · push_cast
      linarith
  · exact ⟨n, hn⟩

theorem denominator_inUnits_pos (hden : 0 < i.denominator) (k : ℤ) :
    0 < (i.inUnits k).denominator := by
  unfold inUnits
  split_ifs
  · exact Nat.mul_pos hden (Nat.pow_pos (by decide))
  · exact hden

theorem ends_inUnits (i : Interval) (k : ℤ) :
    (i.inUnits k).least = i.least / 10 ^ k ∧ (i.inUnits k).middle = i.middle / 10 ^ k ∧
      (i.inUnits k).greatest = i.greatest / 10 ^ k := by
  unfold inUnits
  split_ifs with hk
  · obtain ⟨n, rfl⟩ := Int.eq_ofNat_of_zero_le hk
    simp [least, middle, greatest, div_div]
  · obtain ⟨n, rfl⟩ : ∃ n : ℕ, k = -n := ⟨(-k).toNat, by omega⟩
    simp [least, middle, greatest, div_mul_eq_mul_div]

section

variable {m : ℕ} {q : ℤ}

theorem scaleBinary_pos (n : ℕ) (e : ℤ) : 0 < (scaleBinary n e).2 := by
  unfold scaleBinary
  split_ifs
  · exact Nat.one_pos
  · exact Nat.pow_pos (by decide)

theorem scaleBinary_div (n : ℕ) (e : ℤ) :
    ((scaleBinary n e).1 : ℚ) / (scaleBinary n e).2 = n * 2 ^ e := by
  unfold scaleBinary
  split_ifs with he
  · obtain ⟨k, rfl⟩ := Int.eq_ofNat_of_zero_le he
    simp
  · obtain ⟨k, rfl⟩ : ∃ k : ℕ, e = -k := ⟨(-e).toNat, by omega⟩
    simp [div_eq_mul_inv]

/-- Quarters of a step below the middle that still round to it. -/
def quartersDown (m : ℕ) (q : ℤ) : ℕ := if m = fractionLimit ∧ -1074 < q then 1 else 2

theorem quartersDown_eq_or (m : ℕ) (q : ℤ) : quartersDown m q = 1 ∨ quartersDown m q = 2 := by
  unfold quartersDown
  split_ifs
  · exact .inl rfl
  · exact .inr rfl

theorem two_zpow_eq (q : ℤ) : (2 : ℚ) ^ q = 4 * 2 ^ (q - 2) := by
  rw [show q = (q - 2) + 2 by ring, two_zpow_add]
  norm_num
  ring

theorem ends_around (hm : 0 < m) (q : ℤ) :
    (around m q).least = m * 2 ^ q - quartersDown m q * 2 ^ (q - 2) ∧
      (around m q).middle = m * 2 ^ q ∧ (around m q).greatest = m * 2 ^ q + 2 ^ q / 2 := by
  have hquarter := two_zpow_eq q
  have hscale (n : ℕ) : ((n * (scaleBinary 1 (q - 2)).1 : ℕ) : ℚ) / (scaleBinary 1 (q - 2)).2 =
      n * 2 ^ (q - 2) := by
    rw [Nat.cast_mul, mul_div_assoc, scaleBinary_div, Nat.cast_one, one_mul]
  have hdown : quartersDown m q ≤ 4 * m := by
    have hcases := quartersDown_eq_or m q
    omega
  refine ⟨(hscale (4 * m - quartersDown m q)).trans ?_, (hscale (4 * m)).trans ?_,
    (hscale (4 * m + 2)).trans ?_⟩
  · rw [Nat.cast_sub hdown, hquarter]
    push_cast
    ring
  · rw [hquarter]
    push_cast
    ring
  · rw [hquarter]
    push_cast
    ring

theorem isRounded_of_mem {x : ℚ} (hm : 0 < m) (h : IsStored m q) (hleast : (around m q).least ≤ x)
    (hgreatest : x ≤ (around m q).greatest) : IsRounded x (m * 2 ^ q) := by
  obtain ⟨hlow, -, hhigh⟩ := ends_around hm q
  rw [hlow] at hleast
  rw [hhigh] at hgreatest
  have hquarter := two_zpow_eq q
  have hpos := two_zpow_pos (q - 2)
  have hdown : (quartersDown m q : ℚ) ≤ 2 := by
    rcases quartersDown_eq_or m q with heq | heq <;> rw [heq] <;> norm_num
  by_cases hfine : q = -1074 ∨ 2 ^ (q + 52) ≤ x
  · refine ⟨m, q, h.lt.le, h.ge, rfl, hfine, abs_le.mpr ?_⟩
    constructor <;> nlinarith
  · -- Below a power of two the steps are half as long, and the interval ends halfway to the next one.
    rw [not_or, not_le, two_zpow_add q] at hfine
    have hm' : m = 2 ^ 52 := by
      by_contra hne
      have hfull : 2 ^ 52 + 1 ≤ m := Nat.lt_of_le_of_ne (h.full.resolve_right hfine.1) (Ne.symm hne)
      have hnext : (2 : ℚ) ^ 52 + 1 ≤ m := by exact_mod_cast hfull
      have hbegin := hfine.2
      rw [hquarter] at hbegin hleast
      have hproduct := mul_le_mul_of_nonneg_right hnext hpos.le
      have hshare := mul_le_mul_of_nonneg_right hdown hpos.le
      norm_num at hproduct hbegin
      linarith
    have hge : -1074 < q := lt_of_le_of_ne h.ge (Ne.symm hfine.1)
    have hone : quartersDown m q = 1 := if_pos ⟨hm', hge⟩
    have hhalf : (2 : ℚ) ^ (q - 1) = 2 * 2 ^ (q - 2) := by
      rw [show q - 1 = (q - 2) + 1 by ring, two_zpow_add, mul_comm]
      norm_num
    subst hm'
    rw [hone, hquarter] at hleast
    rw [hquarter] at hfine
    refine ⟨2 ^ 53, q - 1, le_rfl, by omega, ?_, .inr ?_, abs_le.mpr ?_⟩
    · rw [hhalf, hquarter]
      push_cast
      ring
    · rw [two_zpow_add (q - 1), hhalf]
      push_cast at hleast
      norm_num at hleast ⊢
      linarith
    · rw [hhalf, hquarter]
      have hbelow := hfine.2
      push_cast at hleast ⊢
      norm_num at hleast hbelow ⊢
      constructor <;> linarith

end

end Interval

theorem pow_digitCount_le {n : ℕ} (hn : n ≠ 0) : 10 ^ (digitCount n - 1) ≤ n := by
  rcases Nat.eq_zero_or_pos (digitCount n - 1) with hone | hmore
  · rw [hone, pow_zero]
    exact Nat.pos_of_ne_zero hn
  · by_contra hlt
    have hshort := (Nat.length_toDigits_le_iff (by decide) hmore).mpr (not_le.mp hlt)
    rw [← digitCount] at hshort
    omega

theorem ten_zpow_leadingExponent_le {d : ℕ} (hd : 0 < d) (h : d ≤ n * 10 ^ reach) :
    (10 : ℚ) ^ leadingExponent n d ≤ n / d := by
  have hexponent : leadingExponent n d = (digitCount (n * 10 ^ reach / d) : ℤ) - (reach + 1) := by
    rw [leadingExponent, Nat.pow_eq]
  generalize reach = p at h hexponent
  have hcount : 0 < digitCount (n * 10 ^ p / d) := Nat.length_toDigits_pos
  have hpow : (10 : ℚ) ^ (digitCount (n * 10 ^ p / d) - 1) ≤ (n * 10 ^ p / d : ℕ) := by
    exact_mod_cast pow_digitCount_le (Nat.div_pos h hd).ne'
  have hsplit : leadingExponent n d = ((digitCount (n * 10 ^ p / d) - 1 : ℕ) : ℤ) - p := by omega
  rw [hsplit, zpow_sub₀ (by norm_num), zpow_natCast, zpow_natCast]
  calc
    (10 : ℚ) ^ (digitCount (n * 10 ^ p / d) - 1) / 10 ^ p
        ≤ ((n * 10 ^ p : ℕ) : ℚ) / d / 10 ^ p := by
      gcongr
      exact hpow.trans Nat.cast_div_le
    _ = (n : ℚ) / d := by
      push_cast
      field_simp

theorem one_le_two_zpow_mul : (1 : ℚ) ≤ 2 ^ (-1074 : ℤ) * 10 ^ reach :=
  calc
    (1 : ℚ) ≤ (2 ^ (-13 : ℤ) * 10 ^ 4) ^ 100 := one_le_pow₀ (by norm_num)
    _ = 2 ^ ((-13 : ℤ) * (100 : ℕ)) * 10 ^ reach := by
      rw [mul_pow, zpow_mul, zpow_natCast, show reach = 4 * 100 from rfl, pow_mul]
    _ ≤ 2 ^ (-1074 : ℤ) * 10 ^ reach :=
      mul_le_mul_of_nonneg_right (Double.two_zpow_le (by norm_num))
        (pow_nonneg (by norm_num) reach)

def Scaled.number (d : Scaled) : ℚ := d.significand * 10 ^ d.exponent

theorem number_stripZeros (fuel : ℕ) (d : Scaled) : (stripZeros fuel d).number = d.number := by
  induction fuel generalizing d with
  | zero => rfl
  | succ fuel ih =>
    rw [stripZeros]
    split_ifs with h
    · rw [ih, Scaled.number, Scaled.number, zpow_add_one₀ (by norm_num)]
      have hdigits : ((d.significand / 10 * 10 : ℕ) : ℚ) = d.significand := by
        exact_mod_cast Nat.div_mul_cancel (Nat.dvd_of_mod_eq_zero h.2)
      rw [← hdigits]
      push_cast
      ring
    · rfl

section

variable {m : ℕ} {q : ℤ}

theorem Interval.exists_pick?_around (tie : Tie) (hm : 0 < m) (h : IsStored m q)
    (hk : (10 : ℚ) ^ k * 10 ^ 16 ≤ m * 2 ^ q) :
    ∃ n, ((Interval.around m q).inUnits k).pick? tie = some n := by
  obtain ⟨hlow, hmiddle, hhigh⟩ := ends_around hm q
  obtain ⟨hlow', hmiddle', hhigh'⟩ := ends_inUnits (around m q) k
  have hpos := two_zpow_pos (q - 2)
  have hten := ten_zpow_pos k
  have hquarter := two_zpow_eq q
  apply exists_pick? (denominator_inUnits_pos (scaleBinary_pos 1 _) k)
  · rw [hlow', hhigh', ← sub_div, one_lt_div hten, hlow, hhigh]
    have hcoarse : (10 : ℚ) ^ k * 10 ^ 16 ≤ m * (4 * 2 ^ (q - 2)) := hquarter ▸ hk
    rcases quartersDown_eq_or m q with hone | htwo
    · have hm' : m = 2 ^ 52 := by
        by_contra hne
        rw [quartersDown, if_neg fun hboth => hne hboth.1] at hone
        cases hone
      rw [hone, hquarter]
      rw [hm'] at hcoarse ⊢
      norm_num at hcoarse ⊢
      linarith
    · have hshort : (m : ℚ) ≤ 2 ^ 53 := by exact_mod_cast h.lt.le
      have hproduct := mul_le_mul_of_nonneg_right hshort hpos.le
      rw [htwo, hquarter]
      norm_num at hproduct hcoarse ⊢
      linarith
  · rw [hlow', hmiddle']
    gcongr
    rw [hlow, hmiddle]
    rcases quartersDown_eq_or m q with hdown | hdown <;> rw [hdown] <;> norm_num <;> exact hpos
  · rw [hhigh', hmiddle']
    gcongr
    rw [hhigh, hmiddle]
    linarith

theorem leadingExponent_around (hm : 0 < m) (h : IsStored m q) :
    (10 : ℚ) ^ leadingExponent (Interval.around m q).value (Interval.around m q).denominator ≤
      m * 2 ^ q := by
  obtain ⟨-, hmiddle, -⟩ := Interval.ends_around hm q
  have hden := Interval.scaleBinary_pos 1 (q - 2)
  have hleast : (2 : ℚ) ^ (-1074 : ℤ) ≤ (Interval.around m q).middle := by
    rw [hmiddle]
    refine (Double.two_zpow_le h.ge).trans (le_mul_of_one_le_left (two_zpow_pos q).le ?_)
    exact_mod_cast hm
  rw [← hmiddle]
  apply ten_zpow_leadingExponent_le hden
  have hone := one_le_two_zpow_mul.trans
    (mul_le_mul_of_nonneg_right hleast (pow_nonneg (by norm_num) reach))
  have hden' : (0 : ℚ) < (Interval.around m q).denominator := by exact_mod_cast hden
  rw [Interval.middle, div_mul_eq_mul_div, one_le_div hden'] at hone
  generalize reach = p at hone ⊢
  exact_mod_cast hone

theorem isRounded_decimal? {tie : Tie} {d : Scaled} (hm : 0 < m) (h : IsStored m q)
    (hd : (Interval.around m q).decimal? tie k = some d) : IsRounded d.number (m * 2 ^ q) := by
  obtain ⟨n, hn, rfl⟩ := Option.map_eq_some_iff.mp hd
  obtain ⟨hleast, hgreatest⟩ := Interval.mem_of_holds
    (Interval.denominator_inUnits_pos (Interval.scaleBinary_pos 1 (q - 2)) k)
    (Interval.holds_of_pick? hn)
  obtain ⟨hleast', -, hgreatest'⟩ := Interval.ends_inUnits (Interval.around m q) k
  rw [hleast', div_le_iff₀ (ten_zpow_pos k)] at hleast
  rw [hgreatest', le_div_iff₀ (ten_zpow_pos k)] at hgreatest
  exact Interval.isRounded_of_mem hm h hleast hgreatest

theorem isRounded_shortest (tie : Tie) (hm : 0 < m) (h : IsStored m q) :
    IsRounded (shortest tie m q).number (m * 2 ^ q) := by
  have hleading := leadingExponent_around hm h
  rw [shortest, number_stripZeros]
  generalize leadingExponent (Interval.around m q).value (Interval.around m q).denominator = e
    at hleading ⊢
  have hlast : (10 : ℚ) ^ (e - (16 : ℕ)) * 10 ^ 16 ≤ m * 2 ^ q := by
    rwa [zpow_sub₀ (by norm_num), zpow_natCast, div_mul_cancel₀ _ (by norm_num)]
  obtain ⟨n, hn⟩ := Interval.exists_pick?_around tie hm h hlast
  cases hfind : (List.range 17).findSome? fun n : ℕ =>
      (Interval.around m q).decimal? tie (e - n) with
  | none =>
    have hmiss : (Interval.around m q).decimal? tie (e - (16 : ℕ)) = none :=
      List.findSome?_eq_none_iff.mp hfind 16 (by decide)
    rw [Interval.decimal?, hn] at hmiss
    cases hmiss
  | some d =>
    obtain ⟨n, -, hd⟩ := List.exists_of_findSome?_eq_some hfind
    exact isRounded_decimal? hm h hd

theorem significand_shortest_ne_zero (tie : Tie) (hm : 0 < m) (h : IsStored m q) :
    (shortest tie m q).significand ≠ 0 := by
  intro hzero
  have hrounded := isRounded_shortest tie hm h
  rw [Scaled.number, hzero, Nat.cast_zero, zero_mul] at hrounded
  have hpos : (0 : ℚ) < m * 2 ^ q := mul_pos (by exact_mod_cast hm) (two_zpow_pos q)
  exact hpos.ne' (hrounded.eq_of_onGrid Double.onGrid_zero)

end

end Fidelity.Decimal
