import Fidelity.Proofs.Double.Rounding

/-!
# The weighted mean in rounded steps

The mean of a precision and a recall is a quotient whose two sides take five rounded steps. Main
statements: the upper side exceeds the lower one by a few units of the last digit at most, and by
nothing if the mean is clearly less than one before it is rounded.
-/
namespace Fidelity.Double

/-- A share that is not nothing. It is so great that products of two such never lose digits. -/
structure IsShare (x : ℚ) : Prop where
  ge : 2 ^ (-64 : ℤ) ≤ x
  le_one : x ≤ 1
  onGrid : OnGrid x

structure MeanSteps (b p r : ℚ) where
  weight : ℚ
  weighted : ℚ
  top : ℚ
  scaled : ℚ
  bottom : ℚ
  isRounded_weight : IsRounded (1 + b) weight
  isRounded_weighted : IsRounded (weight * p) weighted
  isRounded_top : IsRounded (weighted * r) top
  isRounded_scaled : IsRounded (b * p) scaled
  isRounded_bottom : IsRounded (scaled + r) bottom

def roundoff : ℚ := 2 ^ (-52 : ℤ)

theorem roundoff_pos : 0 < roundoff := two_zpow_pos _

theorem roundoff_le : roundoff ≤ 1 / 1000 := by
  rw [roundoff]
  norm_num

variable {b p r q z : ℚ}

theorem OnGrid.two_mul (h : OnGrid q) : OnGrid (2 * q) := by
  obtain ⟨k, t, hk, ht, rfl⟩ := h
  refine ⟨k, t + 1, hk, by omega, ?_⟩
  rw [zpow_add_one₀ two_ne_zero]
  ring

theorem onGrid_above_one : OnGrid (1 + 8 * roundoff) :=
  ⟨2 ^ 49 + 1, -49, by norm_num, by norm_num, by rw [roundoff]; norm_num⟩

theorem isShare_one : IsShare 1 := ⟨by norm_num, le_rfl, onGrid_one⟩

theorem IsShare.pos (h : IsShare p) : 0 < p := (two_zpow_pos _).trans_le h.ge

theorem IsShare.mul_le (h : IsShare p) (hq : 0 ≤ q) : q * p ≤ q + 1 := by
  have hle := mul_le_of_le_one_right hq h.le_one
  linarith

namespace IsRounded

theorem error_of_ge (h : IsRounded q z) (hq : 2 ^ (-1022 : ℤ) ≤ q) : |z - q| ≤ roundoff * q := by
  have herror := h.error ((two_zpow_pos _).le.trans hq)
  have hsmall : (2 : ℚ) ^ (-1075 : ℤ) ≤ 2 ^ (-53 : ℤ) * q := by
    calc
      (2 : ℚ) ^ (-1075 : ℤ) = 2 ^ (-53 : ℤ) * 2 ^ (-1022 : ℤ) := by
        rw [← two_zpow_add]
        norm_num
      _ ≤ 2 ^ (-53 : ℤ) * q := mul_le_mul_of_nonneg_left hq (two_zpow_pos _).le
  have htwice : roundoff = 2 ^ (-53 : ℤ) + 2 ^ (-53 : ℤ) := by
    rw [roundoff]
    norm_num
  rw [htwice, add_mul]
  exact herror.trans (add_le_add_right hsmall _)

theorem le_of_normal (h : IsRounded q z) (hq : 2 ^ (-1022 : ℤ) ≤ q) : z ≤ (1 + roundoff) * q := by
  have herror := (abs_le.mp (h.error_of_ge hq)).2
  linarith

theorem ge_of_normal (h : IsRounded q z) (hq : 2 ^ (-1022 : ℤ) ≤ q) : (1 - roundoff) * q ≤ z := by
  have herror := (abs_le.mp (h.error_of_ge hq)).1
  linarith

end IsRounded

namespace MeanSteps

variable (st : MeanSteps b p r)

theorem one_le_weight (hb : 0 ≤ b) : 1 ≤ st.weight :=
  st.isRounded_weight.le_of_ge onGrid_one (by linarith)

theorem le_weighted (hb : 0 ≤ b) (hp : IsShare p) : p ≤ st.weighted :=
  st.isRounded_weighted.le_of_ge hp.onGrid (le_mul_of_one_le_left hp.pos.le (st.one_le_weight hb))

theorem top_le (hb : 0 ≤ b) (hp : IsShare p) (hr : IsShare r) :
    st.top ≤ (1 + roundoff) ^ 3 * ((1 + b) * p * r) := by
  have hu : 0 ≤ 1 + roundoff := by linarith [roundoff_pos]
  have hsmall : (2 : ℚ) ^ (-1022 : ℤ) ≤ 2 ^ (-64 : ℤ) := two_zpow_le (by norm_num)
  have hshares : (2 : ℚ) ^ (-1022 : ℤ) ≤ p * r := by
    calc
      (2 : ℚ) ^ (-1022 : ℤ) ≤ 2 ^ (-128 : ℤ) := two_zpow_le (by norm_num)
      _ = 2 ^ (-64 : ℤ) * 2 ^ (-64 : ℤ) := by
        rw [← two_zpow_add]
        norm_num
      _ ≤ p * r := mul_le_mul hp.ge hr.ge (two_zpow_pos _).le hp.pos.le
  have hweighted := st.le_weighted hb hp
  have hone : (2 : ℚ) ^ (-1022 : ℤ) ≤ 1 + b := by
    have hle : (2 : ℚ) ^ (-1022 : ℤ) ≤ 2 ^ (0 : ℤ) := two_zpow_le (by norm_num)
    rw [zpow_zero] at hle
    linarith
  calc
    st.top ≤ (1 + roundoff) * (st.weighted * r) :=
      st.isRounded_top.le_of_normal (hshares.trans (mul_le_mul_of_nonneg_right hweighted hr.pos.le))
    _ ≤ (1 + roundoff) * ((1 + roundoff) * (st.weight * p) * r) := by
      refine mul_le_mul_of_nonneg_left (mul_le_mul_of_nonneg_right ?_ hr.pos.le) hu
      refine st.isRounded_weighted.le_of_normal (hsmall.trans (hp.ge.trans ?_))
      exact le_mul_of_one_le_left hp.pos.le (st.one_le_weight hb)
    _ ≤ (1 + roundoff) * ((1 + roundoff) * ((1 + roundoff) * (1 + b) * p) * r) := by
      refine mul_le_mul_of_nonneg_left (mul_le_mul_of_nonneg_right ?_ hr.pos.le) hu
      refine mul_le_mul_of_nonneg_left (mul_le_mul_of_nonneg_right ?_ hp.pos.le) hu
      exact st.isRounded_weight.le_of_normal hone
    _ = (1 + roundoff) ^ 3 * ((1 + b) * p * r) := by ring

theorem le_bottom (hb : 0 ≤ b) (hp : IsShare p) (hr : IsShare r) :
    (1 - roundoff) ^ 2 * (b * p + r) ≤ st.bottom := by
  have hu : 0 ≤ 1 - roundoff := by linarith [roundoff_le]
  have hbp : 0 ≤ b * p := mul_nonneg hb hp.pos.le
  have hscaled : (1 - roundoff) * (b * p + r) ≤ st.scaled + r := by
    have herror := (abs_le.mp (st.isRounded_scaled.error hbp)).1
    have htwice : (2 : ℚ) ^ (-53 : ℤ) * (b * p) ≤ roundoff * (b * p) :=
      mul_le_mul_of_nonneg_right (two_zpow_le (by norm_num)) hbp
    -- a product so small that it loses digits is as nothing beside `r`
    have htiny : (2 : ℚ) ^ (-1075 : ℤ) ≤ roundoff * r := by
      calc
        (2 : ℚ) ^ (-1075 : ℤ) ≤ 2 ^ (-116 : ℤ) := two_zpow_le (by norm_num)
        _ = roundoff * 2 ^ (-64 : ℤ) := by
          rw [roundoff, ← two_zpow_add]
          norm_num
        _ ≤ roundoff * r := mul_le_mul_of_nonneg_left hr.ge roundoff_pos.le
    linarith
  have hnormal : (2 : ℚ) ^ (-1022 : ℤ) ≤ st.scaled + r := by
    have hsmall : (2 : ℚ) ^ (-1022 : ℤ) ≤ 2 ^ (-64 : ℤ) := two_zpow_le (by norm_num)
    have hge := hr.ge
    have hnonneg := st.isRounded_scaled.nonneg
    linarith
  calc
    (1 - roundoff) ^ 2 * (b * p + r) = (1 - roundoff) * ((1 - roundoff) * (b * p + r)) := by ring
    _ ≤ (1 - roundoff) * (st.scaled + r) := mul_le_mul_of_nonneg_left hscaled hu
    _ ≤ st.bottom := st.isRounded_bottom.ge_of_normal hnormal

theorem bottom_pos (hr : IsShare r) : 0 < st.bottom := by
  have hsum : r ≤ st.scaled + r := le_add_of_nonneg_left st.isRounded_scaled.nonneg
  exact hr.pos.trans_le (st.isRounded_bottom.le_of_ge hr.onGrid hsum)

theorem exact_le (hb : 0 ≤ b) (hp : IsShare p) (hr : IsShare r) : (1 + b) * p * r ≤ b * p + r := by
  have hleft : 0 ≤ b * p * (1 - r) :=
    mul_nonneg (mul_nonneg hb hp.pos.le) (sub_nonneg.mpr hr.le_one)
  have hright : 0 ≤ r * (1 - p) := mul_nonneg hr.pos.le (sub_nonneg.mpr hp.le_one)
  linarith

theorem top_le_mul_bottom (hb : 0 ≤ b) (hp : IsShare p) (hr : IsShare r) :
    st.top ≤ (1 + 8 * roundoff) * st.bottom := by
  have hu := roundoff_pos
  have hu' := roundoff_le
  have hfactor : (1 + roundoff) ^ 3 ≤ (1 + 8 * roundoff) * (1 - roundoff) ^ 2 := by
    nlinarith [mul_pos hu hu, mul_pos (mul_pos hu hu) hu]
  have hsum : 0 ≤ b * p + r := add_nonneg (mul_nonneg hb hp.pos.le) hr.pos.le
  calc
    st.top ≤ (1 + roundoff) ^ 3 * ((1 + b) * p * r) := st.top_le hb hp hr
    _ ≤ (1 + roundoff) ^ 3 * (b * p + r) :=
      mul_le_mul_of_nonneg_left (exact_le hb hp hr) (by positivity)
    _ ≤ (1 + 8 * roundoff) * (1 - roundoff) ^ 2 * (b * p + r) :=
      mul_le_mul_of_nonneg_right hfactor hsum
    _ = (1 + 8 * roundoff) * ((1 - roundoff) ^ 2 * (b * p + r)) := mul_assoc _ _ _
    _ ≤ (1 + 8 * roundoff) * st.bottom :=
      mul_le_mul_of_nonneg_left (st.le_bottom hb hp hr) (by linarith)

theorem div_le (hb : 0 ≤ b) (hp : IsShare p) (hr : IsShare r) :
    st.top / st.bottom ≤ 1 + 8 * roundoff := by
  rw [div_le_iff₀ (st.bottom_pos hr)]
  exact st.top_le_mul_bottom hb hp hr

theorem top_le_bottom (hb : 0 ≤ b) (hp : IsShare p) (hr : IsShare r)
    (hgap : 8 * roundoff * (b * p + r) ≤ b * p * (1 - r) + r * (1 - p)) : st.top ≤ st.bottom := by
  have hu := roundoff_pos
  have hu' := roundoff_le
  have hfactor : (1 + roundoff) ^ 3 * (1 - 8 * roundoff) ≤ (1 - roundoff) ^ 2 := by
    nlinarith [mul_pos hu hu, mul_pos (mul_pos hu hu) hu, mul_pos (mul_pos (mul_pos hu hu) hu) hu]
  have hsum : 0 ≤ b * p + r := add_nonneg (mul_nonneg hb hp.pos.le) hr.pos.le
  calc
    st.top ≤ (1 + roundoff) ^ 3 * ((1 + b) * p * r) := st.top_le hb hp hr
    _ ≤ (1 + roundoff) ^ 3 * ((1 - 8 * roundoff) * (b * p + r)) :=
      mul_le_mul_of_nonneg_left (by linarith) (by positivity)
    _ = (1 + roundoff) ^ 3 * (1 - 8 * roundoff) * (b * p + r) := (mul_assoc _ _ _).symm
    _ ≤ (1 - roundoff) ^ 2 * (b * p + r) := mul_le_mul_of_nonneg_right hfactor hsum
    _ ≤ st.bottom := st.le_bottom hb hp hr

/-- Shares that are one, or below one by some `gap`, keep the sides apart by more than is rounded, as
long as neither share outweighs the other too much. -/
theorem top_le_bottom_of_apart {gap : ℚ} (hb : 0 ≤ b) (hp : IsShare p) (hr : IsShare r)
    (hp1 : p = 1 ∨ p ≤ 1 - gap) (hr1 : r = 1 ∨ r ≤ 1 - gap) (hne : ¬(p = 1 ∧ r = 1))
    (hgap : 8 * roundoff * (1 + b) ≤ gap) (hgap' : 8 * roundoff * (1 + b) ≤ b * gap) :
    st.top ≤ st.bottom := by
  have hu := roundoff_pos
  have hbp : b * p ≤ b := mul_le_of_le_one_right hb hp.le_one
  have hbp' : 0 ≤ b * p := mul_nonneg hb hp.pos.le
  apply st.top_le_bottom hb hp hr
  rcases hp1 with rfl | hp1
  · have hr1 := hr1.resolve_left fun h => hne ⟨rfl, h⟩
    calc
      8 * roundoff * (b * 1 + r) ≤ 8 * roundoff * (1 + b) :=
        mul_le_mul_of_nonneg_left (by linarith [hr.le_one]) (by positivity)
      _ ≤ b * gap := hgap'
      _ ≤ b * (1 - r) := mul_le_mul_of_nonneg_left (by linarith) hb
      _ = b * 1 * (1 - r) + r * (1 - 1) := by ring
  · rcases hr1 with rfl | hr1
    · calc
        8 * roundoff * (b * p + 1) ≤ 8 * roundoff * (1 + b) :=
          mul_le_mul_of_nonneg_left (by linarith) (by positivity)
        _ ≤ gap := hgap
        _ ≤ b * p * (1 - 1) + 1 * (1 - p) := by linarith
    · have hsum : 0 ≤ b * p + r := add_nonneg hbp' hr.pos.le
      calc
        8 * roundoff * (b * p + r) ≤ 8 * roundoff * (1 + b) * (b * p + r) := by
          refine mul_le_mul_of_nonneg_right ?_ hsum
          exact le_mul_of_one_le_right (by positivity) (by linarith)
        _ ≤ gap * (b * p + r) := mul_le_mul_of_nonneg_right hgap hsum
        _ = b * p * gap + r * gap := by ring
        _ ≤ b * p * (1 - r) + r * (1 - p) :=
          add_le_add (mul_le_mul_of_nonneg_left (by linarith) hbp')
            (mul_le_mul_of_nonneg_left (by linarith) hr.pos.le)

end MeanSteps

theorem MeanSteps.top_eq_weight (st : MeanSteps b 1 1) : st.top = st.weight := by
  have hweighted := st.isRounded_weighted
  have htop := st.isRounded_top
  rw [mul_one] at hweighted htop
  rw [hweighted.eq_of_onGrid st.isRounded_weight.onGrid] at htop
  exact htop.eq_of_onGrid st.isRounded_weight.onGrid

theorem MeanSteps.top_le_bottom_of_one (st : MeanSteps 1 p r) (hp : IsShare p) (hr : IsShare r)
    (hne : ¬(p = 1 ∧ r = 1)) : st.top ≤ st.bottom := by
  have hweight : st.weight = 2 := by
    have htwo : OnGrid (1 + 1) := by
      rw [one_add_one_eq_two]
      exact_mod_cast onGrid_natCast (n := 2) (by norm_num)
    rw [st.isRounded_weight.eq_of_onGrid htwo, one_add_one_eq_two]
  have hweighted : st.weighted = 2 * p := by
    have hrounded := st.isRounded_weighted
    rw [hweight] at hrounded
    exact hrounded.eq_of_onGrid hp.onGrid.two_mul
  have hscaled : st.scaled = p := by
    have hrounded := st.isRounded_scaled
    rw [one_mul] at hrounded
    exact hrounded.eq_of_onGrid hp.onGrid
  have htop := st.isRounded_top
  have hbottom := st.isRounded_bottom
  rw [hweighted] at htop
  rw [hscaled] at hbottom
  apply htop.mono hbottom
  have hp1 := hp.le_one
  have hr1 := hr.le_one
  rcases hp1.lt_or_eq with hlt | rfl
  · nlinarith [mul_pos hr.pos (sub_pos.mpr hlt), mul_nonneg hp.pos.le (sub_nonneg.mpr hr1)]
  · have hlt := hr1.lt_of_ne fun h => hne ⟨rfl, h⟩
    linarith

end Fidelity.Double
