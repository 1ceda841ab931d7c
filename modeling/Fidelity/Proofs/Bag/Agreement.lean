import Fidelity.Bag.Comparison
import Fidelity.Proofs.Double.Mean
import Fidelity.Proofs.Double.Overflow

/-!
# Precision, recall and their weighted mean in doubles

Precision and recall are rounded quotients of counts. Main statements: both are nothing, or both are
shares that are not nothing; their mean is a number if the square of its weight is one, and no number
if that square is infinite and there are shares.
-/
namespace Fidelity

namespace Double

variable {q : ℚ}

theorem onGrid_apart : OnGrid (1 - 2 ^ (-32 : ℤ)) :=
  ⟨2 ^ 32 - 1, -32, by norm_num, by norm_num, by norm_num⟩

theorem ratio_le_apart {m t : ℕ} (hlt : m < t) (hsmall : t ≤ 2 ^ 32) :
    (m : ℚ) / t ≤ 1 - 2 ^ (-32 : ℤ) := by
  have ht : (0 : ℚ) < t := by exact_mod_cast Nat.zero_lt_of_lt hlt
  have hm : (m : ℚ) ≤ t - 1 := by
    rw [le_sub_iff_add_le]
    exact_mod_cast hlt
  have hshare : (2 : ℚ) ^ (-32 : ℤ) * t ≤ 1 := by
    have ht' : (t : ℚ) ≤ 2 ^ (32 : ℤ) := by exact_mod_cast hsmall
    calc
      (2 : ℚ) ^ (-32 : ℤ) * t ≤ 2 ^ (-32 : ℤ) * 2 ^ (32 : ℤ) :=
        mul_le_mul_of_nonneg_left ht' (two_zpow_pos _).le
      _ = 1 := by norm_num
  rw [div_le_iff₀ ht]
  linarith

structure IsRatio (q : ℚ) (m t : ℕ) : Prop where
  le_one : q ≤ 1
  eq_zero : m = 0 → q = 0
  eq_one : m = t → q = 1
  ge : m ≠ 0 → 2 ^ (-64 : ℤ) ≤ q
  apart : m < t → t ≤ 2 ^ 32 → q ≤ 1 - 2 ^ (-32 : ℤ)

theorem exists_isRatio {m t : UInt64} (hle : m.toNat ≤ t.toNat) (ht : 0 < t.toNat) :
    ∃ q, IsNumber (Scalar.ofCount m / Scalar.ofCount t) q ∧ IsRatio q m.toNat t.toNat := by
  obtain ⟨z, hz, hm, hz64⟩ := exists_isNumber_ofCount m
  obtain ⟨w, hw, ht', hw64⟩ := exists_isNumber_ofCount t
  have hw1 : 1 ≤ w := hw.le_of_ge onGrid_one (by exact_mod_cast ht)
  have hw0 : 0 < w := zero_lt_one.trans_le hw1
  have hzw : z ≤ w := by
    rcases hle.lt_or_eq with hlt | heq
    · exact hz.mono hw (by exact_mod_cast hlt)
    · obtain rfl := UInt64.toNat_inj.mp heq
      exact (hm.functional ht').le
  have hshare : z / w ≤ 1 := (div_le_one hw0).mpr hzw
  obtain ⟨q, hq, hnumber⟩ :=
    isNumber_scalarZero.exists_of_rounds (rounds_div hm ht' hw0) (by linarith)
  refine ⟨q, hnumber, hq.le_of_le onGrid_one hshare, ?_, ?_, ?_, ?_⟩
  · intro hzero
    rw [hzero, Nat.cast_zero] at hz
    rw [hz.eq_of_onGrid onGrid_zero, zero_div] at hq
    exact hq.eq_of_onGrid onGrid_zero
  · intro heq
    obtain rfl := UInt64.toNat_inj.mp heq
    rw [hm.functional ht', div_self hw0.ne'] at hq
    exact hq.eq_of_onGrid onGrid_one
  · intro hpos
    have hz1 : 1 ≤ z := hz.le_of_ge onGrid_one (by exact_mod_cast Nat.one_le_iff_ne_zero.mpr hpos)
    apply hq.le_of_ge (onGrid_two_zpow (by norm_num))
    rw [zpow_neg, ← one_div]
    exact div_le_div₀ (zero_le_one.trans hz1) hz1 hw0 hw64
  · intro hlt hsmall
    rw [hz.eq_of_onGrid (onGrid_natCast (by omega)),
      hw.eq_of_onGrid (onGrid_natCast (by omega))] at hq
    exact hq.le_of_le onGrid_apart (ratio_le_apart hlt hsmall)

end Double

namespace Comparison

open Double

variable {beta x y : Float} {p r b : ℚ}

theorem weightedMean_eq (hne : (x + y == Scalar.zero) = false) :
    weightedMean beta x y =
      (Scalar.one + beta * beta) * x * y / (beta * beta * x + y) := by
  unfold weightedMean
  rw [hne]
  rfl

theorem weightedMean_of_zero (hx : IsNumber x 0) (hy : IsNumber y 0) :
    weightedMean beta x y = Scalar.zero := by
  obtain ⟨z, hz, hsum⟩ := hx.exists_of_rounds (rounds_add hx hy) (by norm_num)
  rw [add_zero] at hz
  rw [hz.eq_of_onGrid onGrid_zero] at hsum
  unfold weightedMean
  rw [if_pos (hsum.beq_iff isNumber_scalarZero |>.mpr rfl)]

theorem add_beq_zero_of_shares (hx : IsNumber x p) (hy : IsNumber y r) (hp : IsShare p)
    (hr : IsShare r) : (x + y == Scalar.zero) = false := by
  obtain ⟨z, hz, hsum⟩ := hx.exists_of_rounds (rounds_add hx hy) (by linarith [hr.le_one])
  have hpz : p ≤ z := hz.le_of_ge hp.onGrid (le_add_of_nonneg_right hr.pos.le)
  rw [← Bool.not_eq_true, hsum.beq_iff isNumber_scalarZero]
  exact (hp.pos.trans_le hpz).ne'

theorem bottom_eq_weight (hsquare : IsNumber (beta * beta) b) (hy : IsNumber y 1)
    (st : MeanSteps b 1 1) (hweight : IsNumber (Scalar.one + beta * beta) st.weight)
    (hscaled : IsNumber (beta * beta * x) st.scaled)
    (hbottom : IsNumber (beta * beta * x + y) st.bottom) : st.bottom = st.weight := by
  have hb := st.isRounded_scaled
  rw [mul_one] at hb
  have hscaled_eq := hb.eq_of_onGrid hsquare.onGrid
  rcases hsquare.nonneg.eq_or_lt with rfl | hpos
  · have hsum := st.isRounded_bottom
    have hsum' := st.isRounded_weight
    rw [hscaled_eq, zero_add] at hsum
    rw [add_zero] at hsum'
    rw [hsum.eq_of_onGrid onGrid_one, hsum'.eq_of_onGrid onGrid_one]
  · rw [hscaled_eq] at hscaled
    have hsame : (beta * beta * x + y).toModel.unpack =
        (Scalar.one + beta * beta).toModel.unpack := by
      rw [unpack_add_congr (Stands.unique hscaled hsquare hpos)
        (Stands.unique hy isNumber_scalarOne one_pos)]
      exact unpack_add_comm hsquare isNumber_scalarOne
    unfold IsNumber at hbottom hweight
    rw [hsame] at hbottom
    exact hbottom.functional hweight

theorem exists_meanSteps (hsquare : IsNumber (beta * beta) b) (hx : IsNumber x p) (hy : IsNumber y r)
    (hp : IsShare p) (hr : IsShare r) :
    ∃ (st : MeanSteps b p r) (f : ℚ), (p = 1 → r = 1 → st.top = st.bottom) ∧
      IsRounded (st.top / st.bottom) f ∧ IsNumber (weightedMean beta x y) f := by
  have hb := hsquare.nonneg
  obtain ⟨weight, hrweight, hweight⟩ :=
    hsquare.exists_of_rounds (rounds_add isNumber_scalarOne hsquare) (by linarith)
  obtain ⟨weighted, hrweighted, hweighted⟩ :=
    hweight.exists_of_rounds (rounds_mul hweight hx) (hp.mul_le hweight.nonneg)
  obtain ⟨top, hrtop, htop⟩ :=
    hweighted.exists_of_rounds (rounds_mul hweighted hy) (hr.mul_le hweighted.nonneg)
  obtain ⟨scaled, hrscaled, hscaled⟩ :=
    hsquare.exists_of_rounds (rounds_mul hsquare hx) (hp.mul_le hb)
  obtain ⟨bottom, hrbottom, hbottom⟩ :=
    hscaled.exists_of_rounds (rounds_add hscaled hy) (by linarith [hr.le_one])
  let st : MeanSteps b p r := ⟨weight, weighted, top, scaled, bottom, hrweight, hrweighted, hrtop,
    hrscaled, hrbottom⟩
  have hpos : 0 < bottom := st.bottom_pos hr
  have hquotient : top / bottom ≤ 1 + 1 := by
    have hle := st.div_le hb hp hr
    have hu := roundoff_le
    exact hle.trans (by linarith)
  obtain ⟨f, hf, hnumber⟩ :=
    isNumber_scalarOne.exists_of_rounds (rounds_div htop hbottom hpos) hquotient
  refine ⟨st, f, ?_, hf, ?_⟩
  · rintro rfl rfl
    rw [st.top_eq_weight]
    exact (bottom_eq_weight hsquare hy st hweight hscaled hbottom).symm
  · rwa [weightedMean_eq (add_beq_zero_of_shares hx hy hp hr)]

theorem isNaN_weightedMean (hsquare : IsInfinite (beta * beta)) (hx : IsNumber x p)
    (hy : IsNumber y r) (hp : IsShare p) (hr : IsShare r) : (weightedMean beta x y).isNaN = true := by
  rw [weightedMean_eq (add_beq_zero_of_shares hx hy hp hr)]
  have hweight := isNumber_scalarOne.add_infinite hsquare
  have htop := (hweight.mul_number hx hp.pos).mul_number hy hr.pos
  have hbottom := (hsquare.mul_number hx hp.pos).add_number hy
  exact htop.isNaN_div hbottom

variable {c : Comparison} {f : ℚ}

/-- The share is one, or no nearer to one than a share of so many words can be. -/
def Apart (p : ℚ) (n : UInt64) : Prop := n.toNat ≤ 2 ^ 32 → p = 1 ∨ p ≤ 1 - 2 ^ (-32 : ℤ)

inductive Shares (c : Comparison) : ℚ → ℚ → Prop
  | none : Shares c 0 0
  | some {p r : ℚ} (hp : IsShare p) (hr : IsShare r) (hp1 : Apart p c.outputTotal)
      (hr1 : Apart r c.sourceTotal) : Shares c p r

theorem exists_share {m t : UInt64} (asked : UInt64) (hle : m.toNat ≤ t.toNat) (ht : t ≠ 0) :
    ∃ q, IsNumber (share m t asked) q ∧ IsRatio q m.toNat t.toNat := by
  have hpos : 0 < t.toNat := Nat.pos_of_ne_zero fun h => ht (UInt64.toNat_inj.mp h)
  unfold share
  rw [if_neg ht]
  exact exists_isRatio hle hpos

theorem apart_of_isRatio {q : ℚ} {m t : UInt64} (h : IsRatio q m.toNat t.toNat)
    (hle : m.toNat ≤ t.toNat) : Apart q t := by
  intro hsmall
  rcases hle.lt_or_eq with hlt | heq
  · exact .inr (h.apart hlt hsmall)
  · exact .inl (h.eq_one heq)

theorem isNumber_share_none {t asked : UInt64} (h : t ≠ 0 ∨ asked ≠ 0) :
    IsNumber (share 0 t asked) 0 := by
  by_cases ht : t = 0
  · unfold share
    rw [if_pos ht, if_neg (h.resolve_left (not_not_intro ht))]
    exact isNumber_scalarZero
  · obtain ⟨q, hnumber, hq⟩ := exists_share asked (m := 0) (Nat.zero_le t.toNat) ht
    rwa [hq.eq_zero rfl] at hnumber

theorem isNumber_share_both : IsNumber (share 0 0 0) 1 := isNumber_scalarOne

theorem exists_isShare {m t : UInt64} (asked : UInt64) (hle : m.toNat ≤ t.toNat) (hm : m ≠ 0) :
    ∃ q, IsNumber (share m t asked) q ∧ IsShare q ∧ Apart q t := by
  have hpos : m.toNat ≠ 0 := fun h => hm (UInt64.toNat_inj.mp h)
  have ht : t ≠ 0 := by
    rintro rfl
    exact hpos (Nat.le_zero.mp hle)
  obtain ⟨q, hnumber, hq⟩ := exists_share asked hle ht
  exact ⟨q, hnumber, ⟨hq.ge hpos, hq.le_one, hnumber.onGrid⟩, apart_of_isRatio hq hle⟩

theorem exists_shares (ho : c.matched.toNat ≤ c.outputTotal.toNat)
    (hs : c.matched.toNat ≤ c.sourceTotal.toNat) :
    ∃ p r, IsNumber c.wordPrecision p ∧ IsNumber c.wordRecall r ∧ Shares c p r := by
  unfold wordPrecision wordRecall
  by_cases hmatched : c.matched = 0
  · rw [hmatched]
    by_cases hboth : c.outputTotal = 0 ∧ c.sourceTotal = 0
    · rw [hboth.1, hboth.2]
      exact ⟨1, 1, isNumber_share_both, isNumber_share_both,
        .some isShare_one isShare_one (fun _ => .inl rfl) fun _ => .inl rfl⟩
    · rw [not_and_or] at hboth
      exact ⟨0, 0, isNumber_share_none hboth, isNumber_share_none hboth.symm, .none⟩
  · obtain ⟨p, hp, hpshare, hp1⟩ := exists_isShare c.sourceTotal ho hmatched
    obtain ⟨r, hr, hrshare, hr1⟩ := exists_isShare c.outputTotal hs hmatched
    exact ⟨p, r, hp, hr, .some hpshare hrshare hp1 hr1⟩

/-- The weights are equal, or do not differ too much for shares of so many words. -/
def Tame (b : ℚ) (c : Comparison) : Prop :=
  b = 1 ∨ 2 ^ (-16 : ℤ) ≤ b ∧ b ≤ 2 ^ (16 : ℤ) ∧ c.outputTotal.toNat ≤ 2 ^ 32 ∧
    c.sourceTotal.toNat ≤ 2 ^ 32

theorem isNumber_fScore_none {beta : Float} (hp : IsNumber c.wordPrecision 0)
    (hr : IsNumber c.wordRecall 0) : IsNumber (c.fScore beta) 0 := by
  unfold fScore
  rw [weightedMean_of_zero hp hr]
  exact isNumber_scalarZero

theorem exists_fScore_of_number {beta : Float} {b p r : ℚ} (hsquare : IsNumber (beta * beta) b)
    (hp : IsNumber c.wordPrecision p) (hr : IsNumber c.wordRecall r) (h : Shares c p r) :
    ∃ f, IsNumber (c.fScore beta) f ∧ 0 ≤ f ∧ f ≤ 1 + 8 * roundoff ∧ (Tame b c → f ≤ 1) := by
  have hb := hsquare.nonneg
  have hu := roundoff_pos
  cases h with
  | none =>
    exact ⟨0, isNumber_fScore_none hp hr, le_rfl, by linarith, fun _ => zero_le_one⟩
  | some hpshare hrshare hp1 hr1 =>
    obtain ⟨st, f, heq, hf, hnumber⟩ := exists_meanSteps hsquare hp hr hpshare hrshare
    refine ⟨f, hnumber, hf.nonneg, hf.le_of_le onGrid_above_one (st.div_le hb hpshare hrshare), ?_⟩
    intro htame
    apply hf.le_of_le onGrid_one
    rw [div_le_one (st.bottom_pos hrshare)]
    by_cases hone : p = 1 ∧ r = 1
    · exact (heq hone.1 hone.2).le
    · rcases htame with rfl | ⟨hdown, hup, ho, hs⟩
      · exact st.top_le_bottom_of_one hpshare hrshare hone
      · have hround : 8 * roundoff = 2 ^ (-32 : ℤ) * 2 ^ (-17 : ℤ) := by
          rw [roundoff]
          norm_num
        have hgap := two_zpow_pos (-32)
        refine st.top_le_bottom_of_apart hb hpshare hrshare (hp1 ho) (hr1 hs) hone ?_ ?_
        · rw [hround, mul_assoc]
          refine mul_le_of_le_one_right hgap.le ?_
          norm_num at hup ⊢
          linarith
        · rw [hround, mul_assoc, mul_comm b]
          refine mul_le_mul_of_nonneg_left ?_ hgap.le
          norm_num at hdown hup ⊢
          linarith

end Comparison

end Fidelity
