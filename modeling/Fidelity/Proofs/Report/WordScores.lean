import Fidelity.Json.Forms
import Fidelity.Proofs.Bag.Agreement
import Fidelity.Proofs.Bag.Tokens
import Fidelity.Proofs.Json.RealText

/-!
# The word scores of a report

Every finite weight of recall that is not negative is admitted, and its square may be infinite. Main
statement: precision and recall are always numbers from zero to one; so is their mean, unless rounding
lifts it above one or, from a weight of `2 ^ 512` on, it is no number.
-/
namespace Fidelity

open Double

def InUnit (x : Float) : Prop := 0 ≤ x ∧ x ≤ 1

/-- The least weight whose square is infinite, `2 ^ 512`. -/
def overflowingBeta : Float := 1.3407807929942597e154

structure Report.HasWordScores (config : Config Float) (output source : String) (r : Report Float) :
    Prop where
  wordPrecision : InUnit r.wordPrecision
  wordRecall : InUnit r.wordRecall
  isNaN_iff : r.wordFScore.isNaN = true ↔ overflowingBeta ≤ config.beta ∧ 0 < r.wordPrecision
  null_iff : ∀ style, (Json.Value.real r.wordFScore).write style = "null".toList ↔
    r.wordFScore.isNaN = true
  bounds : r.wordFScore.isNaN = false → 0 ≤ r.wordFScore ∧ r.wordFScore ≤ 1.0000000000000018
  inUnit : config.beta = 1 ∨ 0.00390625 ≤ config.beta ∧ config.beta ≤ 256 ∧
      output.length ≤ 2 ^ 32 ∧ source.length ≤ 2 ^ 32 →
    InUnit r.wordFScore

namespace Double

variable {x : Float} {q : ℚ}

theorem isNumber_one : IsNumber 1 1 := by
  have hone : IsNumber 1 ((2 ^ 52 : ℕ) * 2 ^ (-52 : ℤ)) :=
    Stands.finite (by decide) ⟨by decide, by decide, by decide, .inl le_rfl⟩
  norm_num at hone
  exact hone

theorem isNumber_0_00390625 : IsNumber 0.00390625 (2 ^ (-8 : ℤ)) := by
  have hleast : IsNumber 0.00390625 ((2 ^ 52 : ℕ) * 2 ^ (-60 : ℤ)) :=
    Stands.finite (by decide) ⟨by decide, by decide, by decide, .inl le_rfl⟩
  norm_num at hleast ⊢
  exact hleast

theorem isNumber_256 : IsNumber 256 (2 ^ (8 : ℤ)) := by
  have hgreatest : IsNumber 256 ((2 ^ 52 : ℕ) * 2 ^ (-44 : ℤ)) :=
    Stands.finite (by decide) ⟨by decide, by decide, by decide, .inl le_rfl⟩
  norm_num at hgreatest ⊢
  exact hgreatest

theorem isNumber_above_one : IsNumber 1.0000000000000018 (1 + 8 * roundoff) := by
  have habove : IsNumber 1.0000000000000018 ((2 ^ 52 + 8 : ℕ) * 2 ^ (-52 : ℤ)) :=
    Stands.finite (by decide) ⟨by decide, by decide, by decide, .inl (by decide)⟩
  rw [roundoff]
  norm_num at habove ⊢
  exact habove

theorem toBits_overflowingBeta : overflowingBeta.toModel.toBits = 0x5ff0000000000000 := by
  decide +kernel

theorem isNumber_overflowingBeta : IsNumber overflowingBeta (2 ^ (512 : ℤ)) := by
  have hlimit : IsNumber overflowingBeta ((2 ^ 52 : ℕ) * 2 ^ (460 : ℤ)) := by
    unfold IsNumber Float.Model.unpack
    rw [toBits_overflowingBeta]
    exact Stands.finite (by decide) ⟨by decide, by decide, by decide, .inl le_rfl⟩
  have hvalue : ((2 ^ 52 : ℕ) : ℚ) * 2 ^ (460 : ℤ) = 2 ^ (512 : ℤ) := by
    rw [Nat.cast_pow, Nat.cast_ofNat]
    exact (two_zpow_add 52 460).symm
  rwa [hvalue] at hlimit

theorem inUnit_of_isNumber (hx : IsNumber x q) (hq : 0 ≤ q) (hq1 : q ≤ 1) : InUnit x :=
  ⟨(isNumber_zero.le_iff hx).mpr hq, (hx.le_iff isNumber_one).mpr hq1⟩

end Double

namespace Comparison

variable {c : Comparison} {beta : Float} {p r q : ℚ}

theorem Shares.unit (h : Shares c p r) : (0 ≤ p ∧ p ≤ 1) ∧ 0 ≤ r ∧ r ≤ 1 := by
  cases h with
  | none => exact ⟨⟨le_rfl, zero_le_one⟩, le_rfl, zero_le_one⟩
  | some hp hr _ _ => exact ⟨⟨hp.pos.le, hp.le_one⟩, hr.pos.le, hr.le_one⟩

theorem square_of_mem {b : ℚ} (hb : IsRounded (q * q) b) (hq : 2 ^ (-8 : ℤ) ≤ q)
    (hq' : q ≤ 2 ^ (8 : ℤ)) : 2 ^ (-16 : ℤ) ≤ b ∧ b ≤ 2 ^ (16 : ℤ) := by
  have hpos : 0 ≤ q := (two_zpow_pos _).le.trans hq
  constructor
  · apply hb.le_of_ge (onGrid_two_zpow (by norm_num))
    calc
      (2 : ℚ) ^ (-16 : ℤ) = 2 ^ (-8 : ℤ) * 2 ^ (-8 : ℤ) := by norm_num
      _ ≤ q * q := mul_le_mul hq hq (two_zpow_pos _).le hpos
  · apply hb.le_of_le (onGrid_two_zpow (by norm_num))
    calc
      q * q ≤ 2 ^ (8 : ℤ) * 2 ^ (8 : ℤ) := mul_le_mul hq' hq' hpos (two_zpow_pos _).le
      _ = 2 ^ (16 : ℤ) := by norm_num

section

variable (hbeta : IsNumber beta q) (hp : IsNumber c.wordPrecision p)
  (hr : IsNumber c.wordRecall r) (h : Shares c p r)

include hbeta hp hr h

/-- From a weight of `2 ^ 512` on there is no mean of shares that are not nothing. -/
theorem isNaN_or_isNumber_fScore :
    (2 ^ (512 : ℤ) ≤ q ∧ 0 < p) ∧ (c.fScore beta).isNaN = true ∨
      ¬(2 ^ (512 : ℤ) ≤ q ∧ 0 < p) ∧
        ∃ f, IsNumber (c.fScore beta) f ∧ 0 ≤ f ∧ f ≤ 1 + 8 * roundoff := by
  rcases le_or_gt (2 ^ (512 : ℤ)) q with hge | hlt
  · have hu := roundoff_pos
    cases h with
    | none =>
      refine .inr ⟨fun hpos => lt_irrefl 0 hpos.2, 0, isNumber_fScore_none hp hr, le_rfl, ?_⟩
      linarith
    | some hpshare hrshare _ _ =>
      have hsquare := isInfinite_square hbeta hge
      exact .inl ⟨⟨hge, hpshare.pos⟩, isNaN_weightedMean hsquare hp hr hpshare hrshare⟩
  · obtain ⟨b, -, hsquare⟩ := exists_isNumber_square hbeta hlt
    obtain ⟨f, hf, hnonneg, hle, -⟩ := exists_fScore_of_number hsquare hp hr h
    exact .inr ⟨fun hge => absurd hge.1 (not_le.mpr hlt), f, hf, hnonneg, hle⟩

theorem isNaN_fScore_iff : (c.fScore beta).isNaN = true ↔ 2 ^ (512 : ℤ) ≤ q ∧ 0 < p := by
  rcases isNaN_or_isNumber_fScore hbeta hp hr h with ⟨hover, hnan⟩ | ⟨hover, f, hf, -⟩
  · exact iff_of_true hnan hover
  · rw [hf.isNaN_eq_false]
    exact iff_of_false Bool.false_ne_true hover

theorem isFinite_fScore_iff : (c.fScore beta).isFinite = false ↔ (c.fScore beta).isNaN = true := by
  rcases isNaN_or_isNumber_fScore hbeta hp hr h with ⟨-, hnan⟩ | ⟨-, f, hf, -⟩
  · exact iff_of_true (isFinite_eq_false_of_isNaN hnan) hnan
  · rw [hf.isFinite, hf.isNaN_eq_false]
    exact iff_of_false (by decide) Bool.false_ne_true

theorem fScore_bounds (hnumber : (c.fScore beta).isNaN = false) :
    0 ≤ c.fScore beta ∧ c.fScore beta ≤ 1.0000000000000018 := by
  rcases isNaN_or_isNumber_fScore hbeta hp hr h with ⟨-, hnan⟩ | ⟨-, f, hf, hnonneg, hle⟩
  · rw [hnan] at hnumber
    cases hnumber
  · exact ⟨(isNumber_zero.le_iff hf).mpr hnonneg, (hf.le_iff isNumber_above_one).mpr hle⟩

theorem inUnit_fScore (htame : q = 1 ∨ 2 ^ (-8 : ℤ) ≤ q ∧ q ≤ 2 ^ (8 : ℤ) ∧
    c.outputTotal.toNat ≤ 2 ^ 32 ∧ c.sourceTotal.toNat ≤ 2 ^ 32) : InUnit (c.fScore beta) := by
  have hgreatest : q ≤ 2 ^ (8 : ℤ) := by
    rcases htame with rfl | ⟨-, hq, -⟩
    · norm_num
    · exact hq
  have hlimit : (2 : ℚ) ^ (8 : ℤ) < 2 ^ (512 : ℤ) := zpow_lt_zpow_right₀ one_lt_two (by norm_num)
  obtain ⟨b, hb, hsquare⟩ := exists_isNumber_square hbeta (hgreatest.trans_lt hlimit)
  obtain ⟨f, hf, hnonneg, -, hone⟩ := exists_fScore_of_number hsquare hp hr h
  refine inUnit_of_isNumber hf hnonneg (hone ?_)
  rcases htame with rfl | ⟨hq, hq', hto, hts⟩
  · rw [mul_one] at hb
    exact .inl (hb.eq_of_onGrid onGrid_one)
  · obtain ⟨hdown, hup⟩ := square_of_mem hb hq hq'
    exact .inr ⟨hdown, hup, hto, hts⟩

end

end Comparison

namespace Report

variable {config : Config Float} {output source : String}

theorem exists_beta (h : config.isValid = true) : ∃ q, IsNumber config.beta q := by
  obtain ⟨hfinite, hneg⟩ := Bool.and_eq_true_iff.mp h
  rw [Bool.not_eq_true', decide_eq_false_iff_not] at hneg
  exact exists_isNumber hfinite hneg

def comparison (config : Config Float) (output source : String) : Comparison :=
  (config.tokenizer.bag output).compare (config.tokenizer.bag source)

theorem value_wordPrecision : (evaluate config output source).value.wordPrecision =
    (comparison config output source).wordPrecision := by
  simp [evaluate, comparison, Tokenizer.value_read]

theorem value_wordRecall : (evaluate config output source).value.wordRecall =
    (comparison config output source).wordRecall := by
  simp [evaluate, comparison, Tokenizer.value_read]

theorem value_wordFScore : (evaluate config output source).value.wordFScore =
    (comparison config output source).fScore config.beta := by
  simp [evaluate, comparison, Tokenizer.value_read]

theorem exactTotal_bag_le (t : Tokenizer) (s : String) : (t.bag s).exactTotal ≤ s.length :=
  (Bag.exactTotal_ofFragments_le _).trans (Text.length_fragments_le _ _)

theorem totals_comparison (config : Config Float) (ho : output.length < 2 ^ 64)
    (hs : source.length < 2 ^ 64) :
    (comparison config output source).matched.toNat ≤
        (comparison config output source).outputTotal.toNat ∧
      (comparison config output source).matched.toNat ≤
        (comparison config output source).sourceTotal.toNat ∧
      (comparison config output source).outputTotal.toNat ≤ output.length ∧
      (comparison config output source).sourceTotal.toNat ≤ source.length := by
  have hototal := exactTotal_bag_le config.tokenizer output
  have hstotal := exactTotal_bag_le config.tokenizer source
  have hbalances := Bag.balances_compare (hototal.trans_lt ho) (hstotal.trans_lt hs)
  exact ⟨hbalances.matchedWithin.output, hbalances.matchedWithin.source,
    hbalances.outputTotal.trans_le hototal, hbalances.sourceTotal.trans_le hstotal⟩

theorem hasWordScores_evaluate (config : Config Float) (output source : String)
    (hconfig : config.isValid = true) (ho : output.length < 2 ^ 64) (hs : source.length < 2 ^ 64) :
    HasWordScores config output source (evaluate config output source).value := by
  obtain ⟨q, hbeta⟩ := exists_beta hconfig
  obtain ⟨hmo, hms, hto, hts⟩ := totals_comparison config ho hs
  obtain ⟨p, r, hp, hr, hshares⟩ := Comparison.exists_shares hmo hms
  obtain ⟨hp01, hr01⟩ := hshares.unit
  constructor
  · rw [value_wordPrecision]
    exact inUnit_of_isNumber hp hp01.1 hp01.2
  · rw [value_wordRecall]
    exact inUnit_of_isNumber hr hr01.1 hr01.2
  · rw [value_wordPrecision, value_wordFScore, isNumber_overflowingBeta.le_iff hbeta,
      isNumber_zero.lt_iff hp]
    exact Comparison.isNaN_fScore_iff hbeta hp hr hshares
  · intro style
    rw [Json.write_real_eq_null_iff, value_wordFScore]
    exact Comparison.isFinite_fScore_iff hbeta hp hr hshares
  · rw [value_wordFScore]
    exact Comparison.fScore_bounds hbeta hp hr hshares
  · intro htame
    rw [value_wordFScore]
    apply Comparison.inUnit_fScore hbeta hp hr hshares
    rcases htame with hone | ⟨hleast, hgreatest, ho32, hs32⟩
    · rw [hone] at hbeta
      exact .inl (hbeta.functional isNumber_one)
    · exact .inr ⟨(isNumber_0_00390625.le_iff hbeta).mp hleast,
        (hbeta.le_iff isNumber_256).mp hgreatest, hto.trans ho32, hts.trans hs32⟩

def standardBut (beta : Float) : Config Float :=
  { (Config.standard : Config Float) with beta := beta }

theorem hasWordScores_evaluate_overflowing :
    (standardBut 1e200).isValid = true ∧ "word".length < 2 ^ 64 ∧
      HasWordScores (standardBut 1e200) "word" "word"
        (evaluate (standardBut 1e200) "word" "word").value ∧
      (evaluate (standardBut 1e200) "word" "word").value.wordFScore.isNaN = true := by
  have hvalid : (standardBut 1e200).isValid = true := by decide +kernel
  have hlength : "word".length < 2 ^ 64 := by decide
  have hscores := hasWordScores_evaluate (standardBut 1e200) "word" "word" hvalid hlength hlength
  have hover : overflowingBeta ≤ (standardBut 1e200).beta := by decide +kernel
  have hmatched : 0 < (evaluate (standardBut 1e200) "word" "word").value.wordPrecision := by
    decide +kernel
  exact ⟨hvalid, hlength, hscores, hscores.isNaN_iff.mpr ⟨hover, hmatched⟩⟩

/-- Rounding lifts a mean above one. -/
example :
    1 < (evaluate (standardBut 1.0954451150103323e-8) "aa bb cc" "aa bb cc dd").value.wordFScore := by
  decide +kernel

end Report

end Fidelity
