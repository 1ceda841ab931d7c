import Fidelity.Proofs.Bag.Balance
import Fidelity.Proofs.Edit.Score

/-!
# Precision, recall and their mean in exact arithmetic

No more is matched than either bag has, so precision and recall vanish together and are otherwise
positive shares. Main statement: their mean divides by nothing that is zero, lies between them, and
moves towards recall as its weight grows.
-/
namespace Fidelity

namespace Comparison

open Scalar

variable {c : Comparison} {p r x beta beta' : ℚ} {m t asked : UInt64}

theorem share_of_pos (asked : UInt64) (ht : 0 < t.toNat) :
    (share m t asked : ℚ) = (m.toNat : ℚ) / t.toNat := by
  have hne : t ≠ 0 := by
    rintro rfl
    exact lt_irrefl 0 ht
  rw [share, if_neg hne]
  rfl

theorem share_of_empty (m asked : UInt64) :
    (share m 0 asked : ℚ) = if asked.toNat = 0 then 1 else 0 := by
  rw [share, if_pos rfl]
  simp only [← UInt64.toNat_inj]
  rfl

theorem share_nothing (h : 0 < t.toNat ∨ 0 < asked.toNat) : (share 0 t asked : ℚ) = 0 := by
  rcases Nat.eq_zero_or_pos t.toNat with ht | ht
  · obtain rfl : t = 0 := UInt64.toNat_inj.mp ht
    rw [share_of_empty, if_neg (h.resolve_left (lt_irrefl 0)).ne']
  · rw [share_of_pos asked ht, UInt64.toNat_zero, Nat.cast_zero, zero_div]

/-- Of two shares one is zero only if the other is. -/
inductive Paired : ℚ → ℚ → Prop
  | none : Paired 0 0
  | some {p r : ℚ} (hp : 0 < p) (hp1 : p ≤ 1) (hr : 0 < r) (hr1 : r ≤ 1) : Paired p r

theorem share_mem (asked : UInt64) (hm : 0 < m.toNat) (hle : m.toNat ≤ t.toNat) :
    0 < (share m t asked : ℚ) ∧ (share m t asked : ℚ) ≤ 1 := by
  have ht : 0 < t.toNat := hm.trans_le hle
  have hm' : (0 : ℚ) < m.toNat := by exact_mod_cast hm
  have ht' : (0 : ℚ) < t.toNat := by exact_mod_cast ht
  rw [share_of_pos asked ht, div_le_one ht']
  exact ⟨div_pos hm' ht', by exact_mod_cast hle⟩

theorem MatchedWithin.paired (h : c.MatchedWithin) : Paired c.wordPrecision c.wordRecall := by
  rw [wordPrecision, wordRecall]
  rcases Nat.eq_zero_or_pos c.matched.toNat with hm | hm
  · have hmatched : c.matched = 0 := UInt64.toNat_inj.mp hm
    rw [hmatched]
    by_cases hboth : c.outputTotal.toNat = 0 ∧ c.sourceTotal.toNat = 0
    · obtain ⟨ho, hs⟩ := hboth
      have ho' : c.outputTotal = 0 := UInt64.toNat_inj.mp ho
      have hs' : c.sourceTotal = 0 := UInt64.toNat_inj.mp hs
      rw [ho', hs', share_of_empty, UInt64.toNat_zero, if_pos rfl]
      exact .some one_pos le_rfl one_pos le_rfl
    · rw [share_nothing (by omega), share_nothing (by omega)]
      exact .none
  · obtain ⟨hp, hp1⟩ := share_mem c.sourceTotal hm h.output
    obtain ⟨hr, hr1⟩ := share_mem c.outputTotal hm h.source
    exact .some hp hp1 hr hr1

namespace Paired

theorem mem_left (h : Paired p r) : 0 ≤ p ∧ p ≤ 1 := by
  cases h with
  | none => exact ⟨le_rfl, zero_le_one⟩
  | some hp hp1 _ _ => exact ⟨hp.le, hp1⟩

theorem symm (h : Paired p r) : Paired r p := by
  cases h with
  | none => exact .none
  | some hp hp1 hr hr1 => exact .some hr hr1 hp hp1

theorem eq_zero_iff (h : Paired p r) : p = 0 ↔ r = 0 := by
  cases h with
  | none => rfl
  | some hp _ hr _ => exact iff_of_false hp.ne' hr.ne'

end Paired

def meanBottom (beta p r : ℚ) : ℚ := beta ^ 2 * p + r

theorem weightedMean_rat (beta p r : ℚ) :
    weightedMean beta p r =
      if p + r = 0 then 0 else (1 + beta ^ 2) * p * r / meanBottom beta p r := by
  have hguard : (p + r == Scalar.zero) = decide (p + r = 0) := beq_eq_decide ..
  rw [weightedMean, meanBottom, sq]
  simp only [hguard, decide_eq_true_eq]
  rfl

theorem weightedMean_nothing : weightedMean beta 0 0 = 0 := by
  rw [weightedMean_rat, if_pos (add_zero 0)]

theorem meanBottom_pos (beta : ℚ) (hp : 0 < p) (hr : 0 < r) : 0 < meanBottom beta p r :=
  add_pos_of_nonneg_of_pos (mul_nonneg (sq_nonneg beta) hp.le) hr

theorem weightedMean_of_pos (hp : 0 < p) (hr : 0 < r) :
    weightedMean beta p r = (1 + beta ^ 2) * p * r / meanBottom beta p r := by
  rw [weightedMean_rat, if_neg (add_pos hp hr).ne']

namespace Paired

theorem meanBottom_pos_of_sum_ne (h : Paired p r) (hne : p + r ≠ 0) : 0 < meanBottom beta p r := by
  cases h with
  | none => exact absurd (add_zero 0) hne
  | some hp _ hr _ => exact meanBottom_pos beta hp hr

theorem le_weightedMean (h : Paired p r) (hp : x ≤ p) (hr : x ≤ r) : x ≤ weightedMean beta p r := by
  cases h with
  | none => rwa [weightedMean_nothing]
  | some hp0 _ hr0 _ =>
    rw [weightedMean_of_pos hp0 hr0, le_div_iff₀ (meanBottom_pos beta hp0 hr0), meanBottom]
    have hweighted : x * (beta ^ 2 * p) ≤ r * (beta ^ 2 * p) :=
      mul_le_mul_of_nonneg_right hr (by positivity)
    have hplain : x * r ≤ p * r := mul_le_mul_of_nonneg_right hp hr0.le
    linarith

theorem weightedMean_le (h : Paired p r) (hp : p ≤ x) (hr : r ≤ x) : weightedMean beta p r ≤ x := by
  cases h with
  | none => rwa [weightedMean_nothing]
  | some hp0 _ hr0 _ =>
    rw [weightedMean_of_pos hp0 hr0, div_le_iff₀ (meanBottom_pos beta hp0 hr0), meanBottom]
    have hweighted : r * (beta ^ 2 * p) ≤ x * (beta ^ 2 * p) :=
      mul_le_mul_of_nonneg_right hr (by positivity)
    have hplain : p * r ≤ x * r := mul_le_mul_of_nonneg_right hp hr0.le
    linarith

theorem exists_weightedMean_sub (h : Paired p r) (hbeta : 0 ≤ beta) (hle : beta ≤ beta') :
    ∃ q, 0 ≤ q ∧ weightedMean beta' p r - weightedMean beta p r = q * (r - p) := by
  cases h with
  | none => exact ⟨0, le_rfl, by rw [weightedMean_nothing, weightedMean_nothing]; norm_num⟩
  | some hp _ hr _ =>
    have hbottom := meanBottom_pos beta hp hr
    have hbottom' := meanBottom_pos beta' hp hr
    have hsq : 0 ≤ beta' ^ 2 - beta ^ 2 := sub_nonneg.mpr (pow_le_pow_left₀ hbeta hle 2)
    refine ⟨p * r * (beta' ^ 2 - beta ^ 2) / (meanBottom beta' p r * meanBottom beta p r),
      by positivity, ?_⟩
    rw [weightedMean_of_pos hp hr, weightedMean_of_pos hp hr,
      div_sub_div _ _ hbottom'.ne' hbottom.ne', div_mul_eq_mul_div]
    congr 1
    rw [meanBottom, meanBottom]
    ring

theorem weightedMean_mono (h : Paired p r) (hbeta : 0 ≤ beta) (hle : beta ≤ beta') (hpr : p ≤ r) :
    weightedMean beta p r ≤ weightedMean beta' p r := by
  obtain ⟨q, hq, hsub⟩ := h.exists_weightedMean_sub hbeta hle
  have hmove := mul_nonneg hq (sub_nonneg.mpr hpr)
  linarith

theorem weightedMean_anti (h : Paired p r) (hbeta : 0 ≤ beta) (hle : beta ≤ beta') (hrp : r ≤ p) :
    weightedMean beta' p r ≤ weightedMean beta p r := by
  obtain ⟨q, hq, hsub⟩ := h.exists_weightedMean_sub hbeta hle
  have hmove := mul_nonpos_of_nonneg_of_nonpos hq (sub_nonpos.mpr hrp)
  linarith

end Paired

theorem fScore_of_pos (ho : 0 < c.outputTotal.toNat) (hs : 0 < c.sourceTotal.toNat) (beta : ℚ) :
    c.fScore beta = (1 + beta ^ 2) * c.matched.toNat /
      (beta ^ 2 * c.sourceTotal.toNat + c.outputTotal.toNat) := by
  rw [fScore, wordPrecision, wordRecall, share_of_pos _ ho, share_of_pos _ hs]
  have ho' : (0 : ℚ) < c.outputTotal.toNat := by exact_mod_cast ho
  have hs' : (0 : ℚ) < c.sourceTotal.toNat := by exact_mod_cast hs
  rcases Nat.eq_zero_or_pos c.matched.toNat with hm | hm
  · rw [hm, Nat.cast_zero, zero_div, zero_div, weightedMean_nothing, mul_zero, zero_div]
  · have hm' : (0 : ℚ) < c.matched.toNat := by exact_mod_cast hm
    rw [weightedMean_of_pos (div_pos hm' ho') (div_pos hm' hs'), meanBottom]
    field_simp

structure HasMeans (c : Comparison) : Prop where
  wordPrecision : 0 ≤ (c.wordPrecision : ℚ) ∧ (c.wordPrecision : ℚ) ≤ 1
  wordRecall : 0 ≤ (c.wordRecall : ℚ) ∧ (c.wordRecall : ℚ) ≤ 1
  eq_zero_iff : (c.wordPrecision : ℚ) = 0 ↔ (c.wordRecall : ℚ) = 0
  bottom_pos : ∀ beta : ℚ, (c.wordPrecision : ℚ) + c.wordRecall ≠ 0 →
    0 < beta ^ 2 * c.wordPrecision + c.wordRecall
  between : ∀ beta : ℚ, min c.wordPrecision c.wordRecall ≤ c.fScore beta ∧
    c.fScore beta ≤ max c.wordPrecision c.wordRecall
  fScore_eq : 0 < c.outputTotal.toNat → 0 < c.sourceTotal.toNat → ∀ beta : ℚ,
    c.fScore beta = (1 + beta ^ 2) * c.matched.toNat /
      (beta ^ 2 * c.sourceTotal.toNat + c.outputTotal.toNat)
  mono : ∀ beta beta' : ℚ, 0 ≤ beta → beta ≤ beta' → (c.wordPrecision : ℚ) ≤ c.wordRecall →
    c.fScore beta ≤ c.fScore beta'
  anti : ∀ beta beta' : ℚ, 0 ≤ beta → beta ≤ beta' → (c.wordRecall : ℚ) ≤ c.wordPrecision →
    c.fScore beta' ≤ c.fScore beta

theorem MatchedWithin.hasMeans (h : c.MatchedWithin) : c.HasMeans where
  wordPrecision := h.paired.mem_left
  wordRecall := h.paired.symm.mem_left
  eq_zero_iff := h.paired.eq_zero_iff
  bottom_pos := fun _ hne => h.paired.meanBottom_pos_of_sum_ne hne
  between := by
    intro beta
    constructor
    · exact h.paired.le_weightedMean (min_le_left _ _) (min_le_right _ _)
    · exact h.paired.weightedMean_le (le_max_left _ _) (le_max_right _ _)
  fScore_eq := fScore_of_pos
  mono := fun _ _ hbeta hle hpr => h.paired.weightedMean_mono hbeta hle hpr
  anti := fun _ _ hbeta hle hrp => h.paired.weightedMean_anti hbeta hle hrp

end Comparison

namespace Bag

theorem hasMeans_compare (output source : Bag) (ho : output.exactTotal < 2 ^ 64)
    (hs : source.exactTotal < 2 ^ 64) : (output.compare source).HasMeans :=
  (balances_compare ho hs).matchedWithin.hasMeans

theorem hasMeans_compare_half :
    (ofWords ["one", "two"]).exactTotal < 2 ^ 64 ∧
      (ofWords ["one", "two", "three", "four"]).exactTotal < 2 ^ 64 ∧
      ((ofWords ["one", "two"]).compare (ofWords ["one", "two", "three", "four"])).HasMeans ∧
      ((ofWords ["one", "two"]).compare (ofWords ["one", "two", "three", "four"])).fScore 2 =
        (5 / 9 : ℚ) := by
  have ho : (ofWords ["one", "two"]).exactTotal < 2 ^ 64 := by decide
  have hs : (ofWords ["one", "two", "three", "four"]).exactTotal < 2 ^ 64 := by decide
  have hmeans := hasMeans_compare (ofWords ["one", "two"]) (ofWords ["one", "two", "three", "four"])
    ho hs
  refine ⟨ho, hs, hmeans, ?_⟩
  have hmatched : ((ofWords ["one", "two"]).compare
    (ofWords ["one", "two", "three", "four"])).matched.toNat = 2 := by decide
  have hsource : ((ofWords ["one", "two"]).compare
    (ofWords ["one", "two", "three", "four"])).sourceTotal.toNat = 4 := by decide
  have houtput : ((ofWords ["one", "two"]).compare
    (ofWords ["one", "two", "three", "four"])).outputTotal.toNat = 2 := by decide
  rw [hmeans.fScore_eq (by omega) (by omega), hmatched, hsource, houtput]
  norm_num

end Bag
end Fidelity
