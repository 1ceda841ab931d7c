import Fidelity.Proofs.Edit.Exact
import Fidelity.Report

/-!
# The score in exact arithmetic

Over the rationals the score is one less the share of the source that the least cost of a run
amounts to, and never less than zero. A cost that is cut off is greater than the length of any
source, so no score shows the cut.
-/
namespace Fidelity

namespace Scalar

theorem zero_rat : (zero : Rat) = 0 := rfl

theorem one_rat : (one : Rat) = 1 := rfl

theorem ofCount_rat (n : UInt64) : (ofCount n : Rat) = n.toNat := rfl

theorem clampUnit_rat_of_nonneg {x : Rat} (h : 0 ≤ x) : clampUnit x = min 1 x := by
  unfold clampUnit
  rw [zero_rat, one_rat]
  split_ifs with h0 h1
  · exact absurd h (not_le.mpr h0)
  · exact (min_eq_left (le_of_lt h1)).symm
  · exact (min_eq_right (le_of_not_gt h1)).symm

end Scalar

theorem Cost.toNat_eq_zero_iff {a : Cost} : a.toNat = 0 ↔ a = .zero := by
  rw [← clamp_eq_zero_iff, clamp_toNat]

namespace Edit

open Scalar

theorem TextUnit.units_eq_nil_iff (unit : TextUnit) {s : String} : unit.units s = [] ↔ s = "" := by
  have hnil : unit.units "" = [] := by cases unit <;> rfl
  constructor
  · intro h
    exact unit.units_injective (h.trans hnil.symm)
  · rintro rfl
    exact hnil

theorem scoreOf_clamp_zero (c : Nat) :
    (scoreOf (Cost.clamp c) 0 : Rat) = if c = 0 then 1 else 0 := by
  simp only [scoreOf, lossOf, if_true, Cost.clamp_eq_zero_iff, zero_rat, one_rat]
  split_ifs
  · exact sub_zero 1
  · exact sub_self 1

theorem min_one_clamped_share {c n : Nat} (hpos : 0 < n) (hn : n ≤ Cost.limit) :
    min 1 (((min Cost.limit c : Nat) : Rat) / n) = min 1 ((c : Rat) / n) := by
  rcases le_total c Cost.limit with hc | hc
  · rw [min_eq_right hc]
  · have hn0 : (0 : Rat) < n := by exact_mod_cast hpos
    have hl : (1 : Rat) ≤ (Cost.limit : Rat) / n := by
      rw [one_le_div hn0]
      exact_mod_cast hn
    have hc' : (1 : Rat) ≤ (c : Rat) / n := by
      rw [one_le_div hn0]
      exact_mod_cast hn.trans hc
    rw [min_eq_left hc, min_eq_left hl, min_eq_left hc']

theorem scoreOf_clamp {n : Nat} (c : Nat) (hpos : 0 < n) (hn : n < 2 ^ 64) :
    (scoreOf (Cost.clamp c) n : Rat) = max 0 (1 - (c : Rat) / n) := by
  have hn' : (UInt64.ofNat n).toNat = n := by
    rw [UInt64.toNat_ofNat']
    exact Nat.mod_eq_of_lt hn
  have hd : (Cost.clamp c).units.toNat = min Cost.limit c := Cost.toNat_clamp c
  have hlimit : n ≤ Cost.limit := by
    rw [Cost.limit]
    omega
  calc
    (scoreOf (Cost.clamp c) n : Rat) = 1 - min 1 (((min Cost.limit c : Nat) : Rat) / n) := by
      have h0 : 0 ≤ ((min Cost.limit c : Nat) : Rat) / n := by positivity
      rw [← clampUnit_rat_of_nonneg h0]
      simp only [scoreOf, lossOf, if_neg hpos.ne', one_rat, ofCount_rat, hn', hd]
    _ = 1 - min 1 ((c : Rat) / n) := by rw [min_one_clamped_share hpos hlimit]
    _ = max 0 (1 - (c : Rat) / n) := by rw [← max_sub_sub_left, sub_self]

theorem share_eq_one_iff {c n : Nat} (hpos : 0 < n) : max 0 (1 - (c : Rat) / n) = 1 ↔ c = 0 := by
  have hn0 : (0 : Rat) < n := by exact_mod_cast hpos
  constructor
  · intro h
    have hle : (c : Rat) / n ≤ 0 := by
      rcases max_choice 0 (1 - (c : Rat) / n) with hm | hm <;> rw [hm] at h <;> linarith
    have : (c : Rat) = 0 := by
      have := (div_le_iff₀ hn0).mp hle
      have := Nat.cast_nonneg (α := Rat) c
      linarith
    exact_mod_cast this
  · rintro rfl
    simp

theorem share_eq_zero_iff {c n : Nat} (hpos : 0 < n) : max 0 (1 - (c : Rat) / n) = 0 ↔ n ≤ c := by
  have hn0 : (0 : Rat) < n := by exact_mod_cast hpos
  rw [max_eq_left_iff, sub_nonpos, one_le_div hn0, Nat.cast_le]

/-- `x` is the score of a pair whose least cost is `c`. -/
structure IsExactScore (s : Scorer) (output source : String) (c : Nat) (x : Rat) : Prop where
  isLeast : IsLeast {d | Run s.weights (s.unit.units output) d (s.unit.units source)} c
  of_empty : s.unit.length source = 0 →
    x = if output = "" ∨ s.weights.deletion = .zero then 1 else 0
  of_pos : 0 < s.unit.length source → x = max 0 (1 - (c : Rat) / s.unit.length source)
  eq_one_iff : x = 1 ↔ c = 0
  eq_zero_iff : 0 < s.unit.length source → (x = 0 ↔ s.unit.length source ≤ c)

variable {output source : String}

theorem leastCost_eq_zero_of_empty (s : Scorer) (h : s.unit.length source = 0) :
    leastCost s.weights (s.unit.units output) (s.unit.units source) = 0 ↔
      output = "" ∨ s.weights.deletion = .zero := by
  have hnil : s.unit.units source = [] := by
    rw [← List.length_eq_zero_iff, s.unit.length_units, h]
  rw [hnil, leastCost_nil_right, Nat.mul_eq_zero, List.length_eq_zero_iff, s.unit.units_eq_nil_iff,
    Cost.toNat_eq_zero_iff]

theorem isExactScore_scoreOf (s : Scorer) (h : s.unit.length source < 2 ^ 64) :
    IsExactScore s output source
      (leastCost s.weights (s.unit.units output) (s.unit.units source))
      (scoreOf (s.distance output source) (s.unit.length source)) := by
  rw [Scorer.distance, distance_eq_clamp]
  have hleast := isLeast_leastCost s.weights (s.unit.units output) (s.unit.units source)
  rcases Nat.eq_zero_or_pos (s.unit.length source) with h0 | hpos
  · have hz := @leastCost_eq_zero_of_empty output source s h0
    rw [h0, scoreOf_clamp_zero]
    refine ⟨hleast, fun _ => ?_, fun hp => absurd h0 hp.ne', ?_, fun hp => absurd h0 hp.ne'⟩
    · simp only [hz]
    · split_ifs with hc <;> simp [hc]
  · rw [scoreOf_clamp _ hpos h]
    exact ⟨hleast, fun h0 => absurd h0 hpos.ne', fun _ => rfl, share_eq_one_iff hpos,
      fun _ => share_eq_zero_iff hpos⟩

end Edit

theorem Edit.Scorer.value_measure_score (s : Scorer) (output source : String) :
    (s.measure .score output source : Logged Rat (Measured Rat)).value =
      .score (scoreOf (s.distance output source) (s.unit.length source)) := by
  simp [measure, value_bound]

theorem Report.value_score (config : Config Rat) (output source : String) :
    (evaluate config output source).value.score =
      Edit.scoreOf
        (config.scorer.distance (Text.prepare config.preparations output)
          (Text.prepare config.preparations source))
        (config.scorer.unit.length (Text.prepare config.preparations source)) := by
  simp [evaluate, Edit.Scorer.value_bound]

theorem Edit.exists_isExactScore :
    (∀ (s : Scorer) (output source : String), s.unit.length source < 2 ^ 64 →
      ∃ c, IsExactScore s output source c (s.score output source : Logged Rat Rat).value ∧
        ∃ x, (s.measure .score output source : Logged Rat (Measured Rat)).value = .score x ∧
          IsExactScore s output source c x) ∧
    (∀ (w : Weights) (output source : String), source.length < 2 ^ 64 →
      ∃ (m : Logged Rat (Measured Rat)) (c : Nat) (x : Rat),
        measureText w "score" output source = .ok m ∧ m.value = .score x ∧
          IsExactScore ⟨w, .char⟩ output source c x) ∧
    (∀ (config : Config Rat) (output source : String),
      config.unit.length (Text.prepare config.preparations source) < 2 ^ 64 →
        ∃ c, IsExactScore config.scorer (Text.prepare config.preparations output)
          (Text.prepare config.preparations source) c
          (Report.evaluate config output source).value.score) := by
  refine ⟨fun s output source h => ?_, fun w output source h => ?_,
    fun config output source h => ?_⟩
  · refine ⟨_, ?_, _, s.value_measure_score output source, isExactScore_scoreOf s h⟩
    rw [Scorer.score, Scorer.value_bound]
    exact isExactScore_scoreOf s h
  · exact ⟨_, _, _, rfl, Scorer.value_measure_score ⟨w, .char⟩ output source,
      isExactScore_scoreOf ⟨w, .char⟩ h⟩
  · rw [Report.value_score]
    exact ⟨_, isExactScore_scoreOf config.scorer h⟩

theorem Edit.exists_isExactScore_of_greatest :
    (TextUnit.grapheme.length "ab" < 2 ^ 64 ∧
      ∃ c, IsExactScore ⟨⟨.greatest, .greatest, .greatest⟩, .grapheme⟩ "b" "ab" c
        (Scorer.score ⟨⟨.greatest, .greatest, .greatest⟩, .grapheme⟩ "b" "ab" :
          Logged Rat Rat).value) ∧
    ("".length < 2 ^ 64 ∧
      ∃ (m : Logged Rat (Measured Rat)) (c : Nat) (x : Rat),
        measureText ⟨.greatest, .zero, .greatest⟩ "score" "ab" "" = .ok m ∧ m.value = .score x ∧
          IsExactScore ⟨⟨.greatest, .zero, .greatest⟩, .char⟩ "ab" "" c x) ∧
    (TextUnit.char.length (Text.prepare [] "ab") < 2 ^ 64 ∧
      ∃ c, IsExactScore (Config.standard : Config Rat).scorer (Text.prepare [] "b")
        (Text.prepare [] "ab") c
        (Report.evaluate (Config.standard : Config Rat) "b" "ab").value.score) := by
  obtain ⟨hscorer, htext, hreport⟩ := exists_isExactScore
  have hgrapheme : TextUnit.grapheme.length "ab" < 2 ^ 64 := by decide +kernel
  have hempty : "".length < 2 ^ 64 := by decide
  have hchar : TextUnit.char.length (Text.prepare [] "ab") < 2 ^ 64 := by decide
  refine ⟨⟨hgrapheme, ?_⟩, ⟨hempty, htext _ _ _ hempty⟩, hchar, hreport Config.standard _ _ hchar⟩
  obtain ⟨c, hc, -⟩ := hscorer ⟨⟨.greatest, .greatest, .greatest⟩, .grapheme⟩ "b" "ab" hgrapheme
  exact ⟨c, hc⟩

end Fidelity
