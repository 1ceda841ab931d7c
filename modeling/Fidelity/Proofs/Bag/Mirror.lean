import Fidelity.Proofs.Bag.Mean

/-!
# The two directions of a comparison

What is matched is the same whichever bag is asked for the counts of the other. Main statement: to
exchange the bags is to exchange the two sides of their comparison, precision and recall with them,
and the mean is the same if its weight is inverted too.
-/
namespace Fidelity

def Comparison.mirrored (c : Comparison) : Comparison where
  matched := c.matched
  outputTotal := c.sourceTotal
  sourceTotal := c.outputTotal
  missing := c.extra
  extra := c.missing

namespace Bag

theorem matched_comm (a b : Bag) : a.matched b = b.matched a := by
  apply foldl_add_congr
  rw [List.map_map, List.map_map]
  exact exactMatched_comm a b

theorem compare_mirrored (a b : Bag) : (a.compare b).mirrored = b.compare a := by
  rw [compare, compare, Comparison.mirrored, matched_comm b a]

end Bag

namespace Comparison

theorem wordPrecision_mirrored {α : Type} [Scalar α] (c : Comparison) :
    (c.mirrored.wordPrecision : α) = c.wordRecall := rfl

theorem wordRecall_mirrored {α : Type} [Scalar α] (c : Comparison) :
    (c.mirrored.wordRecall : α) = c.wordPrecision := rfl

theorem meanBottom_inv {beta : ℚ} (hbeta : beta ≠ 0) (p r : ℚ) :
    meanBottom beta r p = beta ^ 2 * meanBottom (1 / beta) p r := by
  rw [meanBottom, meanBottom]
  field_simp
  ring

theorem weightedMean_inv {beta : ℚ} (hbeta : beta ≠ 0) (p r : ℚ) :
    weightedMean beta r p = weightedMean (1 / beta) p r := by
  have htop : (1 + beta ^ 2) * r * p = beta ^ 2 * ((1 + (1 / beta) ^ 2) * p * r) := by
    field_simp
    ring
  rw [weightedMean_rat, weightedMean_rat, add_comm r p, htop, meanBottom_inv hbeta,
    mul_div_mul_left _ _ (pow_ne_zero 2 hbeta)]

theorem fScore_mirrored {beta : ℚ} (hbeta : beta ≠ 0) (c : Comparison) :
    c.mirrored.fScore beta = c.fScore (1 / beta) :=
  weightedMean_inv hbeta c.wordPrecision c.wordRecall

end Comparison

namespace Bag

/-- No total is bounded: a sum that wraps, wraps to the same count the other way round. -/
theorem compare_exchanged (a b : Bag) :
    b.compare a = (a.compare b).mirrored ∧
      (∀ {α : Type} [Scalar α],
        ((b.compare a).wordPrecision : α) = (a.compare b).wordRecall ∧
          ((b.compare a).wordRecall : α) = (a.compare b).wordPrecision) ∧
      ∀ beta : ℚ, beta ≠ 0 → (b.compare a).fScore beta = (a.compare b).fScore (1 / beta) := by
  rw [← compare_mirrored a b]
  refine ⟨rfl, ?_, ?_⟩
  · intro α _
    exact ⟨Comparison.wordPrecision_mirrored _, Comparison.wordRecall_mirrored _⟩
  · intro beta hbeta
    exact Comparison.fScore_mirrored hbeta _

theorem compare_exchanged_shredded :
    (2 : ℚ) ≠ 0 ∧
      ((ofWords ["my", "name", "is"]).compare (ofWords ["my", "name", "is", "harper"])).fScore 2 =
        ((ofWords ["my", "name", "is", "harper"]).compare (ofWords ["my", "name", "is"])).fScore
          (1 / 2 : ℚ) ∧
      ((ofWords ["my", "name", "is"]).compare (ofWords ["my", "name", "is", "harper"])).missing =
        ((ofWords ["my", "name", "is", "harper"]).compare (ofWords ["my", "name", "is"])).extra := by
  have htwo : (2 : ℚ) ≠ 0 := by decide
  obtain ⟨hsides, -, hmean⟩ :=
    compare_exchanged (ofWords ["my", "name", "is", "harper"]) (ofWords ["my", "name", "is"])
  exact ⟨htwo, hmean 2 htwo, congrArg Comparison.missing hsides⟩

end Bag
end Fidelity
