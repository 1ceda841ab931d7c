import Fidelity.Proofs.Edit.Metric

/-!
# The same edits under other weights

A run is a run under any weights: only what it costs depends on them, and the costs of two runs of
the same edits compare as the weights do. Main statement: the distance grows with the weights, and
is multiplied with them as far as the greatest cost.
-/
namespace Fidelity

theorem Cost.times_clamp (k n : Nat) : times k (clamp n) = clamp (k * n) := by
  ext
  rw [toNat_times, toNat_clamp, toNat_clamp]
  by_cases hn : n ≤ limit
  · rw [min_eq_right hn]
  · have hlimit : min limit n = limit := min_eq_left (Nat.le_of_not_le hn)
    rw [hlimit]
    cases k with
    | zero => rw [Nat.zero_mul, Nat.zero_mul]
    | succ k =>
      have hmore : (k + 1) * limit ≤ (k + 1) * n := Nat.mul_le_mul_left _ (Nat.le_of_not_le hn)
      rw [Nat.succ_mul] at hmore ⊢
      omega

namespace Edit

/-- `k` times the weights of `w` are at most `l` times those of `w'`. -/
structure Weights.Within (k l : Nat) (w w' : Weights) : Prop where
  insertion : k * w.insertion.toNat ≤ l * w'.insertion.toNat
  deletion : k * w.deletion.toNat ≤ l * w'.deletion.toNat
  substitution : k * w.substitution.toNat ≤ l * w'.substitution.toNat

variable {α : Type} {k l : Nat} {w w' : Weights}

theorem Step.reweigh (hw : w.Within k l w') {xs ys : List α} {c : Nat} (h : Step w' xs c ys) :
    ∃ d, k * d ≤ l * c ∧ Step w xs d ys := by
  cases h with
  | insert p s b => exact ⟨_, hw.insertion, .insert p s b⟩
  | delete p s a => exact ⟨_, hw.deletion, .delete p s a⟩
  | replace p s hab => exact ⟨_, hw.substitution, .replace p s hab⟩

theorem Run.reweigh (hw : w.Within k l w') {xs ys : List α} {c : Nat} (h : Run w' xs c ys) :
    ∃ d, k * d ≤ l * c ∧ Run w xs d ys := by
  induction h with
  | done xs => exact ⟨0, Nat.zero_le _, .done xs⟩
  | @step xs ys zs c e hs _ ih =>
    obtain ⟨c', hc, hs'⟩ := hs.reweigh hw
    obtain ⟨e', he, hrun⟩ := ih
    refine ⟨c' + e', ?_, .step hs' hrun⟩
    rw [Nat.mul_add, Nat.mul_add]
    exact Nat.add_le_add hc he

variable [DecidableEq α]

theorem mul_leastCost_le_mul (hw : w.Within k l w') (as bs : List α) :
    k * leastCost w as bs ≤ l * leastCost w' as bs := by
  obtain ⟨d, hd, hrun⟩ := (run_leastCost w' as bs).reweigh hw
  calc
    k * leastCost w as bs ≤ k * d := Nat.mul_le_mul_left k hrun.leastCost_le
    _ ≤ l * leastCost w' as bs := hd

structure Weights.AtMost (w w' : Weights) : Prop where
  insertion : w.insertion ≤ w'.insertion
  deletion : w.deletion ≤ w'.deletion
  substitution : w.substitution ≤ w'.substitution

structure Weights.IsMultiple (k : Nat) (w w' : Weights) : Prop where
  insertion : w'.insertion.toNat = k * w.insertion.toNat
  deletion : w'.deletion.toNat = k * w.deletion.toNat
  substitution : w'.substitution.toNat = k * w.substitution.toNat

theorem Weights.AtMost.within (h : w.AtMost w') : w.Within 1 1 w' := by
  constructor
  · exact Nat.mul_le_mul_left 1 (Cost.le_iff.mp h.insertion)
  · exact Nat.mul_le_mul_left 1 (Cost.le_iff.mp h.deletion)
  · exact Nat.mul_le_mul_left 1 (Cost.le_iff.mp h.substitution)

theorem Weights.IsMultiple.within_left (h : w.IsMultiple k w') : w.Within k 1 w' := by
  constructor
  · rw [h.insertion, Nat.one_mul]
  · rw [h.deletion, Nat.one_mul]
  · rw [h.substitution, Nat.one_mul]

theorem Weights.IsMultiple.within_right (h : w.IsMultiple k w') : w'.Within 1 k w := by
  constructor
  · rw [h.insertion, Nat.one_mul]
  · rw [h.deletion, Nat.one_mul]
  · rw [h.substitution, Nat.one_mul]

theorem leastCost_le_of_atMost (h : w.AtMost w') (as bs : List α) :
    leastCost w as bs ≤ leastCost w' as bs := by
  simpa using mul_leastCost_le_mul h.within as bs

theorem leastCost_of_isMultiple (h : w.IsMultiple k w') (as bs : List α) :
    leastCost w' as bs = k * leastCost w as bs := by
  apply le_antisymm
  · simpa using mul_leastCost_le_mul h.within_right as bs
  · simpa using mul_leastCost_le_mul h.within_left as bs

structure FollowsWeights (d : Weights → String → String → Cost) : Prop where
  mono : ∀ w w' : Weights, w.AtMost w' → ∀ output source, d w output source ≤ d w' output source
  times : ∀ (k : Nat) (w w' : Weights), w.IsMultiple k w' →
    ∀ output source, d w' output source = Cost.times k (d w output source)

theorem followsWeights_cutDistance (cut : String → List α) :
    FollowsWeights fun w => cutDistance w cut where
  mono := by
    intro w w' h output source
    rw [cutDistance_eq_clamp, cutDistance_eq_clamp]
    exact Cost.clamp_le_clamp (leastCost_le_of_atMost h (cut output) (cut source))
  times := by
    intro k w w' h output source
    rw [cutDistance_eq_clamp, cutDistance_eq_clamp, leastCost_of_isMultiple h, Cost.times_clamp]

theorem distances_follow_weights :
    (∀ unit : TextUnit, FollowsWeights fun w => distance w unit) ∧
      ∀ cut : String → List α, FollowsWeights fun w => cutDistance w cut := by
  refine ⟨?_, followsWeights_cutDistance⟩
  intro unit
  simp only [distance_eq_cutDistance]
  exact followsWeights_cutDistance unit.units

theorem distances_follow_weights_beyond_limit :
    Weights.uniform.AtMost .standard ∧
      distance .uniform .grapheme "e\u0301a" "eab" ≤ distance .standard .grapheme "e\u0301a" "eab" ∧
      (Weights.ofUnits 0x4000000000000000 1 1).IsMultiple 3 (.ofUnits 0xC000000000000000 3 3) ∧
      distance (.ofUnits 0xC000000000000000 3 3) .char "" "ab" = .greatest := by
  have hle : Weights.uniform.AtMost .standard := by
    constructor <;> decide
  have hthree :
      (Weights.ofUnits 0x4000000000000000 1 1).IsMultiple 3 (.ofUnits 0xC000000000000000 3 3) := by
    constructor <;> decide
  obtain ⟨hunit, -⟩ := distances_follow_weights (α := Char)
  refine ⟨hle, (hunit .grapheme).mono _ _ hle _ _, hthree, ?_⟩
  have hbase : distance (.ofUnits 0x4000000000000000 1 1) .char "" "ab" = ⟨0x8000000000000000⟩ := by
    decide
  rw [(hunit .char).times 3 _ _ hthree, hbase]
  decide

end Edit
end Fidelity
