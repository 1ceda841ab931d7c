import Fidelity.Proofs.Edit.Metric

/-!
# The two directions of an edit

Taken back, an insertion is a deletion, so a run taken back costs the same if these two weights are
exchanged. Main statement: a distance is the same when both sequences are read from the back, and
when they are exchanged together with the weights of insertion and deletion.
-/
namespace Fidelity.Edit

def Weights.mirrored (w : Weights) : Weights := ⟨w.deletion, w.insertion, w.substitution⟩

theorem Weights.mirrored_mirrored (w : Weights) : w.mirrored.mirrored = w := rfl

theorem Weights.mirrored_of_eq {w : Weights} (h : w.insertion = w.deletion) : w.mirrored = w := by
  obtain ⟨insertion, deletion, substitution⟩ := w
  obtain rfl : insertion = deletion := h
  rfl

variable {α : Type} {w : Weights}

theorem Step.mirror {xs ys : List α} {c : Nat} (h : Step w xs c ys) : Step w.mirrored ys c xs := by
  cases h with
  | insert p s b => exact .delete p s b
  | delete p s a => exact .insert p s a
  | replace p s hab => exact .replace p s hab.symm

theorem Run.mirror {xs ys : List α} {c : Nat} (h : Run w xs c ys) : Run w.mirrored ys c xs := by
  induction h with
  | done xs => exact .done xs
  | step hs _ ih =>
    -- The first edit is the last one to be taken back.
    have hback := ih.trans hs.mirror.run
    rwa [Nat.add_comm] at hback

variable [DecidableEq α]

theorem leastCost_mirrored_le (w : Weights) (xs ys : List α) :
    leastCost w.mirrored ys xs ≤ leastCost w xs ys :=
  (run_leastCost w xs ys).mirror.leastCost_le

theorem leastCost_mirrored (w : Weights) (xs ys : List α) :
    leastCost w.mirrored ys xs = leastCost w xs ys := by
  apply le_antisymm (leastCost_mirrored_le w xs ys)
  have hback := leastCost_mirrored_le w.mirrored ys xs
  rwa [Weights.mirrored_mirrored] at hback

theorem unitDistance_mirrored (w : Weights) (as bs : List α) :
    unitDistance w.mirrored bs as = unitDistance w as bs :=
  unitDistance_congr (leastCost_mirrored w as bs)

theorem unitDistance_reverse (w : Weights) (as bs : List α) :
    unitDistance w as.reverse bs.reverse = unitDistance w as bs :=
  unitDistance_congr (leastCost_reverse w as bs)

/-- A way of measuring texts in which no direction shows but that of the weights. -/
structure IsMirrored (d : Weights → String → String → Cost) : Prop where
  exchange : ∀ w output source, d w.mirrored source output = d w output source
  comm : ∀ w, w.insertion = w.deletion → ∀ output source, d w source output = d w output source

theorem isMirrored_of_exchange {d : Weights → String → String → Cost}
    (h : ∀ w output source, d w.mirrored source output = d w output source) : IsMirrored d where
  exchange := h
  comm := by
    intro w hw output source
    have hback := h w output source
    rwa [Weights.mirrored_of_eq hw] at hback

theorem isMirrored_cutDistance (cut : String → List α) :
    IsMirrored fun w => cutDistance w cut := by
  apply isMirrored_of_exchange
  intro w output source
  rw [cutDistance_eq_clamp, cutDistance_eq_clamp, leastCost_mirrored]

theorem distances_mirror_and_reverse :
    (∀ (w : Weights) (as bs : List α), unitDistance w.mirrored bs as = unitDistance w as bs ∧
      unitDistance w as.reverse bs.reverse = unitDistance w as bs) ∧
      (∀ unit : TextUnit, IsMirrored fun w => distance w unit) ∧
      ∀ cut : String → List α, IsMirrored fun w => cutDistance w cut := by
  refine ⟨?_, ?_, isMirrored_cutDistance⟩
  · intro w as bs
    exact ⟨unitDistance_mirrored w as bs, unitDistance_reverse w as bs⟩
  · intro unit
    simp only [distance_eq_cutDistance]
    exact isMirrored_cutDistance unit.units

theorem distances_mirror_and_reverse_uniform :
    Weights.uniform.insertion = Weights.uniform.deletion ∧
      distance .uniform .grapheme "eab" "e\u0301a" =
        distance .uniform .grapheme "e\u0301a" "eab" ∧
      distance Weights.standard.mirrored .char "cart" "cat" =
        distance .standard .char "cat" "cart" := by
  have heq : Weights.uniform.insertion = Weights.uniform.deletion := rfl
  obtain ⟨-, hunit, -⟩ := distances_mirror_and_reverse (α := Char)
  exact ⟨heq, (hunit .grapheme).comm .uniform heq "e\u0301a" "eab",
    (hunit .char).exchange .standard "cat" "cart"⟩

end Fidelity.Edit
