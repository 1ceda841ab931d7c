import Fidelity.Proofs.Edit.Gap
import Fidelity.Report

/-!
# The lengths of a report

A report counts the units of the texts as they are compared, after all preparations, and its distance
is one over the same units. Main statement: no report gives a distance that texts of the lengths it
gives cannot have.
-/
namespace Fidelity.Report

variable {α : Type} [Scalar α] (config : Config α) (output source : String)

structure HasLengths (r : Report α) : Prop where
  outputLength : r.outputLength =
    (config.unit.units (Text.prepare config.preparations output)).length
  sourceLength : r.sourceLength =
    (config.unit.units (Text.prepare config.preparations source)).length
  fits : Edit.FitsLengths config.weights r.outputLength r.sourceLength r.distance

theorem value_outputLength : (evaluate config output source).value.outputLength =
    (config.unit.units (Text.prepare config.preparations output)).length := by
  rw [Edit.TextUnit.length_units]
  rfl

theorem value_sourceLength : (evaluate config output source).value.sourceLength =
    (config.unit.units (Text.prepare config.preparations source)).length := by
  rw [Edit.TextUnit.length_units]
  rfl

theorem value_distance : (evaluate config output source).value.distance =
    Edit.cutDistance config.weights config.unit.units (Text.prepare config.preparations output)
      (Text.prepare config.preparations source) := by
  rw [← Edit.distance_eq_cutDistance]
  rfl

/-- The second part says of any two texts, cut into any pieces, that their distance fits. -/
theorem hasLengths_evaluate :
    HasLengths config output source (evaluate config output source).value ∧
      ∀ {β : Type} [DecidableEq β] (w : Edit.Weights) (cut : String → List β) (s t : String),
        Edit.FitsLengths w (cut s).length (cut t).length (Edit.cutDistance w cut s t) := by
  refine ⟨⟨value_outputLength config output source, value_sourceLength config output source, ?_⟩,
    Edit.fitsLengths_cutDistance⟩
  rw [value_outputLength, value_sourceLength, value_distance]
  exact Edit.fitsLengths_cutDistance _ _ _ _

end Fidelity.Report
