import Fidelity.Edit.Affix
import Fidelity.Edit.Sweep
import Fidelity.Edit.TextUnit

/-! The weighted edit distance: the least cost of turning an output into its source. Common affixes cost
nothing and are dropped before the table is swept. -/
namespace Fidelity.Edit

def unitDistance {α : Type} [DecidableEq α] (w : Weights) (output source : List α) : Cost :=
  match dropCommonAffixes output source with
  | ([], inserted) => Cost.times inserted.length w.insertion
  | (deleted, []) => Cost.times deleted.length w.deletion
  | (output, source) => (lastRow w output source).getD source.length .zero

def distance (w : Weights) (unit : TextUnit) (output source : String) : Cost :=
  if output = source then .zero
  else match unit with
    | .char => unitDistance w output.toList source.toList
    | .grapheme =>
      unitDistance w (Unicode.clusters output.toList) (Unicode.clusters source.toList)

end Fidelity.Edit
