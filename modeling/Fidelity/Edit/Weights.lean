import Fidelity.Cost

/-! What an edit costs. The edits turn an output into its source: an insertion is charged for a unit of
the source that the output lacks, a deletion for a unit of the output that the source lacks. -/
namespace Fidelity.Edit

structure Weights where
  insertion : Cost
  deletion : Cost
  substitution : Cost
deriving DecidableEq, Repr

namespace Weights

def ofUnits (insertion deletion substitution : UInt64) : Weights :=
  ⟨⟨insertion⟩, ⟨deletion⟩, ⟨substitution⟩⟩

def uniform : Weights := ofUnits 1 1 1

/-- Content that the output lacks costs twice as much as content that it has too much. -/
def standard : Weights := ofUnits 2 1 1

instance : Inhabited Weights := ⟨standard⟩

end Weights
end Fidelity.Edit
