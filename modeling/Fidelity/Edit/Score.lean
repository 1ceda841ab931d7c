import Fidelity.Cost
import Fidelity.Scalar

/-! The score of a distance: one less the share of the source that the edits amount to. The share is at
most one; of an empty source there is no share, and any cost at all counts as the whole. -/
namespace Fidelity.Edit

variable {α : Type} [Scalar α]

def lossOf (distance : Cost) (n : Nat) : α :=
  if n = 0 then
    if distance = .zero then Scalar.zero else Scalar.one
  else
    Scalar.clampUnit (Scalar.ofCount distance.units / Scalar.ofCount (UInt64.ofNat n))

def scoreOf (distance : Cost) (n : Nat) : α := Scalar.one - lossOf distance n

end Fidelity.Edit
