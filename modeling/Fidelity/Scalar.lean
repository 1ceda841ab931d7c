/-! The numbers that scores are computed in. The program computes in doubles; the laws of the same
formulas can be stated over the rationals. Comparison is decided, and on doubles it is the one of
floating point: a value that is no number is neither less than anything nor equal to itself. -/
namespace Fidelity

class Scalar (α : Type) extends Add α, Sub α, Mul α, Div α, LT α, BEq α where
  ofCount : UInt64 → α
  decidableLT : DecidableLT α

namespace Scalar

variable {α : Type} [Scalar α]

instance : DecidableLT α := decidableLT

def zero : α := ofCount 0

def one : α := ofCount 1

def clampUnit (x : α) : α := if x < zero then zero else if one < x then one else x

end Scalar

instance : Scalar Float where
  ofCount n := n.toFloat
  decidableLT a b := inferInstanceAs (Decidable (a < b))

instance : Scalar Rat where
  ofCount n := n.toNat
  decidableLT a b := inferInstanceAs (Decidable (a < b))

end Fidelity
