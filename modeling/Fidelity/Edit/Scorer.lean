import Fidelity.Edit.Distance
import Fidelity.Edit.Score
import Fidelity.Log

/-! A scorer measures pairs of texts with its weights, in its unit. -/
namespace Fidelity.Edit

inductive Measure where
  | score
  | distance
deriving DecidableEq, Repr

namespace Measure

def name : Measure → String
  | score => "score"
  | distance => "distance"

def names : List String := ["score", "distance"]

def ofName? : String → Option Measure
  | "score" => some score
  | "distance" => some distance
  | _ => none

def parse (s : String) : Except UnknownName Measure :=
  match ofName? s with
  | some m => .ok m
  | none => .error ⟨s, names⟩

end Measure

inductive Measured (α : Type) where
  | score (value : α)
  | distance (value : Cost)
deriving DecidableEq, Repr

def Measured.toScalar {α : Type} [Scalar α] : Measured α → α
  | score x => x
  | distance d => Scalar.ofCount d.units

structure Scorer where
  weights : Weights
  unit : TextUnit
deriving DecidableEq, Repr, Inhabited

namespace Scorer

variable {α : Type} [Scalar α]

def name : String := "weighted_levenshtein"

def distance (s : Scorer) (output source : String) : Cost :=
  Edit.distance s.weights s.unit output source

def boundLoss (distance : Cost) (n : Nat) : Logged α α := do
  if n = 0 then .note (.emptySource distance)
  return lossOf distance n

def bound (distance : Cost) (n : Nat) : Logged α α := do
  let loss ← boundLoss distance n
  return Scalar.one - loss

theorem value_bound (distance : Cost) (n : Nat) :
    (bound distance n : Logged α α).value = scoreOf distance n := by
  unfold bound boundLoss scoreOf
  split <;> rfl

def score (s : Scorer) (output source : String) : Logged α α :=
  bound (s.distance output source) (s.unit.length source)

def measure (s : Scorer) (wanted : Measure) (output source : String) : Logged α (Measured α) := do
  let distance := s.distance output source
  match wanted with
  | .distance => return .distance distance
  | .score =>
    let n := s.unit.length source
    let score ← bound distance n
    .note (.scoredPair (s.unit.length output) n distance score)
    return .score score

end Scorer

def measureText {α : Type} [Scalar α] (w : Weights) (wanted output source : String) :
    Except UnknownName (Logged α (Measured α)) :=
  (Measure.parse wanted).map fun m => (Scorer.mk w .char).measure m output source

end Fidelity.Edit
