import Fidelity.Bag.Tokenizer
import Fidelity.Decimal.Layout
import Fidelity.Edit.Scorer
import Fidelity.Json.Reader
import Fidelity.Text.Preparation

/-! How pairs are to be evaluated. Preparations apply to the texts whose distance is taken, in order; the
bags of words are made of the texts as they are. -/
namespace Fidelity

structure Config (α : Type) where
  weights : Edit.Weights
  unit : Edit.TextUnit
  preparations : List Text.Preparation
  keptPunctuation : List Char
  beta : α
deriving DecidableEq, Repr

namespace Config

variable {α : Type}

def standard [Scalar α] : Config α where
  weights := .standard
  unit := .char
  preparations := []
  keptPunctuation := Text.wordPunctuation
  beta := Scalar.one

def scorer (c : Config α) : Edit.Scorer := ⟨c.weights, c.unit⟩

def tokenizer (c : Config α) : Tokenizer := ⟨c.keptPunctuation⟩

inductive Problem where
  | json (fault : Json.Fault)
  | betaOutOfRange (beta : Float)

/-- Doubles in messages have the fewest digits that read back and never an exponent. -/
def messageLayout : Decimal.Layout where
  positional := none
  pointZero := false
  tie := .up
  nan := "NaN"
  infinity := "inf"
  signedInfinity := true

def betaMessage (beta : Float) : String :=
  "f_beta must be a finite non-negative number, got " ++ messageLayout.render beta

def isValid (c : Config Float) : Bool := c.beta.isFinite && !decide (c.beta < 0)

def validate (c : Config Float) : Except Problem (Config Float) :=
  if c.isValid then .ok c else .error (.betaOutOfRange c.beta)

end Config
end Fidelity
