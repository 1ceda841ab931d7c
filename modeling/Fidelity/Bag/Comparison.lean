import Fidelity.Bag.Basic
import Fidelity.Scalar

/-!
# Comparing two bags

A word that occurs `k` times in the output and `m` times in the source is matched `min k m` times; what
the source has beyond that is missing, what the output has beyond that is extra. From the matched count
and the two totals follow precision, recall and their weighted mean.
-/
namespace Fidelity

structure Delta where
  word : String
  count : UInt64
deriving DecidableEq, Repr

structure Comparison where
  matched : UInt64
  outputTotal : UInt64
  sourceTotal : UInt64
  missing : List Delta
  extra : List Delta
deriving DecidableEq, Repr

namespace Bag

def surplus (a b : Bag) : List Delta :=
  (a.entries.filterMap fun (w, n) =>
      if b.count w < n then some ⟨w, n - b.count w⟩ else none).mergeSort
    fun x y => decide (x.word ≤ y.word)

def matched (output source : Bag) : UInt64 :=
  (source.entries.map fun (w, n) => min (output.count w) n).foldl (· + ·) 0

def compare (output source : Bag) : Comparison where
  matched := output.matched source
  outputTotal := output.total
  sourceTotal := source.total
  missing := source.surplus output
  extra := output.surplus source

end Bag

namespace Comparison

variable {α : Type} [Scalar α]

/-- The share that `matched` is of `total`. Of nothing all is matched if nothing was asked for, and
nothing otherwise. -/
def share (matched total asked : UInt64) : α :=
  if total = 0 then
    if asked = 0 then Scalar.one else Scalar.zero
  else Scalar.ofCount matched / Scalar.ofCount total

def wordPrecision (c : Comparison) : α := share c.matched c.outputTotal c.sourceTotal

def wordRecall (c : Comparison) : α := share c.matched c.sourceTotal c.outputTotal

def weightedMean (beta p r : α) : α :=
  if p + r == Scalar.zero then Scalar.zero
  else
    let square := beta * beta
    (Scalar.one + square) * p * r / (square * p + r)

def fScore (c : Comparison) (beta : α) : α := weightedMean beta c.wordPrecision c.wordRecall

end Comparison
end Fidelity
