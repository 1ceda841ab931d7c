import Fidelity.Bag.Comparison
import Fidelity.Config

/-! Reports on pairs of an output and its source: how far apart they are, and how well their words
agree. -/
namespace Fidelity

structure Pair where
  output : String
  source : String
deriving DecidableEq, Repr

structure Report (α : Type) where
  score : α
  distance : Cost
  /-- Lengths are in units of the configuration, after preparation. -/
  outputLength : Nat
  sourceLength : Nat
  wordPrecision : α
  wordRecall : α
  wordFScore : α
  words : Comparison
deriving DecidableEq, Repr

/-- Batches of at least so many pairs are evaluated in parallel. -/
def parallelThreshold : Nat := 8

inductive Division where
  | whole
  | cut (length : Nat) (front back : Division)

def Division.halving : Nat → Nat → Division
  | 0, _ => .whole
  | depth + 1, n => .cut (n / 2) (halving depth (n / 2)) (halving depth (n - n / 2))

namespace Report

variable {α : Type} [Scalar α]

def evaluate (c : Config α) (output source : String) : Logged α (Report α) := do
  let scorer := c.scorer
  let prepared := Pair.mk (Text.prepare c.preparations output) (Text.prepare c.preparations source)
  let distance := scorer.distance prepared.output prepared.source
  let sourceLength := scorer.unit.length prepared.source
  let score ← Edit.Scorer.bound distance sourceLength
  let outputBag ← c.tokenizer.read output
  let sourceBag ← c.tokenizer.read source
  let words := outputBag.compare sourceBag
  .note (.evaluatedPair distance score words.wordRecall)
  return {
    score := score
    distance := distance
    outputLength := scorer.unit.length prepared.output
    sourceLength := sourceLength
    wordPrecision := words.wordPrecision
    wordRecall := words.wordRecall
    wordFScore := words.fScore c.beta
    words := words }

def evaluateInTurn (c : Config α) (pairs : List Pair) : Logged α (List (Report α)) :=
  pairs.mapM fun p => evaluate c p.output p.source

def evaluateApart (c : Config α) : Division → List Pair → Logged α (List (Report α))
  | .whole, pairs => evaluateInTurn c pairs
  | .cut n front back, pairs => do
    let before ← evaluateApart c front (pairs.take n)
    let behind ← evaluateApart c back (pairs.drop n)
    return before ++ behind

def evaluateBatch (c : Config α) (pairs : List Pair) : Logged α (List (Report α)) :=
  if parallelThreshold ≤ pairs.length then do
    .note (.batchStarted pairs.length true)
    evaluateApart c (.halving 3 pairs.length) pairs
  else do
    .note (.batchStarted pairs.length false)
    evaluateInTurn c pairs

theorem evaluateApart_eq (c : Config α) (d : Division) (pairs : List Pair) :
    evaluateApart c d pairs = evaluateInTurn c pairs := by
  induction d generalizing pairs with
  | whole => rfl
  | cut n front back ihFront ihBack =>
    calc
      evaluateApart c (.cut n front back) pairs
          = evaluateInTurn c (pairs.take n ++ pairs.drop n) := by
        rw [evaluateApart, ihFront, ihBack]
        exact (List.mapM_append ..).symm
      _ = evaluateInTurn c pairs := by rw [List.take_append_drop]

theorem value_evaluateBatch (c : Config α) (pairs : List Pair) :
    (evaluateBatch c pairs).value = pairs.map fun p => (evaluate c p.output p.source).value := by
  rw [evaluateBatch, evaluateApart_eq]
  split <;> exact Logged.value_mapM _ _

def meanScore? (reports : List (Report α)) : Option α :=
  if reports.isEmpty then none
  else
    let sum := (reports.map Report.score).foldl (· + ·) Scalar.zero
    some (sum / Scalar.ofCount (UInt64.ofNat reports.length))

end Report
end Fidelity
