import Fidelity.Json.Shape
import Fidelity.Json.Write
import Fidelity.Report

/-! The JSON forms of the library's values: how each is written and how those that are given from outside
are read. In a configuration and in weights a field that is not given has its standard value; elsewhere
every field has to be given. -/
namespace Fidelity.Json

open Edit (Weights TextUnit Measure Scorer)
open Text (Preparation)

def unitReader : Reader TextUnit := .choice TextUnit.ofName?

def measureReader : Reader Measure := .choice Measure.ofName?

def preparationReader : Reader Preparation := .choice Preparation.ofName?

def ofUnit (u : TextUnit) : Value := .text u.name

def ofMeasure (m : Measure) : Value := .text m.name

def ofPreparation (p : Preparation) : Value := .text p.name

structure WeightsDraft where
  insertion : Option UInt64 := none
  deletion : Option UInt64 := none
  substitution : Option UInt64 := none

def WeightsDraft.finish (d : WeightsDraft) : Weights where
  insertion := (d.insertion.map Cost.mk).getD Weights.standard.insertion
  deletion := (d.deletion.map Cost.mk).getD Weights.standard.deletion
  substitution := (d.substitution.map Cost.mk).getD Weights.standard.substitution

def weightsFields : List (Field WeightsDraft) := [
  .of "insertion" (·.insertion) (fun v d => { d with insertion := some v }) .natural,
  .of "deletion" (·.deletion) (fun v d => { d with deletion := some v }) .natural,
  .of "substitution" (·.substitution) (fun v d => { d with substitution := some v }) .natural]

def weightsReader : Reader Weights := .record weightsFields {} fun d => some d.finish

def ofWeights (w : Weights) : Value := .object [
  ("insertion", .natural w.insertion.units),
  ("deletion", .natural w.deletion.units),
  ("substitution", .natural w.substitution.units)]

structure ScorerDraft where
  weights : Option Weights := none
  unit : Option TextUnit := none

def scorerFields : List (Field ScorerDraft) := [
  .of "weights" (·.weights) (fun v d => { d with weights := some v }) weightsReader,
  .of "unit" (·.unit) (fun v d => { d with unit := some v }) unitReader]

def scorerReader : Reader Scorer :=
  .record scorerFields {} fun d =>
    match d.weights, d.unit with
    | some w, some u => some ⟨w, u⟩
    | _, _ => none

def ofScorer (s : Scorer) : Value := .object [
  ("weights", ofWeights s.weights),
  ("unit", ofUnit s.unit)]

def charsReader : Reader (List Char) := .listOf .char

def ofChars (cs : List Char) : Value := .list (cs.map fun c => .text (String.singleton c))

structure TokenizerDraft where
  kept : Option (List Char) := none

def tokenizerFields : List (Field TokenizerDraft) := [
  .of "exclude_punctuation" (·.kept) (fun v _ => { kept := some v }) charsReader]

def tokenizerReader : Reader Tokenizer :=
  .record tokenizerFields {} fun d => d.kept.map Tokenizer.mk

def ofTokenizer (t : Tokenizer) : Value := .object [("exclude_punctuation", ofChars t.kept)]

structure PairDraft where
  output : Option String := none
  source : Option String := none

def pairFields : List (Field PairDraft) := [
  .of "output" (·.output) (fun v d => { d with output := some v }) .text,
  .of "source" (·.source) (fun v d => { d with source := some v }) .text]

def pairReader : Reader Pair :=
  .record pairFields {} fun d =>
    match d.output, d.source with
    | some o, some s => some ⟨o, s⟩
    | _, _ => none

def ofPair (p : Pair) : Value := .object [
  ("output", .text p.output),
  ("source", .text p.source)]

structure ConfigDraft where
  weights : Option Weights := none
  unit : Option TextUnit := none
  preparations : Option (List Preparation) := none
  keptPunctuation : Option (List Char) := none
  beta : Option Float := none

def ConfigDraft.finish (d : ConfigDraft) : Config Float :=
  let c : Config Float := .standard
  { weights := d.weights.getD c.weights
    unit := d.unit.getD c.unit
    preparations := d.preparations.getD c.preparations
    keptPunctuation := d.keptPunctuation.getD c.keptPunctuation
    beta := d.beta.getD c.beta }

def configFields : List (Field ConfigDraft) := [
  .of "weights" (·.weights) (fun v d => { d with weights := some v }) weightsReader,
  .of "unit" (·.unit) (fun v d => { d with unit := some v }) unitReader,
  .of "normalization" (·.preparations) (fun v d => { d with preparations := some v })
    (.listOf preparationReader),
  .of "exclude_punctuation" (·.keptPunctuation) (fun v d => { d with keptPunctuation := some v })
    charsReader,
  .of "f_beta" (·.beta) (fun v d => { d with beta := some v }) .real]

def configReader : Reader (Config Float) := .record configFields {} fun d => some d.finish

def ofConfig (c : Config Float) : Value := .object [
  ("weights", ofWeights c.weights),
  ("unit", ofUnit c.unit),
  ("normalization", .list (c.preparations.map ofPreparation)),
  ("exclude_punctuation", ofChars c.keptPunctuation),
  ("f_beta", .real c.beta)]

def ofBag (b : Bag) : Value := .object (b.sorted.map fun (w, n) => (w, .natural n))

def ofDelta (d : Delta) : Value := .object [("word", .text d.word), ("count", .natural d.count)]

def ofComparison (c : Comparison) : Value := .object [
  ("matched", .natural c.matched),
  ("output_total", .natural c.outputTotal),
  ("source_total", .natural c.sourceTotal),
  ("missing", .list (c.missing.map ofDelta)),
  ("extra", .list (c.extra.map ofDelta))]

def ofReport (r : Report Float) : Value := .object [
  ("score", .real r.score),
  ("distance", .natural r.distance.units),
  ("output_len", .natural (UInt64.ofNat r.outputLength)),
  ("source_len", .natural (UInt64.ofNat r.sourceLength)),
  ("word_precision", .real r.wordPrecision),
  ("word_recall", .real r.wordRecall),
  ("word_f_score", .real r.wordFScore),
  ("words", ofComparison r.words)]

end Fidelity.Json

namespace Fidelity.Config

def ofJson (text : String) : Except Problem (Config Float) :=
  match Json.decode Json.configReader text with
  | .error e => .error (.json e)
  | .ok c => c.validate

end Fidelity.Config
