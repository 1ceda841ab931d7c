import Fidelity.Decimal.Fixed
import Fidelity.Log
import Fidelity.Report
import Fidelity.Text.Quoted

/-! Events as lines of a log: how much they matter, which part of the library tells of them, and what they
say. -/
namespace Fidelity

inductive Level where
  | error
  | warn
  | info
  | debug
  | trace
deriving DecidableEq, Repr

namespace Level

def rank : Level → Nat
  | error => 1
  | warn => 2
  | info => 3
  | debug => 4
  | trace => 5

def name : Level → String
  | error => "error"
  | warn => "warn"
  | info => "info"
  | debug => "debug"
  | trace => "trace"

def label : Level → String
  | error => "ERROR"
  | warn => "WARN"
  | info => "INFO"
  | debug => "DEBUG"
  | trace => "TRACE"

def parseThreshold? (s : String) : Option (Option Level) :=
  match String.ofList (s.toList.map Char.toLower) with
  | "off" => some none
  | "error" => some (some error)
  | "warn" => some (some warn)
  | "info" => some (some info)
  | "debug" => some (some debug)
  | "trace" => some (some trace)
  | _ => none

/-- The threshold in force: the one that is asked for by name, or else one that depends on whether the
user wants to hear more. -/
def threshold (asked : Option String) (verbose : Bool) : Option Level :=
  match asked.bind parseThreshold? with
  | some t => t
  | none => some (if verbose then debug else warn)

def admits (threshold : Option Level) (l : Level) : Bool :=
  match threshold with
  | none => false
  | some t => decide (l.rank ≤ t.rank)

end Level

namespace Event

variable {α : Type}

def level : Event α → Level
  | emptySource _ | scoredPair .. | evaluatedPair .. | configLoaded _ => .debug
  | shreddedRun _ => .trace
  | batchStarted .. | batchScored .. => .info

inductive Area where
  | edit
  | bag
  | report
  | config
  | command
deriving DecidableEq, Repr

def Area.path : Area → String
  | edit => "extract_eval::algorithms::levenshtein"
  | bag => "extract_eval::algorithms::bag_of_words"
  | report => "extract_eval::evaluate"
  | config => "extract_eval::config"
  | command => "eval_text"

def area : Event α → Area
  | emptySource _ | scoredPair .. => .edit
  | shreddedRun _ => .bag
  | evaluatedPair .. | batchStarted .. => .report
  | configLoaded _ => .config
  | batchScored .. => .command

def fixedScore (x : Float) : String := Decimal.fixed Decimal.scorePlaces x

def costText (c : Cost) : String := toString c.toNat

def message : Event Float → String
  | emptySource d => "empty source, distance " ++ costText d ++ " taken as all-or-nothing"
  | scoredPair m n d score =>
    "scored pair: output_len=" ++ toString m ++ " source_len=" ++ toString n
      ++ " distance=" ++ costText d ++ " score=" ++ fixedScore score
  | shreddedRun letters => "discarding shredded run " ++ Text.quoted letters
  | evaluatedPair d score wordRecall =>
    "evaluated pair: distance=" ++ costText d ++ " score=" ++ fixedScore score
      ++ " word_recall=" ++ fixedScore wordRecall
  | batchStarted n parallel =>
    "evaluating " ++ toString n ++ " pairs" ++ (if parallel then " in parallel" else "")
  | configLoaded path => "loaded evaluation config from " ++ path
  | batchScored n mean =>
    "mean score over " ++ toString n ++ " pairs: " ++ fixedScore mean

end Event
end Fidelity
