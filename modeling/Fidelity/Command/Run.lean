import Fidelity.Command.Arguments
import Fidelity.Command.Failure
import Fidelity.Decimal.Fixed
import Fidelity.Json.Forms

/-!
# Running a command

A command reads files and ends in one text to be printed, or in the first failure that it meets. How a
file is read is a parameter. The events on the way are kept, also those before a failure.
-/
namespace Fidelity.Command

abbrev FileReader (m : Type → Type) := String → m (Except ReadFault String)

abbrev Session (m : Type → Type) := ExceptT Failure (StateT (List (Event Float)) m)

variable {m : Type → Type} [Monad m]

def note (e : Event Float) : Session m Unit := modify (· ++ [e])

def logged {α : Type} (x : Logged Float α) : Session m α := do
  modify (· ++ x.events)
  return x.value

def named {α : Type} (x : Except UnknownName α) : Session m α :=
  match x with
  | .error e => throw (.unknownName e)
  | .ok v => return v

def readText (read : FileReader m) (path : String) : Session m String := do
  match ← (read path : m _) with
  | .error e => throw (.textUnreadable path e)
  | .ok text => return text

def readConfig (read : FileReader m) (path : String) : Session m (Config Float) := do
  match ← (read path : m _) with
  | .error e => throw (.configUnreadable path e)
  | .ok text =>
    note (.configLoaded path)
    match Config.ofJson text with
    | .error (.json e) => throw (.badConfig path e)
    | .error (.betaOutOfRange beta) => throw (.betaOutOfRange beta)
    | .ok c => return c

def loadConfig (read : FileReader m) (o : Options) : Session m (Config Float) := do
  let c ← match o.config with
    | none => pure Config.standard
    | some path => readConfig read path
  let c := match o.weights with
    | none => c
    | some w => { c with weights := w }
  let c ← match o.unit with
    | none => pure c
    | some name => do
      let u ← named (Edit.TextUnit.parse name)
      pure { c with unit := u }
  if o.normalize.isEmpty then return c
  let ps ← o.normalize.mapM fun name => named (Text.Preparation.parse name)
  return { c with preparations := ps }

def readListing (read : FileReader m) (path : String) : Session m (List Pair) := do
  let text ← readText read path
  match Json.decode (.listOf Json.pairReader) text with
  | .error e => throw (.badListing path e)
  | .ok pairs => return pairs

def readPair (read : FileReader m) (p : Pair) : Session m Pair := do
  let output ← readText read p.output
  let source ← readText read p.source
  return ⟨output, source⟩

def perform (read : FileReader m) (c : Config Float) : Task → Session m String
  | .score output source measure => do
    let measure ← named (Edit.Measure.parse measure)
    let p ← readPair read ⟨output, source⟩
    let report ← logged (Report.evaluate c p.output p.source)
    match measure with
    | .score => return Decimal.fixed Decimal.scorePlaces report.score
    | .distance => return toString report.distance.toNat
  | .words file => do
    let text ← readText read file
    let bag ← logged (c.tokenizer.read text)
    return (Json.ofBag bag).pretty
  | .report output source => do
    let p ← readPair read ⟨output, source⟩
    let report ← logged (Report.evaluate c p.output p.source)
    return (Json.ofReport report).pretty
  | .batch pairs => do
    let paths ← readListing read pairs
    let texts ← paths.mapM (readPair read)
    let reports ← logged (Report.evaluateBatch c texts)
    match Report.meanScore? reports with
    | none => pure ()
    | some mean => note (.batchScored reports.length mean)
    return (Json.Value.list (reports.map Json.ofReport)).pretty

def session (read : FileReader m) (i : Invocation) : Session m String := do
  let c ← loadConfig read i.options
  perform read c i.task

/-- The outcome of a command, one line to be printed or a failure, and the events on the way to it. -/
def run (read : FileReader m) (i : Invocation) : m (Except Failure String × List (Event Float)) :=
  (session read i).run.run []

def printed (outcome : String) : String := outcome ++ "\n"

def stdout : Except Failure String → String
  | .ok text => printed text
  | .error _ => ""

end Fidelity.Command
