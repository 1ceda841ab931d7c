import Fidelity.Command.WeightList

/-!
# Arguments

A command line names a command and gives it options. Options that every command takes may stand before
its name as well as behind it; what is given behind it counts. Arguments are read from the left, and a
value is accepted when the argument after it is looked at: an argument that cannot be at all is therefore
refused before a value in front of it.
-/
namespace Fidelity.Command

inductive UsageAnswer where
  | help
  | version
  | nothingGiven
  | unknownArgument
  | unknownCommand
  | missingArgument
  | missingCommand
  | missingValue
  | badWeights (fault : WeightListFault)
  | repeated
  | valueForFlag
deriving DecidableEq, Repr

def UsageAnswer.exitCode : UsageAnswer → UInt8
  | help | version => 0
  | _ => 2

inductive Slot where
  | config
  | weights
  | unit
  | normalize
  | output
  | source
  | measure
  | pairs
  | file
deriving DecidableEq, Repr

inductive CommandName where
  | score
  | words
  | report
  | batch
deriving DecidableEq, Repr

def CommandName.ofName? : String → Option CommandName
  | "score" => some score
  | "words" => some words
  | "report" => some report
  | "batch" => some batch
  | _ => none

abbrev Scope := Option CommandName

def Scope.option? (scope : Scope) (name : String) : Option Slot :=
  match name, scope with
  | "config", _ => some .config
  | "weights", _ => some .weights
  | "unit", _ => some .unit
  | "normalize", _ => some .normalize
  | "output", some .score | "output", some .report => some .output
  | "source", some .score | "source", some .report => some .source
  | "return-as", some .score => some .measure
  | "pairs", some .batch => some .pairs
  | _, _ => none

structure Given where
  config : Option String := none
  weights : Option Edit.Weights := none
  unit : Option String := none
  normalize : List String := []
  verbose : Bool := false
  output : Option String := none
  source : Option String := none
  measure : Option String := none
  pairs : Option String := none
  file : Option String := none
deriving DecidableEq, Repr

def once {α : Type} (present : Option α) (value : Except UsageAnswer α) :
    Except UsageAnswer (Option α) :=
  if present.isSome then .error .repeated else value.map some

def pathValue (s : String) : Except UsageAnswer String :=
  if s.isEmpty then .error .missingValue else .ok s

def weightsValue (s : String) : Except UsageAnswer Edit.Weights :=
  match parseWeights s with
  | .error e => .error (.badWeights e)
  | .ok w => .ok w

namespace Given

def put (g : Given) (slot : Slot) (value : String) : Except UsageAnswer Given :=
  match slot with
  | .config => (once g.config (pathValue value)).map fun v => { g with config := v }
  | .weights => (once g.weights (weightsValue value)).map fun v => { g with weights := v }
  | .unit => (once g.unit (.ok value)).map fun v => { g with unit := v }
  | .normalize => .ok { g with normalize := g.normalize ++ [value] }
  | .output => (once g.output (pathValue value)).map fun v => { g with output := v }
  | .source => (once g.source (pathValue value)).map fun v => { g with source := v }
  | .measure => (once g.measure (.ok value)).map fun v => { g with measure := v }
  | .pairs => (once g.pairs (pathValue value)).map fun v => { g with pairs := v }
  | .file => (once g.file (pathValue value)).map fun v => { g with file := v }

def setVerbose (g : Given) : Except UsageAnswer Given :=
  if g.verbose then .error .repeated else .ok { g with verbose := true }

/-- Options for every command, given in front of its name (`g`) and behind it (`behind`). -/
def within (g behind : Given) : Given :=
  { behind with
    config := behind.config.orElse fun _ => g.config
    weights := behind.weights.orElse fun _ => g.weights
    unit := behind.unit.orElse fun _ => g.unit
    normalize := if behind.normalize.isEmpty then g.normalize else behind.normalize
    verbose := g.verbose || behind.verbose }

end Given

inductive Pending where
  | nothing
  | awaiting (slot : Slot)
  | holding (slot : Slot) (value : String)
deriving DecidableEq, Repr

/-- How far a scope has been read. After a bare `--` no argument is an option. -/
structure Progress where
  given : Given := {}
  pending : Pending := .nothing
  fileSeen : Bool := false
  trailing : Bool := false
deriving DecidableEq, Repr

inductive ArgumentShape where
  | separator
  | long (name : String) (value : Option String)
  | letters (cs : List Char)
  | plain
deriving DecidableEq, Repr

def splitLong (s : List Char) : ArgumentShape :=
  let name := s.takeWhile (· != '=')
  .long (String.ofList name)
    (match s.dropWhile (· != '=') with
      | [] => none
      | _ :: value => some (String.ofList value))

def shapeOf (argument : String) : ArgumentShape :=
  match argument.toList with
  | ['-', '-'] => .separator
  | '-' :: '-' :: rest => splitLong rest
  | '-' :: c :: rest => .letters (c :: rest)
  | _ => .plain

namespace Progress

def settle (p : Progress) : Except UsageAnswer Progress :=
  match p.pending with
  | .nothing => .ok p
  | .awaiting _ => .error .missingValue
  | .holding slot value =>
    (p.given.put slot value).map fun g => { p with given := g, pending := .nothing }

def setVerbose (p : Progress) : Except UsageAnswer Progress := do
  let p ← p.settle
  return { p with given := ← p.given.setVerbose }

def answer (p : Progress) (a : UsageAnswer) : Except UsageAnswer Progress := do
  let _ ← p.settle
  .error a

def long (scope : Scope) (p : Progress) (name : String) (value : Option String) :
    Except UsageAnswer Progress :=
  match scope.option? name with
  | some slot =>
    match value with
    | none => do
      let p ← p.settle
      return { p with pending := .awaiting slot }
    | some v => do
      let p ← p.settle
      return { p with given := ← p.given.put slot v }
  | none =>
    if name = "verbose" ∨ name = "help" ∨ (name = "version" ∧ scope = none) then
      if value.isSome then .error .valueForFlag
      else if name = "verbose" then p.setVerbose
      else if name = "help" then p.answer .help
      else p.answer .version
    else .error .unknownArgument

def letters (scope : Scope) (p : Progress) : List Char → Except UsageAnswer Progress
  | [] => .ok p
  | c :: rest =>
    if c = 'v' then do
      let p ← p.setVerbose
      letters scope p rest
    else if c = 'h' then p.answer .help
    else if c = 'V' ∧ scope = none then p.answer .version
    else .error .unknownArgument

/-- An argument that is no option where no option awaits a value. Only one command takes a file. -/
def bare (scope : Scope) (p : Progress) (argument : String) : Except UsageAnswer Progress :=
  if scope = some .words ∧ p.fileSeen = false then do
    let p ← p.settle
    return { p with pending := .holding .file argument, fileSeen := true }
  else .error .unknownArgument

def step (scope : Scope) (p : Progress) (argument : String) : Except UsageAnswer Progress :=
  if p.trailing then p.bare scope argument
  else match shapeOf argument with
    | .separator => .ok { p with trailing := true }
    | .long name value => p.long scope name value
    | .letters cs => p.letters scope cs
    | .plain =>
      match p.pending with
      | .awaiting slot => .ok { p with pending := .holding slot argument }
      | _ => p.bare scope argument

end Progress

structure Options where
  config : Option String
  weights : Option Edit.Weights
  unit : Option String
  normalize : List String
  verbose : Bool
deriving DecidableEq, Repr

inductive Task where
  | score (output source measure : String)
  | words (file : String)
  | report (output source : String)
  | batch (pairs : String)
deriving DecidableEq, Repr

structure Invocation where
  options : Options
  task : Task
deriving DecidableEq, Repr

def Given.options (g : Given) : Options := ⟨g.config, g.weights, g.unit, g.normalize, g.verbose⟩

def Given.task? (g : Given) : CommandName → Option Task
  | .score =>
    match g.output, g.source with
    | some o, some s => some (.score o s (g.measure.getD "score"))
    | _, _ => none
  | .words => g.file.map .words
  | .report =>
    match g.output, g.source with
    | some o, some s => some (.report o s)
    | _, _ => none
  | .batch => g.pairs.map .batch

def readCommand (name : CommandName) (arguments : List String) :
    Except UsageAnswer (Given × Task) := do
  let p ← arguments.foldlM (Progress.step (some name)) {}
  let p ← p.settle
  match p.given.task? name with
  | none => .error .missingArgument
  | some task => return (p.given, task)

def helpAnswer : List String → UsageAnswer
  | [] => .help
  | [name] => if name = "help" ∨ (CommandName.ofName? name).isSome then .help else .unknownCommand
  | _ => .unknownCommand

inductive Leading where
  | command (name : CommandName)
  | help
  | other

def leadingOf (p : Progress) (argument : String) : Leading :=
  match p.trailing, p.pending with
  | true, _ | _, .awaiting _ => .other
  | _, _ =>
    if argument = "help" then .help
    else match CommandName.ofName? argument with
      | some name => .command name
      | none => .other

def stepLeading (p : Progress) (argument : String) : Except UsageAnswer Progress :=
  let isWord := p.trailing ∨ (shapeOf argument = .plain ∧ ¬ p.pending matches .awaiting _)
  if isWord then
    if p.trailing ∧ (argument = "help" ∨ (CommandName.ofName? argument).isSome) then
      .error .unknownArgument
    else .error .unknownCommand
  else p.step none argument

def readLeading (p : Progress) : List String → Except UsageAnswer Invocation
  | [] => do
    let p ← p.settle
    .error (if p.given = {} then .nothingGiven else .missingCommand)
  | argument :: rest =>
    match leadingOf p argument with
    | .help => .error (helpAnswer rest)
    | .command name => do
      let (behind, task) ← readCommand name rest
      let p ← p.settle
      return ⟨(p.given.within behind).options, task⟩
    | .other => do
      let p ← stepLeading p argument
      readLeading p rest

def parseArguments (arguments : List String) : Except UsageAnswer Invocation :=
  readLeading {} arguments

end Fidelity.Command
