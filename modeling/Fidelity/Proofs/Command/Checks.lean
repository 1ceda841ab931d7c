import Fidelity.Proofs.Command.Course

/-!
# Checks

What can go wrong with a command is a list of checks, in the order in which the command makes them.
The list follows from the command line, but for a batch, which also checks the files of its listing.
What a command prints where all checks pass is said beside them, file by file. Main statements: of two
lists of checks the second counts if the first passes, both for the failure and for the files read.
-/
namespace Fidelity.Command

def valueOr {ε α : Type} (d : α) : Except ε α → α
  | .ok v => v
  | .error _ => d

def textAt (files : Files) (path : String) : String := valueOr "" (files path)

def configAt (files : Files) (path : String) : Config Float :=
  valueOr .standard (Json.decode Json.configReader (textAt files path))

def listed (files : Files) (path : String) : List Pair :=
  valueOr [] (Json.decode (.listOf Json.pairReader) (textAt files path))

def pairAt (files : Files) (p : Pair) : Pair := ⟨textAt files p.output, textAt files p.source⟩

inductive Check where
  | configRead (path : String)
  | configDecoded (path : String)
  | configValid (path : String)
  | unit (name : String)
  | preparation (name : String)
  | measure (name : String)
  | textRead (path : String)
  | listingDecoded (path : String)

def Check.path? : Check → Option String
  | configRead path | textRead path => some path
  | _ => none

def failed {ε α : Type} (wrap : ε → Failure) : Except ε α → Option Failure
  | .error e => some (wrap e)
  | .ok _ => none

def Check.failure? (files : Files) : Check → Option Failure
  | configRead path => failed (.configUnreadable path) (files path)
  | configDecoded path => failed (.badConfig path) (Json.decode Json.configReader (textAt files path))
  | configValid path =>
    if (configAt files path).isValid then none else some (.betaOutOfRange (configAt files path).beta)
  | unit name => failed .unknownName (Edit.TextUnit.parse name)
  | preparation name => failed .unknownName (Text.Preparation.parse name)
  | measure name => failed .unknownName (Edit.Measure.parse name)
  | textRead path => failed (.textUnreadable path) (files path)
  | listingDecoded path =>
    failed (.badListing path) (Json.decode (.listOf Json.pairReader) (textAt files path))

def firstFailure? (files : Files) (cs : List Check) : Option Failure := cs.findSome? (·.failure? files)

/-- The paths of the checks up to the first one that does not pass. -/
def consulted (files : Files) : List Check → List String
  | [] => []
  | c :: cs => c.path?.toList ++ if (c.failure? files).isSome then [] else consulted files cs

def outcome {α : Type} (files : Files) (cs : List Check) (v : α) : Except Failure α :=
  match firstFailure? files cs with
  | some e => .error e
  | none => .ok v

section

variable {files : Files} {cs : List Check} {α : Type}

theorem outcome_of_some {e : Failure} (h : firstFailure? files cs = some e) (v : α) :
    outcome files cs v = .error e := by
  rw [outcome, h]

theorem outcome_of_none (h : firstFailure? files cs = none) (v : α) :
    outcome files cs v = .ok v := by
  rw [outcome, h]

theorem outcome_eq_ok_iff {u v : α} :
    outcome files cs v = .ok u ↔ firstFailure? files cs = none ∧ v = u := by
  rw [outcome]
  cases firstFailure? files cs <;> simp

theorem firstFailure?_append (cs ds : List Check) :
    firstFailure? files (cs ++ ds) = (firstFailure? files cs).or (firstFailure? files ds) :=
  List.findSome?_append ..

theorem firstFailure?_eq_none_iff :
    firstFailure? files cs = none ↔ ∀ c ∈ cs, c.failure? files = none :=
  List.findSome?_eq_none_iff

theorem eq_ok_of_failed {ε : Type} {wrap : ε → Failure} {x : Except ε α} (d : α)
    (h : failed wrap x = none) : x = .ok (valueOr d x) := by
  cases x with
  | error e => nomatch h
  | ok v => rfl

theorem consulted_append (cs ds : List Check) :
    consulted files (cs ++ ds) = consulted files cs ++
      if (firstFailure? files cs).isSome then [] else consulted files ds := by
  induction cs with
  | nil => rfl
  | cons c cs ih =>
    rw [List.cons_append, consulted, consulted, firstFailure?, List.findSome?_cons, ih]
    cases c.failure? files with
    | some e => simp
    | none => simp [firstFailure?]

end

def configOf (files : Files) (o : Options) : Config Float :=
  let c := o.config.elim .standard (configAt files)
  { c with
    weights := o.weights.getD c.weights
    unit := o.unit.elim c.unit fun name => valueOr c.unit (Edit.TextUnit.parse name)
    preparations :=
      if o.normalize.isEmpty then c.preparations
      else o.normalize.map fun name => valueOr .lowercase (Text.Preparation.parse name) }

def reportOn (c : Config Float) (p : Pair) : Report Float := (Report.evaluate c p.output p.source).value

def resultOf (files : Files) (c : Config Float) : Task → String
  | .score output source measure =>
    let report := reportOn c (pairAt files ⟨output, source⟩)
    match valueOr .score (Edit.Measure.parse measure) with
    | .score => Decimal.fixed Decimal.scorePlaces report.score
    | .distance => toString report.distance.toNat
  | .words file => (Json.ofBag (c.tokenizer.bag (textAt files file))).pretty
  | .report output source => (Json.ofReport (reportOn c (pairAt files ⟨output, source⟩))).pretty
  | .batch pairs =>
    (Json.Value.list ((listed files pairs).map fun p =>
      Json.ofReport (reportOn c (pairAt files p)))).pretty

def configChecks (path : String) : List Check :=
  [.configRead path, .configDecoded path, .configValid path]

def loadChecks (o : Options) : List Check :=
  o.config.elim [] configChecks ++
    (o.unit.elim [] (fun name => [.unit name]) ++ o.normalize.flatMap fun name => [.preparation name])

def pairChecks (p : Pair) : List Check := [.textRead p.output, .textRead p.source]

theorem firstFailure?_configChecks (files : Files) (path : String) :
    firstFailure? files (configChecks path) =
      match files path with
      | .error e => some (.configUnreadable path e)
      | .ok content =>
        match Config.ofJson content with
        | .error (.json e) => some (.badConfig path e)
        | .error (.betaOutOfRange beta) => some (.betaOutOfRange beta)
        | .ok _ => none := by
  rcases hread : files path with e | content
  · simp [firstFailure?, configChecks, Check.failure?, failed, hread]
  · have htext : textAt files path = content := by rw [textAt, hread]; rfl
    rcases hdecode : Json.decode Json.configReader content with e | c
    · simp [firstFailure?, configChecks, Check.failure?, failed, hread, htext, hdecode, Config.ofJson]
    · have hc : configAt files path = c := by rw [configAt, htext, hdecode]; rfl
      cases hvalid : c.isValid <;>
        simp [firstFailure?, configChecks, Check.failure?, failed, hread, htext, hdecode, hc, hvalid,
          Config.ofJson, Config.validate]

theorem configAt_of_ofJson {files : Files} {path content : String} {c : Config Float}
    (hread : files path = .ok content) (hload : Config.ofJson content = .ok c) :
    configAt files path = c := by
  have htext : textAt files path = content := by rw [textAt, hread]; rfl
  rw [configAt, htext]
  rcases hdecode : Json.decode Json.configReader content with e | d
  · simp [Config.ofJson, hdecode] at hload
  · simp only [Config.ofJson, hdecode, Config.validate] at hload
    split_ifs at hload
    cases hload
    rfl

def taskChecks (files : Files) : Task → List Check
  | .score output source measure => .measure measure :: pairChecks ⟨output, source⟩
  | .words file => [.textRead file]
  | .report output source => pairChecks ⟨output, source⟩
  | .batch pairs =>
    .textRead pairs :: .listingDecoded pairs :: (listed files pairs).flatMap pairChecks

def checks (files : Files) (i : Invocation) : List Check :=
  loadChecks i.options ++ taskChecks files i.task

def answer (files : Files) (i : Invocation) : Except Failure String :=
  outcome files (checks files i) (resultOf files (configOf files i.options) i.task)

end Fidelity.Command
