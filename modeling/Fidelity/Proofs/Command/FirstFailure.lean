import Fidelity.Command.Folder
import Fidelity.Proofs.Command.Printing

/-!
# The first failure

Every part of a session makes some of the checks, and has a value that depends on the files alone where
they pass. Main statement: a command fails with the failure of the first check that does not pass and
prints nothing then, or prints the one text that the files call for; and no file counts but those that
are read for the checks up to the first failure.
-/
namespace Fidelity.Command

variable {m : Type → Type} [Monad m] [LawfulMonad m] {α β : Type} {visit : String → m Unit}
  {files : Files}

/-- The session `x` makes the checks `cs` and has the value `v` if they pass. -/
def Makes (visit : String → m Unit) (files : Files) (x : Session m α) (cs : List Check) (v : α) :
    Prop :=
  ComesTo visit x (consulted files cs) (outcome files cs v)

theorem makes_pure (v : α) : Makes visit files (pure v) [] v := comesTo_pure v

theorem makes_logged (y : Logged Float α) : Makes visit files (logged y) [] y.value :=
  comesTo_logged y

theorem Makes.bind {x : Session m α} {f : α → Session m β} {c d : List Check} {v : α} {u : β}
    (hx : Makes visit files x c v) (hf : Makes visit files (f v) d u) :
    Makes visit files (x >>= f) (c ++ d) u := by
  rw [Makes] at hx hf ⊢
  rw [consulted_append]
  cases h : firstFailure? files c with
  | some e =>
    have hall : firstFailure? files (c ++ d) = some e := by rw [firstFailure?_append, h]; rfl
    rw [outcome_of_some h] at hx
    rw [outcome_of_some hall]
    simpa using hx.bind_error
  | none =>
    have hall : firstFailure? files (c ++ d) = firstFailure? files d := by
      rw [firstFailure?_append, h]
      rfl
    rw [outcome_of_none h] at hx
    rw [outcome, hall]
    exact hx.bind hf

theorem Makes.bind_unchecked {x : Session m α} {f : α → Session m β} {c : List Check} {v : α} {u : β}
    (hx : Makes visit files x c v) (hf : Makes visit files (f v) [] u) :
    Makes visit files (x >>= f) c u := by
  have h := hx.bind hf
  rwa [List.append_nil] at h

theorem Makes.map {x : Session m α} {c : List Check} {v : α} (hx : Makes visit files x c v)
    (f : α → β) : Makes visit files (do return f (← x)) c (f v) :=
  hx.bind_unchecked (makes_pure (f v))

theorem makes_mapM {x : α → Session m β} {cs : α → List Check} {v : α → β}
    (h : ∀ a, Makes visit files (x a) (cs a) (v a)) (as : List α) :
    Makes visit files (as.mapM x) (as.flatMap cs) (as.map v) := by
  induction as with
  | nil => exact makes_pure []
  | cons a as ih =>
    rw [List.mapM_cons, List.flatMap_cons, List.map_cons]
    exact (h a).bind (ih.map (v a :: ·))

omit [LawfulMonad m] in
theorem makes_check {x : Session m α} {c : Check} {v : α} (hpath : c.path? = none)
    (h : ComesTo visit x [] (outcome files [c] v)) : Makes visit files x [c] v := by
  have hpaths : consulted files [c] = [] := by simp [consulted, hpath]
  rw [Makes, hpaths]
  exact h

theorem makes_named {c : Check} {x : Except UnknownName α} (d : α) (hpath : c.path? = none)
    (hc : c.failure? files = failed .unknownName x) :
    Makes visit files (named x) [c] (valueOr d x) := by
  apply makes_check hpath
  rw [outcome, firstFailure?, List.findSome?_singleton, hc]
  cases x with
  | error e => exact comesTo_throw _
  | ok v => exact comesTo_pure v

theorem consulted_of_path? {c : Check} {cs : List Check} {path : String} (hc : c.path? = some path)
    (hcs : ∀ d ∈ cs, d.path? = none) : consulted files (c :: cs) = [path] := by
  have hrest : consulted files cs = [] := by
    induction cs with
    | nil => rfl
    | cons d cs ih =>
      rw [List.forall_mem_cons] at hcs
      rw [consulted, hcs.1, ih hcs.2]
      simp
  rw [consulted, hc, hrest]
  simp

theorem makes_visiting {f : Except ReadFault String → Session m α} {c : Check} {cs : List Check}
    {path : String} {v : α} (hc : c.path? = some path) (hcs : ∀ d ∈ cs, d.path? = none)
    (h : ComesTo visit (f (files path)) [] (outcome files (c :: cs) v)) :
    Makes visit files (do f (← (visiting visit files path : m _))) (c :: cs) v := by
  rw [Makes, consulted_of_path? hc hcs]
  exact (comesTo_visiting files path).bind h

theorem makes_readText (path : String) :
    Makes visit files (readText (visiting visit files) path) [.textRead path]
      (textAt files path) := by
  apply makes_visiting (m := m) (c := .textRead path) rfl (by simp)
  simp only [outcome, firstFailure?, List.findSome?_singleton, Check.failure?, textAt]
  cases files path with
  | error e => exact comesTo_throw _
  | ok content => exact comesTo_pure content

theorem makes_readConfig (path : String) :
    Makes visit files (readConfig (visiting visit files) path) (configChecks path)
      (configAt files path) := by
  have hlater : ∀ d ∈ [Check.configDecoded path, .configValid path], d.path? = none := by
    simp [Check.path?]
  apply makes_visiting (m := m) (c := .configRead path) rfl hlater
  change ComesTo visit _ [] (outcome files (configChecks path) _)
  rw [outcome, firstFailure?_configChecks]
  cases hread : files path with
  | error e => exact comesTo_throw _
  | ok content =>
    refine ComesTo.bind (comesTo_record [.configLoaded path]) ?_ (q := [])
    dsimp only
    rcases hload : Config.ofJson content with (e | beta) | c
    · exact comesTo_throw _
    · exact comesTo_throw _
    · rw [configAt_of_ofJson hread hload]
      exact comesTo_pure c

theorem makes_readListing (path : String) :
    Makes visit files (readListing (visiting visit files) path)
      [.textRead path, .listingDecoded path] (listed files path) := by
  refine (makes_readText path).bind (d := [.listingDecoded path]) ?_
  apply makes_check rfl
  simp only [outcome, firstFailure?, List.findSome?_singleton, Check.failure?, listed]
  cases Json.decode (.listOf Json.pairReader) (textAt files path) with
  | error e => exact comesTo_throw _
  | ok pairs => exact comesTo_pure pairs

theorem makes_readPair (p : Pair) :
    Makes visit files (readPair (visiting visit files) p) (pairChecks p) (pairAt files p) := by
  refine (makes_readText p.output).bind (d := [.textRead p.source]) ?_
  exact (makes_readText p.source).map (Pair.mk (textAt files p.output))

theorem makes_elim {f : β → Session m α} {c : β → List Check} {v : β → α} (d : α)
    (h : ∀ b, Makes visit files (f b) (c b) (v b)) (o : Option β) :
    Makes visit files (o.elim (pure d) f) (o.elim [] c) (o.elim d v) := by
  cases o with
  | none => exact makes_pure d
  | some b => exact h b

theorem loadConfig_eq (read : FileReader m) (o : Options) :
    loadConfig read o = do
      let c ← o.config.elim (pure Config.standard) (readConfig read)
      let u ← o.unit.elim (pure c.unit) fun name => named (Edit.TextUnit.parse name)
      let ps ← (if o.normalize.isEmpty then pure c.preparations
        else o.normalize.mapM fun name => named (Text.Preparation.parse name))
      return { c with weights := o.weights.getD c.weights, unit := u, preparations := ps } := by
  obtain ⟨config, weights, unit, normalize⟩ := o
  cases config <;> cases weights <;> cases unit <;> cases h : normalize.isEmpty <;>
    simp [loadConfig, h]

theorem makes_preparations (c : Config Float) (names : List String) :
    Makes visit files
      (if names.isEmpty then pure c.preparations
        else names.mapM fun name => named (Text.Preparation.parse name))
      (names.flatMap fun name => [.preparation name])
      (if names.isEmpty then c.preparations
        else names.map fun name => valueOr .lowercase (Text.Preparation.parse name)) := by
  cases names with
  | nil => exact makes_pure _
  | cons name names =>
    exact makes_mapM (fun name => makes_named Text.Preparation.lowercase rfl rfl) _

theorem makes_loadConfig (o : Options) :
    Makes visit files (loadConfig (visiting visit files) o) (loadChecks o) (configOf files o) := by
  rw [loadConfig_eq]
  apply (makes_elim _ makes_readConfig o.config).bind
  apply (makes_elim _ (fun name => makes_named _ rfl rfl) o.unit).bind
  exact (makes_preparations _ o.normalize).map _

theorem makes_reported (p : Pair) (c : Config Float) {f : Report Float → Session m α} {v : α}
    (hf : Makes visit files (f (reportOn c (pairAt files p))) [] v) :
    Makes visit files (do
      let p ← readPair (visiting visit files) p
      let report ← logged (Report.evaluate c p.output p.source)
      f report) (pairChecks p) v :=
  (makes_readPair p).bind_unchecked ((makes_logged _).bind_unchecked hf)

theorem makes_perform (c : Config Float) (t : Task) :
    Makes visit files (perform (visiting visit files) c t) (taskChecks files t)
      (resultOf files c t) := by
  cases t with
  | score output source measure =>
    apply (makes_named .score rfl rfl).bind (c := [.measure measure])
    apply makes_reported
    simp only [resultOf]
    cases valueOr Edit.Measure.score (Edit.Measure.parse measure) <;> exact makes_pure _
  | words file =>
    apply (makes_readText file).bind_unchecked
    exact (makes_logged _).map fun bag => (Json.ofBag bag).pretty
  | report output source => exact makes_reported ⟨output, source⟩ c (makes_pure _)
  | batch pairs =>
    apply (makes_readListing pairs).bind
    apply (makes_mapM makes_readPair (listed files pairs)).bind_unchecked
    apply (makes_logged _).bind_unchecked
    have hvalue : (Report.evaluateBatch c ((listed files pairs).map (pairAt files))).value =
        (listed files pairs).map fun p => reportOn c (pairAt files p) := by
      rw [Report.value_evaluateBatch, List.map_map]
      rfl
    rw [hvalue]
    simp only [resultOf, List.map_map, Function.comp_def]
    split
    · exact makes_pure _
    · exact (comesTo_record _).bind (makes_pure _)

theorem makes_session (i : Invocation) :
    Makes visit files (session (visiting visit files) i) (checks files i)
      (resultOf files (configOf files i.options) i.task) :=
  (makes_loadConfig i.options).bind (makes_perform _ i.task)

theorem run_visiting (visit : String → m Unit) (files : Files) (i : Invocation) :
    ∃ events, run (visiting visit files) i = do
      forM (consulted files (checks files i)) visit
      return (answer files i, events) := by
  have hmakes : Makes visit files (session (visiting visit files) i) _ _ := makes_session i
  obtain ⟨events, h⟩ := hmakes
  exact ⟨events, h []⟩

def runOn (files : Files) (i : Invocation) : Except Failure String := (Id.run (run files i)).1

def readsOf (files : Files) (i : Invocation) : List String :=
  ((run (visiting (fun path => (modify (· ++ [path]) : StateM (List String) Unit)) files) i).run []).2

theorem forM_eq_pure {paths : List String} (h : ∀ path ∈ paths, visit path = pure ()) :
    forM paths visit = pure () := by
  induction paths with
  | nil => simp
  | cons path paths ih =>
    rw [List.forall_mem_cons] at h
    simp [h.1, ih h.2]

theorem runOn_eq_answer (files : Files) (i : Invocation) : runOn files i = answer files i := by
  obtain ⟨events, h⟩ := run_visiting (m := Id) (fun _ => pure ()) files i
  rw [forM_eq_pure (fun _ _ => rfl)] at h
  exact congrArg (fun x => (Id.run x).1) h

theorem run_forM_append (paths log : List String) :
    (forM paths fun path => (modify (· ++ [path]) : StateM (List String) Unit)).run log =
      pure ((), log ++ paths) := by
  induction paths generalizing log with
  | nil => simp
  | cons path paths ih => simp [ih]

theorem readsOf_eq_consulted (files : Files) (i : Invocation) :
    readsOf files i = consulted files (checks files i) := by
  obtain ⟨events, h⟩ := run_visiting
    (fun path => (modify (· ++ [path]) : StateM (List String) Unit)) files i
  rw [readsOf, h, StateT.run_bind, run_forM_append]
  rfl

theorem runOn_congr {files files' : Files} {i : Invocation}
    (hagree : ∀ path ∈ consulted files (checks files i), files' path = files path) :
    runOn files' i = runOn files i := by
  let visit (path : String) : Option Unit := guard (path ∈ consulted files (checks files i))
  have hread : visiting visit files' = visiting visit files := by
    funext path
    by_cases hpath : path ∈ consulted files (checks files i)
    · rw [visiting, visiting, hagree path hpath]
    · simp [visiting, visit, hpath]
  have hvisit : ∀ path ∈ consulted files (checks files i), visit path = pure () :=
    fun path hpath => if_pos hpath
  obtain ⟨events, h⟩ := run_visiting visit files i
  obtain ⟨events', h'⟩ := run_visiting visit files' i
  rw [forM_eq_pure hvisit, pure_bind] at h
  rw [hread, h] at h'
  obtain ⟨-, -, hanswer⟩ := Option.bind_eq_some_iff.mp h'.symm
  rw [runOn_eq_answer, runOn_eq_answer]
  exact congrArg Prod.fst (Option.some.inj hanswer)

/-- What a run comes to. The reports of a batch can be read in what it prints, one for each pair. -/
structure EndsAtFirstFailure (files : Files) (i : Invocation) : Prop where
  failure : ∀ e, firstFailure? files (checks files i) = some e →
    runOn files i = .error e ∧ stdout (runOn files i) = ""
  success : firstFailure? files (checks files i) = none →
    ∃ text, runOn files i = .ok text ∧ stdout (runOn files i) = text ++ "\n" ∧
      Prints files (configOf files i.options) i.task text
  batch : ∀ path text, i.task = .batch path → runOn files i = .ok text →
    ∃ content listing shown, files path = .ok content ∧
      Json.decode (.listOf Json.pairReader) content = .ok listing ∧
      Json.decode (.listOf Json.reportReader) (stdout (runOn files i)) = .ok shown ∧
      List.Forall₂ (fun p n => ∃ r, IsReportOn files (configOf files i.options) p r ∧
        Json.TellsReport r n) listing shown
  reads : readsOf files i = consulted files (checks files i)
  unread : ∀ files' : Files,
    (∀ path ∈ consulted files (checks files i), files' path = files path) →
      runOn files' i = runOn files i

theorem run_endsAtFirstFailure (files : Files) (i : Invocation) : EndsAtFirstFailure files i where
  failure e he := by
    rw [runOn_eq_answer, answer, outcome_of_some he]
    exact ⟨rfl, rfl⟩
  success h := by
    rw [runOn_eq_answer, answer, outcome_of_none h]
    rw [checks, firstFailure?_eq_none_iff, List.forall_mem_append] at h
    exact ⟨_, rfl, rfl, prints_resultOf h.2⟩
  batch path text htask htext := by
    rw [runOn_eq_answer] at htext ⊢
    rw [htext]
    rw [answer, outcome_eq_ok_iff, checks, firstFailure?_eq_none_iff, List.forall_mem_append,
      htask] at htext
    obtain ⟨⟨-, hpassed⟩, rfl⟩ := htext
    obtain ⟨hfile, hlisting, hreports⟩ := listing_of_checks hpassed
    have hdecode := (readsAs_reports files (configOf files i.options) (listed files path)).decode_eq
      (Json.isTextOf_pretty_newline _)
    refine ⟨_, _, _, hfile, hlisting, hdecode, ?_⟩
    rw [List.forall₂_map_right_iff, List.forall₂_same]
    exact fun p hp => ⟨_, hreports p hp, Json.tellsReport_shownReport _⟩
  reads := readsOf_eq_consulted files i
  unread _ hagree := runOn_congr hagree

def shelf (last : Entry) : Folder where
  entries := [
    ("a", .file "one two".toUTF8),
    ("b", .file "one".toUTF8),
    ("d", last),
    ("gap", .file "[[\"a\", \"b\"], [\"c\", \"d\"]]".toUTF8),
    ("eight", .file ("[[\"a\", \"b\"], [\"b\", \"a\"], [\"a\", \"a\"], [\"b\", \"b\"]," ++
      "[\"./a\", \"b\"], [\"./b\", \"a\"], [\"./a\", \"a\"], [\"./b\", \"b\"]]").toUTF8)]

def batchOf (listing : String) : Invocation := ⟨⟨none, none, none, [], false⟩, .batch listing⟩

theorem run_endsAtFirstFailure_shelf :
    runOn (shelf .folder).read (batchOf "gap") = .error (.textUnreadable "c" .notFound) ∧
      stdout (runOn (shelf .folder).read (batchOf "gap")) = "" ∧
      readsOf (shelf .folder).read (batchOf "gap") = ["gap", "a", "b", "c"] ∧
      runOn (shelf (.file ⟨#[0xff]⟩)).read (batchOf "gap") =
        .error (.textUnreadable "c" .notFound) ∧
      ∃ text shown, runOn (shelf .folder).read (batchOf "eight") = .ok text ∧
        stdout (runOn (shelf .folder).read (batchOf "eight")) = text ++ "\n" ∧
        Json.decode (.listOf Json.reportReader) (text ++ "\n") = .ok shown ∧
        shown.map (·.distance.toNat) = [4, 8, 0, 0, 4, 8, 0, 0] := by
  have hends (listing : String) := run_endsAtFirstFailure (shelf .folder).read (batchOf listing)
  have hread : consulted (shelf .folder).read (checks (shelf .folder).read (batchOf "gap")) =
      ["gap", "a", "b", "c"] := by decide +kernel
  have hfailure := (hends "gap").failure (.textUnreadable "c" .notFound) (by decide +kernel)
  refine ⟨hfailure.1, hfailure.2, (hends "gap").reads.trans hread, ?_, ?_⟩
  · rw [(hends "gap").unread, hfailure.1]
    rw [hread]
    decide +kernel
  · obtain ⟨text, htext, hstdout, -⟩ := (hends "eight").success (by decide +kernel)
    obtain ⟨content, listing, shown, hcontent, hlisting, hshown, hreports⟩ :=
      (hends "eight").batch "eight" text rfl htext
    have hlisted : listed (shelf .folder).read "eight" = listing := by
      rw [listed, textAt, hcontent, valueOr, hlisting]
      rfl
    have hdistances : listing.map (fun p => (reportOn .standard
        (pairAt (shelf .folder).read p)).distance.toNat) = shown.map (·.distance.toNat) := by
      rw [← List.forall₂_eq_eq_eq, List.forall₂_map_left_iff, List.forall₂_map_right_iff]
      refine hreports.imp ?_
      rintro p n ⟨r, hr, hn⟩
      rw [hn.distance, hr.eq_reportOn]
      rfl
    refine ⟨text, shown, htext, hstdout, hstdout ▸ hshown, hdistances.symm.trans ?_⟩
    rw [← hlisted]
    decide +kernel

end Fidelity.Command
