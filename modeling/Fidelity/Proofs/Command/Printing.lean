import Fidelity.Proofs.Command.Checks
import Fidelity.Proofs.Decimal.Fixed
import Fidelity.Proofs.Json.BagText
import Fidelity.Proofs.Json.ReportText
import Fidelity.Proofs.Text.ByteOrder

/-!
# What is printed

A score is printed with four places, a distance as a plain number, and all else as JSON that can be read
again. Main statement: where the checks of a task pass, this is what its result is.
-/
namespace Fidelity.Command

open Text (utf8Bytes)

/-- The text is JSON for the entries of the bag, in ascending order of the words. -/
structure Renders (b : Bag) (s : String) : Prop where
  json : ∃ ms, Json.IsTextOf (.object ms) s
  entries : ∃ es, Json.decode (.entries .natural) s = .ok es ∧ es.Perm b.entries ∧
    es.Pairwise fun x y => utf8Bytes x.1 < utf8Bytes y.1

theorem renders_of_isTextOf {b : Bag} {s : String} (h : Json.IsTextOf (Json.ofBag b).tree s) :
    Renders b s where
  json := ⟨_, h⟩
  entries := ⟨b.sorted, (Json.readsAs_ofBag b).decode_eq h, b.sorted_perm,
    b.pairwise_sorted.imp Text.utf8Bytes_lt⟩

def IsReportOn (files : Files) (c : Config Float) (p : Pair) (r : Report Float) : Prop :=
  ∃ output source, files p.output = .ok output ∧ files p.source = .ok source ∧
    r = (Report.evaluate c output source).value

theorem IsReportOn.eq_reportOn {files : Files} {c : Config Float} {p : Pair} {r : Report Float}
    (h : IsReportOn files c p r) : r = reportOn c (pairAt files p) := by
  obtain ⟨output, source, houtput, hsource, rfl⟩ := h
  rw [reportOn, pairAt, textAt, textAt, houtput, hsource]
  rfl

inductive Prints (files : Files) (c : Config Float) : Task → String → Prop
  | score {output source measure text : String} {r : Report Float}
      (hmeasure : Edit.Measure.parse measure = .ok .score)
      (hreport : IsReportOn files c ⟨output, source⟩ r)
      (htext : Decimal.ShowsFixed 4 r.score.toModel.unpack text) :
      Prints files c (.score output source measure) text
  | distance {output source measure : String} {r : Report Float}
      (hmeasure : Edit.Measure.parse measure = .ok .distance)
      (hreport : IsReportOn files c ⟨output, source⟩ r) :
      Prints files c (.score output source measure) (toString r.distance.toNat)
  | words {file content text : String} (hfile : files file = .ok content)
      (htext : Renders (c.tokenizer.bag content) text) : Prints files c (.words file) text
  | report {output source text : String} {r : Report Float}
      (hreport : IsReportOn files c ⟨output, source⟩ r)
      (htext : Json.Shows Json.reportReader (Json.TellsReport r) text) :
      Prints files c (.report output source) text
  | batch {pairs content text : String} {listing : List Pair} {rs : List (Report Float)}
      (hfile : files pairs = .ok content)
      (hlisting : Json.decode (.listOf Json.pairReader) content = .ok listing)
      (hreports : List.Forall₂ (IsReportOn files c) listing rs)
      (htext : Json.Shows (.listOf Json.reportReader) (List.Forall₂ Json.TellsReport rs) text) :
      Prints files c (.batch pairs) text

section

variable {files : Files} {c : Config Float}

theorem isReportOn_of_checks {p : Pair} (h : ∀ k ∈ pairChecks p, k.failure? files = none) :
    IsReportOn files c p (reportOn c (pairAt files p)) := by
  have houtput := h (.textRead p.output) (by simp [pairChecks])
  have hsource := h (.textRead p.source) (by simp [pairChecks])
  exact ⟨_, _, eq_ok_of_failed "" houtput, eq_ok_of_failed "" hsource, rfl⟩

theorem listing_of_checks {path : String}
    (h : ∀ k ∈ taskChecks files (.batch path), k.failure? files = none) :
    files path = .ok (textAt files path) ∧
      Json.decode (.listOf Json.pairReader) (textAt files path) = .ok (listed files path) ∧
      ∀ p ∈ listed files path, IsReportOn files c p (reportOn c (pairAt files p)) := by
  simp only [taskChecks, List.forall_mem_cons, List.forall_mem_flatMap] at h
  obtain ⟨hread, hlisting, hpairs⟩ := h
  exact ⟨eq_ok_of_failed "" hread, eq_ok_of_failed [] hlisting,
    fun p hp => isReportOn_of_checks (hpairs p hp)⟩

theorem readsAs_reports (files : Files) (c : Config Float) (listing : List Pair) :
    Json.ReadsAs (.listOf Json.reportReader)
      (Json.Value.list (listing.map fun p => Json.ofReport (reportOn c (pairAt files p)))).tree
      (.ok (listing.map fun p => Json.shownReport (reportOn c (pairAt files p)))) :=
  Json.readsAs_ofMap (fun p => Json.readsAs_shownReport (reportOn c (pairAt files p))) listing

theorem prints_resultOf {t : Task} (h : ∀ k ∈ taskChecks files t, k.failure? files = none) :
    Prints files c t (resultOf files c t) := by
  cases t with
  | score output source measure =>
    rw [taskChecks, List.forall_mem_cons] at h
    obtain ⟨hmeasure, hpair⟩ := h
    have hmeasure := eq_ok_of_failed Edit.Measure.score hmeasure
    have hreport : IsReportOn files c ⟨output, source⟩ _ := isReportOn_of_checks hpair
    rw [resultOf]
    cases hwanted : valueOr Edit.Measure.score (Edit.Measure.parse measure) with
    | score =>
      rw [hwanted] at hmeasure
      exact .score hmeasure hreport (Decimal.showsFixed_fixed (by decide) _)
    | distance =>
      rw [hwanted] at hmeasure
      exact .distance hmeasure hreport
  | words file =>
    rw [taskChecks, List.forall_mem_singleton] at h
    exact .words (eq_ok_of_failed "" h)
      (renders_of_isTextOf (Json.isTextOf_write (.indented 0) (Json.ofBag _)))
  | report output source =>
    exact .report (isReportOn_of_checks h)
      (Json.shows_pretty (Json.readsAs_shownReport _) (Json.tellsReport_shownReport _))
  | batch path =>
    obtain ⟨hfile, hlisting, hreports⟩ := listing_of_checks (c := c) h
    refine .batch hfile hlisting (List.forall₂_map_right_iff.mpr (List.forall₂_same.mpr hreports)) ?_
    refine Json.shows_pretty (readsAs_reports files c _) ?_
    rw [List.forall₂_map_left_iff, List.forall₂_map_right_iff, List.forall₂_same]
    exact fun p _ => Json.tellsReport_shownReport _

end

end Fidelity.Command
