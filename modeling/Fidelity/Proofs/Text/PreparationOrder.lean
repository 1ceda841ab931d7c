import Fidelity.Proofs.Text.LowerForm
import Fidelity.Proofs.Text.Words
import Fidelity.Report

/-!
# The order of preparations

Lower case makes no white space and leaves what there is, and white space bounds what the form of a
sigma depends on: a word has its own lower case, whatever its text. Main statement: it does not
matter whether white space is collapsed before or after a text is put in lower case, neither for the
text nor for any report.
-/
namespace Fidelity

namespace Unicode

theorem images_apart_from_white_space : ∀ r ∈ lowerRuns, ∀ w ∈ whiteSpaceRanges,
    r.image + (r.last - r.first) < w.1 ∨ w.2 < r.image := by
  decide +kernel

theorem isWhiteSpace_image {r : CaseRun} (hr : r ∈ lowerRuns) {n : Nat}
    (hcovers : r.covers n = true) :
    isWhiteSpace (Char.ofNat (r.image + (n - r.first))) = false := by
  have hvalid := (isLowerCode_image hr hcovers).valid
  simp only [CaseRun.covers, Bool.and_eq_true, decide_eq_true_eq] at hcovers
  by_contra hwhite
  rw [Bool.not_eq_false, isWhiteSpace, Char.toNat_ofNat, if_pos hvalid] at hwhite
  obtain ⟨w, hw, hfirst, hlast⟩ := Ranges.exists_of_contains hwhite
  have hapart := images_apart_from_white_space r hr w hw
  omega

theorem isWhiteSpace_of_mem_lowerChar {c d : Char} (hc : isWhiteSpace c = false)
    (hd : d ∈ lowerChar c) : isWhiteSpace d = false := by
  rw [lowerChar] at hd
  split at hd
  · rw [List.mem_cons, List.mem_singleton] at hd
    rcases hd with rfl | rfl <;> decide
  · rw [List.mem_singleton] at hd
    subst hd
    rcases lowerCode_eq_or c.toNat lowerRuns with hsame | ⟨r, hr, hcovers, himage⟩
    · rwa [hsame, Char.ofNat_toNat]
    · rw [himage]
      exact isWhiteSpace_image hr hcovers

theorem isWhiteSpace_lowerSigma (before after : List Char) :
    isWhiteSpace (lowerSigma before after) = false := by
  rw [lowerSigma]
  split <;> decide

theorem isWhiteSpace_of_mem_lowerFrom {before s : List Char}
    (hs : ∀ c ∈ s, isWhiteSpace c = false) {d : Char} (hd : d ∈ lowerFrom before s) :
    isWhiteSpace d = false := by
  induction s generalizing before with
  | nil => cases hd
  | cons c rest ih =>
    rw [List.forall_mem_cons] at hs
    rw [lowerFrom, List.mem_append] at hd
    rcases hd with hd | hd
    · split at hd
      · rw [List.mem_singleton] at hd
        exact hd ▸ isWhiteSpace_lowerSigma before rest
      · exact isWhiteSpace_of_mem_lowerChar hs.1 hd
    · exact ih hs.2 hd

end Unicode

namespace Text

open Unicode (isWhiteSpace lowercase)

theorem IsWord.lowercase {w : List Char} (hw : IsWord w) : IsWord (lowercase w) := by
  refine ⟨List.ne_nil_of_length_pos ?_, fun c hc => Unicode.isWhiteSpace_of_mem_lowerFrom hw.2 hc⟩
  exact (List.length_pos_iff.mpr hw.1).trans_le (Unicode.length_le_length_lowerFrom [] w)

theorem words_lowercase (s : List Char) : words (lowercase s) = (words s).map lowercase := by
  by_cases hwhite : ∃ c ∈ s, isWhiteSpace c = true
  · -- Any white space will do to part the text; both parts are shorter.
    obtain ⟨c, hmem, hc⟩ := hwhite
    obtain ⟨x, y, hs⟩ := List.append_of_mem hmem
    rw [hs, Unicode.lowercase_append_cons hc, words_append_cons hc, words_append_cons hc,
      words_lowercase x, words_lowercase y, List.map_append]
  · rcases eq_or_ne s [] with rfl | hne
    · rfl
    · have hword : IsWord s := ⟨hne, by simpa using hwhite⟩
      rw [words_of_isWord hword, words_of_isWord hword.lowercase, List.map_singleton]
termination_by s.length
decreasing_by
  · rw [hs, List.length_append, List.length_cons]
    omega
  · rw [hs, List.length_append, List.length_cons]
    omega

theorem lowercase_unwords (ws : List (List Char)) :
    lowercase (unwords ws) = unwords (ws.map lowercase) := by
  induction ws with
  | nil => rfl
  | cons w rest ih =>
    cases rest with
    | nil => rfl
    | cons v rest =>
      rw [unwords_cons_cons, Unicode.lowercase_append_cons Unicode.isWhiteSpace_space, ih]
      rfl

theorem collapse_lowercase (s : List Char) : collapse (lowercase s) = lowercase (collapse s) := by
  rw [collapse, words_lowercase, ← lowercase_unwords, collapse]

theorem prepare_append (ps qs : List Preparation) (s : String) :
    prepare (ps ++ qs) s = prepare qs (prepare ps s) :=
  List.foldl_append

theorem prepare_lowercase_collapse (s : String) :
    prepare [.lowercase, .collapseWhitespace] s = prepare [.collapseWhitespace, .lowercase] s := by
  simp only [prepare, List.foldl_cons, List.foldl_nil, Preparation.apply, Preparation.applyChars,
    String.toList_ofList, collapse_lowercase]

theorem prepare_exchanged (before after : List Preparation) (s : String) :
    prepare (before ++ .lowercase :: .collapseWhitespace :: after) s =
      prepare (before ++ .collapseWhitespace :: .lowercase :: after) s := by
  have hsplit (p q : Preparation) : before ++ p :: q :: after = before ++ ([p, q] ++ after) := rfl
  rw [hsplit, hsplit, prepare_append, prepare_append, prepare_append, prepare_append,
    prepare_lowercase_collapse]

end Text

theorem Report.evaluate_congr {α : Type} [Scalar α] (config : Config α)
    {ps qs : List Text.Preparation} (h : ∀ s, Text.prepare ps s = Text.prepare qs s)
    (output source : String) :
    evaluate { config with preparations := ps } output source =
      evaluate { config with preparations := qs } output source := by
  simp only [evaluate, h]
  rfl

namespace Text

/-- Reports are the same in all their fields, and so is what is logged of them. -/
theorem lowercase_and_collapse_in_either_order :
    (∀ s, prepare [.lowercase, .collapseWhitespace] s =
      prepare [.collapseWhitespace, .lowercase] s) ∧
    ∀ {α : Type} [Scalar α] (config : Config α) (before after : List Preparation)
      (output source : String),
      Report.evaluate { config with
          preparations := before ++ .lowercase :: .collapseWhitespace :: after } output source =
        Report.evaluate { config with
          preparations := before ++ .collapseWhitespace :: .lowercase :: after } output source :=
  ⟨prepare_lowercase_collapse, fun config before after output source =>
    Report.evaluate_congr config (prepare_exchanged before after) output source⟩

example : prepare [.collapseWhitespace, .lowercase] "ΟΔΟΣ\u2003 ΟΔΟΣ.Α" = "οδος οδοσ.α" := by
  decide +kernel

end Text
end Fidelity
