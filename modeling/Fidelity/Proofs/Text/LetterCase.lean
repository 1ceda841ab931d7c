import Mathlib
import Fidelity.Unicode.LetterCase
import Fidelity.Unicode.WhiteSpace

/-!
# Lower case at white space

The form of a capital sigma depends on the nearest characters that are not case-ignorable, however
far off they are. White space is not case-ignorable, and it is not cased either: the search ends
there as it ends at the end of the text. Main statement: the lower case of a text with white space in
it is put together from the lower cases of the texts on both sides.
-/
namespace Fidelity.Unicode

variable {c : Char}

theorem isCased_of_isWhiteSpace (hc : isWhiteSpace c = true) : isCased c = false :=
  forall_of_isWhiteSpace (P := fun n => casedRanges.contains n = false) (by decide) hc

theorem isCaseIgnorable_of_isWhiteSpace (hc : isWhiteSpace c = true) :
    isCaseIgnorable c = false :=
  forall_of_isWhiteSpace (P := fun n => caseIgnorableRanges.contains n = false) (by decide) hc

theorem lowerChar_of_isWhiteSpace (hc : isWhiteSpace c = true) : lowerChar c = [c] := by
  have hcode : lowerCode c.toNat lowerRuns = c.toNat :=
    forall_of_isWhiteSpace (P := fun n => lowerCode n lowerRuns = n) (by decide) hc
  have hdotted : c ≠ 'İ' := by
    rintro rfl
    revert hc
    decide
  rw [lowerChar, if_neg hdotted, hcode, Char.ofNat_toNat]

theorem ne_sigma_of_isWhiteSpace (hc : isWhiteSpace c = true) : c ≠ 'Σ' := by
  rintro rfl
  revert hc
  decide

theorem meetsCased_append_cons (hc : isWhiteSpace c = true) (x y : List Char) :
    meetsCased (x ++ c :: y) = meetsCased x := by
  induction x with
  | nil =>
    simp [meetsCased, isCaseIgnorable_of_isWhiteSpace hc, isCased_of_isWhiteSpace hc]
  | cons d x ih => rw [List.cons_append, meetsCased, meetsCased, ih]

theorem lowerSigma_append_cons_left (hc : isWhiteSpace c = true) (x y after : List Char) :
    lowerSigma (x ++ c :: y) after = lowerSigma x after := by
  rw [lowerSigma, lowerSigma, meetsCased_append_cons hc]

theorem lowerSigma_append_cons_right (hc : isWhiteSpace c = true) (before x y : List Char) :
    lowerSigma before (x ++ c :: y) = lowerSigma before x := by
  rw [lowerSigma, lowerSigma, meetsCased_append_cons hc]

/-- What stands before white space is not looked at from behind it. -/
theorem lowerFrom_append_cons (hc : isWhiteSpace c = true) (x y s : List Char) :
    lowerFrom (x ++ c :: y) s = lowerFrom x s := by
  induction s generalizing x with
  | nil => rfl
  | cons d s ih =>
    rw [lowerFrom, lowerFrom, lowerSigma_append_cons_left hc, ← List.cons_append, ih]

theorem lowerFrom_white_space (hc : isWhiteSpace c = true) (before x y : List Char) :
    lowerFrom before (x ++ c :: y) = lowerFrom before x ++ c :: lowercase y := by
  induction x generalizing before with
  | nil =>
    have hbehind : lowerFrom (c :: before) y = lowercase y := lowerFrom_append_cons hc [] before y
    rw [List.nil_append, lowerFrom_cons_of_ne_sigma (ne_sigma_of_isWhiteSpace hc),
      lowerChar_of_isWhiteSpace hc, hbehind]
    rfl
  | cons d x ih =>
    rw [List.cons_append, lowerFrom, lowerFrom, lowerSigma_append_cons_right hc, ih,
      List.append_assoc]

theorem lowercase_append_cons (hc : isWhiteSpace c = true) (x y : List Char) :
    lowercase (x ++ c :: y) = lowercase x ++ c :: lowercase y :=
  lowerFrom_white_space hc [] x y

/-- A full stop does not end the search. -/
example : String.ofList (lowercase "ΟΔΟΣ ΟΔΟΣ.Α".toList) = "οδος οδοσ.α" := by
  decide +kernel

end Fidelity.Unicode
