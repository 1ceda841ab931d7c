/-! What two sequences have in common at their ends. -/
namespace Fidelity.Edit

variable {α : Type} [DecidableEq α]

def dropCommonPrefix : List α → List α → List α × List α
  | a :: as, b :: bs => if a = b then dropCommonPrefix as bs else (a :: as, b :: bs)
  | as, bs => (as, bs)

def dropCommonSuffix (as bs : List α) : List α × List α :=
  let cut := dropCommonPrefix as.reverse bs.reverse
  (cut.1.reverse, cut.2.reverse)

/-- The prefix goes first, so a suffix never reaches into it. -/
def dropCommonAffixes (as bs : List α) : List α × List α :=
  let cut := dropCommonPrefix as bs
  dropCommonSuffix cut.1 cut.2

theorem exists_append_dropCommonPrefix (as bs : List α) :
    ∃ p, as = p ++ (dropCommonPrefix as bs).1 ∧ bs = p ++ (dropCommonPrefix as bs).2 := by
  induction as generalizing bs with
  | nil => exact ⟨[], by simp [dropCommonPrefix]⟩
  | cons a as ih =>
    cases bs with
    | nil => exact ⟨[], by simp [dropCommonPrefix]⟩
    | cons b bs =>
      by_cases h : a = b
      · obtain ⟨p, h₁, h₂⟩ := ih bs
        subst h
        refine ⟨a :: p, ?_, ?_⟩
        · simpa [dropCommonPrefix] using h₁
        · simpa [dropCommonPrefix] using h₂
      · exact ⟨[], by simp [dropCommonPrefix, h]⟩

theorem exists_append_dropCommonSuffix (as bs : List α) :
    ∃ p, as = (dropCommonSuffix as bs).1 ++ p ∧ bs = (dropCommonSuffix as bs).2 ++ p := by
  obtain ⟨p, h₁, h₂⟩ := exists_append_dropCommonPrefix as.reverse bs.reverse
  refine ⟨p.reverse, ?_, ?_⟩
  · simpa [dropCommonSuffix] using congrArg List.reverse h₁
  · simpa [dropCommonSuffix] using congrArg List.reverse h₂

end Fidelity.Edit
