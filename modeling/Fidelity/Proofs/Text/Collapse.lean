import Fidelity.Proofs.Report.Lengths
import Fidelity.Proofs.Text.Words

/-!
# Collapsed white space

Collapsing keeps the words of a text and leaves one space between any two, so that nothing but its
words can be told from a collapsed text. Main statement: texts have the same words just when they
are equal once collapsed, and so just when they are reported to be at no distance if every edit
costs something.
-/
namespace Fidelity

namespace Text

open Unicode (isWhiteSpace)

def piecesOf (s : String) : List (List Char) :=
  (s.toList.splitOnP isWhiteSpace).filter (!·.isEmpty)

/-- White space stands between other characters only, as single spaces. -/
structure IsCollapsed (s : List Char) : Prop where
  head : ∀ c ∈ s.head?, isWhiteSpace c = false
  last : ∀ c ∈ s.getLast?, isWhiteSpace c = false
  apart : s.IsChain fun c d => isWhiteSpace c = false ∨ isWhiteSpace d = false
  spaces : ∀ c ∈ s, isWhiteSpace c = true → c = ' '

/-- Every text has a form that it shares with the texts of the same words. -/
structure IsCanonical (form : String → String) : Prop where
  pieces : ∀ s, piecesOf (form s) = piecesOf s
  collapsed : ∀ s, IsCollapsed (form s).toList
  idem : ∀ s, form (form s) = form s
  eq_iff : ∀ s t, form s = form t ↔ piecesOf s = piecesOf t

theorem wordsFrom_eq_filter (held s : List Char) :
    wordsFrom held s =
      ((s.splitOnP isWhiteSpace).modifyHead (held.reverse ++ ·)).filter (!·.isEmpty) := by
  induction s generalizing held with
  | nil => cases held <;> simp [wordsFrom]
  | cons c s ih =>
    have hnone : wordsFrom [] s = (s.splitOnP isWhiteSpace).filter (!·.isEmpty) := by
      rw [ih]
      exact congrArg _ (congrFun List.modifyHead_id _)
    rw [wordsFrom, List.splitOnP_cons_eq_if_modifyHead, hnone]
    by_cases hc : isWhiteSpace c = true
    · cases held <;> simp [hc]
    · rw [if_neg hc, if_neg hc, ih, List.modifyHead_modifyHead]
      simp [Function.comp_def]

theorem words_eq_piecesOf (s : String) : words s.toList = piecesOf s := by
  rw [words, wordsFrom_eq_filter]
  exact congrArg _ (congrFun List.modifyHead_id _)

theorem IsWord.isCollapsed {w : List Char} (hw : IsWord w) : IsCollapsed w where
  head c hc := hw.2 c (List.mem_of_mem_head? hc)
  last c hc := hw.2 c (List.mem_of_mem_getLast? hc)
  apart := (List.pairwise_of_forall_mem_list fun c hc _ _ => .inl (hw.2 c hc)).isChain
  spaces c hc hwhite := absurd hwhite (by simp [hw.2 c hc])

theorem IsCollapsed.append {w s : List Char} (hw : IsWord w) (hs : IsCollapsed s) (hne : s ≠ []) :
    IsCollapsed (w ++ ' ' :: s) where
  head c hc := by
    rw [List.head?_append_of_ne_nil _ hw.1] at hc
    exact hw.isCollapsed.head c hc
  last c hc := by
    rw [List.getLast?_append_of_ne_nil _ (List.cons_ne_nil _ _),
      List.getLast?_cons_of_ne_nil hne] at hc
    exact hs.last c hc
  apart := by
    have hbehind : (' ' :: s).IsChain fun c d => isWhiteSpace c = false ∨ isWhiteSpace d = false :=
      List.isChain_cons.mpr ⟨fun d hd => .inr (hs.head d hd), hs.apart⟩
    exact List.isChain_append.mpr
      ⟨hw.isCollapsed.apart, hbehind, fun c hc _ _ => .inl (hw.isCollapsed.last c hc)⟩
  spaces c hc hwhite := by
    rw [List.mem_append, List.mem_cons] at hc
    rcases hc with hword | hspace | hrest
    · exact hw.isCollapsed.spaces c hword hwhite
    · exact hspace
    · exact hs.spaces c hrest hwhite

theorem isCollapsed_unwords {ws : List (List Char)} (h : ∀ w ∈ ws, IsWord w) :
    IsCollapsed (unwords ws) := by
  induction ws with
  | nil => constructor <;> simp [unwords]
  | cons w rest ih =>
    rw [List.forall_mem_cons] at h
    obtain ⟨hw, hrest⟩ := h
    cases rest with
    | nil => exact hw.isCollapsed
    | cons v rest =>
      have hne : unwords (v :: rest) ≠ [] := by
        intro hnil
        have hread := words_unwords hrest
        rw [hnil] at hread
        exact List.cons_ne_nil v rest hread.symm
      rw [unwords_cons_cons]
      exact (ih hrest).append hw hne

theorem words_collapse (s : List Char) : words (collapse s) = words s :=
  words_unwords fun _ hw => of_mem_words hw

theorem collapse_eq_collapse_iff (s t : List Char) :
    collapse s = collapse t ↔ words s = words t := by
  constructor
  · intro h
    rw [← words_collapse s, ← words_collapse t, h]
  · exact congrArg unwords

theorem toList_collapseWhitespace (s : String) :
    (Preparation.collapseWhitespace.apply s).toList = collapse s.toList :=
  String.toList_ofList

theorem piecesOf_collapseWhitespace (s : String) :
    piecesOf (Preparation.collapseWhitespace.apply s) = piecesOf s := by
  rw [← words_eq_piecesOf, ← words_eq_piecesOf, toList_collapseWhitespace, words_collapse]

theorem collapseWhitespace_eq_iff (s t : String) :
    Preparation.collapseWhitespace.apply s = Preparation.collapseWhitespace.apply t ↔
      piecesOf s = piecesOf t := by
  rw [← String.toList_inj, toList_collapseWhitespace, toList_collapseWhitespace,
    collapse_eq_collapse_iff, words_eq_piecesOf, words_eq_piecesOf]

theorem isCanonical_collapse : IsCanonical Preparation.collapseWhitespace.apply where
  pieces := piecesOf_collapseWhitespace
  collapsed s := by
    rw [toList_collapseWhitespace]
    exact isCollapsed_unwords fun _ hw => of_mem_words hw
  idem s := (collapseWhitespace_eq_iff _ s).mpr (piecesOf_collapseWhitespace s)
  eq_iff := collapseWhitespace_eq_iff

end Text

theorem Report.distance_eq_zero_iff {α : Type} [Scalar α] {config : Config α}
    (hpreparations : config.preparations = [.collapseWhitespace])
    (hweights : config.weights.Positive) (output source : String) :
    (evaluate config output source).value.distance = .zero ↔
      Text.piecesOf output = Text.piecesOf source := by
  rw [value_distance,
    Edit.cutDistance_eq_zero_iff hweights fun _ _ h => config.unit.units_injective h, hpreparations]
  exact Text.collapseWhitespace_eq_iff output source

theorem Text.collapse_is_canonical :
    IsCanonical Preparation.collapseWhitespace.apply ∧
      ∀ {α : Type} [Scalar α] (config : Config α), config.preparations = [.collapseWhitespace] →
        config.weights.Positive → ∀ output source : String,
          (Report.evaluate config output source).value.distance = .zero ↔
            piecesOf output = piecesOf source :=
  ⟨isCanonical_collapse, fun _ => Report.distance_eq_zero_iff⟩

def Config.collapsing : Config ℚ := { Config.standard with preparations := [.collapseWhitespace] }

theorem Text.collapse_is_canonical_em_space :
    Config.collapsing.preparations = [.collapseWhitespace] ∧ Config.collapsing.weights.Positive ∧
      (Report.evaluate Config.collapsing "\u2003the \n dog" "the dog ").value.distance = .zero ∧
      (Report.evaluate Config.collapsing "the dog" "thedog").value.distance ≠ .zero := by
  have hpreparations : Config.collapsing.preparations = [.collapseWhitespace] := rfl
  have hweights : Config.collapsing.weights.Positive := by constructor <;> decide
  have hzero := collapse_is_canonical.2 Config.collapsing hpreparations hweights
  refine ⟨hpreparations, hweights, (hzero _ _).mpr ?_, fun h => ?_⟩
  · decide +kernel
  · have hpieces := (hzero _ _).mp h
    revert hpieces
    decide +kernel

end Fidelity
