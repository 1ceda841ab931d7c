import Fidelity.Proofs.Text.Words
import Fidelity.Text.Fragments

/-!
# What fragments a text has

White space parts the fragments of a text, and punctuation that is stripped does not: the two have
no character in common. Main statement: put end to end, the fragments are the characters of the
text that survive, and two successive survivors are in one fragment just when no white space stood
between them.
-/
namespace Fidelity

namespace Unicode

theorem isPunctuation_of_isWhiteSpace {c : Char} (h : isWhiteSpace c = true) :
    isPunctuation c = false :=
  forall_of_isWhiteSpace (P := fun n => punctuationRanges.contains n = false) (by decide) h

theorem length_lowerChar_le (c : Char) : (lowerChar c).length ≤ 2 := by
  unfold lowerChar
  split <;> simp

theorem length_lowerFrom_le (before s : List Char) :
    (lowerFrom before s).length ≤ 2 * s.length := by
  induction s generalizing before with
  | nil => simp [lowerFrom]
  | cons c rest ih =>
    have hrest := ih (c :: before)
    have hc := length_lowerChar_le c
    rw [lowerFrom, List.length_append, List.length_cons]
    split
    · rw [List.length_singleton]
      omega
    · omega

end Unicode

namespace Text

open Unicode (isWhiteSpace isPunctuation)

def survives (kept : List Char) (c : Char) : Bool :=
  !isWhiteSpace c && (!isPunctuation c || kept.contains c)

/-- The pieces `fs` are the fragments of `text`. Of two successive survivors `a` and `b` the first
stands behind as many others as there are in front of it in the text. -/
structure IsFragmentation (kept text : List Char) (fs : List (List Char)) : Prop where
  ne_nil : ∀ f ∈ fs, f ≠ []
  clean : ∀ f ∈ fs, ∀ c ∈ f, isWhiteSpace c = false ∧ (isPunctuation c = true → c ∈ kept)
  flatten : fs.flatten = text.filter (survives kept)
  together_iff : ∀ before a between b behind, text = before ++ a :: (between ++ b :: behind) →
    survives kept a = true → survives kept b = true → (∀ c ∈ between, survives kept c = false) →
      (TogetherAt fs (before.filter (survives kept)).length ↔
        ∀ c ∈ between, isWhiteSpace c = false)

variable {kept : List Char}

theorem survives_iff {c : Char} :
    survives kept c = true ↔ isWhiteSpace c = false ∧ (isPunctuation c = true → c ∈ kept) := by
  simp [survives, imp_iff_not_or]

theorem withoutWhiteSpace_stripPunctuation (s : List Char) :
    withoutWhiteSpace (stripPunctuation kept s) = s.filter (survives kept) :=
  List.filter_filter

theorem mem_stripPunctuation_of_isWhiteSpace {s : List Char} {c : Char}
    (hc : isWhiteSpace c = true) : c ∈ stripPunctuation kept s ↔ c ∈ s := by
  simp [stripPunctuation, Unicode.isPunctuation_of_isWhiteSpace hc]

theorem stripPunctuation_cons_of_survives {c : Char} (hc : survives kept c = true) (s : List Char) :
    stripPunctuation kept (c :: s) = c :: stripPunctuation kept s := by
  apply List.filter_cons_of_pos
  rw [survives, Bool.and_eq_true] at hc
  exact hc.2

theorem isWhiteSpace_of_mem_stripPunctuation {s : List Char}
    (hs : ∀ c ∈ s, survives kept c = false) {c : Char} (hc : c ∈ stripPunctuation kept s) :
    isWhiteSpace c = true := by
  obtain ⟨hmem, hstays⟩ := List.mem_filter.mp hc
  have hnot := hs c hmem
  rw [survives, hstays, Bool.and_true] at hnot
  simpa using hnot

theorem stripPunctuation_eq_nil_iff {s : List Char} (hs : ∀ c ∈ s, survives kept c = false) :
    stripPunctuation kept s = [] ↔ ∀ c ∈ s, isWhiteSpace c = false := by
  rw [List.eq_nil_iff_forall_not_mem]
  constructor
  · intro h c hc
    by_contra hwhite
    rw [Bool.not_eq_false] at hwhite
    exact h c ((mem_stripPunctuation_of_isWhiteSpace hwhite).mpr hc)
  · intro h c hc
    have hwhite := isWhiteSpace_of_mem_stripPunctuation hs hc
    have hblack := h c ((mem_stripPunctuation_of_isWhiteSpace hwhite).mp hc)
    exact absurd hwhite (by simp [hblack])

theorem isFragmentation_words (kept text : List Char) :
    IsFragmentation kept text (words (stripPunctuation kept text)) where
  ne_nil _ hf := (of_mem_words hf).1
  clean := by
    intro f hf c hc
    have hmem : c ∈ (words (stripPunctuation kept text)).flatten := List.mem_flatten_of_mem hf hc
    have hfilter := flatten_words (stripPunctuation kept text)
    change _ = withoutWhiteSpace _ at hfilter
    rw [hfilter, withoutWhiteSpace_stripPunctuation] at hmem
    exact survives_iff.mp (List.mem_filter.mp hmem).2
  flatten := (flatten_words _).trans (withoutWhiteSpace_stripPunctuation text)
  together_iff := by
    rintro before a between b behind rfl ha hb hbetween
    have hstrip : stripPunctuation kept (before ++ a :: (between ++ b :: behind))
        = stripPunctuation kept before ++
          a :: (stripPunctuation kept between ++ b :: stripPunctuation kept behind) := by
      rw [stripPunctuation_append, stripPunctuation_cons_of_survives ha, stripPunctuation_append,
        stripPunctuation_cons_of_survives hb]
    have hwhite : ∀ c ∈ stripPunctuation kept between, isWhiteSpace c = true :=
      fun c hc => isWhiteSpace_of_mem_stripPunctuation hbetween hc
    rw [hstrip, ← withoutWhiteSpace_stripPunctuation,
      togetherAt_words_iff (survives_iff.mp ha).1 (survives_iff.mp hb).1 hwhite,
      stripPunctuation_eq_nil_iff hbetween]

theorem map_toList_fragments (kept : List Char) (s : String) :
    (fragments kept s).map String.toList
      = words (stripPunctuation kept (Unicode.lowercase s.toList)) := by
  have hread : String.toList ∘ String.ofList = id := funext fun w => String.toList_ofList
  rw [fragments, List.map_map, hread, List.map_id]

theorem isFragmentation_fragments (kept : List Char) (s : String) :
    IsFragmentation kept (Unicode.lowercase s.toList) ((fragments kept s).map String.toList) := by
  rw [map_toList_fragments]
  exact isFragmentation_words kept _

theorem length_fragments_le (kept : List Char) (s : String) :
    (fragments kept s).length ≤ s.length := by
  have hwords := two_mul_length_words_le (stripPunctuation kept (Unicode.lowercase s.toList))
  have hstrip : (stripPunctuation kept (Unicode.lowercase s.toList)).length
      ≤ (Unicode.lowercase s.toList).length := List.length_filter_le ..
  have hlower : (Unicode.lowercase s.toList).length ≤ 2 * s.toList.length :=
    Unicode.length_lowerFrom_le [] s.toList
  rw [String.length_toList] at hlower
  rw [fragments, List.length_map]
  omega

end Text
end Fidelity
