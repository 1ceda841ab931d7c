import Fidelity.Bag.Tokenizer
import Fidelity.Proofs.Text.Fragments
import Fidelity.Proofs.Text.LowerForm
import Fidelity.Text.Preparation

/-!
# Tokenizing once more

The characters of a fragment are in lower case, and neither white space nor punctuation that is
stripped. Main statement: fragments with a space between any two are a text of the same fragments,
and a text in lower case has the bag of the text itself.
-/
namespace Fidelity

namespace Text

open Unicode (isWhiteSpace isPunctuation lowercase IsLower)

variable {kept : List Char}

theorem isWord_of_mem_fragments {s : String} {w : List Char}
    (hw : w ∈ (fragments kept s).map String.toList) : IsWord w := by
  have hfragments := isFragmentation_fragments kept s
  exact ⟨hfragments.ne_nil w hw, fun c hc => (hfragments.clean w hw c hc).1⟩

theorem mem_lowercase_of_mem_fragments {s : String} {w : List Char} {c : Char}
    (hw : w ∈ (fragments kept s).map String.toList) (hc : c ∈ w) :
    c ∈ lowercase s.toList ∧ survives kept c = true := by
  have hmem : c ∈ ((fragments kept s).map String.toList).flatten := List.mem_flatten_of_mem hw hc
  rw [(isFragmentation_fragments kept s).flatten] at hmem
  exact List.mem_filter.mp hmem

/-- Nothing is changed in words that are in lower case and lose no punctuation. -/
theorem words_unwords_lowercase {ws : List (List Char)} (hws : ∀ w ∈ ws, IsWord w)
    (hchars : ∀ w ∈ ws, ∀ c ∈ w, IsLower c ∧ survives kept c = true) :
    words (stripPunctuation kept (lowercase (unwords ws))) = ws := by
  have hlower : lowercase (unwords ws) = unwords ws := by
    refine Unicode.lowerFrom_of_isLower (fun c hc => ?_) []
    rcases mem_unwords hc with rfl | ⟨w, hw, hcw⟩
    · exact Unicode.isLower_of_isWhiteSpace Unicode.isWhiteSpace_space
    · exact (hchars w hw c hcw).1
  have hstrip : stripPunctuation kept (unwords ws) = unwords ws := by
    refine List.filter_eq_self.mpr fun c hc => ?_
    rcases mem_unwords hc with rfl | ⟨w, hw, hcw⟩
    · rfl
    · exact (Bool.and_eq_true_iff.mp (hchars w hw c hcw).2).2
  rw [hlower, hstrip, words_unwords hws]

theorem intercalate_eq_unwords (ws : List (List Char)) : [' '].intercalate ws = unwords ws := by
  induction ws with
  | nil => rfl
  | cons w rest ih =>
    cases rest with
    | nil => exact List.intercalate_singleton
    | cons v rest =>
      rw [List.intercalate_cons_cons, ih, unwords_cons_cons, List.append_assoc,
        List.singleton_append]

theorem fragments_intercalate (s : String) :
    fragments kept (" ".intercalate (fragments kept s)) = fragments kept s := by
  have htext : (" ".intercalate (fragments kept s)).toList =
      unwords ((fragments kept s).map String.toList) :=
    String.toList_intercalate.trans (intercalate_eq_unwords _)
  apply List.map_injective_iff.mpr fun _ _ h => String.toList_injective h
  rw [map_toList_fragments, htext]
  refine words_unwords_lowercase (fun w hw => isWord_of_mem_fragments hw) fun w hw c hc => ?_
  obtain ⟨hlower, hsurvives⟩ := mem_lowercase_of_mem_fragments hw hc
  exact ⟨Unicode.isLower_of_mem_lowercase hlower, hsurvives⟩

theorem fragments_lowercase (s : String) :
    fragments kept (Preparation.lowercase.apply s) = fragments kept s := by
  have htext : (Preparation.lowercase.apply s).toList = lowercase s.toList := String.toList_ofList
  rw [fragments, htext, Unicode.lowercase_lowercase]
  rfl

end Text

namespace Tokenizer

theorem fragments_rejoined (t : Tokenizer) (s : String) :
    t.fragments (" ".intercalate (t.fragments s)) = t.fragments s ∧
      t.bag (Text.Preparation.lowercase.apply s) = t.bag s :=
  ⟨Text.fragments_intercalate s, congrArg Bag.ofFragments (Text.fragments_lowercase s)⟩

example : (default : Tokenizer).fragments "ΑΣ!Β ΑΣ.Β" = ["αςβ", "ασβ"] := by decide +kernel

end Tokenizer
end Fidelity
