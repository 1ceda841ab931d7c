import Fidelity.Bag.Tokenizer
import Fidelity.Proofs.Bag.Balance
import Fidelity.Proofs.Bag.Standing
import Fidelity.Proofs.Text.Fragments

/-!
# The bag of a text

A bag of fragments holds some of them, each as often as it stands among them. Main statement: the
words of a text's bag are fragments of the text, so they are as clean as these, and they are no more.
-/
namespace Fidelity

namespace Bag

theorem keptAfter_sublist (left : Bool) (fs : List String) : (keptAfter left fs).Sublist fs := by
  induction fs generalizing left with
  | nil => exact List.Sublist.slnil
  | cons f rest ih =>
    rw [keptAfter]
    split
    · exact (ih _).cons_cons f
    · exact (ih _).cons f

theorem kept_sift_sublist (fs : List String) : (sift fs).kept.Sublist fs := by
  have hkept : (sift fs).kept = keptAfter false fs := by simpa [sift] using kept_siftFrom [] fs
  rw [hkept]
  exact keptAfter_sublist false fs

theorem mem_words_ofFragments_iff_mem_kept {fs : List String} {w : String} :
    w ∈ (ofFragments fs).words ↔ w ∈ (sift fs).kept := by
  rw [mem_words_ofFragments, ← count_kept, List.count_pos_iff]

theorem mem_of_mem_words_ofFragments {fs : List String} {w : String}
    (h : w ∈ (ofFragments fs).words) : w ∈ fs :=
  (kept_sift_sublist fs).subset (mem_words_ofFragments_iff_mem_kept.mp h)

theorem count_ofFragments_pos {fs : List String} (hfs : fs.length < 2 ^ 64) {w : String}
    (h : w ∈ (ofFragments fs).words) : 1 ≤ ((ofFragments fs).count w).toNat := by
  rw [toNat_count_ofFragments hfs]
  exact mem_words_ofFragments.mp h

theorem exactTotal_ofFragments (fs : List String) :
    (ofFragments fs).exactTotal =
      ∑ w ∈ (sift fs).kept.toFinset, (sift fs).kept.count w % 2 ^ 64 := by
  have hwords : ∀ w ∈ (ofFragments fs).words, w ∈ (sift fs).kept.toFinset := by
    intro w hw
    rw [List.mem_toFinset]
    exact mem_words_ofFragments_iff_mem_kept.mp hw
  rw [exactTotal_eq_sum _ hwords]
  refine Finset.sum_congr rfl fun w _ => ?_
  rw [count_ofFragments, UInt64.toNat_ofNat', count_kept]

theorem exactTotal_ofFragments_le (fs : List String) : (ofFragments fs).exactTotal ≤ fs.length :=
  calc
    (ofFragments fs).exactTotal
        = ∑ w ∈ (sift fs).kept.toFinset, (sift fs).kept.count w % 2 ^ 64 :=
      exactTotal_ofFragments fs
    _ ≤ ∑ w ∈ (sift fs).kept.toFinset, (sift fs).kept.count w :=
      Finset.sum_le_sum fun _ _ => Nat.mod_le _ _
    _ = (sift fs).kept.length := List.sum_toFinset_count_eq_length _
    _ ≤ fs.length := (kept_sift_sublist fs).length_le

end Bag

namespace Tokenizer

open Unicode (isWhiteSpace isPunctuation lowercase)
open Text (IsFragmentation)

structure Tokenizes (t : Tokenizer) (s : String) : Prop where
  fragments : IsFragmentation t.kept (lowercase s.toList) ((t.fragments s).map String.toList)
  ne_empty : ∀ w ∈ (t.bag s).words, w ≠ ""
  clean : ∀ w ∈ (t.bag s).words, ∀ c ∈ w.toList,
    isWhiteSpace c = false ∧ (isPunctuation c = true → c ∈ t.kept)
  count_pos : s.length < 2 ^ 64 → ∀ w ∈ (t.bag s).words, 1 ≤ ((t.bag s).count w).toNat
  total_le : (t.bag s).exactTotal ≤ (t.fragments s).length

theorem mem_fragments_of_mem_words {t : Tokenizer} {s w : String} (h : w ∈ (t.bag s).words) :
    w.toList ∈ (t.fragments s).map String.toList :=
  List.mem_map_of_mem (Bag.mem_of_mem_words_ofFragments h)

theorem length_fragments_lt {s : String} (h : s.length < 2 ^ 64) (t : Tokenizer) :
    (t.fragments s).length < 2 ^ 64 :=
  (Text.length_fragments_le t.kept s).trans_lt h

/-- Only that no count wraps to zero takes a text whose length a machine word holds. -/
theorem tokenizes (t : Tokenizer) (s : String) : t.Tokenizes s := by
  have hfragments := Text.isFragmentation_fragments t.kept s
  constructor
  · exact hfragments
  · rintro w hw rfl
    exact hfragments.ne_nil _ (mem_fragments_of_mem_words hw) rfl
  · exact fun w hw => hfragments.clean _ (mem_fragments_of_mem_words hw)
  · exact fun h w hw => Bag.count_ofFragments_pos (length_fragments_lt h t) hw
  · exact Bag.exactTotal_ofFragments_le _

example : (⟨['-']⟩ : Tokenizer).fragments "İ«a»-b, \u00a0'c\t d.e" = ["i̇a-b", "c", "de"] := by
  decide +kernel

end Tokenizer
end Fidelity
