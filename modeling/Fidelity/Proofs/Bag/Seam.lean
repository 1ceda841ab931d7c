import Fidelity.Proofs.Bag.Tokens
import Fidelity.Proofs.Text.LetterCase

/-!
# Bags of texts put together

Where two lists of fragments are put together a run of single characters can only go on from one into
the other if the last of the first and the first of the second are single. Anywhere else they are
sifted as if each stood alone. Main statement: white space between two texts puts their fragments
together, and adds their bags up unless such a run crosses it.
-/
namespace Fidelity

namespace Bag

def Sifted.append (x y : Sifted) : Sifted := ⟨x.kept ++ y.kept, x.shredded ++ y.shredded⟩

instance : Append Sifted := ⟨Sifted.append⟩

@[simp] theorem kept_append (x y : Sifted) : (x ++ y).kept = x.kept ++ y.kept := rfl

@[simp] theorem shredded_append (x y : Sifted) : (x ++ y).shredded = x.shredded ++ y.shredded := rfl

theorem closeRun_append (run : List String) (x y : Sifted) :
    closeRun run (x ++ y) = closeRun run x ++ y := by
  match run with
  | [] => rfl
  | [f] => rfl
  | f :: g :: rest => rfl

theorem siftFrom_of_not_single {ys : List String} (h : singleAt ys 0 = false) (run : List String) :
    siftFrom run ys = closeRun run (sift ys) := by
  cases ys with
  | nil => rfl
  | cons g ys =>
    rw [singleAt_cons_zero] at h
    have hneg : ¬isSingle g = true := by simp [h]
    rw [siftFrom_eq_closeRun, List.takeWhile_cons_of_neg hneg, List.dropWhile_cons_of_neg hneg,
      List.reverse_nil, List.nil_append]

/-- A run can only go on into `ys` if the last fragment before is single, and the first of `ys`. -/
theorem siftFrom_append {run xs ys : List String}
    (h : singleBefore (!run.isEmpty) xs xs.length = false ∨ singleAt ys 0 = false) :
    siftFrom run (xs ++ ys) = siftFrom run xs ++ sift ys := by
  -- The open run is a parameter: single fragments go on with it, all others close it.
  induction xs generalizing run with
  | nil =>
    rw [siftFrom, ← closeRun_append]
    rcases h with hrun | hys
    · obtain rfl : run = [] := by simpa [singleBefore] using hrun
      rfl
    · exact siftFrom_of_not_single hys run
  | cons f xs ih =>
    rw [List.length_cons, singleBefore_cons_succ] at h
    rw [List.cons_append]
    by_cases hf : isSingle f = true
    · rw [siftFrom_cons_single (isSingle_iff.mp hf), siftFrom_cons_single (isSingle_iff.mp hf)]
      apply ih
      rwa [hf] at h
    · rw [Bool.not_eq_true] at hf
      have hsift : sift (xs ++ ys) = sift xs ++ sift ys := by
        apply ih
        rwa [hf] at h
      rcases isSingle_eq_false_iff.mp hf with hempty | hlong
      · rw [siftFrom_cons_empty hempty, siftFrom_cons_empty hempty, hsift, closeRun_append]
      · rw [siftFrom_cons_long hlong, siftFrom_cons_long hlong, hsift, ← closeRun_append]
        rfl

/-- No run goes on from the fragments `xs` into the fragments `ys`. -/
def Apart (xs ys : List String) : Prop :=
  singleBefore false xs xs.length = false ∨ singleAt ys 0 = false

theorem sift_append {xs ys : List String} (h : Apart xs ys) :
    sift (xs ++ ys) = sift xs ++ sift ys :=
  siftFrom_append h

theorem apart_induction {motive : List String → Prop}
    (run : ∀ run, (∀ f ∈ run, isSingle f = true) → motive run)
    (other : ∀ f, isSingle f = false → motive [f])
    (append : ∀ xs ys, Apart xs ys → motive xs → motive ys → motive (xs ++ ys))
    (fs : List String) : motive fs := by
  suffices hopen : ∀ front, (∀ f ∈ front, isSingle f = true) → motive (front ++ fs) from
    hopen [] (List.forall_mem_nil _)
  -- A single fragment goes on with the run in front; any other one parts it from what is behind.
  induction fs with
  | nil =>
    intro front hfront
    rw [List.append_nil]
    exact run front hfront
  | cons f rest ih =>
    intro front hfront
    cases hf : isSingle f with
    | true =>
      have hmore : motive ((front ++ [f]) ++ rest) :=
        ih _ (List.forall_mem_append.mpr ⟨hfront, List.forall_mem_singleton.mpr hf⟩)
      rwa [List.append_assoc] at hmore
    | false =>
      have hnext : Apart [f] rest := .inl (by simpa [singleBefore, singleAt] using hf)
      have hbehind : motive (f :: rest) :=
        append [f] rest hnext (other f hf) (ih [] (List.forall_mem_nil _))
      have hseam : Apart front (f :: rest) := .inr (by rwa [singleAt_cons_zero])
      exact append front _ hseam (run front hfront) hbehind

structure IsSum (a b c : Bag) : Prop where
  words : ∀ w, w ∈ c.words ↔ w ∈ a.words ∨ w ∈ b.words
  count : ∀ w, c.count w = a.count w + b.count w

section

variable {xs ys zs : List String} (h : (sift zs).kept = (sift xs).kept ++ (sift ys).kept)

include h

theorem standCount_of_kept (w : String) : standCount zs w = standCount xs w + standCount ys w := by
  rw [← count_kept, h, List.count_append, count_kept, count_kept]

theorem isSum_of_kept : IsSum (ofFragments xs) (ofFragments ys) (ofFragments zs) where
  words w := by
    simp only [mem_words_ofFragments, standCount_of_kept h]
    omega
  count w := by
    rw [count_ofFragments, standCount_of_kept h, UInt64.ofNat_add, count_ofFragments,
      count_ofFragments]

theorem toNat_count_of_kept (hlength : zs.length < 2 ^ 64) (w : String) :
    ((ofFragments zs).count w).toNat =
      ((ofFragments xs).count w).toNat + ((ofFragments ys).count w).toNat := by
  have hsum := standCount_of_kept h w
  have hle := standCount_le zs w
  simp only [count_ofFragments, UInt64.toNat_ofNat']
  rw [Nat.mod_eq_of_lt (by omega), Nat.mod_eq_of_lt (by omega), Nat.mod_eq_of_lt (by omega), hsum]

end

section

variable {xs ys : List String} (h : sift (xs ++ ys) = sift xs ++ sift ys)

include h

theorem kept_sift_append : (sift (xs ++ ys)).kept = (sift xs).kept ++ (sift ys).kept := by
  rw [h, kept_append]

theorem isSum_ofFragments : IsSum (ofFragments xs) (ofFragments ys) (ofFragments (xs ++ ys)) :=
  isSum_of_kept (kept_sift_append h)

theorem toNat_count_append (hlength : (xs ++ ys).length < 2 ^ 64) (w : String) :
    ((ofFragments (xs ++ ys)).count w).toNat =
      ((ofFragments xs).count w).toNat + ((ofFragments ys).count w).toNat :=
  toNat_count_of_kept (kept_sift_append h) hlength w

end

/-- There are no fragments on one side of the seam, or a longer one stands next to it. -/
def Parted (xs ys : List String) : Prop :=
  xs = [] ∨ ys = [] ∨ (∃ f, xs.getLast? = some f ∧ 1 < f.length) ∨
    ∃ g, ys.head? = some g ∧ 1 < g.length

theorem Parted.sift_append {xs ys : List String} (h : Parted xs ys) :
    sift (xs ++ ys) = sift xs ++ sift ys := by
  apply Bag.sift_append
  rcases h with rfl | rfl | ⟨f, hlast, hf⟩ | ⟨g, hhead, hg⟩
  · exact .inl rfl
  · exact .inr rfl
  · obtain ⟨front, rfl⟩ := List.getLast?_eq_some_iff.mp hlast
    left
    simpa [singleBefore, singleAt] using isSingle_eq_false_iff.mpr (.inr hf)
  · obtain ⟨rest, rfl⟩ := List.head?_eq_some_iff.mp hhead
    right
    rw [singleAt_cons_zero]
    exact isSingle_eq_false_iff.mpr (.inr hg)

end Bag

namespace Text

open Unicode (isWhiteSpace)

theorem stripPunctuation_cons_of_isWhiteSpace {c : Char} (hc : isWhiteSpace c = true)
    (kept s : List Char) : stripPunctuation kept (c :: s) = c :: stripPunctuation kept s := by
  apply List.filter_cons_of_pos
  rw [Unicode.isPunctuation_of_isWhiteSpace hc]
  rfl

theorem fragments_append {c : Char} (hc : isWhiteSpace c = true) (kept : List Char) (a b : String) :
    fragments kept (a ++ String.singleton c ++ b) = fragments kept a ++ fragments kept b := by
  have htext : (a ++ String.singleton c ++ b).toList = a.toList ++ c :: b.toList := by simp
  rw [fragments, htext, Unicode.lowercase_append_cons hc, stripPunctuation_append,
    stripPunctuation_cons_of_isWhiteSpace hc, words_append_cons hc, List.map_append]
  rfl

end Text

namespace Tokenizer

open Unicode (isWhiteSpace)

/-- Only that the counts do not wrap takes a text whose length a machine word holds. -/
theorem bag_adds_up_at_white_space (t : Tokenizer) (a b : String) {c : Char}
    (hc : isWhiteSpace c = true) :
    t.fragments (a ++ String.singleton c ++ b) = t.fragments a ++ t.fragments b ∧
      (Bag.Parted (t.fragments a) (t.fragments b) →
        Bag.IsSum (t.bag a) (t.bag b) (t.bag (a ++ String.singleton c ++ b)) ∧
          ((a ++ String.singleton c ++ b).length < 2 ^ 64 → ∀ w,
            ((t.bag (a ++ String.singleton c ++ b)).count w).toNat =
              ((t.bag a).count w).toNat + ((t.bag b).count w).toNat)) := by
  have hfragments : t.fragments (a ++ String.singleton c ++ b) = t.fragments a ++ t.fragments b :=
    Text.fragments_append hc t.kept a b
  have hbag : t.bag (a ++ String.singleton c ++ b) =
      Bag.ofFragments (t.fragments a ++ t.fragments b) := congrArg Bag.ofFragments hfragments
  refine ⟨hfragments, fun hparted => ⟨?_, fun hlength w => ?_⟩⟩
  · rw [hbag]
    exact Bag.isSum_ofFragments hparted.sift_append
  · have hshort := length_fragments_lt hlength t
    rw [hfragments] at hshort
    rw [hbag]
    exact Bag.toNat_count_append hparted.sift_append hshort w

theorem bag_adds_up_at_white_space_sigma :
    isWhiteSpace '\u00a0' = true ∧
      Bag.Parted ((default : Tokenizer).fragments "ΟΔΟΣ x") ((default : Tokenizer).fragments "ΟΔΟΣ") ∧
      ("ΟΔΟΣ x" ++ String.singleton '\u00a0' ++ "ΟΔΟΣ").length < 2 ^ 64 ∧
      (default : Tokenizer).fragments ("ΟΔΟΣ x" ++ String.singleton '\u00a0' ++ "ΟΔΟΣ") =
        ["οδος", "x", "οδος"] ∧
      (((default : Tokenizer).bag ("ΟΔΟΣ x" ++ String.singleton '\u00a0' ++ "ΟΔΟΣ")).count
        "οδος").toNat = 2 := by
  have hc : isWhiteSpace '\u00a0' = true := by decide
  have hleft : (default : Tokenizer).fragments "ΟΔΟΣ x" = ["οδος", "x"] := by decide +kernel
  have hright : (default : Tokenizer).fragments "ΟΔΟΣ" = ["οδος"] := by decide +kernel
  have hparted : Bag.Parted ((default : Tokenizer).fragments "ΟΔΟΣ x")
      ((default : Tokenizer).fragments "ΟΔΟΣ") := by
    rw [hleft, hright]
    exact .inr (.inr (.inr ⟨"οδος", rfl, by decide⟩))
  have hlength : ("ΟΔΟΣ x" ++ String.singleton '\u00a0' ++ "ΟΔΟΣ").length < 2 ^ 64 := by decide
  obtain ⟨hfragments, hsum⟩ := bag_adds_up_at_white_space default "ΟΔΟΣ x" "ΟΔΟΣ" hc
  refine ⟨hc, hparted, hlength, ?_, ?_⟩
  · rw [hfragments, hleft, hright]
    rfl
  · rw [(hsum hparted).2 hlength, Tokenizer.bag, Tokenizer.bag, hleft, hright]
    decide

end Tokenizer
end Fidelity
