import Mathlib
import Fidelity.Text.Words

/-!
# Splitting at white space

A white-space character ends the word before it, and that is all it does: the words of a text with
one in its middle are those of the two halves. Main statements: two neighbours among the characters
that are not white space stand in one word just when they are neighbours in the text, and words with
a space between any two are read back.
-/
namespace Fidelity.Text

open Unicode (isWhiteSpace)

/-- The characters `k` and `k + 1` of some pieces put end to end are in one piece. -/
def TogetherAt (ps : List (List Char)) (k : Nat) : Prop :=
  ∃ before p after, ps = before ++ p :: after ∧
    before.flatten.length ≤ k ∧ k + 1 < before.flatten.length + p.length

theorem TogetherAt.cons {ps : List (List Char)} {k : Nat} (h : TogetherAt ps k) (p : List Char) :
    TogetherAt (p :: ps) (p.length + k) := by
  obtain ⟨before, q, after, rfl, hle, hlt⟩ := h
  refine ⟨p :: before, q, after, rfl, ?_, ?_⟩
  · rw [List.flatten_cons, List.length_append]
    omega
  · rw [List.flatten_cons, List.length_append]
    omega

theorem togetherAt_of_append {p : List Char} {ps : List (List Char)} {k : Nat}
    (h : k + 1 < p.length) : TogetherAt (p :: ps) k :=
  ⟨[], p, ps, rfl, Nat.zero_le _, by simpa using h⟩

theorem not_togetherAt_append {ps qs : List (List Char)} {k : Nat} (h : ps.flatten.length = k + 1) :
    ¬ TogetherAt (ps ++ qs) k := by
  rintro ⟨before, p, after, heq, hle, hlt⟩
  rcases List.append_eq_append_iff.mp heq with ⟨more, hbefore, -⟩ | ⟨more, hps, hcons⟩
  · rw [hbefore, List.flatten_append, List.length_append] at hle
    omega
  · cases more with
    | nil =>
      rw [hps, List.append_nil] at h
      omega
    | cons q more =>
      obtain ⟨rfl, -⟩ := List.cons_eq_cons.mp hcons
      rw [hps, List.flatten_append, List.flatten_cons, List.length_append, List.length_append] at h
      omega

theorem wordsFrom_append_cons {c : Char} (hc : isWhiteSpace c = true) (held x y : List Char) :
    wordsFrom held (x ++ c :: y) = wordsFrom held x ++ words y := by
  induction x generalizing held with
  | nil => cases held <;> simp [wordsFrom, words, hc]
  | cons d x ih =>
    rw [List.cons_append, wordsFrom, wordsFrom]
    by_cases hd : isWhiteSpace d = true
    · cases held <;> simp [hd, ih]
    · simp [hd, ih]

theorem words_append_cons {c : Char} (hc : isWhiteSpace c = true) (x y : List Char) :
    words (x ++ c :: y) = words x ++ words y :=
  wordsFrom_append_cons hc [] x y

theorem of_mem_wordsFrom (held : List Char) {s w : List Char}
    (hheld : ∀ c ∈ held, isWhiteSpace c = false) (h : w ∈ wordsFrom held s) :
    w ≠ [] ∧ ∀ c ∈ w, isWhiteSpace c = false := by
  induction s generalizing held with
  | nil =>
    cases held with
    | nil => simp [wordsFrom] at h
    | cons d held =>
      obtain rfl : w = (d :: held).reverse := by simpa [wordsFrom] using h
      exact ⟨by simp, fun c hc => hheld c (List.mem_reverse.mp hc)⟩
  | cons c rest ih =>
    rw [wordsFrom] at h
    by_cases hc : isWhiteSpace c = true
    · rw [if_pos hc] at h
      cases held with
      | nil => exact ih [] hheld h
      | cons d held =>
        rcases List.mem_cons.mp h with rfl | hw
        · exact ⟨by simp, fun c hc => hheld c (List.mem_reverse.mp hc)⟩
        · exact ih [] (List.forall_mem_nil _) hw
    · rw [if_neg hc] at h
      apply ih (c :: held) _ h
      rw [List.forall_mem_cons]
      exact ⟨by simpa using hc, hheld⟩

theorem of_mem_words {s w : List Char} (h : w ∈ words s) :
    w ≠ [] ∧ ∀ c ∈ w, isWhiteSpace c = false :=
  of_mem_wordsFrom [] (List.forall_mem_nil _) h

theorem exists_wordsFrom_eq_cons (d : Char) (held s : List Char) :
    ∃ more ws, wordsFrom (d :: held) s = ((d :: held).reverse ++ more) :: ws := by
  induction s generalizing d held with
  | nil => exact ⟨[], [], by simp [wordsFrom]⟩
  | cons c rest ih =>
    by_cases hc : isWhiteSpace c = true
    · exact ⟨[], wordsFrom [] rest, by simp [wordsFrom, hc]⟩
    · obtain ⟨more, ws, hws⟩ := ih c (d :: held)
      exact ⟨c :: more, ws, by simp [wordsFrom, hc, hws]⟩

def withoutWhiteSpace (s : List Char) : List Char := s.filter fun c => !isWhiteSpace c

theorem togetherAt_wordsFrom {a b : Char} (ha : isWhiteSpace a = false)
    (hb : isWhiteSpace b = false) (held x y : List Char) :
    TogetherAt (wordsFrom held (x ++ a :: b :: y)) (held.length + (withoutWhiteSpace x).length) := by
  induction x generalizing held with
  | nil =>
    obtain ⟨more, ws, hws⟩ := exists_wordsFrom_eq_cons b (a :: held) y
    have hread : wordsFrom held (a :: b :: y) = wordsFrom (b :: a :: held) y := by
      simp [wordsFrom, ha, hb]
    rw [List.nil_append, hread, hws]
    apply togetherAt_of_append
    simp [withoutWhiteSpace]
  | cons c x ih =>
    rw [List.cons_append, wordsFrom]
    by_cases hc : isWhiteSpace c = true
    · have hskip : withoutWhiteSpace (c :: x) = withoutWhiteSpace x := by
        simp [withoutWhiteSpace, hc]
      rw [if_pos hc, hskip]
      cases held with
      | nil => exact ih []
      | cons d held => simpa using (ih []).cons (d :: held).reverse
    · have hcount : held.length + (withoutWhiteSpace (c :: x)).length
          = (c :: held).length + (withoutWhiteSpace x).length := by
        simp [withoutWhiteSpace, hc]
        omega
      rw [if_neg hc, hcount]
      exact ih (c :: held)

theorem togetherAt_words_iff {a b : Char} (ha : isWhiteSpace a = false)
    (hb : isWhiteSpace b = false) {m : List Char} (hm : ∀ c ∈ m, isWhiteSpace c = true)
    (x y : List Char) :
    TogetherAt (words (x ++ a :: (m ++ b :: y))) (withoutWhiteSpace x).length ↔ m = [] := by
  cases m with
  | nil => simpa [words] using togetherAt_wordsFrom ha hb [] x y
  | cons c m =>
    have hsplit : x ++ a :: (c :: m ++ b :: y) = (x ++ [a]) ++ c :: (m ++ b :: y) := by simp
    have hend : (words (x ++ [a])).flatten.length = (withoutWhiteSpace x).length + 1 := by
      simp [flatten_words, withoutWhiteSpace, ha]
    rw [hsplit, words_append_cons (hm c List.mem_cons_self)]
    exact iff_of_false (not_togetherAt_append hend) (List.cons_ne_nil c m)

theorem two_mul_length_wordsFrom_le (held s : List Char) :
    2 * (wordsFrom held s).length ≤ s.length + (if held = [] then 1 else 2) := by
  induction s generalizing held with
  | nil => cases held <;> simp [wordsFrom]
  | cons c rest ih =>
    have hnone := ih []
    have hsome := ih (c :: held)
    rw [if_pos rfl] at hnone
    rw [if_neg (List.cons_ne_nil c held)] at hsome
    rw [wordsFrom, List.length_cons]
    by_cases hc : isWhiteSpace c = true
    · cases held with
      | nil =>
        simp only [hc, List.isEmpty_nil, if_true]
        omega
      | cons d held =>
        simp [hc]
        omega
    · rw [if_neg hc]
      split <;> omega

theorem two_mul_length_words_le (s : List Char) : 2 * (words s).length ≤ s.length + 1 :=
  two_mul_length_wordsFrom_le [] s

def IsWord (w : List Char) : Prop := w ≠ [] ∧ ∀ c ∈ w, isWhiteSpace c = false

theorem wordsFrom_append (held : List Char) {w : List Char}
    (hw : ∀ c ∈ w, isWhiteSpace c = false) (s : List Char) :
    wordsFrom held (w ++ s) = wordsFrom (w.reverse ++ held) s := by
  induction w generalizing held with
  | nil => rfl
  | cons c w ih =>
    rw [List.forall_mem_cons] at hw
    rw [List.cons_append, wordsFrom, hw.1, if_neg Bool.false_ne_true, ih (c :: held) hw.2,
      List.reverse_cons, List.append_assoc, List.singleton_append]

theorem words_of_isWord {w : List Char} (hw : IsWord w) : words w = [w] := by
  have hread := wordsFrom_append [] hw.2 []
  rw [List.append_nil, List.append_nil] at hread
  rw [words, hread, wordsFrom, if_neg (by simpa using hw.1), List.reverse_reverse]

theorem unwords_cons_cons (w v : List Char) (ws : List (List Char)) :
    unwords (w :: v :: ws) = w ++ ' ' :: unwords (v :: ws) := rfl

theorem words_unwords {ws : List (List Char)} (h : ∀ w ∈ ws, IsWord w) :
    words (unwords ws) = ws := by
  induction ws with
  | nil => rfl
  | cons w rest ih =>
    rw [List.forall_mem_cons] at h
    obtain ⟨hw, hrest⟩ := h
    cases rest with
    | nil => exact words_of_isWord hw
    | cons v rest =>
      rw [unwords_cons_cons, words_append_cons Unicode.isWhiteSpace_space, words_of_isWord hw,
        ih hrest, List.singleton_append]

theorem mem_unwords {ws : List (List Char)} {c : Char} (h : c ∈ unwords ws) :
    c = ' ' ∨ ∃ w ∈ ws, c ∈ w := by
  induction ws with
  | nil => cases h
  | cons w rest ih =>
    cases rest with
    | nil => exact .inr ⟨w, List.mem_cons_self, h⟩
    | cons v rest =>
      rw [unwords_cons_cons, List.mem_append, List.mem_cons] at h
      rcases h with hw | hspace | hrest
      · exact .inr ⟨w, List.mem_cons_self, hw⟩
      · exact .inl hspace
      · exact (ih hrest).imp_right fun ⟨u, hu, hc⟩ => ⟨u, List.mem_cons_of_mem w hu, hc⟩

end Fidelity.Text
