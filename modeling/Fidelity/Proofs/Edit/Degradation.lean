import Fidelity.Proofs.Edit.Score

/-!
# Corrupting a text

A character that the source does not have stands for none of its units. Main statement: the more
characters of the source are overwritten by such a one, the greater the distance to the source, and
the lower the score.
-/
namespace Fidelity.Edit

section

variable {α : Type} [DecidableEq α] {w : Weights}

theorem leastCost_le_of_forall₂ {as as' bs : List α}
    (h : List.Forall₂ (fun a a' => ∀ b ∈ bs, pairCost w a b ≤ pairCost w a' b) as as') :
    leastCost w as bs ≤ leastCost w as' bs := by
  induction bs generalizing as as' with
  | nil =>
    rw [leastCost_nil_right, leastCost_nil_right, h.length_eq]
  | cons b bs ihb =>
    have hbs : ∀ {xs xs' : List α},
        List.Forall₂ (fun a a' => ∀ c ∈ b :: bs, pairCost w a c ≤ pairCost w a' c) xs xs' →
          leastCost w xs bs ≤ leastCost w xs' bs := by
      intro xs xs' hxs
      apply ihb
      exact hxs.imp fun _ _ ha c hc => ha c (List.mem_cons_of_mem b hc)
    induction h with
    | nil => exact le_rfl
    | @cons a a' as as' ha has iha =>
      have hpair := ha b List.mem_cons_self
      have hboth := hbs has
      have hinsert := hbs (List.Forall₂.cons ha has)
      rw [leastCost_cons_cons, leastCost_cons_cons]
      omega

theorem pairCost_le_of_ne {x b : α} (h : x ≠ b) (a : α) : pairCost w a b ≤ pairCost w x b := by
  have hx : pairCost w x b = w.substitution.toNat := if_neg h
  rw [hx]
  exact pairCost_le w a b

end

/-- The text `s` with the characters at the positions in `P` overwritten by `x`. -/
def overwrite (x : Char) (P : Finset Nat) (s : String) : String :=
  String.ofList (s.toList.mapIdx fun k c => if k ∈ P then x else c)

theorem forall₂_overwrite {w : Weights} {x : Char} {P Q : Finset Nat} (h : P ⊆ Q) {bs : List Char}
    (hx : x ∉ bs) (cs : List Char) :
    List.Forall₂ (fun a a' => ∀ b ∈ bs, pairCost w a b ≤ pairCost w a' b)
      (cs.mapIdx fun k c => if k ∈ P then x else c)
      (cs.mapIdx fun k c => if k ∈ Q then x else c) := by
  rw [List.forall₂_iff_get]
  refine ⟨by simp, fun k hk _ b hb => ?_⟩
  simp only [List.get_eq_getElem, List.getElem_mapIdx]
  by_cases hQ : k ∈ Q
  · rw [if_pos hQ]
    apply pairCost_le_of_ne
    rintro rfl
    exact hx hb
  · rw [if_neg hQ, if_neg fun hP => hQ (h hP)]

open Scalar in
theorem lossOf_le_lossOf {d d' : Cost} (h : d ≤ d') (n : Nat) : (lossOf d n : Rat) ≤ lossOf d' n := by
  have hunits : d.units.toNat ≤ d'.units.toNat := Cost.le_iff.mp h
  rcases Nat.eq_zero_or_pos n with rfl | hn
  · simp only [lossOf, if_true, zero_rat, one_rat, ← Cost.toNat_eq_zero_iff, Cost.toNat]
    split_ifs
    · exact le_rfl
    · exact zero_le_one
    · omega
    · exact le_rfl
  · have hshare : ((d.units.toNat : Nat) : Rat) / (UInt64.ofNat n).toNat
        ≤ ((d'.units.toNat : Nat) : Rat) / (UInt64.ofNat n).toNat := by
      gcongr
    simp only [lossOf, if_neg hn.ne', ofCount_rat]
    rw [clampUnit_rat_of_nonneg (by positivity), clampUnit_rat_of_nonneg (by positivity)]
    exact min_le_min le_rfl hshare

theorem scoreOf_le_scoreOf {d d' : Cost} (h : d ≤ d') (n : Nat) :
    (scoreOf d' n : Rat) ≤ scoreOf d n :=
  sub_le_sub_left (lossOf_le_lossOf h n) 1

theorem degrades_overwrite (w : Weights) {source : String} {x : Char} (hx : x ∉ source.toList)
    {P Q : Finset Nat} (h : P ⊆ Q) :
    distance w .char (overwrite x P source) source ≤ distance w .char (overwrite x Q source) source ∧
      (Scorer.score ⟨w, .char⟩ (overwrite x Q source) source : Logged Rat Rat).value ≤
        (Scorer.score ⟨w, .char⟩ (overwrite x P source) source : Logged Rat Rat).value := by
  have hcost : leastCost w (overwrite x P source).toList source.toList
      ≤ leastCost w (overwrite x Q source).toList source.toList := by
    simp only [overwrite, String.toList_ofList]
    exact leastCost_le_of_forall₂ (forall₂_overwrite h hx source.toList)
  have hdistance : distance w .char (overwrite x P source) source
      ≤ distance w .char (overwrite x Q source) source := by
    rw [distance_eq_clamp, distance_eq_clamp]
    exact Cost.clamp_le_clamp hcost
  refine ⟨hdistance, ?_⟩
  rw [Scorer.score, Scorer.score, Scorer.value_bound, Scorer.value_bound]
  exact scoreOf_le_scoreOf hdistance _

theorem degrades_overwrite_repetition :
    '#' ∉ "abab".toList ∧ ({1} : Finset Nat) ⊆ {0, 1, 3} ∧
      distance .standard .char (overwrite '#' {1} "abab") "abab"
        ≤ distance .standard .char (overwrite '#' {0, 1, 3} "abab") "abab" := by
  have hx : '#' ∉ "abab".toList := by decide
  have h : ({1} : Finset Nat) ⊆ {0, 1, 3} := by decide
  exact ⟨hx, h, (degrades_overwrite .standard hx h).1⟩

end Fidelity.Edit
