import Fidelity.Proofs.Edit.Exact

/-!
# Common affixes

Two sequences are cut down by counting what they share, first in front and then, of what is left,
at the back. Both counts stay within what there is to count. Main statement: whatever affixes two
sequences share, and wherever the cuts fall, the distance is that of the parts between, and parts put
end to end are no farther apart than the parts are together.
-/
namespace Fidelity.Edit

variable {α : Type}

def dropBack (k : Nat) (as : List α) : List α := as.take (as.length - k)

theorem reverse_drop_reverse (k : Nat) (as : List α) :
    (as.reverse.drop k).reverse = dropBack k as := by
  rw [List.drop_reverse, List.reverse_reverse, dropBack]

variable [DecidableEq α]

def sharedLength (as bs : List α) : Nat := ((as.zip bs).takeWhile fun x => decide (x.1 = x.2)).length

theorem sharedLength_cons_self (a : α) (as bs : List α) :
    sharedLength (a :: as) (a :: bs) = sharedLength as bs + 1 := by
  simp [sharedLength]

theorem sharedLength_cons_of_ne {a b : α} (h : a ≠ b) (as bs : List α) :
    sharedLength (a :: as) (b :: bs) = 0 := by
  simp [sharedLength, h]

theorem sharedLength_le (as bs : List α) :
    sharedLength as bs ≤ as.length ∧ sharedLength as bs ≤ bs.length := by
  have htaken := (List.takeWhile_sublist (l := as.zip bs) fun x => decide (x.1 = x.2)).length_le
  have hzip : (as.zip bs).length = min as.length bs.length := List.length_zip
  change sharedLength as bs ≤ (as.zip bs).length at htaken
  omega

theorem dropCommonPrefix_eq_drop (as bs : List α) :
    dropCommonPrefix as bs = (as.drop (sharedLength as bs), bs.drop (sharedLength as bs)) := by
  induction as generalizing bs with
  | nil => simp [dropCommonPrefix, sharedLength]
  | cons a as ih =>
    cases bs with
    | nil => simp [dropCommonPrefix, sharedLength]
    | cons b bs =>
      by_cases h : a = b
      · subst h
        rw [dropCommonPrefix, if_pos rfl, ih, sharedLength_cons_self, List.drop_succ_cons,
          List.drop_succ_cons]
      · rw [dropCommonPrefix, if_neg h, sharedLength_cons_of_ne h, List.drop_zero, List.drop_zero]

theorem dropCommonSuffix_eq_dropBack (as bs : List α) :
    dropCommonSuffix as bs = (dropBack (sharedLength as.reverse bs.reverse) as,
      dropBack (sharedLength as.reverse bs.reverse) bs) := by
  rw [dropCommonSuffix, dropCommonPrefix_eq_drop, reverse_drop_reverse, reverse_drop_reverse]

/-- Cutting off `front` units and then, at the back, `back` more is what dropping common affixes does,
and neither cut is of more units than there are. -/
structure Trims (as bs : List α) (front back : Nat) : Prop where
  front_le_left : front ≤ as.length
  front_le_right : front ≤ bs.length
  back_le_left : back ≤ (as.drop front).length
  back_le_right : back ≤ (bs.drop front).length
  left : (dropCommonAffixes as bs).1 = dropBack back (as.drop front)
  right : (dropCommonAffixes as bs).2 = dropBack back (bs.drop front)

def sharedBack (as bs : List α) : Nat :=
  sharedLength (as.drop (sharedLength as bs)).reverse (bs.drop (sharedLength as bs)).reverse

theorem trims_shared (as bs : List α) : Trims as bs (sharedLength as bs) (sharedBack as bs) := by
  obtain ⟨hfa, hfb⟩ := sharedLength_le as bs
  obtain ⟨hba, hbb⟩ := sharedLength_le (as.drop (sharedLength as bs)).reverse
    (bs.drop (sharedLength as bs)).reverse
  rw [List.length_reverse] at hba hbb
  have hcut : dropCommonAffixes as bs = (dropBack (sharedBack as bs) (as.drop (sharedLength as bs)),
      dropBack (sharedBack as bs) (bs.drop (sharedLength as bs))) := by
    rw [dropCommonAffixes, dropCommonPrefix_eq_drop, dropCommonSuffix_eq_dropBack, sharedBack]
  exact ⟨hfa, hfb, hba, hbb, congrArg Prod.fst hcut, congrArg Prod.snd hcut⟩

theorem leastCost_append_append_le (w : Weights) (as bs as' bs' : List α) :
    leastCost w (as ++ as') (bs ++ bs') ≤ leastCost w as bs + leastCost w as' bs' := by
  -- The fronts are edited while the backs stand, and the backs after them.
  have hfront : Run w (as ++ as') (leastCost w as bs) (bs ++ as') := by
    simpa using (run_leastCost w as bs).append [] as'
  have hback : Run w (bs ++ as') (leastCost w as' bs') (bs ++ bs') := by
    simpa using (run_leastCost w as' bs').append bs []
  exact (hfront.trans hback).leastCost_le

theorem unitDistance_cancels_affixes (w : Weights) :
    (∀ p as bs s : List α, unitDistance w (p ++ as ++ s) (p ++ bs ++ s) = unitDistance w as bs) ∧
      (∀ as bs : List α, Trims as bs (sharedLength as bs) (sharedBack as bs)) ∧
      ∀ as bs as' bs' : List α,
        unitDistance w (as ++ as') (bs ++ bs') ≤ unitDistance w as bs + unitDistance w as' bs' := by
  refine ⟨fun p as bs s => ?_, trims_shared, fun as bs as' bs' => ?_⟩
  · rw [unitDistance_eq_clamp, unitDistance_eq_clamp, leastCost_append_right,
      leastCost_append_left]
  · have h := leastCost_append_append_le w as bs as' bs'
    simp only [unitDistance_eq_clamp, Cost.le_iff, Cost.toNat_add, Cost.toNat_clamp]
    omega

/-- The second `a` is shared in front and at the back of what is left, but only once. -/
example : sharedLength "xa".toList "xaa".toList = 2 ∧ sharedBack "xa".toList "xaa".toList = 0 ∧
    dropCommonAffixes "xa".toList "xaa".toList = ([], ['a']) := by
  decide

end Fidelity.Edit
