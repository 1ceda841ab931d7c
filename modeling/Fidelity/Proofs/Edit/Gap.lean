import Fidelity.Proofs.Edit.Mirror

/-!
# Lengths and gaps

No run closes the gap between two lengths for less than its insertions or deletions cost, and it is
enough to close it and exchange every other unit. Main statements: the distance lies between these
two costs, which only the lengths decide; and if all that one text has more than the other is one
piece somewhere within it, the distance is the cost of that piece.
-/
namespace Fidelity.Edit

def gapCost (w : Weights) (m n : Nat) : Nat :=
  if m ≤ n then (n - m) * w.insertion.toNat else (m - n) * w.deletion.toNat

/-- A unit is exchanged for another by one edit or by two. -/
def exchangeCost (w : Weights) : Nat :=
  min w.substitution.toNat (w.insertion.toNat + w.deletion.toNat)

theorem gapCost_eq_add (w : Weights) (m n : Nat) :
    gapCost w m n = (n - m) * w.insertion.toNat + (m - n) * w.deletion.toNat := by
  unfold gapCost
  split
  · next h => rw [Nat.sub_eq_zero_of_le h, Nat.zero_mul, Nat.add_zero]
  · next h => rw [Nat.sub_eq_zero_of_le (Nat.le_of_not_le h), Nat.zero_mul, Nat.zero_add]

@[simp] theorem gapCost_self (w : Weights) (n : Nat) : gapCost w n n = 0 := by
  simp [gapCost]

@[simp] theorem gapCost_succ_right (w : Weights) (n : Nat) :
    gapCost w n (n + 1) = w.insertion.toNat := by
  simp [gapCost]

@[simp] theorem gapCost_succ_left (w : Weights) (n : Nat) :
    gapCost w (n + 1) n = w.deletion.toNat := by
  simp [gapCost]

@[simp] theorem gapCost_succ_succ (w : Weights) (m n : Nat) :
    gapCost w (m + 1) (n + 1) = gapCost w m n := by
  simp [gapCost]

theorem gapCost_triangle (w : Weights) (k m n : Nat) :
    gapCost w k n ≤ gapCost w k m + gapCost w m n := by
  have hinsert : (n - k) * w.insertion.toNat ≤
      (m - k) * w.insertion.toNat + (n - m) * w.insertion.toNat := by
    rw [← Nat.add_mul]
    exact Nat.mul_le_mul_right _ (by omega)
  have hdelete : (k - n) * w.deletion.toNat ≤
      (k - m) * w.deletion.toNat + (m - n) * w.deletion.toNat := by
    rw [← Nat.add_mul]
    exact Nat.mul_le_mul_right _ (by omega)
  rw [gapCost_eq_add, gapCost_eq_add, gapCost_eq_add]
  omega

variable {α : Type} {w : Weights}

theorem Step.gapCost_le {xs ys : List α} {c : Nat} (h : Step w xs c ys) :
    gapCost w xs.length ys.length ≤ c := by
  cases h with
  | insert p s b => simp [← Nat.add_assoc]
  | delete p s a => simp [← Nat.add_assoc]
  | replace p s hab => simp

theorem Run.gapCost_le {xs ys : List α} {c : Nat} (h : Run w xs c ys) :
    gapCost w xs.length ys.length ≤ c := by
  induction h with
  | done xs => simp
  | @step xs ys zs c d hs _ ih =>
    calc
      gapCost w xs.length zs.length
          ≤ gapCost w xs.length ys.length + gapCost w ys.length zs.length := gapCost_triangle w _ _ _
      _ ≤ c + d := Nat.add_le_add hs.gapCost_le ih

variable [DecidableEq α]

theorem leastCost_cons_cons_le (w : Weights) (a b : α) (as bs : List α) :
    leastCost w (a :: as) (b :: bs) ≤ leastCost w as bs + exchangeCost w := by
  have hone : leastCost w (a :: as) (b :: bs) ≤ leastCost w as bs + pairCost w a b :=
    ((run_leastCost w as bs).pair a b).leastCost_le
  have htwo : leastCost w (a :: as) (b :: bs) ≤
      leastCost w as bs + w.insertion.toNat + w.deletion.toNat :=
    (((run_leastCost w as bs).insert b).delete a).leastCost_le
  have hpair := pairCost_le w a b
  rw [exchangeCost]
  omega

theorem leastCost_le_gapCost_add (w : Weights) (as bs : List α) :
    leastCost w as bs ≤
      gapCost w as.length bs.length + min as.length bs.length * exchangeCost w := by
  induction as generalizing bs with
  | nil => simp [gapCost]
  | cons a as ih =>
    cases bs with
    | nil => simp [gapCost]
    | cons b bs =>
      have hfirst := leastCost_cons_cons_le w a b as bs
      have hrest := ih bs
      rw [List.length_cons, List.length_cons, gapCost_succ_succ, Nat.succ_min_succ, Nat.succ_mul]
      omega

structure FitsLengths (w : Weights) (m n : Nat) (d : Cost) : Prop where
  gap_le : min Cost.limit (gapCost w m n) ≤ d.toNat
  le_gap_add : d.toNat ≤ min Cost.limit (gapCost w m n + min m n * exchangeCost w)

theorem fitsLengths_cutDistance (w : Weights) (cut : String → List α) (output source : String) :
    FitsLengths w (cut output).length (cut source).length (cutDistance w cut output source) := by
  have hgap := (run_leastCost w (cut output) (cut source)).gapCost_le
  have hall := leastCost_le_gapCost_add w (cut output) (cut source)
  have hdistance : (cutDistance w cut output source).toNat =
      min Cost.limit (leastCost w (cut output) (cut source)) := by
    rw [cutDistance_eq_clamp, Cost.toNat_clamp]
  exact ⟨by omega, by omega⟩

theorem leastCost_delete_between (w : Weights) (before gap after : List α) :
    leastCost w (before ++ gap ++ after) (before ++ after) = gap.length * w.deletion.toNat :=
  calc
    leastCost w (before ++ gap ++ after) (before ++ after) = leastCost w (before ++ gap) before :=
      leastCost_append_right w _ _ after
    _ = leastCost w (before ++ gap) (before ++ []) := by rw [List.append_nil]
    _ = leastCost w gap [] := leastCost_append_left w before _ _
    _ = gap.length * w.deletion.toNat := leastCost_nil_right w gap

theorem leastCost_insert_between (w : Weights) (before gap after : List α) :
    leastCost w (before ++ after) (before ++ gap ++ after) = gap.length * w.insertion.toNat := by
  have h := leastCost_delete_between w.mirrored before gap after
  rwa [leastCost_mirrored] at h

theorem toNat_distance_char (w : Weights) (output source : String) :
    (distance w .char output source).toNat =
      min Cost.limit (leastCost w output.toList source.toList) := by
  rw [distance_eq_clamp, Cost.toNat_clamp]
  rfl

theorem distance_of_gap (w : Weights) (before gap after : String) :
    (distance w .char (before ++ gap ++ after) (before ++ after)).toNat =
        min Cost.limit (gap.length * w.deletion.toNat) ∧
      (distance w .char (before ++ after) (before ++ gap ++ after)).toNat =
        min Cost.limit (gap.length * w.insertion.toNat) := by
  rw [toNat_distance_char, toNat_distance_char]
  simp only [String.toList_append]
  constructor
  · rw [leastCost_delete_between, String.length_toList]
  · rw [leastCost_insert_between, String.length_toList]

example : (distance .standard .char "cat" "cart").toNat = 2 ∧
    (distance .standard .char "cart" "cat").toNat = 1 := by
  decide

end Fidelity.Edit
