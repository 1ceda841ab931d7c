import Fidelity.Proofs.Edit.Mirror

/-!
# Replacing at a high price

If a replacement costs no less than a deletion and an insertion, a cheapest run needs none: it keeps
a common subsequence, deletes what else is in the output and inserts what else is in the source.
Main statement: the distance is then what the units outside a longest common subsequence cost,
whatever the price of a replacement is.
-/
namespace Fidelity.Edit

variable {α : Type} {w : Weights} {as bs : List α}

structure IsLongestCommon (as bs kept : List α) : Prop where
  left : kept.Sublist as
  right : kept.Sublist bs
  longest : ∀ s : List α, s.Sublist as → s.Sublist bs → s.length ≤ kept.length

def longer (s t : List α) : List α := if s.length ≤ t.length then t else s

theorem longer_eq_or (s t : List α) : longer s t = s ∨ longer s t = t := by
  unfold longer
  split
  · exact .inr rfl
  · exact .inl rfl

theorem length_longer (s t : List α) : (longer s t).length = max s.length t.length := by
  unfold longer
  split <;> omega

theorem isLongestCommon_nil_left (bs : List α) : IsLongestCommon [] bs [] where
  left := .slnil
  right := List.nil_sublist bs
  longest _ hs _ := hs.length_le

theorem isLongestCommon_nil_right (as : List α) : IsLongestCommon as [] [] where
  left := List.nil_sublist as
  right := .slnil
  longest _ _ hs := hs.length_le

theorem IsLongestCommon.cons {kept : List α} (h : IsLongestCommon as bs kept) (a : α) :
    IsLongestCommon (a :: as) (a :: bs) (a :: kept) where
  left := h.left.cons_cons a
  right := h.right.cons_cons a
  longest := by
    intro s ha hb
    -- Whether or not `s` begins with this very `a`, its tail stands in both tails.
    have htail := h.longest s.tail ha.tail hb.tail
    rw [List.length_tail] at htail
    rw [List.length_cons]
    omega

theorem IsLongestCommon.longer {a b : α} (hab : a ≠ b) {s t : List α}
    (hs : IsLongestCommon as (b :: bs) s) (ht : IsLongestCommon (a :: as) bs t) :
    IsLongestCommon (a :: as) (b :: bs) (longer s t) where
  left := by
    rcases longer_eq_or s t with h | h <;> rw [h]
    · exact hs.left.cons a
    · exact ht.left
  right := by
    rcases longer_eq_or s t with h | h <;> rw [h]
    · exact hs.right
    · exact ht.right.cons b
  longest := by
    intro r ha hb
    rw [length_longer]
    -- What begins with neither first unit, or with one, stands behind the other.
    rcases List.sublist_cons_iff.mp ha with hskip | ⟨r, rfl, -⟩
    · exact (hs.longest r hskip hb).trans (le_max_left _ _)
    · rcases List.sublist_cons_iff.mp hb with hskip | ⟨_, hr, -⟩
      · exact (ht.longest _ ha hskip).trans (le_max_right _ _)
      · exact absurd (List.cons.inj hr).1 hab

section

variable [DecidableEq α]

def longestCommon : List α → List α → List α
  | [], _ => []
  | _ :: _, [] => []
  | a :: as, b :: bs =>
    if a = b then a :: longestCommon as bs
    else longer (longestCommon as (b :: bs)) (longestCommon (a :: as) bs)
termination_by as bs => as.length + bs.length

theorem isLongestCommon_longestCommon (as bs : List α) :
    IsLongestCommon as bs (longestCommon as bs) := by
  fun_induction longestCommon as bs with
  | case1 bs => exact isLongestCommon_nil_left bs
  | case2 a as => exact isLongestCommon_nil_right (a :: as)
  | case3 as a bs both => exact both.cons a
  | case4 a as b bs hab left right => exact left.longer hab right

def outsideCost (w : Weights) (m n k : Nat) : Nat :=
  w.deletion.toNat * (m - k) + w.insertion.toNat * (n - k)

theorem outsideCost_add (w : Weights) {m n k : Nat} (hm : k ≤ m) (hn : k ≤ n) :
    outsideCost w m n k + k * (w.deletion.toNat + w.insertion.toNat) =
      w.deletion.toNat * m + w.insertion.toNat * n := by
  obtain ⟨x, rfl⟩ := Nat.exists_eq_add_of_le hm
  obtain ⟨y, rfl⟩ := Nat.exists_eq_add_of_le hn
  rw [outsideCost, Nat.add_sub_cancel_left, Nat.add_sub_cancel_left]
  ring

theorem leastCost_le_of_sublist_left {s : List α} (h : s.Sublist as) :
    leastCost w as s ≤ w.deletion.toNat * (as.length - s.length) := by
  induction h with
  | slnil => simp
  | @cons s as a h ih =>
    have hdelete := leastCost_le_delete w a as s
    rw [List.length_cons, Nat.succ_sub h.length_le, Nat.mul_succ]
    omega
  | cons_cons a h ih =>
    rw [leastCost_cons_self, List.length_cons, List.length_cons, Nat.add_sub_add_right]
    exact ih

theorem leastCost_le_of_sublist_right {s : List α} (h : s.Sublist bs) :
    leastCost w s bs ≤ w.insertion.toNat * (bs.length - s.length) := by
  have hmirror : leastCost w.mirrored bs s ≤ w.insertion.toNat * (bs.length - s.length) :=
    leastCost_le_of_sublist_left h
  rwa [leastCost_mirrored] at hmirror

theorem leastCost_le_outsideCost {s : List α} (ha : s.Sublist as) (hb : s.Sublist bs) :
    leastCost w as bs ≤ outsideCost w as.length bs.length s.length :=
  calc
    leastCost w as bs ≤ leastCost w as s + leastCost w s bs := leastCost_triangle w as s bs
    _ ≤ outsideCost w as.length bs.length s.length :=
      Nat.add_le_add (leastCost_le_of_sublist_left ha) (leastCost_le_of_sublist_right hb)

theorem exists_outsideCost_le
    (h : w.insertion.toNat + w.deletion.toNat ≤ w.substitution.toNat) (as bs : List α) :
    ∃ s : List α, s.Sublist as ∧ s.Sublist bs ∧
      w.deletion.toNat * as.length + w.insertion.toNat * bs.length ≤
        leastCost w as bs + s.length * (w.deletion.toNat + w.insertion.toNat) := by
  fun_induction leastCost w as bs with
  | case1 bs => exact ⟨[], List.nil_sublist _, List.nil_sublist _, by simp [Nat.mul_comm]⟩
  | case2 as _ => exact ⟨[], List.nil_sublist _, List.nil_sublist _, by simp [Nat.mul_comm]⟩
  | case3 a as b bs pairing deletion insertion =>
    simp only [List.length_cons, Nat.mul_succ] at pairing deletion insertion ⊢
    rw [← leastCost_cons_cons]
    rcases leastCost_cons_cons_eq_or w a b as bs with hcost | hcost | hcost <;> rw [hcost]
    · obtain ⟨s, ha, hb, hs⟩ := pairing
      by_cases hab : a = b
      · subst hab
        refine ⟨a :: s, ha.cons_cons a, hb.cons_cons a, ?_⟩
        rw [List.length_cons, Nat.succ_mul]
        omega
      · refine ⟨s, ha.cons a, hb.cons b, ?_⟩
        rw [pairCost, if_neg hab]
        omega
    · obtain ⟨s, ha, hb, hs⟩ := deletion
      exact ⟨s, ha.cons a, hb, by omega⟩
    · obtain ⟨s, ha, hb, hs⟩ := insertion
      exact ⟨s, ha, hb.cons b, by omega⟩

theorem leastCost_eq_outsideCost
    (h : w.insertion.toNat + w.deletion.toNat ≤ w.substitution.toNat) {kept : List α}
    (hkept : IsLongestCommon as bs kept) :
    leastCost w as bs = outsideCost w as.length bs.length kept.length := by
  apply le_antisymm (leastCost_le_outsideCost hkept.left hkept.right)
  obtain ⟨s, ha, hb, hs⟩ := exists_outsideCost_le h as bs
  have hlength : s.length * (w.deletion.toNat + w.insertion.toNat) ≤
      kept.length * (w.deletion.toNat + w.insertion.toNat) :=
    Nat.mul_le_mul_right _ (hkept.longest s ha hb)
  have hall := outsideCost_add w hkept.left.length_le hkept.right.length_le
  omega

/-- Any longest common subsequence will do, and there is one. -/
theorem unitDistance_eq_outsideCost
    (h : w.insertion.toNat + w.deletion.toNat ≤ w.substitution.toNat) (as bs : List α) :
    IsLongestCommon as bs (longestCommon as bs) ∧
      (∀ kept, IsLongestCommon as bs kept → (unitDistance w as bs).toNat =
        min Cost.limit (outsideCost w as.length bs.length kept.length)) ∧
      ∀ dear : Cost, w.insertion.toNat + w.deletion.toNat ≤ dear.toNat →
        unitDistance { w with substitution := dear } as bs = unitDistance w as bs := by
  have hlongest := isLongestCommon_longestCommon as bs
  refine ⟨hlongest, ?_, ?_⟩
  · intro kept hkept
    rw [unitDistance_eq_clamp, Cost.toNat_clamp, leastCost_eq_outsideCost h hkept]
  · intro dear hdear
    have hdearer : leastCost { w with substitution := dear } as bs =
        outsideCost w as.length bs.length (longestCommon as bs).length :=
      leastCost_eq_outsideCost (w := { w with substitution := dear }) hdear hlongest
    exact unitDistance_congr (hdearer.trans (leastCost_eq_outsideCost h hlongest).symm)

theorem unitDistance_eq_outsideCost_at_limit :
    let w := Weights.ofUnits 0x8000000000000000 0x7FFFFFFFFFFFFFFF 0xFFFFFFFFFFFFFFFF
    w.insertion.toNat + w.deletion.toNat ≤ w.substitution.toNat ∧
      longestCommon "abcb".toList "bdcb".toList = "bcb".toList ∧
      (unitDistance w "abcb".toList "bdcb".toList).toNat = Cost.limit := by
  intro w
  have h : w.insertion.toNat + w.deletion.toNat ≤ w.substitution.toNat := by decide
  have hkept : longestCommon "abcb".toList "bdcb".toList = "bcb".toList := by cbv
  obtain ⟨hlongest, hdistance, -⟩ := unitDistance_eq_outsideCost h "abcb".toList "bdcb".toList
  refine ⟨h, hkept, ?_⟩
  rw [hdistance _ hlongest, hkept]
  decide

end

end Fidelity.Edit
