import Fidelity.Proofs.Bag.Mirror

/-!
# Perfect scores

A share is one if all is matched that was asked for, and of nothing if nothing was. Main statement:
recall is one if no word is missing, precision if none is extra, but for a bag that counts nothing
beside one that does; and both are one, or their mean is, exactly if the bags agree on every word.
-/
namespace Fidelity

namespace Comparison

variable {c : Comparison} {p r beta : ℚ} {m t asked : UInt64}

theorem share_eq_one_iff (hle : m.toNat ≤ t.toNat) :
    (share m t asked : ℚ) = 1 ↔ m.toNat = t.toNat ∧ (t.toNat = 0 → asked.toNat = 0) := by
  rcases Nat.eq_zero_or_pos t.toNat with ht | ht
  · obtain rfl : t = 0 := UInt64.toNat_inj.mp ht
    have hm : m.toNat = (0 : UInt64).toNat := Nat.le_zero.mp hle
    rw [share_of_empty]
    split_ifs with hasked <;> simp [hm, hasked]
  · have ht' : (t.toNat : ℚ) ≠ 0 := by exact_mod_cast ht.ne'
    rw [share_of_pos asked ht, div_eq_one_iff_eq ht', Nat.cast_inj]
    exact (and_iff_left fun h0 => absurd h0 ht.ne').symm

theorem Paired.eq_one_of_weightedMean (h : Paired p r) (hbeta : 0 < beta)
    (hmean : weightedMean beta p r = 1) : p = 1 ∧ r = 1 := by
  cases h with
  | none =>
    rw [weightedMean_nothing] at hmean
    exact absurd hmean zero_ne_one
  | some hp hp1 hr hr1 =>
    rw [weightedMean_of_pos hp hr, div_eq_one_iff_eq (meanBottom_pos beta hp hr).ne',
      meanBottom] at hmean
    have hsq : 0 < beta ^ 2 * p := mul_pos (pow_pos hbeta 2) hp
    have hlack : beta ^ 2 * p * (1 - r) + r * (1 - p) = 0 := by linarith
    have hrecall : 0 ≤ beta ^ 2 * p * (1 - r) := mul_nonneg hsq.le (sub_nonneg.mpr hr1)
    have hprecision : 0 ≤ r * (1 - p) := mul_nonneg hr.le (sub_nonneg.mpr hp1)
    obtain ⟨hr0, hp0⟩ := (add_eq_zero_iff_of_nonneg hrecall hprecision).mp hlack
    rw [mul_eq_zero, sub_eq_zero] at hr0 hp0
    exact ⟨(hp0.resolve_left hr.ne').symm, (hr0.resolve_left hsq.ne').symm⟩

theorem fScore_of_eq_one (hp : (c.wordPrecision : ℚ) = 1) (hr : (c.wordRecall : ℚ) = 1) (beta : ℚ) :
    c.fScore beta = 1 := by
  have hpair : Paired 1 1 := .some one_pos le_rfl one_pos le_rfl
  rw [fScore, hp, hr]
  exact le_antisymm (hpair.weightedMean_le le_rfl le_rfl) (hpair.le_weightedMean le_rfl le_rfl)

end Comparison

namespace Bag

def CountsNothing (b : Bag) : Prop := ∀ w, b.count w = 0

theorem exactTotal_eq_zero_iff (b : Bag) : b.exactTotal = 0 ↔ b.CountsNothing := by
  have hwords : ∀ w ∈ b.words, w ∈ b.words.toFinset := fun _ hw => List.mem_toFinset.mpr hw
  rw [exactTotal_eq_sum b hwords, Finset.sum_eq_zero_iff]
  constructor
  · intro h w
    by_cases hw : w ∈ b.words
    · exact UInt64.toNat_inj.mp (h w (hwords w hw))
    · exact count_eq_zero_of_notMem hw
  · intro h w _
    rw [h w, UInt64.toNat_zero]

theorem surplus_eq_nil_iff (a b : Bag) :
    a.surplus b = [] ↔ ∀ w, (a.count w).toNat ≤ (b.count w).toNat := by
  rw [List.eq_nil_iff_forall_not_mem]
  constructor
  · intro h w
    by_contra hle
    exact h ⟨w, a.count w - b.count w⟩
      (mem_surplus.mpr ⟨UInt64.lt_iff_toNat_lt.mpr (Nat.lt_of_not_le hle), rfl⟩)
  · intro h d hd
    exact absurd (h d.word) (Nat.not_le.mpr (UInt64.lt_iff_toNat_lt.mp (mem_surplus.mp hd).1))

theorem surpluses_eq_nil_iff (a b : Bag) :
    a.surplus b = [] ∧ b.surplus a = [] ↔ ∀ w, b.count w = a.count w := by
  rw [surplus_eq_nil_iff, surplus_eq_nil_iff]
  constructor
  · rintro ⟨hab, hba⟩ w
    exact UInt64.toNat_inj.mp (le_antisymm (hba w) (hab w))
  · intro h
    exact ⟨fun w => (h w ▸ le_rfl), fun w => (h w ▸ le_rfl)⟩

theorem exactMatched_eq_exactTotal_iff (output source : Bag) :
    output.exactMatched source = source.exactTotal ↔ source.surplus output = [] := by
  rw [← exactMatched_add_sum_surplus output source, Nat.left_eq_add,
    List.sum_eq_zero_iff_forall_eq_nat]
  constructor
  · intro h
    rw [List.eq_nil_iff_forall_not_mem]
    intro d hd
    have hpos := UInt64.lt_iff_toNat_lt.mp ((isSurplus_surplus source output).pos d hd)
    exact hpos.ne' (h _ (List.mem_map_of_mem hd))
  · intro h
    rw [h]
    exact fun _ hn => absurd hn List.not_mem_nil

theorem wordRecall_eq_one_iff {output source : Bag} (ho : output.exactTotal < 2 ^ 64)
    (hs : source.exactTotal < 2 ^ 64) :
    ((output.compare source).wordRecall : ℚ) = 1 ↔
      (output.compare source).missing = [] ∧ ¬ (source.CountsNothing ∧ ¬ output.CountsNothing) := by
  have hbalances := balances_compare ho hs
  have hmatched : (output.compare source).matched.toNat = output.exactMatched source :=
    toNat_matched hs
  rw [Comparison.wordRecall, Comparison.share_eq_one_iff hbalances.matchedWithin.source, hmatched,
    hbalances.sourceTotal, hbalances.outputTotal, exactMatched_eq_exactTotal_iff,
    exactTotal_eq_zero_iff, exactTotal_eq_zero_iff, not_and_not_right]
  rfl

theorem wordPrecision_eq_one_iff {output source : Bag} (ho : output.exactTotal < 2 ^ 64)
    (hs : source.exactTotal < 2 ^ 64) :
    ((output.compare source).wordPrecision : ℚ) = 1 ↔
      (output.compare source).extra = [] ∧ ¬ (output.CountsNothing ∧ ¬ source.CountsNothing) := by
  rw [← compare_mirrored source output, Comparison.wordPrecision_mirrored]
  exact wordRecall_eq_one_iff hs ho

theorem perfect_scores_iff (output source : Bag) (ho : output.exactTotal < 2 ^ 64)
    (hs : source.exactTotal < 2 ^ 64) :
    (((output.compare source).wordRecall : ℚ) = 1 ↔
      (output.compare source).missing = [] ∧ ¬ (source.CountsNothing ∧ ¬ output.CountsNothing)) ∧
    (((output.compare source).wordPrecision : ℚ) = 1 ↔
      (output.compare source).extra = [] ∧ ¬ (output.CountsNothing ∧ ¬ source.CountsNothing)) ∧
    List.TFAE [
      ((output.compare source).wordPrecision : ℚ) = 1 ∧ ((output.compare source).wordRecall : ℚ) = 1,
      (output.compare source).missing = [] ∧ (output.compare source).extra = [],
      ∀ beta : ℚ, 0 < beta → (output.compare source).fScore beta = 1,
      ∀ w, output.count w = source.count w] := by
  have hrecall := wordRecall_eq_one_iff ho hs
  have hprecision := wordPrecision_eq_one_iff ho hs
  refine ⟨hrecall, hprecision, ?_⟩
  tfae_have 1 → 2 := fun ⟨hp, hr⟩ => ⟨(hrecall.mp hr).1, (hprecision.mp hp).1⟩
  tfae_have 2 ↔ 4 := surpluses_eq_nil_iff source output
  tfae_have 4 → 1 := by
    intro h
    obtain ⟨hmissing, hextra⟩ := (surpluses_eq_nil_iff source output).mpr h
    have hnothing : output.CountsNothing ↔ source.CountsNothing :=
      forall_congr' fun w => by rw [h w]
    exact ⟨hprecision.mpr ⟨hextra, fun hn => hn.2 (hnothing.mp hn.1)⟩,
      hrecall.mpr ⟨hmissing, fun hn => hn.2 (hnothing.mpr hn.1)⟩⟩
  tfae_have 1 → 3 := fun ⟨hp, hr⟩ beta _ => Comparison.fScore_of_eq_one hp hr beta
  tfae_have 3 → 1 := by
    intro h
    have hpaired := (balances_compare ho hs).matchedWithin.paired
    exact hpaired.eq_one_of_weightedMean one_pos (h 1 one_pos)
  tfae_finish

theorem perfect_scores_iff_at_zero :
    (ofEntries [("the", 2), ("dog", 0), ("cat", 1)]).exactTotal < 2 ^ 64 ∧
      (ofEntries [("cat", 1), ("the", 2)]).exactTotal < 2 ^ 64 ∧
      empty.exactTotal < 2 ^ 64 ∧
      ((ofEntries [("the", 2), ("dog", 0), ("cat", 1)]).compare
        (ofEntries [("cat", 1), ("the", 2)])).fScore (3 : ℚ) = 1 ∧
      ((ofEntries [("cat", 1), ("the", 2)]).compare empty).missing = [] ∧
      ((ofEntries [("cat", 1), ("the", 2)]).compare empty).wordRecall ≠ (1 : ℚ) := by
  have hzero : (ofEntries [("the", 2), ("dog", 0), ("cat", 1)]).exactTotal < 2 ^ 64 := by decide
  have hplain : (ofEntries [("cat", 1), ("the", 2)]).exactTotal < 2 ^ 64 := by decide
  have hempty : empty.exactTotal < 2 ^ 64 := by decide
  refine ⟨hzero, hplain, hempty, ?_, ?_, ?_⟩
  · obtain ⟨-, -, htfae⟩ := perfect_scores_iff _ _ hzero hplain
    have hcounts : ∀ w, (ofEntries [("the", 2), ("dog", 0), ("cat", 1)]).count w =
        (ofEntries [("cat", 1), ("the", 2)]).count w := by
      intro w
      simp only [ofEntries, List.foldl_cons, List.foldl_nil, count_insert, count_empty]
      split_ifs <;> simp_all
    have hmean := (htfae.out 3 2 rfl rfl).mp hcounts
    exact hmean 3 (by decide)
  · exact (surplus_eq_nil_iff empty _).mpr fun w => by simp
  · intro hone
    obtain ⟨hrecall, -⟩ := perfect_scores_iff _ _ hplain hempty
    refine (hrecall.mp hone).2 ⟨count_empty, fun hnothing => ?_⟩
    exact absurd (hnothing "cat") (by decide)

end Bag
end Fidelity
