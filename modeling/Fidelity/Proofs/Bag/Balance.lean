import Mathlib
import Fidelity.Bag.Comparison
import Fidelity.Proofs.Text.ByteOrder

/-!
# The balance of a comparison

Every quantity of a comparison is a sum over the words, of a reading of the two counts that is zero
where the counts are. So it is read off any finite set with all words of the bags, and neither the
order of the entries nor an entry that counts zero can be seen in it. Main statement: each word, and
the bags as a whole, come out even in unbounded arithmetic.
-/
namespace Fidelity

/-- Summing up from the left, no partial sum leaves 64 bits. -/
def NeverWraps (ns : List UInt64) : Prop :=
  ∀ k, ((ns.take k).foldl (· + ·) 0).toNat = ((ns.take k).map UInt64.toNat).sum

theorem toNat_foldl_add (ns : List UInt64) (m : UInt64) :
    (ns.foldl (· + ·) m).toNat = (m.toNat + (ns.map UInt64.toNat).sum) % 2 ^ 64 := by
  induction ns generalizing m with
  | nil =>
    rw [List.foldl_nil, List.map_nil, List.sum_nil, Nat.add_zero, Nat.mod_eq_of_lt m.toNat_lt]
  | cons n ns ih =>
    rw [List.foldl_cons, ih, UInt64.toNat_add, List.map_cons, List.sum_cons, Nat.mod_add_mod,
      Nat.add_assoc]

theorem foldl_add_congr {ns ms : List UInt64}
    (h : (ns.map UInt64.toNat).sum = (ms.map UInt64.toNat).sum) :
    ns.foldl (· + ·) 0 = ms.foldl (· + ·) 0 := by
  rw [← UInt64.toNat_inj, toNat_foldl_add, toNat_foldl_add, h]

theorem neverWraps_of_sum_lt {ns : List UInt64} (h : (ns.map UInt64.toNat).sum < 2 ^ 64) :
    NeverWraps ns := by
  intro k
  have hsplit : ((ns.take k).map UInt64.toNat).sum + ((ns.drop k).map UInt64.toNat).sum
      = (ns.map UInt64.toNat).sum := by
    rw [← List.sum_append, ← List.map_append, List.take_append_drop]
  rw [toNat_foldl_add, UInt64.toNat_zero, Nat.zero_add, Nat.mod_eq_of_lt (by omega)]

theorem NeverWraps.toNat_foldl {ns : List UInt64} (h : NeverWraps ns) :
    (ns.foldl (· + ·) 0).toNat = (ns.map UInt64.toNat).sum := by
  have hall := h ns.length
  rwa [List.take_length] at hall

theorem toNat_min (m n : UInt64) : (min m n).toNat = min m.toNat n.toNat := by
  simp only [UInt64.min_def, Nat.min_def, UInt64.le_iff_toNat_le]
  split_ifs <;> rfl

def countIn (ds : List Delta) (w : String) : Nat :=
  ((ds.find? fun d => d.word = w).map fun d => d.count.toNat).getD 0

namespace Bag

def exactTotal (b : Bag) : Nat := (b.entries.map fun e => e.2.toNat).sum

theorem count_eq_of_mem {b : Bag} {w : String} {n : UInt64} (h : (w, n) ∈ b.entries) :
    b.count w = n := by
  obtain ⟨es, hnodup⟩ := b
  simp only [count] at h ⊢
  induction es with
  | nil => cases h
  | cons e es ih =>
    obtain ⟨v, m⟩ := e
    rw [List.map_cons, List.nodup_cons] at hnodup
    rcases List.mem_cons.mp h with heq | hmem
    · obtain ⟨rfl, rfl⟩ := Prod.mk.injEq .. ▸ heq
      simp
    · have hne : w ≠ v := by
        rintro rfl
        exact hnodup.1 (List.mem_map.mpr ⟨_, hmem, rfl⟩)
      rw [List.lookup_cons, beq_false_of_ne hne]
      exact ih hnodup.2 hmem

theorem mem_words_of_count_pos {b : Bag} {w : String} (h : 0 < (b.count w).toNat) :
    w ∈ b.words := by
  by_contra hnot
  rw [count_eq_zero_of_notMem hnot] at h
  exact Nat.lt_irrefl 0 h

theorem mem_entries_of_count_pos {b : Bag} {w : String} (h : 0 < (b.count w).toNat) :
    (w, b.count w) ∈ b.entries := by
  obtain ⟨⟨v, n⟩, he, rfl⟩ := List.mem_map.mp (mem_words_of_count_pos h)
  rwa [count_eq_of_mem he]

theorem sum_entries (b : Bag) (f : String → UInt64 → Nat) (hf : ∀ w, f w 0 = 0) {s : Finset String}
    (hs : ∀ w ∈ b.words, w ∈ s) :
    (b.entries.map fun e => f e.1 e.2).sum = ∑ w ∈ s, f w (b.count w) := by
  have hwords : (b.entries.map fun e => f e.1 e.2) = b.words.map fun w => f w (b.count w) := by
    rw [words, List.map_map]
    refine List.map_congr_left fun e he => ?_
    rw [Function.comp_apply, count_eq_of_mem he]
  rw [hwords, ← List.sum_toFinset (fun w => f w (b.count w)) (l := b.words) b.nodup]
  refine Finset.sum_subset (fun w hw => hs w (List.mem_toFinset.mp hw)) fun w _ hw => ?_
  rw [count_eq_zero_of_notMem fun h => hw (List.mem_toFinset.mpr h), hf]

theorem exactTotal_eq_sum (b : Bag) {s : Finset String} (hs : ∀ w ∈ b.words, w ∈ s) :
    b.exactTotal = ∑ w ∈ s, (b.count w).toNat :=
  b.sum_entries (fun _ n => n.toNat) (fun _ => rfl) hs

def bothWords (b c : Bag) : Finset String := b.words.toFinset ∪ c.words.toFinset

theorem mem_bothWords {b c : Bag} {w : String} : w ∈ b.bothWords c ↔ w ∈ b.words ∨ w ∈ c.words := by
  rw [bothWords, Finset.mem_union, List.mem_toFinset, List.mem_toFinset]

theorem sum_entries_congr {b c : Bag} (h : ∀ w, b.count w = c.count w) (f : String → UInt64 → Nat)
    (hf : ∀ w, f w 0 = 0) :
    (b.entries.map fun e => f e.1 e.2).sum = (c.entries.map fun e => f e.1 e.2).sum := by
  rw [b.sum_entries f hf fun _ hw => mem_bothWords.mpr (.inl hw),
    c.sum_entries f hf fun _ hw => mem_bothWords.mpr (.inr hw)]
  refine Finset.sum_congr rfl fun w _ => ?_
  rw [h]

theorem mem_surplus {a b : Bag} {d : Delta} :
    d ∈ a.surplus b ↔
      b.count d.word < a.count d.word ∧ d.count = a.count d.word - b.count d.word := by
  rw [surplus, List.mem_mergeSort, List.mem_filterMap]
  constructor
  · rintro ⟨⟨w, n⟩, he, hd⟩
    have hn := count_eq_of_mem he
    by_cases hlt : b.count w < n
    · obtain rfl : ⟨w, n - b.count w⟩ = d := by simpa [hlt] using hd
      exact ⟨hn ▸ hlt, by rw [hn]⟩
    · simp [hlt] at hd
  · rintro ⟨hlt, hcount⟩
    have hpos : 0 < (a.count d.word).toNat :=
      Nat.zero_lt_of_lt (UInt64.lt_iff_toNat_lt.mp hlt)
    refine ⟨_, mem_entries_of_count_pos hpos, ?_⟩
    dsimp only
    rw [if_pos hlt, ← hcount]

theorem toNat_count_of_mem_surplus {a b : Bag} {d : Delta} (h : d ∈ a.surplus b) :
    d.count.toNat + (b.count d.word).toNat = (a.count d.word).toNat := by
  obtain ⟨hlt, hcount⟩ := mem_surplus.mp h
  have hlt := UInt64.lt_iff_toNat_lt.mp hlt
  rw [hcount, UInt64.toNat_sub_of_le _ _ (UInt64.le_iff_toNat_le.mpr hlt.le)]
  omega

theorem pairwise_mergeSort_words {α : Type} (word : α → String) (l : List α) :
    (l.mergeSort fun x y => decide (word x ≤ word y)).Pairwise fun x y => word x ≤ word y := by
  have hsorted := @List.pairwise_mergeSort α (fun x y => decide (word x ≤ word y))
    (fun x y z hxy hyz => by
      simp only [decide_eq_true_eq] at hxy hyz ⊢
      exact String.le_trans hxy hyz)
    (fun x y => by simpa using String.le_total (word x) (word y)) l
  simpa only [decide_eq_true_eq] using hsorted

theorem pairwise_surplus (a b : Bag) : (a.surplus b).Pairwise fun x y => x.word < y.word := by
  have hentries : a.entries.Pairwise fun x y => x.1 ≠ y.1 := List.pairwise_map.mp a.nodup
  have hne : (a.surplus b).Pairwise fun x y => x.word ≠ y.word := by
    refine ((List.mergeSort_perm _ _).pairwise_iff Ne.symm).mpr ?_
    refine List.pairwise_filterMap.mpr (hentries.imp ?_)
    rintro ⟨v, m⟩ ⟨w, n⟩ hvw d hd d' hd'
    simp only [Option.ite_none_right_eq_some, Option.some.injEq] at hd hd'
    obtain ⟨-, rfl⟩ := hd
    obtain ⟨-, rfl⟩ := hd'
    exact hvw
  have hle : (a.surplus b).Pairwise fun x y => x.word ≤ y.word := pairwise_mergeSort_words Delta.word _
  exact hle.imp₂ (fun x y hxy hne => lt_of_le_of_ne hxy hne) hne

theorem nodup_words_surplus (a b : Bag) : ((a.surplus b).map Delta.word).Nodup :=
  List.pairwise_map.mpr ((a.pairwise_surplus b).imp fun h => String.ne_of_lt h)

theorem countIn_surplus (a b : Bag) (w : String) :
    countIn (a.surplus b) w = (a.count w).toNat - (b.count w).toNat := by
  unfold countIn
  cases hfind : (a.surplus b).find? fun d => d.word = w with
  | some d =>
    obtain rfl : d.word = w := by simpa using List.find?_some hfind
    have hd := toNat_count_of_mem_surplus (List.mem_of_find?_eq_some hfind)
    rw [Option.map_some, Option.getD_some]
    omega
  | none =>
    have hle : ¬ b.count w < a.count w := by
      intro hlt
      have hmem : (⟨w, a.count w - b.count w⟩ : Delta) ∈ a.surplus b := mem_surplus.mpr ⟨hlt, rfl⟩
      simpa using List.find?_eq_none.mp hfind _ hmem
    rw [UInt64.lt_iff_toNat_lt] at hle
    rw [Option.map_none, Option.getD_none]
    omega

theorem sum_surplus (a b : Bag) {s : Finset String} (hs : ∀ w ∈ a.words, w ∈ s) :
    ((a.surplus b).map fun d => d.count.toNat).sum
      = ∑ w ∈ s, ((a.count w).toNat - (b.count w).toNat) := by
  have hwords : ((a.surplus b).map fun d => d.count.toNat)
      = ((a.surplus b).map Delta.word).map fun w => (a.count w).toNat - (b.count w).toNat := by
    rw [List.map_map]
    refine List.map_congr_left fun d hd => ?_
    rw [Function.comp_apply, ← toNat_count_of_mem_surplus hd, Nat.add_sub_cancel]
  rw [hwords, ← List.sum_toFinset _ (a.nodup_words_surplus b)]
  refine Finset.sum_subset (fun w hw => ?_) fun w _ hw => ?_
  · obtain ⟨d, hd, rfl⟩ := List.mem_map.mp (List.mem_toFinset.mp hw)
    have hlt := UInt64.lt_iff_toNat_lt.mp (mem_surplus.mp hd).1
    exact hs _ (mem_words_of_count_pos (Nat.zero_lt_of_lt hlt))
  · refine Nat.sub_eq_zero_of_le (Nat.not_lt.mp fun hlt => hw ?_)
    exact List.mem_toFinset.mpr (List.mem_map.mpr
      ⟨⟨w, a.count w - b.count w⟩, mem_surplus.mpr ⟨UInt64.lt_iff_toNat_lt.mpr hlt, rfl⟩, rfl⟩)

theorem surplus_congr {a b c d : Bag} (hac : ∀ w, a.count w = c.count w)
    (hbd : ∀ w, b.count w = d.count w) : a.surplus b = c.surplus d := by
  have hperm : (a.surplus b).Perm (c.surplus d) := by
    refine (List.perm_ext_iff_of_nodup (nodup_words_surplus a b).of_map
      (nodup_words_surplus c d).of_map).mpr fun x => ?_
    rw [mem_surplus, mem_surplus, hac, hbd]
  exact hperm.eq_of_pairwise (fun x y _ _ hxy hyx => absurd hyx (lt_asymm hxy))
    (a.pairwise_surplus b) (c.pairwise_surplus d)

def exactMatched (output source : Bag) : Nat :=
  (source.entries.map fun e => (min (output.count e.1) e.2).toNat).sum

theorem exactMatched_eq_sum (output source : Bag) {s : Finset String}
    (hs : ∀ w ∈ source.words, w ∈ s) :
    output.exactMatched source = ∑ w ∈ s, min (output.count w).toNat (source.count w).toNat := by
  have hsum := source.sum_entries (fun w n => (min (output.count w) n).toNat)
    (fun w => by rw [toNat_min, UInt64.toNat_zero, Nat.min_zero]) hs
  simpa only [exactMatched, toNat_min] using hsum

theorem total_congr {b c : Bag} (h : ∀ w, b.count w = c.count w) : b.total = c.total := by
  apply foldl_add_congr
  rw [List.map_map, List.map_map]
  exact sum_entries_congr h (fun _ n => n.toNat) fun _ => rfl

theorem matched_congr {a b c d : Bag} (hac : ∀ w, a.count w = c.count w)
    (hbd : ∀ w, b.count w = d.count w) : a.matched b = c.matched d := by
  have hsum := sum_entries_congr hbd (fun w n => (min (a.count w) n).toNat)
    (fun w => by rw [toNat_min, UInt64.toNat_zero, Nat.min_zero])
  simp only [hac] at hsum
  apply foldl_add_congr
  rw [List.map_map, List.map_map]
  simp only [hac]
  exact hsum

theorem exactMatched_add_sum_surplus (output source : Bag) :
    output.exactMatched source + ((source.surplus output).map fun d => d.count.toNat).sum
      = source.exactTotal := by
  have hs : ∀ w ∈ source.words, w ∈ source.words.toFinset := fun w hw => List.mem_toFinset.mpr hw
  rw [exactMatched_eq_sum output source hs, source.sum_surplus output hs,
    source.exactTotal_eq_sum hs, ← Finset.sum_add_distrib]
  refine Finset.sum_congr rfl fun w _ => ?_
  omega

theorem exactMatched_comm (b c : Bag) : b.exactMatched c = c.exactMatched b := by
  rw [exactMatched_eq_sum b c fun _ hw => mem_bothWords.mpr (.inr hw),
    exactMatched_eq_sum c b fun _ hw => mem_bothWords.mpr (.inl hw)]
  refine Finset.sum_congr rfl fun w _ => ?_
  rw [Nat.min_comm]

end Bag

/-- The list `ds` says what `a` has beyond `b`: each word once, in the order of their bytes, and by
a difference that is positive and exact. -/
structure IsSurplus (ds : List Delta) (a b : Bag) : Prop where
  sorted : ds.Pairwise fun x y => Text.utf8Bytes x.word < Text.utf8Bytes y.word
  pos : ∀ d ∈ ds, 0 < d.count
  exact : ∀ d ∈ ds, d.count.toNat + (b.count d.word).toNat = (a.count d.word).toNat

theorem isSurplus_surplus (a b : Bag) : IsSurplus (a.surplus b) a b where
  sorted := (a.pairwise_surplus b).imp Text.utf8Bytes_lt
  pos := by
    intro d hd
    have hexact := Bag.toNat_count_of_mem_surplus hd
    have hlt := UInt64.lt_iff_toNat_lt.mp (Bag.mem_surplus.mp hd).1
    rw [UInt64.lt_iff_toNat_lt, UInt64.toNat_zero]
    omega
  exact := fun _ hd => Bag.toNat_count_of_mem_surplus hd

/-- What a comparison owes its two bags, all of it in unbounded arithmetic. -/
structure Comparison.Balances (c : Comparison) (output source : Bag) : Prop where
  missing : IsSurplus c.missing source output
  extra : IsSurplus c.extra output source
  disjoint : ∀ x ∈ c.missing, ∀ y ∈ c.extra, x.word ≠ y.word
  count_add : ∀ w, (output.count w).toNat + countIn c.missing w
    = (source.count w).toNat + countIn c.extra w
  sourceTotal : c.sourceTotal.toNat = source.exactTotal
  outputTotal : c.outputTotal.toNat = output.exactTotal
  matched_add_missing :
    c.matched.toNat + (c.missing.map fun d => d.count.toNat).sum = source.exactTotal
  matched_add_extra :
    c.matched.toNat + (c.extra.map fun d => d.count.toNat).sum = output.exactTotal
  source_neverWraps : NeverWraps (source.entries.map Prod.snd)
  output_neverWraps : NeverWraps (output.entries.map Prod.snd)
  matched_neverWraps : NeverWraps (source.entries.map fun e => min (output.count e.1) e.2)

structure Comparison.MatchedWithin (c : Comparison) : Prop where
  output : c.matched.toNat ≤ c.outputTotal.toNat
  source : c.matched.toNat ≤ c.sourceTotal.toNat

theorem Comparison.Balances.matchedWithin {c : Comparison} {output source : Bag}
    (h : c.Balances output source) : c.MatchedWithin := by
  have houtput := h.outputTotal
  have hsource := h.sourceTotal
  have hmissing := h.matched_add_missing
  have hextra := h.matched_add_extra
  constructor <;> omega

namespace Bag

theorem neverWraps_counts {b : Bag} (h : b.exactTotal < 2 ^ 64) :
    NeverWraps (b.entries.map Prod.snd) := by
  apply neverWraps_of_sum_lt
  rwa [List.map_map]

theorem neverWraps_matched {output source : Bag} (h : source.exactTotal < 2 ^ 64) :
    NeverWraps (source.entries.map fun e => min (output.count e.1) e.2) := by
  apply neverWraps_of_sum_lt
  have hsum := exactMatched_add_sum_surplus output source
  rw [exactMatched] at hsum
  rw [List.map_map, Function.comp_def]
  omega

theorem toNat_total {b : Bag} (h : b.exactTotal < 2 ^ 64) : b.total.toNat = b.exactTotal := by
  rw [total, (neverWraps_counts h).toNat_foldl, List.map_map]
  rfl

theorem toNat_matched {output source : Bag} (h : source.exactTotal < 2 ^ 64) :
    (output.matched source).toNat = output.exactMatched source := by
  rw [matched, (neverWraps_matched h).toNat_foldl, List.map_map]
  rfl

theorem balances_compare {output source : Bag} (ho : output.exactTotal < 2 ^ 64)
    (hs : source.exactTotal < 2 ^ 64) : (output.compare source).Balances output source where
  missing := isSurplus_surplus source output
  extra := isSurplus_surplus output source
  disjoint := by
    intro x hx y hy heq
    have hlt := (mem_surplus.mp hx).1
    have hgt := (mem_surplus.mp hy).1
    rw [heq] at hlt
    exact UInt64.lt_asymm hlt hgt
  count_add := by
    intro w
    change _ + countIn (source.surplus output) w = _ + countIn (output.surplus source) w
    rw [countIn_surplus, countIn_surplus]
    omega
  sourceTotal := toNat_total hs
  outputTotal := toNat_total ho
  matched_add_missing := by
    change (output.matched source).toNat + _ = _
    rw [toNat_matched hs]
    exact exactMatched_add_sum_surplus output source
  matched_add_extra := by
    change (output.matched source).toNat + _ = _
    rw [toNat_matched hs, exactMatched_comm]
    exact exactMatched_add_sum_surplus source output
  source_neverWraps := neverWraps_counts hs
  output_neverWraps := neverWraps_counts ho
  matched_neverWraps := neverWraps_matched hs

theorem compare_congr {a b c d : Bag} (hac : ∀ w, a.count w = c.count w)
    (hbd : ∀ w, b.count w = d.count w) : a.compare b = c.compare d := by
  rw [compare, compare, matched_congr hac hbd, total_congr hac, total_congr hbd,
    surplus_congr hac hbd, surplus_congr hbd hac]

theorem compare_balances_and_depends_on_counts (output source : Bag)
    (ho : output.exactTotal < 2 ^ 64) (hs : source.exactTotal < 2 ^ 64) :
    (output.compare source).Balances output source ∧
      ∀ output' source' : Bag, (∀ w, output'.count w = output.count w) →
        (∀ w, source'.count w = source.count w) →
          output'.compare source' = output.compare source :=
  ⟨balances_compare ho hs, fun _ _ ho' hs' => compare_congr ho' hs'⟩

theorem compare_balances_at_limit :
    (ofEntries [("cat", 0), ("the", 4), ("dog", 1)]).exactTotal = 5 ∧
      (ofEntries [("the", 18446744073709551614), ("cat", 1)]).exactTotal = 2 ^ 64 - 1 ∧
      ((ofEntries [("cat", 0), ("the", 4), ("dog", 1)]).compare
        (ofEntries [("the", 18446744073709551614), ("cat", 1)])).Balances
        (ofEntries [("cat", 0), ("the", 4), ("dog", 1)])
        (ofEntries [("the", 18446744073709551614), ("cat", 1)]) ∧
      (ofEntries [("dog", 1), ("the", 4)]).compare
          (ofEntries [("cat", 1), ("the", 18446744073709551614)])
        = (ofEntries [("cat", 0), ("the", 4), ("dog", 1)]).compare
          (ofEntries [("the", 18446744073709551614), ("cat", 1)]) := by
  have ho : (ofEntries [("cat", 0), ("the", 4), ("dog", 1)]).exactTotal = 5 := by decide
  have hs : (ofEntries [("the", 18446744073709551614), ("cat", 1)]).exactTotal = 2 ^ 64 - 1 := by
    decide
  obtain ⟨hbalances, hcounts⟩ := compare_balances_and_depends_on_counts _ _
    (lt_of_eq_of_lt ho (by decide)) (lt_of_eq_of_lt hs (by decide))
  refine ⟨ho, hs, hbalances, hcounts _ _ (fun w => ?_) fun w => ?_⟩
  · simp only [ofEntries, List.foldl_cons, List.foldl_nil, count_insert, count_empty]
    split_ifs <;> simp_all
  · simp only [ofEntries, List.foldl_cons, List.foldl_nil, count_insert, count_empty]
    split_ifs <;> simp_all

end Bag
end Fidelity
