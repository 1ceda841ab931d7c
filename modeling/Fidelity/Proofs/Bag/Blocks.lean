import Fidelity.Proofs.Bag.Seam

/-!
# Where the fragments go

A fragment is counted, or it is part of a block of single characters that is discarded, or it is
empty. Main statement: the notes of discarded runs are the blocks of the list, one note for each and
from left to right, and counts, discarded characters and empty fragments add up to the fragments.
-/
namespace Fidelity

namespace Bag

/-- The fragments from `i` up to `j` are single characters, two or more, and no neighbour is one. -/
structure IsBlock (fs : List String) (i j : Nat) : Prop where
  two_le : i + 2 ≤ j
  single : ∀ k, i ≤ k → k < j → singleAt fs k = true
  left : singleBefore false fs i = false
  right : singleAt fs j = false

structure AreBlocks (fs : List String) (spans : List (Nat × Nat)) : Prop where
  mem_iff : ∀ i j, (i, j) ∈ spans ↔ IsBlock fs i j
  ordered : spans.Pairwise fun s t => s.2 ≤ t.1

def textWithin (fs : List String) (span : Nat × Nat) : String :=
  String.join (fs.extract span.1 span.2)

variable {fs xs ys run : List String} {f : String} {i j k : Nat}

theorem lt_length_of_singleAt (h : singleAt fs k = true) : k < fs.length := by
  by_contra hle
  rw [singleAt, List.getElem?_eq_none (Nat.le_of_not_lt hle)] at h
  exact Bool.false_ne_true h

theorem singleAt_length (fs : List String) : singleAt fs fs.length = false := by
  rw [singleAt, List.getElem?_eq_none le_rfl]
  rfl

theorem singleAt_append_left (ys : List String) (hk : k < xs.length) :
    singleAt (xs ++ ys) k = singleAt xs k := by
  rw [singleAt, List.getElem?_append_left hk]
  rfl

theorem singleAt_append_right (xs ys : List String) (k : Nat) :
    singleAt (xs ++ ys) (xs.length + k) = singleAt ys k := by
  rw [singleAt, List.getElem?_append_right (Nat.le_add_right _ _), Nat.add_sub_cancel_left]
  rfl

theorem singleBefore_append_left (ys : List String) (hk : k ≤ xs.length) :
    singleBefore false (xs ++ ys) k = singleBefore false xs k := by
  cases k with
  | zero => rfl
  | succ k => exact singleAt_append_left ys hk

theorem singleBefore_append_right (xs ys : List String) (k : Nat) :
    singleBefore false (xs ++ ys) (xs.length + k) =
      singleBefore (singleBefore false xs xs.length) ys k := by
  cases k with
  | zero => exact singleBefore_append_left ys le_rfl
  | succ k => exact singleAt_append_right xs ys k

theorem IsBlock.single_first (h : IsBlock fs i j) : singleAt fs i = true :=
  h.single i le_rfl (by have := h.two_le; omega)

theorem IsBlock.single_last (h : IsBlock fs i j) : singleBefore false fs j = true := by
  obtain ⟨k, rfl⟩ : ∃ k, j = i + (k + 1) + 1 := ⟨j - (i + 2), by have := h.two_le; omega⟩
  exact h.single _ (by omega) (Nat.lt_succ_self _)

theorem IsBlock.le_length (h : IsBlock fs i j) : j ≤ fs.length := by
  obtain ⟨k, rfl⟩ : ∃ k, j = k + 1 := ⟨j - 1, by have := h.two_le; omega⟩
  exact lt_length_of_singleAt h.single_last

theorem IsBlock.append_left (h : IsBlock xs i j) (hapart : Apart xs ys) :
    IsBlock (xs ++ ys) i j where
  two_le := h.two_le
  single k hi hj := by
    rw [singleAt_append_left ys (by have := h.le_length; omega)]
    exact h.single k hi hj
  left := by
    rw [singleBefore_append_left ys (by have := h.two_le; have := h.le_length; omega)]
    exact h.left
  right := by
    rcases Nat.lt_or_eq_of_le h.le_length with hlt | rfl
    · rw [singleAt_append_left ys hlt]
      exact h.right
    · rw [← Nat.add_zero xs.length, singleAt_append_right]
      exact hapart.resolve_left (by simp [h.single_last])

theorem IsBlock.append_right (h : IsBlock ys i j) (hapart : Apart xs ys) :
    IsBlock (xs ++ ys) (xs.length + i) (xs.length + j) where
  two_le := by have := h.two_le; omega
  single k hi hj := by
    obtain ⟨m, rfl⟩ : ∃ m, k = xs.length + m := ⟨k - xs.length, by omega⟩
    rw [singleAt_append_right]
    exact h.single m (by omega) (by omega)
  left := by
    rw [singleBefore_append_right]
    cases i with
    | zero => exact hapart.resolve_right (by simp [h.single_first])
    | succ i => exact h.left
  right := by
    rw [singleAt_append_right]
    exact h.right

theorem IsBlock.of_append_left (h : IsBlock (xs ++ ys) i j) (hj : j ≤ xs.length) :
    IsBlock xs i j where
  two_le := h.two_le
  single k hi hk := by
    rw [← singleAt_append_left ys (by omega)]
    exact h.single k hi hk
  left := by
    rw [← singleBefore_append_left ys (by have := h.two_le; omega)]
    exact h.left
  right := by
    rcases Nat.lt_or_eq_of_le hj with hlt | rfl
    · rw [← singleAt_append_left ys hlt]
      exact h.right
    · exact singleAt_length xs

theorem IsBlock.of_append_right (h : IsBlock (xs ++ ys) (xs.length + i) (xs.length + j)) :
    IsBlock ys i j where
  two_le := by have := h.two_le; omega
  single k hi hj := by
    rw [← singleAt_append_right xs]
    exact h.single _ (by omega) (by omega)
  left := by
    cases i with
    | zero => rfl
    | succ i =>
      have hleft := h.left
      rwa [singleBefore_append_right] at hleft
  right := by
    rw [← singleAt_append_right xs]
    exact h.right

theorem not_isBlock_across (hapart : Apart xs ys) (hi : i < xs.length) (hj : xs.length < j) :
    ¬IsBlock (xs ++ ys) i j := by
  intro h
  obtain ⟨n, hn⟩ : ∃ n, xs.length = n + 1 := ⟨xs.length - 1, by omega⟩
  have hbefore : singleBefore false xs xs.length = true := by
    rw [hn, singleBefore, ← singleAt_append_left ys (by omega)]
    exact h.single n (by omega) (by omega)
  have hbehind : singleAt ys 0 = true := by
    rw [← singleAt_append_right xs]
    exact h.single _ (by omega) (by omega)
  rcases hapart with hxs | hys
  · simp [hbefore] at hxs
  · simp [hbehind] at hys

theorem isBlock_append_iff (hapart : Apart xs ys) :
    IsBlock (xs ++ ys) i j ↔
      IsBlock xs i j ∨ ∃ i' j', IsBlock ys i' j' ∧ xs.length + i' = i ∧ xs.length + j' = j := by
  constructor
  · intro h
    have htwo := h.two_le
    rcases Nat.lt_or_ge xs.length j with hj | hj
    · rcases Nat.lt_or_ge i xs.length with hi | hi
      · exact absurd h (not_isBlock_across hapart hi hj)
      · obtain ⟨i', rfl⟩ := Nat.exists_eq_add_of_le hi
        obtain ⟨j', rfl⟩ := Nat.exists_eq_add_of_le hj.le
        exact .inr ⟨i', j', h.of_append_right, rfl, rfl⟩
    · exact .inl (h.of_append_left hj)
  · rintro (h | ⟨i', j', h, rfl, rfl⟩)
    · exact h.append_left hapart
    · exact h.append_right hapart

def shift (n : Nat) (span : Nat × Nat) : Nat × Nat := (n + span.1, n + span.2)

theorem AreBlocks.append {ss ts : List (Nat × Nat)} (hs : AreBlocks xs ss) (ht : AreBlocks ys ts)
    (hapart : Apart xs ys) : AreBlocks (xs ++ ys) (ss ++ ts.map (shift xs.length)) where
  mem_iff i j := by
    rw [isBlock_append_iff hapart, List.mem_append, hs.mem_iff, List.mem_map]
    simp [shift, ht.mem_iff]
  ordered := by
    rw [List.pairwise_append, List.pairwise_map]
    refine ⟨hs.ordered, ht.ordered.imp fun h => Nat.add_le_add_left h _, ?_⟩
    rintro ⟨i, j⟩ hij t ht
    obtain ⟨u, -, rfl⟩ := List.mem_map.mp ht
    exact ((hs.mem_iff i j).mp hij).le_length.trans (Nat.le_add_right _ _)

theorem textWithin_append_left {span : Nat × Nat} (h : span.2 ≤ xs.length) :
    textWithin (xs ++ ys) span = textWithin xs span := by
  rw [textWithin, textWithin, List.extract_eq_take_drop, List.extract_eq_take_drop,
    ← List.drop_take, ← List.drop_take, List.take_append_of_le_length h]

theorem textWithin_append_right (xs ys : List String) (span : Nat × Nat) :
    textWithin (xs ++ ys) (shift xs.length span) = textWithin ys span := by
  rw [textWithin, textWithin, List.extract_eq_take_drop, List.extract_eq_take_drop, shift,
    List.drop_length_add_append, Nat.add_sub_add_left]

/-- The texts are those of the blocks, from left to right. -/
def ListBlocks (fs texts : List String) : Prop :=
  ∃ spans, AreBlocks fs spans ∧ spans.map (textWithin fs) = texts

theorem ListBlocks.append {us vs : List String} (hu : ListBlocks xs us) (hv : ListBlocks ys vs)
    (hapart : Apart xs ys) : ListBlocks (xs ++ ys) (us ++ vs) := by
  obtain ⟨ss, hs, rfl⟩ := hu
  obtain ⟨ts, ht, rfl⟩ := hv
  refine ⟨_, hs.append ht hapart, ?_⟩
  rw [List.map_append, List.map_map]
  congr 1
  · refine List.map_congr_left fun ⟨i, j⟩ hij => ?_
    exact textWithin_append_left ((hs.mem_iff i j).mp hij).le_length
  · exact List.map_congr_left fun t _ => textWithin_append_right xs ys t

theorem isBlock_iff_of_single (hrun : ∀ g ∈ run, isSingle g = true) :
    IsBlock run i j ↔ 2 ≤ run.length ∧ i = 0 ∧ j = run.length := by
  have hall : ∀ k < run.length, singleAt run k = true := by
    intro k hk
    rw [singleAt, List.getElem?_eq_getElem hk, Option.any_some]
    exact hrun _ (List.getElem_mem hk)
  constructor
  · intro h
    have htwo := h.two_le
    have hle := h.le_length
    have hj : j = run.length := by
      by_contra hne
      have hright := h.right
      rw [hall j (by omega)] at hright
      exact absurd hright (by decide)
    cases i with
    | zero => exact ⟨by omega, rfl, hj⟩
    | succ i =>
      have hleft := h.left
      rw [singleBefore, hall i (by omega)] at hleft
      exact absurd hleft (by decide)
  · rintro ⟨htwo, rfl, rfl⟩
    exact ⟨by omega, fun k _ hk => hall k hk, rfl, singleAt_length run⟩

theorem areBlocks_nil (h : ∀ i j, ¬IsBlock fs i j) : AreBlocks fs [] where
  mem_iff i j := iff_of_false List.not_mem_nil (h i j)
  ordered := .nil

theorem listBlocks_run (hrun : ∀ g ∈ run, isSingle g = true) :
    ListBlocks run (sift run).shredded := by
  rw [sift_run hrun]
  split_ifs with htwo
  · refine ⟨[(0, run.length)], ⟨fun i j => ?_, List.pairwise_singleton _ _⟩, ?_⟩
    · rw [isBlock_iff_of_single hrun]
      simp [htwo]
    · rw [List.map_singleton, textWithin, List.extract_eq_take_drop, Nat.sub_zero, List.drop_zero,
        List.take_length]
  · exact ⟨[], areBlocks_nil fun i j h => htwo ((isBlock_iff_of_single hrun).mp h).1, rfl⟩

theorem listBlocks_other (hf : isSingle f = false) : ListBlocks [f] (sift [f]).shredded := by
  rw [sift_other hf]
  refine ⟨[], areBlocks_nil fun i j h => ?_, rfl⟩
  have htwo := h.two_le
  have hle := h.le_length
  rw [List.length_singleton] at hle
  omega

theorem listBlocks_sift (fs : List String) : ListBlocks fs (sift fs).shredded := by
  induction fs using apart_induction with
  | run run hrun => exact listBlocks_run hrun
  | other f hf => exact listBlocks_other hf
  | append xs ys hapart hxs hys =>
    rw [sift_append hapart]
    exact hxs.append hys hapart

def Sifted.size (s : Sifted) : Nat := s.kept.length + (s.shredded.map String.length).sum

theorem Sifted.size_append (x y : Sifted) : (x ++ y).size = x.size + y.size := by
  simp only [size, kept_append, shredded_append, List.length_append, List.map_append,
    List.sum_append]
  omega

theorem size_run (hrun : ∀ g ∈ run, isSingle g = true) :
    (sift run).size + run.count "" = run.length := by
  have hnone : run.count "" = 0 :=
    List.count_eq_zero.mpr fun hmem => absurd (isSingle_iff.mp (hrun "" hmem)) (by decide)
  rw [sift_run hrun, hnone]
  split_ifs with htwo
  · simp [Sifted.size, length_join_of_single hrun]
  · simp [Sifted.size]

theorem size_other (hf : isSingle f = false) : (sift [f]).size + [f].count "" = 1 := by
  rw [sift_other hf, Sifted.size]
  by_cases hempty : f = ""
  · simp [hempty]
  · simp [hempty]

theorem size_sift (fs : List String) : (sift fs).size + fs.count "" = fs.length := by
  induction fs using apart_induction with
  | run run hrun => exact size_run hrun
  | other f hf => exact size_other hf
  | append xs ys hapart hxs hys =>
    rw [sift_append hapart, Sifted.size_append, List.count_append, List.length_append]
    omega

theorem total_ofFragments (fs : List String) :
    (ofFragments fs).total = UInt64.ofNat (sift fs).kept.length := by
  rw [← UInt64.toNat_inj, UInt64.toNat_ofNat']
  calc
    (ofFragments fs).total.toNat = (ofFragments fs).exactTotal % 2 ^ 64 := by
      rw [total, toNat_foldl_add, UInt64.toNat_zero, Nat.zero_add, List.map_map]
      rfl
    _ = (∑ w ∈ (sift fs).kept.toFinset, (sift fs).kept.count w) % 2 ^ 64 := by
      rw [exactTotal_ofFragments, ← Finset.sum_nat_mod]
    _ = (sift fs).kept.length % 2 ^ 64 := by rw [List.sum_toFinset_count_eq_length]

theorem exactTotal_ofFragments_of_lt (h : fs.length < 2 ^ 64) :
    (ofFragments fs).exactTotal = (sift fs).kept.length := by
  have hkept := (kept_sift_sublist fs).length_le
  rw [← toNat_total ((exactTotal_ofFragments_le fs).trans_lt h), total_ofFragments,
    UInt64.toNat_ofNat', Nat.mod_eq_of_lt (by omega)]

end Bag

/-- Each fragment is counted, discarded or empty; only that no sum wraps takes a list whose length a
machine word holds. -/
theorem Tokenizer.sift_accounts_for_fragments {α : Type} (fs : List String) :
    ∃ runs : List String, Bag.ListBlocks fs runs ∧
      (sift fs : Logged α Bag).events = runs.map .shreddedRun ∧
      (∀ n, fs.length ≤ n → (Bag.Cursor.start.run fs n).discarded = runs) ∧
      (sift fs : Logged α Bag).value.total + UInt64.ofNat (runs.map String.length).sum +
        UInt64.ofNat (fs.count "") = UInt64.ofNat fs.length ∧
      (fs.length < 2 ^ 64 →
        (sift fs : Logged α Bag).value.exactTotal + (runs.map String.length).sum + fs.count "" =
          fs.length) := by
  have hsize := Bag.size_sift fs
  rw [Bag.Sifted.size] at hsize
  refine ⟨(Bag.sift fs).shredded, Bag.listBlocks_sift fs, rfl, fun n hn => ?_, ?_, fun h => ?_⟩
  · exact (Bag.Cursor.run_start fs hn).2.2
  · change (Bag.ofFragments fs).total + _ + _ = _
    rw [Bag.total_ofFragments, ← UInt64.ofNat_add, ← UInt64.ofNat_add, hsize]
  · change (Bag.ofFragments fs).exactTotal + _ + _ = _
    rw [Bag.exactTotal_ofFragments_of_lt h, hsize]

def Bag.twoBlocks : List String := ["a", "b", "", "dog", "c", "d", "e"]

theorem Tokenizer.sift_accounts_for_two_blocks :
    Bag.twoBlocks.length < 2 ^ 64 ∧ Bag.twoBlocks.length ≤ 7 ∧
      ∃ runs : List String, Bag.ListBlocks Bag.twoBlocks runs ∧ runs = ["ab", "cde"] ∧
        (Bag.Cursor.start.run Bag.twoBlocks 7).discarded = runs ∧
        (sift Bag.twoBlocks : Logged ℚ Bag).value.exactTotal + 5 + 1 = 7 := by
  have hlength : Bag.twoBlocks.length < 2 ^ 64 := by decide
  have hturns : Bag.twoBlocks.length ≤ 7 := by decide
  obtain ⟨runs, hblocks, -, hcursor, -, hexact⟩ :=
    sift_accounts_for_fragments (α := ℚ) Bag.twoBlocks
  have hruns : runs = ["ab", "cde"] := by
    rw [← hcursor 7 hturns]
    decide
  refine ⟨hlength, hturns, runs, hblocks, hruns, hcursor 7 hturns, ?_⟩
  have hsum := hexact hlength
  rw [hruns] at hsum
  exact hsum

end Fidelity
