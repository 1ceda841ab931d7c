import Fidelity.Proofs.Bag.Seam

/-!
# Fragments read backwards and cut

Whether a fragment stands is a matter of its two neighbours, so no direction shows in a bag, and a
cut shows only where it parts a run. Main statement: the bag is the same when the fragments are read
backwards, and it is the sum of the bags on both sides of a cut, where the parts of a run that is
cut belong to neither.
-/
namespace Fidelity.Bag

variable {xs ys : List String} {w : String} {k : Nat}

theorem StandsAt.reverse (h : StandsAt xs w k) : StandsAt xs.reverse w (xs.length - 1 - k) := by
  obtain ⟨hget, hword⟩ := h
  have hk : k < xs.length := (List.getElem?_eq_some_iff.mp hget).1
  have hback : xs.length - 1 - (xs.length - 1 - k) = k := by omega
  refine ⟨?_, hword.imp_right fun ⟨hone, hnear⟩ => ⟨hone, fun j v hj hv => ?_⟩⟩
  · rwa [List.getElem?_reverse (by omega), hback]
  · have hlt : j < xs.length := by
      simpa using (List.getElem?_eq_some_iff.mp hv).1
    rw [List.getElem?_reverse hlt] at hv
    exact hnear _ v (by omega) hv

theorem standsAt_reverse_iff (hk : k < xs.length) :
    StandsAt xs.reverse w (xs.length - 1 - k) ↔ StandsAt xs w k := by
  have hback : xs.length - 1 - (xs.length - 1 - k) = k := by omega
  constructor
  · intro h
    have htwice := h.reverse
    rwa [List.reverse_reverse, List.length_reverse, hback] at htwice
  · exact StandsAt.reverse

theorem standCount_reverse (xs : List String) (w : String) :
    standCount xs.reverse w = standCount xs w := by
  have hrange : (List.range xs.length).reverse =
      (List.range xs.length).map fun k => xs.length - 1 - k := by
    rw [List.range_eq_range', List.reverse_range', List.range_eq_range']
    simp
  calc
    standCount xs.reverse w
        = (List.range xs.length).countP fun k => decide (StandsAt xs.reverse w k) := by
      rw [standCount, List.length_reverse]
    _ = (List.range xs.length).reverse.countP fun k => decide (StandsAt xs.reverse w k) :=
      (List.countP_reverse ..).symm
    _ = (List.range xs.length).countP fun k => decide (StandsAt xs w k) := by
      rw [hrange, List.countP_map]
      refine List.countP_congr fun k hk => ?_
      simp [standsAt_reverse_iff (List.mem_range.mp hk)]

theorem mem_entries_iff {b : Bag} {n : UInt64} :
    (w, n) ∈ b.entries ↔ w ∈ b.words ∧ b.count w = n := by
  constructor
  · intro h
    exact ⟨List.mem_map_of_mem h, count_eq_of_mem h⟩
  · rintro ⟨hw, rfl⟩
    obtain ⟨⟨v, n⟩, he, rfl⟩ := List.mem_map.mp hw
    rwa [count_eq_of_mem he]

theorem perm_entries {a b : Bag} (hwords : ∀ w, w ∈ a.words ↔ w ∈ b.words)
    (hcount : ∀ w, a.count w = b.count w) : a.entries.Perm b.entries := by
  rw [List.perm_ext_iff_of_nodup (List.Nodup.of_map _ a.nodup) (List.Nodup.of_map _ b.nodup)]
  rintro ⟨w, n⟩
  rw [mem_entries_iff, mem_entries_iff, hwords, hcount]

theorem perm_entries_reverse (xs : List String) :
    (ofFragments xs.reverse).entries.Perm (ofFragments xs).entries := by
  apply perm_entries
  · intro w
    rw [mem_words_ofFragments, mem_words_ofFragments, standCount_reverse]
  · intro w
    rw [count_ofFragments, count_ofFragments, standCount_reverse]

/-- The last fragment in front of the cut and the first one behind it are single characters. -/
def CutsRun (xs ys : List String) : Prop :=
  ∃ f g, xs.getLast? = some f ∧ ys.head? = some g ∧ f.length = 1 ∧ g.length = 1

theorem singleAt_zero (ys : List String) : singleAt ys 0 = ys.head?.any isSingle := by
  rw [singleAt, List.head?_eq_getElem?]

theorem singleBefore_length (xs : List String) :
    singleBefore false xs xs.length = xs.getLast?.any isSingle := by
  cases xs with
  | nil => rfl
  | cons f rest =>
    rw [List.getLast?_eq_getElem?]
    rfl

theorem not_cutsRun_iff : ¬CutsRun xs ys ↔ Apart xs ys := by
  have hcuts : CutsRun xs ys ↔
      singleBefore false xs xs.length = true ∧ singleAt ys 0 = true := by
    rw [singleBefore_length, singleAt_zero, Option.any_eq_true, Option.any_eq_true]
    simp only [isSingle_iff]
    constructor
    · rintro ⟨f, g, hlast, hhead, hf, hg⟩
      exact ⟨⟨f, hlast, hf⟩, g, hhead, hg⟩
    · rintro ⟨⟨f, hlast, hf⟩, g, hhead, hg⟩
      exact ⟨f, g, hlast, hhead, hf, hg⟩
  rw [hcuts, Apart, not_and_or, Bool.not_eq_true, Bool.not_eq_true]

theorem head?_dropWhile_any (p : String → Bool) (fs : List String) :
    (fs.dropWhile p).head?.any p = false := by
  have hhead := List.head?_dropWhile_not p fs
  cases h : (fs.dropWhile p).head? with
  | none => rfl
  | some f =>
    rw [h] at hhead
    exact hhead

theorem apart_rdropWhile (xs ys : List String) : Apart (xs.rdropWhile isSingle) ys := by
  left
  rw [singleBefore_length, List.rdropWhile, List.getLast?_reverse, head?_dropWhile_any]

theorem apart_dropWhile (xs ys : List String) : Apart xs (ys.dropWhile isSingle) := by
  right
  rw [singleAt_zero, head?_dropWhile_any]

theorem kept_sift_cut (h : CutsRun xs ys) :
    (sift (xs ++ ys)).kept =
      (sift (xs.rdropWhile isSingle)).kept ++ (sift (ys.dropWhile isSingle)).kept := by
  have hrun : ∀ g ∈ xs.rtakeWhile isSingle ++ ys.takeWhile isSingle, isSingle g = true := by
    intro g hg
    rcases List.mem_append.mp hg with hg | hg
    · exact List.mem_rtakeWhile_imp hg
    · exact List.mem_takeWhile_imp hg
  have htwo : 2 ≤ (xs.rtakeWhile isSingle ++ ys.takeWhile isSingle).length := by
    obtain ⟨f, g, hlast, hhead, hf, hg⟩ := h
    obtain ⟨front, rfl⟩ := List.getLast?_eq_some_iff.mp hlast
    obtain ⟨rest, rfl⟩ := List.head?_eq_some_iff.mp hhead
    rw [List.rtakeWhile_concat_pos _ _ _ (isSingle_iff.mpr hf),
      List.takeWhile_cons_of_pos (isSingle_iff.mpr hg)]
    simp only [List.length_append, List.length_cons]
    omega
  have hsplit : xs ++ ys = xs.rdropWhile isSingle ++
      ((xs.rtakeWhile isSingle ++ ys.takeWhile isSingle) ++ ys.dropWhile isSingle) := by
    rw [List.append_assoc, List.takeWhile_append_dropWhile, ← List.append_assoc,
      List.rdropWhile_append_rtakeWhile]
  rw [hsplit, sift_append (apart_rdropWhile xs _), kept_append, sift_append (apart_dropWhile _ ys),
    kept_append, sift_run hrun, if_pos htwo, List.nil_append]

/-- The bag of `zs` is the sum of those of `xs` and `ys`, and its counts are their exact sums unless
there are more fragments than a machine word holds. -/
structure AddsUp (xs ys zs : List String) : Prop where
  isSum : IsSum (ofFragments xs) (ofFragments ys) (ofFragments zs)
  toNat_count : zs.length < 2 ^ 64 → ∀ w,
    ((ofFragments zs).count w).toNat =
      ((ofFragments xs).count w).toNat + ((ofFragments ys).count w).toNat

theorem addsUp_of_kept {zs : List String} (h : (sift zs).kept = (sift xs).kept ++ (sift ys).kept) :
    AddsUp xs ys zs :=
  ⟨isSum_of_kept h, toNat_count_of_kept h⟩

theorem bags_of_reverse_and_cut (xs ys : List String) :
    (ofFragments xs.reverse).entries.Perm (ofFragments xs).entries ∧
      (¬CutsRun xs ys → AddsUp xs ys (xs ++ ys)) ∧
      (CutsRun xs ys → AddsUp (xs.rdropWhile isSingle) (ys.dropWhile isSingle) (xs ++ ys)) := by
  refine ⟨perm_entries_reverse xs, fun h => ?_, fun h => addsUp_of_kept (kept_sift_cut h)⟩
  exact addsUp_of_kept (kept_sift_append (sift_append (not_cutsRun_iff.mp h)))

theorem bags_of_reverse_and_cut_shredded :
    CutsRun ["a", "dog", "e", "f"] ["g", "", "i"] ∧ ¬CutsRun ["a", "dog"] ["e"] ∧
      (["a", "dog", "e", "f"] ++ ["g", "", "i"]).length < 2 ^ 64 ∧
      (["a", "dog"] ++ ["e"]).length < 2 ^ 64 ∧
      ((ofFragments (["a", "dog", "e", "f"] ++ ["g", "", "i"])).count "i").toNat = 1 ∧
      ((ofFragments (["a", "dog"] ++ ["e"])).count "a").toNat = 1 := by
  have hcut : CutsRun ["a", "dog", "e", "f"] ["g", "", "i"] := ⟨"f", "g", rfl, rfl, rfl, rfl⟩
  have hwhole : ¬CutsRun ["a", "dog"] ["e"] := not_cutsRun_iff.mpr (.inl rfl)
  have hcutLength : (["a", "dog", "e", "f"] ++ ["g", "", "i"]).length < 2 ^ 64 := by decide
  have hwholeLength : (["a", "dog"] ++ ["e"]).length < 2 ^ 64 := by decide
  refine ⟨hcut, hwhole, hcutLength, hwholeLength, ?_, ?_⟩
  · rw [((bags_of_reverse_and_cut _ _).2.2 hcut).toNat_count hcutLength]
    decide
  · rw [((bags_of_reverse_and_cut _ _).2.1 hwhole).toNat_count hwholeLength]
    decide

end Fidelity.Bag
