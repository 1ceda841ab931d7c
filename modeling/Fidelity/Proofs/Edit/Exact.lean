import Fidelity.Edit.Distance
import Fidelity.Proofs.Edit.Table

/-!
# The distance is exact

Main statement: the distance of two texts is the least cost of all runs of edits that turn the units
of the output into those of the source, cut off at the greatest cost. Neither the dropped affixes
nor the cells that were cut off on the way can be told from it.
-/
namespace Fidelity.Edit

namespace TextUnit

def Piece : TextUnit → Type
  | char => Char
  | grapheme => List Char

instance : (unit : TextUnit) → DecidableEq unit.Piece
  | char => inferInstanceAs (DecidableEq Char)
  | grapheme => inferInstanceAs (DecidableEq (List Char))

def units : (unit : TextUnit) → String → List unit.Piece
  | char, s => s.toList
  | grapheme, s => Unicode.clusters s.toList

theorem length_units (unit : TextUnit) (s : String) : (unit.units s).length = unit.length s := by
  cases unit with
  | char => exact String.length_toList
  | grapheme => rfl

theorem units_injective (unit : TextUnit) {s t : String} (h : unit.units s = unit.units t) :
    s = t := by
  cases unit with
  | char => exact String.toList_injective h
  | grapheme => exact String.toList_injective (Unicode.clusters_injective h)

end TextUnit

variable {α : Type} [DecidableEq α]

theorem leastCost_dropCommonPrefix (w : Weights) (as bs : List α) :
    leastCost w (dropCommonPrefix as bs).1 (dropCommonPrefix as bs).2 = leastCost w as bs := by
  obtain ⟨p, has, hbs⟩ := exists_append_dropCommonPrefix as bs
  have h := leastCost_append_left w p (dropCommonPrefix as bs).1 (dropCommonPrefix as bs).2
  rw [← has, ← hbs] at h
  exact h.symm

theorem leastCost_dropCommonSuffix (w : Weights) (as bs : List α) :
    leastCost w (dropCommonSuffix as bs).1 (dropCommonSuffix as bs).2 = leastCost w as bs := by
  obtain ⟨s, has, hbs⟩ := exists_append_dropCommonSuffix as bs
  have h := leastCost_append_right w (dropCommonSuffix as bs).1 (dropCommonSuffix as bs).2 s
  rw [← has, ← hbs] at h
  exact h.symm

theorem leastCost_dropCommonAffixes (w : Weights) (as bs : List α) :
    leastCost w (dropCommonAffixes as bs).1 (dropCommonAffixes as bs).2 = leastCost w as bs := by
  rw [dropCommonAffixes, leastCost_dropCommonSuffix, leastCost_dropCommonPrefix]

theorem unitDistance_eq_clamp (w : Weights) (output source : List α) :
    unitDistance w output source = Cost.clamp (leastCost w output source) := by
  rw [← leastCost_dropCommonAffixes, unitDistance]
  split
  next inserted h => simp [h, Cost.times]
  next deleted _ h => simp [h, Cost.times]
  next os ss _ _ h => rw [h, (rowHolds_lastRow w os ss).cell ss.length le_rfl, List.take_length]

theorem unitDistance_congr {w w' : Weights} {as bs as' bs' : List α}
    (h : leastCost w as bs = leastCost w' as' bs') :
    unitDistance w as bs = unitDistance w' as' bs' := by
  rw [unitDistance_eq_clamp, unitDistance_eq_clamp, h]

theorem unitDistance_cut_eq_clamp (w : Weights) (cut : String → List α) (output source : String) :
    (if output = source then .zero else unitDistance w (cut output) (cut source)) =
      Cost.clamp (leastCost w (cut output) (cut source)) := by
  by_cases h : output = source
  · rw [if_pos h, h, leastCost_self, Cost.clamp_zero]
  · rw [if_neg h, unitDistance_eq_clamp]

theorem distance_eq_unitDistance (w : Weights) (unit : TextUnit) (output source : String) :
    distance w unit output source =
      if output = source then .zero
      else unitDistance w (unit.units output) (unit.units source) := by
  cases unit <;> rfl

theorem distance_eq_clamp (w : Weights) (unit : TextUnit) (output source : String) :
    distance w unit output source =
      Cost.clamp (leastCost w (unit.units output) (unit.units source)) := by
  rw [distance_eq_unitDistance, unitDistance_cut_eq_clamp]

/-- The least cost is attained by a run and undercut by none, and the distance is that cost unless
it reaches beyond the greatest one. In place of the clusters any other pieces would do. -/
theorem exists_isLeast_distance (w : Weights) (output source : String) :
    (∀ unit : TextUnit,
      ∃ c, IsLeast {c | Run w (unit.units output) c (unit.units source)} c ∧
        (distance w unit output source).toNat = min Cost.limit c) ∧
    ∀ {α : Type} [DecidableEq α] (cut : String → List α),
      ∃ c, IsLeast {c | Run w (cut output) c (cut source)} c ∧
        (if output = source then Cost.zero
          else unitDistance w (cut output) (cut source)).toNat = min Cost.limit c := by
  refine ⟨fun unit => ?_, fun cut => ?_⟩
  · refine ⟨_, isLeast_leastCost w (unit.units output) (unit.units source), ?_⟩
    rw [distance_eq_clamp, Cost.toNat_clamp]
  · refine ⟨_, isLeast_leastCost w (cut output) (cut source), ?_⟩
    rw [unitDistance_cut_eq_clamp, Cost.toNat_clamp]

end Fidelity.Edit
