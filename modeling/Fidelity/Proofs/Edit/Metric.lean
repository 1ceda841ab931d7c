import Fidelity.Proofs.Edit.Exact

/-!
# The distance as a metric

A way of measuring texts is a metric of weights, though not a symmetric one, if a text lies at no
distance from itself, a detour saves nothing, and, where every edit costs something, texts at no
distance are equal. Main statement: the distance is one in either unit, and over any clusters that
give their text back.
-/
namespace Fidelity.Edit

structure Weights.Positive (w : Weights) : Prop where
  insertion : 0 < w.insertion.toNat
  deletion : 0 < w.deletion.toNat
  substitution : 0 < w.substitution.toNat

structure IsMetric (w : Weights) (d : String → String → Cost) : Prop where
  self : ∀ a, d a a = .zero
  triangle : ∀ a b c, d a c ≤ d a b + d b c
  eq_of_zero : w.Positive → ∀ a b, d a b = .zero → a = b

variable {α : Type} {w : Weights}

theorem Step.cost_pos (hw : w.Positive) {xs ys : List α} {c : Nat} (h : Step w xs c ys) :
    0 < c := by
  cases h with
  | insert => exact hw.insertion
  | delete => exact hw.deletion
  | replace => exact hw.substitution

theorem Run.eq_of_zero (hw : w.Positive) {xs ys : List α} (h : Run w xs 0 ys) : xs = ys := by
  generalize hc : 0 = c at h
  cases h with
  | done => rfl
  | step hs _ =>
    have hpos := hs.cost_pos hw
    omega

variable [DecidableEq α]

theorem leastCost_eq_zero_iff (hw : w.Positive) {xs ys : List α} :
    leastCost w xs ys = 0 ↔ xs = ys := by
  constructor
  · intro h
    have hrun := run_leastCost w xs ys
    rw [h] at hrun
    exact hrun.eq_of_zero hw
  · rintro rfl
    exact leastCost_self w xs

/-- The distance over the pieces that `cut` makes of a text. -/
def cutDistance (w : Weights) (cut : String → List α) (output source : String) : Cost :=
  if output = source then .zero else unitDistance w (cut output) (cut source)

theorem cutDistance_eq_clamp (w : Weights) (cut : String → List α) (output source : String) :
    cutDistance w cut output source = Cost.clamp (leastCost w (cut output) (cut source)) :=
  unitDistance_cut_eq_clamp w cut output source

theorem distance_eq_cutDistance (w : Weights) (unit : TextUnit) :
    distance w unit = cutDistance w unit.units := by
  funext output source
  exact distance_eq_unitDistance w unit output source

theorem cutDistance_triangle (w : Weights) (cut : String → List α) (a b c : String) :
    cutDistance w cut a c ≤ cutDistance w cut a b + cutDistance w cut b c := by
  have h := leastCost_triangle w (cut a) (cut b) (cut c)
  simp only [cutDistance_eq_clamp, Cost.le_iff, Cost.toNat_add, Cost.toNat_clamp]
  omega

/-- All that is asked of the pieces is that they tell texts apart. -/
theorem isMetric_cutDistance (w : Weights) {cut : String → List α}
    (hcut : Function.Injective cut) : IsMetric w (cutDistance w cut) where
  self a := by rw [cutDistance_eq_clamp, leastCost_self, Cost.clamp_zero]
  triangle := cutDistance_triangle w cut
  eq_of_zero := by
    intro hw a b h
    rw [cutDistance_eq_clamp, Cost.clamp_eq_zero_iff, leastCost_eq_zero_iff hw] at h
    exact hcut h

theorem cutDistance_eq_zero_iff (hw : w.Positive) {cut : String → List α}
    (hcut : Function.Injective cut) {a b : String} : cutDistance w cut a b = .zero ↔ a = b := by
  have hmetric := isMetric_cutDistance w hcut
  constructor
  · exact hmetric.eq_of_zero hw a b
  · rintro rfl
    exact hmetric.self a

theorem injective_of_flatten {clusters : String → List (List Char)}
    (h : ∀ s, (clusters s).flatten = s.toList) : Function.Injective clusters := by
  intro s t hst
  apply String.toList_injective
  rw [← h s, ← h t, hst]

theorem isMetric_distance (w : Weights) :
    (∀ unit : TextUnit, IsMetric w (distance w unit)) ∧
      ∀ clusters : String → List (List Char), (∀ s, (clusters s).flatten = s.toList) →
        IsMetric w (cutDistance w clusters) := by
  constructor
  · intro unit
    rw [distance_eq_cutDistance]
    exact isMetric_cutDistance w fun _ _ h => unit.units_injective h
  · intro clusters h
    exact isMetric_cutDistance w (injective_of_flatten h)

theorem isMetric_distance_standard :
    Weights.standard.Positive ∧
      (∀ s : String, (Unicode.clusters s.toList).flatten = s.toList) ∧
      (distance .standard .grapheme "e\u0301a" "ea" = .zero → "e\u0301a" = "ea") ∧
      IsMetric .standard (cutDistance .standard fun s => Unicode.clusters s.toList) := by
  have hpos : Weights.standard.Positive := by
    constructor <;> decide
  have hflat : ∀ s : String, (Unicode.clusters s.toList).flatten = s.toList :=
    fun s => Unicode.flatten_clusters s.toList
  obtain ⟨hunit, hclusters⟩ := isMetric_distance .standard
  exact ⟨hpos, hflat, (hunit .grapheme).eq_of_zero hpos _ _, hclusters _ hflat⟩

end Fidelity.Edit
