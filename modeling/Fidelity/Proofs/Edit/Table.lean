import Fidelity.Edit.Sweep
import Fidelity.Proofs.Edit.Run

/-!
# What the table of costs holds

A sweep that is broken off has done what the sweep of fewer units does, so what its row holds is shown
unit by unit. Main statement: the row that the sweep leaves behind holds in cell `j` the least cost of
a run from the output to the first `j` units of the source, cut off at the greatest cost.
-/
namespace Fidelity

@[simp] theorem Cost.clamp_zero : clamp 0 = .zero := rfl

theorem Cost.clamp_add (n : Nat) (a : Cost) : clamp n + a = clamp (n + a.toNat) := by
  ext
  simp only [toNat_add, toNat_clamp]
  omega

theorem Cost.min_clamp (m n : Nat) : min (clamp m) (clamp n) = clamp (min m n) := by
  ext
  simp only [toNat_min, toNat_clamp]
  omega

theorem Cost.clamp_le_clamp {m n : Nat} (h : m ≤ n) : clamp m ≤ clamp n := by
  rw [le_iff, toNat_clamp, toNat_clamp]
  omega

theorem Cost.clamp_eq_zero_iff {c : Nat} : clamp c = .zero ↔ c = 0 := by
  constructor
  · intro h
    have h' := congrArg toNat h
    simp only [toNat_clamp, toNat_zero, limit] at h'
    omega
  · rintro rfl
    rfl

namespace Edit

variable {α : Type} [DecidableEq α] {w : Weights} {read source : List α} {cells : Array Cost}
  {s : Sweep}

theorem Sweep.along_concat (w : Weights) (a b : α) (j : Nat) (bs : List α) (s : Sweep) :
    s.along w a j (bs ++ [b]) = (s.along w a j bs).advance w a b (j + bs.length) := by
  induction bs generalizing j s with
  | nil => rfl
  | cons c bs ih =>
    rw [List.cons_append, Sweep.along, ih, Sweep.along, List.length_cons, Nat.add_right_comm,
      Nat.add_assoc]

theorem sweepRows_concat (w : Weights) (source as : List α) (a : α) (i : Nat) (cells : Array Cost) :
    sweepRows w source i (as ++ [a]) cells =
      ((Sweep.start w (i + as.length) (sweepRows w source i as cells)).along w a 0 source).cells := by
  induction as generalizing i cells with
  | nil => rfl
  | cons c as ih =>
    rw [List.cons_append, sweepRows, ih, sweepRows, List.length_cons, Nat.add_right_comm,
      Nat.add_assoc]

def sweptTo (w : Weights) (read : List α) (a : α) (source : List α) (j : Nat) : Sweep :=
  (Sweep.start w read.length (lastRow w read source)).along w a 0 (source.take j)

theorem sweptTo_zero (w : Weights) (read : List α) (a : α) (source : List α) :
    sweptTo w read a source 0 = Sweep.start w read.length (lastRow w read source) := rfl

theorem sweptTo_succ (w : Weights) (read : List α) (a : α) {j : Nat} (hj : j < source.length) :
    sweptTo w read a source (j + 1) = (sweptTo w read a source j).advance w a source[j] j := by
  have hlength : (source.take j).length = j := List.length_take_of_le hj.le
  rw [sweptTo, List.take_succ_eq_append_getElem hj, Sweep.along_concat, hlength, Nat.zero_add,
    ← sweptTo]

theorem cells_sweptTo_length (w : Weights) (read : List α) (a : α) (source : List α) :
    (sweptTo w read a source source.length).cells = lastRow w (read ++ [a]) source := by
  rw [sweptTo, List.take_length, lastRow, lastRow, sweepRows_concat, Nat.zero_add]

structure RowHolds (w : Weights) (read source : List α) (cells : Array Cost) : Prop where
  size : cells.size = source.length + 1
  cell : ∀ k ≤ source.length,
    cells.getD k .zero = Cost.clamp (leastCost w read (source.take k))

/-- The same row while unit `a` is swept over it: up to cell `j` the cells are of the next row
already. -/
structure SweepHolds (w : Weights) (read : List α) (a : α) (source : List α) (j : Nat) (s : Sweep) :
    Prop where
  size : s.cells.size = source.length + 1
  done : ∀ k ≤ j, s.cells.getD k .zero = Cost.clamp (leastCost w (read ++ [a]) (source.take k))
  waiting : ∀ k, j < k → k ≤ source.length →
    s.cells.getD k .zero = Cost.clamp (leastCost w read (source.take k))
  diagonal : s.diagonal = Cost.clamp (leastCost w read (source.take j))

theorem rowHolds_firstRow (w : Weights) (source : List α) :
    RowHolds w [] source (firstRow w source.length) where
  size := size_firstRow w source.length
  cell k hk := by
    have hlt : k < source.length + 1 := by omega
    simp [firstRow, Array.getD, hlt, Cost.times, hk]

theorem getD_setIfInBounds {i : Nat} (hi : i < cells.size) (k : Nat) (c : Cost) :
    (cells.setIfInBounds i c).getD k .zero = if k = i then c else cells.getD k .zero := by
  simp only [Array.getD_eq_getD_getElem?, Array.getElem?_setIfInBounds]
  by_cases h : i = k
  · subst h
    simp [hi]
  · simp [h, Ne.symm h]

theorem RowHolds.start (h : RowHolds w read source cells) (a : α) :
    SweepHolds w read a source 0 (Sweep.start w read.length cells) := by
  have hsize : 0 < cells.size := by
    rw [h.size]
    omega
  refine ⟨by simp [Sweep.start, h.size], fun k hk => ?_, fun k hk hks => ?_,
    h.cell 0 (Nat.zero_le _)⟩
  · obtain rfl : k = 0 := by omega
    simp [Sweep.start, getD_setIfInBounds hsize, Cost.times]
  · rw [Sweep.start, getD_setIfInBounds hsize, if_neg (by omega)]
    exact h.cell k hks

/-- Cutting off the recurrence at every step is cutting it off at the end. -/
theorem clamp_leastCost_concat (w : Weights) (a b : α) (as bs : List α) :
    min (min (if a = b then Cost.clamp (leastCost w as bs)
          else Cost.clamp (leastCost w as bs) + w.substitution)
        (Cost.clamp (leastCost w as (bs ++ [b])) + w.deletion))
      (Cost.clamp (leastCost w (as ++ [a]) bs) + w.insertion) =
    Cost.clamp (leastCost w (as ++ [a]) (bs ++ [b])) := by
  have hp : (if a = b then Cost.clamp (leastCost w as bs)
      else Cost.clamp (leastCost w as bs) + w.substitution) =
        Cost.clamp (leastCost w as bs + pairCost w a b) := by
    unfold pairCost
    split <;> simp [Cost.clamp_add]
  rw [leastCost_concat_concat, hp, Cost.clamp_add, Cost.clamp_add, Cost.min_clamp, Cost.min_clamp]

theorem SweepHolds.advance {a : α} {j : Nat} (h : SweepHolds w read a source j s)
    (hj : j < source.length) :
    SweepHolds w read a source (j + 1) (s.advance w a source[j] j) := by
  have htake := List.take_succ_eq_append_getElem hj
  have hsize : j + 1 < s.cells.size := by
    rw [h.size]
    omega
  have habove := h.waiting (j + 1) (by omega) hj
  refine ⟨by simp [Sweep.advance, h.size], fun k hk => ?_, fun k hk hks => ?_, habove⟩
  · rw [Sweep.advance, getD_setIfInBounds hsize]
    by_cases hkj : k = j + 1
    · subst hkj
      rw [if_pos rfl, h.diagonal, habove, h.done j le_rfl, htake, clamp_leastCost_concat]
    · rw [if_neg hkj]
      exact h.done k (by omega)
  · rw [Sweep.advance, getD_setIfInBounds hsize, if_neg (by omega)]
    exact h.waiting k (by omega) hks

theorem SweepHolds.row {a : α} (h : SweepHolds w read a source source.length s) :
    RowHolds w (read ++ [a]) source s.cells :=
  ⟨h.size, h.done⟩

theorem RowHolds.sweptTo (h : RowHolds w read source (lastRow w read source)) (a : α) {j : Nat}
    (hj : j ≤ source.length) : SweepHolds w read a source j (Edit.sweptTo w read a source j) := by
  induction j with
  | zero => exact h.start a
  | succ j ih =>
    rw [sweptTo_succ w read a hj]
    exact (ih (Nat.le_of_lt hj)).advance hj

theorem rowHolds_lastRow (w : Weights) (output source : List α) :
    RowHolds w output source (lastRow w output source) := by
  -- from the back, since a row is swept over by the unit that comes after those it was made from
  induction output using List.reverseRecOn with
  | nil => exact rowHolds_firstRow w source
  | append_singleton read a ih =>
    rw [← cells_sweptTo_length]
    exact (ih.sweptTo a le_rfl).row

end Edit
end Fidelity
