import Fidelity.Proofs.Edit.Table

/-!
# The course of the sweep

Two loops overwrite the row of costs, the outer one over the units of the output and the inner one
over those of the source. Main statement: wherever the loops stand, the cells overwritten so far are
of the next row and the others still of the last one, and each holds its exact cost, cut off at the
greatest cost; so does every cell of the row that the loops leave behind.
-/
namespace Fidelity.Edit

variable {α : Type} [DecidableEq α] {w : Weights} {output source : List α}

/-- What the first `i` units of the output and the first `j` of the source cost, without a limit: the
last units of both are paired, or that of the output is deleted, or that of the source inserted. -/
def prefixCost (w : Weights) (output source : List α) : Nat → Nat → Nat
  | 0, j => j * w.insertion.toNat
  | i + 1, 0 => (i + 1) * w.deletion.toNat
  | i + 1, j + 1 =>
    min (min (prefixCost w output source i j + pairCost w output[i]? source[j]?)
        (prefixCost w output source i (j + 1) + w.deletion.toNat))
      (prefixCost w output source (i + 1) j + w.insertion.toNat)
termination_by i j => (i, j)

theorem pairCost_some (w : Weights) (a b : α) : pairCost w (some a) (some b) = pairCost w a b := by
  simp [pairCost]

theorem prefixCost_eq_leastCost (w : Weights) {i j : Nat} (hi : i ≤ output.length)
    (hj : j ≤ source.length) :
    prefixCost w output source i j = leastCost w (output.take i) (source.take j) := by
  fun_induction prefixCost w output source i j with
  | case1 j => simp [hj]
  | case2 i => simp [hi]
  | case3 i j pairing deletion insertion =>
    -- `leastCost` takes both prefixes apart at the front, so its law for their last units is needed.
    rw [pairing (by omega) (by omega), deletion (by omega) hj, insertion hi (by omega),
      List.getElem?_eq_getElem hi, List.getElem?_eq_getElem hj, pairCost_some,
      List.take_succ_eq_append_getElem hi, List.take_succ_eq_append_getElem hj,
      leastCost_concat_concat]

/-- Where the loops stand: before the next unit `i` of the output, or, with that unit, before unit `j`
of the source. -/
inductive Stage where
  | between (i : Nat) (cells : Array Cost)
  | within (i j : Nat) (s : Sweep)

inductive Stage.Next (w : Weights) (output source : List α) : Stage → Stage → Prop
  | enter {i : Nat} (hi : i < output.length) (cells : Array Cost) :
      Next w output source (.between i cells) (.within i 0 (Sweep.start w i cells))
  | advance {i j : Nat} (hi : i < output.length) (hj : j < source.length) (s : Sweep) :
      Next w output source (.within i j s) (.within i (j + 1) (s.advance w output[i] source[j] j))
  | leave (i : Nat) (s : Sweep) :
      Next w output source (.within i source.length s) (.between (i + 1) s.cells)

def Passes (w : Weights) (output source : List α) : Stage → Prop :=
  Relation.ReflTransGen (Stage.Next w output source) (.between 0 (firstRow w source.length))

/-- What the loops have computed if they are run over no more units than they have met. -/
def Stage.IsBrokenOff (w : Weights) (output source : List α) : Stage → Prop
  | .between i cells => i ≤ output.length ∧ cells = lastRow w (output.take i) source
  | .within i j s => ∃ hi : i < output.length,
      j ≤ source.length ∧ s = sweptTo w (output.take i) output[i] source j

theorem Stage.Next.isBrokenOff {x y : Stage} (h : Next w output source x y)
    (hx : x.IsBrokenOff w output source) : y.IsBrokenOff w output source := by
  cases h with
  | enter hi cells =>
    obtain ⟨-, rfl⟩ := hx
    refine ⟨hi, Nat.zero_le _, ?_⟩
    rw [sweptTo_zero, List.length_take_of_le hi.le]
  | advance hi hj s =>
    obtain ⟨-, -, rfl⟩ := hx
    exact ⟨hi, hj, (sweptTo_succ w _ _ hj).symm⟩
  | leave i s =>
    obtain ⟨hi, -, rfl⟩ := hx
    refine ⟨hi, ?_⟩
    rw [cells_sweptTo_length, List.take_succ_eq_append_getElem hi]

theorem Passes.isBrokenOff {x : Stage} (h : Passes w output source x) :
    x.IsBrokenOff w output source := by
  induction h with
  | refl => exact ⟨Nat.zero_le _, rfl⟩
  | tail _ hnext ih => exact hnext.isBrokenOff ih

theorem Passes.within {i j : Nat}
    (h : Passes w output source (.between i (lastRow w (output.take i) source)))
    (hi : i < output.length) (hj : j ≤ source.length) :
    Passes w output source (.within i j (sweptTo w (output.take i) output[i] source j)) := by
  induction j with
  | zero =>
    rw [sweptTo_zero, List.length_take_of_le hi.le]
    exact h.tail (.enter hi _)
  | succ j ih =>
    rw [sweptTo_succ w _ _ hj]
    exact (ih (Nat.le_of_lt hj)).tail (.advance hi hj _)

theorem passes_lastRow {i : Nat} (hi : i ≤ output.length) :
    Passes w output source (.between i (lastRow w (output.take i) source)) := by
  induction i with
  | zero => exact .refl
  | succ i ih =>
    have hend := (ih (Nat.le_of_lt hi)).within hi le_rfl
    rw [List.take_succ_eq_append_getElem hi, ← cells_sweptTo_length]
    exact hend.tail (.leave i _)

theorem passes_iff {x : Stage} :
    Passes w output source x ↔ x.IsBrokenOff w output source := by
  refine ⟨Passes.isBrokenOff, fun h => ?_⟩
  cases x with
  | between i cells =>
    obtain ⟨hi, rfl⟩ := h
    exact passes_lastRow hi
  | within i j s =>
    obtain ⟨hi, hj, rfl⟩ := h
    exact (passes_lastRow hi.le).within hi hj

structure MixesRows (w : Weights) (output source : List α) (i j : Nat) (s : Sweep) : Prop where
  size : s.cells.size = source.length + 1
  overwritten : ∀ k ≤ j, s.cells[k]? = some (.clamp (prefixCost w output source (i + 1) k))
  waiting : ∀ k, j < k → k ≤ source.length →
    s.cells[k]? = some (.clamp (prefixCost w output source i k))
  diagonal : s.diagonal = .clamp (prefixCost w output source i j)

theorem getElem?_of_getD {cells : Array Cost} {k : Nat} {c : Cost} (hk : k < cells.size)
    (h : cells.getD k .zero = c) : cells[k]? = some c := by
  rw [Array.getD_eq_getD_getElem?, Array.getElem?_eq_getElem hk, Option.getD_some] at h
  rw [Array.getElem?_eq_getElem hk, h]

theorem SweepHolds.mixesRows {i j : Nat} {s : Sweep} (hi : i < output.length)
    (hj : j ≤ source.length) (h : SweepHolds w (output.take i) output[i] source j s) :
    MixesRows w output source i j s where
  size := h.size
  overwritten := by
    intro k hk
    have hks : k ≤ source.length := hk.trans hj
    apply getElem?_of_getD (by rw [h.size]; omega)
    rw [h.done k hk, prefixCost_eq_leastCost w hi hks, List.take_succ_eq_append_getElem hi]
  waiting := by
    intro k hk hks
    apply getElem?_of_getD (by rw [h.size]; omega)
    rw [h.waiting k hk hks, prefixCost_eq_leastCost w hi.le hks]
  diagonal := by rw [h.diagonal, prefixCost_eq_leastCost w hi.le hj]

theorem RowHolds.getElem?_eq {cells : Array Cost} (h : RowHolds w output source cells) {k : Nat}
    (hk : k ≤ source.length) :
    cells[k]? = some (.clamp (prefixCost w output source output.length k)) := by
  apply getElem?_of_getD (by rw [h.size]; omega)
  rw [h.cell k hk, prefixCost_eq_leastCost w le_rfl hk, List.take_length]

theorem sweep_holds_prefixCost (w : Weights) (output source : List α) :
    (∀ (i : Nat) (hi : i < output.length), ∀ j ≤ source.length,
        (∀ s, Passes w output source (.within i j s) ↔
          s = sweptTo w (output.take i) output[i] source j) ∧
        MixesRows w output source i j (sweptTo w (output.take i) output[i] source j)) ∧
      (∀ cells, Passes w output source (.between output.length cells) ↔
        cells = lastRow w output source) ∧
      ∀ k ≤ source.length, (lastRow w output source)[k]? =
        some (.clamp (prefixCost w output source output.length k)) := by
  refine ⟨?_, ?_, ?_⟩
  · intro i hi j hj
    have hholds := (rowHolds_lastRow w (output.take i) source).sweptTo output[i] hj
    refine ⟨fun s => ?_, hholds.mixesRows hi hj⟩
    rw [passes_iff]
    constructor
    · intro hstage
      obtain ⟨_, _, hs⟩ := hstage
      exact hs
    · intro hs
      exact ⟨hi, hj, hs⟩
  · intro cells
    rw [passes_iff, Stage.IsBrokenOff, List.take_length]
    exact and_iff_right le_rfl
  · intro k hk
    exact (rowHolds_lastRow w output source).getElem?_eq hk

theorem sweep_holds_prefixCost_at_limit :
    1 < ['a', 'b'].length ∧ 1 ≤ ['b', 'a', 'c'].length ∧
      ∃ s, Passes (.ofUnits 0x8000000000000000 3 1) ['a', 'b'] ['b', 'a', 'c'] (.within 1 1 s) ∧
        s.cells = #[⟨6⟩, ⟨3⟩, ⟨0x8000000000000000⟩, .greatest] ∧ s.diagonal = ⟨1⟩ ∧
        MixesRows (.ofUnits 0x8000000000000000 3 1) ['a', 'b'] ['b', 'a', 'c'] 1 1 s ∧
        prefixCost (.ofUnits 0x8000000000000000 3 1) ['a', 'b'] ['b', 'a', 'c'] 1 3 = 2 ^ 64 := by
  obtain ⟨hwithin, -, -⟩ :=
    sweep_holds_prefixCost (.ofUnits 0x8000000000000000 3 1) ['a', 'b'] ['b', 'a', 'c']
  obtain ⟨hstate, hmixes⟩ := hwithin 1 (by decide) 1 (by decide)
  refine ⟨by decide, by decide, _, (hstate _).mpr rfl, ?_, ?_, hmixes, ?_⟩
  · decide +kernel
  · decide +kernel
  · simp [prefixCost, pairCost, Weights.ofUnits, Cost.toNat]

end Fidelity.Edit
