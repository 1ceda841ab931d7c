import Fidelity.Edit.Weights

/-!
# The table of costs, one row at a time

Cell `j` of row `i` is the cost of turning the first `i` units of the output into the first `j` units of
the source. One array holds the row that was last finished and, cell by cell from the left, is
overwritten by the next one; the old value of the cell last overwritten is carried along, since the
next cell is diagonal to it.
-/
namespace Fidelity.Edit

structure Sweep where
  cells : Array Cost
  diagonal : Cost
deriving Repr

def firstRow (w : Weights) (n : Nat) : Array Cost :=
  (Array.range (n + 1)).map fun j => Cost.times j w.insertion

/-- Start overwriting row `i` by row `i + 1`, in which cell zero deletes every unit of the output. -/
def Sweep.start (w : Weights) (i : Nat) (cells : Array Cost) : Sweep :=
  let corner := cells.getD 0 .zero
  ⟨cells.setIfInBounds 0 (Cost.times (i + 1) w.deletion), corner⟩

variable {α : Type} [DecidableEq α]

/-- Overwrite cell `j + 1`, where unit `a` of the output meets unit `b` of the source. Equal units match
for nothing. -/
def Sweep.advance (w : Weights) (a b : α) (j : Nat) (s : Sweep) : Sweep :=
  let above := s.cells.getD (j + 1) .zero
  let left := s.cells.getD j .zero
  let across := if a = b then s.diagonal else s.diagonal + w.substitution
  ⟨s.cells.setIfInBounds (j + 1) (min (min across (above + w.deletion)) (left + w.insertion)), above⟩

def Sweep.along (w : Weights) (a : α) : Nat → List α → Sweep → Sweep
  | _, [], s => s
  | j, b :: bs, s => Sweep.along w a (j + 1) bs (s.advance w a b j)

def sweepRows (w : Weights) (source : List α) : Nat → List α → Array Cost → Array Cost
  | _, [], cells => cells
  | i, a :: as, cells =>
    sweepRows w source (i + 1) as ((Sweep.start w i cells).along w a 0 source).cells

def lastRow (w : Weights) (output source : List α) : Array Cost :=
  sweepRows w source 0 output (firstRow w source.length)

theorem size_firstRow (w : Weights) (n : Nat) : (firstRow w n).size = n + 1 := by
  simp [firstRow]

end Fidelity.Edit
