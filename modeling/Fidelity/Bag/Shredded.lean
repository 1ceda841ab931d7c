import Fidelity.Bag.Basic

/-! Shredded words. Where an extraction has put spaces between the letters of a word, its fragments are
single characters next to each other. Such a run of two or more is discarded; a single character between
longer fragments is a word. Empty fragments part runs and count for nothing. -/
namespace Fidelity.Bag

structure Sifted where
  kept : List String
  shredded : List String
deriving DecidableEq, Repr

def closeRun (run : List String) (behind : Sifted) : Sifted :=
  match run with
  | [] => behind
  | [w] => { behind with kept := w :: behind.kept }
  | _ => { behind with shredded := String.join run.reverse :: behind.shredded }

def siftFrom (run : List String) : List String → Sifted
  | [] => closeRun run ⟨[], []⟩
  | f :: rest =>
    match f.length with
    | 0 => closeRun run (siftFrom [] rest)
    | 1 => siftFrom (f :: run) rest
    | _ =>
      let behind := siftFrom [] rest
      closeRun run { behind with kept := f :: behind.kept }

def sift (fragments : List String) : Sifted := siftFrom [] fragments

def ofFragments (fragments : List String) : Bag := ofWords (sift fragments).kept

theorem sift_nil : sift [] = ⟨[], []⟩ := rfl

theorem siftFrom_cons_empty {f : String} (h : f.length = 0) (run rest : List String) :
    siftFrom run (f :: rest) = closeRun run (sift rest) := by
  rw [siftFrom, h]
  rfl

theorem siftFrom_cons_single {f : String} (h : f.length = 1) (run rest : List String) :
    siftFrom run (f :: rest) = siftFrom (f :: run) rest := by
  rw [siftFrom, h]
  rfl

theorem siftFrom_cons_long {f : String} (h : 1 < f.length) (run rest : List String) :
    siftFrom run (f :: rest) =
      closeRun run { sift rest with kept := f :: (sift rest).kept } := by
  obtain ⟨n, hn⟩ : ∃ n, f.length = n + 2 := ⟨f.length - 2, by omega⟩
  rw [siftFrom, hn]
  rfl

end Fidelity.Bag
