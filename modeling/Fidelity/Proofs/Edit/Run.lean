import Fidelity.Edit.Weights
import Mathlib

/-!
# Runs of edits

A run turns one sequence of units into another edit by edit, anywhere and as often as it likes. Main
statement: the least cost of all runs between two sequences is the one of the recurrence that
compares their first units only.
-/
namespace Fidelity.Edit

variable {α : Type} {w : Weights}

/-- One edit, with what it costs. -/
inductive Step (w : Weights) : List α → Nat → List α → Prop
  | insert (p s : List α) (b : α) : Step w (p ++ s) w.insertion.toNat (p ++ b :: s)
  | delete (p s : List α) (a : α) : Step w (p ++ a :: s) w.deletion.toNat (p ++ s)
  | replace (p s : List α) {a b : α} (h : a ≠ b) :
      Step w (p ++ a :: s) w.substitution.toNat (p ++ b :: s)

/-- Edits one after the other, with what they cost together. -/
inductive Run (w : Weights) : List α → Nat → List α → Prop
  | done (xs : List α) : Run w xs 0 xs
  | step {xs ys zs : List α} {c d : Nat} : Step w xs c ys → Run w ys d zs → Run w xs (c + d) zs

theorem Step.append {xs ys : List α} {c : Nat} (h : Step w xs c ys) (p s : List α) :
    Step w (p ++ xs ++ s) c (p ++ ys ++ s) := by
  cases h with
  | insert q t b => simpa using Step.insert (w := w) (p ++ q) (t ++ s) b
  | delete q t a => simpa using Step.delete (w := w) (p ++ q) (t ++ s) a
  | replace q t hab => simpa using Step.replace (w := w) (p ++ q) (t ++ s) hab

theorem Step.reverse {xs ys : List α} {c : Nat} (h : Step w xs c ys) :
    Step w xs.reverse c ys.reverse := by
  cases h with
  | insert p s b => simpa using Step.insert (w := w) s.reverse p.reverse b
  | delete p s a => simpa using Step.delete (w := w) s.reverse p.reverse a
  | replace p s hab => simpa using Step.replace (w := w) s.reverse p.reverse hab

theorem Step.run {xs ys : List α} {c : Nat} (h : Step w xs c ys) : Run w xs c ys :=
  Run.step h (.done ys)

theorem Run.trans {xs ys zs : List α} {c d : Nat} (h : Run w xs c ys) (h' : Run w ys d zs) :
    Run w xs (c + d) zs := by
  induction h with
  | done => simpa using h'
  | step hs _ ih => simpa only [Nat.add_assoc] using Run.step hs (ih h')

theorem Run.append {xs ys : List α} {c : Nat} (h : Run w xs c ys) (p s : List α) :
    Run w (p ++ xs ++ s) c (p ++ ys ++ s) := by
  induction h with
  | done => exact .done _
  | step hs _ ih => exact .step (hs.append p s) ih

theorem Run.cons {xs ys : List α} {c : Nat} (h : Run w xs c ys) (a : α) :
    Run w (a :: xs) c (a :: ys) := by
  simpa using h.append [a] []

theorem Run.reverse {xs ys : List α} {c : Nat} (h : Run w xs c ys) :
    Run w xs.reverse c ys.reverse := by
  induction h with
  | done => exact .done _
  | step hs _ ih => exact .step hs.reverse ih

theorem Run.delete {as bs : List α} {c : Nat} (h : Run w as c bs) (a : α) :
    Run w (a :: as) (c + w.deletion.toNat) bs := by
  simpa [Nat.add_comm] using Run.step (Step.delete [] as a) h

theorem Run.insert {as bs : List α} {c : Nat} (h : Run w as c bs) (b : α) :
    Run w as (c + w.insertion.toNat) (b :: bs) :=
  h.trans (Step.insert [] bs b).run

theorem run_insertAll (w : Weights) (bs : List α) :
    Run w [] (bs.length * w.insertion.toNat) bs := by
  induction bs with
  | nil => simpa using Run.done (w := w) ([] : List α)
  | cons b bs ih => simpa [Nat.succ_mul] using ih.insert b

theorem run_deleteAll (w : Weights) (as : List α) : Run w as (as.length * w.deletion.toNat) [] := by
  induction as with
  | nil => simpa using Run.done (w := w) ([] : List α)
  | cons a as ih => simpa [Nat.succ_mul] using ih.delete a

variable [DecidableEq α]

def pairCost (w : Weights) (a b : α) : Nat := if a = b then 0 else w.substitution.toNat

/-- The first units of both sequences are paired, or that of the first is deleted, or that of the
second inserted. -/
def leastCost (w : Weights) : List α → List α → Nat
  | [], bs => bs.length * w.insertion.toNat
  | as, [] => as.length * w.deletion.toNat
  | a :: as, b :: bs =>
    min (min (leastCost w as bs + pairCost w a b) (leastCost w as (b :: bs) + w.deletion.toNat))
      (leastCost w (a :: as) bs + w.insertion.toNat)
termination_by as bs => as.length + bs.length

@[simp] theorem leastCost_nil_left (w : Weights) (bs : List α) :
    leastCost w [] bs = bs.length * w.insertion.toNat := by
  simp [leastCost]

@[simp] theorem leastCost_nil_right (w : Weights) (as : List α) :
    leastCost w as [] = as.length * w.deletion.toNat := by
  cases as <;> simp [leastCost]

theorem leastCost_cons_cons (w : Weights) (a b : α) (as bs : List α) :
    leastCost w (a :: as) (b :: bs) =
      min (min (leastCost w as bs + pairCost w a b) (leastCost w as (b :: bs) + w.deletion.toNat))
        (leastCost w (a :: as) bs + w.insertion.toNat) := by
  rw [leastCost]

theorem leastCost_cons_cons_eq_or (w : Weights) (a b : α) (as bs : List α) :
    leastCost w (a :: as) (b :: bs) = leastCost w as bs + pairCost w a b ∨
      leastCost w (a :: as) (b :: bs) = leastCost w as (b :: bs) + w.deletion.toNat ∨
      leastCost w (a :: as) (b :: bs) = leastCost w (a :: as) bs + w.insertion.toNat := by
  rw [leastCost_cons_cons]
  omega

theorem pairCost_le (w : Weights) (a b : α) : pairCost w a b ≤ w.substitution.toNat := by
  unfold pairCost
  split <;> omega

theorem Run.pair {as bs : List α} {c : Nat} (h : Run w as c bs) (a b : α) :
    Run w (a :: as) (c + pairCost w a b) (b :: bs) := by
  by_cases hab : a = b
  · subst hab
    simpa [pairCost] using h.cons a
  · simpa [pairCost, hab, Nat.add_comm] using Run.step (Step.replace [] as hab) (h.cons b)

theorem run_leastCost (w : Weights) (as bs : List α) : Run w as (leastCost w as bs) bs := by
  fun_induction leastCost w as bs with
  | case1 bs => exact run_insertAll w bs
  | case2 as _ => exact run_deleteAll w as
  | case3 a as b bs pairing deletion insertion =>
    rw [← leastCost_cons_cons]
    rcases leastCost_cons_cons_eq_or w a b as bs with h | h | h <;> rw [h]
    · exact pairing.pair a b
    · exact deletion.delete a
    · exact insertion.insert b

theorem leastCost_le_insert (w : Weights) (b : α) (as zs : List α) :
    leastCost w as zs ≤ w.insertion.toNat + leastCost w (b :: as) zs := by
  induction zs with
  | nil => simp [Nat.succ_mul]; omega
  | cons z zs ih =>
    have hi : leastCost w as (z :: zs) ≤ leastCost w as zs + w.insertion.toNat := by
      cases as with
      | nil => simp [Nat.succ_mul]
      | cons a as => rw [leastCost_cons_cons]; omega
    rw [leastCost_cons_cons w b z]
    omega

theorem leastCost_le_delete (w : Weights) (a : α) (as zs : List α) :
    leastCost w (a :: as) zs ≤ w.deletion.toNat + leastCost w as zs := by
  cases zs with
  | nil => simp [Nat.succ_mul, Nat.add_comm]
  | cons z zs => rw [leastCost_cons_cons]; omega

theorem leastCost_le_replace (w : Weights) (a b : α) (as zs : List α) :
    leastCost w (a :: as) zs ≤ w.substitution.toNat + leastCost w (b :: as) zs := by
  induction zs with
  | nil => simp
  | cons z zs ih =>
    have hp := pairCost_le w a z
    rw [leastCost_cons_cons, leastCost_cons_cons]
    omega

theorem leastCost_cons_le {k : Nat} {as bs : List α}
    (h : ∀ zs, leastCost w as zs ≤ k + leastCost w bs zs) (a : α) (zs : List α) :
    leastCost w (a :: as) zs ≤ k + leastCost w (a :: bs) zs := by
  induction zs with
  | nil =>
    have := h []
    simp only [leastCost_nil_right, List.length_cons, Nat.succ_mul] at this ⊢
    omega
  | cons z zs ih =>
    have hn := h zs
    have hz := h (z :: zs)
    rw [leastCost_cons_cons, leastCost_cons_cons]
    omega

theorem leastCost_append_le {k : Nat} {as bs : List α}
    (h : ∀ zs, leastCost w as zs ≤ k + leastCost w bs zs) (p zs : List α) :
    leastCost w (p ++ as) zs ≤ k + leastCost w (p ++ bs) zs := by
  induction p generalizing zs with
  | nil => exact h zs
  | cons a p ih => exact leastCost_cons_le ih a zs

theorem Step.leastCost_le {xs ys : List α} {c : Nat} (h : Step w xs c ys) (zs : List α) :
    leastCost w xs zs ≤ c + leastCost w ys zs := by
  cases h with
  | insert p s b => exact leastCost_append_le (leastCost_le_insert w b s) p zs
  | delete p s a => exact leastCost_append_le (leastCost_le_delete w a s) p zs
  | @replace p s a b _ => exact leastCost_append_le (leastCost_le_replace w a b s) p zs

theorem Run.leastCost_le_add {xs ys : List α} {c : Nat} (h : Run w xs c ys) (zs : List α) :
    leastCost w xs zs ≤ c + leastCost w ys zs := by
  induction h with
  | done => omega
  | step hs _ ih =>
    have := hs.leastCost_le zs
    omega

theorem leastCost_self (w : Weights) (xs : List α) : leastCost w xs xs = 0 := by
  induction xs with
  | nil => simp
  | cons a as ih => simp [leastCost_cons_cons, pairCost, ih]

theorem Run.leastCost_le {xs ys : List α} {c : Nat} (h : Run w xs c ys) :
    leastCost w xs ys ≤ c := by
  simpa [leastCost_self] using h.leastCost_le_add ys

theorem isLeast_leastCost (w : Weights) (xs ys : List α) :
    IsLeast {c | Run w xs c ys} (leastCost w xs ys) :=
  ⟨run_leastCost w xs ys, fun _ h => h.leastCost_le⟩

theorem leastCost_triangle (w : Weights) (xs ys zs : List α) :
    leastCost w xs zs ≤ leastCost w xs ys + leastCost w ys zs :=
  (run_leastCost w xs ys).leastCost_le_add zs

theorem leastCost_reverse_le (w : Weights) (xs ys : List α) :
    leastCost w xs.reverse ys.reverse ≤ leastCost w xs ys :=
  (run_leastCost w xs ys).reverse.leastCost_le

@[simp] theorem leastCost_reverse (w : Weights) (xs ys : List α) :
    leastCost w xs.reverse ys.reverse = leastCost w xs ys := by
  apply le_antisymm (leastCost_reverse_le w xs ys)
  simpa using leastCost_reverse_le w xs.reverse ys.reverse

theorem leastCost_concat_concat (w : Weights) (a b : α) (as bs : List α) :
    leastCost w (as ++ [a]) (bs ++ [b]) =
      min (min (leastCost w as bs + pairCost w a b) (leastCost w as (bs ++ [b]) + w.deletion.toNat))
        (leastCost w (as ++ [a]) bs + w.insertion.toNat) := by
  have h := leastCost_cons_cons w a b as.reverse bs.reverse
  have hd := leastCost_reverse w as (bs ++ [b])
  have hi := leastCost_reverse w (as ++ [a]) bs
  rw [← leastCost_reverse, List.reverse_concat, List.reverse_concat, h, leastCost_reverse, ← hd,
    ← hi, List.reverse_concat, List.reverse_concat]

theorem leastCost_cons_self (w : Weights) (a : α) (as bs : List α) :
    leastCost w (a :: as) (a :: bs) = leastCost w as bs := by
  apply le_antisymm ((run_leastCost w as bs).cons a).leastCost_le
  have hd := ((run_leastCost w as (a :: bs)).trans (Step.delete [] bs a).run).leastCost_le
  have hi := leastCost_le_insert w a as bs
  rw [leastCost_cons_cons]
  simp only [List.nil_append] at hd
  omega

theorem leastCost_append_left (w : Weights) (p as bs : List α) :
    leastCost w (p ++ as) (p ++ bs) = leastCost w as bs := by
  induction p with
  | nil => rfl
  | cons a p ih => rw [List.cons_append, List.cons_append, leastCost_cons_self, ih]

theorem leastCost_append_right (w : Weights) (as bs s : List α) :
    leastCost w (as ++ s) (bs ++ s) = leastCost w as bs := by
  have h := leastCost_append_left w s.reverse as.reverse bs.reverse
  rwa [← List.reverse_append, ← List.reverse_append, leastCost_reverse, leastCost_reverse] at h

end Fidelity.Edit
