import Fidelity.Bag.Shredded
import Mathlib

/-!
# Sifting with a cursor

A cursor goes through the fragments from left to right: over a longer fragment by one, over a run of
single characters to its end, and over an empty fragment by one as well. Main statement: on every
list it comes to the end, with the bag and the discarded runs of the sifting.
-/
namespace Fidelity.Bag

def isSingle (f : String) : Bool := f.length == 1

structure Cursor where
  position : Nat
  bag : Bag
  discarded : List String

namespace Cursor

def start : Cursor := ⟨0, .empty, []⟩

/-- Where a cursor stands after the run of single characters in front of it, if there is one. -/
def passRun (run : List String) (c : Cursor) : Cursor :=
  let merged := String.join run
  let next := max (c.position + run.length) (c.position + 1)
  match merged.length with
  | 0 => ⟨next, c.bag, c.discarded⟩
  | 1 => ⟨next, c.bag.add merged, c.discarded⟩
  | _ => ⟨next, c.bag, c.discarded ++ [merged]⟩

def step (fs : List String) (c : Cursor) : Option Cursor :=
  match fs[c.position]? with
  | none => none
  | some f =>
    if 1 < f.length then some ⟨c.position + 1, c.bag.add f, c.discarded⟩
    else some (c.passRun ((fs.drop c.position).takeWhile isSingle))

def run (fs : List String) : Nat → Cursor → Cursor
  | 0, c => c
  | n + 1, c =>
    match c.step fs with
    | none => c
    | some c' => run fs n c'

end Cursor

theorem isSingle_iff {f : String} : isSingle f = true ↔ f.length = 1 := by
  simp [isSingle]

theorem isSingle_eq_false_iff {f : String} :
    isSingle f = false ↔ f.length = 0 ∨ 1 < f.length := by
  rw [isSingle, beq_eq_false_iff_ne]
  omega

theorem sift_cons_empty {f : String} (h : f.length = 0) (rest : List String) :
    sift (f :: rest) = sift rest :=
  siftFrom_cons_empty h [] rest

theorem sift_cons_long {f : String} (h : 1 < f.length) (rest : List String) :
    sift (f :: rest) = { sift rest with kept := f :: (sift rest).kept } :=
  siftFrom_cons_long h [] rest

theorem siftFrom_eq_closeRun (run fs : List String) :
    siftFrom run fs =
      closeRun ((fs.takeWhile isSingle).reverse ++ run) (sift (fs.dropWhile isSingle)) := by
  induction fs generalizing run with
  | nil => rfl
  | cons f rest ih =>
    by_cases hf : isSingle f = true
    · rw [siftFrom_cons_single (isSingle_iff.mp hf), ih, List.takeWhile_cons_of_pos hf,
        List.dropWhile_cons_of_pos hf, List.reverse_cons, List.append_assoc, List.singleton_append]
    · rw [List.takeWhile_cons_of_neg hf, List.dropWhile_cons_of_neg hf, List.reverse_nil,
        List.nil_append]
      rw [Bool.not_eq_true] at hf
      rcases isSingle_eq_false_iff.mp hf with h0 | h1
      · rw [siftFrom_cons_empty h0, sift_cons_empty h0]
      · rw [siftFrom_cons_long h1, sift_cons_long h1]

theorem sift_eq_closeRun (fs : List String) :
    sift fs = closeRun (fs.takeWhile isSingle).reverse (sift (fs.dropWhile isSingle)) := by
  rw [sift, siftFrom_eq_closeRun, List.append_nil]

theorem closeRun_reverse_of_two_le {run : List String} (h : 2 ≤ run.length) (behind : Sifted) :
    closeRun run.reverse behind =
      { behind with shredded := String.join run :: behind.shredded } := by
  obtain ⟨g, f, rest, hr⟩ : ∃ g f rest, run.reverse = g :: f :: rest := by
    rw [← List.length_reverse] at h
    match run.reverse, h with
    | g :: f :: rest, _ => exact ⟨g, f, rest, rfl⟩
  rw [hr, closeRun, ← hr, List.reverse_reverse]
  · simp
  · simp

theorem sift_run {run : List String} (hrun : ∀ f ∈ run, isSingle f = true) :
    sift run = if 2 ≤ run.length then ⟨[], [String.join run]⟩ else ⟨run, []⟩ := by
  rw [sift_eq_closeRun, List.takeWhile_eq_self_iff.mpr hrun, List.dropWhile_eq_nil_iff.mpr hrun,
    sift_nil]
  split_ifs with htwo
  · exact closeRun_reverse_of_two_le htwo _
  · rcases run with _ | ⟨f, _ | ⟨g, rest⟩⟩
    · rfl
    · rfl
    · exact absurd (Nat.le_add_left 2 rest.length) htwo

theorem sift_other {f : String} (hf : isSingle f = false) :
    sift [f] = ⟨if f = "" then [] else [f], []⟩ := by
  rcases isSingle_eq_false_iff.mp hf with h0 | h1
  · rw [sift_cons_empty h0, if_pos (String.length_eq_zero_iff.mp h0), sift_nil]
  · have hne : f ≠ "" := by
      rintro rfl
      exact absurd h1 (by decide)
    rw [sift_cons_long h1, if_neg hne, sift_nil]

theorem length_join_of_single {run : List String} (h : ∀ f ∈ run, isSingle f = true) :
    (String.join run).length = run.length := by
  rw [String.length_join, List.map_congr_left fun f hf => isSingle_iff.mp (h f hf)]
  simp

theorem drop_length_takeWhile (p : String → Bool) (fs : List String) :
    fs.drop (fs.takeWhile p).length = fs.dropWhile p := by
  conv_lhs => arg 2; rw [← List.takeWhile_append_dropWhile (p := p) (l := fs)]
  exact List.drop_left

namespace Cursor

variable {fs : List String} {c c' : Cursor} {f : String}

/-- What the cursor has got together with what the sifting makes of the fragments ahead. -/
structure Holds (fs : List String) (c : Cursor) : Prop where
  kept : (sift (fs.drop c.position)).kept.foldl add c.bag = ofFragments fs
  discarded : c.discarded ++ (sift (fs.drop c.position)).shredded = (sift fs).shredded

theorem holds_start (fs : List String) : start.Holds fs :=
  ⟨rfl, rfl⟩

theorem step_eq_none_iff : c.step fs = none ↔ fs.length ≤ c.position := by
  rw [← List.getElem?_eq_none_iff]
  unfold step
  split
  next h => simp [h]
  next f h =>
    rw [h]
    split_ifs <;> simp

theorem lt_position_passRun (run : List String) (c : Cursor) :
    c.position < (c.passRun run).position := by
  unfold passRun
  dsimp only
  split <;> simp only <;> omega

theorem passRun_nil (c : Cursor) : c.passRun [] = ⟨c.position + 1, c.bag, c.discarded⟩ := by
  simp [passRun]

theorem passRun_singleton (hf : f.length = 1) (c : Cursor) :
    c.passRun [f] = ⟨c.position + 1, c.bag.add f, c.discarded⟩ := by
  simp [passRun, hf]

theorem passRun_of_two_le {run : List String} (hrun : ∀ g ∈ run, isSingle g = true)
    (h : 2 ≤ run.length) (c : Cursor) :
    c.passRun run = ⟨c.position + run.length, c.bag, c.discarded ++ [String.join run]⟩ := by
  obtain ⟨n, hn⟩ : ∃ n, run.length = n + 2 := ⟨run.length - 2, by omega⟩
  have hmax : max (c.position + (n + 2)) (c.position + 1) = c.position + (n + 2) := by omega
  rw [passRun, length_join_of_single hrun, hn, hmax]
  rfl

theorem drop_of_getElem? {n : Nat} (hf : fs[n]? = some f) : fs.drop n = f :: fs.drop (n + 1) := by
  obtain ⟨hlt, hget⟩ := List.getElem?_eq_some_iff.mp hf
  rw [← hget, List.drop_eq_getElem_cons hlt]

theorem Holds.keep (h : c.Holds fs) (hf : fs[c.position]? = some f) (hlong : 1 < f.length) :
    Holds fs ⟨c.position + 1, c.bag.add f, c.discarded⟩ := by
  obtain ⟨hkept, hdisc⟩ := h
  rw [drop_of_getElem? hf, sift_cons_long hlong] at hkept hdisc
  exact ⟨hkept, hdisc⟩

theorem Holds.skip (h : c.Holds fs) (hf : fs[c.position]? = some f) (h0 : f.length = 0) :
    Holds fs ⟨c.position + 1, c.bag, c.discarded⟩ := by
  obtain ⟨hkept, hdisc⟩ := h
  rw [drop_of_getElem? hf, sift_cons_empty h0] at hkept hdisc
  exact ⟨hkept, hdisc⟩

/-- The run ahead is all that stands before the next fragment that is no single character. -/
theorem sift_drop_eq_closeRun {run : List String} {n : Nat}
    (hrun : (fs.drop n).takeWhile isSingle = run) :
    sift (fs.drop n) = closeRun run.reverse (sift (fs.drop (n + run.length))) := by
  rw [← hrun, sift_eq_closeRun, ← List.drop_drop, drop_length_takeWhile]

theorem Holds.passRun_of_single (h : c.Holds fs) {run : List String}
    (hrun : (fs.drop c.position).takeWhile isSingle = run) (hne : run ≠ []) :
    (c.passRun run).Holds fs := by
  have hall : ∀ g ∈ run, isSingle g = true := by
    intro g hg
    rw [← hrun] at hg
    exact List.mem_takeWhile_imp hg
  obtain ⟨hkept, hdisc⟩ := h
  rw [sift_drop_eq_closeRun hrun] at hkept hdisc
  match run, hne with
  | [f], _ =>
    rw [passRun_singleton (isSingle_iff.mp (hall f List.mem_cons_self))]
    exact ⟨hkept, hdisc⟩
  | f :: g :: rest, _ =>
    have htwo : 2 ≤ (f :: g :: rest).length := Nat.le_add_left 2 rest.length
    rw [closeRun_reverse_of_two_le htwo] at hkept hdisc
    rw [passRun_of_two_le hall htwo]
    refine ⟨hkept, ?_⟩
    rw [← hdisc, List.append_assoc, List.singleton_append]

theorem Holds.passRun (h : c.Holds fs) (hf : fs[c.position]? = some f) (hle : f.length ≤ 1) :
    (c.passRun ((fs.drop c.position).takeWhile isSingle)).Holds fs := by
  rcases Nat.lt_or_eq_of_le hle with h0 | h1
  · have h0 : f.length = 0 := by omega
    have hrun : (fs.drop c.position).takeWhile isSingle = [] := by
      rw [drop_of_getElem? hf, List.takeWhile_cons_of_neg (by simp [isSingle_iff, h0])]
    rw [hrun, passRun_nil]
    exact h.skip hf h0
  · refine h.passRun_of_single rfl ?_
    rw [drop_of_getElem? hf, List.takeWhile_cons_of_pos (isSingle_iff.mpr h1)]
    exact List.cons_ne_nil _ _

theorem Holds.step (h : c.Holds fs) (hs : c.step fs = some c') :
    c'.Holds fs ∧ c.position < c'.position := by
  rw [Cursor.step] at hs
  cases hf : fs[c.position]? with
  | none => simp [hf] at hs
  | some f =>
    simp only [hf] at hs
    by_cases hlong : 1 < f.length
    · rw [if_pos hlong] at hs
      obtain rfl := Option.some.inj hs
      exact ⟨h.keep hf hlong, Nat.lt_succ_self _⟩
    · rw [if_neg hlong] at hs
      obtain rfl := Option.some.inj hs
      exact ⟨h.passRun hf (by omega), lt_position_passRun _ c⟩

theorem Holds.run (h : c.Holds fs) {n : Nat} (hn : fs.length ≤ c.position + n) :
    (c.run fs n).Holds fs ∧ (c.run fs n).step fs = none := by
  induction n generalizing c with
  | zero => exact ⟨h, step_eq_none_iff.mpr hn⟩
  | succ n ih =>
    rw [Cursor.run]
    cases hs : c.step fs with
    | none => exact ⟨h, hs⟩
    | some c' =>
      obtain ⟨h', hlt⟩ := h.step hs
      exact ih h' (by omega)

theorem Holds.of_end (h : c.Holds fs) (hend : c.step fs = none) :
    c.bag = ofFragments fs ∧ c.discarded = (sift fs).shredded := by
  have hahead : fs.drop c.position = [] := List.drop_eq_nil_iff.mpr (step_eq_none_iff.mp hend)
  obtain ⟨hkept, hdisc⟩ := h
  rw [hahead, sift_nil] at hkept hdisc
  exact ⟨hkept, by simpa using hdisc⟩

theorem run_start (fs : List String) {n : Nat} (hn : fs.length ≤ n) :
    (start.run fs n).step fs = none ∧ (start.run fs n).bag = ofFragments fs ∧
      (start.run fs n).discarded = (sift fs).shredded := by
  have hn' : fs.length ≤ start.position + n := by simpa [start] using hn
  obtain ⟨h, hend⟩ := (holds_start fs).run hn'
  exact ⟨hend, h.of_end hend⟩

end Cursor

end Fidelity.Bag
