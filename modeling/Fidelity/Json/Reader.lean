/-!
# Reading JSON from the left

A value is read off the front of a text in one pass, and the first problem met is the answer. A reader
of a value takes at least one character, which is what ends every loop over items and members.
-/
namespace Fidelity.Json

inductive Fault where
  | ended
  | malformed
  | unfit
deriving DecidableEq, Repr

abbrev Outcome (α : Type) := Except Fault (α × List Char)

structure Reader (α : Type) where
  run : List Char → Outcome α
  shorter : ∀ s v rest, run s = .ok (v, rest) → rest.length < s.length

def isBlank (c : Char) : Bool := c == ' ' || c == '\t' || c == '\n' || c == '\r'

def dropBlanks (s : List Char) : List Char := s.dropWhile isBlank

theorem length_dropBlanks_le (s : List Char) : (dropBlanks s).length ≤ s.length :=
  (List.dropWhile_sublist _).length_le

theorem length_lt_of_dropBlanks {s r : List Char} {c : Char} (h : dropBlanks s = c :: r) :
    r.length < s.length := by
  have := length_dropBlanks_le s
  rw [h, List.length_cons] at this
  omega

theorem dropBlanks_cons_of_not_isBlank {c : Char} {r : List Char} (h : isBlank c = false) :
    dropBlanks (c :: r) = c :: r := by
  simp [dropBlanks, h]

def takeWord : List Char → List Char → Except Fault (List Char)
  | [], s => .ok s
  | _ :: _, [] => .error .ended
  | a :: w, c :: r => if a = c then takeWord w r else .error .malformed

theorem length_le_of_takeWord {w s r : List Char} (h : takeWord w s = .ok r) :
    r.length ≤ s.length := by
  induction w generalizing s with
  | nil =>
    simp only [takeWord, Except.ok.injEq] at h
    exact Nat.le_of_eq (by rw [h])
  | cons a w ih =>
    cases s with
    | nil => simp [takeWord] at h
    | cons c s =>
      simp only [takeWord] at h
      split at h
      · exact Nat.le_succ_of_le (ih h)
      · simp at h

def takeColon (s : List Char) : Except Fault (List Char) :=
  match dropBlanks s with
  | [] => .error .ended
  | c :: r => if c = ':' then .ok r else .error .malformed

theorem length_lt_of_takeColon {s r : List Char} (h : takeColon s = .ok r) :
    r.length < s.length := by
  unfold takeColon at h
  split at h
  · simp at h
  · next c r' hs =>
    split at h
    · simp only [Except.ok.injEq] at h
      exact h ▸ length_lt_of_dropBlanks hs
    · simp at h

namespace Reader

variable {α β : Type}

def map (f : α → β) (p : Reader α) : Reader β where
  run s := match p.run s with
    | .error e => .error e
    | .ok (v, rest) => .ok (f v, rest)
  shorter s v rest h := by
    split at h
    · simp at h
    · next u r hr =>
      simp only [Except.ok.injEq, Prod.mk.injEq] at h
      exact h.2 ▸ p.shorter _ _ _ hr

def filterMap (f : α → Option β) (p : Reader α) : Reader β where
  run s := match p.run s with
    | .error e => .error e
    | .ok (v, rest) => match f v with
      | none => .error .unfit
      | some w => .ok (w, rest)
  shorter s v rest h := by
    split at h
    · simp at h
    · next u r hr =>
      split at h
      · simp at h
      · simp only [Except.ok.injEq, Prod.mk.injEq] at h
        exact h.2 ▸ p.shorter _ _ _ hr

end Reader
end Fidelity.Json
