import Fidelity.Json.Number
import Fidelity.Json.Text

/-! Values of no interest. What belongs to no field is read over to its end: it has to be JSON, of any
depth, but its numbers may have any size. The open lists and objects around the place of reading are
kept on a stack. -/
namespace Fidelity.Json

inductive Bracket where
  | list
  | object
deriving DecidableEq, Repr

def Bracket.closing : Bracket → Char
  | list => ']'
  | object => '}'

def skipKey (s : List Char) : Except Fault (List Char) :=
  match dropBlanks s with
  | [] => .error .ended
  | c :: r =>
    if c = '"' then
      match skipText r with
      | .error e => .error e
      | .ok rest => takeColon rest
    else .error .malformed

def skipToItem : Bracket → List Char → Except Fault (List Char)
  | .list, s => .ok s
  | .object, s => skipKey s

def skipScalar (c : Char) (r : List Char) : Except Fault (List Char) :=
  if c = 'n' then takeWord ['u', 'l', 'l'] r
  else if c = 't' then takeWord ['r', 'u', 'e'] r
  else if c = 'f' then takeWord ['a', 'l', 's', 'e'] r
  else if c = '"' then skipText r
  else if c = '-' ∨ c.isDigit then skipNumber (c :: r)
  else .error .malformed

inductive Continuation where
  | finished (rest : List Char)
  | item (stack : List Bracket) (rest : List Char)

def resume : List Bracket → List Char → Except Fault Continuation
  | [], s => .ok (.finished s)
  | b :: stack, s =>
    match dropBlanks s with
    | [] => .error .ended
    | c :: r =>
      if c = ',' then (skipToItem b r).map (.item (b :: stack))
      else if c = b.closing then resume stack r
      else .error .malformed

def enter (b : Bracket) (stack : List Bracket) (s : List Char) : Except Fault Continuation :=
  match dropBlanks s with
  | [] => .error .ended
  | c :: r =>
    if c = b.closing then resume stack r
    else (skipToItem b s).map (.item (b :: stack))

def skipHead (stack : List Bracket) (s : List Char) : Except Fault Continuation :=
  match dropBlanks s with
  | [] => .error .ended
  | c :: r =>
    if c = '[' then enter .list stack r
    else if c = '{' then enter .object stack r
    else match skipScalar c r with
      | .error e => .error e
      | .ok rest => resume stack rest

def Continuation.rest : Continuation → List Char
  | finished r => r
  | item _ r => r

theorem length_lt_of_skipKey {s r : List Char} (h : skipKey s = .ok r) : r.length < s.length := by
  unfold skipKey at h
  split at h
  · simp at h
  · next c r' hs =>
    split at h
    · split at h
      · simp at h
      · next ht =>
        have h₁ := length_lt_of_dropBlanks hs
        have h₂ := length_lt_of_skipText ht
        have h₃ := length_lt_of_takeColon h
        omega
    · simp at h

theorem length_le_of_skipToItem {b : Bracket} {s r : List Char} (h : skipToItem b s = .ok r) :
    r.length ≤ s.length := by
  cases b with
  | list =>
    simp only [skipToItem, Except.ok.injEq] at h
    exact Nat.le_of_eq (by rw [h])
  | object => exact Nat.le_of_lt (length_lt_of_skipKey h)

theorem length_lt_of_skipScalar {c : Char} {r rest : List Char} (h : skipScalar c r = .ok rest) :
    rest.length < (c :: r).length := by
  unfold skipScalar at h
  split at h
  · exact Nat.lt_succ_of_le (length_le_of_takeWord h)
  · split at h
    · exact Nat.lt_succ_of_le (length_le_of_takeWord h)
    · split at h
      · exact Nat.lt_succ_of_le (length_le_of_takeWord h)
      · split at h
        · exact Nat.lt_succ_of_lt (length_lt_of_skipText h)
        · split at h
          · exact length_lt_of_skipNumber h
          · simp at h

theorem length_le_of_map_item {b : List Bracket} {x : Except Fault (List Char)} {n : Nat}
    {k : Continuation} (hx : ∀ r, x = .ok r → r.length ≤ n) (h : x.map (.item b) = .ok k) :
    k.rest.length ≤ n := by
  cases x with
  | error e => simp [Except.map] at h
  | ok r =>
    simp only [Except.map, Except.ok.injEq] at h
    subst h
    exact hx r rfl

theorem length_le_of_resume {stack : List Bracket} {s : List Char} {k : Continuation}
    (h : resume stack s = .ok k) : k.rest.length ≤ s.length := by
  induction stack generalizing s with
  | nil =>
    simp only [resume, Except.ok.injEq] at h
    subst h
    exact Nat.le_refl _
  | cons b stack ih =>
    simp only [resume] at h
    split at h
    · simp at h
    · next c r hs =>
      have h₁ := length_lt_of_dropBlanks hs
      split at h
      · have := length_le_of_map_item (fun _ hr => length_le_of_skipToItem hr) h
        omega
      · split at h
        · have := ih h
          omega
        · simp at h

theorem length_le_of_enter {b : Bracket} {stack : List Bracket} {s : List Char} {k : Continuation}
    (h : enter b stack s = .ok k) : k.rest.length ≤ s.length := by
  unfold enter at h
  split at h
  · simp at h
  · next c r hs =>
    have h₁ := length_lt_of_dropBlanks hs
    split at h
    · have := length_le_of_resume h
      omega
    · exact length_le_of_map_item (fun _ hr => length_le_of_skipToItem hr) h

theorem length_lt_of_skipHead {stack : List Bracket} {s : List Char} {k : Continuation}
    (h : skipHead stack s = .ok k) : k.rest.length < s.length := by
  unfold skipHead at h
  split at h
  · simp at h
  · next c r hs =>
    have h₀ := length_dropBlanks_le s
    have h₁ := length_lt_of_dropBlanks hs
    rw [hs] at h₀
    split at h
    · have := length_le_of_enter h
      omega
    · split at h
      · have := length_le_of_enter h
        omega
      · split at h
        · simp at h
        · next hc =>
          have h₂ := length_lt_of_skipScalar hc
          have h₃ := length_le_of_resume h
          omega

/-- Read over the value at the front of `s` and over all that the open brackets around it still hold. -/
def skipWithin (stack : List Bracket) (s : List Char) : Except Fault (List Char) :=
  match _h : skipHead stack s with
  | .error e => .error e
  | .ok (.finished rest) => .ok rest
  | .ok (.item stack rest) => skipWithin stack rest
termination_by s.length
decreasing_by exact length_lt_of_skipHead _h

def skipValue (s : List Char) : Except Fault (List Char) := skipWithin [] s

theorem length_lt_of_skipWithin {stack : List Bracket} {s rest : List Char}
    (h : skipWithin stack s = .ok rest) : rest.length < s.length := by
  fun_induction skipWithin stack s with
  | case1 => simp at h
  | case2 _ _ _ hk =>
    simp only [Except.ok.injEq] at h
    exact h ▸ length_lt_of_skipHead hk
  | case3 _ _ _ _ hk ih => exact Nat.lt_trans (ih h) (length_lt_of_skipHead hk)

end Fidelity.Json
