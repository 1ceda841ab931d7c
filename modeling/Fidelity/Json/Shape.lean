import Fidelity.Json.Skip

/-!
# Shapes

Readers of the values that a program asks for. A list is a sequence of items. A record is an object whose
members are its fields, in any order and among members with other keys, or a list of its fields in the
order in which they are declared. A choice is the name of one of its variants, alone or as the key of an
object that holds nothing else.
-/
namespace Fidelity.Json

/-- The fault of a value of another shape than was asked for. Scalars are read to their end first. -/
def mismatch (s : List Char) : Fault :=
  match s with
  | [] => .ended
  | c :: r =>
    let after (x : Except Fault (List Char)) : Fault :=
      match x with
      | .error e => e
      | .ok _ => .unfit
    if c = 'n' then after (takeWord ['u', 'l', 'l'] r)
    else if c = 't' then after (takeWord ['r', 'u', 'e'] r)
    else if c = 'f' then after (takeWord ['a', 'l', 's', 'e'] r)
    else if c = '"' then after ((readText r).map Prod.snd)
    else if c = '-' ∨ c.isDigit then after ((readNumber s).map Prod.snd)
    else if c = '[' ∨ c = '{' then .unfit
    else .malformed

namespace Reader

variable {α β σ : Type}

def numberAt (s : List Char) : Outcome Number :=
  match dropBlanks s with
  | [] => .error .ended
  | c :: r => if c = '-' ∨ c.isDigit then readNumber (c :: r) else .error (mismatch (c :: r))

theorem length_lt_of_numberAt {s rest : List Char} {n : Number} (h : numberAt s = .ok (n, rest)) :
    rest.length < s.length := by
  unfold numberAt at h
  split at h
  · simp at h
  · next c r hs =>
    split at h
    · have h₁ := length_lt_of_readNumber h
      have h₂ := length_dropBlanks_le s
      rw [hs] at h₂
      omega
    · simp at h

def number : Reader Number := ⟨numberAt, fun _ _ _ => length_lt_of_numberAt⟩

def natural : Reader UInt64 := number.filterMap Number.toNatural?

def real : Reader Float := number.map Number.toFloat

def chars : Reader (List Char) where
  run s :=
    match dropBlanks s with
    | [] => .error .ended
    | c :: r => if c = '"' then readText r else .error (mismatch (c :: r))
  shorter s v rest h := by
    split at h
    · simp at h
    · next c r hs =>
      split at h
      · exact Nat.lt_trans (length_lt_of_readText h) (length_lt_of_dropBlanks hs)
      · simp at h

def text : Reader String := chars.map String.ofList

def char : Reader Char := chars.filterMap fun
  | [c] => some c
  | _ => none

def itemsFrom (item : Reader α) (s : List Char) : Outcome (List α) :=
  match _h : item.run s with
  | .error e => .error e
  | .ok (v, r) =>
    match _hr : dropBlanks r with
    | [] => .error .ended
    | c :: r' =>
      if c = ']' then .ok ([v], r')
      else if c = ',' then (itemsFrom item r').map fun (vs, rest) => (v :: vs, rest)
      else .error .malformed
termination_by s.length
decreasing_by exact Nat.lt_trans (length_lt_of_dropBlanks _hr) (item.shorter _ _ _ _h)

theorem length_lt_of_itemsFrom {item : Reader α} {s rest : List Char} {vs : List α}
    (h : itemsFrom item s = .ok (vs, rest)) : rest.length < s.length := by
  fun_induction itemsFrom item s generalizing vs with
  | case1 => simp at h
  | case2 => simp at h
  | case3 s v r hv r' hr =>
    simp only [Except.ok.injEq, Prod.mk.injEq] at h
    exact h.2 ▸ Nat.lt_trans (length_lt_of_dropBlanks hr) (item.shorter _ _ _ hv)
  | case4 s v r hv r' hr _ ih =>
    cases hx : itemsFrom item r' with
    | error e => simp [hx, Except.map] at h
    | ok x =>
      simp only [hx, Except.map, Except.ok.injEq, Prod.mk.injEq] at h
      have hx' : itemsFrom item r' = .ok (x.1, rest) := by rw [hx, ← h.2]
      exact Nat.lt_trans (ih hx') (Nat.lt_trans (length_lt_of_dropBlanks hr) (item.shorter _ _ _ hv))
  | case5 => simp at h

def listOf (item : Reader α) : Reader (List α) where
  run s :=
    match dropBlanks s with
    | [] => .error .ended
    | c :: r =>
      if c = '[' then
        match dropBlanks r with
        | [] => .error .ended
        | d :: r' => if d = ']' then .ok ([], r') else itemsFrom item r
      else .error (mismatch (c :: r))
  shorter s v rest h := by
    split at h
    · simp at h
    · next c r hs =>
      have hr := length_lt_of_dropBlanks hs
      split at h
      · split at h
        · simp at h
        · next d r' hd =>
          split at h
          · simp only [Except.ok.injEq, Prod.mk.injEq] at h
            exact h.2 ▸ Nat.lt_trans (length_lt_of_dropBlanks hd) hr
          · exact Nat.lt_trans (length_lt_of_itemsFrom h) hr
      · simp at h

def variantFrom (ofName? : String → Option α) (s : List Char) : Outcome α :=
  match readText s with
  | .error e => .error e
  | .ok (name, rest) =>
    match ofName? (String.ofList name) with
    | none => .error .unfit
    | some v => .ok (v, rest)

def emptyContent (s : List Char) : Except Fault (List Char) :=
  match takeColon s with
  | .error e => .error e
  | .ok r =>
    match dropBlanks r with
    | [] => .error .ended
    | c :: r =>
      if c = 'n' then
        match takeWord ['u', 'l', 'l'] r with
        | .error e => .error e
        | .ok r =>
          match dropBlanks r with
          | [] => .error .ended
          | c :: r => if c = '}' then .ok r else .error .malformed
      else .error (mismatch (c :: r))

theorem length_lt_of_variantFrom {ofName? : String → Option α} {s rest : List Char} {v : α}
    (h : variantFrom ofName? s = .ok (v, rest)) : rest.length < s.length := by
  unfold variantFrom at h
  split at h
  · simp at h
  · next ht =>
    split at h
    · simp at h
    · simp only [Except.ok.injEq, Prod.mk.injEq] at h
      exact h.2 ▸ length_lt_of_readText ht

theorem length_lt_of_emptyContent {s rest : List Char} (h : emptyContent s = .ok rest) :
    rest.length < s.length := by
  unfold emptyContent at h
  split at h
  · simp at h
  · next r hc =>
    have h₁ := length_lt_of_takeColon hc
    split at h
    · simp at h
    · next c r' hd =>
      have h₂ := length_lt_of_dropBlanks hd
      split at h
      · split at h
        · simp at h
        · next r'' hw =>
          have h₃ := length_le_of_takeWord hw
          split at h
          · simp at h
          · next c' r₃ hd' =>
            have h₄ := length_lt_of_dropBlanks hd'
            split at h
            · simp only [Except.ok.injEq] at h
              subst h
              omega
            · simp at h
      · simp at h

/-- A variant as the only key of an object, from behind the opening brace. A key is a string; what starts
like any other value there is not looked at further. -/
def variantObject (ofName? : String → Option α) (s : List Char) : Outcome α :=
  match dropBlanks s with
  | [] => .error .ended
  | c :: r =>
    if c = '"' then
      match variantFrom ofName? r with
      | .error e => .error e
      | .ok (v, rest) => (emptyContent rest).map fun rest => (v, rest)
    else .error .malformed

theorem length_lt_of_variantObject {ofName? : String → Option α} {s rest : List Char} {v : α}
    (h : variantObject ofName? s = .ok (v, rest)) : rest.length < s.length := by
  unfold variantObject at h
  split at h
  · simp at h
  · next c r hs =>
    have h₁ := length_lt_of_dropBlanks hs
    split at h
    · split at h
      · simp at h
      · next u r' hv =>
        have h₂ := length_lt_of_variantFrom hv
        cases hx : emptyContent r' with
        | error e => simp [hx, Except.map] at h
        | ok x =>
          simp only [hx, Except.map, Except.ok.injEq, Prod.mk.injEq] at h
          have h₃ := length_lt_of_emptyContent hx
          rw [h.2] at h₃
          omega
    · simp at h

def choiceAt (ofName? : String → Option α) (s : List Char) : Outcome α :=
  match dropBlanks s with
  | [] => .error .ended
  | c :: r =>
    if c = '"' then variantFrom ofName? r
    else if c = '{' then variantObject ofName? r
    else .error .malformed

theorem length_lt_of_choiceAt {ofName? : String → Option α} {s rest : List Char} {v : α}
    (h : choiceAt ofName? s = .ok (v, rest)) : rest.length < s.length := by
  unfold choiceAt at h
  split at h
  · simp at h
  · next c r hs =>
    have h₁ := length_lt_of_dropBlanks hs
    split at h
    · exact Nat.lt_trans (length_lt_of_variantFrom h) h₁
    · split at h
      · exact Nat.lt_trans (length_lt_of_variantObject h) h₁
      · simp at h

def choice (ofName? : String → Option α) : Reader α :=
  ⟨choiceAt ofName?, fun _ _ _ => length_lt_of_choiceAt⟩

end Reader

structure Field (σ : Type) where
  name : String
  isGiven : σ → Bool
  reader : Reader (σ → σ)

def Field.of {σ τ : Type} (name : String) (get : σ → Option τ) (set : τ → σ → σ) (reader : Reader τ) :
    Field σ :=
  ⟨name, fun s => (get s).isSome, reader.map set⟩

namespace Reader

variable {σ β : Type}

/-- The value of a member, colon and all: kept if the key is that of a field, read over if not. A field
may be given once. -/
def member (fields : List (Field σ)) (key : String) (draft : σ) (s : List Char) : Outcome σ :=
  match fields.find? (fun f => f.name == key) with
  | none =>
    match takeColon s with
    | .error e => .error e
    | .ok r => (skipValue r).map fun rest => (draft, rest)
  | some f =>
    if f.isGiven draft then .error .unfit
    else match takeColon s with
      | .error e => .error e
      | .ok r =>
        match f.reader.run r with
        | .error e => .error e
        | .ok (set, rest) => .ok (set draft, rest)

theorem length_lt_of_member {fields : List (Field σ)} {key : String} {draft draft' : σ}
    {s rest : List Char} (h : member fields key draft s = .ok (draft', rest)) :
    rest.length < s.length := by
  unfold member at h
  split at h
  · split at h
    · simp at h
    · next r hc =>
      cases hx : skipValue r with
      | error e => simp [hx, Except.map] at h
      | ok x =>
        simp only [hx, Except.map, Except.ok.injEq, Prod.mk.injEq] at h
        have h₁ := length_lt_of_skipWithin hx
        have h₂ := length_lt_of_takeColon hc
        rw [← h.2]
        omega
  · split at h
    · simp at h
    · split at h
      · simp at h
      · next r hc =>
        split at h
        · simp at h
        · next hv =>
          simp only [Except.ok.injEq, Prod.mk.injEq] at h
          exact h.2 ▸ Nat.lt_trans (Reader.shorter _ _ _ _ hv) (length_lt_of_takeColon hc)

def keyedMember (fields : List (Field σ)) (draft : σ) (s : List Char) : Outcome σ :=
  match dropBlanks s with
  | [] => .error .ended
  | c :: r =>
    if c = '"' then
      match readText r with
      | .error e => .error e
      | .ok (key, rest) => member fields (String.ofList key) draft rest
    else .error .malformed

theorem length_lt_of_keyedMember {fields : List (Field σ)} {draft draft' : σ} {s rest : List Char}
    (h : keyedMember fields draft s = .ok (draft', rest)) : rest.length < s.length := by
  unfold keyedMember at h
  split at h
  · simp at h
  · next c r hs =>
    split at h
    · split at h
      · simp at h
      · next ht =>
        exact Nat.lt_trans (length_lt_of_member h)
          (Nat.lt_trans (length_lt_of_readText ht) (length_lt_of_dropBlanks hs))
    · simp at h

def membersFrom (fields : List (Field σ)) (draft : σ) (s : List Char) : Outcome σ :=
  match _h : keyedMember fields draft s with
  | .error e => .error e
  | .ok (draft, r) =>
    match _hr : dropBlanks r with
    | [] => .error .ended
    | c :: r' =>
      if c = '}' then .ok (draft, r')
      else if c = ',' then membersFrom fields draft r'
      else .error .malformed
termination_by s.length
decreasing_by exact Nat.lt_trans (length_lt_of_dropBlanks _hr) (length_lt_of_keyedMember _h)

theorem length_lt_of_membersFrom {fields : List (Field σ)} {draft draft' : σ} {s rest : List Char}
    (h : membersFrom fields draft s = .ok (draft', rest)) : rest.length < s.length := by
  fun_induction membersFrom fields draft s with
  | case1 => simp at h
  | case2 => simp at h
  | case3 _ _ _ _ hm _ hr =>
    simp only [Except.ok.injEq, Prod.mk.injEq] at h
    exact h.2 ▸ Nat.lt_trans (length_lt_of_dropBlanks hr) (length_lt_of_keyedMember hm)
  | case4 _ _ _ _ hm _ hr _ ih =>
    exact Nat.lt_trans (ih h)
      (Nat.lt_trans (length_lt_of_dropBlanks hr) (length_lt_of_keyedMember hm))
  | case5 => simp at h

/-- The fields of a record in the order of their declaration, and the closing bracket. The list may end
early. A comma goes before every field but the first. -/
def positionsFrom (draft : σ) : Bool → List (Field σ) → List Char → Outcome σ
  | _, [], s =>
    match dropBlanks s with
    | [] => .error .ended
    | c :: r => if c = ']' then .ok (draft, r) else .error .malformed
  | first, f :: fields, s =>
    match dropBlanks s with
    | [] => .error .ended
    | c :: r =>
      if c = ']' then .ok (draft, r)
      else if first ∨ c = ',' then
        match f.reader.run (if first then c :: r else r) with
        | .error e => .error e
        | .ok (set, rest) => positionsFrom (set draft) false fields rest
      else .error .malformed

theorem length_lt_of_positionsFrom {draft draft' : σ} {first : Bool} {fields : List (Field σ)}
    {s rest : List Char} (h : positionsFrom draft first fields s = .ok (draft', rest)) :
    rest.length < s.length := by
  induction fields generalizing draft first s with
  | nil =>
    simp only [positionsFrom] at h
    split at h
    · simp at h
    · next c r hs =>
      split at h
      · simp only [Except.ok.injEq, Prod.mk.injEq] at h
        exact h.2 ▸ length_lt_of_dropBlanks hs
      · simp at h
  | cons f fields ih =>
    simp only [positionsFrom] at h
    split at h
    · simp at h
    · next c r hs =>
      have h₁ := length_lt_of_dropBlanks hs
      split at h
      · simp only [Except.ok.injEq, Prod.mk.injEq] at h
        exact h.2 ▸ h₁
      · split at h
        · split at h
          · simp at h
          · next set rest' hv =>
            have h₂ := f.reader.shorter _ _ _ hv
            have h₃ := ih h
            have h₄ : (if first then c :: r else r).length ≤ r.length + 1 := by
              split <;> simp
            have h₅ := length_dropBlanks_le s
            rw [hs, List.length_cons] at h₅
            omega
        · simp at h

def record (fields : List (Field σ)) (start : σ) (finish : σ → Option β) : Reader β :=
  filterMap finish {
    run := fun s =>
      match dropBlanks s with
      | [] => .error .ended
      | c :: r =>
        if c = '[' then positionsFrom start true fields r
        else if c = '{' then
          match dropBlanks r with
          | [] => .error .ended
          | d :: r' => if d = '}' then .ok (start, r') else membersFrom fields start r
        else .error (mismatch (c :: r))
    shorter := by
      intro s v rest h
      split at h
      · simp at h
      · next c r hs =>
        have h₁ := length_lt_of_dropBlanks hs
        split at h
        · exact Nat.lt_trans (length_lt_of_positionsFrom h) h₁
        · split at h
          · split at h
            · simp at h
            · next d r' hd =>
              split at h
              · simp only [Except.ok.injEq, Prod.mk.injEq] at h
                exact h.2 ▸ Nat.lt_trans (length_lt_of_dropBlanks hd) h₁
              · exact Nat.lt_trans (length_lt_of_membersFrom h) h₁
          · simp at h
  }

end Reader

def decode {α : Type} (p : Reader α) (s : String) : Except Fault α :=
  match p.run s.toList with
  | .error e => .error e
  | .ok (v, rest) => if (dropBlanks rest).isEmpty then .ok v else .error .malformed

end Fidelity.Json
