import Fidelity.Json.Reader

/-! Strings. Between its quotation marks a string holds any characters but quotation marks, backslashes
and control characters, and escapes for these and for all others. Characters beyond the basic plane
are escaped as a pair of surrogates, neither of which may stand alone. -/
namespace Fidelity.Json

def isControl (c : Char) : Bool := c.toNat < 0x20

def shortEscape? (c : Char) : Option Char :=
  match c with
  | '"' => some '"'
  | '\\' => some '\\'
  | '/' => some '/'
  | 'b' => some '\x08'
  | 'f' => some '\x0c'
  | 'n' => some '\n'
  | 'r' => some '\r'
  | 't' => some '\t'
  | _ => none

def hexValue? (c : Char) : Option Nat :=
  if '0' ≤ c ∧ c ≤ '9' then some (c.toNat - '0'.toNat)
  else if 'a' ≤ c ∧ c ≤ 'f' then some (c.toNat - 'a'.toNat + 10)
  else if 'A' ≤ c ∧ c ≤ 'F' then some (c.toNat - 'A'.toNat + 10)
  else none

/-- The number of four hexadecimal digits. Four bytes must be left for them to be looked at. -/
def readHex : List Char → Outcome Nat
  | a :: b :: c :: d :: rest =>
    match hexValue? a, hexValue? b, hexValue? c, hexValue? d with
    | some a, some b, some c, some d => .ok (((a * 16 + b) * 16 + c) * 16 + d, rest)
    | _, _, _, _ => .error .malformed
  | s => if (String.ofList s).utf8ByteSize < 4 then .error .ended else .error .malformed

def isHighSurrogate (n : Nat) : Bool := 0xD800 ≤ n && n ≤ 0xDBFF

def isLowSurrogate (n : Nat) : Bool := 0xDC00 ≤ n && n ≤ 0xDFFF

def joinSurrogates (high low : Nat) : Char :=
  Char.ofNat (0x10000 + (high - 0xD800) * 0x400 + (low - 0xDC00))

def readLowSurrogate : List Char → Outcome Nat
  | [] => .error .ended
  | ['\\'] => .error .ended
  | '\\' :: 'u' :: rest =>
    match readHex rest with
    | .error e => .error e
    | .ok (n, rest) => if isLowSurrogate n then .ok (n, rest) else .error .malformed
  | _ => .error .malformed

def readNumbered (s : List Char) : Outcome Char :=
  match readHex s with
  | .error e => .error e
  | .ok (n, rest) =>
    if isLowSurrogate n then .error .malformed
    else if isHighSurrogate n then
      match readLowSurrogate rest with
      | .error e => .error e
      | .ok (low, rest) => .ok (joinSurrogates n low, rest)
    else .ok (Char.ofNat n, rest)

def readEscape : List Char → Outcome Char
  | [] => .error .ended
  | 'u' :: rest => readNumbered rest
  | c :: rest =>
    match shortEscape? c with
    | some d => .ok (d, rest)
    | none => .error .malformed

theorem length_lt_of_readHex {s rest : List Char} {n : Nat} (h : readHex s = .ok (n, rest)) :
    rest.length < s.length := by
  unfold readHex at h
  split at h
  · split at h
    · simp only [Except.ok.injEq, Prod.mk.injEq] at h
      rw [← h.2]
      simp only [List.length_cons]
      omega
    · simp at h
  · split at h <;> simp at h

theorem length_lt_of_readLowSurrogate {s rest : List Char} {n : Nat}
    (h : readLowSurrogate s = .ok (n, rest)) : rest.length < s.length := by
  unfold readLowSurrogate at h
  split at h
  · simp at h
  · simp at h
  · split at h
    · simp at h
    · next hr =>
      split at h
      · simp only [Except.ok.injEq, Prod.mk.injEq] at h
        have := length_lt_of_readHex hr
        rw [← h.2]
        simp only [List.length_cons]
        omega
      · simp at h
  · simp at h

theorem length_lt_of_readNumbered {s rest : List Char} {c : Char}
    (h : readNumbered s = .ok (c, rest)) : rest.length < s.length := by
  unfold readNumbered at h
  split at h
  · simp at h
  · next hr =>
    have := length_lt_of_readHex hr
    split at h
    · simp at h
    · split at h
      · split at h
        · simp at h
        · next hl =>
          have := length_lt_of_readLowSurrogate hl
          simp only [Except.ok.injEq, Prod.mk.injEq] at h
          rw [← h.2]
          omega
      · simp only [Except.ok.injEq, Prod.mk.injEq] at h
        rw [← h.2]
        omega

theorem length_lt_of_readEscape {s rest : List Char} {c : Char}
    (h : readEscape s = .ok (c, rest)) : rest.length < s.length := by
  unfold readEscape at h
  split at h
  · simp at h
  · have := length_lt_of_readNumbered h
    simp only [List.length_cons]
    omega
  · split at h
    · simp only [Except.ok.injEq, Prod.mk.injEq] at h
      rw [← h.2]
      simp
    · simp at h

def readText (s : List Char) : Outcome (List Char) :=
  match s with
  | [] => .error .ended
  | c :: r =>
    if c = '"' then .ok ([], r)
    else if c = '\\' then
      match _h : readEscape r with
      | .error e => .error e
      | .ok (d, r) => (readText r).map fun (cs, rest) => (d :: cs, rest)
    else if isControl c then .error .malformed
    else (readText r).map fun (cs, rest) => (c :: cs, rest)
termination_by s.length
decreasing_by
  · have := length_lt_of_readEscape _h
    simp only [List.length_cons]
    omega
  · simp

def skipText (s : List Char) : Except Fault (List Char) :=
  match s with
  | [] => .error .ended
  | c :: r =>
    if c = '"' then .ok r
    else if c = '\\' then
      match r with
      | [] => .error .ended
      | 'u' :: r =>
        match _h : readHex r with
        | .error e => .error e
        | .ok (_, r) => skipText r
      | d :: r => if (shortEscape? d).isSome then skipText r else .error .malformed
    else if isControl c then .error .malformed
    else skipText r
termination_by s.length
decreasing_by
  · have := length_lt_of_readHex _h
    simp only [List.length_cons]
    omega
  · simp only [List.length_cons]
    omega
  · simp

theorem length_lt_of_readText {s rest t : List Char} (h : readText s = .ok (t, rest)) :
    rest.length < s.length := by
  fun_induction readText s generalizing t with
  | case1 => simp at h
  | case2 r =>
    simp only [Except.ok.injEq, Prod.mk.injEq] at h
    rw [← h.2]
    simp
  | case3 => simp at h
  | case4 r d r' hr _ ih =>
    cases hx : readText r' with
    | error e => simp [hx, Except.map] at h
    | ok x =>
      simp only [hx, Except.map, Except.ok.injEq, Prod.mk.injEq] at h
      have h₁ := ih (t := x.1) (by rw [hx, ← h.2])
      have h₂ := length_lt_of_readEscape hr
      simp only [List.length_cons]
      omega
  | case5 => simp at h
  | case6 c r _ _ _ ih =>
    cases hx : readText r with
    | error e => simp [hx, Except.map] at h
    | ok x =>
      simp only [hx, Except.map, Except.ok.injEq, Prod.mk.injEq] at h
      have h₁ := ih (t := x.1) (by rw [hx, ← h.2])
      simp only [List.length_cons]
      omega

theorem length_lt_of_skipText {s rest : List Char} (h : skipText s = .ok rest) :
    rest.length < s.length := by
  fun_induction skipText s with
  | case1 => simp at h
  | case2 => simp_all
  | case3 => simp at h
  | case4 => simp at h
  | case5 _ _ _ hr _ ih =>
    have h₁ := ih h
    have h₂ := length_lt_of_readHex hr
    simp only [List.length_cons]
    omega
  | case6 _ _ _ _ _ ih =>
    have h₁ := ih h
    simp only [List.length_cons]
    omega
  | case7 => simp at h
  | case8 => simp at h
  | case9 _ _ _ _ _ ih =>
    have h₁ := ih h
    simp only [List.length_cons]
    omega

def encodeChar (c : Char) : List Char :=
  match c with
  | '"' => ['\\', '"']
  | '\\' => ['\\', '\\']
  | '\x08' => ['\\', 'b']
  | '\x0c' => ['\\', 'f']
  | '\n' => ['\\', 'n']
  | '\r' => ['\\', 'r']
  | '\t' => ['\\', 't']
  | c =>
    if isControl c then
      ['\\', 'u', '0', '0', Nat.digitChar (c.toNat / 16), Nat.digitChar (c.toNat % 16)]
    else [c]

def encodeText (s : String) : List Char := '"' :: (s.toList.flatMap encodeChar ++ ['"'])

end Fidelity.Json
