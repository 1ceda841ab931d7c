import Fidelity.Json.Reader

/-!
# Numbers

A numeral is read whole and valued afterwards. One without fraction and exponent that 64 bits can hold is
an exact integer. Any other one is a double: its leading digits, as many as 64 bits hold, make a
significand, which one product or quotient by a power of ten brings to its size. This is not always the
double nearest to the numeral. A numeral too large for a double is refused.
-/
namespace Fidelity.Json

structure Numeral where
  negative : Bool
  whole : List Char
  fraction : Option (List Char)
  /-- The digits of the exponent and whether it is negative. -/
  exponent : Option (Bool × List Char)
deriving DecidableEq, Repr

/-- The digits at the front of a text, of which there must be one. `cut` is the fault of a text that ends
where a digit is due. -/
def takeDigits (cut : Fault) (s : List Char) : Outcome (List Char) :=
  match s.takeWhile Char.isDigit with
  | [] => .error (if s.isEmpty then cut else .malformed)
  | ds => .ok (ds, s.dropWhile Char.isDigit)

def takeSign : List Char → Bool × List Char
  | '-' :: r => (true, r)
  | s => (false, s)

def takeExponentSign : List Char → Bool × List Char
  | '+' :: r => (false, r)
  | s => takeSign s

def readFraction (cut : Fault) : List Char → Outcome (Option (List Char))
  | '.' :: r =>
    match takeDigits cut r with
    | .error e => .error e
    | .ok (ds, rest) => .ok (some ds, rest)
  | s => .ok (none, s)

def readExponent (cut : Fault) (s : List Char) : Outcome (Option (Bool × List Char)) :=
  match s with
  | [] => .ok (none, s)
  | c :: r =>
    if c = 'e' ∨ c = 'E' then
      let signed := takeExponentSign r
      match takeDigits cut signed.2 with
      | .error e => .error e
      | .ok (ds, rest) => .ok (some (signed.1, ds), rest)
    else .ok (none, s)

def readNumeral (cut : Fault) (s : List Char) : Outcome Numeral :=
  let signed := takeSign s
  match takeDigits cut signed.2 with
  | .error e => .error e
  | .ok (whole, rest) =>
    if whole.head? = some '0' ∧ whole.length ≠ 1 then .error .malformed
    else match readFraction cut rest with
      | .error e => .error e
      | .ok (fraction, rest) =>
        match readExponent cut rest with
        | .error e => .error e
        | .ok (exponent, rest) => .ok (⟨signed.1, whole, fraction, exponent⟩, rest)

theorem length_lt_of_takeDigits {cut : Fault} {s ds rest : List Char}
    (h : takeDigits cut s = .ok (ds, rest)) : rest.length < s.length := by
  unfold takeDigits at h
  split at h
  · simp at h
  · next hne =>
    simp only [Except.ok.injEq, Prod.mk.injEq] at h
    have happ := congrArg List.length (List.takeWhile_append_dropWhile (p := Char.isDigit) (l := s))
    rw [List.length_append] at happ
    have hpos : 0 < (s.takeWhile Char.isDigit).length := List.length_pos_iff.mpr hne
    rw [← h.2]
    omega

theorem length_takeSign_le (s : List Char) : (takeSign s).2.length ≤ s.length := by
  unfold takeSign
  split <;> simp

theorem length_takeExponentSign_le (s : List Char) : (takeExponentSign s).2.length ≤ s.length := by
  unfold takeExponentSign
  split
  · simp
  · exact length_takeSign_le _

theorem length_le_of_readFraction {cut : Fault} {s rest : List Char} {f : Option (List Char)}
    (h : readFraction cut s = .ok (f, rest)) : rest.length ≤ s.length := by
  unfold readFraction at h
  split at h
  · split at h
    · simp at h
    · next hd =>
      have := length_lt_of_takeDigits hd
      simp only [Except.ok.injEq, Prod.mk.injEq] at h
      rw [← h.2]
      simp only [List.length_cons]
      omega
  · simp only [Except.ok.injEq, Prod.mk.injEq] at h
    exact Nat.le_of_eq (by rw [h.2])

theorem length_le_of_readExponent {cut : Fault} {s rest : List Char} {x : Option (Bool × List Char)}
    (h : readExponent cut s = .ok (x, rest)) : rest.length ≤ s.length := by
  unfold readExponent at h
  split at h
  · simp only [Except.ok.injEq, Prod.mk.injEq] at h
    exact Nat.le_of_eq (by rw [h.2])
  · next c r =>
    split at h
    · dsimp only at h
      split at h
      · simp at h
      · next hd =>
        have h₁ := length_lt_of_takeDigits hd
        have h₂ := length_takeExponentSign_le r
        simp only [Except.ok.injEq, Prod.mk.injEq] at h
        rw [← h.2]
        simp only [List.length_cons]
        omega
    · simp only [Except.ok.injEq, Prod.mk.injEq] at h
      exact Nat.le_of_eq (by rw [h.2])

theorem length_lt_of_readNumeral {cut : Fault} {s rest : List Char} {n : Numeral}
    (h : readNumeral cut s = .ok (n, rest)) : rest.length < s.length := by
  unfold readNumeral at h
  dsimp only at h
  have h₀ := length_takeSign_le s
  split at h
  · simp at h
  · next hd =>
    have h₁ := length_lt_of_takeDigits hd
    split at h
    · simp at h
    · split at h
      · simp at h
      · next hf =>
        have h₂ := length_le_of_readFraction hf
        split at h
        · simp at h
        · next hx =>
          have h₃ := length_le_of_readExponent hx
          simp only [Except.ok.injEq, Prod.mk.injEq] at h
          rw [← h.2]
          omega

inductive Number where
  | natural (n : UInt64)
  | negative (n : UInt64)
  | real (x : Float)

def digitValue (c : Char) : Nat := c.toNat - '0'.toNat

/-- Append digits to a number as long as 64 bits hold it; the digits from the first one on that does not
fit are left. -/
def gatherDigits (n : Nat) : List Char → Nat × List Char
  | [] => (n, [])
  | c :: r =>
    let m := 10 * n + digitValue c
    if m < UInt64.size then gatherDigits m r else (n, c :: r)

def naturalOf (ds : List Char) : Nat := ds.foldl (fun n c => 10 * n + digitValue c) 0

def greatestPower : Nat := 308

def powerOfTen (k : Nat) : Float := Float.ofScientific 1 false k

/-- `x` times a power of ten. Divisions by the greatest power go first where one step is not enough, and
end when nothing is left of `x`. -/
def scaleByTen (x : Float) (e : Int) : Except Fault Float :=
  if 0 ≤ e then
    if e ≤ greatestPower then
      let y := x * powerOfTen e.toNat
      if y.isInf then .error .malformed else .ok y
    else if x == 0 then .ok x
    else .error .malformed
  else if _h : -(greatestPower : Int) ≤ e then .ok (x / powerOfTen (-e).toNat)
  else if x == 0 then .ok x
  else scaleByTen (x / powerOfTen greatestPower) (e + greatestPower)
termination_by (-e).toNat
decreasing_by
  simp only [greatestPower] at _h ⊢
  omega

def greatestExponent : Nat := 0x7FFFFFFF

def signed (negative : Bool) (x : Float) : Float := if negative then -x else x

def Numeral.real (n : Numeral) (significand : Nat) (e : Int) : Except Fault Float :=
  let x := (UInt64.ofNat significand).toFloat
  (match n.exponent with
    | none => scaleByTen x e
    | some (negative, ds) =>
      let k := naturalOf ds
      if greatestExponent < k then
        if significand ≠ 0 ∧ negative = false then .error .malformed else .ok 0
      else scaleByTen x (if negative then e - k else e + k)).map (signed n.negative)

def Numeral.value (n : Numeral) : Except Fault Number :=
  let whole := gatherDigits 0 n.whole
  match n.fraction, n.exponent, whole.2 with
  | none, none, [] =>
    .ok (if n.negative = false then .natural (UInt64.ofNat whole.1)
      else if 0 < whole.1 ∧ whole.1 ≤ 0x8000000000000000 then .negative (UInt64.ofNat whole.1)
      else .real (-(UInt64.ofNat whole.1).toFloat))
  | fraction, _, left =>
    let digits := fraction.getD []
    let all := gatherDigits whole.1 digits
    let e : Int := (left.length : Int) - ((digits.length : Int) - all.2.length)
    (n.real all.1 e).map .real

def Number.toFloat : Number → Float
  | natural n => n.toFloat
  | negative n => -n.toFloat
  | real x => x

def Number.toNatural? : Number → Option UInt64
  | natural n => some n
  | _ => none

def readNumber (s : List Char) : Outcome Number :=
  match readNumeral .ended s with
  | .error e => .error e
  | .ok (n, rest) =>
    match n.value with
    | .error e => .error e
    | .ok x => .ok (x, rest)

theorem length_lt_of_readNumber {s rest : List Char} {x : Number}
    (h : readNumber s = .ok (x, rest)) : rest.length < s.length := by
  unfold readNumber at h
  split at h
  · simp at h
  · next hn =>
    split at h
    · simp at h
    · simp only [Except.ok.injEq, Prod.mk.injEq] at h
      exact h.2 ▸ length_lt_of_readNumeral hn

def skipNumber (s : List Char) : Except Fault (List Char) :=
  (readNumeral .malformed s).map Prod.snd

theorem length_lt_of_skipNumber {s rest : List Char} (h : skipNumber s = .ok rest) :
    rest.length < s.length := by
  unfold skipNumber at h
  cases hn : readNumeral .malformed s with
  | error e => simp [hn, Except.map] at h
  | ok x =>
    simp only [hn, Except.map, Except.ok.injEq] at h
    exact h ▸ length_lt_of_readNumeral (n := x.1) (by rw [hn])

end Fidelity.Json
