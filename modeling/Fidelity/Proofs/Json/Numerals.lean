import Mathlib
import Fidelity.Json.Shape

/-!
# Numerals

Main statement: a numeral that is read off the end of a text is read in the same way where the text goes
on with what is no part of a numeral.
-/
namespace Fidelity.Json

/-- A text that does not go on with a numeral in front of it. -/
def EndsNumeral (rest : List Char) : Prop :=
  ∀ c ∈ rest.head?, c.isDigit = false ∧ c ≠ '.' ∧ c ≠ 'e' ∧ c ≠ 'E'

section

variable {cut : Fault} {s r rest : List Char}

theorem takeWhile_isDigit_append (hrest : EndsNumeral rest) (s : List Char) :
    (s ++ rest).takeWhile Char.isDigit = s.takeWhile Char.isDigit := by
  induction s with
  | nil =>
    cases rest with
    | nil => rfl
    | cons c rest => simp [(hrest c rfl).1]
  | cons c s ih => simp [List.takeWhile_cons, ih]

theorem dropWhile_isDigit_append (hrest : EndsNumeral rest) (s : List Char) :
    (s ++ rest).dropWhile Char.isDigit = s.dropWhile Char.isDigit ++ rest := by
  induction s with
  | nil =>
    cases rest with
    | nil => rfl
    | cons c rest => simp [(hrest c rfl).1]
  | cons c s ih =>
    rw [List.cons_append, List.dropWhile_cons, List.dropWhile_cons, ih]
    split <;> rfl

theorem takeDigits_append {ds : List Char} (hrest : EndsNumeral rest)
    (h : takeDigits cut s = .ok (ds, r)) : takeDigits cut (s ++ rest) = .ok (ds, r ++ rest) := by
  rw [takeDigits] at h ⊢
  rw [takeWhile_isDigit_append hrest, dropWhile_isDigit_append hrest]
  split at h
  · cases h
  · cases h
    rfl

theorem ne_nil_of_takeDigits {ds : List Char} (h : takeDigits cut s = .ok (ds, r)) : s ≠ [] := by
  rintro rfl
  cases h

theorem takeSign_append (h : (takeSign s).2 ≠ []) :
    takeSign (s ++ rest) = ((takeSign s).1, (takeSign s).2 ++ rest) := by
  cases s with
  | nil => exact absurd rfl h
  | cons c s => by_cases hc : c = '-' <;> simp_all [takeSign]

theorem takeExponentSign_append (h : (takeExponentSign s).2 ≠ []) :
    takeExponentSign (s ++ rest) = ((takeExponentSign s).1, (takeExponentSign s).2 ++ rest) := by
  cases s with
  | nil => exact absurd rfl h
  | cons c s =>
    by_cases hplus : c = '+' <;> by_cases hminus : c = '-' <;>
      simp_all [takeExponentSign, takeSign]

theorem readFraction_of_ne (h : ∀ c ∈ s.head?, c ≠ '.') : readFraction cut s = .ok (none, s) := by
  rw [readFraction]
  rintro r rfl
  exact h '.' rfl rfl

theorem readExponent_of_ne (h : ∀ c ∈ s.head?, c ≠ 'e' ∧ c ≠ 'E') :
    readExponent cut s = .ok (none, s) := by
  cases s with
  | nil => rfl
  | cons c s => exact if_neg (not_or.mpr (h c rfl))

theorem readFraction_append {f : Option (List Char)} (hrest : EndsNumeral rest)
    (h : readFraction cut s = .ok (f, r)) : readFraction cut (s ++ rest) = .ok (f, r ++ rest) := by
  cases s with
  | nil =>
    cases h
    exact readFraction_of_ne fun c hc => (hrest c hc).2.1
  | cons c s =>
    by_cases hc : c = '.'
    · subst hc
      simp only [readFraction, List.cons_append] at h ⊢
      cases hdigits : takeDigits cut s with
      | error e => simp [hdigits] at h
      | ok taken =>
        rw [hdigits] at h
        cases h
        rw [takeDigits_append hrest hdigits]
    · have hne (t : List Char) : ∀ d ∈ (c :: t).head?, d ≠ '.' := by simpa using hc
      rw [readFraction_of_ne (hne s)] at h
      cases h
      exact readFraction_of_ne (hne (s ++ rest))

theorem readExponent_append {x : Option (Bool × List Char)} (hrest : EndsNumeral rest)
    (h : readExponent cut s = .ok (x, r)) : readExponent cut (s ++ rest) = .ok (x, r ++ rest) := by
  cases s with
  | nil =>
    cases h
    exact readExponent_of_ne fun c hc => (hrest c hc).2.2
  | cons c s =>
    by_cases hc : c = 'e' ∨ c = 'E'
    · simp only [readExponent, List.cons_append, if_pos hc] at h ⊢
      cases hdigits : takeDigits cut (takeExponentSign s).2 with
      | error e => simp [hdigits] at h
      | ok taken =>
        rw [hdigits] at h
        cases h
        rw [takeExponentSign_append (ne_nil_of_takeDigits hdigits), takeDigits_append hrest hdigits]
    · have hne (t : List Char) : ∀ d ∈ (c :: t).head?, d ≠ 'e' ∧ d ≠ 'E' := by
        simpa using not_or.mp hc
      rw [readExponent_of_ne (hne s)] at h
      cases h
      exact readExponent_of_ne (hne (s ++ rest))

theorem readNumeral_append {n : Numeral} (hrest : EndsNumeral rest)
    (h : readNumeral cut s = .ok (n, r)) : readNumeral cut (s ++ rest) = .ok (n, r ++ rest) := by
  -- Part by part: each one ends within `s`, or at its end where `rest` does not go on with it.
  simp only [readNumeral] at h ⊢
  cases hdigits : takeDigits cut (takeSign s).2 with
  | error e => simp [hdigits] at h
  | ok taken =>
    rw [takeSign_append (ne_nil_of_takeDigits hdigits), takeDigits_append hrest hdigits]
    simp only [hdigits] at h ⊢
    split_ifs at h ⊢ with hzero
    cases hfraction : readFraction cut taken.2 with
    | error e => simp [hfraction] at h
    | ok fraction =>
      rw [readFraction_append hrest hfraction]
      simp only [hfraction] at h ⊢
      cases hexponent : readExponent cut fraction.2 with
      | error e => simp [hexponent] at h
      | ok exponent =>
        rw [readExponent_append hrest hexponent]
        simp only [hexponent] at h ⊢
        cases h
        rfl

end

theorem head?_toDigits_ne_zero {n : ℕ} (h : n ≠ 0) : (Nat.toDigits 10 n).head? ≠ some '0' := by
  induction n using Nat.base_induction 10 (by decide) with
  | single m hm =>
    rw [Nat.toDigits_of_lt_base hm]
    simpa using h
  | digit m k hk hm ih =>
    rw [← Nat.toDigits_append_toDigits (by decide) hm hk,
      List.head?_append_of_ne_nil _ Nat.toDigits_ne_nil]
    exact ih hm.ne'

theorem gatherDigits_eq {m : ℕ} {ds : List Char} (h : Nat.ofDigitChars 10 ds m < UInt64.size) :
    gatherDigits m ds = (Nat.ofDigitChars 10 ds m, []) := by
  induction ds generalizing m with
  | nil => rfl
  | cons c ds ih =>
    rw [Nat.ofDigitChars_cons] at h ⊢
    have hfits : 10 * m + digitValue c < UInt64.size := by
      rw [Nat.ofDigitChars_eq_ofDigitChars_zero] at h
      have hpow := Nat.one_le_pow ds.length 10 (by decide)
      calc 10 * m + digitValue c
          ≤ 10 ^ ds.length * (10 * m + digitValue c) := Nat.le_mul_of_pos_left _ hpow
        _ ≤ _ := Nat.le_add_right ..
        _ < UInt64.size := h
    rw [gatherDigits, if_pos hfits]
    exact ih h

end Fidelity.Json
