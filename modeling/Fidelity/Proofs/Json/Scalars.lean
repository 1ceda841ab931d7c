import Mathlib
import Fidelity.Proofs.Json.Grammar
import Fidelity.Proofs.Json.Numerals

/-!
# Numbers and strings of the grammar

Main statements: a number is read part by part as it is written, and a string is read as the
characters that it stands for. Where it stands for none it is refused, unless it is of no interest.
-/
namespace Fidelity.Json

section

variable {blanks rest : List Char}

/-- What may stand behind a value: nothing, or a sign of the list or the object around it. -/
def EndsValue (rest : List Char) : Prop := ∀ c ∈ rest.head?, c = ',' ∨ c = ']' ∨ c = '}'

theorem endsValue_cons {c : Char} (h : c = ',' ∨ c = ']' ∨ c = '}') (rest : List Char) :
    EndsValue (c :: rest) := by
  intro d hd
  cases hd
  exact h

theorem EndsValue.endsNumeral (h : EndsValue rest) : EndsNumeral rest := by
  intro c hc
  rcases h c hc with rfl | rfl | rfl <;> decide

theorem EndsValue.dropBlanks_eq (h : EndsValue rest) : dropBlanks rest = rest := by
  cases rest with
  | nil => rfl
  | cons c rest =>
    apply dropBlanks_cons_of_not_isBlank
    rcases h c rfl with rfl | rfl | rfl <;> rfl

theorem Blanks.dropBlanks_append (h : Blanks blanks) (hrest : EndsValue rest) :
    dropBlanks (blanks ++ rest) = rest := by
  rw [dropBlanks_blanks_append h, hrest.dropBlanks_eq]

theorem Blanks.endsNumeral_append (h : Blanks blanks) (hrest : EndsValue rest) :
    EndsNumeral (blanks ++ rest) := by
  cases blanks with
  | nil => exact hrest.endsNumeral
  | cons c blanks =>
    rintro d ⟨⟩
    have hblank := h c List.mem_cons_self
    simp only [isBlank, Bool.or_eq_true, beq_iff_eq] at hblank
    rcases hblank with ((rfl | rfl) | rfl) | rfl <;> decide

end

theorem isBlank_of_isDigit {c : Char} (h : c.isDigit = true) : isBlank c = false := by
  by_contra hblank
  simp only [isBlank, Bool.not_eq_false, Bool.or_eq_true, beq_iff_eq] at hblank
  rcases hblank with ((rfl | rfl) | rfl) | rfl <;> cases h

theorem takeDigits_digits (cut : Fault) (ds : Digits) (rest : List Char)
    (hrest : ∀ c ∈ rest.head?, c.isDigit = false) :
    takeDigits cut (ds.chars ++ rest) = .ok (ds.chars, rest) := by
  have hstop : rest.takeWhile Char.isDigit = [] ∧ rest.dropWhile Char.isDigit = rest := by
    cases rest with
    | nil => exact ⟨rfl, rfl⟩
    | cons c rest => simp [hrest c rfl]
  rw [takeDigits, List.takeWhile_append_of_pos ds.isDigit, List.dropWhile_append_of_pos ds.isDigit,
    hstop.1, hstop.2, List.append_nil]
  split
  · next heq => exact absurd heq ds.ne_nil
  · rfl

theorem Digits.exists_chars_eq (ds : Digits) : ∃ c r, ds.chars = c :: r ∧ c.isDigit = true := by
  obtain ⟨c, r, heq⟩ := List.exists_cons_of_ne_nil ds.ne_nil
  exact ⟨c, r, heq, ds.isDigit c (heq ▸ List.mem_cons_self)⟩

theorem takeSign_chars (ds : Digits) (rest : List Char) :
    takeSign (ds.chars ++ rest) = (false, ds.chars ++ rest) := by
  obtain ⟨c, r, heq, hc⟩ := ds.exists_chars_eq
  rw [heq, takeSign]
  rintro s ⟨⟩
  cases hc

theorem takeExponentSign_signText (sign : Option Bool) (ds : Digits) :
    takeExponentSign (signText sign ++ ds.chars) = (sign.getD false, ds.chars) := by
  match sign with
  | some false => rfl
  | some true => rfl
  | none =>
    obtain ⟨c, r, heq, hc⟩ := ds.exists_chars_eq
    have hsign := takeSign_chars ds []
    rw [List.append_nil] at hsign
    rw [signText, List.nil_append, takeExponentSign, hsign]
    · rfl
    · rintro s hs
      rw [heq] at hs
      cases hs
      cases hc

namespace NumberForm

variable (n : NumberForm) (cut : Fault)

theorem head?_exponentText : ∀ c ∈ n.exponentText.head?, c = 'e' ∨ c = 'E' := by
  rw [exponentText]
  cases n.exponent with
  | none => nofun
  | some e =>
    rintro c ⟨⟩
    exact e.isLetter

theorem head?_fractionText_append :
    ∀ c ∈ (n.fractionText ++ n.exponentText).head?, c.isDigit = false := by
  rw [fractionText]
  cases n.fraction with
  | none =>
    intro c hc
    rcases n.head?_exponentText c hc with rfl | rfl <;> rfl
  | some ds =>
    rintro c ⟨⟩
    rfl

theorem readExponent_exponentText :
    readExponent cut n.exponentText = .ok (n.numeral.exponent, []) := by
  rw [exponentText, numeral]
  cases n.exponent with
  | none => rfl
  | some e =>
    have hdigits : takeDigits cut e.digits.chars = .ok (e.digits.chars, []) := by
      simpa using takeDigits_digits cut e.digits [] nofun
    simp [Exponent.text, readExponent, e.isLetter, takeExponentSign_signText, hdigits]

theorem readFraction_fractionText :
    readFraction cut (n.fractionText ++ n.exponentText) =
      .ok (n.numeral.fraction, n.exponentText) := by
  have hletter := n.head?_exponentText
  rw [fractionText, numeral]
  cases n.fraction with
  | none =>
    refine readFraction_of_ne fun c hc => ?_
    rcases hletter c hc with rfl | rfl <;> decide
  | some ds =>
    have hdigits := takeDigits_digits cut ds n.exponentText fun c hc => by
      rcases hletter c hc with rfl | rfl <;> rfl
    simp [readFraction, hdigits]

theorem readNumeral_text : readNumeral cut n.text = .ok (n.numeral, []) := by
  have hsign : takeSign n.text =
      (n.negative, n.whole.chars ++ (n.fractionText ++ n.exponentText)) := by
    rw [text]
    cases n.negative with
    | true => rfl
    | false => exact takeSign_chars n.whole _
  have hzero : ¬(n.whole.chars.head? = some '0' ∧ n.whole.chars.length ≠ 1) :=
    fun h => h.2 (n.leading h.1)
  simp only [readNumeral, hsign, takeDigits_digits cut n.whole _ n.head?_fractionText_append,
    if_neg hzero, n.readFraction_fractionText, n.readExponent_exponentText]
  rfl

theorem exists_text_eq : ∃ c r, n.text = c :: r ∧ (c = '-' ∨ c.isDigit = true) := by
  rw [text]
  cases n.negative with
  | true => exact ⟨'-', _, rfl, .inl rfl⟩
  | false =>
    obtain ⟨c, r, heq, hc⟩ := n.whole.exists_chars_eq
    exact ⟨c, r ++ (n.fractionText ++ n.exponentText), by simp [heq], .inr hc⟩

theorem value_numeral {v : UInt64} (h : n.natural? = some v) :
    n.numeral.value = .ok (.natural v) := by
  rw [natural?] at h
  split_ifs at h with hform
  simp only [not_or, Bool.not_eq_true, Option.isSome_eq_false_iff, Option.isNone_iff_eq_none,
    not_le] at hform
  obtain ⟨hnegative, hfraction, hexponent, hvalue⟩ := hform
  cases h
  have hgather := gatherDigits_eq hvalue
  simp [Numeral.value, numeral, hnegative, hfraction, hexponent, hgather]

end NumberForm

section

variable {c d : Char} {r rest : List Char}

theorem readText_plain (hquote : c ≠ '"') (hescape : c ≠ '\\') (hcontrol : isControl c = false) :
    readText (c :: rest) = (readText rest).map fun (cs, rest) => (c :: cs, rest) := by
  rw [readText]
  simp [hquote, hescape, hcontrol]

theorem readText_escape (h : readEscape r = .ok (d, rest)) :
    readText ('\\' :: r) = (readText rest).map fun (cs, rest) => (d :: cs, rest) := by
  rw [readText, if_neg (by decide), if_pos rfl]
  split <;> rename_i heq
  · cases h.symm.trans heq
  · cases h.symm.trans heq
    rfl

end

theorem readHex_digits (a b c d : HexDigit) (rest : List Char) :
    readHex (a.char :: b.char :: c.char :: d.char :: rest) = .ok (codeValue a b c d, rest) := by
  simp [readHex, a.read, b.read, c.read, d.read, codeValue]

theorem readEscape_letter {letter c : Char} (h : shortEscape? letter = some c) (rest : List Char) :
    readEscape (letter :: rest) = .ok (c, rest) := by
  rw [readEscape, h]
  rintro rfl
  cases h

theorem readEscape_code (a b c d : HexDigit) (s : List Char) :
    readEscape ('u' :: a.char :: b.char :: c.char :: d.char :: s) =
      if isLowSurrogate (codeValue a b c d) then .error .malformed
      else if isHighSurrogate (codeValue a b c d) then
        (readLowSurrogate s).map fun read => (joinSurrogates (codeValue a b c d) read.1, read.2)
      else .ok (Char.ofNat (codeValue a b c d), s) := by
  simp only [readEscape, readNumbered, readHex_digits]
  cases readLowSurrogate s <;> rfl

theorem readLowSurrogate_code (a b c d : HexDigit) (s : List Char) :
    readLowSurrogate ('\\' :: 'u' :: a.char :: b.char :: c.char :: d.char :: s) =
      if isLowSurrogate (codeValue a b c d) then .ok (codeValue a b c d, s)
      else .error .malformed := by
  simp only [readLowSurrogate, readHex_digits]

theorem readText_of_readEscape_eq_error {s : List Char} {e : Fault} (h : readEscape s = .error e) :
    readText ('\\' :: s) = .error e := by
  rw [readText, if_neg (by decide), if_pos rfl]
  split <;> rename_i heq
  · cases h.symm.trans heq
    rfl
  · cases h.symm.trans heq

theorem readLowSurrogate_of_lone {l : Literal} (h : ∀ e f g h l', l ≠ .code e f g h :: l')
    (rest : List Char) :
    readLowSurrogate (l.flatMap Mark.text ++ '"' :: rest) = .error .malformed := by
  match l, h with
  | [], _ => rfl
  | .plain c hc :: l, _ =>
    rw [readLowSurrogate.eq_def]
    simp [Mark.text, hc.2.1]
  | .escape letter c hc :: l, _ =>
    have hne : letter ≠ 'u' := by
      rintro rfl
      cases hc
    rw [readLowSurrogate.eq_def]
    simp [Mark.text, hne]
  | .code e f g h :: l, hcode => exact absurd rfl (hcode e f g h l)

theorem readText_marks (l : Literal) (rest : List Char) :
    readText (l.flatMap Mark.text ++ '"' :: rest) =
      l.chars?.elim (.error .malformed) fun cs => .ok (cs, rest) := by
  have hmap (x : Option (List Char)) (c : Char) :
      Except.map (fun read : List Char × List Char => (c :: read.1, read.2))
          (x.elim (.error Fault.malformed) fun cs => .ok (cs, rest)) =
        (x.map (c :: ·)).elim (.error .malformed) fun cs => .ok (cs, rest) := by
    cases x <;> rfl
  -- Two halves of a pair are one character, so the cases are not those of the list.
  fun_induction Literal.chars? l with
  | case1 => rw [List.flatMap_nil, List.nil_append, readText, if_pos rfl]; rfl
  | case2 c h l ih =>
    rw [List.flatMap_cons, Mark.text, List.append_assoc, List.singleton_append,
      readText_plain h.1 h.2.1 h.2.2, ih, hmap]
  | case3 letter c h l ih =>
    exact (readText_escape (readEscape_letter h _)).trans (ih ▸ hmap _ _)
  | case4 a b c d l n hlow =>
    simp only [List.flatMap_cons, Mark.text, List.cons_append, List.nil_append]
    exact readText_of_readEscape_eq_error (by rw [readEscape_code, if_pos hlow])
  | case5 a b c d n hlow hhigh e f g h l low hpair ih =>
    have hread : readEscape ('u' :: a.char :: b.char :: c.char :: d.char :: '\\' :: 'u' ::
        e.char :: f.char :: g.char :: h.char :: (l.flatMap Mark.text ++ '"' :: rest)) =
        .ok (joinSurrogates n low, l.flatMap Mark.text ++ '"' :: rest) := by
      rw [readEscape_code, if_neg hlow, if_pos hhigh, readLowSurrogate_code, if_pos hpair]
      rfl
    exact (readText_escape hread).trans (ih ▸ hmap _ _)
  | case6 a b c d n hlow hhigh e f g h l low hpair =>
    simp only [List.flatMap_cons, Mark.text, List.cons_append, List.nil_append]
    exact readText_of_readEscape_eq_error
      (by rw [readEscape_code, if_neg hlow, if_pos hhigh, readLowSurrogate_code, if_neg hpair]; rfl)
  | case7 a b c d l n hlow hhigh hlone =>
    simp only [List.flatMap_cons, Mark.text, List.cons_append, List.nil_append]
    exact readText_of_readEscape_eq_error
      (by rw [readEscape_code, if_neg hlow, if_pos hhigh, readLowSurrogate_of_lone hlone]; rfl)
  | case8 a b c d l n hlow hhigh ih =>
    have hread : readEscape ('u' :: a.char :: b.char :: c.char :: d.char ::
        (l.flatMap Mark.text ++ '"' :: rest)) =
        .ok (Char.ofNat n, l.flatMap Mark.text ++ '"' :: rest) := by
      rw [readEscape_code, if_neg hlow, if_neg hhigh]
    exact (readText_escape hread).trans (ih ▸ hmap _ _)

theorem skipText_escape {letter c : Char} (h : shortEscape? letter = some c) (s : List Char) :
    skipText ('\\' :: letter :: s) = skipText s := by
  have hne : letter ≠ 'u' := by
    rintro rfl
    cases h
  rw [skipText.eq_def]
  simp [h]

theorem skipText_code (a b c d : HexDigit) (s : List Char) :
    skipText ('\\' :: 'u' :: a.char :: b.char :: c.char :: d.char :: s) = skipText s := by
  rw [skipText.eq_def]
  simp only [if_pos]
  rw [if_neg (by decide)]
  split <;> rename_i heq
  · cases (readHex_digits a b c d s).symm.trans heq
  · cases (readHex_digits a b c d s).symm.trans heq
    rfl

theorem skipText_marks (l : Literal) (rest : List Char) :
    skipText (l.flatMap Mark.text ++ '"' :: rest) = .ok rest := by
  induction l with
  | nil =>
    rw [skipText.eq_def]
    rfl
  | cons m l ih =>
    rw [List.flatMap_cons, List.append_assoc]
    cases m with
    | plain c h =>
      rw [skipText.eq_def]
      simpa [Mark.text, h.1, h.2.1, h.2.2] using ih
    | escape letter c h => exact (skipText_escape h _).trans ih
    | code a b c d => exact (skipText_code a b c d _).trans ih

end Fidelity.Json
