import Mathlib
import Fidelity.Json.Number
import Fidelity.Json.Text

/-!
# The grammar of JSON

A JSON text is a row of tokens with any blanks between them, and the tokens are those of a tree. A
string is kept as it is written, mark by mark, since a text of no interest need not stand for any
characters: a surrogate may stand alone in it. Main statements: between brackets the text of a part
ends at a comma if there is another part, and at the closing bracket otherwise.
-/
namespace Fidelity.Json

structure HexDigit where
  char : Char
  value : Nat
  read : hexValue? char = some value

/-- One character of a string as it is written, or one half of a pair of surrogates. -/
inductive Mark where
  | plain (c : Char) (h : c ≠ '"' ∧ c ≠ '\\' ∧ isControl c = false)
  | escape (letter c : Char) (h : shortEscape? letter = some c)
  | code (first second third fourth : HexDigit)

abbrev Literal := List Mark

def Mark.text : Mark → List Char
  | plain c _ => [c]
  | escape letter _ _ => ['\\', letter]
  | code a b c d => ['\\', 'u', a.char, b.char, c.char, d.char]

def codeValue (a b c d : HexDigit) : Nat :=
  ((a.value * 16 + b.value) * 16 + c.value) * 16 + d.value

namespace Literal

def text (l : Literal) : List Char := '"' :: (l.flatMap Mark.text ++ ['"'])

/-- The characters that a string stands for, if every surrogate in it has its other half. -/
def chars? : Literal → Option (List Char)
  | [] => some []
  | .plain c _ :: l => (chars? l).map (c :: ·)
  | .escape _ c _ :: l => (chars? l).map (c :: ·)
  | .code a b c d :: l =>
    let n := codeValue a b c d
    if isLowSurrogate n then none
    else if isHighSurrogate n then
      match l with
      | .code e f g h :: l =>
        let low := codeValue e f g h
        if isLowSurrogate low then (chars? l).map (joinSurrogates n low :: ·) else none
      | _ => none
    else (chars? l).map (Char.ofNat n :: ·)

def string? (l : Literal) : Option String := l.chars?.map String.ofList

end Literal

structure Digits where
  chars : List Char
  ne_nil : chars ≠ []
  isDigit : ∀ c ∈ chars, c.isDigit = true

structure Exponent where
  letter : Char
  isLetter : letter = 'e' ∨ letter = 'E'
  /-- Whether the sign is a minus, if there is one. -/
  sign : Option Bool
  digits : Digits

/-- A number as it is written. No other digit follows a zero at its front. -/
structure NumberForm where
  negative : Bool
  whole : Digits
  leading : whole.chars.head? = some '0' → whole.chars.length = 1
  fraction : Option Digits
  exponent : Option Exponent

def signText : Option Bool → List Char
  | none => []
  | some false => ['+']
  | some true => ['-']

def Exponent.text (e : Exponent) : List Char := e.letter :: (signText e.sign ++ e.digits.chars)

namespace NumberForm

def fractionText (n : NumberForm) : List Char := n.fraction.elim [] fun ds => '.' :: ds.chars

def exponentText (n : NumberForm) : List Char := n.exponent.elim [] Exponent.text

def text (n : NumberForm) : List Char :=
  (if n.negative then ['-'] else []) ++ (n.whole.chars ++ (n.fractionText ++ n.exponentText))

def numeral (n : NumberForm) : Numeral where
  negative := n.negative
  whole := n.whole.chars
  fraction := n.fraction.map Digits.chars
  exponent := n.exponent.map fun e => (e.sign.getD false, e.digits.chars)

def natural? (n : NumberForm) : Option UInt64 :=
  let value := Nat.ofDigitChars 10 n.whole.chars 0
  if n.negative ∨ n.fraction.isSome ∨ n.exponent.isSome ∨ 2 ^ 64 ≤ value then none
  else some (UInt64.ofNat value)

def real? (n : NumberForm) : Option Float :=
  match n.numeral.value with
  | .error _ => none
  | .ok x => some x.toFloat

end NumberForm

inductive Word where
  | null
  | true
  | false

def Word.text : Word → List Char
  | null => ['n', 'u', 'l', 'l']
  | true => ['t', 'r', 'u', 'e']
  | false => ['f', 'a', 'l', 's', 'e']

inductive Tree where
  | word (w : Word)
  | number (n : NumberForm)
  | text (l : Literal)
  | list (items : List Tree)
  | object (members : List (Literal × Tree))

theorem Tree.inductionOn {P : Tree → Prop} (word : ∀ w, P (.word w)) (number : ∀ n, P (.number n))
    (text : ∀ l, P (.text l)) (list : ∀ items, (∀ t ∈ items, P t) → P (.list items))
    (object : ∀ members, (∀ m ∈ members, P m.2) → P (.object members)) (t : Tree) : P t :=
  t.rec (motive_1 := P) (motive_2 := fun items => ∀ t ∈ items, P t)
    (motive_3 := fun members => ∀ m ∈ members, P m.2) (motive_4 := fun m => P m.2)
    word number text list object (List.forall_mem_nil _)
    (fun _ _ h hs => List.forall_mem_cons.mpr ⟨h, hs⟩) (List.forall_mem_nil _)
    (fun _ _ h hs => List.forall_mem_cons.mpr ⟨h, hs⟩) fun _ _ h => h

def commaSeparated (parts : List (List (List Char))) : List (List Char) := [[',']].intercalate parts

mutual

def Tree.tokens : Tree → List (List Char)
  | .word w => [w.text]
  | .number n => [n.text]
  | .text l => [l.text]
  | .list items => ['['] :: (commaSeparated (itemTokens items) ++ [[']']])
  | .object members => ['\x7b'] :: (commaSeparated (memberTokens members) ++ [['\x7d']])

def itemTokens : List Tree → List (List (List Char))
  | [] => []
  | t :: items => t.tokens :: itemTokens items

def memberTokens : List (Literal × Tree) → List (List (List Char))
  | [] => []
  | (l, t) :: members => (l.text :: [':'] :: t.tokens) :: memberTokens members

end

def Blanks (b : List Char) : Prop := ∀ c ∈ b, isBlank c = true

/-- A text of some tokens, with any blanks between them. -/
inductive Spaced : List (List Char) → List Char → Prop
  | nil {b : List Char} (hb : Blanks b) : Spaced [] b
  | cons {b token s : List Char} {tokens : List (List Char)} (hb : Blanks b)
      (hs : Spaced tokens s) : Spaced (token :: tokens) (b ++ (token ++ s))

def IsTextOf (t : Tree) (s : String) : Prop := Spaced t.tokens s.toList

theorem itemTokens_eq_map (items : List Tree) : itemTokens items = items.map Tree.tokens := by
  induction items with
  | nil => rfl
  | cons t items ih => rw [itemTokens, ih, List.map_cons]

theorem memberTokens_eq_map (members : List (Literal × Tree)) :
    memberTokens members = members.map fun m => m.1.text :: [':'] :: m.2.tokens := by
  induction members with
  | nil => rfl
  | cons m members ih => rw [memberTokens, ih, List.map_cons]

section

variable {b s rest token : List Char} {tokens others : List (List Char)} {c : Char}

theorem dropBlanks_blanks_append (hb : Blanks b) (s : List Char) :
    dropBlanks (b ++ s) = dropBlanks s := by
  rw [dropBlanks, List.dropWhile_append, List.dropWhile_eq_nil_iff.mpr hb]
  rfl

theorem Spaced.blanks (h : Spaced [] s) : Blanks s := by
  obtain ⟨hb⟩ := h
  exact hb

theorem Spaced.dropBlanks_eq (h : Spaced ((c :: token) :: tokens) s) (hc : isBlank c = false) :
    ∃ left, Spaced tokens left ∧
      ∀ rest, dropBlanks (s ++ rest) = c :: (token ++ (left ++ rest)) := by
  obtain - | ⟨hb, hleft⟩ := h
  refine ⟨_, hleft, fun rest => ?_⟩
  rw [List.append_assoc, dropBlanks_blanks_append hb, List.append_assoc, List.cons_append,
    dropBlanks_cons_of_not_isBlank hc]

theorem Spaced.dropBlanks_eq_of_last (h : Spaced [[c]] s) (hc : isBlank c = false) :
    ∃ left, Blanks left ∧ ∀ rest, dropBlanks (s ++ rest) = c :: (left ++ rest) := by
  obtain ⟨left, hleft, hdrop⟩ := Spaced.dropBlanks_eq h hc
  exact ⟨left, hleft.blanks, hdrop⟩

theorem spaced_flatMap (hb : Blanks b) (tokens : List (List Char)) :
    Spaced tokens (tokens.flatMap (b ++ ·)) := by
  induction tokens with
  | nil => exact .nil nofun
  | cons token tokens ih =>
    rw [List.flatMap_cons, List.append_assoc]
    exact .cons hb ih

theorem isTextOf_of_flatMap {t : Tree} {s : String} (hb : Blanks b)
    (h : s.toList = t.tokens.flatMap (b ++ ·)) : IsTextOf t s := by
  rw [IsTextOf, h]
  exact spaced_flatMap hb t.tokens

/-- Blanks count with the tokens before them. -/
theorem Spaced.split (h : Spaced (tokens ++ token :: others) s) :
    ∃ before behind, s = before ++ (token ++ behind) ∧ Spaced tokens before ∧
      Spaced others behind := by
  induction tokens generalizing s with
  | nil =>
    obtain - | ⟨hb, hbehind⟩ := h
    exact ⟨_, _, rfl, .nil hb, hbehind⟩
  | cons t tokens ih =>
    obtain - | ⟨hb, hs⟩ := h
    obtain ⟨before, behind, rfl, hbefore, hbehind⟩ := ih hs
    exact ⟨_, behind, by simp only [List.append_assoc], .cons hb hbefore, hbehind⟩

theorem commaSeparated_cons_cons (p q : List (List Char)) (parts : List (List (List Char))) :
    commaSeparated (p :: q :: parts) = p ++ [','] :: commaSeparated (q :: parts) := by
  rw [commaSeparated, List.intercalate_cons_cons, List.append_assoc]
  rfl

theorem Spaced.onlyPart {p : List (List Char)} {closing : Char}
    (h : Spaced (commaSeparated [p] ++ [[closing]]) s) :
    ∃ before behind, s = before ++ closing :: behind ∧ Spaced p before ∧ Blanks behind := by
  rw [commaSeparated, List.intercalate_singleton] at h
  obtain ⟨before, behind, rfl, hbefore, hbehind⟩ := h.split
  exact ⟨before, behind, rfl, hbefore, hbehind.blanks⟩

theorem Spaced.firstPart {p q : List (List Char)} {parts : List (List (List Char))}
    {closing : Char} (h : Spaced (commaSeparated (p :: q :: parts) ++ [[closing]]) s) :
    ∃ before behind, s = before ++ ',' :: behind ∧ Spaced p before ∧
      Spaced (commaSeparated (q :: parts) ++ [[closing]]) behind := by
  rw [commaSeparated_cons_cons, List.append_assoc, List.cons_append] at h
  obtain ⟨before, behind, rfl, hbefore, hbehind⟩ := h.split
  exact ⟨before, behind, rfl, hbefore, hbehind⟩

end

end Fidelity.Json
