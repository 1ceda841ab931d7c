import Fidelity.Proofs.Json.RealText

/-!
# What is written is JSON

What is written of a value is a text of its tree, in either style. Main statement: this holds of every
value, by induction on it, since it holds of the items in its brackets.
-/
namespace Fidelity.Json

theorem hexValue?_digitChar {n : ℕ} (h : n < 16) : hexValue? n.digitChar = some n := by
  decide +revert

def HexDigit.ofNat (n : ℕ) (h : n < 16) : HexDigit := ⟨n.digitChar, n, hexValue?_digitChar h⟩

def Mark.ofChar (c : Char) : Mark :=
  if hquote : c = '"' then .escape '"' '"' rfl
  else if hescape : c = '\\' then .escape '\\' '\\' rfl
  else if c = '\x08' then .escape 'b' '\x08' rfl
  else if c = '\x0c' then .escape 'f' '\x0c' rfl
  else if c = '\n' then .escape 'n' '\n' rfl
  else if c = '\r' then .escape 'r' '\r' rfl
  else if c = '\t' then .escape 't' '\t' rfl
  else if hcontrol : isControl c then
    have hsmall : c.toNat < 32 := of_decide_eq_true hcontrol
    .code (.ofNat 0 (by decide)) (.ofNat 0 (by decide)) (.ofNat (c.toNat / 16) (by omega))
      (.ofNat (c.toNat % 16) (by omega))
  else .plain c ⟨hquote, hescape, Bool.eq_false_of_not_eq_true hcontrol⟩

theorem Mark.text_ofChar (c : Char) : (Mark.ofChar c).text = encodeChar c := by
  unfold Mark.ofChar
  split_ifs with h₁ h₂ h₃ h₄ h₅ h₆ h₇ hcontrol
  iterate 7
    · subst c
      rfl
  · rw [encodeChar, if_pos hcontrol]
    · rfl
    all_goals assumption
  · rw [encodeChar, if_neg hcontrol]
    · rfl
    all_goals assumption

theorem Literal.chars?_ofChar_cons (c : Char) (l : Literal) :
    Literal.chars? (.ofChar c :: l) = l.chars?.map (c :: ·) := by
  unfold Mark.ofChar
  split_ifs with h₁ h₂ h₃ h₄ h₅ h₆ h₇ hcontrol
  iterate 7
    · subst c
      rfl
  · have hsmall : c.toNat < 32 := of_decide_eq_true hcontrol
    have hvalue : ((0 * 16 + 0) * 16 + c.toNat / 16) * 16 + c.toNat % 16 = c.toNat := by omega
    have hlow : isLowSurrogate c.toNat = false := by simp [isLowSurrogate]; omega
    have hhigh : isHighSurrogate c.toNat = false := by simp [isHighSurrogate]; omega
    rw [chars?.eq_def]
    simp only [codeValue, HexDigit.ofNat, hvalue, hlow, hhigh]
    simp
  · rfl

def Literal.ofString (s : String) : Literal := s.toList.map .ofChar

theorem Literal.text_ofString (s : String) : (ofString s).text = encodeText s := by
  rw [ofString, Literal.text, encodeText, List.flatMap_map]
  simp only [Mark.text_ofChar]

theorem Literal.string?_ofString (s : String) : (ofString s).string? = some s := by
  have hchars (cs : List Char) : Literal.chars? (cs.map .ofChar) = some cs := by
    induction cs with
    | nil => rfl
    | cons c cs ih => rw [List.map_cons, chars?_ofChar_cons, ih]; rfl
  rw [ofString, string?, hchars, Option.map_some, String.ofList_toList]

namespace NumberForm

def ofNat (n : ℕ) : NumberForm where
  negative := false
  whole := .ofNat n
  leading := Digits.length_ofNat_of_head?
  fraction := none
  exponent := none

theorem text_ofNat (n : ℕ) : (ofNat n).text = Nat.toDigits 10 n := by
  simp [text, ofNat, Digits.ofNat, fractionText, exponentText]

theorem natural?_ofNat (n : UInt64) : (ofNat n.toNat).natural? = some n := by
  have hvalue : Nat.ofDigitChars 10 (ofNat n.toNat).whole.chars 0 = n.toNat :=
    Digits.value_ofNat n.toNat
  rw [natural?, hvalue]
  simpa [ofNat] using n.toNat_lt

end NumberForm

mutual

def Value.tree : Value → Tree
  | .natural n => .number (.ofNat n.toNat)
  | .real x => .ofReal x
  | .text s => .text (.ofString s)
  | .list items => .list (itemTrees items)
  | .object members => .object (memberTrees members)

def itemTrees : List Value → List Tree
  | [] => []
  | v :: items => v.tree :: itemTrees items

def memberTrees : List (String × Value) → List (Literal × Tree)
  | [] => []
  | (key, v) :: members => (.ofString key, v.tree) :: memberTrees members

end

theorem itemTrees_eq_map (items : List Value) : itemTrees items = items.map Value.tree := by
  induction items with
  | nil => rfl
  | cons v items ih => rw [itemTrees, ih, List.map_cons]

theorem memberTrees_eq_map (members : List (String × Value)) :
    memberTrees members = members.map fun m => (.ofString m.1, m.2.tree) := by
  induction members with
  | nil => rfl
  | cons m members ih => rw [memberTrees, ih, List.map_cons]

/-- The item is a text of the tokens, whatever is behind it. -/
def Writes (tokens : List (List Char)) (item : List Char) : Prop :=
  ∀ others s, Spaced others s → Spaced (tokens ++ others) (item ++ s)

section

variable {tokens others : List (List Char)} {b s item item' : List Char}

theorem blanks_newline (style : Style) : Blanks style.newline := by
  cases style with
  | compact => nofun
  | indented depth =>
    intro c hc
    rcases List.mem_cons.mp hc with rfl | hc
    · rfl
    · rw [List.eq_of_mem_replicate hc]
      rfl

theorem Spaced.blanks_append (hb : Blanks b) (h : Spaced tokens s) : Spaced tokens (b ++ s) := by
  cases h with
  | nil hs => exact .nil (List.forall_mem_append.mpr ⟨hb, hs⟩)
  | cons hb' hs =>
    rw [← List.append_assoc]
    exact .cons (List.forall_mem_append.mpr ⟨hb, hb'⟩) hs

theorem writes_token (token : List Char) : Writes [token] token :=
  fun _ _ hs => .cons (b := []) nofun hs

theorem Writes.append (h : Writes tokens item) (h' : Writes others item') :
    Writes (tokens ++ others) (item ++ item') := by
  intro more s hs
  rw [List.append_assoc, List.append_assoc]
  exact h _ _ (h' more s hs)

theorem Writes.blanks_append (hb : Blanks b) (h : Writes tokens item) : Writes tokens (b ++ item) := by
  intro more s hs
  rw [List.append_assoc]
  exact (h more s hs).blanks_append hb

theorem Writes.spaced_append (h : Writes tokens item) (hb : Blanks b) : Spaced tokens (item ++ b) := by
  simpa using h [] b (.nil hb)

end

theorem writes_items {p : List (List Char)} {parts : List (List (List Char))} {item : List Char}
    {items : List (List Char)} (h : List.Forall₂ Writes (p :: parts) (item :: items)) (style : Style) :
    Writes (commaSeparated (p :: parts))
      (item ++ items.flatMap fun i => ',' :: (style.deeper.newline ++ i)) := by
  induction parts generalizing p item items with
  | nil =>
    obtain - | ⟨hitem, hnil⟩ := h
    cases hnil
    rwa [commaSeparated, List.intercalate_singleton, List.flatMap_nil, List.append_nil]
  | cons q parts ih =>
    obtain - | ⟨hitem, hitems⟩ := h
    obtain - | ⟨hnext, hlater⟩ := hitems
    rw [commaSeparated_cons_cons, List.flatMap_cons, List.cons_append, List.append_assoc]
    have hrest := (ih (.cons hnext hlater)).blanks_append (blanks_newline style.deeper)
    exact hitem.append ((writes_token [',']).append hrest)

theorem writes_bracketed {parts : List (List (List Char))} {items : List (List Char)}
    (h : List.Forall₂ Writes parts items) (style : Style) (opening closing : Char) :
    Writes ([opening] :: (commaSeparated parts ++ [[closing]]))
      (bracketed style opening closing items) := by
  cases h with
  | nil => exact (writes_token [opening]).append (writes_token [closing])
  | cons hitem hitems =>
    have hinner := (writes_items (.cons hitem hitems) style).blanks_append
      (blanks_newline style.deeper)
    have hclosing := (writes_token [closing]).blanks_append (blanks_newline style)
    have hall := (writes_token [opening]).append (hinner.append hclosing)
    simpa only [bracketed, List.append_assoc, List.cons_append, List.nil_append] using hall

theorem writes_colon (style : Style) : Writes [[':']] style.colon := by
  cases style with
  | compact => exact writes_token [':']
  | indented depth =>
    have hblank : Blanks [' '] := by simp [Blanks, isBlank]
    intro others s hs
    exact writes_token [':'] others _ (hs.blanks_append hblank)

mutual

theorem writes_tree (style : Style) : (v : Value) → Writes v.tree.tokens (v.write style)
  | .natural n => by
    rw [Value.tree, Tree.tokens, NumberForm.text_ofNat]
    exact writes_token _
  | .real x => by
    rw [Value.tree, tokens_ofReal]
    exact writes_token _
  | .text s => by
    rw [Value.tree, Tree.tokens, Literal.text_ofString]
    exact writes_token _
  | .list items => by
    rw [Value.tree, Tree.tokens, Value.write]
    exact writes_bracketed (writes_itemTrees style.deeper items) style '[' ']'
  | .object members => by
    rw [Value.tree, Tree.tokens, Value.write]
    exact writes_bracketed (writes_memberTrees style.deeper members) style '\x7b' '\x7d'

theorem writes_itemTrees (style : Style) : (items : List Value) →
    List.Forall₂ Writes (itemTokens (itemTrees items)) (writeItems style items)
  | [] => .nil
  | v :: items => .cons (writes_tree style v) (writes_itemTrees style items)

theorem writes_memberTrees (style : Style) : (members : List (String × Value)) →
    List.Forall₂ Writes (memberTokens (memberTrees members)) (writeMembers style members)
  | [] => .nil
  | (key, v) :: members => by
    have hkey : Writes [(Literal.ofString key).text] (encodeText key) := by
      rw [Literal.text_ofString]
      exact writes_token _
    exact .cons ((hkey.append (writes_colon style)).append (writes_tree style v))
      (writes_memberTrees style members)

end

theorem isTextOf_write (style : Style) (v : Value) :
    IsTextOf v.tree (String.ofList (v.write style)) := by
  have hspaced := (writes_tree style v).spaced_append (b := []) nofun
  rwa [List.append_nil, ← String.toList_ofList (l := v.write style)] at hspaced

theorem isTextOf_pretty_newline (v : Value) : IsTextOf v.tree (v.pretty ++ "\n") := by
  have hnewline : Blanks ['\n'] := by simp [Blanks, isBlank]
  rw [IsTextOf, String.toList_append, Value.pretty, String.toList_ofList]
  exact (writes_tree (.indented 0) v).spaced_append hnewline

end Fidelity.Json
