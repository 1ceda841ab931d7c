import Mathlib
import Fidelity.Proofs.Json.Skipping

/-!
# Reading values of the grammar

What a value stands for is read off its tree. Main statement: a reader of a number, a string, a choice
or a list gives for every text of a tree what its tree stands for, whatever blanks the text has.
-/
namespace Fidelity.Json

variable {α β : Type}

namespace Tree

def natural? : Tree → Option UInt64
  | .number n => n.natural?
  | _ => none

def real? : Tree → Option Float
  | .number n => n.real?
  | _ => none

def char? : Tree → Option Char
  | .text l =>
    match l.chars? with
    | some [c] => some c
    | _ => none
  | _ => none

/-- A variant by its name, which may also be the key of an object with no other content. -/
def choice? (ofName? : String → Option α) : Tree → Option α
  | .text l => l.string?.bind ofName?
  | .object [(l, .word .null)] => l.string?.bind ofName?
  | _ => none

def listOf? (read : Tree → Option α) : Tree → Option (List α)
  | .list items => items.mapM read
  | _ => none

end Tree

/-- What was asked for, or the fault. What follows a value is left, but for blanks in front of it. -/
def Outcome.Is (x : Outcome α) (r : Except Fault α) (rest : List Char) : Prop :=
  match r with
  | .error e => x = .error e
  | .ok v => ∃ left, x = .ok (v, left) ∧ dropBlanks left = rest

/-- On every text of the tree the reader gives `r`, whatever comes after the text. -/
def ReadsAs (p : Reader α) (t : Tree) (r : Except Fault α) : Prop :=
  ∀ s rest, Spaced t.tokens s → EndsValue rest → Outcome.Is (p.run (s ++ rest)) r rest

section

variable {p : Reader α} {t : Tree} {v : α} {r : Except Fault α}

theorem ReadsAs.decode_eq {s : String} (h : ReadsAs p t r) (hs : IsTextOf t s) :
    decode p s = r := by
  have hrun := h s.toList [] hs nofun
  rw [List.append_nil] at hrun
  cases r with
  | error e =>
    have hrun : p.run s.toList = .error e := hrun
    simp [decode, hrun]
  | ok v =>
    obtain ⟨left, hrun, hleft⟩ := hrun
    simp [decode, hrun, hleft]

theorem ReadsAs.map (h : ReadsAs p t r) (f : α → β) : ReadsAs (p.map f) t (r.map f) := by
  intro s rest hs hrest
  have hrun := h s rest hs hrest
  cases r with
  | error e =>
    have hrun : p.run (s ++ rest) = .error e := hrun
    simp [Outcome.Is, Reader.map, hrun, Except.map]
  | ok v =>
    obtain ⟨left, hrun, hleft⟩ := hrun
    exact ⟨left, by simp [Reader.map, hrun], hleft⟩

theorem ReadsAs.filterMap (h : ReadsAs p t r) (f : α → Option β) :
    ReadsAs (p.filterMap f) t (r.bind fun v => (f v).elim (.error .unfit) .ok) := by
  intro s rest hs hrest
  have hrun := h s rest hs hrest
  cases r with
  | error e =>
    have hrun : p.run (s ++ rest) = .error e := hrun
    simp [Outcome.Is, Reader.filterMap, hrun, Except.bind]
  | ok v =>
    obtain ⟨left, hrun, hleft⟩ := hrun
    cases hf : f v with
    | none => simp [Outcome.Is, Reader.filterMap, hrun, hf, Except.bind]
    | some u =>
      simp only [Except.bind, hf]
      exact ⟨left, by simp [Reader.filterMap, hrun, hf], hleft⟩

theorem readsAs_of_token {c : Char} {token : List Char} (htokens : t.tokens = [c :: token])
    (hc : isBlank c = false)
    (hrun : ∀ s rest, EndsNumeral rest → dropBlanks s = c :: (token ++ rest) →
      p.run s = r.map (·, rest)) : ReadsAs p t r := by
  intro s rest hs hrest
  obtain ⟨left, hleft, hdrop⟩ := (htokens ▸ hs).dropBlanks_eq hc
  have hblanks := hleft.blanks
  have hread := hrun _ _ (hblanks.endsNumeral_append hrest) (hdrop rest)
  cases r with
  | error e => exact hread
  | ok v => exact ⟨left ++ rest, hread, hblanks.dropBlanks_append hrest⟩

end

theorem readsAs_number (n : NumberForm) : ReadsAs .number (.number n) n.numeral.value := by
  obtain ⟨c, r, htext, hc⟩ := n.exists_text_eq
  refine readsAs_of_token (by rw [Tree.tokens, htext]) ?_ fun s rest hrest hs => ?_
  · rcases hc with rfl | hc
    · rfl
    · exact isBlank_of_isDigit hc
  · have hread := readNumeral_append hrest (n.readNumeral_text .ended)
    rw [htext, List.cons_append] at hread
    simp only [Reader.number, Reader.numberAt, hs, hc, if_true, readNumber, hread]
    cases n.numeral.value <;> rfl

theorem readsAs_natural {t : Tree} {v : UInt64} (h : t.natural? = some v) :
    ReadsAs .natural t (.ok v) := by
  obtain ⟨n, rfl⟩ : ∃ n, t = .number n := by
    cases t with
    | number n => exact ⟨n, rfl⟩
    | _ => cases h
  have hnumber := readsAs_number n
  rw [n.value_numeral h] at hnumber
  exact hnumber.filterMap _

theorem readsAs_real {t : Tree} {v : Float} (h : t.real? = some v) : ReadsAs .real t (.ok v) := by
  obtain ⟨n, rfl⟩ : ∃ n, t = .number n := by
    cases t with
    | number n => exact ⟨n, rfl⟩
    | _ => cases h
  have hnumber := readsAs_number n
  rw [Tree.real?, NumberForm.real?] at h
  split at h
  · cases h
  · next x hvalue =>
    cases h
    rw [hvalue] at hnumber
    exact hnumber.map Number.toFloat

theorem readsAs_chars {l : Literal} {cs : List Char} (h : l.chars? = some cs) :
    ReadsAs .chars (.text l) (.ok cs) := by
  refine readsAs_of_token rfl rfl fun s rest _ hs => ?_
  rw [List.append_assoc] at hs
  simp [Reader.chars, hs, readText_marks, h, Except.map]

theorem readsAs_char {t : Tree} {c : Char} (h : t.char? = some c) : ReadsAs .char t (.ok c) := by
  rw [Tree.char?.eq_def] at h
  split at h
  · next l =>
    split at h
    · next hchars =>
      cases h
      exact (readsAs_chars hchars).filterMap _
    · cases h
  · cases h

theorem variantFrom_marks {ofName? : String → Option α} {l : Literal} {v : α}
    (h : l.string?.bind ofName? = some v) (rest : List Char) :
    Reader.variantFrom ofName? (l.flatMap Mark.text ++ '"' :: rest) = .ok (v, rest) := by
  obtain ⟨name, hname, hv⟩ := Option.bind_eq_some_iff.mp h
  obtain ⟨cs, hchars, rfl⟩ := Option.map_eq_some_iff.mp hname
  simp [Reader.variantFrom, readText_marks, hchars, hv]

theorem readsAs_choice_text {ofName? : String → Option α} {l : Literal} {v : α}
    (h : l.string?.bind ofName? = some v) : ReadsAs (.choice ofName?) (.text l) (.ok v) := by
  refine readsAs_of_token rfl rfl fun s rest _ hs => ?_
  rw [List.append_assoc] at hs
  simp [Reader.choice, Reader.choiceAt, hs, variantFrom_marks h, Except.map]

theorem readsAs_choice_object {ofName? : String → Option α} {l : Literal} {v : α}
    (h : l.string?.bind ofName? = some v) :
    ReadsAs (.choice ofName?) (.object [(l, .word .null)]) (.ok v) := by
  intro s rest hs hrest
  have htokens : (Tree.object [(l, .word .null)]).tokens =
      [['\x7b'], l.text, [':'], ['n', 'u', 'l', 'l'], ['\x7d']] := by
    simp [Tree.tokens, memberTokens, commaSeparated, Word.text]
  rw [htokens] at hs
  obtain ⟨_, hs, hbrace⟩ := hs.dropBlanks_eq rfl
  obtain ⟨_, hs, hquote⟩ := Spaced.dropBlanks_eq hs rfl
  obtain ⟨_, hs, hcolon⟩ := hs.takeColon_eq
  obtain ⟨_, hs, hnull⟩ := hs.dropBlanks_eq rfl
  obtain ⟨left, hs, hclosing⟩ := hs.dropBlanks_eq rfl
  refine ⟨left ++ rest, ?_, hs.blanks.dropBlanks_append hrest⟩
  simp [Reader.choice, Reader.choiceAt, hbrace, Reader.variantObject, hquote, variantFrom_marks h,
    Reader.emptyContent, hcolon, hnull, takeWord, hclosing, Except.map]

theorem readsAs_choice {ofName? : String → Option α} {t : Tree} {v : α}
    (h : t.choice? ofName? = some v) : ReadsAs (.choice ofName?) t (.ok v) := by
  rw [Tree.choice?.eq_def] at h
  split at h
  · exact readsAs_choice_text h
  · exact readsAs_choice_object h
  · cases h

theorem itemsFrom_eq {item : Reader α} {s left rest : List Char} {v : α} {c : Char}
    (hrun : item.run s = .ok (v, left)) (hleft : dropBlanks left = c :: rest) :
    item.itemsFrom s =
      if c = ']' then .ok ([v], rest)
      else if c = ',' then (item.itemsFrom rest).map fun (vs, rest) => (v :: vs, rest)
      else .error .malformed := by
  rw [Reader.itemsFrom]
  split <;> rename_i heq
  · cases hrun.symm.trans heq
  · cases hrun.symm.trans heq
    split <;> rename_i heq
    · cases hleft.symm.trans heq
    · cases hleft.symm.trans heq
      rfl

theorem itemsFrom_tree {item : Reader α} {t : Tree} {items : List Tree} {vs : List α}
    (h : List.Forall₂ (fun t v => ReadsAs item t (.ok v)) (t :: items) vs) {s rest : List Char}
    (hs : Spaced (commaSeparated ((t :: items).map Tree.tokens) ++ [[']']]) s)
    (hrest : EndsValue rest) : Outcome.Is (item.itemsFrom (s ++ rest)) (.ok vs) rest := by
  induction items generalizing t vs s with
  | nil =>
    obtain - | ⟨hread, hnil⟩ := h
    cases hnil
    obtain ⟨before, behind, rfl, hbefore, hbehind⟩ := Spaced.onlyPart hs
    obtain ⟨left, hrun, hleft⟩ := hread before _ hbefore (endsValue_closing .list (behind ++ rest))
    refine ⟨behind ++ rest, ?_, hbehind.dropBlanks_append hrest⟩
    rw [List.append_assoc]
    exact itemsFrom_eq hrun hleft
  | cons u items ih =>
    obtain - | ⟨hread, hlater⟩ := h
    obtain ⟨before, behind, rfl, hbefore, hbehind⟩ := Spaced.firstPart hs
    obtain ⟨left, hrun, hleft⟩ := hread before _ hbefore (endsValue_cons (.inl rfl) (behind ++ rest))
    obtain ⟨left', hitems, hleft'⟩ := ih hlater hbehind
    refine ⟨left', ?_, hleft'⟩
    rw [List.append_assoc, List.cons_append, itemsFrom_eq hrun hleft, hitems]
    rfl

theorem readsAs_list {item : Reader α} {items : List Tree} {vs : List α}
    (h : List.Forall₂ (fun t v => ReadsAs item t (.ok v)) items vs) :
    ReadsAs (.listOf item) (.list items) (.ok vs) := by
  intro s rest hs hrest
  rw [Tree.tokens, itemTokens_eq_map] at hs
  obtain ⟨inner, hinner, hopening⟩ := Spaced.dropBlanks_eq hs rfl
  cases items with
  | nil =>
    obtain ⟨left, hleft, hclosing⟩ := Spaced.dropBlanks_eq_of_last hinner rfl
    cases h
    refine ⟨left ++ rest, ?_, hleft.dropBlanks_append hrest⟩
    simp [Reader.listOf, hopening, hclosing]
  | cons u items =>
    -- No item looks like the end of the list, so the items are read from the first one on.
    obtain ⟨c, token, tokens, htokens, hc, hne⟩ := u.exists_tokens_eq
    obtain ⟨left, hitems, hleft⟩ := itemsFrom_tree h hinner hrest
    rw [List.map_cons, htokens] at hinner
    obtain ⟨r, hfirst⟩ := hinner.dropBlanks_firstPart hc rest
    refine ⟨left, ?_, hleft⟩
    have hclosing : c ≠ ']' := hne .list
    simp [Reader.listOf, hopening, hfirst, hclosing, hitems]

theorem forall₂_of_mapM {read : Tree → Option α} {items : List Tree} {vs : List α}
    (h : items.mapM read = some vs) : List.Forall₂ (fun t v => read t = some v) items vs := by
  induction items generalizing vs with
  | nil =>
    cases h
    exact .nil
  | cons t items ih =>
    simp only [List.mapM_cons, Option.bind_eq_bind, Option.bind_eq_some_iff, Option.pure_def,
      Option.some.injEq] at h
    obtain ⟨v, hv, us, hus, rfl⟩ := h
    exact .cons hv (ih hus)

theorem readsAs_listOf {item : Reader α} {read : Tree → Option α}
    (hread : ∀ t v, read t = some v → ReadsAs item t (.ok v)) {t : Tree} {vs : List α}
    (h : t.listOf? read = some vs) : ReadsAs (.listOf item) t (.ok vs) := by
  cases t with
  | list items => exact readsAs_list ((forall₂_of_mapM h).imp hread)
  | _ => cases h

end Fidelity.Json
