import Mathlib
import Fidelity.Proofs.Json.Scalars

/-!
# Reading over a value

The stack holds what is open around the place of reading, so what is shown of a value is shown for
every stack: behind the value, the reading goes on as it would with that stack. Main statement: every
value of the grammar, of any depth, is read over exactly to its end.
-/
namespace Fidelity.Json

variable {b : Bracket} {stack : List Bracket} {s left rest : List Char}
  {tokens : List (List Char)}

theorem Tree.exists_tokens_eq (t : Tree) : ∃ c token tokens, t.tokens = (c :: token) :: tokens ∧
    isBlank c = false ∧ ∀ b : Bracket, c ≠ b.closing := by
  have hbracket (c : Char) (h : c ≠ ']' ∧ c ≠ '\x7d') : ∀ b : Bracket, c ≠ b.closing := by
    rintro (_ | _)
    · exact h.1
    · exact h.2
  cases t with
  | word w => cases w <;> exact ⟨_, _, _, rfl, rfl, hbracket _ (by decide)⟩
  | number n =>
    obtain ⟨c, r, htext, hc⟩ := n.exists_text_eq
    refine ⟨c, r, [], congrArg (fun token => [token]) htext, ?_, hbracket c ?_⟩
    · rcases hc with rfl | hc
      · rfl
      · exact isBlank_of_isDigit hc
    · constructor <;> rintro rfl <;> revert hc <;> decide
  | text l => exact ⟨_, _, _, rfl, rfl, hbracket _ (by decide)⟩
  | list items => exact ⟨_, _, _, rfl, rfl, hbracket _ (by decide)⟩
  | object members => exact ⟨_, _, _, rfl, rfl, hbracket _ (by decide)⟩

theorem Spaced.dropBlanks_firstPart {c : Char} {token : List Char}
    {parts : List (List (List Char))} {closing : List Char}
    (h : Spaced (commaSeparated (((c :: token) :: tokens) :: parts) ++ [closing]) s)
    (hc : isBlank c = false) (rest : List Char) : ∃ r, dropBlanks (s ++ rest) = c :: r := by
  have hcons : ∃ others,
      commaSeparated (((c :: token) :: tokens) :: parts) ++ [closing] = (c :: token) :: others := by
    cases parts with
    | nil => exact ⟨tokens ++ [closing], by simp [commaSeparated]⟩
    | cons p parts => exact ⟨_, by rw [commaSeparated_cons_cons]; rfl⟩
  obtain ⟨others, heq⟩ := hcons
  obtain ⟨left, -, hdrop⟩ := (heq ▸ h).dropBlanks_eq hc
  exact ⟨_, hdrop rest⟩

theorem Spaced.takeColon_eq (h : Spaced ([':'] :: tokens) s) :
    ∃ left, Spaced tokens left ∧ ∀ rest, takeColon (s ++ rest) = .ok (left ++ rest) := by
  obtain ⟨left, hleft, hdrop⟩ := h.dropBlanks_eq rfl
  exact ⟨left, hleft, fun rest => by simp [takeColon, hdrop]⟩

def Continuation.proceed : Continuation → Except Fault (List Char)
  | finished rest => .ok rest
  | item stack rest => skipWithin stack rest

theorem skipWithin_eq_bind (stack : List Bracket) (s : List Char) :
    skipWithin stack s = (skipHead stack s).bind Continuation.proceed := by
  rw [skipWithin]
  split <;> rename_i heq <;> rw [heq] <;> rfl

theorem resume_of_comma (h : dropBlanks left = ',' :: rest) :
    resume (b :: stack) left = (skipToItem b rest).map (.item (b :: stack)) := by
  simp [resume, h]

theorem resume_of_closing (h : dropBlanks left = b.closing :: rest) :
    resume (b :: stack) left = resume stack rest := by
  have hne : b.closing ≠ ',' := by cases b <;> decide
  simp [resume, h, hne]

/-- The value is read over, and then what is around it. -/
def Skips (t : Tree) : Prop :=
  ∀ stack s rest, Spaced t.tokens s → EndsValue rest →
    ∃ left, dropBlanks left = rest ∧
      skipWithin stack (s ++ rest) = (resume stack left).bind Continuation.proceed

theorem skips_of_skipScalar {t : Tree} {c : Char} {token : List Char}
    (htokens : t.tokens = [c :: token]) (hc : isBlank c = false) (hopen : c ≠ '[' ∧ c ≠ '\x7b')
    (hskip : ∀ rest, EndsNumeral rest → skipScalar c (token ++ rest) = .ok rest) : Skips t := by
  intro stack s rest hs hrest
  obtain ⟨left, hleft, hdrop⟩ := (htokens ▸ hs).dropBlanks_eq hc
  have hblanks := hleft.blanks
  refine ⟨left ++ rest, hblanks.dropBlanks_append hrest, ?_⟩
  rw [skipWithin_eq_bind, skipHead, hdrop]
  dsimp only
  rw [if_neg hopen.1, if_neg hopen.2, hskip _ (hblanks.endsNumeral_append hrest)]

theorem skips_word (w : Word) : Skips (.word w) := by
  cases w <;> exact skips_of_skipScalar rfl rfl (by decide) fun _ _ => rfl

theorem skips_number (n : NumberForm) : Skips (.number n) := by
  obtain ⟨c, r, htext, hc⟩ := n.exists_text_eq
  have hne (d : Char) (hd : d ≠ '-' ∧ d.isDigit = false) : c ≠ d := by
    rintro rfl
    rcases hc with rfl | hc
    · exact hd.1 rfl
    · exact absurd (hc.symm.trans hd.2) (by decide)
  have htokens : (Tree.number n).tokens = [c :: r] := by rw [Tree.tokens, htext]
  refine skips_of_skipScalar htokens ?_ ⟨hne _ (by decide), hne _ (by decide)⟩
    fun rest hrest => ?_
  · rcases hc with rfl | hc
    · rfl
    · exact isBlank_of_isDigit hc
  · have hread := readNumeral_append hrest (n.readNumeral_text .malformed)
    rw [htext, List.cons_append] at hread
    rw [skipScalar, if_neg (hne _ (by decide)), if_neg (hne _ (by decide)),
      if_neg (hne _ (by decide)), if_neg (hne _ (by decide)), if_pos hc, skipNumber, hread]
    rfl

theorem skips_text (l : Literal) : Skips (.text l) := by
  refine skips_of_skipScalar rfl rfl (by decide) fun rest _ => ?_
  rw [List.append_assoc]
  exact skipText_marks l rest

def LeadsIn (b : Bracket) (pre : List (List Char)) : Prop :=
  ∀ tokens s, Spaced (pre ++ tokens) s →
    ∃ left, Spaced tokens left ∧ ∀ rest, skipToItem b (s ++ rest) = .ok (left ++ rest)

theorem leadsIn_list : LeadsIn .list [] := fun _ s hs => ⟨s, hs, fun _ => rfl⟩

theorem leadsIn_object (l : Literal) : LeadsIn .object [l.text, [':']] := by
  intro tokens s hs
  obtain ⟨behind, hbehind, hquote⟩ := Spaced.dropBlanks_eq hs rfl
  obtain ⟨left, hleft, hcolon⟩ := hbehind.takeColon_eq
  refine ⟨left, hleft, fun rest => ?_⟩
  rw [skipToItem, skipKey, hquote, List.append_assoc]
  dsimp only
  rw [if_pos rfl, List.singleton_append, skipText_marks]
  exact hcolon rest

theorem skipToItem_part {pre : List (List Char)} {t : Tree} (hlead : LeadsIn b pre)
    (hskip : Skips t) (hs : Spaced (pre ++ t.tokens) s) (stack : List Bracket)
    (hrest : EndsValue rest) :
    ∃ left, dropBlanks left = rest ∧
      ((skipToItem b (s ++ rest)).map (.item stack)).bind Continuation.proceed =
        (resume stack left).bind Continuation.proceed := by
  obtain ⟨value, hvalue, hitem⟩ := hlead _ _ hs
  obtain ⟨left, hleft, hskipped⟩ := hskip stack _ _ hvalue hrest
  exact ⟨left, hleft, by rw [hitem]; exact hskipped⟩

theorem endsValue_closing (b : Bracket) (rest : List Char) : EndsValue (b.closing :: rest) :=
  endsValue_cons (by cases b <;> simp [Bracket.closing]) rest

theorem skipToItem_parts {p : List (List Char) × Tree} {parts : List (List (List Char) × Tree)}
    (hparts : ∀ q ∈ p :: parts, LeadsIn b q.1 ∧ Skips q.2)
    (hs : Spaced (commaSeparated ((p :: parts).map fun q => q.1 ++ q.2.tokens) ++ [[b.closing]]) s)
    (stack : List Bracket) (hrest : EndsValue rest) :
    ∃ left, dropBlanks left = rest ∧
      ((skipToItem b (s ++ rest)).map (.item (b :: stack))).bind Continuation.proceed =
        (resume stack left).bind Continuation.proceed := by
  obtain ⟨hlead, hskip⟩ := hparts p List.mem_cons_self
  -- The induction is on the parts behind the first one, each with the same stack around it.
  induction parts generalizing p s with
  | nil =>
    obtain ⟨before, behind, rfl, hbefore, hbehind⟩ := Spaced.onlyPart hs
    obtain ⟨left, hleft, hpart⟩ := skipToItem_part hlead hskip hbefore (b :: stack)
      (endsValue_closing b (behind ++ rest))
    refine ⟨behind ++ rest, hbehind.dropBlanks_append hrest, ?_⟩
    rw [resume_of_closing hleft] at hpart
    simpa using hpart
  | cons q parts ih =>
    obtain ⟨before, behind, rfl, hbefore, hbehind⟩ := Spaced.firstPart hs
    obtain ⟨left, hleft, hpart⟩ := skipToItem_part hlead hskip hbefore (b :: stack)
      (endsValue_cons (.inl rfl) (behind ++ rest))
    have hparts' := fun r hr => hparts r (List.mem_cons_of_mem p hr)
    obtain ⟨left', hleft', hskipped⟩ := ih hparts' hbehind
      (hparts' q List.mem_cons_self).1 (hparts' q List.mem_cons_self).2
    refine ⟨left', hleft', ?_⟩
    rw [resume_of_comma hleft, hskipped] at hpart
    simpa using hpart

theorem enter_parts {parts : List (List (List Char) × Tree)}
    (hparts : ∀ q ∈ parts, LeadsIn b q.1 ∧ Skips q.2)
    (hopen : ∀ q ∈ parts, ∃ c token tokens, q.1 ++ q.2.tokens = (c :: token) :: tokens ∧
      isBlank c = false ∧ c ≠ b.closing)
    (hs : Spaced (commaSeparated (parts.map fun q => q.1 ++ q.2.tokens) ++ [[b.closing]]) s)
    (stack : List Bracket) (hrest : EndsValue rest) :
    ∃ left, dropBlanks left = rest ∧ (enter b stack (s ++ rest)).bind Continuation.proceed =
      (resume stack left).bind Continuation.proceed := by
  cases parts with
  | nil =>
    have hclosing : isBlank b.closing = false := by cases b <;> rfl
    obtain ⟨left, hleft, hdrop⟩ := Spaced.dropBlanks_eq_of_last hs hclosing
    refine ⟨left ++ rest, hleft.dropBlanks_append hrest, ?_⟩
    simp [enter, hdrop]
  | cons p parts =>
    obtain ⟨c, token, tokens, hfirst, hc, hne⟩ := hopen p List.mem_cons_self
    obtain ⟨left, hleft, hskipped⟩ := skipToItem_parts hparts hs stack hrest
    rw [List.map_cons, hfirst] at hs
    obtain ⟨r, hdrop⟩ := hs.dropBlanks_firstPart hc rest
    refine ⟨left, hleft, ?_⟩
    rw [enter, hdrop]
    dsimp only
    rw [if_neg hne]
    exact hskipped

theorem skips_of_enter {t : Tree} (opening : Char) (parts : List (List (List Char) × Tree))
    (htokens : t.tokens = [opening] ::
      (commaSeparated (parts.map fun q => q.1 ++ q.2.tokens) ++ [[b.closing]]))
    (hopening : isBlank opening = false)
    (henter : ∀ stack s r, dropBlanks s = opening :: r → skipHead stack s = enter b stack r)
    (hparts : ∀ q ∈ parts, LeadsIn b q.1 ∧ Skips q.2)
    (hopen : ∀ q ∈ parts, ∃ c token tokens, q.1 ++ q.2.tokens = (c :: token) :: tokens ∧
      isBlank c = false ∧ c ≠ b.closing) : Skips t := by
  intro stack s rest hs hrest
  obtain ⟨inner, hinner, hdrop⟩ := (htokens ▸ hs).dropBlanks_eq hopening
  obtain ⟨left, hleft, hskipped⟩ := enter_parts hparts hopen hinner stack hrest
  refine ⟨left, hleft, ?_⟩
  rw [skipWithin_eq_bind, henter stack _ _ (hdrop rest)]
  exact hskipped

theorem skips_list {items : List Tree} (h : ∀ t ∈ items, Skips t) : Skips (.list items) := by
  refine skips_of_enter (b := .list) '[' (items.map fun t => ([], t)) ?_ rfl ?_ ?_ ?_
  · simp [Tree.tokens, itemTokens_eq_map, Bracket.closing, Function.comp_def]
  · intro stack s r hs
    simp [skipHead, hs]
  · simpa using fun t ht => ⟨leadsIn_list, h t ht⟩
  · simp only [List.forall_mem_map, List.nil_append]
    intro t _
    obtain ⟨c, token, tokens, htokens, hc, hne⟩ := t.exists_tokens_eq
    exact ⟨c, token, tokens, htokens, hc, hne _⟩

theorem skips_object {members : List (Literal × Tree)} (h : ∀ m ∈ members, Skips m.2) :
    Skips (.object members) := by
  refine skips_of_enter (b := .object) '\x7b' (members.map fun m => ([m.1.text, [':']], m.2))
    ?_ rfl ?_ ?_ ?_
  · simp [Tree.tokens, memberTokens_eq_map, Bracket.closing, Function.comp_def]
  · intro stack s r hs
    simp [skipHead, hs]
  · simp only [List.forall_mem_map]
    exact fun m hm => ⟨leadsIn_object m.1, h m hm⟩
  · simp only [List.forall_mem_map]
    exact fun m _ => ⟨_, _, _, rfl, rfl, by decide⟩

theorem skips (t : Tree) : Skips t :=
  t.inductionOn skips_word skips_number skips_text (fun _ => skips_list) fun _ => skips_object

end Fidelity.Json
