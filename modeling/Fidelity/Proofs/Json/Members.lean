import Mathlib
import Fidelity.Proofs.Json.TreeReading

/-!
# Members of objects

A member takes the draft of a record to another one, or ends the reading with a fault; the members of
an object do so one after the other. Main statement: a record is read as its members take the empty
draft.
-/
namespace Fidelity.Json

variable {σ β : Type}

inductive TakesMember (fields : List (Field σ)) (m : Literal × Tree) (d : σ) : Except Fault σ → Prop
  | keyless (hkey : m.1.string? = none) : TakesMember fields m d (.error .malformed)
  | unknown {key : String} (hkey : m.1.string? = some key)
      (hfind : fields.find? (fun f => f.name == key) = none) : TakesMember fields m d (.ok d)
  | repeated {key : String} {f : Field σ} (hkey : m.1.string? = some key)
      (hfind : fields.find? (fun f => f.name == key) = some f) (hgiven : f.isGiven d = true) :
      TakesMember fields m d (.error .unfit)
  | refused {key : String} {f : Field σ} {e : Fault} (hkey : m.1.string? = some key)
      (hfind : fields.find? (fun f => f.name == key) = some f) (hgiven : f.isGiven d = false)
      (hread : ReadsAs f.reader m.2 (.error e)) : TakesMember fields m d (.error e)
  | known {key : String} {f : Field σ} {set : σ → σ} (hkey : m.1.string? = some key)
      (hfind : fields.find? (fun f => f.name == key) = some f) (hgiven : f.isGiven d = false)
      (hread : ReadsAs f.reader m.2 (.ok set)) : TakesMember fields m d (.ok (set d))

theorem keyedMember_of_takesMember {fields : List (Field σ)} {m : Literal × Tree} {d : σ}
    {r : Except Fault σ} (h : TakesMember fields m d r) {s rest : List Char}
    (hs : Spaced (m.1.text :: [':'] :: m.2.tokens) s) (hrest : EndsValue rest) :
    Outcome.Is (Reader.keyedMember fields d (s ++ rest)) r rest := by
  obtain ⟨inner, hinner, hquote⟩ := Spaced.dropBlanks_eq hs rfl
  obtain ⟨value, hvalue, hcolon⟩ := hinner.takeColon_eq
  have hmember : Reader.keyedMember fields d (s ++ rest) =
      m.1.string?.elim (.error .malformed) fun key =>
        Reader.member fields key d (inner ++ rest) := by
    rw [Reader.keyedMember, hquote, List.append_assoc]
    dsimp only
    rw [if_pos rfl, List.singleton_append, readText_marks, Literal.string?]
    cases m.1.chars? <;> rfl
  cases h with
  | keyless hkey => rw [hmember, hkey]; rfl
  | unknown hkey hfind =>
    obtain ⟨left, hleft, hskip⟩ := skips m.2 [] value rest hvalue hrest
    refine ⟨left, ?_, hleft⟩
    rw [hmember, hkey]
    simp [Reader.member, hfind, hcolon, skipValue, hskip, resume, Except.bind,
      Continuation.proceed, Except.map]
  | repeated hkey hfind hgiven =>
    rw [hmember, hkey]
    simp [Reader.member, hfind, hgiven, Outcome.Is]
  | refused hkey hfind hgiven hread =>
    have hrun := hread value rest hvalue hrest
    simp only [Outcome.Is] at hrun
    rw [hmember, hkey]
    simp [Reader.member, hfind, hgiven, hcolon, hrun, Outcome.Is]
  | known hkey hfind hgiven hread =>
    obtain ⟨left, hrun, hleft⟩ := hread value rest hvalue hrest
    refine ⟨left, ?_, hleft⟩
    rw [hmember, hkey]
    simp [Reader.member, hfind, hgiven, hcolon, hrun]

inductive Takes (fields : List (Field σ)) : List (Literal × Tree) → σ → Except Fault σ → Prop
  | nil (d : σ) : Takes fields [] d (.ok d)
  | stop {m : Literal × Tree} {ms : List (Literal × Tree)} {d : σ} {e : Fault}
      (h : TakesMember fields m d (.error e)) : Takes fields (m :: ms) d (.error e)
  | step {m : Literal × Tree} {ms : List (Literal × Tree)} {d d' : σ} {r : Except Fault σ}
      (h : TakesMember fields m d (.ok d')) (hrest : Takes fields ms d' r) :
      Takes fields (m :: ms) d r

theorem membersFrom_eq {fields : List (Field σ)} {d e : σ} {s left rest : List Char} {c : Char}
    (hmember : Reader.keyedMember fields d s = .ok (e, left)) (hleft : dropBlanks left = c :: rest) :
    Reader.membersFrom fields d s =
      if c = '}' then .ok (e, rest)
      else if c = ',' then Reader.membersFrom fields e rest
      else .error .malformed := by
  rw [Reader.membersFrom]
  split <;> rename_i heq
  · cases hmember.symm.trans heq
  · cases hmember.symm.trans heq
    split <;> rename_i heq
    · cases hleft.symm.trans heq
    · cases hleft.symm.trans heq
      rfl

theorem membersFrom_of_keyedMember_eq_error {fields : List (Field σ)} {d : σ} {s : List Char}
    {e : Fault} (h : Reader.keyedMember fields d s = .error e) :
    Reader.membersFrom fields d s = .error e := by
  rw [Reader.membersFrom]
  split <;> rename_i heq
  · cases h.symm.trans heq
    rfl
  · cases h.symm.trans heq

theorem membersFrom_of_takes {fields : List (Field σ)} {m : Literal × Tree}
    {ms : List (Literal × Tree)} {d : σ} {r : Except Fault σ} (h : Takes fields (m :: ms) d r)
    {s rest : List Char} (hs : Spaced (commaSeparated (memberTokens (m :: ms)) ++ [['\x7d']]) s)
    (hrest : EndsValue rest) :
    Outcome.Is (Reader.membersFrom fields d (s ++ rest)) r rest := by
  -- The other members find the draft that the first one leaves.
  induction ms generalizing m d s with
  | nil =>
    obtain ⟨before, behind, rfl, hbefore, hbehind⟩ := Spaced.onlyPart hs
    have hends := endsValue_closing .object (behind ++ rest)
    rw [List.append_assoc]
    cases h with
    | stop h =>
      exact membersFrom_of_keyedMember_eq_error (keyedMember_of_takesMember h hbefore hends)
    | step h hnil =>
      obtain ⟨left, hmember, hleft⟩ := keyedMember_of_takesMember h hbefore hends
      cases hnil
      exact ⟨behind ++ rest, membersFrom_eq hmember hleft, hbehind.dropBlanks_append hrest⟩
  | cons m' ms ih =>
    obtain ⟨before, behind, rfl, hbefore, hbehind⟩ := Spaced.firstPart hs
    have hends := endsValue_cons (.inl rfl) (behind ++ rest)
    rw [List.append_assoc, List.cons_append]
    cases h with
    | stop h =>
      exact membersFrom_of_keyedMember_eq_error (keyedMember_of_takesMember h hbefore hends)
    | step h hlater =>
      obtain ⟨left, hmember, hleft⟩ := keyedMember_of_takesMember h hbefore hends
      rw [membersFrom_eq hmember hleft]
      exact ih hlater hbehind

theorem readsAs_record {fields : List (Field σ)} {start : σ} {ms : List (Literal × Tree)}
    {r : Except Fault σ} (h : Takes fields ms start r) (finish : σ → Option β) :
    ReadsAs (.record fields start finish) (.object ms)
      (r.bind fun d => (finish d).elim (.error .unfit) .ok) := by
  refine ReadsAs.filterMap ?_ finish
  intro s rest hs hrest
  obtain ⟨inner, hinner, hopening⟩ := Spaced.dropBlanks_eq hs rfl
  cases ms with
  | nil =>
    obtain ⟨left, hleft, hclosing⟩ := Spaced.dropBlanks_eq_of_last hinner rfl
    cases h
    refine ⟨left ++ rest, ?_, hleft.dropBlanks_append hrest⟩
    simp [hopening, hclosing]
  | cons m ms =>
    have hmembers := membersFrom_of_takes h hinner hrest
    obtain ⟨r, hfirst⟩ := Spaced.dropBlanks_firstPart hinner rfl rest
    simpa [hopening, hfirst] using hmembers

end Fidelity.Json
