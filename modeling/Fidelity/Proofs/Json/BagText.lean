import Fidelity.Proofs.Bag.Balance
import Fidelity.Proofs.Json.RoundTrip

/-!
# Bags as they are written

Main statements: a reader of all members of an object reads the entries of a bag back, and their order
depends on nothing but what the bag holds.
-/
namespace Fidelity.Json

variable {α : Type}

namespace Reader

def entryAt (value : Reader α) (s : List Char) : Outcome (String × α) :=
  match dropBlanks s with
  | [] => .error .ended
  | c :: r =>
    if c = '"' then
      match readText r with
      | .error e => .error e
      | .ok (key, r) =>
        match takeColon r with
        | .error e => .error e
        | .ok r => (value.map (String.ofList key, ·)).run r
    else .error .malformed

theorem length_lt_of_entryAt {value : Reader α} {s rest : List Char} {e : String × α}
    (h : entryAt value s = .ok (e, rest)) : rest.length < s.length := by
  unfold entryAt at h
  split at h
  · cases h
  · next c r hs =>
    split_ifs at h
    split at h
    · cases h
    · next ht =>
      split at h
      · cases h
      · next hc =>
        exact (Reader.shorter _ _ _ _ h).trans ((length_lt_of_takeColon hc).trans
          ((length_lt_of_readText ht).trans (length_lt_of_dropBlanks hs)))

def entriesFrom (value : Reader α) (s : List Char) : Outcome (List (String × α)) :=
  match _h : entryAt value s with
  | .error e => .error e
  | .ok (entry, r) =>
    match _hr : dropBlanks r with
    | [] => .error .ended
    | c :: r' =>
      if c = '\x7d' then .ok ([entry], r')
      else if c = ',' then (entriesFrom value r').map fun (es, rest) => (entry :: es, rest)
      else .error .malformed
termination_by s.length
decreasing_by exact (length_lt_of_dropBlanks _hr).trans (length_lt_of_entryAt _h)

theorem length_lt_of_entriesFrom {value : Reader α} {s rest : List Char} {es : List (String × α)}
    (h : entriesFrom value s = .ok (es, rest)) : rest.length < s.length := by
  fun_induction entriesFrom value s generalizing es with
  | case1 => cases h
  | case2 => cases h
  | case3 s entry r he r' hr =>
    cases h
    exact (length_lt_of_dropBlanks hr).trans (length_lt_of_entryAt he)
  | case4 s entry r he r' hr _ ih =>
    cases hx : entriesFrom value r' with
    | error e => simp [hx, Except.map] at h
    | ok x =>
      rw [hx] at h
      cases h
      exact (ih hx).trans ((length_lt_of_dropBlanks hr).trans (length_lt_of_entryAt he))
  | case5 => cases h

def entries (value : Reader α) : Reader (List (String × α)) where
  run s :=
    match dropBlanks s with
    | [] => .error .ended
    | c :: r =>
      if c = '\x7b' then
        match dropBlanks r with
        | [] => .error .ended
        | d :: r' => if d = '\x7d' then .ok ([], r') else entriesFrom value r
      else .error (mismatch (c :: r))
  shorter s es rest h := by
    split at h
    · cases h
    · next c r hs =>
      have hr := length_lt_of_dropBlanks hs
      split_ifs at h
      split at h
      · cases h
      · next d r' hd =>
        split_ifs at h
        · cases h
          exact (length_lt_of_dropBlanks hd).trans hr
        · exact (length_lt_of_entriesFrom h).trans hr

end Reader

theorem entriesFrom_eq {value : Reader α} {s left rest : List Char} {e : String × α} {c : Char}
    (hentry : Reader.entryAt value s = .ok (e, left)) (hleft : dropBlanks left = c :: rest) :
    Reader.entriesFrom value s =
      if c = '\x7d' then .ok ([e], rest)
      else if c = ',' then (Reader.entriesFrom value rest).map fun (es, rest) => (e :: es, rest)
      else .error .malformed := by
  rw [Reader.entriesFrom]
  split <;> rename_i heq
  · cases hentry.symm.trans heq
  · cases hentry.symm.trans heq
    split <;> rename_i heq
    · cases hleft.symm.trans heq
    · cases hleft.symm.trans heq
      rfl

/-- The member has the key of the entry, and its value is read as that of the entry. -/
def IsEntry (value : Reader α) (m : Literal × Tree) (e : String × α) : Prop :=
  m.1.string? = some e.1 ∧ ReadsAs value m.2 (.ok e.2)

section

variable {value : Reader α} {m : Literal × Tree} {ms : List (Literal × Tree)} {e : String × α}
  {es : List (String × α)} {s rest : List Char}

theorem entryAt_tree (h : IsEntry value m e) (hs : Spaced (m.1.text :: [':'] :: m.2.tokens) s)
    (hrest : EndsValue rest) : Outcome.Is (Reader.entryAt value (s ++ rest)) (.ok e) rest := by
  obtain ⟨hkey, hread⟩ := h
  obtain ⟨cs, hchars, hcs⟩ := Option.map_eq_some_iff.mp hkey
  obtain ⟨inner, hinner, hquote⟩ := Spaced.dropBlanks_eq hs rfl
  obtain ⟨body, hbody, hcolon⟩ := hinner.takeColon_eq
  obtain ⟨left, hrun, hleft⟩ := (hread.map (String.ofList cs, ·)) body rest hbody hrest
  refine ⟨left, ?_, hleft⟩
  rw [hcs] at hrun
  rw [Reader.entryAt, hquote, List.append_assoc]
  simp [readText_marks, hchars, hcolon, hcs, hrun]

theorem entriesFrom_tree (h : List.Forall₂ (IsEntry value) (m :: ms) es)
    (hs : Spaced (commaSeparated (memberTokens (m :: ms)) ++ [['\x7d']]) s)
    (hrest : EndsValue rest) : Outcome.Is (Reader.entriesFrom value (s ++ rest)) (.ok es) rest := by
  induction ms generalizing m es s with
  | nil =>
    obtain - | ⟨hentry, hnil⟩ := h
    cases hnil
    obtain ⟨before, behind, rfl, hbefore, hbehind⟩ := Spaced.onlyPart hs
    obtain ⟨left, hrun, hleft⟩ := entryAt_tree hentry hbefore
      (endsValue_closing .object (behind ++ rest))
    refine ⟨behind ++ rest, ?_, hbehind.dropBlanks_append hrest⟩
    rw [List.append_assoc]
    exact entriesFrom_eq hrun hleft
  | cons m' ms ih =>
    obtain - | ⟨hentry, hentries⟩ := h
    obtain ⟨before, behind, rfl, hbefore, hbehind⟩ := Spaced.firstPart hs
    obtain ⟨left, hrun, hleft⟩ := entryAt_tree hentry hbefore
      (endsValue_cons (.inl rfl) (behind ++ rest))
    obtain ⟨left', hentries', hleft'⟩ := ih hentries hbehind
    refine ⟨left', ?_, hleft'⟩
    rw [List.append_assoc, List.cons_append, entriesFrom_eq hrun hleft, hentries']
    rfl

theorem readsAs_entries (h : List.Forall₂ (IsEntry value) ms es) :
    ReadsAs (.entries value) (.object ms) (.ok es) := by
  intro s rest hs hrest
  obtain ⟨inner, hinner, hopening⟩ := Spaced.dropBlanks_eq hs rfl
  cases ms with
  | nil =>
    obtain ⟨left, hleft, hclosing⟩ := Spaced.dropBlanks_eq_of_last hinner rfl
    cases h
    refine ⟨left ++ rest, ?_, hleft.dropBlanks_append hrest⟩
    simp [Reader.entries, hopening, hclosing]
  | cons m ms =>
    obtain ⟨left, hentries, hleft⟩ := entriesFrom_tree h hinner hrest
    obtain ⟨r, hfirst⟩ := Spaced.dropBlanks_firstPart hinner rfl rest
    refine ⟨left, ?_, hleft⟩
    simp [Reader.entries, hopening, hfirst, hentries]

end

theorem readsAs_ofBag (b : Bag) : ReadsAs (.entries .natural) (ofBag b).tree (.ok b.sorted) := by
  apply readsAs_entries
  rw [memberTrees_eq_map, List.forall₂_map_left_iff, List.forall₂_map_left_iff, List.forall₂_same]
  exact fun e _ => ⟨Literal.string?_ofString e.1, readsAs_ofNatural e.2⟩

end Fidelity.Json

namespace Fidelity.Bag

theorem pairwise_sorted (b : Bag) : b.sorted.Pairwise fun x y => x.1 < y.1 := by
  have hne : b.sorted.Pairwise fun x y => x.1 ≠ y.1 :=
    (b.sorted_perm.pairwise_iff Ne.symm).mpr (List.pairwise_map.mp b.nodup)
  have hle : b.sorted.Pairwise fun x y => x.1 ≤ y.1 := pairwise_mergeSort_words Prod.fst b.entries
  exact hle.imp₂ (fun x y hxy hne => lt_of_le_of_ne hxy hne) hne

theorem sorted_eq_of_perm {a b : Bag} (h : a.entries.Perm b.entries) : a.sorted = b.sorted := by
  have hsorted : a.sorted.Perm b.sorted := a.sorted_perm.trans (h.trans b.sorted_perm.symm)
  exact hsorted.eq_of_pairwise (fun x y _ _ hxy hyx => absurd hyx hxy.asymm) a.pairwise_sorted
    b.pairwise_sorted

end Fidelity.Bag
