import Mathlib
import Fidelity.Command.WeightList

/-!
# The grammar of weights

A numeral is read digit by digit, and its first problem is its fault: so all depends on the digits at
its front. Main statement: weights are accepted just when they are three numerals between commas, and
otherwise the first piece that is no numeral is reported, or else their number.
-/
namespace Fidelity

namespace Text

open Unicode (isWhiteSpace)

theorem splitAt_eq_splitOn (sep : Char) (s : List Char) : splitAt sep s = s.splitOn sep := by
  induction s with
  | nil => rfl
  | cons c rest ih =>
    obtain ⟨piece, pieces, hpieces⟩ :=
      List.exists_cons_of_ne_nil (List.splitOnP_ne_nil (· == sep) rest)
    have hrest : rest.splitOn sep = piece :: pieces := hpieces
    have hsplit : (c :: rest).splitOn sep =
        if c = sep then [] :: piece :: pieces else (c :: piece) :: pieces := by
      rw [List.splitOn, List.splitOnP_cons_eq_if_modifyHead, hpieces]
      by_cases hc : c = sep <;> simp [hc]
    rw [splitAt, ih, hrest, hsplit]

/-- The text `s` is `core` with white space around it, and `core` has none at its ends. -/
structure IsTrimmed (core s : List Char) : Prop where
  around : ∃ before behind, s = before ++ (core ++ behind) ∧
    (∀ c ∈ before, isWhiteSpace c = true) ∧ ∀ c ∈ behind, isWhiteSpace c = true
  head : ∀ c ∈ core.head?, isWhiteSpace c = false
  last : ∀ c ∈ core.getLast?, isWhiteSpace c = false

theorem trim_eq_rdropWhile (s : List Char) :
    trim s = (s.dropWhile isWhiteSpace).rdropWhile isWhiteSpace := rfl

theorem isTrimmed_trim (s : List Char) : IsTrimmed (trim s) s where
  around := by
    refine ⟨s.takeWhile isWhiteSpace, (s.dropWhile isWhiteSpace).rtakeWhile isWhiteSpace, ?_,
      fun c hc => List.mem_takeWhile_imp hc, fun c hc => List.mem_rtakeWhile_imp hc⟩
    rw [trim_eq_rdropWhile, List.rdropWhile_append_rtakeWhile, List.takeWhile_append_dropWhile]
  head c hc := by
    obtain ⟨core, hcore⟩ := List.head?_eq_some_iff.mp hc
    obtain ⟨behind, hbehind⟩ := List.rdropWhile_prefix isWhiteSpace (l := s.dropWhile isWhiteSpace)
    have hnot := List.head?_dropWhile_not isWhiteSpace s
    rw [← hbehind, ← trim_eq_rdropWhile, hcore] at hnot
    exact hnot
  last c hc := by
    have hnot := List.head?_dropWhile_not isWhiteSpace (s.dropWhile isWhiteSpace).reverse
    rw [trim, List.getLast?_reverse] at hc
    rwa [Option.mem_def.mp hc] at hnot

theorem IsTrimmed.eq_trim {core s : List Char} (h : IsTrimmed core s) : core = trim s := by
  obtain ⟨before, behind, rfl, hbefore, hbehind⟩ := h.around
  have hfront : (before ++ (core ++ behind)).dropWhile isWhiteSpace =
      (core ++ behind).dropWhile isWhiteSpace := by
    rw [List.dropWhile_append_of_pos hbefore]
  have hback (r : List Char) : (r ++ behind).rdropWhile isWhiteSpace =
      r.rdropWhile isWhiteSpace := by
    rw [List.rdropWhile, List.reverse_append,
      List.dropWhile_append_of_pos (by simpa using hbehind)]
    rfl
  rw [trim_eq_rdropWhile, hfront]
  cases core with
  | nil =>
    have hnil : behind.dropWhile isWhiteSpace = [] := List.dropWhile_eq_nil_iff.mpr hbehind
    rw [List.nil_append, hnil]
    rfl
  | cons c core =>
    rw [List.cons_append, List.dropWhile_cons_of_neg (by simp [h.head c rfl]), ← List.cons_append,
      hback, List.rdropWhile_eq_self_iff.mpr]
    intro hne hlast
    have hnot := h.last _ (List.getLast?_eq_getLast_of_ne_nil hne)
    exact Bool.false_ne_true (hnot.symm.trans hlast)

end Text

namespace Command

open Edit (Weights)

def unsigned : List Char → List Char
  | '+' :: rest => rest
  | s => s

def leadingValue (s : List Char) : Nat := Nat.ofDigitChars 10 (s.takeWhile Char.isDigit) 0

structure IsNumeral (s : List Char) (n : UInt64) : Prop where
  ne_nil : unsigned s ≠ []
  digits : ∀ c ∈ unsigned s, c.isDigit = true
  value : Nat.ofDigitChars 10 (unsigned s) 0 = n.toNat

/-- Where digits lead beyond 64 bits, what stands behind them is not looked at. -/
def HasFault (s : List Char) : NumeralFault → Prop
  | .empty => s = []
  | .invalidDigit => s ≠ [] ∧ leadingValue (unsigned s) < 2 ^ 64 ∧
      (unsigned s = [] ∨ ∃ c ∈ unsigned s, c.isDigit = false)
  | .tooLarge => 2 ^ 64 ≤ leadingValue (unsigned s)

def Spells (piece : List Char) (n : UInt64) : Prop :=
  ∃ core, Text.IsTrimmed core piece ∧ IsNumeral core n

def IsFaulty (piece : List Char) (fault : NumeralFault) : Prop :=
  ∃ core, Text.IsTrimmed core piece ∧ HasFault core fault

theorem le_ofDigitChars (ds : List Char) (n : Nat) : n ≤ Nat.ofDigitChars 10 ds n := by
  rw [Nat.ofDigitChars_eq_ofDigitChars_zero]
  have hpow : 0 < 10 ^ ds.length := Nat.pow_pos (by decide)
  exact (Nat.le_mul_of_pos_left n hpow).trans (Nat.le_add_right _ _)

theorem digitsFrom_eq {n : Nat} (hn : n < UInt64.size) (s : List Char) :
    digitsFrom n s =
      if UInt64.size ≤ Nat.ofDigitChars 10 (s.takeWhile Char.isDigit) n then .error .tooLarge
      else if ∀ c ∈ s, c.isDigit = true then .ok (UInt64.ofNat (Nat.ofDigitChars 10 s n))
      else .error .invalidDigit := by
  induction s generalizing n with
  | nil => simp [digitsFrom, hn]
  | cons c s ih =>
    by_cases hc : c.isDigit = true
    · have hall : (∀ d ∈ c :: s, d.isDigit = true) ↔ ∀ d ∈ s, d.isDigit = true := by simp [hc]
      rw [digitsFrom, if_pos hc, List.takeWhile_cons_of_pos hc, Nat.ofDigitChars_cons,
        Nat.ofDigitChars_cons]
      by_cases hfits : 10 * n + (c.toNat - '0'.toNat) < UInt64.size
      · rw [if_pos hfits, ih hfits]
        simp only [hall]
      · have hbeyond := le_ofDigitChars (s.takeWhile Char.isDigit) (10 * n + (c.toNat - '0'.toNat))
        rw [if_neg hfits, if_pos (by omega)]
    · simp [digitsFrom, hc, hn]

theorem parseNumeral_eq (s : List Char) :
    parseNumeral s =
      if s = [] then .error .empty
      else if unsigned s = [] then .error .invalidDigit
      else digitsFrom 0 (unsigned s) := by
  cases s with
  | nil => rfl
  | cons c rest =>
    by_cases hc : c = '+'
    · subst hc
      cases rest <;> simp [parseNumeral, unsigned]
    · have hsame : unsigned (c :: rest) = c :: rest := by
        rw [unsigned]
        rintro r heq
        exact hc (List.cons_eq_cons.mp heq).1
      simp [parseNumeral, hc, hsame]

theorem leadingValue_of_digits {s : List Char} (h : ∀ c ∈ s, c.isDigit = true) :
    leadingValue s = Nat.ofDigitChars 10 s 0 := by
  rw [leadingValue, List.takeWhile_eq_self_iff.mpr h]

theorem digitsFrom_zero (s : List Char) :
    digitsFrom 0 s =
      if 2 ^ 64 ≤ leadingValue s then .error .tooLarge
      else if ∀ c ∈ s, c.isDigit = true then .ok (UInt64.ofNat (leadingValue s))
      else .error .invalidDigit := by
  rw [digitsFrom_eq (by decide)]
  by_cases hdigits : ∀ c ∈ s, c.isDigit = true
  · simp only [if_pos hdigits, leadingValue_of_digits hdigits,
      List.takeWhile_eq_self_iff.mpr hdigits]
    rfl
  · simp only [if_neg hdigits]
    rfl

theorem parseNumeral_eq_ok_iff (s : List Char) (n : UInt64) :
    parseNumeral s = .ok n ↔ IsNumeral s n := by
  rw [parseNumeral_eq, digitsFrom_zero]
  constructor
  · intro h
    split_ifs at h with hempty hsign hlarge hdigits
    refine ⟨hsign, hdigits, ?_⟩
    rw [← Except.ok.inj h, UInt64.toNat_ofNat', Nat.mod_eq_of_lt (not_le.mp hlarge),
      leadingValue_of_digits hdigits]
  · rintro ⟨hsign, hdigits, hvalue⟩
    have hempty : s ≠ [] := by
      rintro rfl
      exact hsign rfl
    rw [← leadingValue_of_digits hdigits] at hvalue
    have hfits : ¬2 ^ 64 ≤ leadingValue (unsigned s) := hvalue ▸ not_le.mpr n.toNat_lt
    rw [if_neg hempty, if_neg hsign, if_neg hfits, if_pos hdigits, hvalue, UInt64.ofNat_toNat]

theorem parseNumeral_eq_error_iff (s : List Char) (fault : NumeralFault) :
    parseNumeral s = .error fault ↔ HasFault s fault := by
  rw [parseNumeral_eq, digitsFrom_zero]
  have hnil : leadingValue [] < 2 ^ 64 := by decide
  have hunsigned : s = [] → unsigned s = [] := by
    rintro rfl
    rfl
  split_ifs with hempty hsign hlarge hdigits <;> cases fault <;> simp_all [HasFault]

theorem parse_trim_eq_ok_iff (piece : List Char) (n : UInt64) :
    parseNumeral (Text.trim piece) = .ok n ↔ Spells piece n := by
  rw [parseNumeral_eq_ok_iff]
  constructor
  · exact fun h => ⟨_, Text.isTrimmed_trim piece, h⟩
  · rintro ⟨core, hcore, h⟩
    exact hcore.eq_trim ▸ h

theorem parse_trim_eq_error_iff (piece : List Char) (fault : NumeralFault) :
    parseNumeral (Text.trim piece) = .error fault ↔ IsFaulty piece fault := by
  rw [parseNumeral_eq_error_iff]
  constructor
  · exact fun h => ⟨_, Text.isTrimmed_trim piece, h⟩
  · rintro ⟨core, hcore, h⟩
    exact hcore.eq_trim ▸ h

theorem exists_isFaulty_iff (piece : List Char) :
    (∃ fault, IsFaulty piece fault) ↔ ∀ n, ¬Spells piece n := by
  simp only [← parse_trim_eq_ok_iff, ← parse_trim_eq_error_iff]
  cases parseNumeral (Text.trim piece) <;> simp

theorem Spells.not_isFaulty {piece : List Char} {n : UInt64} (h : Spells piece n)
    (fault : NumeralFault) : ¬IsFaulty piece fault :=
  fun hfault => (exists_isFaulty_iff piece).mp ⟨fault, hfault⟩ n h

theorem parsePieces_eq_ok_iff (ps : List (List Char)) (ns : List UInt64) :
    parsePieces ps = .ok ns ↔ List.Forall₂ Spells ps ns := by
  induction ps generalizing ns with
  | nil => simp [parsePieces, eq_comm]
  | cons p ps ih =>
    rw [parsePieces, List.forall₂_cons_left_iff]
    simp only [← ih, ← parse_trim_eq_ok_iff]
    cases parseNumeral (Text.trim p) with
    | error e => simp
    | ok n => cases parsePieces ps <;> simp [Except.map, eq_comm]

def FailsFirst (ps : List (List Char)) (fault : NumeralFault) : Prop :=
  ∃ before p behind, ps = before ++ p :: behind ∧ (∀ q ∈ before, ∃ n, Spells q n) ∧
    IsFaulty p fault

theorem failsFirst_cons_of_spells {p : List Char} {ps : List (List Char)} {n : UInt64}
    (h : Spells p n) (fault : NumeralFault) :
    FailsFirst (p :: ps) fault ↔ FailsFirst ps fault := by
  constructor
  · rintro ⟨before, q, behind, heq, hbefore, hq⟩
    cases before with
    | nil =>
      obtain ⟨rfl, -⟩ := List.cons_eq_cons.mp heq
      exact absurd hq (h.not_isFaulty fault)
    | cons r before =>
      obtain ⟨rfl, rfl⟩ := List.cons_eq_cons.mp heq
      exact ⟨before, q, behind, rfl, (List.forall_mem_cons.mp hbefore).2, hq⟩
  · rintro ⟨before, q, behind, rfl, hbefore, hq⟩
    exact ⟨p :: before, q, behind, rfl, List.forall_mem_cons.mpr ⟨⟨n, h⟩, hbefore⟩, hq⟩

theorem failsFirst_cons_of_isFaulty {p : List Char} {e : NumeralFault} (h : IsFaulty p e)
    (ps : List (List Char)) (fault : NumeralFault) :
    FailsFirst (p :: ps) fault ↔ fault = e := by
  constructor
  · rintro ⟨before, q, behind, heq, hbefore, hq⟩
    cases before with
    | nil =>
      obtain ⟨rfl, -⟩ := List.cons_eq_cons.mp heq
      rw [← parse_trim_eq_error_iff] at h hq
      exact Except.error.inj (hq.symm.trans h)
    | cons r before =>
      obtain ⟨rfl, -⟩ := List.cons_eq_cons.mp heq
      obtain ⟨n, hn⟩ := (List.forall_mem_cons.mp hbefore).1
      exact absurd h (hn.not_isFaulty e)
  · rintro rfl
    exact ⟨[], p, ps, rfl, List.forall_mem_nil _, h⟩

theorem parsePieces_eq_error_iff (ps : List (List Char)) (fault : NumeralFault) :
    parsePieces ps = .error fault ↔ FailsFirst ps fault := by
  induction ps with
  | nil => simp [parsePieces, FailsFirst]
  | cons p ps ih =>
    rw [parsePieces]
    cases hp : parseNumeral (Text.trim p) with
    | error e =>
      rw [failsFirst_cons_of_isFaulty ((parse_trim_eq_error_iff p e).mp hp)]
      simp [eq_comm]
    | ok n =>
      rw [failsFirst_cons_of_spells ((parse_trim_eq_ok_iff p n).mp hp), ← ih]
      cases parsePieces ps <;> simp [Except.map]

theorem badWeight_message_ne (fault : NumeralFault) (given : String) :
    (WeightListFault.badWeight fault).message ≠ (WeightListFault.wrongCount given).message := by
  change "invalid weight: " ++ fault.message ≠
    "expected three comma-separated weights, got '" ++ given ++ "'"
  intro h
  have hlists := congrArg String.toList h
  simp at hlists

theorem numeralMessage_injective : Function.Injective NumeralFault.message := by
  intro fault fault' h
  cases fault <;> cases fault' <;> simp_all [NumeralFault.message]

theorem message_injective : Function.Injective WeightListFault.message := by
  intro e e' h
  cases e with
  | badWeight fault =>
    cases e' with
    | badWeight fault' =>
      have hsame := numeralMessage_injective (String.append_right_inj _ |>.mp h)
      rw [hsame]
    | wrongCount given => exact absurd h (badWeight_message_ne fault given)
  | wrongCount given =>
    cases e' with
    | badWeight fault => exact absurd h.symm (badWeight_message_ne fault given)
    | wrongCount given' =>
      have hsame := String.append_right_inj _ |>.mp (String.append_left_inj _ |>.mp h)
      rw [hsame]

theorem parseWeights_eq (s : String) :
    parseWeights s =
      match parsePieces (s.toList.splitOn ',') with
      | .error e => .error (.badWeight e)
      | .ok [i, d, b] => .ok (.ofUnits i d b)
      | .ok _ => .error (.wrongCount s) := by
  rw [← Text.splitAt_eq_splitOn]
  rfl

theorem length_splitOn_comma (s : String) :
    (s.toList.splitOn ',').length = s.toList.count ',' + 1 := by
  rw [← Text.splitAt_eq_splitOn, Text.length_splitAt]

theorem parseWeights_eq_error_badWeight_iff (s : String) (fault : NumeralFault) :
    parseWeights s = .error (.badWeight fault) ↔ FailsFirst (s.toList.splitOn ',') fault := by
  rw [parseWeights_eq, ← parsePieces_eq_error_iff]
  split <;> simp_all

theorem exists_parsePieces_eq_ok_iff (ps : List (List Char)) :
    (∃ ns, parsePieces ps = .ok ns) ↔ ∀ p ∈ ps, ∃ n, Spells p n := by
  simp only [parsePieces_eq_ok_iff]
  induction ps with
  | nil => simp
  | cons p ps ih =>
    rw [List.forall_mem_cons, ← ih]
    constructor
    · rintro ⟨_, _ | ⟨hp, hps⟩⟩
      exact ⟨⟨_, hp⟩, _, hps⟩
    · rintro ⟨⟨n, hp⟩, ns, hps⟩
      exact ⟨n :: ns, .cons hp hps⟩

theorem exists_failsFirst_iff (ps : List (List Char)) :
    (∃ fault, FailsFirst ps fault) ↔ ∃ p ∈ ps, ∀ n, ¬Spells p n := by
  have hall := exists_parsePieces_eq_ok_iff ps
  simp only [← parsePieces_eq_error_iff]
  cases hps : parsePieces ps with
  | error e =>
    have hbad : ¬∀ p ∈ ps, ∃ n, Spells p n := by simp [← hall, hps]
    push Not at hbad
    simpa using hbad
  | ok ns =>
    have hgood : ∀ p ∈ ps, ∃ n, Spells p n := hall.mp ⟨ns, hps⟩
    have hnone : ¬∃ p ∈ ps, ∀ n, ¬Spells p n := by
      push Not
      exact hgood
    simp [hnone]

theorem parseWeights_eq_ok_iff (s : String) (w : Weights) :
    parseWeights s = .ok w ↔ parsePieces (s.toList.splitOn ',') =
      .ok [w.insertion.units, w.deletion.units, w.substitution.units] := by
  rw [parseWeights_eq]
  constructor
  · intro h
    split at h
    · cases h
    · next hpieces =>
      cases h
      exact hpieces
    · cases h
  · intro h
    rw [h]
    rfl

theorem parseWeights_eq_error_wrongCount_iff (s given : String) :
    parseWeights s = .error (.wrongCount given) ↔
      given = s ∧ ∃ ns, parsePieces (s.toList.splitOn ',') = .ok ns ∧ ns.length ≠ 3 := by
  rw [parseWeights_eq]
  split
  · next hpieces => simp [hpieces]
  · next hpieces => simp [hpieces]
  · next ns hother hpieces =>
    have hlength : ns.length ≠ 3 := by
      intro h
      obtain ⟨i, d, b, rfl⟩ := List.length_eq_three.mp h
      exact hother i d b rfl
    simp [hpieces, hlength, eq_comm]

/-- Weights are three numerals between commas; what else a text may be has a fault of its own, and a
message that no other fault has. -/
structure FollowsGrammar (s : String) : Prop where
  accepted_iff : ∀ w, parseWeights s = .ok w ↔ ∃ p q r, s.toList.splitOn ',' = [p, q, r] ∧
    Spells p w.insertion.units ∧ Spells q w.deletion.units ∧ Spells r w.substitution.units
  badWeight_iff : ∀ fault, parseWeights s = .error (.badWeight fault) ↔
    FailsFirst (s.toList.splitOn ',') fault
  bad_iff : (∃ fault, parseWeights s = .error (.badWeight fault)) ↔
    ∃ p ∈ s.toList.splitOn ',', ∀ n, ¬Spells p n
  wrongCount_iff : ∀ given, parseWeights s = .error (.wrongCount given) ↔
    given = s ∧ (∀ p ∈ s.toList.splitOn ',', ∃ n, Spells p n) ∧ s.toList.count ',' ≠ 2
  message : ∀ e, parseWeights s = .error e → ∀ e' : WeightListFault, e'.message = e.message → e' = e

theorem parseWeights_followsGrammar (s : String) : FollowsGrammar s where
  accepted_iff w := by
    rw [parseWeights_eq_ok_iff, parsePieces_eq_ok_iff]
    constructor
    · intro h
      obtain ⟨p, ps, hp, hps, hpieces⟩ := List.forall₂_cons_right_iff.mp h
      obtain ⟨q, qs, hq, hqs, rfl⟩ := List.forall₂_cons_right_iff.mp hps
      obtain ⟨r, rs, hr, hrs, rfl⟩ := List.forall₂_cons_right_iff.mp hqs
      obtain rfl := List.forall₂_nil_right_iff.mp hrs
      exact ⟨p, q, r, hpieces, hp, hq, hr⟩
    · rintro ⟨p, q, r, hpieces, hp, hq, hr⟩
      rw [hpieces]
      exact .cons hp (.cons hq (.cons hr .nil))
  badWeight_iff := parseWeights_eq_error_badWeight_iff s
  bad_iff := by
    simp only [parseWeights_eq_error_badWeight_iff, exists_failsFirst_iff]
  wrongCount_iff given := by
    rw [parseWeights_eq_error_wrongCount_iff, ← exists_parsePieces_eq_ok_iff, ← exists_and_right]
    refine and_congr_right fun _ => exists_congr fun ns => and_congr_right fun hpieces => ?_
    have hlength := ((parsePieces_eq_ok_iff _ _).mp hpieces).length_eq
    rw [length_splitOn_comma] at hlength
    omega
  message _ _ _ h := message_injective h

example : parseWeights " +007,99999999999999999999x,y" = .error (.badWeight .tooLarge) := by
  decide

end Command
end Fidelity
