import Fidelity.Proofs.Json.RoundTrip

/-!
# Reports as they are written

What is written of a report can be read again, the doubles in it digit by digit. Main statement: a text
that is written of a report, or of a list of reports, is JSON, and a reader of reports finds in it the
counts and the words of each report, and for every double a numeral that stands for it.
-/
namespace Fidelity.Json

open Float.Model (UnpackedFloat)

variable {α : Type}

namespace Reader

def numeralAt (s : List Char) : Outcome (Option Numeral) :=
  match dropBlanks s with
  | [] => .error .ended
  | c :: r =>
    if c = 'n' then (takeWord ['u', 'l', 'l'] r).map (none, ·)
    else (readNumeral .ended (c :: r)).map fun read => (some read.1, read.2)

theorem length_lt_of_numeralAt {s rest : List Char} {n : Option Numeral}
    (h : numeralAt s = .ok (n, rest)) : rest.length < s.length := by
  unfold numeralAt at h
  split at h
  · cases h
  · next c r hs =>
    have hr := length_lt_of_dropBlanks hs
    have hle := length_dropBlanks_le s
    split_ifs at h
    · cases hword : takeWord ['u', 'l', 'l'] r with
      | error e => simp [hword, Except.map] at h
      | ok left =>
        rw [hword] at h
        cases h
        exact (length_le_of_takeWord hword).trans_lt hr
    · cases hread : readNumeral .ended (c :: r) with
      | error e => simp [hread, Except.map] at h
      | ok read =>
        rw [hread] at h
        cases h
        rw [hs] at hle
        exact (length_lt_of_readNumeral hread).trans_le hle

def numeral : Reader (Option Numeral) := ⟨numeralAt, fun _ _ _ => length_lt_of_numeralAt⟩

end Reader

structure DeltaDraft where
  word : Option String := none
  count : Option UInt64 := none

def deltaFields : List (Field DeltaDraft) := [
  .of "word" (·.word) (fun v d => { d with word := some v }) .text,
  .of "count" (·.count) (fun v d => { d with count := some v }) .natural]

def deltaReader : Reader Delta :=
  .record deltaFields {} fun d => do some ⟨← d.word, ← d.count⟩

structure ComparisonDraft where
  matched : Option UInt64 := none
  outputTotal : Option UInt64 := none
  sourceTotal : Option UInt64 := none
  missing : Option (List Delta) := none
  extra : Option (List Delta) := none

def comparisonFields : List (Field ComparisonDraft) := [
  .of "matched" (·.matched) (fun v d => { d with matched := some v }) .natural,
  .of "output_total" (·.outputTotal) (fun v d => { d with outputTotal := some v }) .natural,
  .of "source_total" (·.sourceTotal) (fun v d => { d with sourceTotal := some v }) .natural,
  .of "missing" (·.missing) (fun v d => { d with missing := some v }) (.listOf deltaReader),
  .of "extra" (·.extra) (fun v d => { d with extra := some v }) (.listOf deltaReader)]

def comparisonReader : Reader Comparison :=
  .record comparisonFields {} fun d => do
    some ⟨← d.matched, ← d.outputTotal, ← d.sourceTotal, ← d.missing, ← d.extra⟩

structure ReportDraft where
  score : Option (Option Numeral) := none
  distance : Option UInt64 := none
  outputLength : Option UInt64 := none
  sourceLength : Option UInt64 := none
  wordPrecision : Option (Option Numeral) := none
  wordRecall : Option (Option Numeral) := none
  wordFScore : Option (Option Numeral) := none
  words : Option Comparison := none

def ReportDraft.finish (d : ReportDraft) : Option (Report (Option Numeral)) := do
  some {
    score := ← d.score
    distance := ⟨← d.distance⟩
    outputLength := (← d.outputLength).toNat
    sourceLength := (← d.sourceLength).toNat
    wordPrecision := ← d.wordPrecision
    wordRecall := ← d.wordRecall
    wordFScore := ← d.wordFScore
    words := ← d.words }

def reportFields : List (Field ReportDraft) := [
  .of "score" (·.score) (fun v d => { d with score := some v }) .numeral,
  .of "distance" (·.distance) (fun v d => { d with distance := some v }) .natural,
  .of "output_len" (·.outputLength) (fun v d => { d with outputLength := some v }) .natural,
  .of "source_len" (·.sourceLength) (fun v d => { d with sourceLength := some v }) .natural,
  .of "word_precision" (·.wordPrecision) (fun v d => { d with wordPrecision := some v }) .numeral,
  .of "word_recall" (·.wordRecall) (fun v d => { d with wordRecall := some v }) .numeral,
  .of "word_f_score" (·.wordFScore) (fun v d => { d with wordFScore := some v }) .numeral,
  .of "words" (·.words) (fun v d => { d with words := some v }) comparisonReader]

def reportReader : Reader (Report (Option Numeral)) := .record reportFields {} ReportDraft.finish

/-- The numerals that are read stand for the doubles of the report, and all else is that of the report.
The lengths are those that 64 bits hold. -/
structure TellsReport (r : Report Float) (n : Report (Option Numeral)) : Prop where
  score : TellsReal r.score.toModel.unpack n.score
  distance : n.distance = r.distance
  outputLength : n.outputLength = r.outputLength % 2 ^ 64
  sourceLength : n.sourceLength = r.sourceLength % 2 ^ 64
  wordPrecision : TellsReal r.wordPrecision.toModel.unpack n.wordPrecision
  wordRecall : TellsReal r.wordRecall.toModel.unpack n.wordRecall
  wordFScore : TellsReal r.wordFScore.toModel.unpack n.wordFScore
  words : n.words = r.words

/-- The text is JSON, and what `p` reads in it is as it should be. -/
def Shows (p : Reader α) (P : α → Prop) (s : String) : Prop :=
  (∃ t, IsTextOf t s) ∧ ∃ v, decode p s = .ok v ∧ P v

section

variable {p : Reader α} {P : α → Prop} {v : Value} {u : α}

theorem shows_pretty (h : ReadsAs p v.tree (.ok u)) (hu : P u) : Shows p P v.pretty :=
  ⟨⟨_, isTextOf_write (.indented 0) v⟩, u, h.decode_eq (isTextOf_write (.indented 0) v), hu⟩

end

def shownReal (x : Float) : Option Numeral := (NumberForm.ofReal? x).map NumberForm.numeral

theorem readsAs_numeral (n : NumberForm) : ReadsAs .numeral (.number n) (.ok (some n.numeral)) := by
  obtain ⟨c, r, htext, hc⟩ := n.exists_text_eq
  have hblank : isBlank c = false := by
    rcases hc with rfl | hc
    · rfl
    · exact isBlank_of_isDigit hc
  have hnull : c ≠ 'n' := by
    rintro rfl
    rcases hc with hc | hc <;> cases hc
  refine readsAs_of_token (by rw [Tree.tokens, htext]) hblank fun s rest hrest hs => ?_
  have hread := readNumeral_append hrest (n.readNumeral_text .ended)
  rw [htext, List.cons_append] at hread
  simp [Reader.numeral, Reader.numeralAt, hs, hnull, hread, Except.map]

theorem readsAs_numeral_null : ReadsAs .numeral (.word .null) (.ok none) := by
  refine readsAs_of_token rfl rfl fun s rest _ hs => ?_
  simp [Reader.numeral, Reader.numeralAt, hs, takeWord, Except.map]

theorem readsAs_shownReal (x : Float) :
    ReadsAs .numeral (Value.real x).tree (.ok (shownReal x)) := by
  rw [Value.tree, Tree.ofReal, shownReal]
  cases NumberForm.ofReal? x with
  | none => exact readsAs_numeral_null
  | some n => exact readsAs_numeral n

theorem readsAs_ofDelta (d : Delta) : ReadsAs deltaReader (ofDelta d).tree (.ok d) := by
  apply readsAs_ofRecord
  · apply Takes.cons_written rfl rfl ((readsAs_ofText _).map _)
    exact .cons_written rfl rfl ((readsAs_ofNatural _).map _) (.nil _)
  · rfl

theorem readsAs_ofComparison (c : Comparison) :
    ReadsAs comparisonReader (ofComparison c).tree (.ok c) := by
  apply readsAs_ofRecord
  · apply Takes.cons_written rfl rfl ((readsAs_ofNatural _).map _)
    apply Takes.cons_written rfl rfl ((readsAs_ofNatural _).map _)
    apply Takes.cons_written rfl rfl ((readsAs_ofNatural _).map _)
    apply Takes.cons_written rfl rfl ((readsAs_ofList readsAs_ofDelta _).map _)
    exact .cons_written rfl rfl ((readsAs_ofList readsAs_ofDelta _).map _) (.nil _)
  · rfl

def shownReport (r : Report Float) : Report (Option Numeral) where
  score := shownReal r.score
  distance := r.distance
  outputLength := (UInt64.ofNat r.outputLength).toNat
  sourceLength := (UInt64.ofNat r.sourceLength).toNat
  wordPrecision := shownReal r.wordPrecision
  wordRecall := shownReal r.wordRecall
  wordFScore := shownReal r.wordFScore
  words := r.words

theorem readsAs_shownReport (r : Report Float) :
    ReadsAs reportReader (ofReport r).tree (.ok (shownReport r)) := by
  apply readsAs_ofRecord
  · apply Takes.cons_written rfl rfl ((readsAs_shownReal _).map _)
    apply Takes.cons_written rfl rfl ((readsAs_ofNatural _).map _)
    apply Takes.cons_written rfl rfl ((readsAs_ofNatural _).map _)
    apply Takes.cons_written rfl rfl ((readsAs_ofNatural _).map _)
    apply Takes.cons_written rfl rfl ((readsAs_shownReal _).map _)
    apply Takes.cons_written rfl rfl ((readsAs_shownReal _).map _)
    apply Takes.cons_written rfl rfl ((readsAs_shownReal _).map _)
    exact .cons_written rfl rfl ((readsAs_ofComparison _).map _) (.nil _)
  · rfl

theorem tellsReport_shownReport (r : Report Float) : TellsReport r (shownReport r) where
  score := tellsReal_ofReal? r.score
  distance := rfl
  outputLength := UInt64.toNat_ofNat'
  sourceLength := UInt64.toNat_ofNat'
  wordPrecision := tellsReal_ofReal? r.wordPrecision
  wordRecall := tellsReal_ofReal? r.wordRecall
  wordFScore := tellsReal_ofReal? r.wordFScore
  words := rfl

end Fidelity.Json
