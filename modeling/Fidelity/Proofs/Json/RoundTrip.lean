import Fidelity.Json.Forms
import Fidelity.Proofs.Json.Members
import Fidelity.Proofs.Json.Written

/-!
# Writing and reading back

A value is read back if its reader reads the tree of what is written of it: a list item by item, and a
record as its members fill the draft. Main statement: whatever has a reader is read back from its compact
JSON, a configuration if its beta is.
-/
namespace Fidelity.Json

variable {α β σ : Type}

def ReadsBack (p : Reader α) (of : α → Value) (v : α) : Prop := decode p (of v).compact = .ok v

instance [DecidableEq α] (p : Reader α) (of : α → Value) (v : α) : Decidable (ReadsBack p of v) :=
  inferInstanceAs (Decidable (decode p (of v).compact = .ok v))

theorem ReadsAs.readsBack {p : Reader α} {of : α → Value} {v : α}
    (h : ReadsAs p (of v).tree (.ok v)) : ReadsBack p of v :=
  h.decode_eq (isTextOf_write .compact (of v))

theorem readsAs_ofNatural (n : UInt64) : ReadsAs .natural (Value.natural n).tree (.ok n) :=
  readsAs_natural (NumberForm.natural?_ofNat n)

theorem chars?_ofString (s : String) : (Literal.ofString s).chars? = some s.toList := by
  obtain ⟨cs, hcs, rfl⟩ := Option.map_eq_some_iff.mp (Literal.string?_ofString s)
  rw [hcs, String.toList_ofList]

theorem readsAs_ofText (s : String) : ReadsAs .text (Value.text s).tree (.ok s) := by
  have hread := (readsAs_chars (chars?_ofString s)).map String.ofList
  rwa [Except.map, String.ofList_toList] at hread

theorem readsAs_ofChar (c : Char) :
    ReadsAs .char (Value.text (String.singleton c)).tree (.ok c) := by
  have hchars := chars?_ofString (String.singleton c)
  rw [String.toList_singleton] at hchars
  exact (readsAs_chars hchars).filterMap _

theorem readsAs_ofName {ofName? : String → Option α} {name : String} {v : α}
    (h : ofName? name = some v) : ReadsAs (.choice ofName?) (Value.text name).tree (.ok v) := by
  apply readsAs_choice_text
  rwa [Literal.string?_ofString]

theorem readsAs_ofMap {p : Reader α} {of : β → Value} {f : β → α}
    (h : ∀ v, ReadsAs p (of v).tree (.ok (f v))) (vs : List β) :
    ReadsAs (.listOf p) (Value.list (vs.map of)).tree (.ok (vs.map f)) := by
  apply readsAs_list
  rw [itemTrees_eq_map, List.forall₂_map_left_iff, List.forall₂_map_left_iff,
    List.forall₂_map_right_iff, List.forall₂_same]
  exact fun v _ => h v

theorem readsAs_ofList {p : Reader α} {of : α → Value} (h : ∀ v, ReadsAs p (of v).tree (.ok v))
    (vs : List α) : ReadsAs (.listOf p) (Value.list (vs.map of)).tree (.ok vs) := by
  simpa using readsAs_ofMap (f := id) h vs

theorem Takes.cons_written {fields : List (Field σ)} {key : String} {v : Value}
    {ms : List (String × Value)} {f : Field σ} {set : σ → σ} {d : σ} {r : Except Fault σ}
    (hfind : fields.find? (fun f => f.name == key) = some f) (hgiven : f.isGiven d = false)
    (hread : ReadsAs f.reader v.tree (.ok set)) (hrest : Takes fields (memberTrees ms) (set d) r) :
    Takes fields (memberTrees ((key, v) :: ms)) d r :=
  .step (.known (Literal.string?_ofString key) hfind hgiven hread) hrest

theorem readsAs_ofRecord {fields : List (Field σ)} {start d : σ} {finish : σ → Option β}
    {ms : List (String × Value)} {v : β} (h : Takes fields (memberTrees ms) start (.ok d))
    (hfinish : finish d = some v) :
    ReadsAs (.record fields start finish) (Value.object ms).tree (.ok v) := by
  have hread := readsAs_record h finish
  rwa [Except.bind, hfinish] at hread

theorem readsAs_ofUnit (u : Edit.TextUnit) : ReadsAs unitReader (ofUnit u).tree (.ok u) := by
  apply readsAs_ofName
  cases u <;> rfl

theorem readsAs_ofMeasure (m : Edit.Measure) : ReadsAs measureReader (ofMeasure m).tree (.ok m) := by
  apply readsAs_ofName
  cases m <;> rfl

theorem readsAs_ofPreparation (p : Text.Preparation) :
    ReadsAs preparationReader (ofPreparation p).tree (.ok p) := by
  apply readsAs_ofName
  cases p <;> rfl

theorem readsAs_ofChars (cs : List Char) : ReadsAs charsReader (ofChars cs).tree (.ok cs) :=
  readsAs_ofList readsAs_ofChar cs

theorem readsAs_ofWeights (w : Edit.Weights) : ReadsAs weightsReader (ofWeights w).tree (.ok w) := by
  apply readsAs_ofRecord
  · apply Takes.cons_written rfl rfl ((readsAs_ofNatural _).map _)
    apply Takes.cons_written rfl rfl ((readsAs_ofNatural _).map _)
    exact .cons_written rfl rfl ((readsAs_ofNatural _).map _) (.nil _)
  · rfl

theorem readsAs_ofScorer (s : Edit.Scorer) : ReadsAs scorerReader (ofScorer s).tree (.ok s) := by
  apply readsAs_ofRecord
  · apply Takes.cons_written rfl rfl ((readsAs_ofWeights _).map _)
    exact .cons_written rfl rfl ((readsAs_ofUnit _).map _) (.nil _)
  · rfl

theorem readsAs_ofTokenizer (t : Tokenizer) :
    ReadsAs tokenizerReader (ofTokenizer t).tree (.ok t) :=
  readsAs_ofRecord (.cons_written rfl rfl ((readsAs_ofChars _).map _) (.nil _)) rfl

theorem readsAs_ofPair (p : Pair) : ReadsAs pairReader (ofPair p).tree (.ok p) := by
  apply readsAs_ofRecord
  · apply Takes.cons_written rfl rfl ((readsAs_ofText _).map _)
    exact .cons_written rfl rfl ((readsAs_ofText _).map _) (.nil _)
  · rfl

theorem readsAs_real_null : ReadsAs .real (.word .null) (.error .unfit) := by
  refine readsAs_of_token rfl rfl fun s rest _ hs => ?_
  simp [Reader.real, Reader.map, Reader.number, Reader.numberAt, hs, mismatch, takeWord, Except.map]

/-- A finite double is read as some number, and whatever that is, decoding has found it. -/
theorem readsAs_ofReal {x : Float} (h : ReadsBack .real .real x) :
    ReadsAs .real (Value.real x).tree (.ok x) := by
  have hread : ∃ r, ReadsAs .real (Value.real x).tree r := by
    rw [Value.tree, Tree.ofReal]
    cases NumberForm.ofReal? x with
    | none => exact ⟨_, readsAs_real_null⟩
    | some n => exact ⟨_, (readsAs_number n).map Number.toFloat⟩
  obtain ⟨r, hr⟩ := hread
  rwa [(hr.decode_eq (isTextOf_write .compact (.real x))).symm.trans h] at hr

theorem readsAs_ofConfig {c : Config Float} (h : ReadsBack .real .real c.beta) :
    ReadsAs configReader (ofConfig c).tree (.ok c) := by
  apply readsAs_ofRecord
  · apply Takes.cons_written rfl rfl ((readsAs_ofWeights _).map _)
    apply Takes.cons_written rfl rfl ((readsAs_ofUnit _).map _)
    apply Takes.cons_written rfl rfl ((readsAs_ofList readsAs_ofPreparation _).map _)
    apply Takes.cons_written rfl rfl ((readsAs_ofChars _).map _)
    exact .cons_written rfl rfl ((readsAs_ofReal h).map _) (.nil _)
  · rfl

/-- A beta with many digits need not be read back, and one that is not finite is written as `null`. -/
theorem readsBack_of_form :
    (∀ w, ReadsBack weightsReader ofWeights w) ∧
      (∀ u, ReadsBack unitReader ofUnit u) ∧
      (∀ m, ReadsBack measureReader ofMeasure m) ∧
      (∀ p, ReadsBack preparationReader ofPreparation p) ∧
      (∀ s, ReadsBack scorerReader ofScorer s) ∧
      (∀ t, ReadsBack tokenizerReader ofTokenizer t) ∧
      (∀ p, ReadsBack pairReader ofPair p) ∧
      ∀ c : Config Float, ReadsBack .real .real c.beta → ReadsBack configReader ofConfig c := by
  refine ⟨?_, ?_, ?_, ?_, ?_, ?_, ?_, ?_⟩
  · exact fun w => (readsAs_ofWeights w).readsBack
  · exact fun u => (readsAs_ofUnit u).readsBack
  · exact fun m => (readsAs_ofMeasure m).readsBack
  · exact fun p => (readsAs_ofPreparation p).readsBack
  · exact fun s => (readsAs_ofScorer s).readsBack
  · exact fun t => (readsAs_ofTokenizer t).readsBack
  · exact fun p => (readsAs_ofPair p).readsBack
  · exact fun c hbeta => (readsAs_ofConfig hbeta).readsBack

example : ¬ReadsBack .real .real (1.0000274129139415 : Float) := by
  decide +kernel

def oddConfig : Config Float where
  weights := ⟨⟨0⟩, ⟨18446744073709551615⟩, ⟨7⟩⟩
  unit := .grapheme
  preparations := [.nfkc, .lowercase, .nfkc]
  keptPunctuation := ['"', '\\', '\x1f', '\n', '\x7f', '𝄞']
  beta := 0.1

theorem readsBack_oddConfig :
    ReadsBack .real .real oddConfig.beta ∧ ReadsBack configReader ofConfig oddConfig := by
  have hbeta : ReadsBack .real .real oddConfig.beta := by decide +kernel
  exact ⟨hbeta, readsBack_of_form.2.2.2.2.2.2.2 oddConfig hbeta⟩

end Fidelity.Json
