import Fidelity.Proofs.Text.LetterCase

/-!
# Texts in lower case

A character in lower case is one that lower case leaves as it is, wherever it stands. Main
statements: each character of a text has the form that its run of the table gives it, a capital sigma
that of its place; and all these forms are in lower case, so a second time lower case changes nothing.
-/
namespace Fidelity.Unicode

/-- A cased character, with only case-ignorable ones in front of it. -/
def BeginsCased (s : List Char) : Prop :=
  ∃ skipped c rest, s = skipped ++ c :: rest ∧ (∀ d ∈ skipped, isCaseIgnorable d = true) ∧
    isCaseIgnorable c = false ∧ isCased c = true

theorem meetsCased_iff (s : List Char) : meetsCased s = true ↔ BeginsCased s := by
  unfold BeginsCased
  induction s with
  | nil => simp [meetsCased]
  | cons d s ih =>
    rw [meetsCased]
    cases hd : isCaseIgnorable d with
    | true =>
      rw [if_pos rfl, ih]
      constructor
      · rintro ⟨skipped, c, rest, rfl, hskipped, hc⟩
        exact ⟨d :: skipped, c, rest, rfl, List.forall_mem_cons.mpr ⟨hd, hskipped⟩, hc⟩
      · rintro ⟨_ | ⟨e, skipped⟩, c, rest, heq, hskipped, hc⟩
        · obtain ⟨rfl, -⟩ := List.cons.inj heq
          simp [hd] at hc
        · obtain ⟨rfl, rfl⟩ := List.cons.inj heq
          exact ⟨skipped, c, rest, rfl, (List.forall_mem_cons.mp hskipped).2, hc⟩
    | false =>
      rw [if_neg Bool.false_ne_true]
      constructor
      · exact fun hcased => ⟨[], d, s, rfl, List.forall_mem_nil _, hd, hcased⟩
      · rintro ⟨_ | ⟨e, skipped⟩, c, rest, heq, hskipped, hc⟩
        · obtain ⟨rfl, -⟩ := List.cons.inj heq
          exact hc.2
        · obtain ⟨rfl, -⟩ := List.cons.inj heq
          simp [hd] at hskipped

theorem lowerSigma_eq_final_iff {before after : List Char} :
    lowerSigma before after = 'ς' ↔ BeginsCased before ∧ ¬BeginsCased after := by
  rw [lowerSigma, ← meetsCased_iff, ← meetsCased_iff]
  split_ifs with h
  · simpa using h
  · exact iff_of_false (by decide) (by simpa using h)

theorem lowerSigma_eq_or (before after : List Char) :
    lowerSigma before after = 'ς' ∨ lowerSigma before after = 'σ' := by
  rw [lowerSigma]
  split_ifs
  · exact .inl rfl
  · exact .inr rfl

def formAt (before s : List Char) (k : Fin s.length) : List Char :=
  if s[k] = 'Σ' then [lowerSigma ((s.take k).reverse ++ before) (s.drop (k + 1))]
  else lowerChar s[k]

theorem lowerFrom_eq_flatMap (before s : List Char) :
    lowerFrom before s = (List.finRange s.length).flatMap (formAt before s) := by
  induction s generalizing before with
  | nil => rfl
  | cons c s ih =>
    have hsplit : List.finRange (c :: s).length = 0 :: (List.finRange s.length).map Fin.succ :=
      List.finRange_succ
    have hlater (k : Fin s.length) : formAt before (c :: s) k.succ = formAt (c :: before) s k := by
      simp [formAt]
    rw [lowerFrom, ih, hsplit, List.flatMap_cons, List.flatMap_map]
    simp only [hlater]
    rfl

/-- The capital sigma apart, the form of a character does not depend on its surroundings. -/
structure IsLower (c : Char) : Prop where
  ne_sigma : c ≠ 'Σ'
  form : lowerChar c = [c]

theorem lowerFrom_of_isLower {s : List Char} (h : ∀ c ∈ s, IsLower c) (before : List Char) :
    lowerFrom before s = s := by
  induction s generalizing before with
  | nil => rfl
  | cons c rest ih =>
    rw [List.forall_mem_cons] at h
    rw [lowerFrom_cons_of_ne_sigma h.1.ne_sigma, h.1.form, ih h.2]
    rfl

theorem isLower_of_isWhiteSpace {c : Char} (hc : isWhiteSpace c = true) : IsLower c :=
  ⟨ne_sigma_of_isWhiteSpace hc, lowerChar_of_isWhiteSpace hc⟩

theorem lowerCode_eq_or (n : Nat) (runs : List CaseRun) :
    lowerCode n runs = n ∨
      ∃ r ∈ runs, r.covers n = true ∧ lowerCode n runs = r.image + (n - r.first) := by
  induction runs with
  | nil => exact .inl rfl
  | cons r rest ih =>
    rw [lowerCode]
    by_cases hlast : n ≤ r.last
    · rw [if_pos hlast]
      by_cases hcovers : r.covers n = true
      · exact .inr ⟨r, List.mem_cons_self, hcovers, if_pos hcovers⟩
      · exact .inl (if_neg hcovers)
    · rw [if_neg hlast]
      exact ih.imp_right fun ⟨s, hs, hcode⟩ => ⟨s, List.mem_cons_of_mem r hs, hcode⟩

theorem pairwise_lowerRuns : lowerRuns.Pairwise fun r s => r.last < s.first := by decide +kernel

theorem lowerCode_of_covers {n : ℕ} {r : CaseRun} {runs : List CaseRun}
    (hruns : runs.Pairwise fun r s => r.last < s.first) (hr : r ∈ runs) (h : r.covers n = true) :
    lowerCode n runs = r.image + (n - r.first) := by
  have hends : r.first ≤ n ∧ n ≤ r.last := by
    simp only [CaseRun.covers, Bool.and_eq_true, decide_eq_true_eq] at h
    exact h.1
  induction runs with
  | nil => cases hr
  | cons s runs ih =>
    rw [List.pairwise_cons] at hruns
    obtain rfl | hr := List.mem_cons.mp hr
    · rw [lowerCode, if_pos hends.2, if_pos h]
    · have hbelow : ¬n ≤ s.last := by
        have hapart := hruns.1 r hr
        omega
      rw [lowerCode, if_neg hbelow, ih hruns.2 hr]

theorem lowerChar_of_covers {c : Char} {r : CaseRun} (hr : r ∈ lowerRuns)
    (h : r.covers c.toNat = true) : lowerChar c = [Char.ofNat (r.image + (c.toNat - r.first))] := by
  have hdotted : c ≠ 'İ' := by
    rintro rfl
    revert r
    decide +kernel
  rw [lowerChar, if_neg hdotted, lowerCode_of_covers pairwise_lowerRuns hr h]

theorem lowerChar_of_isUpper {c : Char} (h : c.isUpper = true) : lowerChar c = [c.toLower] := by
  have hends : 65 ≤ c.toNat ∧ c.toNat ≤ 90 := by
    simpa [Char.isUpper, UInt32.le_iff_toNat_le] using h
  have hcovers : CaseRun.covers ⟨0x41, 0x5A, 1, 0x61⟩ c.toNat = true := by
    simp [CaseRun.covers, hends, Nat.mod_one]
  have hcode : c.toLower.toNat = 0x61 + (c.toNat - 0x41) := by
    have hupper : c.val ≥ 'A'.val ∧ c.val ≤ 'Z'.val := by simpa [Char.isUpper] using h
    have hsum : (c.val + 32).toNat = c.toNat + 32 := by
      rw [UInt32.toNat_add, Char.toNat_val]
      change (c.toNat + 32) % 4294967296 = _
      omega
    rw [Char.toLower, dif_pos hupper]
    exact hsum.trans (by omega)
  rw [lowerChar_of_covers (by decide) hcovers, ← hcode, Char.ofNat_toNat]

structure IsLowerCode (n : Nat) : Prop where
  valid : n.isValidChar
  ne_sigma : n ≠ 'Σ'.toNat
  ne_dotted : n ≠ 'İ'.toNat
  fixed : lowerCode n lowerRuns = n

theorem lowerCode_dropWhile {a n : Nat} (h : a ≤ n) (runs : List CaseRun) :
    lowerCode n (runs.dropWhile fun r => r.last < a) = lowerCode n runs := by
  induction runs with
  | nil => rfl
  | cons r rest ih =>
    by_cases hlast : r.last < a
    · have hbelow : ¬n ≤ r.last := by omega
      rw [List.dropWhile_cons_of_pos (by simpa using hlast), ih, lowerCode, if_neg hbelow]
    · rw [List.dropWhile_cons_of_neg (by simpa using hlast)]

-- The runs below an image are passed over once for all characters of the run that has it.
theorem images_decided : ∀ r ∈ lowerRuns, ∀ k < r.last + 1 - r.first, k % r.step = 0 →
    (r.image + k).isValidChar ∧ r.image + k ≠ 'Σ'.toNat ∧ r.image + k ≠ 'İ'.toNat ∧
      lowerCode (r.image + k) (lowerRuns.dropWhile fun s => s.last < r.image) = r.image + k := by
  decide +kernel

theorem isLowerCode_image {r : CaseRun} (hr : r ∈ lowerRuns) {n : Nat}
    (hcovers : r.covers n = true) : IsLowerCode (r.image + (n - r.first)) := by
  simp only [CaseRun.covers, Bool.and_eq_true, decide_eq_true_eq, beq_iff_eq] at hcovers
  obtain ⟨⟨hfirst, hlast⟩, hstep⟩ := hcovers
  obtain ⟨hvalid, hsigma, hdotted, hfixed⟩ := images_decided r hr _ (by omega) hstep
  rw [lowerCode_dropWhile (Nat.le_add_right _ _)] at hfixed
  exact ⟨hvalid, hsigma, hdotted, hfixed⟩

theorem IsLowerCode.isLower {n : Nat} (h : IsLowerCode n) : IsLower (Char.ofNat n) := by
  have hcode : (Char.ofNat n).toNat = n := by rw [Char.toNat_ofNat, if_pos h.valid]
  have hdotted : Char.ofNat n ≠ 'İ' := fun heq => h.ne_dotted (hcode ▸ congrArg Char.toNat heq)
  constructor
  · exact fun heq => h.ne_sigma (hcode ▸ congrArg Char.toNat heq)
  · rw [lowerChar, if_neg hdotted, hcode, h.fixed]

theorem isLower_of_mem_lowerChar {c d : Char} (hc : c ≠ 'Σ') (hd : d ∈ lowerChar c) :
    IsLower d := by
  rw [lowerChar] at hd
  by_cases hdotted : c = 'İ'
  · rw [if_pos hdotted, List.mem_cons, List.mem_singleton] at hd
    rcases hd with rfl | rfl
    · exact ⟨by decide, by decide⟩
    · exact ⟨by decide, by decide⟩
  · rw [if_neg hdotted, List.mem_singleton] at hd
    subst hd
    rcases lowerCode_eq_or c.toNat lowerRuns with hsame | ⟨r, hr, hcovers, himage⟩
    · rw [hsame, Char.ofNat_toNat]
      exact ⟨hc, by rw [lowerChar, if_neg hdotted, hsame, Char.ofNat_toNat]⟩
    · rw [himage]
      exact (isLowerCode_image hr hcovers).isLower

theorem isLower_lowerSigma (before after : List Char) : IsLower (lowerSigma before after) := by
  rcases lowerSigma_eq_or before after with h | h <;> rw [h]
  · exact ⟨by decide, by decide⟩
  · exact ⟨by decide, by decide⟩

theorem isLower_of_mem_lowercase {s : List Char} {d : Char} (hd : d ∈ lowercase s) :
    IsLower d := by
  rw [lowercase, lowerFrom_eq_flatMap, List.mem_flatMap] at hd
  obtain ⟨k, -, hd⟩ := hd
  rw [formAt] at hd
  split_ifs at hd with hc
  · rw [List.mem_singleton] at hd
    exact hd ▸ isLower_lowerSigma _ _
  · exact isLower_of_mem_lowerChar hc hd

theorem lowercase_lowercase (s : List Char) : lowercase (lowercase s) = lowercase s :=
  lowerFrom_of_isLower (fun _ hc => isLower_of_mem_lowercase hc) []

end Fidelity.Unicode
