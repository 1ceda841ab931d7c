import Fidelity.Decimal.Fixed
import Fidelity.Proofs.Json.RealText

/-!
# Numbers with a fixed count of places

Main statement: what is written of a finite double with some places is the nearest number with as many
places, the one with the even last digit if there are two.
-/
open Float.Model (UnpackedFloat)
open Float.Model.UnpackedFloat

namespace Fidelity.Decimal

open Json (Digits NumberForm Numeral)

/-- A whole number at most half a unit away, and an even one if it is just that. -/
def IsNearest (n : ℕ) (x : ℚ) : Prop := |n - x| ≤ 1 / 2 ∧ (|n - x| = 1 / 2 → Even n)

theorem isNearest_of_lt {n : ℕ} {x : ℚ} (h : |n - x| < 1 / 2) : IsNearest n x :=
  ⟨h.le, fun heq => absurd heq h.ne⟩

theorem isNearest_roundHalfEven (numerator : ℕ) {denominator : ℕ} (h : 0 < denominator) :
    IsNearest (roundHalfEven numerator denominator) (numerator / denominator) := by
  have hd : (0 : ℚ) < denominator := by exact_mod_cast h
  have hsplit : (numerator : ℚ) / denominator =
      (numerator / denominator : ℕ) + (numerator % denominator : ℕ) / denominator := by
    rw [div_eq_iff hd.ne', add_mul, div_mul_cancel₀ _ hd.ne', mul_comm]
    exact_mod_cast (Nat.div_add_mod numerator denominator).symm
  have hlow : 2 * (numerator % denominator) < denominator ↔
      ((numerator % denominator : ℕ) / denominator : ℚ) < 1 / 2 := by
    rw [div_lt_div_iff₀ hd two_pos, one_mul, mul_comm]
    exact_mod_cast Iff.rfl
  have hhigh : denominator < 2 * (numerator % denominator) ↔
      1 / 2 < ((numerator % denominator : ℕ) / denominator : ℚ) := by
    rw [div_lt_div_iff₀ two_pos hd, one_mul, mul_comm]
    exact_mod_cast Iff.rfl
  have hpart : 0 ≤ ((numerator % denominator : ℕ) / denominator : ℚ) := by positivity
  have hpart' : ((numerator % denominator : ℕ) / denominator : ℚ) < 1 := by
    rw [div_lt_one hd]
    exact_mod_cast Nat.mod_lt numerator h
  unfold roundHalfEven
  dsimp only
  rw [hsplit]
  simp only [hlow, hhigh]
  generalize numerator / denominator = below
  generalize ((numerator % denominator : ℕ) / denominator : ℚ) = part at *
  split_ifs with hless hmore heven
  · exact isNearest_of_lt (abs_lt.mpr ⟨by linarith, by linarith⟩)
  · refine isNearest_of_lt (abs_lt.mpr ⟨?_, ?_⟩) <;> push_cast <;> linarith
  · obtain rfl : part = 1 / 2 := le_antisymm (not_lt.mp hmore) (not_lt.mp hless)
    exact ⟨by norm_num, fun _ => Nat.even_iff.mpr heven⟩
  · obtain rfl : part = 1 / 2 := le_antisymm (not_lt.mp hmore) (not_lt.mp hless)
    refine ⟨?_, fun _ => (Nat.not_even_iff_odd.mp (mt Nat.even_iff.mp heven)).add_one⟩
    push_cast
    norm_num

/-- The digits of `v` with so many places. -/
structure IsFixed (places : ℕ) (negative : Bool) (v : ℚ) (n : Numeral) : Prop where
  negative : n.negative = negative
  length : n.places.length = places
  plain : n.exponent = none
  nearest : IsNearest n.digits (v * 10 ^ places)

inductive ShowsFixed (places : ℕ) : UnpackedFloat → String → Prop
  | notANumber : ShowsFixed places .notANumber "NaN"
  | infinity (s : Sign) : ShowsFixed places (.infinity s) (if isMinus s then "-inf" else "inf")
  | zero {s : Sign} {n : NumberForm} {text : String} (htext : text.toList = n.text)
      (h : IsFixed places (isMinus s) 0 n.numeral) : ShowsFixed places (.zero s) text
  | finite {s : Sign} {m : ℕ} {e : ℤ} {hm : 0 < m} {n : NumberForm} {text : String}
      (htext : text.toList = n.text) (h : IsFixed places (isMinus s) (m * 2 ^ e) n.numeral) :
      ShowsFixed places (.finite s m e hm) text

section

variable {places : ℕ} (hplaces : 0 < places) (negative : Bool)

def fixedForm (places : ℕ) (negative : Bool) (n : ℕ) : NumberForm where
  negative := negative
  whole := .ofNat (n / 10 ^ places)
  leading := Digits.length_ofNat_of_head?
  fraction := some <|
    (Digits.ofNat (n % 10 ^ places)).withZeros (places - digitCount (n % 10 ^ places)) 0
  exponent := none

theorem text_fixedForm (m : ℕ) (q : ℤ) :
    (fixedForm places negative (roundHalfEven (scaleBinary (m * 10 ^ places) q).1
      (scaleBinary (m * 10 ^ places) q).2)).text =
      (if negative then ['-'] else []) ++ fixedText places m q := by
  simp only [NumberForm.text, NumberForm.fractionText, NumberForm.exponentText, fixedForm,
    Option.elim_some, Option.elim_none, Digits.withZeros, List.replicate_zero, List.append_nil]
  rfl

include hplaces in
theorem isFixed_fixedForm (m : ℕ) (q : ℤ) :
    IsFixed places negative (m * 2 ^ q) (fixedForm places negative (roundHalfEven
      (scaleBinary (m * 10 ^ places) q).1 (scaleBinary (m * 10 ^ places) q).2)).numeral := by
  have hnearest := isNearest_roundHalfEven (scaleBinary (m * 10 ^ places) q).1
    (Interval.scaleBinary_pos (m * 10 ^ places) q)
  rw [Interval.scaleBinary_div] at hnearest
  generalize roundHalfEven _ _ = n at hnearest ⊢
  have hshort : digitCount (n % 10 ^ places) ≤ places :=
    (Nat.length_toDigits_le_iff (by decide) hplaces).mpr (Nat.mod_lt _ (Nat.pow_pos (by decide)))
  have hlength : (fixedForm places negative n).numeral.places.length = places := by
    change (Digits.withZeros _ _ _).chars.length = places
    rw [Digits.length_withZeros, Digits.length_ofNat, Nat.add_zero, Nat.sub_add_cancel hshort]
  have hwhole : Nat.ofDigitChars 10 (fixedForm places negative n).numeral.whole 0 =
      n / 10 ^ places := Digits.value_ofNat _
  have hfraction : Nat.ofDigitChars 10 (fixedForm places negative n).numeral.places 0 =
      n % 10 ^ places := by
    have hvalue := Digits.value_withZeros (places - digitCount (n % 10 ^ places)) 0
      (.ofNat (n % 10 ^ places))
    rwa [Digits.value_ofNat, pow_zero, Nat.mul_one] at hvalue
  have hdigits : (fixedForm places negative n).numeral.digits = n := by
    rw [Numeral.digits, Nat.ofDigitChars_append, Nat.ofDigitChars_eq_ofDigitChars_zero, hwhole,
      hfraction, hlength, Nat.div_add_mod]
  refine ⟨rfl, hlength, rfl, ?_⟩
  rw [hdigits]
  convert hnearest using 1
  push_cast
  ring

include hplaces in
theorem showsFixed_fixed (x : Float) : ShowsFixed places x.toModel.unpack (fixed places x) := by
  have hparts := hasParts_ofFloat x
  generalize x.toModel.unpack = u at hparts ⊢
  unfold fixed
  generalize Parts.ofFloat x = p at hparts ⊢
  have htext (s : Sign) (m : ℕ) (q : ℤ) :
      ((if isMinus s then "-" else "") ++ String.ofList (fixedText places m q)).toList =
        (fixedForm places (isMinus s) (roundHalfEven (scaleBinary (m * 10 ^ places) q).1
          (scaleBinary (m * 10 ^ places) q).2)).text := by
    rw [text_fixedForm, String.toList_append, String.toList_ofList, Json.toList_sign]
  cases hparts with
  | nan negative => exact .notANumber
  | infinity s => cases s <;> exact .infinity _
  | zero s =>
    have hfixed := isFixed_fixedForm hplaces (isMinus s) 0 (-1074)
    rw [Nat.cast_zero, zero_mul] at hfixed
    exact .zero (htext s 0 (-1074)) hfixed
  | finite s hm => exact .finite (htext s _ _) (isFixed_fixedForm hplaces (isMinus s) _ _)

end

end Fidelity.Decimal
