import Fidelity.Json.Write
import Fidelity.Proofs.Decimal.Parts
import Fidelity.Proofs.Decimal.Shortest
import Fidelity.Proofs.Json.Scalars

/-!
# Doubles in JSON

A double is written as its shortest decimal, with a point or an exponent among the digits, unless it is
infinite or no number. Main statements: what is written of a finite double is a number of the grammar,
with the sign of the double and so near to it that it rounds to it; any other double is `null`.
-/
open Float.Model (UnpackedFloat)
open Float.Model.UnpackedFloat

namespace Fidelity.Json

open Decimal (HasParts Parts Scaled digitCount exponentText isMinus positionalText shortest)
open Double (IsRounded IsStored)

namespace Digits

def ofNat (n : ℕ) : Digits where
  chars := Nat.toDigits 10 n
  ne_nil := Nat.toDigits_ne_nil
  isDigit _ hc := Nat.isDigit_of_mem_toDigits (by decide) le_rfl hc

def value (ds : Digits) : ℕ := Nat.ofDigitChars 10 ds.chars 0

def withZeros (before behind : ℕ) (ds : Digits) : Digits where
  chars := List.replicate before '0' ++ (ds.chars ++ List.replicate behind '0')
  ne_nil := by simp [ds.ne_nil]
  isDigit c hc := by
    simp only [List.mem_append, List.mem_replicate] at hc
    rcases hc with ⟨-, rfl⟩ | hc | ⟨-, rfl⟩
    · rfl
    · exact ds.isDigit c hc
    · rfl

theorem length_ofNat_of_head? {n : ℕ} (h : (ofNat n).chars.head? = some '0') :
    (ofNat n).chars.length = 1 := by
  by_cases hn : n = 0
  · rw [hn]
    rfl
  · exact absurd h (head?_toDigits_ne_zero hn)

theorem length_ofNat (n : ℕ) : (ofNat n).chars.length = digitCount n := rfl

theorem value_ofNat (n : ℕ) : (ofNat n).value = n := Nat.ofDigitChars_ten_toDigits

theorem length_withZeros (before behind : ℕ) (ds : Digits) :
    (ds.withZeros before behind).chars.length = before + (ds.chars.length + behind) := by
  simp [withZeros]

theorem value_withZeros (before behind : ℕ) (ds : Digits) :
    (ds.withZeros before behind).value = ds.value * 10 ^ behind := by
  rw [value, withZeros, Nat.ofDigitChars_append, Nat.ofDigitChars_append,
    Nat.ofDigitChars_replicate_zero, Nat.ofDigitChars_replicate_zero, mul_zero, mul_comm]
  rfl

theorem head?_withZeros {n : ℕ} (hn : n ≠ 0) (behind : ℕ) :
    ((ofNat n).withZeros 0 behind).chars.head? ≠ some '0' := by
  have hhead : ((ofNat n).withZeros 0 behind).chars.head? = (Nat.toDigits 10 n).head? :=
    List.head?_append_of_ne_nil _ (ofNat n).ne_nil
  rw [hhead]
  exact head?_toDigits_ne_zero hn

end Digits

namespace Numeral

variable (n : Numeral)

def places : List Char := n.fraction.getD []

def digits : ℕ := Nat.ofDigitChars 10 (n.whole ++ n.places) 0

def power : ℤ :=
  n.exponent.elim 0 fun e => if e.1 then -Nat.ofDigitChars 10 e.2 0 else Nat.ofDigitChars 10 e.2 0

def magnitude : ℚ := n.digits * 10 ^ (n.power - n.places.length)

end Numeral

namespace NumberForm

section

variable (negative : Bool) (ds : Digits) (exponent : Option Exponent)

def cut (w : ℕ) (hw : 0 < w) (hzero : ds.chars.head? = some '0' → w = 1) : NumberForm where
  negative := negative
  whole := {
    chars := ds.chars.take w
    ne_nil := by simp [ds.ne_nil, hw.ne']
    isDigit := fun c hc => ds.isDigit c (List.mem_of_mem_take hc) }
  leading h := by
    rw [List.head?_take, if_neg hw.ne'] at h
    change (ds.chars.take w).length = 1
    rw [hzero h, List.length_take, Nat.min_eq_left (List.length_pos_iff.mpr ds.ne_nil)]
  fraction := if h : ds.chars.drop w = [] then none else some {
    chars := ds.chars.drop w
    ne_nil := h
    isDigit := fun c hc => ds.isDigit c (List.mem_of_mem_drop hc) }
  exponent := exponent

variable {negative ds exponent} {w : ℕ} {hw : 0 < w} {hzero : ds.chars.head? = some '0' → w = 1}

theorem places_cut : (cut negative ds exponent w hw hzero).numeral.places = ds.chars.drop w := by
  rw [Numeral.places, numeral, cut]
  split_ifs with h
  · exact h.symm
  · rfl

theorem digits_cut : (cut negative ds exponent w hw hzero).numeral.digits = ds.value := by
  rw [Numeral.digits, places_cut]
  change Nat.ofDigitChars 10 (ds.chars.take w ++ ds.chars.drop w) 0 = ds.value
  rw [List.take_append_drop]
  rfl

theorem magnitude_cut : (cut negative ds exponent w hw hzero).numeral.magnitude =
    ds.value * 10 ^ ((cut negative ds exponent w hw hzero).numeral.power -
      (ds.chars.drop w).length) := by
  rw [Numeral.magnitude, digits_cut, places_cut]

theorem text_cut : (cut negative ds exponent w hw hzero).text =
    (if negative then ['-'] else []) ++ (ds.chars.take w ++
      ((if ds.chars.drop w = [] then [] else '.' :: ds.chars.drop w) ++
        exponent.elim [] Exponent.text)) := by
  rw [text, fractionText, exponentText, cut]
  split_ifs <;> rfl

end

section

variable (negative : Bool) (n : ℕ) (e : ℤ)

def zero : NumberForm := cut negative ((Digits.ofNat 0).withZeros 0 1) none 1 one_pos fun _ => rfl

/-- The digits of `n`, the first of which has the weight `10 ^ e`, with a point. -/
def pointed (hn : n ≠ 0) : NumberForm :=
  if e < 0 then
    cut negative ((Digits.ofNat n).withZeros (-e).toNat 0) none 1 one_pos fun _ => rfl
  else
    cut negative ((Digits.ofNat n).withZeros 0 (e.toNat + 2 - digitCount n)) none (e.toNat + 1)
      e.toNat.succ_pos fun h => absurd h (Digits.head?_withZeros hn _)

def scientific : NumberForm :=
  cut negative (.ofNat n) (some ⟨'e', .inl rfl, some (decide (e < 0)), .ofNat e.natAbs⟩) 1 one_pos
    fun _ => rfl

variable {negative n e}

theorem text_zero : (zero negative).text =
    (if negative then ['-'] else []) ++ positionalText true ['0'] 0 := by
  rw [zero, text_cut]
  rfl

theorem text_pointed (hn : n ≠ 0) : (pointed negative n e hn).text =
    (if negative then ['-'] else []) ++ positionalText true (Nat.toDigits 10 n) e := by
  rw [pointed, positionalText]
  by_cases he : e < 0
  · obtain ⟨k, hk⟩ : ∃ k : ℕ, (-e).toNat = k + 1 := ⟨(-e).toNat - 1, by omega⟩
    have hk' : (-e - 1).toNat = k := by omega
    rw [if_pos he, if_pos he, text_cut, hk, hk']
    simp [Digits.withZeros, Digits.ofNat, List.replicate_succ]
  · rw [if_neg he, if_neg he, text_cut]
    dsimp only
    have hchars (k : ℕ) : ((Digits.ofNat n).withZeros 0 k).chars =
        Nat.toDigits 10 n ++ List.replicate k '0' := rfl
    rw [hchars, digitCount]
    by_cases hshort : (Nat.toDigits 10 n).length ≤ e.toNat + 1
    · obtain ⟨k, hk⟩ := Nat.exists_eq_add_of_le hshort
      have hmore : e.toNat + 2 - (Nat.toDigits 10 n).length = k + 1 := by omega
      have hlength : (Nat.toDigits 10 n ++ List.replicate k '0').length = e.toNat + 1 := by
        simp [hk]
      have hdigits : Nat.toDigits 10 n ++ List.replicate (k + 1) '0' =
          Nat.toDigits 10 n ++ List.replicate k '0' ++ ['0'] := by
        rw [List.replicate_succ', List.append_assoc]
      rw [if_pos hshort, hmore, hdigits, List.take_left' hlength, List.drop_left' hlength]
      simp [hk]
    · have hnone : e.toNat + 2 - (Nat.toDigits 10 n).length = 0 := by omega
      have hleft : (Nat.toDigits 10 n).drop (e.toNat + 1) ≠ [] := by
        simpa using not_le.mp hshort
      rw [if_neg hshort, hnone, List.replicate_zero, List.append_nil, if_neg hleft]
      simp

theorem text_scientific : (scientific negative n e).text =
    (if negative then ['-'] else []) ++ Decimal.exponentText (Nat.toDigits 10 n) e := by
  rw [scientific, text_cut, Decimal.exponentText]
  have hsign : signText (some (decide (e < 0))) = [if e < 0 then '-' else '+'] := by
    by_cases he : e < 0 <;> simp [he, signText]
  simp [Digits.ofNat, Exponent.text, hsign]

theorem magnitude_zero : (zero negative).numeral.magnitude = 0 := by
  rw [zero, magnitude_cut, Digits.value_withZeros, Digits.value_ofNat]
  simp

theorem magnitude_pointed (hn : n ≠ 0) :
    (pointed negative n e hn).numeral.magnitude = n * 10 ^ (e + 1 - digitCount n) := by
  have hten : (10 : ℚ) ≠ 0 := by norm_num
  unfold pointed
  split_ifs with he <;>
    rw [magnitude_cut, Digits.value_withZeros, Digits.value_ofNat, List.length_drop,
      Digits.length_withZeros, Digits.length_ofNat]
  · rw [pow_zero, Nat.mul_one]
    change (n : ℚ) * 10 ^ (0 - _ : ℤ) = _
    congr 2
    omega
  · rw [Nat.cast_mul, Nat.cast_pow, Nat.cast_ofNat, mul_assoc, ← zpow_natCast, ← zpow_add₀ hten]
    change (n : ℚ) * 10 ^ (_ + (0 - _) : ℤ) = _
    congr 2
    omega

theorem magnitude_scientific :
    (scientific negative n e).numeral.magnitude = n * 10 ^ (e + 1 - digitCount n) := by
  have hcount : 0 < digitCount n := Nat.length_toDigits_pos
  have hpower : (scientific negative n e).numeral.power = e := by
    have hvalue : Nat.ofDigitChars 10 (Digits.ofNat e.natAbs).chars 0 = e.natAbs :=
      Digits.value_ofNat e.natAbs
    simp only [scientific, cut, numeral, Numeral.power, Option.map_some, Option.elim_some,
      Option.getD_some, decide_eq_true_eq, hvalue]
    split_ifs <;> omega
  rw [scientific] at hpower ⊢
  rw [magnitude_cut, hpower, Digits.value_ofNat, List.length_drop, Digits.length_ofNat]
  congr 2
  omega

end

def ofDecimal (negative : Bool) (d : Scaled) : NumberForm :=
  let e := d.exponent + digitCount d.significand - 1
  if h : d.significand = 0 then zero negative
  else if realLayout.isPositional e then pointed negative d.significand e h
  else scientific negative d.significand e

theorem negative_ofDecimal (negative : Bool) (d : Scaled) :
    (ofDecimal negative d).numeral.negative = negative := by
  unfold ofDecimal pointed
  dsimp only
  split_ifs <;> rfl

theorem magnitude_ofDecimal (negative : Bool) (d : Scaled) :
    (ofDecimal negative d).numeral.magnitude = d.number := by
  have hexponent : d.exponent + digitCount d.significand - 1 + 1 - digitCount d.significand =
      d.exponent := by omega
  unfold ofDecimal
  dsimp only
  split_ifs with hzero
  · rw [magnitude_zero, Scaled.number, hzero, Nat.cast_zero, zero_mul]
  · rw [magnitude_pointed, hexponent, Scaled.number]
  · rw [magnitude_scientific, hexponent, Scaled.number]

theorem text_ofDecimal (negative : Bool) {m : ℕ} {q : ℤ} (hm : m ≠ 0)
    (hd : (shortest realLayout.tie m q).significand ≠ 0) :
    (ofDecimal negative (shortest realLayout.tie m q)).text =
      (if negative then ['-'] else []) ++ realLayout.finiteText m q := by
  generalize hshortest : shortest realLayout.tie m q = d at hd ⊢
  unfold ofDecimal Decimal.Layout.finiteText
  simp only [dif_neg hd, if_neg hm, hshortest]
  by_cases hpositional : realLayout.isPositional (d.exponent + digitCount d.significand - 1) = true
  · rw [if_pos hpositional]
    exact (text_pointed hd).trans (congrArg _ (if_pos hpositional).symm)
  · rw [if_neg hpositional]
    exact text_scientific.trans (congrArg _ (if_neg hpositional).symm)

end NumberForm

def NumberForm.ofReal? (x : Float) : Option NumberForm :=
  let p := Parts.ofFloat x
  match p.magnitude with
  | .finite 0 _ => some (zero p.negative)
  | .finite m q => some (ofDecimal p.negative (shortest realLayout.tie m q))
  | _ => none

def Tree.ofReal (x : Float) : Tree := (NumberForm.ofReal? x).elim (word .null) number

/-- The numeral, if there is one, stands for the double. -/
inductive TellsReal : UnpackedFloat → Option Numeral → Prop
  | notANumber : TellsReal .notANumber none
  | infinity (s : Sign) : TellsReal (.infinity s) none
  | zero {s : Sign} {n : Numeral} (hsign : n.negative = isMinus s) (hzero : n.magnitude = 0) :
      TellsReal (.zero s) (some n)
  | finite {s : Sign} {m : ℕ} {e : ℤ} {h : 0 < m} {n : Numeral} (hsign : n.negative = isMinus s)
      (hnear : IsRounded n.magnitude (m * 2 ^ e)) : TellsReal (.finite s m e h) (some n)

section

variable (x : Float)

theorem ofReal?_of_finite {s : Sign} {m : ℕ} {q : ℤ} (hm : 0 < m)
    (h : Parts.ofFloat x = ⟨isMinus s, .finite m q⟩) :
    NumberForm.ofReal? x = some (.ofDecimal (isMinus s) (shortest realLayout.tie m q)) := by
  obtain ⟨k, rfl⟩ := Nat.exists_eq_succ_of_ne_zero hm.ne'
  rw [NumberForm.ofReal?, h]
  rfl

theorem toList_sign (negative : Bool) :
    (if negative then "-" else "").toList = if negative then ['-'] else [] := by
  cases negative <;> rfl

theorem tokens_ofReal : (Tree.ofReal x).tokens = [(realLayout.render x).toList] := by
  have hparts := Decimal.hasParts_ofFloat x
  generalize hu : x.toModel.unpack = u at hparts
  generalize hp : Parts.ofFloat x = p at hparts
  cases hparts with
  | nan negative =>
    simp only [Tree.ofReal, NumberForm.ofReal?, Decimal.Layout.render, hp]
    rfl
  | infinity s =>
    simp only [Tree.ofReal, NumberForm.ofReal?, Decimal.Layout.render, hp]
    cases s <;> rfl
  | zero s =>
    simp only [Tree.ofReal, NumberForm.ofReal?, Decimal.Layout.render, hp, Option.elim_some,
      Tree.tokens, NumberForm.text_zero, String.toList_append, toList_sign, String.toList_ofList]
    rfl
  | finite s hm =>
    have hd := Decimal.significand_shortest_ne_zero realLayout.tie hm (Double.isStored_of_unpack hu)
    rw [Tree.ofReal, ofReal?_of_finite x hm hp, Option.elim_some, Tree.tokens,
      NumberForm.text_ofDecimal _ hm.ne' hd]
    simp only [Decimal.Layout.render, hp, String.toList_append, toList_sign, String.toList_ofList]

theorem tellsReal_ofReal? :
    TellsReal x.toModel.unpack ((NumberForm.ofReal? x).map NumberForm.numeral) := by
  have hparts := Decimal.hasParts_ofFloat x
  generalize hu : x.toModel.unpack = u at hparts
  generalize hp : Parts.ofFloat x = p at hparts
  cases hparts with
  | nan negative =>
    simp only [NumberForm.ofReal?, hp]
    exact .notANumber
  | infinity s =>
    simp only [NumberForm.ofReal?, hp]
    exact .infinity s
  | zero s =>
    simp only [NumberForm.ofReal?, hp]
    exact .zero rfl NumberForm.magnitude_zero
  | finite s hm =>
    rw [ofReal?_of_finite x hm hp]
    refine .finite (NumberForm.negative_ofDecimal _ _) ?_
    rw [NumberForm.magnitude_ofDecimal]
    exact Decimal.isRounded_shortest realLayout.tie hm (Double.isStored_of_unpack hu)

/-- A double is written as `null` exactly if it is no finite number. -/
theorem write_real_eq_null_iff (style : Style) :
    (Value.real x).write style = "null".toList ↔ x.isFinite = false := by
  have htokens := tokens_ofReal x
  have htells := tellsReal_ofReal? x
  change (realLayout.render x).toList = _ ↔ x.toModel.unpack.isFinite = false
  rw [Tree.ofReal] at htokens
  generalize x.toModel.unpack = u at htells ⊢
  cases hn : NumberForm.ofReal? x with
  | none =>
    rw [hn] at htokens htells
    refine iff_of_true (List.singleton_inj.mp htokens).symm ?_
    cases htells <;> rfl
  | some n =>
    rw [hn] at htokens htells
    obtain ⟨c, r, htext, hc⟩ := n.exists_text_eq
    refine iff_of_false ?_ (by cases htells <;> nofun)
    rw [← List.singleton_inj.mp htokens, htext]
    rintro ⟨⟩
    rcases hc with hc | hc <;> cases hc

end

end Fidelity.Json
