import Fidelity.Decimal.Binary
import Fidelity.Proofs.Double.Stored

/-!
# Sign and magnitude of a double

Main statement: the parts that are read off the bits of a double are those of the number, the infinity or
the lack of a number that it stands for.
-/
open Float.Model (Format UnpackedFloat)
open Float.Model.UnpackedFloat

namespace Fidelity.Decimal

def isMinus : Sign → Bool
  | .negative => true
  | .positive => false

inductive HasParts : UnpackedFloat → Parts → Prop
  | nan (negative : Bool) : HasParts .notANumber ⟨negative, .nan⟩
  | infinity (s : Sign) : HasParts (.infinity s) ⟨isMinus s, .infinite⟩
  | zero (s : Sign) : HasParts (.zero s) ⟨isMinus s, .finite 0 (-1074)⟩
  | finite (s : Sign) {m : ℕ} {e : ℤ} (h : 0 < m) : HasParts (.finite s m e h) ⟨isMinus s, .finite m e⟩

theorem HasParts.finite_of_eq (s : Sign) {m n : ℕ} {e f : ℤ} (h : 0 < m) (hm : m = n) (he : e = f) :
    HasParts (.finite s m e h) ⟨isMinus s, .finite n f⟩ := by
  subst hm he
  exact .finite s h

abbrev exponentField (x : Float) : BitVec 11 :=
  @unpackExponent Format.binary64 x.toModel.toBits.toBitVec

abbrev fractionField (x : Float) : BitVec 52 :=
  @unpackMantissa Format.binary64 x.toModel.toBits.toBitVec

abbrev signField (x : Float) : BitVec 1 := @unpackSign Format.binary64 x.toModel.toBits.toBitVec

theorem toNat_exponentField (x : Float) :
    (exponentField x).toNat = x.toBits.toNat / fractionLimit % 2048 := by
  unfold exponentField unpackExponent
  rw [BitVec.toNat_cast, BitVec.extractLsb_toNat, Nat.shiftRight_eq_div_pow]
  rfl

theorem toNat_fractionField (x : Float) :
    (fractionField x).toNat = x.toBits.toNat % fractionLimit := by
  unfold fractionField unpackMantissa
  rw [BitVec.toNat_cast, BitVec.extractLsb_toNat, Nat.shiftRight_zero]
  rfl

theorem toNat_signField (x : Float) :
    (signField x).toNat = x.toBits.toNat / 0x8000000000000000 % 2 := by
  unfold signField unpackSign
  rw [BitVec.toNat_cast, BitVec.extractLsb_toNat, Nat.shiftRight_eq_div_pow]
  rfl

theorem isMinus_ofBitVec (b : BitVec 1) : isMinus (Sign.ofBitVec b) = (b.toNat == 1) := by
  rcases b.eq_zero_or_eq_one with rfl | rfl <;> rfl

theorem parts_eq (x : Float) :
    Parts.ofFloat x = ⟨isMinus (Sign.ofBitVec (signField x)),
      if (exponentField x).toNat = 2047 then
        if (fractionField x).toNat = 0 then .infinite else .nan
      else if (exponentField x).toNat = 0 then .finite (fractionField x).toNat (-1074)
      else .finite (fractionLimit + (fractionField x).toNat) ((exponentField x).toNat - 1075)⟩ := by
  rw [isMinus_ofBitVec, toNat_exponentField, toNat_fractionField, toNat_signField]
  rfl

theorem hasParts_ofFloat (x : Float) : HasParts x.toModel.unpack (Parts.ofFloat x) := by
  have hfull : exponentField x = -1#11 ↔ (exponentField x).toNat = 2047 := BitVec.toNat_inj.symm
  have hnone : exponentField x = 0#11 ↔ (exponentField x).toNat = 0 := BitVec.toNat_inj.symm
  have hempty : fractionField x = 0#52 ↔ (fractionField x).toNat = 0 := BitVec.toNat_inj.symm
  rw [parts_eq]
  change HasParts (UnpackedFloat.unpack Format.binary64 x.toModel.toBits.toBitVec) _
  unfold UnpackedFloat.unpack
  dsimp only
  by_cases h₁ : exponentField x = -1#11
  · rw [if_pos h₁, if_pos (hfull.mp h₁)]
    by_cases h₂ : fractionField x = 0#52
    · rw [if_pos h₂, if_pos (hempty.mp h₂)]
      exact .infinity _
    · rw [if_neg h₂, if_neg (mt hempty.mpr h₂)]
      exact .nan _
  · rw [if_neg h₁, if_neg (mt hfull.mpr h₁)]
    by_cases h₂ : exponentField x = 0#11
    · rw [if_pos h₂, if_pos (hnone.mp h₂)]
      split_ifs with h₃
      · rw [hempty.mp h₃]
        exact .zero _
      · refine .finite_of_eq _ _ rfl ?_
        rw [hnone.mp h₂]
        rfl
    · rw [if_neg h₂, if_neg (mt hnone.mpr h₂)]
      exact .finite_of_eq _ _ (Double.toNat_one_append _) rfl

end Fidelity.Decimal
