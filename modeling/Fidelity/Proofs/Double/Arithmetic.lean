import Fidelity.Proofs.Double.Settling
import Fidelity.Scalar

/-!
# Sums, products and quotients of doubles

Each operation on doubles that are numbers gives the exact result rounded, or infinity.
-/
open Float.Model (Format UnpackedFloat totalExponent)
open Float.Model.UnpackedFloat

namespace Fidelity.Double

/-- The double `x` is what rounding the number `q` gives. -/
def Rounds (x : Float) (q : ℚ) : Prop := Settles x.toModel.unpack q

variable {u v : UnpackedFloat} {x y : Float} {p q r : ℚ}

theorem le_log2_mul {m n : ℕ} (hm : 0 < m) (hn : 0 < n) (h : 2 ^ 52 ≤ m ∨ 2 ^ 52 ≤ n) :
    52 ≤ (m * n).log2 := by
  apply le_log2_of_le
  rcases h with h | h
  · exact h.trans (Nat.le_mul_of_pos_right m hn)
  · exact h.trans (Nat.le_mul_of_pos_left n hm)

theorem abs_sub_self_le (z : ℚ) (t : ℤ) : |z - z| ≤ 2 ^ t / 2 := by
  have ht := two_zpow_pos t
  rw [sub_self, abs_zero]
  positivity

theorem isRounded_of_stands (h : Stands u q) : IsRounded q q := by
  cases h with
  | zero s => exact ⟨0, -1074, by norm_num, le_rfl, by simp, .inl rfl, abs_sub_self_le _ _⟩
  | @finite m e h hs =>
    have hfull : e = -1074 ∨ (2 : ℚ) ^ (e + 52) ≤ m * 2 ^ e := by
      rw [add_comm e]
      exact hs.full.symm.imp_right fun hfull => two_zpow_le_of_full hfull e
    exact ⟨m, e, hs.lt.le, hs.ge, rfl, hfull, abs_sub_self_le _ _⟩

theorem settles_of_stands (h : Stands u q) : Settles (Float.Model.pack u).unpack q := by
  refine ⟨q, isRounded_of_stands h, .inl ⟨h.lt_two_zpow, ?_⟩⟩
  rwa [h.unpack_pack]

theorem settles_zero (s : Sign) : Settles (Float.Model.pack (.zero s)).unpack 0 :=
  settles_of_stands (.zero s)

theorem settles_mul (hx : Stands u p) (hy : Stands v q) :
    Settles (Float.Model.pack (UnpackedFloat.mul Format.binary64 u v)).unpack (p * q) := by
  cases hx with
  | zero s =>
    rw [zero_mul]
    cases hy with
    | zero t => exact settles_zero _
    | finite h hs => exact settles_zero _
  | @finite m e h hs =>
    cases hy with
    | zero t =>
      rw [mul_zero]
      exact settles_zero _
    | @finite n f h' hs' =>
      have hready : e + f ≤ fitExponent (m * n) (e + f) := by
        rw [fitExponent, le_max_iff]
        by_cases hfull : 2 ^ 52 ≤ m ∨ 2 ^ 52 ≤ n
        · have hlog := le_log2_mul h h' hfull
          left
          omega
        · -- mantissas that are not full have the least exponent, both of them
          rw [not_or] at hfull
          have he := hs.full.resolve_left hfull.1
          have hf := hs'.full.resolve_left hfull.2
          right
          omega
      have hproduct : (m : ℚ) * 2 ^ e * (n * 2 ^ f) = (m * n : ℕ) * 2 ^ (e + f) := by
        rw [two_zpow_add, Nat.cast_mul]
        ring
      rw [hproduct]
      exact settles_roundWithAccuracy hready locates_exact

theorem rounds_mul (hx : IsNumber x p) (hy : IsNumber y q) : Rounds (x * y) (p * q) :=
  settles_mul hx hy

theorem locates_fraction {m n d : ℕ} {e : ℤ} (hn : n < d) :
    Locates (.ofMantissaAndAccuracy m (accuracyOfFraction n d)) e ((m + (n : ℚ) / d) * 2 ^ e) := by
  have he := two_zpow_pos e
  have hd : (0 : ℚ) < d := by exact_mod_cast Nat.zero_lt_of_lt hn
  have hlt : (n : ℚ) / d < 1 := by
    rw [div_lt_one hd]
    exact_mod_cast hn
  unfold accuracyOfFraction
  split_ifs with hzero
  · subst hzero
    simpa using locates_exact (m := m) (e := e)
  · have hpos : 0 < (n : ℚ) / d := div_pos (by exact_mod_cast Nat.pos_of_ne_zero hzero) hd
    rcases lt_trichotomy (2 * n) d with hless | heq | hmore
    · have hhalf : (n : ℚ) / d < 1 / 2 := by
        rw [div_lt_div_iff₀ hd two_pos]
        exact_mod_cast by omega
      rw [compare_lt_iff_lt.mpr hless]
      refine ⟨by rintro ⟨⟩, fun _ => ?_, ?_⟩ <;>
        simp only [ExtendedMantissa.ofMantissaAndAccuracy, halfBit, Bool.false_eq_true, if_false]
      · exact mul_lt_mul_of_pos_right (by linarith) he
      · nlinarith
    · have hhalf : (n : ℚ) / d = 1 / 2 := by
        rw [div_eq_div_iff hd.ne' two_ne_zero]
        exact_mod_cast by omega
      rw [compare_eq_iff_eq.mpr heq, hhalf]
      refine ⟨fun _ => rfl, by rintro ⟨⟩, ?_⟩
      exact lt_add_of_pos_right _ (half_pos he)
    · have hhalf : 1 / 2 < (n : ℚ) / d := by
        rw [div_lt_div_iff₀ two_pos hd]
        exact_mod_cast by omega
      rw [compare_gt_iff_gt.mpr hmore]
      refine ⟨by rintro ⟨⟩, fun _ => ?_, ?_⟩ <;>
        simp only [ExtendedMantissa.ofMantissaAndAccuracy, halfBit, if_true]
      · exact mul_lt_mul_of_pos_right (by linarith) he
      · nlinarith

theorem two_pow_mul_le_shifted {m n k : ℕ} (hm : 0 < m) (hk : 53 + n.log2 ≤ m.log2 + k) :
    2 ^ 52 * n ≤ m <<< k := by
  rw [Nat.shiftLeft_eq]
  calc
    2 ^ 52 * n ≤ 2 ^ 52 * 2 ^ (n.log2 + 1) := Nat.mul_le_mul_left _ Nat.lt_log2_self.le
    _ = 2 ^ (53 + n.log2) := by rw [← pow_add]; congr 1; omega
    _ ≤ 2 ^ (m.log2 + k) := Nat.pow_le_pow_right two_pos hk
    _ = 2 ^ m.log2 * 2 ^ k := pow_add _ _ _
    _ ≤ m * 2 ^ k := Nat.mul_le_mul_right _ (Nat.log2_self_le hm.ne')

theorem targetExponent_quotient (m n : ℕ) (e f : ℤ) :
    Format.binary64.targetExponent (totalExponent m e - totalExponent n f) =
      max (m.log2 - n.log2 + e - f - 53) (-1074) := by
  change max ((m.log2 : ℤ) + 1 + e - (n.log2 + 1 + f) - 53) (-1074) = _
  congr 1
  omega

theorem div_ready {m n : ℕ} (hm : 0 < m) (hn : 0 < n) (e f : ℤ) {t : ℤ}
    (ht : t = min (e - f) (max (m.log2 - n.log2 + e - f - 53) (-1074))) :
    t ≤ fitExponent (m <<< (e - f - t).toNat / n) t := by
  rw [fitExponent, le_max_iff]
  rcases le_or_gt t (-1074) with hsmall | hlarge
  · exact .inr hsmall
  · left
    have hbits : 2 ^ 52 ≤ m <<< (e - f - t).toNat / n := by
      rw [Nat.le_div_iff_mul_le hn]
      apply two_pow_mul_le_shifted hm
      omega
    have hlog := le_log2_of_le hbits
    omega

theorem shifted_value {m : ℕ} {e t : ℤ} (ht : t ≤ e) :
    (m : ℚ) * 2 ^ e = (m <<< (e - t).toNat : ℕ) * 2 ^ t := by
  obtain ⟨k, hk⟩ := Int.eq_ofNat_of_zero_le (show 0 ≤ e - t by omega)
  have hpow : (2 : ℚ) ^ e = 2 ^ k * 2 ^ t := by
    rw [← zpow_natCast, ← two_zpow_add]
    congr 1
    omega
  rw [hk, Int.toNat_natCast, Nat.shiftLeft_eq, hpow]
  push_cast
  ring

theorem shifted_quotient {m n : ℕ} (hn : 0 < n) {e f t : ℤ} (ht : t ≤ e - f) :
    (m : ℚ) * 2 ^ e / (n * 2 ^ f) =
      ((m <<< (e - f - t).toNat / n : ℕ) + ((m <<< (e - f - t).toNat % n : ℕ) : ℚ) / n) *
        2 ^ t := by
  have hn' : (n : ℚ) ≠ 0 := by exact_mod_cast hn.ne'
  have hf := (two_zpow_pos f).ne'
  have hsplit : (m : ℚ) * 2 ^ (e - f) =
      (((m <<< (e - f - t).toNat / n : ℕ) : ℚ) * n + (m <<< (e - f - t).toNat % n : ℕ)) *
        2 ^ t := by
    rw [shifted_value ht]
    congr 1
    exact_mod_cast (Nat.div_add_mod' _ n).symm
  have hpow : (2 : ℚ) ^ e = 2 ^ (e - f) * 2 ^ f := by
    rw [← two_zpow_add]
    congr 1
    ring
  rw [hpow, ← mul_assoc, hsplit]
  field_simp

theorem settles_div (hx : Stands u p) (hy : Stands v q) (hq : 0 < q) :
    Settles (Float.Model.pack (UnpackedFloat.div Format.binary64 u v)).unpack (p / q) := by
  cases hy with
  | zero t => exact absurd hq (lt_irrefl 0)
  | @finite n f h' hs' =>
    cases hx with
    | zero s =>
      rw [zero_div]
      exact settles_zero _
    | @finite m e h hs =>
      change Settles (Float.Model.pack
        (match divCore Format.binary64 m e n f with
          | (m', e', acc) => roundWithAccuracy Format.binary64 .positive m' e' acc)).unpack _
      unfold divCore
      rw [targetExponent_quotient]
      dsimp only
      generalize ht : min (e - f) (max ((m.log2 : ℤ) - n.log2 + e - f - 53) (-1074)) = t
      rw [shifted_quotient h' (t := t) (by omega)]
      exact settles_roundWithAccuracy (div_ready h h' e f ht.symm)
        (locates_fraction (Nat.mod_lt _ h'))

theorem rounds_div (hx : IsNumber x p) (hy : IsNumber y q) (hq : 0 < q) : Rounds (x / y) (p / q) :=
  settles_div hx hy hq

theorem normalize_of_pos {m : ℕ} {e : ℤ} (h : 0 < m) (s : Sign) :
    UnpackedFloat.normalize Format.binary64 m e s =
      UnpackedFloat.round Format.binary64 .positive m e := by
  unfold UnpackedFloat.normalize
  rw [compare_gt_iff_gt.mpr (by exact_mod_cast h)]
  rfl

theorem settles_round {m : ℕ} {e : ℤ} (h : 0 < m) :
    Settles (Float.Model.pack (UnpackedFloat.round Format.binary64 .positive m e)).unpack
      (m * 2 ^ e) := by
  unfold UnpackedFloat.round decreaseExponent
  rw [targetExponent_eq]
  dsimp only
  generalize hk : (e - fitExponent m e).toNat = k
  have hshift : m <<< k = m * 2 ^ k := Nat.shiftLeft_eq m k
  have hlog : (m <<< k).log2 = m.log2 + k := by
    rw [hshift]
    apply (Nat.log2_eq_iff (by positivity)).mpr
    rw [pow_add, add_right_comm, pow_add]
    exact ⟨Nat.mul_le_mul_right _ (Nat.log2_self_le h.ne'),
      Nat.mul_lt_mul_of_pos_right Nat.lt_log2_self (Nat.two_pow_pos k)⟩
  have hready : e - k ≤ fitExponent (m <<< k) (e - k) := by
    rw [fitExponent, hlog, le_max_iff]
    unfold fitExponent at hk
    omega
  have hvalue := shifted_value (m := m) (show e - k ≤ e by omega)
  rw [sub_sub_cancel, Int.toNat_natCast] at hvalue
  rw [hvalue]
  exact settles_roundWithAccuracy hready locates_exact

theorem rounds_ofCount (n : UInt64) : Rounds (Scalar.ofCount n) (n.toNat : ℚ) := by
  change Settles (Float.Model.pack (UnpackedFloat.normalize _ (n.toNat : ℤ) 0 .positive)).unpack _
  rcases Nat.eq_zero_or_pos n.toNat with hzero | hpos
  · rw [hzero]
    exact settles_zero .positive
  · rw [normalize_of_pos hpos]
    simpa using settles_round (e := 0) hpos

theorem settles_add (hx : Stands u p) (hy : Stands v q) :
    Settles (Float.Model.pack (UnpackedFloat.add Format.binary64 u v)).unpack (p + q) := by
  cases hx with
  | zero s =>
    rw [zero_add]
    cases hy with
    | zero t => cases s <;> cases t <;> exact settles_zero _
    | finite h hs => exact settles_of_stands (.finite h hs)
  | @finite m e h hs =>
    cases hy with
    | zero t =>
      rw [add_zero]
      exact settles_of_stands (.finite h hs)
    | @finite n f h' hs' =>
      change Settles (Float.Model.pack (UnpackedFloat.normalize Format.binary64
        ((m <<< (e - min e f).toNat : ℕ) + (n <<< (f - min e f).toNat : ℕ)) (min e f)
          .positive)).unpack _
      generalize ht : min e f = t
      have hpos : 0 < m <<< (e - t).toNat + n <<< (f - t).toNat := by
        rw [Nat.shiftLeft_eq, Nat.shiftLeft_eq]
        positivity
      rw [shifted_value (t := t) (by omega), shifted_value (m := n) (t := t) (by omega), ← add_mul,
        ← Nat.cast_add, ← Nat.cast_add, normalize_of_pos hpos]
      exact settles_round hpos

theorem rounds_add (hx : IsNumber x p) (hy : IsNumber y q) : Rounds (x + y) (p + q) :=
  settles_add hx hy

theorem Stands.add_comm (h : Stands u q) (h' : Stands v r) :
    UnpackedFloat.add .binary64 u v = UnpackedFloat.add .binary64 v u := by
  cases h with
  | zero s =>
    cases h' with
    | zero t => cases s <;> cases t <;> rfl
    | finite hn hs' => rfl
  | @finite m e hm hs =>
    cases h' with
    | zero t => rfl
    | @finite n f hn hs' =>
      unfold UnpackedFloat.add UnpackedFloat.Sign.apply
      dsimp only
      rw [min_comm, Int.add_comm]

theorem unpack_add_congr {x' y' : Float} (hx : x.toModel.unpack = x'.toModel.unpack)
    (hy : y.toModel.unpack = y'.toModel.unpack) :
    (x + y).toModel.unpack = (x' + y').toModel.unpack := by
  change (Float.Model.pack (UnpackedFloat.add _ x.toModel.unpack y.toModel.unpack)).unpack =
    (Float.Model.pack (UnpackedFloat.add _ x'.toModel.unpack y'.toModel.unpack)).unpack
  rw [hx, hy]

theorem unpack_add_comm (hx : IsNumber x q) (hy : IsNumber y r) :
    (x + y).toModel.unpack = (y + x).toModel.unpack := by
  change (Float.Model.pack (UnpackedFloat.add _ x.toModel.unpack y.toModel.unpack)).unpack =
    (Float.Model.pack (UnpackedFloat.add _ y.toModel.unpack x.toModel.unpack)).unpack
  rw [Stands.add_comm hx hy]

end Fidelity.Double
