import Fidelity.Proofs.Double.Arithmetic

/-!
# Numbers and infinity

Main statements: what exceeds a double by one at most is a number again, squares are numbers below
`2 ^ 512` and infinite from there on, and infinity passes through sums and products; its share of
itself is no number.
-/
open Float.Model (Format UnpackedFloat)

namespace Fidelity.Double

variable {u : UnpackedFloat} {x y z : Float} {q r : ℚ}

def greatest : ℚ := (2 ^ 53 - 1) * 2 ^ (971 : ℤ)

theorem greatest_add_two_lt : greatest + 2 < 2 ^ (1024 : ℤ) := by
  have hpow : (2 : ℚ) ^ (1024 : ℤ) = 2 ^ 53 * 2 ^ (971 : ℤ) := two_zpow_add 53 971
  have htwo : (2 : ℚ) < 2 ^ (971 : ℤ) := by
    calc
      (2 : ℚ) = 2 ^ (1 : ℤ) := (zpow_one 2).symm
      _ < 2 ^ (971 : ℤ) := zpow_lt_zpow_right₀ one_lt_two (by norm_num)
  rw [greatest, hpow]
  generalize (2 : ℚ) ^ (971 : ℤ) = last at htwo
  linarith

theorem Stands.le_greatest (h : Stands u q) : q ≤ greatest := by
  cases h with
  | zero s => exact mul_nonneg (by norm_num) (two_zpow_pos 971).le
  | finite h hs => exact hs.le_of_exponent_le hs.le

/-- What exceeds a stored number by one at most does not reach infinity. -/
theorem Rounds.exists_isNumber {w : ℚ} (h : Rounds x q) (hw : OnGrid w) (hgreatest : w ≤ greatest)
    (hle : q ≤ w + 1) : ∃ z, IsRounded q z ∧ IsNumber x z := by
  obtain ⟨z, hz, hnumber | ⟨hinfinite, -⟩⟩ := h
  · exact ⟨z, hz, hnumber.2⟩
  · exfalso
    have hlimit := greatest_add_two_lt
    rcases le_or_gt q w with hqw | hwq
    · have hzw := hz.le_of_le hw hqw
      linarith
    · have hnear := hz.nearest hw
      rw [abs_of_nonpos (by linarith : w - q ≤ 0)] at hnear
      have hself := le_abs_self (z - q)
      linarith

theorem onGrid_greatest : OnGrid greatest :=
  ⟨2 ^ 53 - 1, 971, by norm_num, by norm_num, by rw [greatest]; norm_num⟩

theorem IsNumber.le_greatest (h : IsNumber x q) : q ≤ greatest := Stands.le_greatest h

theorem IsNumber.exists_of_rounds (h : IsNumber x q) (hz : Rounds z r) (hle : r ≤ q + 1) :
    ∃ w, IsRounded r w ∧ IsNumber z w :=
  hz.exists_isNumber h.onGrid h.le_greatest hle

theorem onGrid_two_pow_sixtyFour : OnGrid (2 ^ (64 : ℤ)) := onGrid_two_zpow (by norm_num)

theorem exists_isNumber_ofCount (n : UInt64) :
    ∃ z, IsRounded (n.toNat : ℚ) z ∧ IsNumber (Scalar.ofCount n) z ∧ z ≤ 2 ^ (64 : ℤ) := by
  have hlt : (n.toNat : ℚ) ≤ 2 ^ (64 : ℤ) := by exact_mod_cast n.toNat_lt.le
  have hgreatest : (2 : ℚ) ^ (64 : ℤ) ≤ greatest := by
    calc
      (2 : ℚ) ^ (64 : ℤ) ≤ 2 ^ (971 : ℤ) := two_zpow_le (by norm_num)
      _ ≤ greatest := le_mul_of_one_le_left (two_zpow_pos 971).le (by norm_num)
  obtain ⟨z, hz, hnumber⟩ :=
    (rounds_ofCount n).exists_isNumber onGrid_two_pow_sixtyFour hgreatest (by linarith)
  exact ⟨z, hz, hnumber, hz.le_of_le onGrid_two_pow_sixtyFour hlt⟩

theorem isNumber_ofCount {n : UInt64} (h : n.toNat ≤ 2 ^ 53) :
    IsNumber (Scalar.ofCount n) n.toNat := by
  obtain ⟨z, hz, hnumber, -⟩ := exists_isNumber_ofCount n
  rwa [hz.eq_of_onGrid (onGrid_natCast h)] at hnumber

theorem isNumber_scalarZero : IsNumber Scalar.zero 0 := isNumber_ofCount (n := 0) (by decide)

theorem isNumber_scalarOne : IsNumber Scalar.one 1 := by
  exact_mod_cast isNumber_ofCount (n := 1) (by decide)

theorem le_of_lt_two_zpow {s t : ℤ} (hs : -1074 ≤ s) (ht : t = 53 + s) (h : Stands u q)
    (hq : q < 2 ^ t) : q ≤ (2 ^ 53 - 1) * 2 ^ s := by
  cases h with
  | zero s => exact mul_nonneg (by norm_num) (two_zpow_pos _).le
  | @finite m e _ hstored =>
    apply hstored.le_of_exponent_le
    by_contra hgt
    have hfull : 2 ^ 52 ≤ m := hstored.full.resolve_right (by omega)
    refine hq.not_ge ?_
    calc
      (2 : ℚ) ^ t ≤ 2 ^ (52 + e) := two_zpow_le (by omega)
      _ ≤ m * 2 ^ e := two_zpow_le_of_full hfull e

theorem exists_isNumber_square (h : IsNumber x q) (hq : q < 2 ^ (512 : ℤ)) :
    ∃ b, IsRounded (q * q) b ∧ IsNumber (x * x) b := by
  have hsquare : q * q ≤ greatest := by
    calc
      q * q ≤ (2 ^ 53 - 1) * 2 ^ (459 : ℤ) * 2 ^ (512 : ℤ) :=
        mul_le_mul (le_of_lt_two_zpow (by norm_num) (by norm_num) h hq) hq.le h.nonneg
          (mul_nonneg (by norm_num) (two_zpow_pos 459).le)
      _ = (2 ^ 53 - 1) * 2 ^ (971 : ℤ) := by
        rw [mul_assoc, ← two_zpow_add]
        norm_num
      _ = greatest := rfl
  exact (rounds_mul h h).exists_isNumber onGrid_greatest le_rfl (by linarith)

theorem isInfinite_square (h : IsNumber x q) (hq : 2 ^ (512 : ℤ) ≤ q) : IsInfinite (x * x) := by
  obtain ⟨z, hz, hlands⟩ := rounds_mul h h
  have hge : (2 : ℚ) ^ (1024 : ℤ) ≤ z := by
    apply hz.le_of_ge (onGrid_two_zpow (by norm_num))
    calc
      (2 : ℚ) ^ (1024 : ℤ) = 2 ^ (512 : ℤ) * 2 ^ (512 : ℤ) := two_zpow_add 512 512
      _ ≤ q * q := mul_le_mul hq hq (two_zpow_pos _).le h.nonneg
  exact (hlands.resolve_left fun hlt => absurd hlt.1 (not_lt.mpr hge)).2

theorem add_infinity (h : Stands u q) :
    UnpackedFloat.add Format.binary64 u (.infinity .positive) = .infinity .positive := by
  cases h <;> rfl

theorem infinity_add (h : Stands u q) :
    UnpackedFloat.add Format.binary64 (.infinity .positive) u = .infinity .positive := by
  cases h <;> rfl

theorem infinity_mul (h : Stands u q) (hq : 0 < q) :
    UnpackedFloat.mul Format.binary64 (.infinity .positive) u = .infinity .positive := by
  cases h with
  | zero s => exact absurd hq (lt_irrefl 0)
  | finite h hs => rfl

theorem IsNumber.add_infinite (hx : IsNumber x q) (hy : IsInfinite y) : IsInfinite (x + y) := by
  change (Float.Model.pack (UnpackedFloat.add _ x.toModel.unpack y.toModel.unpack)).unpack = _
  rw [hy, add_infinity hx]
  exact unpack_pack_infinity .positive

theorem IsInfinite.add_number (hx : IsInfinite x) (hy : IsNumber y q) : IsInfinite (x + y) := by
  change (Float.Model.pack (UnpackedFloat.add _ x.toModel.unpack y.toModel.unpack)).unpack = _
  rw [hx, infinity_add hy]
  exact unpack_pack_infinity .positive

theorem IsInfinite.mul_number (hx : IsInfinite x) (hy : IsNumber y q) (hq : 0 < q) :
    IsInfinite (x * y) := by
  change (Float.Model.pack (UnpackedFloat.mul _ x.toModel.unpack y.toModel.unpack)).unpack = _
  rw [hx, infinity_mul hy hq]
  exact unpack_pack_infinity .positive

theorem IsInfinite.isNaN_div (hx : IsInfinite x) (hy : IsInfinite y) : (x / y).isNaN = true := by
  change (Float.Model.pack
    (UnpackedFloat.div _ x.toModel.unpack y.toModel.unpack)).unpack.isNaN = true
  rw [hx, hy]
  rfl

end Fidelity.Double
