import Fidelity.Proofs.Double.Rounding

/-!
# Doubles as numbers

A double in the format of the language stands for a rational number, for an infinity or for no number.
Main statements: reading what was packed gives back a number with its mantissa and exponent, or an
infinity if the exponent was too great, and doubles compare as their numbers do.
-/
open Float.Model (Format UnpackedFloat totalExponent)
open Float.Model.UnpackedFloat

namespace Fidelity.Double

structure IsStored (m : ℕ) (e : ℤ) : Prop where
  lt : m < 2 ^ 53
  ge : -1074 ≤ e
  le : e ≤ 971
  full : 2 ^ 52 ≤ m ∨ e = -1074

theorem finite_congr {s : Sign} {m m' : ℕ} {e e' : ℤ} (hm : m = m') (he : e = e') (h : 0 < m)
    (h' : 0 < m') : UnpackedFloat.finite s m e h = .finite s m' e' h' := by
  subst hm he
  rfl

theorem unpackSign_packComponents (s : Sign) (e : BitVec 11) (m : BitVec 52) :
    Sign.ofBitVec (unpackSign (packComponents Format.binary64 s e m)) = s := by
  have hsign : unpackSign (packComponents Format.binary64 s e m) = s.toBitVec := by
    change (s.toBitVec ++ e ++ m).extractLsb' 63 1 = s.toBitVec
    rw [BitVec.extractLsb'_append_eq_of_le (by decide),
      BitVec.extractLsb'_append_eq_of_le (by decide)]
    exact BitVec.extractLsb'_eq_self
  rw [hsign]
  cases s <;> rfl

theorem toNat_one_append {n : ℕ} (m : BitVec n) : (1#1 ++ m).toNat = 2 ^ n + m.toNat := by
  rw [BitVec.toNat_append, ← Nat.shiftLeft_add_eq_or_of_lt m.isLt]
  simp [Nat.shiftLeft_eq]

theorem unpack_packComponents_of_full (s : Sign) {e : BitVec 11} (m : BitVec 52) (h1 : e.toNat ≠ 2047)
    (h0 : e.toNat ≠ 0) :
    UnpackedFloat.unpack Format.binary64 (packComponents Format.binary64 s e m) =
      .finite s (2 ^ 52 + m.toNat) (e.toNat - 1075) (by omega) := by
  have h1' : e ≠ -1#11 := by
    rintro rfl
    exact h1 rfl
  have h0' : e ≠ 0#11 := by
    rintro rfl
    exact h0 rfl
  simp only [UnpackedFloat.unpack, unpackMantissa_packComponents, unpackExponent_packComponents,
    unpackSign_packComponents]
  rw [if_neg h1', if_neg h0']
  exact finite_congr (toNat_one_append m) rfl _ _

theorem unpack_packComponents_of_small (s : Sign) {m : BitVec 52} (h : 0 < m.toNat) :
    UnpackedFloat.unpack Format.binary64 (packComponents Format.binary64 s 0#11 m) =
      .finite s m.toNat (-1074) h := by
  have h0' : m ≠ 0#52 := by
    rintro rfl
    exact Nat.lt_irrefl 0 h
  have h1' : 0#11 ≠ -1#11 := by decide
  simp only [UnpackedFloat.unpack, unpackMantissa_packComponents, unpackExponent_packComponents,
    unpackSign_packComponents]
  rw [if_neg h1', if_pos trivial, dif_neg h0']
  exact finite_congr rfl rfl _ _

theorem pack_finite (s : Sign) {m : ℕ} (e : ℤ) (h : 0 < m) :
    UnpackedFloat.pack Format.binary64 (.finite s m e h) =
      if 2048 ≤ (e + 1075).toNat + 1 then packedInfinity Format.binary64 s
      else packComponents Format.binary64 s
        (if m.log2 = 52 then BitVec.ofNat 11 (e + 1075).toNat else 0#11) (BitVec.ofNat 52 m) := by
  have hbias : e + Format.binary64.exponentBias + Format.binary64.mantissaBitsWithoutImplicit
      = e + 1075 := by
    change e + 1023 + 52 = e + 1075
    omega
  rw [UnpackedFloat.pack, hbias]
  change (if 2048 ≤ _ then _ else if m.log2 + 1 = 53 then _ else _) = _
  split_ifs with _ hfull hlog hlog
  · rfl
  · rfl
  · omega
  · omega
  · rfl

theorem unpack_pack (u : UnpackedFloat) :
    (Float.Model.pack u).unpack =
      UnpackedFloat.unpack Format.binary64 (UnpackedFloat.pack Format.binary64 u) :=
  rfl

theorem unpack_pack_infinity (s : Sign) : (Float.Model.pack (.infinity s)).unpack = .infinity s := by
  cases s <;> rfl

theorem unpack_pack_zero (s : Sign) : (Float.Model.pack (.zero s)).unpack = .zero s := by
  cases s <;> rfl

theorem unpack_pack_of_lt (s : Sign) {m : ℕ} {e : ℤ} (h : 0 < m) (he : 971 < e) :
    (Float.Model.pack (.finite s m e h)).unpack = .infinity s := by
  rw [unpack_pack, pack_finite, if_pos (by omega)]
  exact unpack_pack_infinity s

theorem unpack_pack_finite (s : Sign) {m : ℕ} {e : ℤ} (h : 0 < m) (hs : IsStored m e) :
    (Float.Model.pack (.finite s m e h)).unpack = .finite s m e h := by
  obtain ⟨hlt, hge, hle, hfull⟩ := hs
  rw [unpack_pack, pack_finite, if_neg (by omega)]
  have hm : (BitVec.ofNat 52 m).toNat = m % 2 ^ 52 := BitVec.toNat_ofNat ..
  by_cases hbig : 2 ^ 52 ≤ m
  · -- the first digit of a full mantissa is not kept, and unpacking puts it back
    have hlog : m.log2 = 52 := (Nat.log2_eq_iff h.ne').mpr ⟨hbig, hlt⟩
    have he : (BitVec.ofNat 11 (e + 1075).toNat).toNat = (e + 1075).toNat := by
      rw [BitVec.toNat_ofNat, Nat.mod_eq_of_lt (by omega)]
    rw [if_pos hlog, unpack_packComponents_of_full s _ (by omega) (by omega)]
    apply finite_congr
    · omega
    · omega
  · have hlog : m.log2 ≠ 52 := fun hlog => hbig ((Nat.log2_eq_iff h.ne').mp hlog).1
    have hm' : (BitVec.ofNat 52 m).toNat = m := by omega
    rw [if_neg hlog, unpack_packComponents_of_small s (by omega)]
    apply finite_congr
    · exact hm'
    · omega

theorem isStored_of_unpack {x : Float.Model} {s : Sign} {m : ℕ} {e : ℤ} {h : 0 < m}
    (hx : x.unpack = .finite s m e h) : IsStored m e := by
  have hmantissa : (@unpackMantissa Format.binary64 x.toBits.toBitVec).toNat < 2 ^ 52 :=
    (@unpackMantissa Format.binary64 x.toBits.toBitVec).isLt
  have hexponent : (@unpackExponent Format.binary64 x.toBits.toBitVec).toNat < 2048 :=
    (@unpackExponent Format.binary64 x.toBits.toBitVec).isLt
  have hbias :
      (Format.binary64.exponentBias : ℤ) + Format.binary64.mantissaBitsWithoutImplicit = 1075 :=
    rfl
  unfold Float.Model.unpack UnpackedFloat.unpack at hx
  dsimp only at hx
  rw [hbias] at hx
  split_ifs at hx with h1 h2 h3 h4
  · injection hx with _ hm he
    rw [h3] at he
    change (0 : ℤ) - 1075 + 1 = e at he
    constructor <;> omega
  · have hhigh : (@unpackExponent Format.binary64 x.toBits.toBitVec).toNat ≠ 2047 :=
      fun heq => h1 (BitVec.eq_of_toNat_eq heq)
    have hlow : (@unpackExponent Format.binary64 x.toBits.toBitVec).toNat ≠ 0 :=
      fun heq => h3 (BitVec.eq_of_toNat_eq heq)
    injection hx with _ hm he
    rw [toNat_one_append] at hm
    change 2 ^ 52 + _ = m at hm
    constructor <;> omega

theorem two_zpow_le_of_full {m : ℕ} (h : 2 ^ 52 ≤ m) (e : ℤ) : (2 : ℚ) ^ (52 + e) ≤ m * 2 ^ e := by
  have hm : (2 : ℚ) ^ (52 : ℤ) ≤ m := by exact_mod_cast h
  rw [two_zpow_add]
  exact mul_le_mul_of_nonneg_right hm (two_zpow_pos e).le

namespace IsStored

variable {m m' : ℕ} {e e' t : ℤ}

theorem onGrid (h : IsStored m e) : OnGrid (m * 2 ^ e) := ⟨m, e, h.lt.le, h.ge, rfl⟩

theorem lt_two_zpow (h : IsStored m e) : (m : ℚ) * 2 ^ e < 2 ^ (53 + e) := by
  have hm : (m : ℚ) < 2 ^ (53 : ℤ) := by exact_mod_cast h.lt
  rw [two_zpow_add]
  exact mul_lt_mul_of_pos_right hm (two_zpow_pos e)

theorem le_of_exponent_le (h : IsStored m e) (hle : e ≤ t) :
    (m : ℚ) * 2 ^ e ≤ (2 ^ 53 - 1) * 2 ^ t := by
  have hm : (m : ℚ) ≤ 2 ^ 53 - 1 := by
    rw [le_sub_iff_add_le]
    exact_mod_cast h.lt
  exact mul_le_mul hm (two_zpow_le hle) (two_zpow_pos e).le (by norm_num)

theorem lt_of_exponent_lt (h : IsStored m e) (h' : IsStored m' e') (hlt : e < e') :
    (m : ℚ) * 2 ^ e < m' * 2 ^ e' := by
  have hge := h.ge
  calc
    (m : ℚ) * 2 ^ e < 2 ^ (53 + e) := h.lt_two_zpow
    _ ≤ 2 ^ (52 + e') := two_zpow_le (by omega)
    _ ≤ m' * 2 ^ e' := two_zpow_le_of_full (h'.full.resolve_right (by omega)) e'

theorem compare_eq (h : IsStored m e) (h' : IsStored m' e') :
    (compare e e').then (compare m m') = compare ((m : ℚ) * 2 ^ e) (m' * 2 ^ e') := by
  rcases lt_trichotomy e e' with hlt | rfl | hgt
  · rw [compare_lt_iff_lt.mpr hlt, compare_lt_iff_lt.mpr (h.lt_of_exponent_lt h' hlt)]
    rfl
  · have hpos := two_zpow_pos e
    rw [compare_eq_iff_eq.mpr rfl]
    change compare m m' = _
    rcases lt_trichotomy m m' with hlt | rfl | hgt
    · rw [compare_lt_iff_lt.mpr hlt, eq_comm, compare_lt_iff_lt]
      exact mul_lt_mul_of_pos_right (by exact_mod_cast hlt) hpos
    · rw [compare_eq_iff_eq.mpr rfl, compare_eq_iff_eq.mpr rfl]
    · rw [compare_gt_iff_gt.mpr hgt, eq_comm, compare_gt_iff_gt]
      exact mul_lt_mul_of_pos_right (by exact_mod_cast hgt) hpos
  · rw [compare_gt_iff_gt.mpr hgt, compare_gt_iff_gt.mpr (h'.lt_of_exponent_lt h hgt)]
    rfl

end IsStored

/-- The number that a double is, if it is one and not negative. Both zeros are zero. -/
inductive Stands : UnpackedFloat → ℚ → Prop
  | zero (s : Sign) : Stands (.zero s) 0
  | finite {m : ℕ} {e : ℤ} (h : 0 < m) (hs : IsStored m e) :
      Stands (.finite .positive m e h) (m * 2 ^ e)

variable {u v : UnpackedFloat} {q r : ℚ}

namespace Stands

theorem onGrid (h : Stands u q) : OnGrid q := by
  cases h with
  | zero s => exact onGrid_zero
  | finite _ hs => exact hs.onGrid

theorem nonneg (h : Stands u q) : 0 ≤ q := h.onGrid.nonneg

theorem lt_two_zpow (h : Stands u q) : q < 2 ^ (1024 : ℤ) := by
  cases h with
  | zero s => exact two_zpow_pos _
  | @finite m e _ hs =>
    have he := hs.le
    exact hs.lt_two_zpow.trans_le (two_zpow_le (by omega))

theorem unpack_pack (h : Stands u q) : (Float.Model.pack u).unpack = u := by
  cases h with
  | zero s => exact unpack_pack_zero s
  | finite h hs => exact unpack_pack_finite _ h hs

theorem compare_eq (hu : Stands u q) (hv : Stands v r) : u.compare v = some (compare q r) := by
  cases hu with
  | zero s =>
    cases hv with
    | zero t => rw [compare_eq_iff_eq.mpr rfl]; rfl
    | @finite m e h hs =>
      have hpos : (0 : ℚ) < m * 2 ^ e := mul_pos (by exact_mod_cast h) (two_zpow_pos e)
      rw [compare_lt_iff_lt.mpr hpos]; rfl
  | @finite m e h hs =>
    cases hv with
    | zero t =>
      have hpos : (0 : ℚ) < m * 2 ^ e := mul_pos (by exact_mod_cast h) (two_zpow_pos e)
      rw [compare_gt_iff_gt.mpr hpos]; rfl
    | finite h' hs' => exact congrArg some (hs.compare_eq hs')

theorem functional (h : Stands u q) (h' : Stands u r) : q = r := by
  have hcompare := h.compare_eq h'
  have hself := h.compare_eq h
  rw [hcompare, compare_eq_iff_eq.mpr rfl, Option.some_inj] at hself
  exact compare_eq_iff_eq.mp hself

theorem unique (h : Stands u q) (h' : Stands v q) (hq : 0 < q) : u = v := by
  cases h with
  | zero s => exact absurd hq (lt_irrefl 0)
  | @finite m e hm hs =>
    generalize hr : (m : ℚ) * 2 ^ e = r at h' hq
    cases h' with
    | zero s => exact absurd hq (lt_irrefl 0)
    | @finite n f hn hs' =>
      have he : e = f := by
        rcases lt_trichotomy e f with hlt | heq | hgt
        · exact absurd hr (hs.lt_of_exponent_lt hs' hlt).ne
        · exact heq
        · exact absurd hr (hs'.lt_of_exponent_lt hs hgt).ne'
      subst he
      have hmn : m = n := by
        exact_mod_cast mul_right_cancel₀ (two_zpow_pos e).ne' hr
      exact finite_congr hmn rfl hm hn

end Stands

/-- The double `x` is the number `q`, which is not negative. -/
def IsNumber (x : Float) (q : ℚ) : Prop := Stands x.toModel.unpack q

def IsInfinite (x : Float) : Prop := x.toModel.unpack = .infinity .positive

variable {x y : Float}

namespace IsNumber

theorem onGrid (h : IsNumber x q) : OnGrid q := Stands.onGrid h

theorem nonneg (h : IsNumber x q) : 0 ≤ q := Stands.nonneg h

theorem functional (h : IsNumber x q) (h' : IsNumber x r) : q = r := Stands.functional h h'

theorem lt_iff (hx : IsNumber x q) (hy : IsNumber y r) : x < y ↔ q < r := by
  change decide ((x.toModel.unpack.compare y.toModel.unpack == some .lt) = true) = true ↔ _
  rw [Stands.compare_eq hx hy, decide_eq_true_iff, beq_iff_eq, Option.some_inj, compare_lt_iff_lt]

theorem le_iff (hx : IsNumber x q) (hy : IsNumber y r) : x ≤ y ↔ q ≤ r := by
  change decide ((x.toModel.unpack.compare y.toModel.unpack).any (·.isLE) = true) = true ↔ _
  rw [Stands.compare_eq hx hy, decide_eq_true_iff, Option.any_some, ← compare_le_iff_le]
  cases compare q r <;> decide

theorem beq_iff (hx : IsNumber x q) (hy : IsNumber y r) : (x == y) = true ↔ q = r := by
  change (x.toModel.unpack.compare y.toModel.unpack == some .eq) = true ↔ _
  rw [Stands.compare_eq hx hy, beq_iff_eq, Option.some_inj, compare_eq_iff_eq]

theorem isFinite (hx : IsNumber x q) : x.isFinite = true := by
  change x.toModel.unpack.isFinite = true
  unfold IsNumber at hx
  generalize x.toModel.unpack = u at hx
  cases hx <;> rfl

theorem isNaN_eq_false (hx : IsNumber x q) : x.isNaN = false := by
  change x.toModel.unpack.isNaN = false
  unfold IsNumber at hx
  generalize x.toModel.unpack = u at hx
  cases hx <;> rfl

end IsNumber

theorem isFinite_eq_false_of_isNaN (hx : x.isNaN = true) : x.isFinite = false := by
  change x.toModel.unpack.isNaN = true at hx
  change x.toModel.unpack.isFinite = false
  generalize x.toModel.unpack = u at hx
  cases u <;> first | rfl | cases hx

theorem isNumber_zero : IsNumber 0 0 := Stands.zero .positive

theorem exists_isNumber (hfinite : x.isFinite = true) (hneg : ¬x < 0) : ∃ q, IsNumber x q := by
  change x.toModel.unpack.isFinite = true at hfinite
  have hcompare : x.toModel.unpack.compare (.zero .positive) ≠ some .lt := by
    intro hlt
    apply hneg
    change decide ((x.toModel.unpack.compare (.zero .positive) == some .lt) = true) = true
    rw [hlt]
    rfl
  rcases hu : x.toModel.unpack with s | _ | s | ⟨s, m, e, h⟩
  · rw [hu] at hfinite
    cases hfinite
  · rw [hu] at hfinite
    cases hfinite
  · exact ⟨0, by rw [IsNumber, hu]; exact .zero s⟩
  · cases s with
    | negative =>
      rw [hu] at hcompare
      exact absurd rfl hcompare
    | positive => exact ⟨m * 2 ^ e, by rw [IsNumber, hu]; exact .finite h (isStored_of_unpack hu)⟩

end Fidelity.Double
