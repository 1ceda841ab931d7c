import Fidelity.Proofs.Double.Stored

/-!
# What rounding a mantissa does

An operation on doubles computes a mantissa with a round bit and a sticky bit, shifts it to as many
digits as a double holds, and rounds. Main statement: if the bits locate the exact number, what is
stored is that number rounded, or infinity.
-/
open Float.Model (Format UnpackedFloat totalExponent)
open Float.Model.UnpackedFloat

namespace Fidelity.Double

/-- What is stored of `z`, which is not negative: `z` itself, unless it is too great. -/
def Lands (u : UnpackedFloat) (z : ℚ) : Prop :=
  z < 2 ^ (1024 : ℤ) ∧ Stands u z ∨ 2 ^ (1024 : ℤ) ≤ z ∧ u = .infinity .positive

def Settles (u : UnpackedFloat) (q : ℚ) : Prop := ∃ z, IsRounded q z ∧ Lands u z

def halfBit (b : Bool) : ℚ := if b then 1 / 2 else 0

/-- The round bit of `em` is the first one lost of `q`, and the sticky bit tells of the others. -/
structure Locates (em : ExtendedMantissa) (e : ℤ) (q : ℚ) : Prop where
  eq_of_not_sticky : em.stickyBit = false → q = (em.mantissa + halfBit em.roundBit) * 2 ^ e
  lt_of_sticky : em.stickyBit = true → (em.mantissa + halfBit em.roundBit) * 2 ^ e < q
  lt_add_half : q < (em.mantissa + halfBit em.roundBit) * 2 ^ e + 2 ^ e / 2

theorem halfBit_eq_or (b : Bool) : halfBit b = 0 ∨ halfBit b = 1 / 2 := by
  cases b
  · exact .inl rfl
  · exact .inr rfl

variable {em : ExtendedMantissa} {e t : ℤ} {m : ℕ} {q : ℚ}

theorem locates_exact : Locates (.ofMantissaAndAccuracy m .exact) e (m * 2 ^ e) := by
  have he := two_zpow_pos e
  constructor
  · intro _
    simp [ExtendedMantissa.ofMantissaAndAccuracy, halfBit]
  · intro h
    cases h
  · simp only [ExtendedMantissa.ofMantissaAndAccuracy, halfBit]
    norm_num
    exact he

theorem roundedMantissa_le_succ (em : ExtendedMantissa) : em.roundedMantissa ≤ em.mantissa + 1 := by
  obtain ⟨m, roundBit, stickyBit⟩ := em
  have hbit := Nat.mod_lt m two_pos
  cases roundBit with
  | false => cases stickyBit <;> exact Nat.le_succ m
  | true =>
    cases stickyBit with
    | false => exact Nat.add_le_add_left (Nat.le_of_lt_succ hbit) m
    | true => exact le_rfl

namespace Locates

theorem le (h : Locates em e q) : (em.mantissa + halfBit em.roundBit) * 2 ^ e ≤ q := by
  cases hs : em.stickyBit with
  | false => exact (h.eq_of_not_sticky hs).ge
  | true => exact (h.lt_of_sticky hs).le

theorem mantissa_le (h : Locates em e q) : em.mantissa * 2 ^ e ≤ q := by
  refine le_trans (mul_le_mul_of_nonneg_right ?_ (two_zpow_pos e).le) h.le
  rcases halfBit_eq_or em.roundBit with hb | hb <;> rw [hb] <;> norm_num

theorem lt_succ (h : Locates em e q) : q < (em.mantissa + 1) * 2 ^ e := by
  have he := two_zpow_pos e
  have hlt := h.lt_add_half
  rcases halfBit_eq_or em.roundBit with hb | hb <;> rw [hb] at hlt <;> linarith

theorem shiftRightOne (h : Locates em e q) : Locates em.shiftRightOne (e + 1) q := by
  have he := two_zpow_pos e
  have hdouble : (2 : ℚ) ^ (e + 1) = 2 ^ e * 2 := zpow_add_one₀ two_ne_zero e
  have hlow : ((em.mantissa / 2 : ℕ) + halfBit (em.mantissa % 2 != 0)) * (2 : ℚ) ^ (e + 1) =
      em.mantissa * 2 ^ e := by
    have hsplit : ((em.mantissa / 2 : ℕ) : ℚ) * 2 + (em.mantissa % 2 : ℕ) = em.mantissa := by
      exact_mod_cast Nat.div_add_mod' em.mantissa 2
    rcases Nat.mod_two_eq_zero_or_one em.mantissa with hbit | hbit <;> rw [hbit] at hsplit ⊢ <;>
      rw [hdouble, ← hsplit] <;> simp [halfBit] <;> ring
  constructor
  · intro hs
    obtain ⟨hround, hsticky⟩ := Bool.or_eq_false_iff.mp hs
    have heq := h.eq_of_not_sticky hsticky
    rw [hround] at heq
    change q = ((em.mantissa / 2 : ℕ) + halfBit (em.mantissa % 2 != 0)) * 2 ^ (e + 1)
    rw [hlow, heq]
    simp [halfBit]
  · intro hs
    change ((em.mantissa / 2 : ℕ) + halfBit (em.mantissa % 2 != 0)) * (2 : ℚ) ^ (e + 1) < q
    rw [hlow]
    cases hround : em.roundBit with
    | true =>
      have hle := h.le
      rw [hround] at hle
      simp only [halfBit, if_true] at hle
      linarith
    | false =>
      have hlt := h.lt_of_sticky (by simpa [ExtendedMantissa.shiftRightOne, hround] using hs)
      rw [hround] at hlt
      simpa [halfBit] using hlt
  · change q <
      ((em.mantissa / 2 : ℕ) + halfBit (em.mantissa % 2 != 0)) * 2 ^ (e + 1) + 2 ^ (e + 1) / 2
    have hlt := h.lt_succ
    rw [hlow, hdouble]
    linarith

theorem shiftRight (h : Locates em e q) (n : ℕ) : Locates (em >>> n) (e + n) q := by
  change Locates (n.repeat ExtendedMantissa.shiftRightOne em) (e + n) q
  induction n with
  | zero => simpa [Nat.repeat] using h
  | succ n ih =>
    have hcast : e + ((n + 1 : ℕ) : ℤ) = e + n + 1 := by
      push_cast
      ring
    rw [Nat.repeat, hcast]
    exact ih.shiftRightOne

theorem near (h : Locates em e q) : |em.roundedMantissa * 2 ^ e - q| ≤ 2 ^ e / 2 := by
  have he := two_zpow_pos e
  obtain ⟨m, roundBit, stickyBit⟩ := em
  obtain ⟨heq, hlt, hhalf⟩ := h
  rw [abs_le]
  cases roundBit with
  | false =>
    have hround : ExtendedMantissa.roundedMantissa ⟨m, false, stickyBit⟩ = m := by
      cases stickyBit <;> rfl
    have hle : (m : ℚ) * 2 ^ e ≤ q := by
      cases stickyBit with
      | false => simpa [halfBit] using (heq rfl).ge
      | true => simpa [halfBit] using (hlt rfl).le
    simp only [halfBit, Bool.false_eq_true, if_false] at hhalf
    rw [hround]
    constructor <;> linarith
  | true =>
    cases stickyBit with
    | false =>
      have hmid : q = (m + 1 / 2) * 2 ^ e := by simpa [halfBit] using heq rfl
      change _ ≤ ((m + m % 2 : ℕ) : ℚ) * 2 ^ e - q ∧ ((m + m % 2 : ℕ) : ℚ) * 2 ^ e - q ≤ _
      rw [hmid]
      rcases Nat.mod_two_eq_zero_or_one m with hbit | hbit <;> rw [hbit] <;> constructor <;>
        push_cast <;> linarith
    | true =>
      have hmid : (m + 1 / 2) * 2 ^ e < q := by simpa [halfBit] using hlt rfl
      simp only [halfBit, if_true] at hhalf
      change _ ≤ ((m + 1 : ℕ) : ℚ) * 2 ^ e - q ∧ ((m + 1 : ℕ) : ℚ) * 2 ^ e - q ≤ _
      constructor <;> push_cast <;> linarith

theorem roundedMantissa_le (h : Locates em e q) (hlt : q < 2 ^ (53 + e)) :
    em.roundedMantissa ≤ 2 ^ 53 := by
  have hcut : (em.mantissa : ℚ) < 2 ^ (53 : ℤ) := by
    rw [two_zpow_add] at hlt
    exact lt_of_mul_lt_mul_right (h.mantissa_le.trans_lt hlt) (two_zpow_pos e).le
  have hcut' : em.mantissa < 2 ^ 53 := by exact_mod_cast hcut
  have hsucc := roundedMantissa_le_succ em
  omega

theorem le_roundedMantissa (h : Locates em e q) (hge : 2 ^ (52 + e) ≤ q) :
    2 ^ 52 ≤ em.roundedMantissa := by
  have he := two_zpow_pos e
  have hdown := (abs_le.mp h.near).1
  rw [two_zpow_add] at hge
  have hmul : ((2 : ℚ) ^ (52 : ℤ) - 1) * 2 ^ e < em.roundedMantissa * 2 ^ e := by
    rw [sub_mul, one_mul]
    linarith
  have hcast := lt_of_mul_lt_mul_right hmul he.le
  rw [sub_lt_iff_lt_add] at hcast
  have hnat : 2 ^ 52 < em.roundedMantissa + 1 := by exact_mod_cast hcast
  omega

end Locates

def fitExponent (m : ℕ) (e : ℤ) : ℤ := max (m.log2 + e - 52) (-1074)

theorem targetExponent_eq (m : ℕ) (e : ℤ) :
    Format.binary64.targetExponent (totalExponent m e) = fitExponent m e := by
  change max ((m.log2 : ℤ) + 1 + e - 53) (-1074) = fitExponent m e
  rw [fitExponent]
  congr 1
  omega

theorem log2_le_of_lt {m n : ℕ} (h : m < 2 ^ (n + 1)) : m.log2 ≤ n := by
  rcases Nat.eq_zero_or_pos m with rfl | hm
  · simp
  · exact Nat.le_of_lt_succ ((Nat.log2_lt hm.ne').mpr h)

theorem le_log2_of_le {m n : ℕ} (h : 2 ^ n ≤ m) : n ≤ m.log2 :=
  (Nat.le_log2 (Nat.pos_of_neZero (2 ^ n) |>.trans_le h).ne').mpr h

variable {s : Sign} {acc : Accuracy}

def fit (m : ℕ) (e : ℤ) (acc : Accuracy) : ExtendedMantissa :=
  ExtendedMantissa.ofMantissaAndAccuracy m acc >>> (fitExponent m e - e).toNat

theorem shiftToTargetExponent_eq (h : e ≤ fitExponent m e) :
    shiftToTargetExponent Format.binary64 m e acc = (fit m e acc, fitExponent m e) := by
  unfold shiftToTargetExponent shiftToExponent
  rw [targetExponent_eq, fit]
  dsimp only
  congr 1
  omega

def trim (s : Sign) (r : ℕ) (t : ℤ) : UnpackedFloat :=
  if h : r = 0 then .zero s
  else if r < 2 ^ 53 then .finite s r t (Nat.pos_of_ne_zero h)
  else .finite s (2 ^ 52) (t + 1) (by decide)

theorem shiftToTargetExponent_of_lt (hlt : m < 2 ^ 53) (he : -1074 ≤ e) :
    shiftToTargetExponent Format.binary64 m e .exact = (⟨m, false, false⟩, e) := by
  have hlog := log2_le_of_lt hlt
  have hnone : (fitExponent m e - e).toNat = 0 := by
    have hfit : fitExponent m e ≤ e := max_le (by omega) he
    omega
  unfold shiftToTargetExponent shiftToExponent
  rw [targetExponent_eq]
  dsimp only
  rw [hnone]
  exact Prod.ext rfl (add_zero e)

theorem shiftToTargetExponent_two_pow (he : -1074 ≤ e) :
    shiftToTargetExponent Format.binary64 (2 ^ 53) e .exact = (⟨2 ^ 52, false, false⟩, e + 1) := by
  have hone : (fitExponent (2 ^ 53) e - e).toNat = 1 := by
    rw [fitExponent, Nat.log2_two_pow, max_eq_left (by omega)]
    omega
  unfold shiftToTargetExponent shiftToExponent
  rw [targetExponent_eq]
  dsimp only
  rw [hone]
  rfl

theorem roundWithAccuracy_eq (h : e ≤ fitExponent m e)
    (hle : (fit m e acc).roundedMantissa ≤ 2 ^ 53) :
    roundWithAccuracy Format.binary64 s m e acc =
      trim s (fit m e acc).roundedMantissa (fitExponent m e) := by
  have hmin : -1074 ≤ fitExponent m e := le_max_right _ _
  unfold roundWithAccuracy
  rw [shiftToTargetExponent_eq h]
  unfold trim
  rcases hle.lt_or_eq with hlt | heq
  · simp only [shiftToTargetExponent_of_lt hlt hmin, if_pos hlt]
  · simp only [heq, shiftToTargetExponent_two_pow hmin]
    rfl

theorem lands_pack_finite (h : 0 < m) (hlt : m < 2 ^ 53) (hge : -1074 ≤ t)
    (hfull : 2 ^ 52 ≤ m ∨ t = -1074) :
    Lands (Float.Model.pack (.finite .positive m t h)).unpack (m * 2 ^ t) := by
  rcases le_or_gt t 971 with hle | hgt
  · have hs : Stands (.finite .positive m t h) (m * 2 ^ t) := .finite h ⟨hlt, hge, hle, hfull⟩
    refine .inl ⟨hs.lt_two_zpow, ?_⟩
    rwa [hs.unpack_pack]
  · refine .inr ⟨?_, unpack_pack_of_lt _ h hgt⟩
    calc
      (2 : ℚ) ^ (1024 : ℤ) ≤ 2 ^ (52 + t) := two_zpow_le (by omega)
      _ ≤ m * 2 ^ t := two_zpow_le_of_full (hfull.resolve_right (by omega)) t

theorem lands_pack_trim {r : ℕ} (hle : r ≤ 2 ^ 53) (hge : -1074 ≤ t)
    (hfull : 2 ^ 52 ≤ r ∨ t = -1074) :
    Lands (Float.Model.pack (trim .positive r t)).unpack (r * 2 ^ t) := by
  unfold trim
  split_ifs with hzero hlt
  · subst hzero
    refine .inl ⟨by simp, ?_⟩
    rw [unpack_pack_zero]
    simpa using Stands.zero .positive
  · exact lands_pack_finite _ hlt hge hfull
  · obtain rfl : r = 2 ^ 53 := le_antisymm hle (not_lt.mp hlt)
    have hhalf : ((2 ^ 53 : ℕ) : ℚ) * 2 ^ t = ((2 ^ 52 : ℕ) : ℚ) * 2 ^ (t + 1) := by
      rw [zpow_add_one₀ two_ne_zero]
      push_cast
      ring
    rw [hhalf]
    exact lands_pack_finite _ (by norm_num) (by omega) (.inl le_rfl)

theorem fitted (h : e ≤ fitExponent m e) (hle : m * 2 ^ e ≤ q) :
    fitExponent m e = -1074 ∨ (2 : ℚ) ^ (52 + fitExponent m e) ≤ q := by
  rcases le_or_gt ((m.log2 : ℤ) + e - 52) (-1074) with hsmall | hlarge
  · exact .inl (max_eq_right hsmall)
  · right
    have hexp : fitExponent m e = m.log2 + e - 52 := max_eq_left hlarge.le
    have hm : m ≠ 0 := by
      rintro rfl
      simp only [Nat.log2_zero] at hexp hlarge
      omega
    have hlow : (2 : ℚ) ^ (m.log2 : ℤ) ≤ m := by
      exact_mod_cast Nat.log2_self_le hm
    calc
      (2 : ℚ) ^ (52 + fitExponent m e) = 2 ^ (m.log2 : ℤ) * 2 ^ e := by
        rw [← two_zpow_add]
        congr 1
        omega
      _ ≤ m * 2 ^ e := mul_le_mul_of_nonneg_right hlow (two_zpow_pos e).le
      _ ≤ q := hle

theorem lt_fitted (hlt : q < (m + 1) * 2 ^ e) : q < 2 ^ (53 + fitExponent m e) := by
  have hm : (m : ℚ) + 1 ≤ 2 ^ ((m.log2 : ℤ) + 1) := by
    exact_mod_cast Nat.lt_log2_self
  calc
    q < (m + 1) * 2 ^ e := hlt
    _ ≤ 2 ^ ((m.log2 : ℤ) + 1) * 2 ^ e := mul_le_mul_of_nonneg_right hm (two_zpow_pos e).le
    _ = 2 ^ ((m.log2 : ℤ) + 1 + e) := (two_zpow_add _ _).symm
    _ ≤ 2 ^ (53 + fitExponent m e) := by
      apply two_zpow_le
      have hmax : (m.log2 : ℤ) + e - 52 ≤ fitExponent m e := le_max_left _ _
      omega

theorem settles_roundWithAccuracy (h : e ≤ fitExponent m e)
    (hq : Locates (.ofMantissaAndAccuracy m acc) e q) :
    Settles (Float.Model.pack (roundWithAccuracy Format.binary64 .positive m e acc)).unpack q := by
  have hmantissa : (ExtendedMantissa.ofMantissaAndAccuracy m acc).mantissa = m := by
    rcases acc with _ | o
    · rfl
    · cases o <;> rfl
  have hlow := hq.mantissa_le
  have hhigh := hq.lt_succ
  rw [hmantissa] at hlow hhigh
  have hmin : -1074 ≤ fitExponent m e := le_max_right _ _
  have hfull := fitted h hlow
  have hfit : Locates (fit m e acc) (fitExponent m e) q := by
    have hshift := hq.shiftRight (fitExponent m e - e).toNat
    rwa [show e + ((fitExponent m e - e).toNat : ℤ) = fitExponent m e by omega] at hshift
  have hle := hfit.roundedMantissa_le (lt_fitted hhigh)
  have hround : IsRounded q ((fit m e acc).roundedMantissa * 2 ^ fitExponent m e) := by
    refine ⟨_, _, hle, hmin, rfl, ?_, hfit.near⟩
    rwa [add_comm (fitExponent m e)]
  refine ⟨_, hround, ?_⟩
  rw [roundWithAccuracy_eq h hle]
  exact lands_pack_trim hle hmin (hfull.symm.imp_left hfit.le_roundedMantissa)

end Fidelity.Double
