/-!
# Costs

A cost is a number below `2 ^ 64`. Sums and multiples that would reach beyond the greatest cost stop
there. Main statements: read as natural numbers, a sum and a multiple are the exact ones cut off at
`Cost.limit`.
-/
namespace Fidelity

structure Cost where
  units : UInt64
deriving DecidableEq, Repr

namespace Cost

def limit : Nat := 0xFFFFFFFFFFFFFFFF

def toNat (a : Cost) : Nat := a.units.toNat

def clamp (n : Nat) : Cost := ⟨UInt64.ofNat (min limit n)⟩

def zero : Cost := ⟨0⟩

def greatest : Cost := ⟨0xFFFFFFFFFFFFFFFF⟩

/-- A word that wrapped is less than either summand. -/
def add (a b : Cost) : Cost :=
  let s := a.units + b.units
  if s < a.units then greatest else ⟨s⟩

def times (n : Nat) (a : Cost) : Cost := clamp (n * a.toNat)

instance : Add Cost := ⟨add⟩

instance : LE Cost := ⟨fun a b => a.units ≤ b.units⟩

instance : LT Cost := ⟨fun a b => a.units < b.units⟩

instance (a b : Cost) : Decidable (a ≤ b) := inferInstanceAs (Decidable (a.units ≤ b.units))

instance (a b : Cost) : Decidable (a < b) := inferInstanceAs (Decidable (a.units < b.units))

instance : Min Cost := ⟨fun a b => if a ≤ b then a else b⟩

@[ext] theorem ext {a b : Cost} (h : a.toNat = b.toNat) : a = b := by
  cases a
  cases b
  congr 1
  exact UInt64.toNat_inj.mp h

theorem toNat_le_limit (a : Cost) : a.toNat ≤ limit := by
  have := a.units.toNat_lt
  simp only [toNat, limit]
  omega

theorem le_iff {a b : Cost} : a ≤ b ↔ a.toNat ≤ b.toNat := UInt64.le_iff_toNat_le

@[simp] theorem toNat_zero : zero.toNat = 0 := rfl

@[simp] theorem toNat_clamp (n : Nat) : (clamp n).toNat = min limit n := by
  simp only [toNat, clamp, limit, UInt64.toNat_ofNat']
  omega

@[simp] theorem clamp_toNat (a : Cost) : clamp a.toNat = a := by
  ext
  have := a.toNat_le_limit
  rw [toNat_clamp]
  omega

@[simp] theorem toNat_add (a b : Cost) : (a + b).toNat = min limit (a.toNat + b.toNat) := by
  have ha := a.units.toNat_lt
  have hb := b.units.toNat_lt
  change (add a b).toNat = _
  have hs : (a.units + b.units).toNat = (a.units.toNat + b.units.toNat) % 2 ^ 64 :=
    UInt64.toNat_add ..
  unfold add
  simp only [UInt64.lt_iff_toNat_lt, hs]
  split
  · change 2 ^ 64 - 1 = _
    simp only [toNat, limit]
    omega
  · change (a.units + b.units).toNat = _
    simp only [toNat, limit, hs]
    omega

@[simp] theorem toNat_times (n : Nat) (a : Cost) : (times n a).toNat = min limit (n * a.toNat) :=
  toNat_clamp _

@[simp] theorem toNat_min (a b : Cost) : (min a b).toNat = min a.toNat b.toNat := by
  change (if a ≤ b then a else b).toNat = _
  simp only [le_iff]
  split <;> omega

end Cost
end Fidelity
