/-! What a double stands for: a sign and a magnitude, which is a natural number times a power of two
unless it is infinite or no number. -/
namespace Fidelity.Decimal

inductive Magnitude where
  | nan
  | infinite
  | finite (significand : Nat) (exponent : Int)
deriving DecidableEq, Repr

structure Parts where
  negative : Bool
  magnitude : Magnitude
deriving DecidableEq, Repr

def fractionLimit : Nat := 0x10000000000000

/-- The parts of the double whose 64 bits are `bits`: sign, eleven bits of exponent, fifty-two of
fraction. -/
def Parts.ofBits (bits : Nat) : Parts :=
  let fraction := bits % fractionLimit
  let biased : Nat := bits / fractionLimit % 0x800
  ⟨bits / 0x8000000000000000 % 2 == 1,
    if biased = 2047 then (if fraction = 0 then .infinite else .nan)
    else if biased = 0 then .finite fraction (-1074)
    else .finite (fractionLimit + fraction) (biased - 1075)⟩

def Parts.ofFloat (x : Float) : Parts := Parts.ofBits x.toBits.toNat

def scaleBinary (n : Nat) (e : Int) : Nat × Nat :=
  if 0 ≤ e then (n * Nat.pow 2 e.toNat, 1) else (n, Nat.pow 2 (-e).toNat)

end Fidelity.Decimal
