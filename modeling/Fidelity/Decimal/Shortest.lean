import Fidelity.Decimal.Binary

/-!
# The shortest decimal of a double

Among the decimals that lie closer to a double than to any other one, those with the fewest digits are
looked for, and of these the one nearest to it. Digit counts are tried from one up. On the grid of
decimals with so many digits only the two neighbours of the value can be the nearest hit.
-/
namespace Fidelity.Decimal

structure Scaled where
  significand : Nat
  exponent : Int
deriving DecidableEq, Repr

inductive Tie where
  | even
  | up
deriving DecidableEq, Repr

/-- The reals that round to one double, as numerators over one denominator. Its ends belong to it exactly
if `closed`. -/
structure Interval where
  low : Nat
  value : Nat
  high : Nat
  denominator : Nat
  closed : Bool
deriving DecidableEq, Repr

/-- Around `m * 2 ^ q` the interval reaches half a step up and half a step down, and only a quarter down
where the step changes. -/
def Interval.around (m : Nat) (q : Int) : Interval :=
  let down := if m = fractionLimit ∧ -1074 < q then 1 else 2
  let scale := scaleBinary 1 (q - 2)
  ⟨(4 * m - down) * scale.1, 4 * m * scale.1, (4 * m + 2) * scale.1, scale.2, m % 2 == 0⟩

def digitCount (n : Nat) : Nat := (Nat.toDigits 10 n).length

def reach : Nat := 400

def leadingExponent (numerator denominator : Nat) : Int :=
  (digitCount (numerator * Nat.pow 10 reach / denominator) : Int) - (reach + 1)

def Interval.inUnits (i : Interval) (k : Int) : Interval :=
  if 0 ≤ k then { i with denominator := i.denominator * Nat.pow 10 k.toNat }
  else
    let p := Nat.pow 10 (-k).toNat
    { i with low := i.low * p, value := i.value * p, high := i.high * p }

def Interval.holds (i : Interval) (n : Nat) : Bool :=
  let x := n * i.denominator
  if i.closed then i.low ≤ x && x ≤ i.high else i.low < x && x < i.high

def Interval.pick? (tie : Tie) (i : Interval) : Option Nat :=
  let below := i.value / i.denominator
  let above := below + 1
  match i.holds below, i.holds above with
  | false, false => none
  | true, false => some below
  | false, true => some above
  | true, true =>
    let twice := 2 * (i.value - below * i.denominator)
    if twice < i.denominator then some below
    else if i.denominator < twice then some above
    else match tie with
      | .up => some above
      | .even => some (if below % 2 = 0 then below else above)

def stripZeros (fuel : Nat) (d : Scaled) : Scaled :=
  match fuel with
  | 0 => d
  | fuel + 1 =>
    if d.significand ≠ 0 ∧ d.significand % 10 = 0 then
      stripZeros fuel ⟨d.significand / 10, d.exponent + 1⟩
    else d

def Interval.decimal? (tie : Tie) (i : Interval) (k : Int) : Option Scaled :=
  ((i.inUnits k).pick? tie).map fun s => ⟨s, k⟩

/-- The shortest decimal of the positive double `m * 2 ^ q`. Seventeen digits always suffice. -/
def shortest (tie : Tie) (m : Nat) (q : Int) : Scaled :=
  let i := Interval.around m q
  let leading := leadingExponent i.value i.denominator
  stripZeros 17 (((List.range 17).findSome? fun n : Nat => i.decimal? tie (leading - n)).getD ⟨m, q⟩)

end Fidelity.Decimal
