import Fidelity.Decimal.Shortest

/-! How the shortest decimal of a double is written. A layout says which exponents are written
positionally, whether a whole number shows its fraction, and what stands for values that have no
digits. -/
namespace Fidelity.Decimal

structure Layout where
  /-- Least and greatest exponent of a leading digit that is written positionally; without them every one
  is. -/
  positional : Option (Int × Int)
  pointZero : Bool
  tie : Tie
  nan : String
  infinity : String
  signedInfinity : Bool

def Layout.isPositional (l : Layout) (e : Int) : Bool :=
  match l.positional with
  | none => true
  | some (least, greatest) => least ≤ e && e ≤ greatest

/-- Digits with the point after the digit of weight one; `e` is the exponent of the leading digit. -/
def positionalText (pointZero : Bool) (digits : List Char) (e : Int) : List Char :=
  if e < 0 then '0' :: '.' :: (List.replicate (-e - 1).toNat '0' ++ digits)
  else
    let whole := e.toNat + 1
    if digits.length ≤ whole then
      digits ++ List.replicate (whole - digits.length) '0' ++ (if pointZero then ['.', '0'] else [])
    else digits.take whole ++ '.' :: digits.drop whole

def exponentText (digits : List Char) (e : Int) : List Char :=
  let fraction := digits.drop 1
  digits.take 1 ++ (if fraction.isEmpty then [] else '.' :: fraction)
    ++ 'e' :: (if e < 0 then '-' else '+') :: Nat.toDigits 10 e.natAbs

def Layout.finiteText (l : Layout) (m : Nat) (q : Int) : List Char :=
  if m = 0 then positionalText l.pointZero ['0'] 0
  else
    let d := shortest l.tie m q
    let digits := Nat.toDigits 10 d.significand
    let e := d.exponent + (digits.length : Int) - 1
    if l.isPositional e then positionalText l.pointZero digits e else exponentText digits e

def Layout.render (l : Layout) (x : Float) : String :=
  let p := Parts.ofFloat x
  let sign := if p.negative then "-" else ""
  match p.magnitude with
  | .nan => l.nan
  | .infinite => if l.signedInfinity then sign ++ l.infinity else l.infinity
  | .finite m q => sign ++ String.ofList (l.finiteText m q)

end Fidelity.Decimal
