import Fidelity.Decimal.Binary

/-! Numbers written with a fixed count of decimal places. It is the exact value of the double that is
rounded, and a value halfway between two texts goes to the one with the even last digit. -/
namespace Fidelity.Decimal

def roundHalfEven (numerator denominator : Nat) : Nat :=
  let below := numerator / denominator
  let twice := 2 * (numerator % denominator)
  if twice < denominator then below
  else if denominator < twice then below + 1
  else if below % 2 = 0 then below else below + 1

def padDigits (width n : Nat) : List Char :=
  let digits := Nat.toDigits 10 n
  List.replicate (width - digits.length) '0' ++ digits

def fixedText (places m : Nat) (q : Int) : List Char :=
  let unit := Nat.pow 10 places
  let scale := scaleBinary (m * unit) q
  let n := roundHalfEven scale.1 scale.2
  Nat.toDigits 10 (n / unit) ++ '.' :: padDigits places (n % unit)

def fixed (places : Nat) (x : Float) : String :=
  let p := Parts.ofFloat x
  let sign := if p.negative then "-" else ""
  match p.magnitude with
  | .nan => "NaN"
  | .infinite => sign ++ "inf"
  | .finite m q => sign ++ String.ofList (fixedText places m q)

def scorePlaces : Nat := 4

end Fidelity.Decimal
