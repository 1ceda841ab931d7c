import Fidelity.Edit.Weights
import Fidelity.Text.Words

/-! Weights as a user writes them: three numerals between commas, with white space around them as one
likes. The first piece that is no numeral is reported, and only then a wrong number of pieces. -/
namespace Fidelity.Command

inductive NumeralFault where
  | empty
  | invalidDigit
  | tooLarge
deriving DecidableEq, Repr

def NumeralFault.message : NumeralFault → String
  | empty => "cannot parse integer from empty string"
  | invalidDigit => "invalid digit found in string"
  | tooLarge => "number too large to fit in target type"

inductive WeightListFault where
  | badWeight (fault : NumeralFault)
  | wrongCount (given : String)
deriving DecidableEq, Repr

def WeightListFault.message : WeightListFault → String
  | badWeight fault => "invalid weight: " ++ fault.message
  | wrongCount given => "expected three comma-separated weights, got '" ++ given ++ "'"

/-- Append digits to `n`. What comes first, a character that is no digit or a number beyond 64 bits, is
the fault. -/
def digitsFrom (n : Nat) : List Char → Except NumeralFault UInt64
  | [] => .ok (UInt64.ofNat n)
  | c :: rest =>
    if c.isDigit then
      let m := 10 * n + (c.toNat - '0'.toNat)
      if m < UInt64.size then digitsFrom m rest else .error .tooLarge
    else .error .invalidDigit

def parseNumeral (s : List Char) : Except NumeralFault UInt64 :=
  match s with
  | [] => .error .empty
  | c :: rest =>
    if c = '+' then
      if rest.isEmpty then .error .invalidDigit else digitsFrom 0 rest
    else digitsFrom 0 s

def parsePieces : List (List Char) → Except NumeralFault (List UInt64)
  | [] => .ok []
  | p :: ps =>
    match parseNumeral (Text.trim p) with
    | .error e => .error e
    | .ok n => (parsePieces ps).map (n :: ·)

def parseWeights (s : String) : Except WeightListFault Edit.Weights :=
  match parsePieces (Text.splitAt ',' s.toList) with
  | .error e => .error (.badWeight e)
  | .ok [i, d, b] => .ok (.ofUnits i d b)
  | .ok _ => .error (.wrongCount s)

end Fidelity.Command
