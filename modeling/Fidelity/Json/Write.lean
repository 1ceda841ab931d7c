import Fidelity.Decimal.Layout
import Fidelity.Json.Text

/-! JSON as it is written, on one line or with one item to a line. -/
namespace Fidelity.Json

inductive Value where
  | natural (n : UInt64)
  | real (x : Float)
  | text (s : String)
  | list (items : List Value)
  | object (members : List (String × Value))

/-- Doubles have the fewest digits that read back. From `1e+16` on, and below `1e-5`, they show an
exponent, otherwise a point. What is no finite number is `null`. -/
def realLayout : Decimal.Layout where
  positional := some (-5, 15)
  pointZero := true
  tie := .even
  nan := "null"
  infinity := "null"
  signedInfinity := false

inductive Style where
  | compact
  | indented (depth : Nat)
deriving DecidableEq, Repr

def Style.newline : Style → List Char
  | compact => []
  | indented depth => '\n' :: List.replicate (2 * depth) ' '

def Style.deeper : Style → Style
  | compact => compact
  | indented depth => indented (depth + 1)

def Style.colon : Style → List Char
  | compact => [':']
  | indented _ => [':', ' ']

def bracketed (style : Style) (opening closing : Char) : List (List Char) → List Char
  | [] => [opening, closing]
  | item :: items =>
    opening :: (style.deeper.newline ++ item
      ++ items.flatMap (fun i => ',' :: (style.deeper.newline ++ i))
      ++ style.newline ++ [closing])

mutual

def Value.write (style : Style) : Value → List Char
  | .natural n => Nat.toDigits 10 n.toNat
  | .real x => (realLayout.render x).toList
  | .text s => encodeText s
  | .list items => bracketed style '[' ']' (writeItems style.deeper items)
  | .object members => bracketed style '{' '}' (writeMembers style.deeper members)

def writeItems (style : Style) : List Value → List (List Char)
  | [] => []
  | v :: rest => v.write style :: writeItems style rest

def writeMembers (style : Style) : List (String × Value) → List (List Char)
  | [] => []
  | (k, v) :: rest => (encodeText k ++ style.colon ++ v.write style) :: writeMembers style rest

end

def Value.compact (v : Value) : String := String.ofList (v.write .compact)

def Value.pretty (v : Value) : String := String.ofList (v.write (.indented 0))

end Fidelity.Json
