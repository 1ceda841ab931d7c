import Fidelity.Text.Quoted
import Fidelity.Unicode.LetterCase

/-! Names that a user gives for one of a few choices, and what is said of a name that is none of them. -/
namespace Fidelity

structure UnknownName where
  given : String
  expected : List String
deriving DecidableEq, Repr

def UnknownName.message (e : UnknownName) : String :=
  "Invalid value '" ++ e.given ++ "'. Expected one of: ["
    ++ String.intercalate ", " (e.expected.map Text.quoted) ++ "]"

def foldCase (s : String) : String := String.ofList (Unicode.lowercase s.toList)

end Fidelity
