import Fidelity.Name
import Fidelity.Text.Words
import Fidelity.Unicode.NormalForm

/-! What may be done to both texts of a pair before they are compared. -/
namespace Fidelity.Text

inductive Preparation where
  | lowercase
  | nfc
  | nfkc
  | collapseWhitespace
deriving DecidableEq, Repr

def collapse (s : List Char) : List Char := unwords (words s)

namespace Preparation

def name : Preparation → String
  | lowercase => "lowercase"
  | nfc => "nfc"
  | nfkc => "nfkc"
  | collapseWhitespace => "collapse_whitespace"

def names : List String := ["lowercase", "nfc", "nfkc", "collapse_whitespace"]

def ofName? : String → Option Preparation
  | "lowercase" => some lowercase
  | "nfc" => some nfc
  | "nfkc" => some nfkc
  | "collapse_whitespace" => some collapseWhitespace
  | _ => none

def parse (s : String) : Except UnknownName Preparation :=
  match foldCase s with
  | "lowercase" => .ok lowercase
  | "nfc" | "unicode_nfc" => .ok nfc
  | "nfkc" | "unicode_nfkc" => .ok nfkc
  | "collapse_whitespace" | "whitespace" => .ok collapseWhitespace
  | _ => .error ⟨s, names⟩

def applyChars : Preparation → List Char → List Char
  | lowercase => Unicode.lowercase
  | nfc => Unicode.nfc
  | nfkc => Unicode.nfkc
  | collapseWhitespace => collapse

def apply (p : Preparation) (s : String) : String := String.ofList (p.applyChars s.toList)

end Preparation

def prepare (ps : List Preparation) (s : String) : String := ps.foldl (fun t p => p.apply t) s

end Fidelity.Text
