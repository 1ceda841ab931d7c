import Fidelity.Name
import Fidelity.Unicode.Cluster

/-! The unit that one edit acts on: a character or a grapheme cluster. -/
namespace Fidelity.Edit

inductive TextUnit where
  | char
  | grapheme
deriving DecidableEq, Repr

namespace TextUnit

instance : Inhabited TextUnit := ⟨char⟩

def name : TextUnit → String
  | char => "char"
  | grapheme => "grapheme"

def names : List String := ["char", "grapheme"]

def ofName? : String → Option TextUnit
  | "char" => some char
  | "grapheme" => some grapheme
  | _ => none

def parse (s : String) : Except UnknownName TextUnit :=
  match foldCase s with
  | "char" | "chars" => .ok char
  | "grapheme" | "graphemes" => .ok grapheme
  | _ => .error ⟨s, names⟩

def length : TextUnit → String → Nat
  | char, s => s.length
  | grapheme, s => (Unicode.clusters s.toList).length

end TextUnit
end Fidelity.Edit
