import Fidelity.Unicode.ClusterTable
import Fidelity.Unicode.PrintableTable

/-! Which characters can be shown as they are in a quoted text: those that print and that do not extend
the character before them. -/
namespace Fidelity.Unicode

/-- A mark that extends what stands before it; the modifiers of skin tone are characters on their own. -/
def isGraphemeExtend (c : Char) : Bool :=
  !(0x1F3FB ≤ c.toNat && c.toNat ≤ 0x1F3FF) && extendRanges.contains c.toNat

def isPrintable (c : Char) : Bool := !unprintableRanges.contains c.toNat

def showsAlone (c : Char) : Bool := isPrintable c && !isGraphemeExtend c

end Fidelity.Unicode
