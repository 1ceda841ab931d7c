import Fidelity.Unicode.Ranges

/-! The twenty-five white-space characters. The information separators U+001C to U+001F, the
zero-width space and the byte order mark are not white space. -/
namespace Fidelity.Unicode

def whiteSpaceRanges : Ranges := [
  (0x9, 0xD), (0x20, 0x20), (0x85, 0x85), (0xA0, 0xA0), (0x1680, 0x1680), (0x2000, 0x200A),
  (0x2028, 0x2029), (0x202F, 0x202F), (0x205F, 0x205F), (0x3000, 0x3000)]

def isWhiteSpace (c : Char) : Bool := whiteSpaceRanges.contains c.toNat

theorem forall_of_isWhiteSpace {P : Nat → Prop}
    (h : ∀ r ∈ whiteSpaceRanges, ∀ k < r.2 + 1 - r.1, P (r.1 + k)) {c : Char}
    (hc : isWhiteSpace c = true) : P c.toNat := by
  obtain ⟨⟨lo, hi⟩, hr, hlo, hhi⟩ := Ranges.exists_of_contains hc
  have hP := h (lo, hi) hr (c.toNat - lo) (by dsimp only at hlo hhi ⊢; omega)
  dsimp only at hlo hP
  rwa [Nat.add_sub_cancel' hlo] at hP

theorem isWhiteSpace_space : isWhiteSpace ' ' = true := by decide

end Fidelity.Unicode
