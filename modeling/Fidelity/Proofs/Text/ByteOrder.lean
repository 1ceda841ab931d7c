import Mathlib

/-!
# The order of texts by their bytes

Texts compare character by character. Main statement: the bytes of their UTF-8 encodings compare in
the same way.
-/
namespace Fidelity.Text

def utf8Bytes (s : String) : List UInt8 := s.toByteArray.data.toList

theorem utf8Bytes_eq_flatMap (s : String) :
    utf8Bytes s = s.toList.flatMap String.utf8EncodeChar := by
  obtain ⟨l, rfl⟩ := s.exists_eq_ofList
  rw [utf8Bytes, String.toByteArray_ofList, String.toList_ofList]
  simp [List.utf8Encode]

theorem toNat_ofNat_of_lt {n : Nat} (h : n < 256) : (UInt8.ofNat n).toNat = n := by
  rw [UInt8.toNat_ofNat', Nat.mod_eq_of_lt h]

theorem digits_lt {m n : Nat} (h : m < n) :
    m / 262144 < n / 262144 ∨ m / 262144 = n / 262144 ∧
      (m / 4096 % 64 < n / 4096 % 64 ∨ m / 4096 % 64 = n / 4096 % 64 ∧
        (m / 64 % 64 < n / 64 % 64 ∨ m / 64 % 64 = n / 64 % 64 ∧ m % 64 < n % 64)) := by
  omega

/-- The bytes of a lesser character are less within their own length, whatever comes behind. -/
theorem utf8EncodeChar_append_lt {c d : Char} (h : c < d) (r t : List UInt8) :
    String.utf8EncodeChar c ++ r < String.utf8EncodeChar d ++ t := by
  have hcd : c.val.toNat < d.val.toNat := h
  have hd : d.val.toNat < 0x110000 := by
    have := d.valid
    simp only [UInt32.isValidChar, Nat.isValidChar] at this
    omega
  unfold String.utf8EncodeChar
  generalize c.val.toNat = m at hcd
  generalize d.val.toNat = n at hcd hd
  have hdigits := digits_lt hcd
  dsimp only
  split_ifs <;> simp only [List.cons_append, List.nil_append, List.cons_lt_cons_iff,
      UInt8.lt_iff_toNat_lt, ← UInt8.toNat_inj] <;>
    simp (disch := omega) only [toNat_ofNat_of_lt, Nat.mod_eq_of_lt] <;> omega

theorem flatMap_utf8EncodeChar_lt {s t : List Char} (h : s < t) :
    s.flatMap String.utf8EncodeChar < t.flatMap String.utf8EncodeChar := by
  induction h with
  | @nil d t =>
    rw [List.flatMap_nil, List.flatMap_cons]
    cases hd : String.utf8EncodeChar d with
    | nil => exact absurd hd String.utf8EncodeChar_ne_nil
    | cons x xs => exact List.nil_lt_cons x _
  | rel hcd => exact utf8EncodeChar_append_lt hcd _ _
  | cons _ ih =>
    rw [List.flatMap_cons, List.flatMap_cons]
    exact List.append_left_lt ih

theorem utf8Bytes_lt {s t : String} (h : s < t) : utf8Bytes s < utf8Bytes t := by
  rw [utf8Bytes_eq_flatMap, utf8Bytes_eq_flatMap]
  exact flatMap_utf8EncodeChar_lt h

end Fidelity.Text
