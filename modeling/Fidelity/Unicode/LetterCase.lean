import Fidelity.Unicode.CaseTable

/-! Lower case. Every character has a lower-case form of its own except the capital sigma, whose form
depends on the word around it: it is final when a cased letter stands before it and none after it,
case-ignorable characters not counted. One character, the capital I with a dot above, becomes two. -/
namespace Fidelity.Unicode

def CaseRun.covers (r : CaseRun) (n : Nat) : Bool :=
  r.first ≤ n && n ≤ r.last && (n - r.first) % r.step == 0

/-- The runs are ascending and apart, so the first one that does not lie below `n` decides. -/
def lowerCode (n : Nat) : List CaseRun → Nat
  | [] => n
  | r :: rest =>
    if n ≤ r.last then
      if r.covers n then r.image + (n - r.first) else n
    else lowerCode n rest

def lowerChar (c : Char) : List Char :=
  if c = 'İ' then ['i', '\u0307'] else [Char.ofNat (lowerCode c.toNat lowerRuns)]

def isCased (c : Char) : Bool := casedRanges.contains c.toNat

def isCaseIgnorable (c : Char) : Bool := caseIgnorableRanges.contains c.toNat

def meetsCased : List Char → Bool
  | [] => false
  | c :: rest => if isCaseIgnorable c then meetsCased rest else isCased c

/-- The form of a capital sigma, given what stands before it, nearest first, and after it. -/
def lowerSigma (before after : List Char) : Char :=
  if meetsCased before && !meetsCased after then 'ς' else 'σ'

def lowerFrom (before : List Char) : List Char → List Char
  | [] => []
  | c :: rest =>
    (if c = 'Σ' then [lowerSigma before rest] else lowerChar c) ++ lowerFrom (c :: before) rest

def lowercase (s : List Char) : List Char := lowerFrom [] s

theorem lowerFrom_cons_of_ne_sigma {before rest : List Char} {c : Char} (h : c ≠ 'Σ') :
    lowerFrom before (c :: rest) = lowerChar c ++ lowerFrom (c :: before) rest := by
  simp [lowerFrom, h]

theorem lowerChar_ne_nil (c : Char) : lowerChar c ≠ [] := by
  unfold lowerChar
  split <;> simp

theorem length_le_length_lowerFrom (before s : List Char) :
    s.length ≤ (lowerFrom before s).length := by
  induction s generalizing before with
  | nil => simp [lowerFrom]
  | cons c rest ih =>
    have := ih (c :: before)
    simp only [lowerFrom, List.length_append, List.length_cons]
    split
    · simp only [List.length_singleton]; omega
    · have := List.length_pos_iff.mpr (lowerChar_ne_nil c)
      omega

end Fidelity.Unicode
