import Fidelity.Unicode.CanonicalTable
import Fidelity.Unicode.CompatibilityTable
import Fidelity.Unicode.CombiningTable

/-! Composed normal forms. A text is taken apart into base characters and marks, the marks on each base
are put in the order of their classes, and what composes is put together again. The compatibility
form also replaces characters by plainer ones of the same meaning. -/
namespace Fidelity.Unicode

structure RowReader where
  rows : Array (List Nat)
  row : List Nat
  number : Option Nat

def hexDigit? (c : Char) : Option Nat :=
  if '0' ≤ c ∧ c ≤ '9' then some (c.toNat - '0'.toNat)
  else if 'A' ≤ c ∧ c ≤ 'F' then some (c.toNat - 'A'.toNat + 10)
  else none

def RowReader.endNumber (r : RowReader) : RowReader :=
  match r.number with
  | none => r
  | some n => { r with row := n :: r.row, number := none }

def RowReader.endRow (r : RowReader) : RowReader :=
  let r := r.endNumber
  { r with rows := r.rows.push r.row.reverse, row := [] }

def RowReader.step (r : RowReader) (c : Char) : RowReader :=
  match hexDigit? c with
  | some d => { r with number := some (16 * r.number.getD 0 + d) }
  | none => if c = ';' then r.endRow else r.endNumber

def readRows (text : String) : Array (List Nat) :=
  (text.toList.foldl RowReader.step ⟨#[], [], none⟩).endRow.rows

abbrev Table (α : Type) := Array (Nat × α)

def Table.searchBetween {α : Type} (t : Table α) (key lo hi : Nat) : Option α :=
  if lo < hi then
    let mid := (lo + hi) / 2
    match t[mid]? with
    | none => none
    | some (k, v) =>
      if k = key then some v
      else if k < key then searchBetween t key (mid + 1) hi
      else searchBetween t key lo mid
  else none
termination_by hi - lo

def Table.find? {α : Type} (t : Table α) (key : Nat) : Option α := t.searchBetween key 0 t.size

def decompositionsOf (text : String) : Table (List Char) :=
  (readRows text).filterMap fun
    | [] => none
    | n :: parts => some (n, parts.map Char.ofNat)

def canonicalDecompositions : Table (List Char) := decompositionsOf canonicalText

def compatibilityDecompositions : Table (List Char) := decompositionsOf compatibilityText

def pairKey (a b : Nat) : Nat := a * 0x110000 + b

def composites : Table Char :=
  (readRows compositeText).filterMap fun
    | [a, b, c] => some (pairKey a b, Char.ofNat c)
    | _ => none

def syllableParts? (n : Nat) : Option (List Char) :=
  if 0xAC00 ≤ n ∧ n ≤ 0xD7A3 then
    let i := n - 0xAC00
    let front := [Char.ofNat (0x1100 + i / 588), Char.ofNat (0x1161 + i % 588 / 28)]
    some (if i % 28 = 0 then front else front ++ [Char.ofNat (0x11A7 + i % 28)])
  else none

def composeSyllable? (a b : Nat) : Option Char :=
  if 0x1100 ≤ a ∧ a ≤ 0x1112 ∧ 0x1161 ≤ b ∧ b ≤ 0x1175 then
    some (Char.ofNat (0xAC00 + ((a - 0x1100) * 21 + (b - 0x1161)) * 28))
  else if 0xAC00 ≤ a ∧ a ≤ 0xD7A3 ∧ (a - 0xAC00) % 28 = 0 ∧ 0x11A8 ≤ b ∧ b ≤ 0x11C2 then
    some (Char.ofNat (a + (b - 0x11A7)))
  else none

def compose? (a b : Char) : Option Char :=
  (composeSyllable? a.toNat b.toNat).orElse fun _ => composites.find? (pairKey a.toNat b.toNat)

def canonicalParts (c : Char) : List Char :=
  ((syllableParts? c.toNat).orElse fun _ => canonicalDecompositions.find? c.toNat).getD [c]

def compatibilityParts (c : Char) : List Char :=
  (compatibilityDecompositions.find? c.toNat).getD (canonicalParts c)

def classIn : List (Nat × Nat × Nat) → Nat → Nat
  | [], _ => 0
  | (lo, hi, k) :: rest, n => if n ≤ hi then (if lo ≤ n then k else 0) else classIn rest n

def combiningClass (c : Char) : Nat := classIn combiningRuns c.toNat

def insertMark (c : Char) : List Char → List Char
  | [] => [c]
  | d :: rest => if combiningClass d ≤ combiningClass c then d :: insertMark c rest else c :: d :: rest

def orderMarks (marks : List Char) : List Char → List Char
  | [] => marks
  | c :: rest =>
    if combiningClass c = 0 then marks ++ c :: orderMarks [] rest
    else orderMarks (insertMark c marks) rest

/-- Compose onto `base` what follows it. `kept` holds, last first, the marks that have stayed behind it;
a later mark reaches the base only if its class is above theirs. -/
def composeOnto (base : Char) (kept : List Char) : List Char → List Char
  | [] => base :: kept.reverse
  | c :: rest =>
    let k := combiningClass c
    let reaches := match kept with
      | [] => true
      | d :: _ => combiningClass d < k
    match (if reaches then compose? base c else none) with
    | some joined => composeOnto joined kept rest
    | none =>
      if k = 0 then base :: (kept.reverse ++ composeOnto c [] rest)
      else composeOnto base (c :: kept) rest

def composeAll : List Char → List Char
  | [] => []
  | c :: rest => if combiningClass c = 0 then composeOnto c [] rest else c :: composeAll rest

def nfc (s : List Char) : List Char := composeAll (orderMarks [] (s.flatMap canonicalParts))

def nfkc (s : List Char) : List Char := composeAll (orderMarks [] (s.flatMap compatibilityParts))

end Fidelity.Unicode
