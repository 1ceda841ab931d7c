import Fidelity.Unicode.WhiteSpace

/-! The words of a text: its longest pieces without white space. Main statement: put end to end, the
words are the text without its white space. -/
namespace Fidelity.Text

open Unicode (isWhiteSpace)

/-- The words of a text of which `held` is the word being read, last character first. -/
def wordsFrom (held : List Char) : List Char → List (List Char)
  | [] => if held.isEmpty then [] else [held.reverse]
  | c :: rest =>
    if isWhiteSpace c then
      if held.isEmpty then wordsFrom [] rest else held.reverse :: wordsFrom [] rest
    else wordsFrom (c :: held) rest

def words (s : List Char) : List (List Char) := wordsFrom [] s

def unwords : List (List Char) → List Char
  | [] => []
  | [w] => w
  | w :: rest => w ++ ' ' :: unwords rest

def trim (s : List Char) : List Char :=
  ((s.dropWhile isWhiteSpace).reverse.dropWhile isWhiteSpace).reverse

/-- The pieces of a text between the occurrences of a separator; one more than these. -/
def splitAt (sep : Char) : List Char → List (List Char)
  | [] => [[]]
  | c :: rest =>
    if c = sep then [] :: splitAt sep rest
    else match splitAt sep rest with
      | [] => [[c]]
      | piece :: pieces => (c :: piece) :: pieces

theorem flatten_wordsFrom (held s : List Char) :
    (wordsFrom held s).flatten = held.reverse ++ s.filter (fun c => !isWhiteSpace c) := by
  induction s generalizing held with
  | nil => cases held <;> simp [wordsFrom]
  | cons c rest ih =>
    by_cases hc : isWhiteSpace c
    · cases held <;> simp [wordsFrom, hc, ih]
    · simp [wordsFrom, hc, ih]

theorem flatten_words (s : List Char) :
    (words s).flatten = s.filter (fun c => !isWhiteSpace c) := by
  simp [words, flatten_wordsFrom]

theorem splitAt_ne_nil (sep : Char) (s : List Char) : splitAt sep s ≠ [] := by
  cases s with
  | nil => simp [splitAt]
  | cons c rest =>
    simp only [splitAt]
    split
    · simp
    · split <;> simp

theorem length_splitAt (sep : Char) (s : List Char) :
    (splitAt sep s).length = s.count sep + 1 := by
  induction s with
  | nil => rfl
  | cons c rest ih =>
    have hne := splitAt_ne_nil sep rest
    by_cases hc : c = sep
    · simp [splitAt, hc, ih]
    · simp only [splitAt, if_neg hc]
      rw [List.count_cons_of_ne hc, ← ih]
      match h : splitAt sep rest with
      | [] => exact absurd h hne
      | piece :: pieces => simp

end Fidelity.Text
