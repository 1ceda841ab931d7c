import Fidelity.Text.Words
import Fidelity.Unicode.LetterCase
import Fidelity.Unicode.Punctuation

/-! The fragments of a text: its words in lower case and without punctuation. -/
namespace Fidelity.Text

def stripPunctuation (kept : List Char) (s : List Char) : List Char :=
  s.filter fun c => !Unicode.isPunctuation c || kept.contains c

def wordPunctuation : List Char := ['-', '\'']

def fragments (kept : List Char) (s : String) : List String :=
  (words (stripPunctuation kept (Unicode.lowercase s.toList))).map String.ofList

theorem stripPunctuation_append (kept s t : List Char) :
    stripPunctuation kept (s ++ t) = stripPunctuation kept s ++ stripPunctuation kept t :=
  List.filter_append ..

end Fidelity.Text
