import Fidelity.Bag.Shredded
import Fidelity.Log
import Fidelity.Text.Fragments

/-! From a text to its bag of words. -/
namespace Fidelity

/-- `kept` is the punctuation that is never stripped from a text. -/
structure Tokenizer where
  kept : List Char
deriving DecidableEq, Repr

namespace Tokenizer

instance : Inhabited Tokenizer := ⟨⟨Text.wordPunctuation⟩⟩

def fragments (t : Tokenizer) (s : String) : List String := Text.fragments t.kept s

def bag (t : Tokenizer) (s : String) : Bag := Bag.ofFragments (t.fragments s)

def sift {α : Type} (fragments : List String) : Logged α Bag :=
  ⟨(Bag.sift fragments).shredded.map .shreddedRun, Bag.ofFragments fragments⟩

def read {α : Type} (t : Tokenizer) (s : String) : Logged α Bag := sift (t.fragments s)

theorem value_read {α : Type} (t : Tokenizer) (s : String) :
    (t.read s : Logged α Bag).value = t.bag s := rfl

end Tokenizer
end Fidelity
