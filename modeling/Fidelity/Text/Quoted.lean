import Fidelity.Unicode.Printable

/-! Texts between quotation marks in messages. What cannot be told from the page is written as an
escape: the quotation mark, the backslash, and every character that does not show on its own. -/
namespace Fidelity.Text

def hexDigits (n : Nat) : List Char := Nat.toDigits 16 n

def escapeChar (c : Char) : List Char :=
  if c = '"' then ['\\', '"']
  else if c = '\\' then ['\\', '\\']
  else if c = '\n' then ['\\', 'n']
  else if c = '\t' then ['\\', 't']
  else if c = '\r' then ['\\', 'r']
  else if c = '\x00' then ['\\', '0']
  else if Unicode.showsAlone c then [c]
  else '\\' :: 'u' :: '\x7b' :: (hexDigits c.toNat ++ ['\x7d'])

def quoted (s : String) : String :=
  String.ofList ('"' :: (s.toList.flatMap escapeChar ++ ['"']))

end Fidelity.Text
