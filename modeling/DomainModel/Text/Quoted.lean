import DomainModel.Text.GraphemeTable
import DomainModel.Text.PrintableTable

/-!
# Quoted text in messages

A text is shown in a message between double quotes. Quotes and backslashes are escaped, and so is
every character that would not be seen as itself: controls, unassigned characters, and marks that
would join the character before them.
-/

namespace DomainModel.Text

/-- How a character is shown between quotes. -/
def showChar (c : Char) : List Char :=
  if c = '\x00' then ['\\', '0']
  else if c = '\t' then ['\\', 't']
  else if c = '\r' then ['\\', 'r']
  else if c = '\n' then ['\\', 'n']
  else if c = '\\' ∨ c = '"' then ['\\', c]
  else if extendRanges.contains c || unprintableRanges.contains c then
    ['\\', 'u', '{'] ++ Nat.toDigits 16 c.toNat ++ ['}']
  else [c]

def quoted (s : String) : String :=
  String.ofList ('"' :: s.toList.flatMap showChar ++ ['"'])

end DomainModel.Text
