import TextExpr.Unicode.Property

/-!
# Quoted text

The form in which a message shows a text: in double quotes, with every character that could not
be seen or would change the look of its neighbours written as an escape.
-/

namespace TextExpr

/-- The lower case hexadecimal digits of a number. -/
def hexText (n : Nat) : List Char := Nat.toDigits 16 n

/-- How a character is written between double quotes. -/
def quoteChar (c : Char) : List Char :=
  if c = '"' then ['\\', '"']
  else if c = '\\' then ['\\', '\\']
  else if c = '\n' then ['\\', 'n']
  else if c = '\r' then ['\\', 'r']
  else if c = '\t' then ['\\', 't']
  else if c = '\x00' then ['\\', '0']
  else if 0x20 ≤ c.toNat ∧ c.toNat < 0x7F then [c]
  else if Unicode.unprintable.contains c || Unicode.graphemeExtending.contains c then
    ['\\', 'u', '\x7b'] ++ hexText c.toNat ++ ['\x7d']
  else [c]

/-- A text between double quotes. -/
def quoted (s : String) : String :=
  String.ofList (['"'] ++ s.toList.flatMap quoteChar ++ ['"'])

end TextExpr
