import Precedence.Character.Property

namespace Precedence

/-- The characters that have no shape of their own: those of the categories for control, format
and unassigned characters and for separators, and those that extend the character before them. The
space is shown as it is. -/
def shapelessChars : Charset :=
  ((Charset.ofCategories ["Cc", "Cf", "Cs", "Co", "Cn", "Zl", "Zp", "Zs"]).union
    Charset.graphemeExtend).diff (.single ' ')

/-- How one character is written inside quotation marks. The mark itself, the backslash and the
characters without a shape are escaped. -/
def quoteChar (c : Char) : List Char :=
  if c = '"' then ['\\', '"']
  else if c = '\\' then ['\\', '\\']
  else if c = '\n' then ['\\', 'n']
  else if c = '\r' then ['\\', 'r']
  else if c = '\t' then ['\\', 't']
  else if c.val = 0 then ['\\', '0']
  else if c.val < 0x20 ∨ (0x7f ≤ c.val ∧ shapelessChars.contains c) then
    ['\\', 'u', '\x7b'] ++ Nat.toDigits 16 c.toNat ++ ['\x7d']
  else [c]

/-- A text in quotation marks. -/
def quoted (text : String) : String :=
  String.ofList (('"' :: text.toList.flatMap quoteChar) ++ ['"'])

end Precedence
