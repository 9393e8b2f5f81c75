import HtmlToHaml.Text.Case
import HtmlToHaml.Text.HiddenData

/-!
# Quoted text

Text in double quotes as a message shows it: quotes and backslashes are escaped, and characters that
do not show are written by their number.
-/

namespace HtmlToHaml.Text

/-- A number in hexadecimal digits, in lower case and without leading zeros. -/
def hexDigits (n : Nat) : List Char :=
  Nat.toDigits 16 n

/-- Whether a character does not show by itself. -/
def isHidden (c : Char) : Bool :=
  c.toNat < 0x20 || c.toNat == 0x7F || inRanges hiddenRanges c.toNat

/-- A character for the inside of a quoted text. -/
def quoteChar (c : Char) : List Char :=
  if c = '"' then ['\\', '"']
  else if c = '\\' then ['\\', '\\']
  else if c = '\t' then ['\\', 't']
  else if c = '\n' then ['\\', 'n']
  else if c = '\r' then ['\\', 'r']
  else if c.toNat = 0 then ['\\', '0']
  else if isHidden c then '\\' :: 'u' :: '{' :: hexDigits c.toNat ++ ['}']
  else [c]

/-- A text in double quotes. -/
def quoted (s : List Char) : List Char :=
  '"' :: s.flatMap quoteChar ++ ['"']

end HtmlToHaml.Text
