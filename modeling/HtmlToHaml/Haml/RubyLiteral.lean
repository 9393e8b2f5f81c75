import HtmlToHaml.Encoding.Charset

/-!
# Ruby string literals

Text as it stands between double quotes in Ruby: quotes, backslashes, control characters and every
`#` that would open an interpolation are escaped.
-/

namespace HtmlToHaml.Haml

/-- Whether a `#` before this text would open an interpolation. -/
def opensInterpolation : List Char → Bool
  | c :: _ => c == '{' || c == '$' || c == '@'
  | [] => false

/-- A character escaped for the inside of a literal, where `rest` is the text after it. -/
def rubyEscapeChar (c : Char) (rest : List Char) : List Char :=
  if c = '"' then ['\\', '"']
  else if c = '\\' then ['\\', '\\']
  else if c = '\n' then ['\\', 'n']
  else if c = '\t' then ['\\', 't']
  else if c = '\r' then ['\\', 'r']
  else if c = '#' ∧ opensInterpolation rest then ['\\', '#']
  else if c.toNat < 0x20 ∨ c.toNat = 0x7F then
    '\\' :: 'x' :: Encoding.hexPair c.toNat.toUInt8
  else [c]

/-- A text escaped for the inside of a literal. -/
def rubyEscape : List Char → List Char
  | [] => []
  | c :: rest => rubyEscapeChar c rest ++ rubyEscape rest

/-- A text as a double-quoted literal. -/
def rubyString (s : List Char) : List Char :=
  '"' :: rubyEscape s ++ ['"']

end HtmlToHaml.Haml
