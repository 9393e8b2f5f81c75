import HtmlToHaml.Text.Quoted

/-!
# JSON values

Values as JSON text over several lines: every item of a list and every field of a record stands on
a line of its own, two spaces further in than what holds it.
-/

namespace HtmlToHaml

open Text

/-- A value that JSON can write, without numbers. -/
inductive Json where
  /-- No value. -/
  | null
  /-- A truth value. -/
  | bool (value : Bool)
  /-- A text. -/
  | string (content : String)
  /-- Values in a row. -/
  | list (items : List Json)
  /-- Values with names, in a row. -/
  | record (fields : List (String × Json))
  deriving Repr

namespace Json

/-- A number in four hexadecimal digits. -/
def fourDigits (n : Nat) : List Char :=
  let digits := hexDigits n
  List.replicate (4 - digits.length) '0' ++ digits

/-- A character for the inside of a text; those below the space are escaped. -/
def escapeChar (c : Char) : List Char :=
  if c = '"' then ['\\', '"']
  else if c = '\\' then ['\\', '\\']
  else if c = '\n' then ['\\', 'n']
  else if c = '\r' then ['\\', 'r']
  else if c = '\t' then ['\\', 't']
  else if c = '\x08' then ['\\', 'b']
  else if c = '\x0c' then ['\\', 'f']
  else if c.toNat < 0x20 then '\\' :: 'u' :: fourDigits c.toNat
  else [c]

/-- A text between quotes. -/
def escaped (s : List Char) : List Char :=
  '"' :: s.flatMap escapeChar ++ ['"']

/-- A fresh line at a level of nesting. -/
def lineAt (level : Nat) : List Char :=
  '\n' :: List.replicate (2 * level) ' '

/-- Parts between brackets, each on a line of its own. -/
def bracketed (opening closing : Char) (level : Nat) (parts : List (List Char)) : List Char :=
  if parts.isEmpty then [opening, closing]
  else
    opening :: List.intercalate [','] (parts.map (lineAt (level + 1) ++ ·)) ++
      (lineAt level ++ [closing])

mutual

/-- A value at a level of nesting. -/
def prettyAt (level : Nat) : Json → List Char
  | .null => "null".toList
  | .bool value => (if value then "true" else "false").toList
  | .string content => escaped content.toList
  | .list items => bracketed '[' ']' level (prettyItems level items)
  | .record fields => bracketed '{' '}' level (prettyFields level fields)

/-- The items of a list, which stand one level further in. -/
def prettyItems (level : Nat) : List Json → List (List Char)
  | [] => []
  | item :: rest => prettyAt (level + 1) item :: prettyItems level rest

/-- The fields of a record, which stand one level further in. -/
def prettyFields (level : Nat) : List (String × Json) → List (List Char)
  | [] => []
  | (name, value) :: rest =>
    (escaped name.toList ++ ':' :: ' ' :: prettyAt (level + 1) value) :: prettyFields level rest

end

/-- A value as text. -/
def pretty (value : Json) : List Char :=
  prettyAt 0 value

end Json

end HtmlToHaml
