import HtmlToHaml.Entity.CapitalNames
import HtmlToHaml.Entity.SmallNames
import HtmlToHaml.Text.Search

/-!
# Entity references

A reference is an ampersand, a name or a number, and a semicolon. `resolve?` says what a name
stands for, and `unescape` replaces the references of a text in one pass from left to right; what a
reference is replaced by is never looked at again.
-/

namespace HtmlToHaml.Entity

open Text

/-- The five names that XML defines. -/
def xmlNames : List (String × String) :=
  [("amp", "&"), ("lt", "<"), ("gt", ">"), ("quot", "\""), ("apos", "'")]

/-- All names, those of XML first. -/
def nameTables : List (List (String × String)) :=
  xmlNames :: (smallNames ++ capitalNames)

/-- The text a name stands for. -/
def named? (name : String) : Option String :=
  nameTables.findSome? (·.lookup name)

/-- The value of a digit in a base of at most sixteen. -/
def digit? (base : Nat) (c : Char) : Option Nat :=
  let n := c.toNat
  let value :=
    if 0x30 ≤ n ∧ n ≤ 0x39 then some (n - 0x30)
    else if 0x41 ≤ n ∧ n ≤ 0x46 then some (n - 0x37)
    else if 0x61 ≤ n ∧ n ≤ 0x66 then some (n - 0x57)
    else none
  value.filter (· < base)

/-- The value of a row of digits that follow a number already read. -/
def digits? (base : Nat) (value : Nat) : List Char → Option Nat
  | [] => some value
  | c :: rest =>
    match digit? base c with
    | some d => digits? base (value * base + d) rest
    | none => none

/-- The first number that a reference cannot hold: it has 32 bits. -/
def numberLimit : Nat := 0x100000000

/-- A number below the limit, written with at least one digit and perhaps a plus sign. -/
def number? (base : Nat) (s : List Char) : Option Nat :=
  let digits := (stripPrefix? ['+'] s).getD s
  if digits.isEmpty then none else (digits? base 0 digits).filter (· < numberLimit)

/-- The character with a given code point. -/
def character? (code : Nat) : Option Char :=
  if code.isValidChar then some (Char.ofNat code) else none

/-- The character that a number sign and a number stand for; an `x` announces a hexadecimal one. -/
def numbered? : List Char → Option Char
  | 'x' :: digits | 'X' :: digits => (number? 16 digits).bind character?
  | digits => (number? 10 digits).bind character?

/-- The text that a reference with the given name stands for, where a name that would give more
than one character is not known. -/
def resolve? : List Char → Option (List Char)
  | '#' :: number => (numbered? number).map fun c => [c]
  | name => ((named? (String.ofList name)).map String.toList).filter (·.length == 1)

/-- The number of bytes a text takes in UTF-8. -/
def utf8Length (s : List Char) : Nat :=
  s.foldr (fun c n => c.utf8Size + n) 0

/-- What a reference after an ampersand is replaced by, and what follows it. Its name has at most
31 bytes and ends at the next semicolon. -/
def reference? (s : List Char) : Option (List Char × List Char) :=
  match breakOn [';'] s with
  | some (name, rest) =>
    if name.isEmpty || 31 < utf8Length name then none
    else (resolve? name).map fun value => (value, rest)
  | none => none

/-- What follows a reference is shorter than the text it begins. -/
theorem length_lt_of_reference? {s value rest : List Char}
    (h : reference? s = some (value, rest)) : rest.length < s.length := by
  unfold reference? at h
  split at h
  · rename_i name after hb
    split at h
    · cases h
    · obtain ⟨v, _, hv⟩ := Option.map_eq_some_iff.1 h
      simp only [Prod.mk.injEq] at hv
      exact hv.2 ▸ length_lt_of_breakOn (by simp) hb
  · cases h

/-- The text with its references replaced; an ampersand that begins none stays. -/
def unescape : List Char → List Char
  | [] => []
  | c :: s =>
    if c = '&' then
      match _h : reference? s with
      | some (value, rest) => value ++ unescape rest
      | none => '&' :: unescape s
    else c :: unescape s
termination_by s => s.length
decreasing_by
  · have := length_lt_of_reference? _h
    simp only [List.length_cons]
    omega
  all_goals simp

/-- The names of XML are known whatever else is. -/
theorem resolve?_xml :
    resolve? ['a', 'm', 'p'] = some ['&'] ∧ resolve? ['l', 't'] = some ['<'] ∧
      resolve? ['g', 't'] = some ['>'] := by
  refine ⟨?_, ?_, ?_⟩ <;> decide

end HtmlToHaml.Entity
