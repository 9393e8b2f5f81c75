/-!
# Charsets

The three encodings a byte-order mark can announce, and the text form of raw bytes that error
messages show.
-/

namespace HtmlToHaml.Encoding

/-- An encoding of text as bytes. -/
inductive Charset where
  /-- One to four bytes a character. -/
  | utf8
  /-- Sixteen-bit units, low byte first. -/
  | utf16le
  /-- Sixteen-bit units, high byte first. -/
  | utf16be
  deriving DecidableEq, Repr

/-- The registered name. -/
def Charset.name : Charset → String
  | .utf8 => "UTF-8"
  | .utf16le => "UTF-16LE"
  | .utf16be => "UTF-16BE"

/-- The digit of a number below sixteen, in upper case. -/
def hexDigit (n : Nat) : Char :=
  if n < 10 then Char.ofNat (48 + n) else Char.ofNat (55 + n)

/-- A byte as two hexadecimal digits. -/
def hexPair (byte : UInt8) : List Char :=
  [hexDigit (byte.toNat / 16), hexDigit (byte.toNat % 16)]

/-- Bytes in double quotes, each written as an escape with two hexadecimal digits. -/
def dumpBytes (bytes : List UInt8) : List Char :=
  '"' :: bytes.flatMap (fun byte => '\\' :: 'x' :: hexPair byte) ++ ['"']

end HtmlToHaml.Encoding
