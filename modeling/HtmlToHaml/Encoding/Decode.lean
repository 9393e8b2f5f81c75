import HtmlToHaml.Failure
import HtmlToHaml.Text.Lines

/-!
# Decoding

A source is text in the charset that its byte-order mark announces, and in UTF-8 if it has none.
Decoding is strict: the first bytes that mean nothing in the charset end it, and the failure names
them and their line.
-/

namespace HtmlToHaml.Encoding

/-- What the first byte of some bytes begins; `more` counts the bytes after it that belong to it. -/
inductive Piece where
  /-- A character. -/
  | char (c : Char) (more : Nat)
  /-- Bytes that mean nothing. -/
  | malformed (more : Nat)
  deriving DecidableEq, Repr

/-- The bytes that continue a character in UTF-8: `need` of them are missing, the next one lies from
`low` to `high`, and `value` has been read from the `taken` bytes before. -/
def continueUtf8 (value : Nat) (low high : Nat) : (need : Nat) → (taken : Nat) → List UInt8 → Piece
  | 0, taken, _ => .char (Char.ofNat value) taken
  | _ + 1, taken, [] => .malformed taken
  | need + 1, taken, byte :: bytes =>
    if low ≤ byte.toNat ∧ byte.toNat ≤ high then
      continueUtf8 (value * 64 + byte.toNat % 64) 0x80 0xBF need (taken + 1) bytes
    else .malformed taken

/-- What a byte begins in UTF-8. The second byte's range leaves out longer forms than needed,
surrogates, and numbers beyond the last character. -/
def nextUtf8 (first : UInt8) (bytes : List UInt8) : Piece :=
  let n := first.toNat
  if n < 0x80 then .char (Char.ofNat n) 0
  else if n < 0xC2 then .malformed 0
  else if n < 0xE0 then continueUtf8 (n - 0xC0) 0x80 0xBF 1 0 bytes
  else if n < 0xF0 then
    continueUtf8 (n - 0xE0) (if n = 0xE0 then 0xA0 else 0x80) (if n = 0xED then 0x9F else 0xBF) 2 0
      bytes
  else if n < 0xF5 then
    continueUtf8 (n - 0xF0) (if n = 0xF0 then 0x90 else 0x80) (if n = 0xF4 then 0x8F else 0xBF) 3 0
      bytes
  else .malformed 0

/-- Whether a unit is the first half of a character. -/
def isHighSurrogate (unit : Nat) : Bool :=
  0xD800 ≤ unit && unit < 0xDC00

/-- Whether a unit is the second half of a character. -/
def isLowSurrogate (unit : Nat) : Bool :=
  0xDC00 ≤ unit && unit < 0xE000

/-- The character that two halves make up. -/
def joinSurrogates (high low : Nat) : Char :=
  Char.ofNat (0x10000 + (high - 0xD800) * 0x400 + (low - 0xDC00))

/-- The unit of two bytes. -/
def unit16 (bigEndian : Bool) (a b : UInt8) : Nat :=
  if bigEndian then a.toNat * 256 + b.toNat else b.toNat * 256 + a.toNat

/-- What a byte begins in UTF-16. A first half at the end takes the odd byte after it along. -/
def nextUtf16 (bigEndian : Bool) (a : UInt8) : List UInt8 → Piece
  | [] => .malformed 0
  | b :: bytes =>
    let unit := unit16 bigEndian a b
    if isLowSurrogate unit then .malformed 1
    else if isHighSurrogate unit then
      match bytes with
      | [] => .malformed 1
      | [_] => .malformed 2
      | c :: d :: _ =>
        let low := unit16 bigEndian c d
        if isLowSurrogate low then .char (joinSurrogates unit low) 3 else .malformed 1
    else .char (Char.ofNat unit) 1

/-- What a byte begins in a charset. -/
def Charset.next : Charset → UInt8 → List UInt8 → Piece
  | .utf8 => nextUtf8
  | .utf16le => nextUtf16 false
  | .utf16be => nextUtf16 true

/-- The text of bytes, or the text in front of the first bytes that mean nothing and these bytes. -/
def Charset.read (charset : Charset) :
    List UInt8 → Except (List Char × List UInt8) (List Char)
  | [] => .ok []
  | byte :: bytes =>
    match charset.next byte bytes with
    | .malformed more => .error ([], byte :: bytes.take more)
    | .char c more =>
      match charset.read (bytes.drop more) with
      | .ok text => .ok (c :: text)
      | .error (before, bad) => .error (c :: before, bad)
termination_by bytes => bytes.length
decreasing_by
  simp only [List.length_drop, List.length_cons]
  omega

/-- The charset that a byte-order mark announces, and the bytes after the mark. -/
def announced : List UInt8 → Charset × List UInt8
  | 0xEF :: 0xBB :: 0xBF :: bytes => (.utf8, bytes)
  | 0xFF :: 0xFE :: bytes => (.utf16le, bytes)
  | 0xFE :: 0xFF :: bytes => (.utf16be, bytes)
  | bytes => (.utf8, bytes)

/-- The text of a source. -/
def decode (bytes : List UInt8) : Except Failure (List Char) :=
  let (charset, payload) := announced bytes
  match charset.read payload with
  | .ok text => .ok text
  | .error (before, bad) =>
    .error (.invalidEncoding (Text.lineFeeds before + 1) charset bad)

end HtmlToHaml.Encoding
