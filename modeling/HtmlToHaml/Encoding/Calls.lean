import HtmlToHaml.Encoding.Decode

/-!
# Decoding in calls

A decoder reads a payload in calls. Each call takes some of the bytes that are left, writes the text
that they are as far as there is room for it, and says why it stopped. A source is decoded by
calling the decoder of its charset until all bytes are taken or some of them mean nothing. Where
those stand is counted back from the bytes that are taken, as far as that stays within the payload.
-/

namespace HtmlToHaml.Encoding

/-- Why a call of a decoder stopped. -/
inductive Report where
  /-- All bytes are taken. -/
  | done
  /-- There was no room for more text. -/
  | full
  /-- Bytes that mean nothing were taken, `bad` of them, and behind them `after` bytes more. -/
  | malformed (bad after : Nat)
  deriving DecidableEq, Repr

/-- What a call of a decoder comes to. -/
structure Answer (State : Type) where
  /-- What the decoder remembers afterwards. -/
  state : State
  /-- The text that was written. -/
  text : List Char
  /-- The number of bytes that were taken. -/
  taken : Nat
  /-- Why the call stopped. -/
  report : Report

/-- A decoder of a charset. -/
structure Decoder where
  /-- What it remembers between calls. -/
  State : Type
  /-- What it remembers before the first call. -/
  start : State
  /-- The room that the text of so many bytes takes at most, unless that is too much to count. -/
  roomFor : Nat → Option Nat
  /-- A call for the bytes that are left, with the room that is left for text. -/
  call : State → List UInt8 → Nat → Answer State

/-- How far a payload is decoded. -/
structure Progress (State : Type) where
  /-- What the decoder remembers. -/
  state : State
  /-- The number of bytes that are taken. -/
  position : Nat
  /-- The text that is written. -/
  text : List Char
  /-- The room for more text, in bytes of UTF-8. -/
  room : Nat

/-- The room that a text takes, in bytes of UTF-8. -/
def roomOf : List Char → Nat
  | [] => 0
  | c :: text => c.utf8Size + roomOf text

/-- Room with at least some bytes in it; `allot` says how much room an allocation gives. -/
def reserve (allot : Nat → Nat) (room needed : Nat) : Nat :=
  if needed ≤ room then room else allot needed

/-- The bytes that mean nothing, counted back from the bytes that are taken, unless that leaves the
payload. -/
def malformedBytes? (payload : List UInt8) (position bad after : Nat) : Option (List UInt8) :=
  if after ≤ position ∧ position - after ≤ payload.length then
    some ((payload.take (position - after)).drop (position - after - bad))
  else none

/-- The text of a payload that is decoded to some point, in at most so many calls more; nothing if
these are too few or lead out of the payload. -/
def decodeFrom (decoder : Decoder) (charset : Charset) (allot : Nat → Nat) (payload : List UInt8) :
    (calls : Nat) → Progress decoder.State → Option (Except Failure (List Char))
  | 0, _ => none
  | calls + 1, progress =>
    let answer := decoder.call progress.state (payload.drop progress.position) progress.room
    let position := progress.position + answer.taken
    let text := progress.text ++ answer.text
    match answer.report with
    | .done => some (.ok text)
    | .full =>
      if position ≤ payload.length then
        let room := reserve allot (progress.room - roomOf answer.text)
          (payload.length - position + 16)
        decodeFrom decoder charset allot payload calls
          { state := answer.state, position, text, room }
      else none
    | .malformed bad after =>
      (malformedBytes? payload position bad after).map fun bytes =>
        .error (.invalidEncoding (Text.lineFeeds text + 1) charset bytes)

/-- The text of a source, decoded by the decoder of its charset. -/
def decodeBy (decoder : Charset → Decoder) (allot : Nat → Nat) (bytes : List UInt8) :
    Option (Except Failure (List Char)) :=
  let (charset, payload) := announced bytes
  let room := allot (((decoder charset).roomFor payload.length).getD payload.length)
  decodeFrom (decoder charset) charset allot payload (payload.length + 2)
    { state := (decoder charset).start, position := 0, text := [], room }

end HtmlToHaml.Encoding
