import HtmlToHaml.Encoding.Calls
import HtmlToHaml.Proofs.Encoding.Reading

/-!
# Decoding in calls is strict decoding

A strict decoder takes no more bytes than it is given, writes the text of the first bytes only, and
stops for want of room only where little of it is left. The number of calls is bounded, since every
call but the first one finds room for a character. So whatever the decoder does between the calls,
a source is decoded as its text, or fails where its bytes break off, and the place of these bytes
is within it.
-/

namespace HtmlToHaml.Encoding

/-- The states that a decoder gets into on a payload, with the bytes that it has taken and the text
that it has written by then. -/
inductive Decoder.Reaches (decoder : Decoder) (payload : List UInt8) :
    decoder.State → Nat → List Char → Prop
  /-- Before the first call nothing is taken. -/
  | start : Reaches decoder payload decoder.start 0 []
  /-- A call that stops for want of room is followed by another one. -/
  | full {state : decoder.State} {position : Nat} {text : List Char} {room : Nat}
    {answer : Answer decoder.State} :
    Reaches decoder payload state position text →
      decoder.call state (payload.drop position) room = answer → answer.report = .full →
      Reaches decoder payload answer.state (position + answer.taken) (text ++ answer.text)

/-- An answer is faithful to a payload: no more is taken than was left, the report is right, and a
call stops for want of room only where less than sixteen bytes of it are left. -/
structure Answer.Faithful {State : Type} (answer : Answer State) (charset : Charset)
    (payload : List UInt8) (position : Nat) (text : List Char) (room : Nat) : Prop where
  /-- The bytes taken are some of those that were left. -/
  taken_le : answer.taken ≤ (payload.drop position).length
  /-- The decoder is done with the bytes of the text, or the text is that of the first bytes, or
  they break off behind it. -/
  report : match answer.report with
    | .done => payload = charset.encode (text ++ answer.text)
    | .full => charset.encode (text ++ answer.text) <+: payload ∧ room < roomOf answer.text + 16
    | .malformed bad after => ∃ bytes, Breaks charset payload (text ++ answer.text) bytes ∧
        bad = bytes.length ∧
        position + answer.taken = (charset.encode (text ++ answer.text)).length + bad + after

/-- A strict decoder of a charset. -/
structure Decoder.Strict (decoder : Decoder) (charset : Charset) : Prop where
  /-- Every call is answered faithfully, in whatever state the decoder gets into. -/
  faithful : ∀ {payload state position text}, decoder.Reaches payload state position text →
    ∀ room, (decoder.call state (payload.drop position) room).Faithful charset payload
      position text room

variable {decoder : Decoder} {charset : Charset} {allot : Nat → Nat} {payload bytes : List UInt8}
  {text before : List Char} {position bad after room : Nat}

section Positions

/-- A strict decoder never leaves the payload, and it has written the text of the first bytes. -/
theorem Decoder.Strict.within {state : decoder.State} (h : decoder.Strict charset)
    (hr : decoder.Reaches payload state position text) :
    position ≤ payload.length ∧ charset.encode text <+: payload := by
  induction hr with
  | start => exact ⟨Nat.zero_le _, List.nil_prefix⟩
  | @full state position text room answer hr hcall hfull ih =>
    have hfaithful := h.faithful hr room
    rw [hcall] at hfaithful
    have hreport := hfaithful.report
    simp only [hfull] at hreport
    have htaken := hfaithful.taken_le
    rw [List.length_drop] at htaken
    exact ⟨by omega, hreport.1⟩

/-- **The bytes that a strict decoder reports stand within the payload.** -/
theorem Decoder.Strict.malformed_within {state : decoder.State} {answer : Answer decoder.State}
    (h : decoder.Strict charset) (hr : decoder.Reaches payload state position text)
    (hcall : decoder.call state (payload.drop position) room = answer)
    (hbad : answer.report = .malformed bad after) :
    after ≤ position + answer.taken ∧ bad ≤ position + answer.taken - after ∧
      position + answer.taken ≤ payload.length := by
  have hfaithful := h.faithful hr room
  rw [hcall] at hfaithful
  have hreport := hfaithful.report
  simp only [hbad] at hreport
  obtain ⟨bytes, -, -, hend⟩ := hreport
  have htaken := hfaithful.taken_le
  have hposition := (h.within hr).1
  rw [List.length_drop] at htaken
  omega

/-- The bytes that are counted back are those at which the payload breaks off. -/
theorem malformedBytes?_of_breaks (h : Breaks charset payload before bytes)
    (hend : position = (charset.encode before).length + bytes.length + after)
    (hposition : position ≤ payload.length) :
    malformedBytes? payload position bytes.length after = some bytes := by
  obtain ⟨first, more, rest, hbytes, hpayload, -⟩ := h
  have hcut : position - after = (charset.encode before ++ bytes).length := by
    rw [List.length_append]
    omega
  have hstart : position - after - bytes.length = (charset.encode before).length := by omega
  rw [malformedBytes?, if_pos (by omega), hstart, hcut, hpayload, ← List.append_assoc,
    List.take_left, List.drop_left]

end Positions

section Loop

/-- More room is made for more bytes. -/
theorem le_reserve (hallot : ∀ size, size ≤ allot size) (room needed : Nat) :
    needed ≤ reserve allot room needed := by
  rw [reserve]
  split
  · assumption
  · exact hallot needed

/-- A text that takes room has a character. -/
theorem length_pos_of_roomOf_pos (h : 0 < roomOf text) : 0 < text.length := by
  cases text with
  | nil => cases h
  | cons c text => exact Nat.succ_pos _

/-- **From every state that it gets into, a strict decoder decodes the payload**, in as many
calls as there are characters left and one more, and yet one more if there is no room for a
character at first. -/
theorem Decoder.Strict.decodeFrom_eq (h : decoder.Strict charset)
    (hallot : ∀ size, size ≤ allot size) {calls : Nat} {progress : Progress decoder.State}
    (hr : decoder.Reaches payload progress.state progress.position progress.text)
    (hcalls : payload.length + 2 ≤ calls + progress.text.length +
      if 16 ≤ progress.room then 1 else 0) :
    decodeFrom decoder charset allot payload calls progress = some (charset.decode payload) := by
  induction calls generalizing progress with
  | zero =>
    have htext := Nat.le_trans (length_le_encode charset progress.text) (h.within hr).2.length_le
    split at hcalls <;> omega
  | succ calls ih =>
    have hfaithful := h.faithful hr progress.room
    generalize hcall : decoder.call progress.state (payload.drop progress.position) progress.room =
      answer at hfaithful
    have hreport := hfaithful.report
    rw [decodeFrom]
    simp only [hcall]
    cases hr' : answer.report with
    | done =>
      simp only [hr'] at hreport ⊢
      rw [hreport, Charset.decode_encode]
    | full =>
      simp only [hr'] at hreport ⊢
      have hnext := hr.full hcall hr'
      rw [if_pos (h.within hnext).1]
      refine ih hnext ?_
      have hroom : 16 ≤ reserve allot (progress.room - roomOf answer.text)
          (payload.length - (progress.position + answer.taken) + 16) :=
        Nat.le_trans (Nat.le_add_left _ _) (le_reserve hallot _ _)
      -- a call that found room for a character has written one
      have hwritten : 16 ≤ progress.room → 0 < answer.text.length :=
        fun hroom => length_pos_of_roomOf_pos (by omega)
      simp only [if_pos hroom, List.length_append]
      split at hcalls
      · rename_i hfound
        have hpos := hwritten hfound
        omega
      · omega
    | malformed bad after =>
      simp only [hr'] at hreport ⊢
      obtain ⟨bytes, hbreaks, rfl, hend⟩ := hreport
      obtain ⟨-, -, hposition⟩ := h.malformed_within hr hcall hr'
      rw [malformedBytes?_of_breaks hbreaks hend hposition, hbreaks.decode]
      rfl

/-- **Strict decoders decode a source like reading it at once.** -/
theorem decodeBy_eq_decode {decoder : Charset → Decoder}
    (h : ∀ charset, (decoder charset).Strict charset) (hallot : ∀ size, size ≤ allot size)
    (bytes : List UInt8) :
    decodeBy decoder allot bytes = some (decode bytes) := by
  rcases ha : announced bytes with ⟨charset, payload⟩
  rw [decodeBy, ha, decode_of_announced ha]
  exact (h charset).decodeFrom_eq hallot .start (Nat.le_add_right_of_le (Nat.le_add_right _ _))

end Loop

section Sources

/-- Sources are decoded as the texts that they encode, each mark announcing its charset, and any
other source fails on the line where it breaks off. -/
structure Decodes (decodes : List UInt8 → Option (Except Failure (List Char))) : Prop where
  /-- Without a mark a source is UTF-8; its text does not begin with the character of the mark. -/
  plain : ∀ text, text.head? ≠ some '\uFEFF' → decodes (Charset.utf8.encode text) = some (.ok text)
  /-- Behind the mark of UTF-8 the text is anything. -/
  utf8 : ∀ text, decodes (0xEF :: 0xBB :: 0xBF :: Charset.utf8.encode text) = some (.ok text)
  /-- Behind the mark of UTF-16 with the low byte first the text is anything. -/
  utf16le : ∀ text, decodes (0xFF :: 0xFE :: Charset.utf16le.encode text) = some (.ok text)
  /-- Behind the mark of UTF-16 with the high byte first the text is anything. -/
  utf16be : ∀ text, decodes (0xFE :: 0xFF :: Charset.utf16be.encode text) = some (.ok text)
  /-- A payload that is no text fails behind the longest text that it begins with. -/
  broken : ∀ {bytes charset payload}, announced bytes = (charset, payload) →
    (∀ text, payload ≠ charset.encode text) →
      ∃ before bad rest, payload = charset.encode before ++ (bad ++ rest) ∧ bad ≠ [] ∧
        (∀ text, charset.encode text <+: payload → text <+: before) ∧
        decodes bytes = some (.error (.invalidEncoding (Text.lineFeeds before + 1) charset bad))

/-- **Reading a source at once decodes it.** -/
theorem decodes_decode : Decodes fun bytes => some (decode bytes) where
  plain text h := by rw [decode_of_announced (announced_encode h), Charset.decode_encode]
  utf8 text := congrArg some (Charset.decode_encode .utf8 text)
  utf16le text := congrArg some (Charset.decode_encode .utf16le text)
  utf16be text := congrArg some (Charset.decode_encode .utf16be text)
  broken {bytes charset payload} ha hno := by
    rcases encode_or_breaks charset payload with ⟨text, htext⟩ | ⟨before, bad, hbreaks⟩
    · exact absurd htext (hno text)
    obtain ⟨first, more, rest, hbad, hpayload, -⟩ := id hbreaks
    refine ⟨before, bad, rest, hpayload, ?_, fun text => hbreaks.prefix_of_encode, ?_⟩
    · rw [hbad]
      exact List.cons_ne_nil _ _
    · rw [decode_of_announced ha, hbreaks.decode]

/-- **With strict decoders every source is decoded**: it comes to the text that it encodes in the
charset of its mark, or fails on the line where it breaks off, as when it is read at once; and the
bytes that a decoder reports stand within the payload. -/
theorem decodes_decodeBy {decoder : Charset → Decoder}
    (h : ∀ charset, (decoder charset).Strict charset) (hallot : ∀ size, size ≤ allot size) :
    Decodes (decodeBy decoder allot) ∧
    (∀ bytes, decodeBy decoder allot bytes = some (decode bytes)) ∧
    ∀ {charset payload state position text room answer bad after},
      (decoder charset).Reaches payload state position text →
      (decoder charset).call state (payload.drop position) room = answer →
      answer.report = .malformed bad after →
        after ≤ position + answer.taken ∧ bad ≤ position + answer.taken - after ∧
          position + answer.taken ≤ payload.length := by
  have hall : decodeBy decoder allot = fun bytes => some (decode bytes) :=
    funext (decodeBy_eq_decode h hallot)
  refine ⟨hall ▸ decodes_decode, decodeBy_eq_decode h hallot, ?_⟩
  exact fun hr hcall hbad => (h _).malformed_within hr hcall hbad

/-- A decoder that asks for room for a character and then takes all bytes in one call. -/
def singleCall (charset : Charset) : Decoder where
  State := Unit
  start := ()
  roomFor length := some length
  call _ bytes room :=
    if room < 16 then { state := (), text := [], taken := 0, report := .full }
    else
      match charset.read bytes with
      | .ok text => { state := (), text, taken := bytes.length, report := .done }
      | .error (before, bad) =>
        { state := (), text := before, taken := (charset.encode before).length + bad.length,
          report := .malformed bad.length 0 }

/-- This decoder takes nothing before its last call. -/
theorem singleCall_reaches {state : (singleCall charset).State}
    (hr : (singleCall charset).Reaches payload state position text) : position = 0 ∧ text = [] := by
  induction hr with
  | start => exact ⟨rfl, rfl⟩
  | @full state position text room answer _ hcall hfull ih =>
    obtain ⟨rfl, rfl⟩ := ih
    subst hcall
    simp only [singleCall] at hfull ⊢
    split at hfull
    · rename_i hroom
      rw [if_pos hroom]
      exact ⟨rfl, rfl⟩
    · split at hfull <;> cases hfull

/-- This decoder is strict. -/
theorem singleCall_strict (charset : Charset) : (singleCall charset).Strict charset := by
  refine ⟨fun {payload state position text} hr room => ?_⟩
  obtain ⟨rfl, rfl⟩ := singleCall_reaches hr
  simp only [singleCall, List.drop_zero]
  split
  · rename_i hroom
    exact ⟨Nat.zero_le _, List.nil_prefix, Nat.lt_add_left _ hroom⟩
  · cases hread : charset.read payload with
    | ok text => exact ⟨Nat.le_refl _, read_eq_ok_iff.1 hread⟩
    | error found =>
      obtain ⟨before, bad⟩ := found
      have hbreaks := read_eq_error_iff.1 hread
      obtain ⟨first, more, rest, hbad, hpayload, -⟩ := id hbreaks
      refine ⟨?_, bad, hbreaks, rfl, ?_⟩
      · rw [List.drop_zero, hpayload, List.length_append, List.length_append]
        dsimp only
        omega
      · exact Nat.zero_add _

/-- A source that breaks off on its third line. -/
theorem decodeBy_thirdLine :
    (∀ charset, (singleCall charset).Strict charset) ∧ (∀ size : Nat, size ≤ id size) ∧
      decodeBy singleCall id
          [0x66, 0x6F, 0x6F, 0x0A, 0x62, 0x61, 0x72, 0x0A, 0x62, 0xFE, 0x61, 0x7A] =
        some (.error (.invalidEncoding 3 .utf8 [0xFE])) := by
  have hallot : ∀ size : Nat, size ≤ id size := fun size => Nat.le_refl size
  have hall := (decodes_decodeBy singleCall_strict hallot).2.1
  have hbreaks : Breaks .utf8
      [0x66, 0x6F, 0x6F, 0x0A, 0x62, 0x61, 0x72, 0x0A, 0x62, 0xFE, 0x61, 0x7A]
      "foo\nbar\nb".toList [0xFE] := ⟨0xFE, [], [0x61, 0x7A], rfl, by decide, rfl⟩
  refine ⟨singleCall_strict, hallot, (hall _).trans (congrArg some ?_)⟩
  exact (decode_of_announced rfl).trans hbreaks.decode

end Sources

end HtmlToHaml.Encoding
