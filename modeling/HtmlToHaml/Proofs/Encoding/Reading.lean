import HtmlToHaml.Proofs.Encoding.Characters

/-!
# Reading bytes

Bytes are read as a text exactly if they are the bytes of that text. Any other bytes break off
behind the longest text that they begin with, at the first bytes that mean nothing. So a text is
decoded out of its bytes in every charset that a mark can announce, and a failure names the line
where the bytes break off.
-/

namespace HtmlToHaml.Encoding

variable {charset : Charset} {first byte : UInt8} {bytes payload rest bad : List UInt8} {c : Char}
  {more : Nat} {text before : List Char}

/-- What is read behind a text. -/
def behind (text : List Char) :
    Except (List Char × List UInt8) (List Char) → Except (List Char × List UInt8) (List Char)
  | .ok more => .ok (text ++ more)
  | .error (before, bad) => .error (text ++ before, bad)

/-- A payload breaks off behind the bytes of a text: the next bytes mean nothing. -/
def Breaks (charset : Charset) (payload : List UInt8) (before : List Char) (bad : List UInt8) :
    Prop :=
  ∃ first more rest, bad = first :: more ∧ payload = charset.encode before ++ (bad ++ rest) ∧
    charset.next first (more ++ rest) = .malformed more.length

/-- The bytes of a text are those of its first character and those of the others. -/
theorem encode_cons : charset.encode (c :: text) = charset.encodeChar c ++ charset.encode text :=
  List.flatMap_cons

/-- A text has no more characters than bytes. -/
theorem length_le_encode (charset : Charset) (text : List Char) :
    text.length ≤ (charset.encode text).length := by
  induction text with
  | nil => exact Nat.le_refl _
  | cons c text ih =>
    obtain ⟨first, more, hc, -⟩ := charset.reads c []
    rw [encode_cons, hc, List.length_append, List.length_cons, List.length_cons]
    omega

section Reads

/-- A character is read in front of what stands behind its bytes. -/
theorem read_of_char (h : charset.next byte bytes = .char c more) :
    charset.read (byte :: bytes) = behind [c] (charset.read (bytes.drop more)) := by
  rw [Charset.read]
  split
  · rename_i hnext
    rw [h] at hnext
    cases hnext
  · rename_i hnext
    rw [h] at hnext
    cases hnext
    split
    · rename_i hrest
      rw [hrest]
      rfl
    · rename_i hrest
      rw [hrest]
      rfl

/-- Bytes that mean nothing end what is read. -/
theorem read_of_malformed (h : charset.next byte bytes = .malformed more) :
    charset.read (byte :: bytes) = .error ([], byte :: bytes.take more) := by
  rw [Charset.read]
  split
  · rename_i hnext
    rw [h] at hnext
    cases hnext
    rfl
  · rename_i hnext
    rw [h] at hnext
    cases hnext

/-- **A text is read out of its bytes, whatever stands behind them.** -/
theorem read_encode_append (charset : Charset) (text : List Char) (rest : List UInt8) :
    charset.read (charset.encode text ++ rest) = behind text (charset.read rest) := by
  induction text with
  | nil =>
    rw [Charset.encode, List.flatMap_nil, List.nil_append]
    rcases charset.read rest with ⟨before, bad⟩ | more <;> rfl
  | cons c text ih =>
    obtain ⟨first, more, hc, hnext⟩ := charset.reads c (charset.encode text ++ rest)
    rw [encode_cons, hc, List.append_assoc, List.cons_append, read_of_char hnext, List.drop_left,
      ih]
    rcases charset.read rest with ⟨before, bad⟩ | more <;> rfl

/-- Bytes are read as a text if they are its bytes. -/
theorem read_encode (charset : Charset) (text : List Char) :
    charset.read (charset.encode text) = .ok text := by
  have hall := read_encode_append charset text []
  rw [List.append_nil, Charset.read] at hall
  rw [hall, behind, List.append_nil]

/-- Bytes that break off are read up to there. -/
theorem read_of_breaks (h : Breaks charset payload before bad) :
    charset.read payload = .error (before, bad) := by
  obtain ⟨first, more, rest, rfl, rfl, hnext⟩ := h
  rw [read_encode_append, List.cons_append, read_of_malformed hnext, List.take_left, behind,
    List.append_nil]

/-- **Bytes are those of a text, or they break off.** -/
theorem encode_or_breaks (charset : Charset) : ∀ payload : List UInt8,
    (∃ text, payload = charset.encode text) ∨ ∃ before bad, Breaks charset payload before bad
  | [] => Or.inl ⟨[], rfl⟩
  | byte :: bytes => by
    cases hnext : charset.next byte bytes with
    | malformed more =>
      have hlen : (bytes.take more).length = more :=
        List.length_take_of_le (Charset.le_of_next hnext)
      refine Or.inr ⟨[], _, byte, bytes.take more, bytes.drop more, rfl, ?_, ?_⟩
      · rw [List.cons_append, List.take_append_drop]
        rfl
      · rw [List.take_append_drop, hlen, hnext]
    | char c more =>
      obtain ⟨tail, rest, hbytes, -, hc⟩ := Charset.encodeChar_of_next hnext
      have hshort : rest.length < (byte :: bytes).length := by
        rw [hbytes, List.length_cons, List.length_append]
        omega
      have hfirst : byte :: bytes = charset.encodeChar c ++ rest := by
        rw [hbytes, hc, List.cons_append]
      rw [hfirst]
      rcases encode_or_breaks charset rest with
        ⟨text, rfl⟩ | ⟨before, bad, first, more, last, hbad, rfl, hmalformed⟩
      · exact Or.inl ⟨c :: text, encode_cons.symm⟩
      · refine Or.inr ⟨c :: before, bad, first, more, last, hbad, ?_, hmalformed⟩
        rw [encode_cons, List.append_assoc]
termination_by payload => payload.length
decreasing_by exact hshort

/-- **Bytes are read as a text exactly if they are its bytes.** -/
theorem read_eq_ok_iff : charset.read payload = .ok text ↔ payload = charset.encode text := by
  refine ⟨fun h => ?_, fun h => h ▸ read_encode charset text⟩
  rcases encode_or_breaks charset payload with ⟨found, rfl⟩ | ⟨before, bad, hbreaks⟩
  · rw [read_encode] at h
    rw [Except.ok.inj h]
  · rw [read_of_breaks hbreaks] at h
    cases h

/-- **Reading stops exactly where the bytes break off.** -/
theorem read_eq_error_iff :
    charset.read payload = .error (before, bad) ↔ Breaks charset payload before bad := by
  refine ⟨fun h => ?_, read_of_breaks⟩
  rcases encode_or_breaks charset payload with ⟨found, rfl⟩ | ⟨before', bad', hbreaks⟩
  · rw [read_encode] at h
    cases h
  · rw [read_of_breaks hbreaks] at h
    cases h
    exact hbreaks

/-- **Bytes break off behind the longest text that they begin with.** -/
theorem Breaks.prefix_of_encode (h : Breaks charset payload before bad)
    (ht : charset.encode text <+: payload) : text <+: before := by
  obtain ⟨rest, rfl⟩ := ht
  have hread := read_of_breaks h
  rw [read_encode_append] at hread
  cases hrest : charset.read rest with
  | ok more =>
    rw [hrest] at hread
    cases hread
  | error found =>
    rw [hrest] at hread
    cases hread
    exact List.prefix_append ..

end Reads

section Marks

/-- What a payload is decoded as. -/
def Charset.decode (charset : Charset) (payload : List UInt8) : Except Failure (List Char) :=
  match charset.read payload with
  | .ok text => .ok text
  | .error (before, bad) => .error (.invalidEncoding (Text.lineFeeds before + 1) charset bad)

/-- A source is decoded as what stands behind its mark, in the charset that is announced. -/
theorem decode_of_announced (h : announced bytes = (charset, payload)) :
    decode bytes = charset.decode payload := by
  rw [decode, h]
  rfl

/-- The bytes of a text are decoded as the text. -/
theorem Charset.decode_encode (charset : Charset) (text : List Char) :
    charset.decode (charset.encode text) = .ok text := by
  rw [Charset.decode, read_encode]

/-- Bytes that break off fail there. -/
theorem Breaks.decode (h : Breaks charset payload before bad) :
    charset.decode payload = .error (.invalidEncoding (Text.lineFeeds before + 1) charset bad) := by
  rw [Charset.decode, read_of_breaks h]

/-- A text that does not begin with the character of the mark announces nothing. -/
theorem announced_encode (h : text.head? ≠ some '\uFEFF') :
    announced (Charset.utf8.encode text) = (.utf8, Charset.utf8.encode text) := by
  cases text with
  | nil => rfl
  | cons c text =>
    obtain ⟨first, more, hc, hnext⟩ := Charset.utf8.reads c (Charset.utf8.encode text)
    have hmark : ∀ rest, nextUtf8 0xEF (0xBB :: 0xBF :: rest) = .char '\uFEFF' 2 := fun _ => rfl
    have hno : ∀ rest, nextUtf8 0xFF rest = .malformed 0 ∧ nextUtf8 0xFE rest = .malformed 0 :=
      fun _ => ⟨rfl, rfl⟩
    rw [encode_cons, hc, List.cons_append]
    unfold announced
    split
    · rename_i rest he
      rw [(List.cons.inj he).1, (List.cons.inj he).2] at hnext
      obtain ⟨rfl, -⟩ := Piece.char.inj ((hmark rest).symm.trans hnext)
      exact absurd rfl h
    · rename_i rest he
      rw [(List.cons.inj he).1] at hnext
      exact Piece.noConfusion ((hno (more ++ Charset.utf8.encode text)).1.symm.trans hnext)
    · rename_i rest he
      rw [(List.cons.inj he).1] at hnext
      exact Piece.noConfusion ((hno (more ++ Charset.utf8.encode text)).2.symm.trans hnext)
    · rfl

end Marks

end HtmlToHaml.Encoding
