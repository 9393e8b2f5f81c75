import HtmlToHaml.Xml.Fault
import HtmlToHaml.Xml.TagContent

/-!
# Reading markup

A source is read into events up to its end or its first fault. A less-than sign opens a tag or a
section and an ampersand a reference; everything else is text. Closing brackets inside quotes do not
end a tag, and a document type declaration may hold declarations of its own, of which only some hold
literals.
-/

namespace HtmlToHaml.Xml

open Text

/-- A reader of one piece of markup: what it found and the text after it. -/
abbrev Found (α : Type) := Except Fault (α × List Char)

/-- What was found, read further without going on in the text. -/
def Found.andThen {α β : Type} (f : α → Except Fault β) : Found α → Found β
  | .ok (a, rest) => (f a).map fun b => (b, rest)
  | .error fault => .error fault

/-- What was found, in another form. -/
def Found.as {α β : Type} (f : α → β) (found : Found α) : Found β :=
  found.andThen fun a => .ok (f a)

/-- The content with one more character in front. -/
def Found.cons (c : Char) (found : Found (List Char)) : Found (List Char) :=
  found.as (c :: ·)

/-- The content of a tag up to its closing bracket; `quote` is the quotation mark that is open. -/
def tagContent (quote : Option Char) : List Char → Found (List Char)
  | [] =>
    match quote with
    | none => .error .tagNotClosed
    | some q => .error (.valueNotClosed q)
  | c :: s =>
    match quote with
    | none =>
      if c = '>' then .ok ([], s)
      else Found.cons c (tagContent (if isQuote c then some c else none) s)
    | some q => Found.cons c (tagContent (if c = q then none else some q) s)

/-- Where a reader of a document type declaration is. -/
inductive DoctypePlace where
  /-- In the declaration itself. -/
  | outer
  /-- In a literal of the declaration. -/
  | literal (quote : Char)
  /-- In the part between square brackets. -/
  | subset
  /-- In a declaration of that part that may hold literals. -/
  | inner
  /-- In a literal of such a declaration. -/
  | innerLiteral (quote : Char)
  /-- In any other markup of that part, or in what is left of a closing mark. -/
  | plain
  /-- In a comment of that part, before so many characters of its opening mark. -/
  | comment (opening : Nat)
  /-- In a processing instruction of that part, before so many characters of its opening mark. -/
  | instruction (opening : Nat)
  /-- After that part. -/
  | afterSubset
  deriving DecidableEq, Repr

/-- What follows the less-than sign of a declaration that may hold literals. -/
def literalMarks : List String :=
  ["!ATTLIST", "!ENTITY", "!NOTATION"]

/-- The place after a less-than sign between the square brackets, where `rest` is the text after it.
The opening mark of a comment or an instruction is no part of its closing mark. -/
def DoctypePlace.ofMarkup (rest : List Char) : DoctypePlace :=
  if (stripPrefix? ['!', '-', '-'] rest).isSome then .comment 3
  else if (stripPrefix? ['?'] rest).isSome then .instruction 1
  else if literalMarks.any fun mark => (stripPrefix? mark.toList rest).isSome then .inner
  else .plain

/-- The place after a character, where `rest` is the text after it. -/
def DoctypePlace.next (place : DoctypePlace) (c : Char) (rest : List Char) : DoctypePlace :=
  match place with
  | .outer => if isQuote c then .literal c else if c = '[' then .subset else .outer
  | .literal q => if c = q then .outer else place
  | .subset =>
    if c = ']' then .afterSubset else if c = '<' then DoctypePlace.ofMarkup rest else .subset
  | .inner => if isQuote c then .innerLiteral c else if c = '>' then .subset else .inner
  | .innerLiteral q => if c = q then .inner else place
  | .plain => if c = '>' then .subset else .plain
  | .comment (opening + 1) => .comment opening
  | .comment 0 => if (stripPrefix? ['-', '-', '>'] (c :: rest)).isSome then .plain else place
  | .instruction (opening + 1) => .instruction opening
  | .instruction 0 => if (stripPrefix? ['?', '>'] (c :: rest)).isSome then .plain else place
  | .afterSubset => .afterSubset

/-- The content of a document type declaration up to its closing bracket. -/
def doctypeContent (place : DoctypePlace) : List Char → Found (List Char)
  | [] => .error .doctypeNotClosed
  | c :: s =>
    if c = '>' ∧ (place = .outer ∨ place = .afterSubset) then .ok ([], s)
    else Found.cons c (doctypeContent (place.next c s) s)

/-- A document type declaration whose content has been read. -/
def doctypeEvent (content : List Char) : Except Fault Event :=
  match stripPrefixIgnoreCase? "doctype".toList content with
  | none => .error .doctypeNotClosed
  | some declared =>
    match declared.dropWhile isTagSpace with
    | [] => .error .doctypeNameMissing
    | declared => .ok (.doctype declared)

/-- Up to a closing mark. -/
def upTo (mark : List Char) (fault : Fault) (s : List Char) : Found (List Char) :=
  match breakOn mark s with
  | some found => .ok found
  | none => .error fault

/-- A section that begins with an exclamation mark, after that mark. -/
def sectionEvent (s : List Char) : Found Event :=
  match s with
  | '[' :: _ =>
    match stripPrefix? "[CDATA[".toList s with
    | some body => Found.as Event.cdata (upTo [']', ']', '>'] .cdataNotClosed body)
    | none => .error .cdataNotClosed
  | '-' :: _ =>
    match stripPrefix? ['-', '-'] s with
    | some body => Found.as Event.comment (upTo ['-', '-', '>'] .commentNotClosed body)
    | none => .error .commentNotClosed
  | 'D' :: _ | 'd' :: _ => Found.andThen doctypeEvent (doctypeContent .outer s)
  | _ => .error .unknownMarkup

/-- Whether the text after a question mark begins an XML declaration. -/
def isDeclaration (s : List Char) : Bool :=
  match stripPrefix? ['x', 'm', 'l'] s with
  | some (c :: _) => isTagSpace c || c == '?'
  | some [] => true
  | none => false

/-- A processing instruction, after its first question mark. That mark does not close it. -/
def instructionEvent (s : List Char) : Found Event :=
  if s.head? = some '>' then .error .instructionNotClosed
  else if isDeclaration s then
    Found.as Event.declaration (upTo ['?', '>'] .declarationNotClosed s)
  else Found.as Event.instruction (upTo ['?', '>'] .instructionNotClosed s)

/-- A start tag: a slash at its end makes it close itself. -/
def startEvent (content : List Char) : Event :=
  match content.getLast? with
  | some '/' => .empty (Tag.ofContent content.dropLast)
  | _ => .start (Tag.ofContent content)

/-- Markup, after its less-than sign. -/
def markupEvent : List Char → Found Event
  | '!' :: s => sectionEvent s
  | '?' :: s => instructionEvent s
  | '/' :: s => Found.as (fun content => .close (closedName content)) (tagContent none s)
  | s => Found.as startEvent (tagContent none s)

/-- A character that a reference cannot contain, and that decides whether it is closed. -/
def endsReference (c : Char) : Bool :=
  c == ';' || c == '&' || c == '<'

/-- A reference, after its ampersand. -/
def referenceEvent (s : List Char) : Found Event :=
  match s.dropWhile (!endsReference ·) with
  | ';' :: rest => .ok (.reference (s.takeWhile (!endsReference ·)), rest)
  | _ => .error .referenceNotClosed

/-- A character of plain text. -/
def isTextChar (c : Char) : Bool :=
  c != '<' && c != '&'

/-- The event that begins with a character. -/
def nextEvent (c : Char) (s : List Char) : Found Event :=
  if c = '<' then markupEvent s
  else if c = '&' then referenceEvent s
  else .ok (.text (c :: s.takeWhile isTextChar), s.dropWhile isTextChar)

/-- Reading further leaves the text after it as it was. -/
theorem Found.of_andThen {α β : Type} {f : α → Except Fault β} {found : Found α} {b : β}
    {rest : List Char} (h : Found.andThen f found = .ok (b, rest)) :
    ∃ a, found = .ok (a, rest) := by
  cases found with
  | error fault => cases h
  | ok result =>
    obtain ⟨a, mid⟩ := result
    simp only [Found.andThen] at h
    cases hf : f a with
    | error fault => rw [hf] at h; cases h
    | ok found => rw [hf] at h; cases h; exact ⟨a, rfl⟩

/-- What follows a tag is no longer than the text it was read from. -/
theorem length_le_of_tagContent {quote : Option Char} {s content rest : List Char}
    (h : tagContent quote s = .ok (content, rest)) : rest.length ≤ s.length := by
  induction s generalizing quote content with
  | nil => cases quote <;> cases h
  | cons c s ih =>
    unfold tagContent at h
    cases quote with
    | none =>
      simp only at h
      split at h
      · cases h
        simp
      · obtain ⟨inner, hi⟩ := Found.of_andThen h
        exact Nat.le_succ_of_le (ih hi)
    | some q =>
      obtain ⟨inner, hi⟩ := Found.of_andThen h
      exact Nat.le_succ_of_le (ih hi)

/-- What follows a document type declaration is no longer than the text it was read from. -/
theorem length_le_of_doctypeContent {place : DoctypePlace} {s content rest : List Char}
    (h : doctypeContent place s = .ok (content, rest)) : rest.length ≤ s.length := by
  induction s generalizing place content with
  | nil => cases h
  | cons c s ih =>
    unfold doctypeContent at h
    split at h
    · cases h
      simp
    · obtain ⟨inner, hi⟩ := Found.of_andThen h
      exact Nat.le_succ_of_le (ih hi)

/-- What follows a closing mark is shorter than the text. -/
theorem length_le_of_upTo {mark s content rest : List Char} {fault : Fault}
    (h : upTo mark fault s = .ok (content, rest)) : rest.length ≤ s.length := by
  unfold upTo at h
  split at h
  · rename_i found hb
    cases h
    have := congrArg List.length (eq_append_of_breakOn hb)
    simp only [List.length_append] at this
    omega
  · cases h

/-- What follows a section is no longer than the text it was read from. -/
theorem length_le_of_sectionEvent {s rest : List Char} {event : Event}
    (h : sectionEvent s = .ok (event, rest)) : rest.length ≤ s.length := by
  unfold sectionEvent at h
  split at h
  · split at h
    · rename_i body hb
      obtain ⟨content, hu⟩ := Found.of_andThen h
      have := length_le_of_upTo hu
      have := length_lt_of_stripPrefix? (by decide) hb
      omega
    · cases h
  · split at h
    · rename_i body hb
      obtain ⟨content, hu⟩ := Found.of_andThen h
      have := length_le_of_upTo hu
      have := length_lt_of_stripPrefix? (by decide) hb
      omega
    · cases h
  · obtain ⟨content, hu⟩ := Found.of_andThen h
    exact length_le_of_doctypeContent hu
  · obtain ⟨content, hu⟩ := Found.of_andThen h
    exact length_le_of_doctypeContent hu
  · cases h

/-- What follows an instruction is no longer than the text it was read from. -/
theorem length_le_of_instructionEvent {s rest : List Char} {event : Event}
    (h : instructionEvent s = .ok (event, rest)) : rest.length ≤ s.length := by
  unfold instructionEvent at h
  split at h
  · cases h
  split at h
  · obtain ⟨content, hu⟩ := Found.of_andThen h
    exact length_le_of_upTo hu
  · obtain ⟨content, hu⟩ := Found.of_andThen h
    exact length_le_of_upTo hu

/-- What follows markup is no longer than the text after its less-than sign. -/
theorem length_le_of_markupEvent {s rest : List Char} {event : Event}
    (h : markupEvent s = .ok (event, rest)) : rest.length ≤ s.length := by
  unfold markupEvent at h
  split at h
  · exact Nat.le_succ_of_le (length_le_of_sectionEvent h)
  · exact Nat.le_succ_of_le (length_le_of_instructionEvent h)
  · obtain ⟨content, hu⟩ := Found.of_andThen h
    exact Nat.le_succ_of_le (length_le_of_tagContent hu)
  · obtain ⟨content, hu⟩ := Found.of_andThen h
    exact length_le_of_tagContent hu

/-- What follows an event is no longer than the text after its first character. -/
theorem length_le_of_nextEvent {c : Char} {s rest : List Char} {event : Event}
    (h : nextEvent c s = .ok (event, rest)) : rest.length ≤ s.length := by
  unfold nextEvent at h
  split at h
  · exact length_le_of_markupEvent h
  · split at h
    · unfold referenceEvent at h
      split at h
      · rename_i after hd
        have := length_dropWhile_le (!endsReference ·) s
        rw [hd, List.length_cons] at this
        cases h
        omega
      · cases h
    · cases h
      exact length_dropWhile_le isTextChar s

/-- The events of a source in order, and the fault that ends them if there is one. -/
def scan : List Char → List Event × Option Fault
  | [] => ([], none)
  | c :: s =>
    match _h : nextEvent c s with
    | .ok (event, rest) =>
      let (events, fault) := scan rest
      (event :: events, fault)
    | .error fault => ([], some fault)
termination_by s => s.length
decreasing_by
  have := length_le_of_nextEvent _h
  simp only [List.length_cons]
  omega

/-- The source without a byte-order mark in front. -/
def dropMark : List Char → List Char
  | '\uFEFF' :: s => s
  | s => s

end HtmlToHaml.Xml
