import HtmlToHaml.Haml.Header
import HtmlToHaml.Proofs.Haml.BlockReading

/-!
# Reading a header

A header shows a name, an `id`, classes, a block of attributes and two marks, each of which may be
missing and each of which begins with a character of its own. So a header is read from left to
right, up to the white space or the line feed that follows it. The main statement is that the parts
of a header are read back from its text. The header of an element whose name is an identifier is
such a text.
-/

namespace HtmlToHaml.Haml

open Text

/-- What a header shows. -/
structure HeaderParts where
  /-- The name, unless it is left out. -/
  name : Option (List Char)
  /-- The short `id`. -/
  id : Option (List Char)
  /-- The short classes. -/
  classes : List (List Char)
  /-- The attributes of the block; without any there is no block. -/
  block : List Entry
  /-- Whether the white space around the element is nuked. -/
  nuked : Bool
  /-- Whether the element closes itself. -/
  selfClosing : Bool
  deriving DecidableEq, Repr

namespace HeaderParts

/-- A word behind its mark, if there is one. -/
def marked (mark : Char) : Option (List Char) → List Char
  | some word => mark :: word
  | none => []

/-- The header that shows the parts. -/
def text (style : AttributeStyle) (parts : HeaderParts) : List Char :=
  marked '%' parts.name ++ (marked '#' parts.id ++
    (parts.classes.flatMap (fun token => '.' :: token) ++
      ((if parts.block = [] then [] else formatAttributes style parts.block) ++
        ((if parts.nuked then ['>'] else []) ++ if parts.selfClosing then ['/'] else []))))

end HeaderParts

section Reading

/-- The word behind a mark that begins a text, and what follows the word. -/
def readMarked (mark : Char) (s : List Char) : Option (List Char × List Char) :=
  (stripPrefix? [mark] s).bind (readWord (isKeyChar .html))

/-- What follows a marked word is shorter. -/
theorem length_lt_of_readMarked {mark : Char} {s word rest : List Char}
    (h : readMarked mark s = some (word, rest)) : rest.length < s.length := by
  obtain ⟨more, hs, hw⟩ := Option.bind_eq_some_iff.1 h
  exact (length_le_of_readWord hw).trans_lt (length_lt_of_stripPrefix? (by simp) hs)

/-- The classes that begin a text, and what follows them. -/
def readClasses (s : List Char) : List (List Char) × List Char :=
  match _h : readMarked '.' s with
  | none => ([], s)
  | some (token, rest) => Prod.map (token :: ·) id (readClasses rest)
termination_by s.length
decreasing_by exact length_lt_of_readMarked _h

/-- What a reader finds at the start of a text, if anything, and what follows. -/
def readIfAny {α : Type} (read : Option (α × List Char)) (s : List Char) : Option α × List Char :=
  (read.map Prod.fst, (read.map Prod.snd).getD s)

/-- The header that begins a text, and what follows it. A header has a name, or it has an `id` or a
class. -/
def readHeader (style : AttributeStyle) (s : List Char) : Option (HeaderParts × List Char) :=
  let (name, s) := readIfAny (readMarked '%' s) s
  let (id, s) := readIfAny (readMarked '#' s) s
  let (classes, s) := readClasses s
  let (block, s) := readIfAny (readBlock style s) s
  let (nuked, s) := readIfAny ((stripPrefix? ['>'] s).map ((), ·)) s
  let (selfClosing, s) := readIfAny ((stripPrefix? ['/'] s).map ((), ·)) s
  if name.isNone && id.isNone && classes.isEmpty then none
  else some (⟨name, id, classes, block.getD [], nuked.isSome, selfClosing.isSome⟩, s)

end Reading

section RoundTrip

variable {style : AttributeStyle} {parts : HeaderParts} {s t word body : List Char} {mark : Char}
  {marks : List Char}

/-- A text that begins with one of some characters, unless it is empty. -/
def HeadIn (marks s : List Char) : Prop :=
  ∀ c ∈ s.head?, c ∈ marks

/-- Texts of this kind may stand one after the other. -/
theorem HeadIn.append (hs : HeadIn marks s) (ht : HeadIn marks t) : HeadIn marks (s ++ t) := by
  intro c hc
  rw [List.head?_append, Option.mem_def, Option.or_eq_some_iff] at hc
  rcases hc with hc | ⟨-, hc⟩
  · exact hs c hc
  · exact ht c hc

/-- More characters may be allowed. -/
theorem HeadIn.cons (h : HeadIn marks s) (mark : Char) : HeadIn (mark :: marks) s :=
  fun c hc => List.mem_cons_of_mem _ (h c hc)

/-- What begins with one more mark may stand in front. -/
theorem HeadIn.before (hs : HeadIn (mark :: marks) s) (ht : HeadIn marks t) :
    HeadIn (mark :: marks) (s ++ t) :=
  hs.append (ht.cons mark)

/-- A marked word begins with its mark. -/
theorem headIn_marked (mark : Char) (part : Option (List Char)) :
    HeadIn (mark :: marks) (HeaderParts.marked mark part) := by
  cases part <;> simp [HeadIn, HeaderParts.marked]

/-- Classes begin with a dot. -/
theorem headIn_classes (tokens : List (List Char)) :
    HeadIn ('.' :: marks) (tokens.flatMap fun token => '.' :: token) := by
  cases tokens <;> simp [HeadIn]

/-- A block begins with its bracket. -/
theorem headIn_block (entries : List Entry) :
    HeadIn (blockOpen style :: marks)
      (if entries = [] then [] else formatAttributes style entries) := by
  rw [formatAttributes_eq]
  split <;> simp [HeadIn]

/-- A mark alone begins with itself. -/
theorem headIn_flag (mark : Char) (flag : Bool) :
    HeadIn (mark :: marks) (if flag then [mark] else []) := by
  cases flag <;> simp [HeadIn]

/-- A word behind a mark is read up to the next mark. -/
theorem readMarked_append (hword : isCssIdentifier word = true) (ht : HeadIn marks t)
    (hmarks : ∀ c ∈ marks, isKeyChar .html c = false) :
    readMarked mark (mark :: (word ++ t)) = some (word, t) := by
  rw [isCssIdentifier, Bool.and_eq_true, List.all_eq_true] at hword
  rw [readMarked, stripPrefix?_singleton_cons, Option.bind_some]
  exact readWord_append (by simpa using hword.1) hword.2 fun c hc => hmarks c (ht c hc)

/-- Nothing is read where another character stands. -/
theorem stripPrefix?_singleton_eq_none (ht : HeadIn marks t) (hmark : mark ∉ marks) :
    stripPrefix? [mark] t = none := by
  cases hs : stripPrefix? [mark] t with
  | none => rfl
  | some rest =>
    rw [stripPrefix?_eq_some_iff.1 hs] at ht
    exact absurd (ht mark rfl) hmark

/-- A marked word is read if there is one. -/
theorem readIfAny_marked {part : Option (List Char)}
    (hpart : ∀ word ∈ part, isCssIdentifier word = true) (ht : HeadIn marks t)
    (hmarks : ∀ c ∈ marks, isKeyChar .html c = false) (hmark : mark ∉ marks) :
    readIfAny (readMarked mark (HeaderParts.marked mark part ++ t))
        (HeaderParts.marked mark part ++ t) = (part, t) := by
  cases part with
  | none =>
    rw [HeaderParts.marked, List.nil_append, readMarked, stripPrefix?_singleton_eq_none ht hmark]
    rfl
  | some word =>
    rw [HeaderParts.marked, List.cons_append, readMarked_append (hpart word rfl) ht hmarks]
    rfl

/-- A mark alone is read if it is there. -/
theorem readIfAny_flag (flag : Bool) (ht : HeadIn marks t) (hmark : mark ∉ marks) :
    readIfAny ((stripPrefix? [mark] ((if flag then [mark] else []) ++ t)).map ((), ·))
      ((if flag then [mark] else []) ++ t) = (if flag then some () else none, t) := by
  cases flag with
  | false =>
    simp only [Bool.false_eq_true, if_false, List.nil_append,
      stripPrefix?_singleton_eq_none ht hmark]
    rfl
  | true =>
    simp only [if_true, stripPrefix?_append]
    rfl

/-- No classes are read where there is no dot. -/
theorem readClasses_of_eq_none (hs : stripPrefix? ['.'] s = none) : readClasses s = ([], s) := by
  have hnone : readMarked '.' s = none := by
    rw [readMarked, hs, Option.bind_none]
  rw [readClasses]
  split
  · rfl
  · rename_i hsome
    cases hnone.symm.trans hsome

/-- Classes are read back. -/
theorem readClasses_append {tokens : List (List Char)}
    (htokens : ∀ token ∈ tokens, isCssIdentifier token = true) (ht : HeadIn marks t)
    (hmarks : ∀ c ∈ marks, isKeyChar .html c = false) (hmark : '.' ∉ marks) :
    readClasses (tokens.flatMap (fun token => '.' :: token) ++ t) = (tokens, t) := by
  induction tokens with
  | nil =>
    rw [List.flatMap_nil, List.nil_append]
    exact readClasses_of_eq_none (stripPrefix?_singleton_eq_none ht hmark)
  | cons token tokens ih =>
    have hrest := ih fun token h => htokens token (List.mem_cons_of_mem _ h)
    -- What follows a token begins with the dot of the next one or with one of the marks.
    have hhead : HeadIn ('.' :: marks) (tokens.flatMap (fun token => '.' :: token) ++ t) :=
      (headIn_classes tokens).before ht
    have hfirst : readMarked '.' ('.' :: (token ++
        (tokens.flatMap (fun token => '.' :: token) ++ t))) = some (token, _) :=
      readMarked_append (htokens token List.mem_cons_self) hhead
        (List.forall_mem_cons.2 ⟨by decide, hmarks⟩)
    rw [List.flatMap_cons, List.append_assoc, List.cons_append, readClasses]
    split
    · rename_i hnone
      cases hnone.symm.trans hfirst
    · rename_i hsome
      cases hsome.symm.trans hfirst
      rw [hrest]
      rfl

/-- A block is read if there is one. -/
theorem readIfAny_block {entries : List Entry}
    (h : ∀ entry ∈ entries, ∃ value, entry.value = .static value) (ht : HeadIn marks t)
    (hmark : blockOpen style ∉ marks) :
    readIfAny (readBlock style ((if entries = [] then [] else formatAttributes style entries) ++ t))
        ((if entries = [] then [] else formatAttributes style entries) ++ t) =
      (if entries = [] then none else some (entries.mergeSort fun a b => byteLe a.name b.name),
        t) := by
  by_cases hempty : entries = []
  · rw [if_pos hempty, if_pos hempty, List.nil_append, readBlock,
      stripPrefix?_singleton_eq_none ht hmark]
    rfl
  · rw [if_neg hempty, if_neg hempty, readBlock_formatAttributes h]
    rfl

/-- Parts that a header can show. -/
structure HeaderParts.Shown (parts : HeaderParts) : Prop where
  /-- The name is an identifier. -/
  name : ∀ word ∈ parts.name, isCssIdentifier word = true
  /-- The short `id` is an identifier. -/
  id : ∀ word ∈ parts.id, isCssIdentifier word = true
  /-- The short classes are identifiers. -/
  classes : ∀ token ∈ parts.classes, isCssIdentifier token = true
  /-- The values of the block are literal. -/
  block : ∀ entry ∈ parts.block, ∃ value, entry.value = .static value
  /-- The name is only left out where a short form stands. -/
  named : parts.name = none → parts.id ≠ none ∨ parts.classes ≠ []

/-- A header has a name, or it has an `id` or a class. -/
theorem HeaderParts.Shown.isNone_eq_false (h : parts.Shown) :
    (parts.name.isNone && parts.id.isNone && parts.classes.isEmpty) = false := by
  cases hname : parts.name with
  | some name => rfl
  | none =>
    rw [Option.isNone_none, Bool.true_and, Bool.and_eq_false_iff]
    rcases h.named hname with hid | hclasses
    · exact Or.inl (by simpa [Option.isSome_iff_ne_none] using hid)
    · exact Or.inr (by simpa using hclasses)

/-- Without a block there are no attributes to sort. -/
theorem getD_sorted (block : List Entry) :
    (if block = [] then none else some (block.mergeSort fun a b => byteLe a.name b.name)).getD [] =
      block.mergeSort fun a b => byteLe a.name b.name := by
  split
  · rename_i hempty
    rw [hempty, List.mergeSort_nil, Option.getD_none]
  · rw [Option.getD_some]

/-- No word goes on over a mark. -/
theorem isKeyChar_mark (style : AttributeStyle) :
    ∀ mark ∈ ['#', '.', blockOpen style, '>', '/', ' ', '\n'], isKeyChar .html mark = false := by
  cases style <;> simp [blockOpen, isKeyChar]

/-- **A header is read back from its text**, up to the white space behind it; the attributes of its
block come in the order of their names. -/
theorem readHeader_text (h : parts.Shown) (hbody : HeadIn [' ', '\n'] body) :
    readHeader style (parts.text style ++ body) =
      some ({ parts with block := parts.block.mergeSort fun a b => byteLe a.name b.name },
        body) := by
  have hmarks := isKeyChar_mark style
  have hflag : ∀ flag : Bool, (if flag then some () else none).isSome = flag := by decide
  -- From right to left: what follows a part begins with the mark of a part behind it, if any
  -- is shown.
  have hslash := (headIn_flag '/' parts.selfClosing).before hbody
  have hnuke := (headIn_flag '>' parts.nuked).before hslash
  have hblock := (@headIn_block style _ parts.block).before hnuke
  have hclasses := (headIn_classes parts.classes).before hblock
  have hid := (headIn_marked '#' parts.id).before hclasses
  simp only [HeaderParts.text, List.append_assoc, readHeader]
  rw [readIfAny_marked h.name hid (by simp [hmarks]) (by cases style <;> simp [blockOpen])]
  dsimp only
  rw [readIfAny_marked h.id hclasses (by simp [hmarks]) (by cases style <;> simp [blockOpen])]
  dsimp only
  rw [readClasses_append h.classes hblock (by simp [hmarks]) (by cases style <;> simp [blockOpen])]
  dsimp only
  rw [readIfAny_block h.block hnuke (by cases style <;> simp [blockOpen])]
  dsimp only
  rw [readIfAny_flag parts.nuked hslash (by decide)]
  dsimp only
  rw [readIfAny_flag parts.selfClosing hbody (by decide)]
  simp only [h.isNone_eq_false, getD_sorted, hflag, Bool.false_eq_true, if_false]

/-- A header that can be read begins with its name, its short `id` or its first short class. -/
theorem exists_cons_of_readHeader {rest : List Char} (h : readHeader style s = some (parts, rest)) :
    ∃ c more, s = c :: more ∧ c ∈ ['%', '#', '.'] := by
  by_contra hno
  have hnone : ∀ mark ∈ ['%', '#', '.'], stripPrefix? [mark] s = none := by
    intro mark hm
    rw [Option.eq_none_iff_forall_ne_some]
    intro more hs
    exact hno ⟨mark, more, stripPrefix?_eq_some_iff.1 hs, hm⟩
  have hname : readMarked '%' s = none := by rw [readMarked, hnone '%' (by simp), Option.bind_none]
  have hid : readMarked '#' s = none := by rw [readMarked, hnone '#' (by simp), Option.bind_none]
  have hclasses := readClasses_of_eq_none (hnone '.' (by simp))
  simp [readHeader, readIfAny, hname, hid, hclasses] at h

end RoundTrip

section Elements

variable {style : AttributeStyle} {name : List Char} {short : Shorthand} {nuked selfClosing : Bool}

/-- The parts of a header with some short forms. -/
def HeaderParts.ofShorthand (name : List Char) (short : Shorthand) (nuked selfClosing : Bool) :
    HeaderParts where
  name := if elidesName name short then none else some name
  id := short.id
  classes := short.classes
  block := short.block
  nuked
  selfClosing

/-- A header shows the short forms and what is left for the block. -/
theorem header_eq_text_ofShorthand :
    header style name short nuked selfClosing =
      (HeaderParts.ofShorthand name short nuked selfClosing).text style := by
  have hname : (if elidesName name short = true then [] else '%' :: name) =
      HeaderParts.marked '%' (if elidesName name short then none else some name) := by
    split <;> rfl
  have hid : (short.id.map fun id => '#' :: id).getD [] = HeaderParts.marked '#' short.id := by
    cases short.id <;> rfl
  rw [header, HeaderParts.text, hname, hid, if_congr List.isEmpty_iff rfl rfl]
  simp only [List.append_assoc]
  rfl

/-- A header can show an element without scripts whose name is an identifier. -/
theorem shown_ofShorthand (hname : isCssIdentifier name = true)
    (attributes : List DocTree.Attribute) (nuked selfClosing : Bool) :
    (HeaderParts.ofShorthand name (Shorthand.of (entries attributes false)) nuked
      selfClosing).Shown where
  name := by
    rw [HeaderParts.ofShorthand]
    intro word hw
    dsimp only at hw
    split at hw
    · cases hw
    · cases hw
      exact hname
  id := isCssIdentifier_shorthand.1
  classes := isCssIdentifier_shorthand.2
  block := fun _ he => exists_static_of_mem_block he
  named := by
    rw [HeaderParts.ofShorthand]
    intro hnone
    dsimp only at hnone ⊢
    split at hnone
    · rename_i helided
      rw [elidesName, Bool.and_eq_true, Bool.or_eq_true, Option.isSome_iff_ne_none,
        Bool.not_eq_true', List.isEmpty_eq_false_iff] at helided
      exact helided.2
    · cases hnone

end Elements

end HtmlToHaml.Haml
