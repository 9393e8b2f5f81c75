import HtmlToHaml.Proofs.Forest.Built
import HtmlToHaml.Proofs.Haml.BlockCount
import HtmlToHaml.Proofs.Haml.HeaderCount
import HtmlToHaml.Proofs.Outline.Passage

/-!
# Nothing is lost

A character outside ASCII that is no white space occurs in what is written as often as in the tree.
Along a row the trees that are written already and what is left of a text are kept in account: what
a spot has left is what the rest of the row comes to.
-/

namespace HtmlToHaml.DocTree

/-- How often a character occurs in a leaf that says something. -/
def Leaf.count (c : Char) : Leaf → Nat
  | .text content | .comment content | .cdata content => content.toList.count c
  | _ => 0

/-- How often a character occurs in the names and values of attributes. -/
def attributesCount (c : Char) (attributes : List Attribute) : Nat :=
  (attributes.map fun a => a.name.toList.count c + a.value.toList.count c).sum

mutual

/-- How often a character occurs in a tree. -/
def Shape.count (c : Char) : Shape → Nat
  | .branch (.element name attributes _) children =>
    name.toList.count c + attributesCount c attributes + Shape.countAll c children
  | .branch _ children => Shape.countAll c children
  | .leaf content => content.count c

/-- How often a character occurs in trees. -/
def Shape.countAll (c : Char) : List Shape → Nat
  | [] => 0
  | tree :: rest => tree.count c + Shape.countAll c rest

end

/-- Whether a tree is a text or a character data section. -/
def Shape.isCharacters : Shape → Bool
  | .leaf (.text _) | .leaf (.cdata _) => true
  | _ => false

/-- Whether the content of an element is written from its text alone. -/
def isWrittenAsText (erb : Bool) (name : String) (attributes : List Attribute) : Bool :=
  (Haml.Filter.forElement? name attributes).isSome || erb && (name == "loud" || name == "silent")

mutual

/-- A tree of which nothing is lost: the attributes of an element have distinct names, there is no
document type and no instruction, only comments hold ampersands, an element that is written as text
holds nothing but characters, and a script has no attributes. -/
def Shape.Faithful (erb : Bool) : Shape → Prop
  | .branch (.element name attributes _) children =>
    (attributes.map Attribute.name).Nodup ∧ (∀ a ∈ attributes, '&' ∉ a.value.toList) ∧
      (isWrittenAsText erb name attributes = true → ∀ child ∈ children, child.isCharacters = true) ∧
      (erb = true → name = "loud" ∨ name = "silent" ∨ name = "block" → attributes = []) ∧
      Shape.AllFaithful erb children
  | .branch _ children => Shape.AllFaithful erb children
  | .leaf (.text content) | .leaf (.cdata content) => '&' ∉ content.toList
  | .leaf (.comment _) => True
  | .leaf _ => False

/-- Trees of which nothing is lost. -/
def Shape.AllFaithful (erb : Bool) : List Shape → Prop
  | [] => True
  | tree :: rest => tree.Faithful erb ∧ Shape.AllFaithful erb rest

end

end HtmlToHaml.DocTree

namespace HtmlToHaml.Haml

open Text DocTree

variable {c : Char} {options : Options} {erb inPre : Bool} {row : WriteRow} {level : Nat}
  {spot : Spot} {tree : Shape} {trees children rest : List Shape} {name : String}
  {attributes : List Attribute} {s text : List Char}

section Characters

/-- Trees that are characters say their text, which holds no ampersand. -/
theorem count_textAll (hall : ∀ child ∈ children, child.isCharacters = true)
    (hf : Shape.AllFaithful erb children) :
    (Shape.textAll children).count c = Shape.countAll c children ∧
      '&' ∉ Shape.textAll children := by
  induction children with
  | nil => exact ⟨rfl, by simp [Shape.textAll]⟩
  | cons child rest ih =>
    rw [Shape.AllFaithful] at hf
    obtain ⟨hchild, hrest⟩ := hf
    obtain ⟨ihcount, ihand⟩ := ih (fun other ho => hall other (List.mem_cons_of_mem _ ho)) hrest
    have hown : child.text.count c = child.count c ∧ '&' ∉ child.text := by
      cases child with
      | branch kind children =>
        exact absurd (hall _ List.mem_cons_self) (by simp [Shape.isCharacters])
      | leaf leaf =>
        cases leaf with
        | text content =>
          rw [Shape.Faithful] at hchild
          exact ⟨rfl, hchild⟩
        | cdata content =>
          rw [Shape.Faithful] at hchild
          exact ⟨rfl, hchild⟩
        | comment _ | doctype _ _ _ | instruction _ =>
          exact absurd (hall _ List.mem_cons_self) (by simp [Shape.isCharacters])
    rw [Shape.textAll, Shape.countAll, List.count_append, List.mem_append, not_or, hown.1, ihcount]
    exact ⟨rfl, hown.2, ihand⟩

/-- Trees are those that are taken and the others. -/
theorem countAll_take_drop (n : Nat) :
    Shape.countAll c (trees.take n) + Shape.countAll c (trees.drop n) = Shape.countAll c trees := by
  induction trees generalizing n with
  | nil => simp [Shape.countAll]
  | cons tree rest ih =>
    cases n with
    | zero => simp [Shape.countAll]
    | succ n => simp [Shape.countAll, ← ih n, Nat.add_assoc]

/-- A printed script without attributes says its text. -/
theorem count_splicedShape (h : Inert c) (hn : tree.isNamed "loud" = true)
    (hf : tree.Faithful true) : (splicedShape tree).count c = tree.count c := by
  cases tree with
  | leaf leaf => cases hn
  | branch kind children =>
    cases kind with
    | document => cases hn
    | fragment => cases hn
    | element name attributes selfClosing =>
      obtain rfl := eq_of_beq hn
      rw [Shape.Faithful] at hf
      obtain ⟨-, -, hall, hnone, hchildren⟩ := hf
      obtain rfl := hnone rfl (Or.inl rfl)
      obtain ⟨hcount, hand⟩ := @count_textAll c true children (hall (by simp [isWrittenAsText]))
        hchildren
      have hname : "loud".toList.count c = 0 := h.count_eq_zero (by decide)
      rw [splicedShape, count_interpolation h, Shape.innerText, Entity.unescape_of_not_mem hand,
        count_collapseScript h.solid, hcount, Shape.count, hname]
      simp [attributesCount]

/-- The text that is spliced out of the scripts that begin a row says what these trees say. -/
theorem count_spliced (h : Inert c) (hf : Shape.AllFaithful true trees) :
    (spliced trees).count c = Shape.countAll c (trees.take (runLength trees)) := by
  induction trees using spliced.induct with
  | case1 => rfl
  | case2 marker hn =>
    rw [Shape.AllFaithful] at hf
    simp [spliced, runLength, hn, Shape.countAll, count_splicedShape h hn hf.1]
  | case3 marker hn => simp [spliced, runLength, hn, Shape.countAll]
  | case4 marker following rest hn text ht ih =>
    rw [Shape.AllFaithful, Shape.AllFaithful] at hf
    obtain ⟨hmarker, -, hrest⟩ := hf
    have htext : text.count c = following.count c := by
      obtain ⟨content, rfl, rfl⟩ := Shape.exists_of_content? ht
      rw [Shape.count, Leaf.count]
    simp only [spliced, runLength, hn, ht, if_true, List.take_succ_cons, Shape.countAll,
      List.count_append, count_splicedShape h hn hmarker, ih hrest, htext,
      count_escapeInterpolation (h.ne (by decide)), count_htmlEscape (h.not_mem (by decide)),
      Nat.add_assoc]
  | case5 marker following rest hn ht ih =>
    rw [Shape.AllFaithful] at hf
    simp only [spliced, runLength, hn, ht, if_true, List.take_succ_cons, Shape.countAll,
      List.count_append, count_splicedShape h hn hf.1, ih hf.2]
  | case6 marker following rest hn => simp [spliced, runLength, hn, Shape.countAll]

end Characters

/-- Every answer of a row says what its trees say. -/
def RowSays (c : Char) (erb : Bool) (row : WriteRow) : Prop :=
  ∀ inPre level trees s, Shape.AllFaithful erb trees → row inPre level trees = .ok s →
    s.count c = Shape.countAll c trees

section Pieces

/-- What is left of a text and the scripts after it say the same as the line they make. -/
theorem count_writeText (h : Inert c) (hf : Shape.AllFaithful erb rest) (escapeSpecial : Bool) :
    (writeText erb text rest level escapeSpecial).count c =
      text.count c +
        if erb && !isBlank text then Shape.countAll c (rest.take (runLength rest)) else 0 := by
  rw [writeText]
  by_cases hb : isBlank text = true
  · simp [hb, count_of_isBlank h.solid hb]
  · rw [if_neg hb, count_textLines h, List.count_append,
      count_escapeInterpolation (h.ne (by decide)), count_htmlEscape (h.not_mem (by decide))]
    cases erb with
    | false => rfl
    | true => simp [hb, count_spliced h hf]

/-- The content of an element says what its children say. -/
theorem count_writeBody (h : Inert c) (hrow : RowSays c erb row)
    (hf : Shape.AllFaithful erb children)
    (hs : writeBody erb row inPre name level children = .ok s) :
    s.count c = Shape.countAll c children := by
  have hblock : ∀ {f : List Char → List Char}, (∀ t, (f t).count c = t.count c) →
      (row (name == "pre") (level + 1) children).map f = .ok s →
        s.count c = Shape.countAll c children := by
    intro f hcount hr
    cases hrun : row (name == "pre") (level + 1) children with
    | error failure =>
      rw [hrun] at hr
      cases hr
    | ok t =>
      rw [hrun] at hr
      cases hr
      rw [hcount, hrow _ _ _ _ hf hrun]
  have hbelow : ∀ t : List Char, ('\n' :: t).count c = t.count c :=
    fun t => h.count_cons (by decide)
  rcases children with _ | ⟨child, _ | ⟨second, more⟩⟩
  · exact hblock hbelow hs
  · rw [writeBody] at hs
    cases ht : child.content? with
    | none =>
      simp only [ht] at hs
      split at hs
      · exact hblock (fun t => count_inlineScript h) hs
      · exact hblock hbelow hs
    | some text =>
      obtain ⟨content, rfl, rfl⟩ := Shape.exists_of_content? ht
      have htext : Shape.countAll c [.leaf (.text content)] = content.toList.count c := by
        simp [Shape.countAll, Shape.count, Leaf.count]
      simp only [ht] at hs
      split at hs
      · cases hs
        rw [htext, count_inlineText h, count_writeText h (by rw [Shape.AllFaithful]; trivial)]
        simp [Shape.countAll]
      · split at hs
        · cases hs
          rw [htext, hbelow, count_preserveBlock h]
        · exact hblock hbelow hs
  · exact hblock hbelow hs

/-- A text whose framing is left out and whose scripts are read says what it said before. -/
theorem count_framedScript (h : Inert c) (erb : Bool) (hand : '&' ∉ text) :
    (interpolateMarkers erb (stripCdataFraming text)).count c = text.count c := by
  have hstrip : '&' ∉ stripCdataFraming text := by
    rw [← List.count_eq_zero, count_stripCdataFraming (by decide) (by decide) (by decide),
      List.count_eq_zero]
    exact hand
  rw [count_interpolateMarkers h erb hstrip,
    count_stripCdataFraming h.solid (h.not_mem rfl) (h.not_mem rfl)]

/-- The body of a filter says what the children of its element say. -/
theorem count_filterShapes (h : Inert c) (hall : ∀ child ∈ children, child.isCharacters = true)
    (hf : Shape.AllFaithful erb children) :
    (filterShapes erb children).count c = Shape.countAll c children := by
  obtain ⟨hcount, hand⟩ := @count_textAll c erb children hall hf
  rw [filterShapes]
  split
  · rw [count_framedScript h erb hand, hcount]
  · rw [Entity.unescape_of_not_mem hand, count_interpolateMarkers h erb hand, hcount]

/-- A filter has no attributes but ASCII ones. -/
theorem count_of_forElement? {filter : Filter} (h : Inert c)
    (hf : Filter.forElement? name attributes = some filter) :
    name.toList.count c = 0 ∧ attributesCount c attributes = 0 := by
  have htype : ∀ mime : String, (mime.toList.all fun d => d.toNat < 128) = true →
      (attributes.all fun a => a.name == "type" && a.value == mime) = true →
        attributesCount c attributes = 0 := by
    intro mime hmime hall
    apply List.sum_eq_zero_iff_forall_eq_nat.2
    intro n hn
    obtain ⟨a, ha, rfl⟩ := List.mem_map.1 hn
    have hboth := List.all_eq_true.1 hall a ha
    rw [Bool.and_eq_true, beq_iff_eq, beq_iff_eq] at hboth
    rw [hboth.1, hboth.2, h.count_eq_zero hmime, h.count_eq_zero (by decide)]
  rw [Filter.forElement?] at hf
  dsimp only at hf
  split at hf
  · rename_i hname
    subst hname
    split at hf
    · rename_i hall
      exact ⟨h.count_eq_zero (by decide), htype _ (by decide) hall⟩
    · cases hf
  · split at hf
    · rename_i hname
      subst hname
      split at hf
      · rename_i hall
        exact ⟨h.count_eq_zero (by decide), htype _ (by decide) hall⟩
      · cases hf
    · cases hf

/-- The lines of a script say the script. -/
theorem count_scriptLines (h : Inert c) {silent : Bool} (hs : '&' ∉ text) :
    (indentedLines level (scriptLines silent text rest)).count c = text.count c := by
  rw [count_indentedLines h, scriptLines]
  split
  · exact count_silentLines h hs
  · dsimp only
    rw [List.flatten_append, List.count_append, count_alignLoudLines h, count_loudSourceLines h hs]
    split
    · have hmark : [['-', '#']].flatten.count c = 0 := h.count_eq_zero rfl
      rw [hmark, Nat.add_zero]
    · rfl

end Pieces

section Accounts

/-- How often a character occurs in the word that an element takes from the text after it. -/
def Tie.count (c : Char) : Tie → Nat
  | .loose => 0
  | .nuked => 0
  | .succeeded word _ => word.count c

/-- How often a character occurs in what a spot has left of a row. -/
def Spot.left (c : Char) (spot : Spot) (trees : List Shape) : Nat :=
  match spot.held with
  | some text => text.count c + Shape.countAll c trees.tail
  | none => Shape.countAll c (trees.drop spot.skip)

/-- Only a text that is not written yet has given up its first word. -/
def Spot.Fits (spot : Spot) (trees : List Shape) : Prop :=
  ∀ text, spot.held = some text →
    spot.skip = 0 ∧ ∃ content more, trees = .leaf (.text content) :: more

/-- An element with a header says its name, its attributes, its children and the word it takes. -/
theorem count_writeTag {glued selfClosing : Bool} (h : Inert c) (hrow : RowSays c options.erb row)
    (hf : (Shape.branch (.element name attributes selfClosing) children).Faithful options.erb)
    (hs : writeTag options row inPre glued name attributes selfClosing level children rest =
      .ok s) :
    s.count c = (Shape.branch (.element name attributes selfClosing) children).count c +
      (tie glued rest).count c := by
  rw [Shape.Faithful] at hf
  obtain ⟨hnames, hvalues, -, -, hchildren⟩ := hf
  have hn : ((entries attributes options.erb).map Entry.name).Nodup := by
    have hmap : (entries attributes options.erb).map Entry.name =
        (attributes.map Attribute.name).map String.toList := by
      simp [entries]
    rw [hmap]
    exact hnames.map fun a b he => String.toList_inj.1 he
  have hheader : ∀ nuked, (header options.style name.toList
      (Shorthand.of (entries attributes options.erb)) nuked selfClosing).count c =
        name.toList.count c + attributesCount c attributes := by
    intro nuked
    rw [count_header h hn, entriesCount_entries h options.erb hvalues]
    rfl
  have hindent : ∀ level, (indentation level).count c = 0 :=
    fun level => h.count_indentation
  have hbody : ∀ {level : Nat} {front : List Char},
      (writeBody options.erb row inPre name level children).map (front ++ ·) = .ok s →
        s.count c = front.count c + Shape.countAll c children := by
    intro level front hr
    cases hw : writeBody options.erb row inPre name level children with
    | error failure =>
      rw [hw] at hr
      cases hr
    | ok body =>
      rw [hw] at hr
      cases hr
      rw [List.count_append, count_writeBody h hrow hchildren hw]
  rw [writeTag] at hs
  rw [Shape.count]
  cases ht : tie glued rest with
  | loose =>
    simp only [ht] at hs
    rw [hbody hs, List.count_append, hindent, hheader, Tie.count]
    omega
  | nuked =>
    simp only [ht] at hs
    rw [hbody hs, List.count_append, hindent, hheader, Tie.count]
    omega
  | succeeded word left =>
    simp only [ht] at hs
    rw [hbody hs, List.count_append, List.count_append, List.count_append, hindent, hindent,
      hheader, count_succeedLine h, Tie.count]
    omega

/-- The word and the rest are the text. -/
theorem exists_of_tie {glued : Bool} {word left : List Char}
    (ht : tie glued rest = .succeeded word left) :
    ∃ content more, rest = .leaf (.text content) :: more ∧ word ++ left = content.toList := by
  rw [tie] at ht
  cases rest with
  | nil => cases ht
  | cons next more =>
    rw [List.head?_cons, Option.bind_some] at ht
    cases hc : next.content? with
    | none =>
      rw [hc] at ht
      cases ht
    | some text =>
      obtain ⟨content, rfl, rfl⟩ := Shape.exists_of_content? hc
      simp only [hc] at ht
      split at ht
      · cases ht
      · split at ht
        · cases ht
        · cases ht
          exact ⟨content, more, rfl, List.takeWhile_append_dropWhile⟩

/-- The next spot fits. -/
theorem Spot.Fits.next : (spot.next erb tree rest).Fits rest := by
  intro text hheld
  have hcut : spot.nextHeld erb tree rest = some text := hheld
  unfold Spot.nextHeld at hcut
  split at hcut
  · rename_i name attributes selfClosing children hskip
    split at hcut
    · rename_i word left _ ht
      obtain ⟨content, more, hrest, -⟩ := exists_of_tie ht
      refine ⟨?_, content, more, hrest⟩
      simp only [Spot.next, Spot.nextSkip, hskip]
    · cases hcut
  · cases hcut

/-- What is left after a tree that takes nothing from the trees after it are these trees. -/
theorem left_next (hskip : spot.nextSkip erb tree rest = 0)
    (hheld : spot.nextHeld erb tree rest = none) :
    (spot.next erb tree rest).left c rest = Shape.countAll c rest := by
  simp only [Spot.left, Spot.next, hheld, hskip, List.drop_zero]

/-- Behind an element that is not written as a tag everything is left. -/
theorem left_next_of_ne_tag {selfClosing : Bool} (hskip : spot.skip = 0)
    (hm : manner erb name attributes ≠ .tag) :
    (spot.next erb (.branch (.element name attributes selfClosing) children) rest).left c rest =
      Shape.countAll c rest := by
  refine left_next (by simp only [Spot.nextSkip, hskip]) ?_
  simp only [Spot.nextHeld, hskip]
  split
  · rename_i htag _
    exact absurd htag hm
  · rfl

/-- Behind an element that is written as a tag everything is left but the word that it takes. -/
theorem count_tie_add_left_next {selfClosing : Bool} (hskip : spot.skip = 0)
    (hm : manner erb name attributes = .tag) :
    (tie spot.glued rest).count c +
        (spot.next erb (.branch (.element name attributes selfClosing) children) rest).left c rest =
      Shape.countAll c rest := by
  have hnoskip : spot.nextSkip erb
      (.branch (.element name attributes selfClosing) children) rest = 0 := by
    simp only [Spot.nextSkip, hskip]
  cases ht : tie spot.glued rest with
  | loose =>
    rw [left_next hnoskip (by simp only [Spot.nextHeld, hskip, hm, ht]), Tie.count, Nat.zero_add]
  | nuked =>
    rw [left_next hnoskip (by simp only [Spot.nextHeld, hskip, hm, ht]), Tie.count, Nat.zero_add]
  | succeeded word left =>
    have hheld : spot.nextHeld erb
        (.branch (.element name attributes selfClosing) children) rest = some left := by
      simp only [Spot.nextHeld, hskip, hm, ht]
    obtain ⟨content, more, rfl, hcut⟩ := exists_of_tie ht
    have htext : Shape.countAll c (.leaf (.text content) :: more) =
        word.count c + left.count c + Shape.countAll c more := by
      rw [Shape.countAll, Shape.count, Leaf.count, ← hcut, List.count_append]
    simp only [Spot.left, Spot.next, hheld, htext, Tie.count, List.tail_cons]
    omega

/-- The manner in which an element is written tells its name. -/
theorem manner_spec :
    match manner erb name attributes with
    | .filtered filter => Filter.forElement? name attributes = some filter
    | .opened => erb = true ∧ name = "block"
    | .script _ => erb = true ∧ (name = "loud" ∨ name = "silent")
    | .tag => True := by
  rw [manner]
  cases hf : Filter.forElement? name attributes with
  | some filter => rfl
  | none =>
    dsimp only
    by_cases hblock : (erb && name == "block") = true
    · rw [if_pos hblock]
      rw [Bool.and_eq_true, beq_iff_eq] at hblock
      exact hblock
    · rw [if_neg hblock]
      by_cases hscript : (erb && (name == "loud" || name == "silent")) = true
      · rw [if_pos hscript]
        rw [Bool.and_eq_true, Bool.or_eq_true, beq_iff_eq, beq_iff_eq] at hscript
        exact hscript
      · rw [if_neg hscript]
        trivial

/-- An element that is written says itself and the word it takes from the text after it. -/
theorem count_writeElement {selfClosing : Bool} (h : Inert c) (hrow : RowSays c options.erb row)
    (hf : (Shape.branch (.element name attributes selfClosing) children).Faithful options.erb)
    (hskip : spot.skip = 0)
    (hs : writeShape options row inPre level spot rest
      (.branch (.element name attributes selfClosing) children) = .ok s) :
    s.count c + (spot.next options.erb
        (.branch (.element name attributes selfClosing) children) rest).left c rest =
      (Shape.branch (.element name attributes selfClosing) children).count c +
        Shape.countAll c rest := by
  have hall := hf
  rw [Shape.Faithful] at hf
  obtain ⟨-, -, hcharacters, hnone, hchildren⟩ := hf
  have hmanner := @manner_spec options.erb name attributes
  rw [writeShape] at hs
  cases hm : manner options.erb name attributes with
  | filtered filter =>
    rw [hm] at hmanner hs
    have htext := hcharacters (by simp [isWrittenAsText, hmanner])
    obtain ⟨hname, hattributes⟩ := count_of_forElement? h hmanner
    rw [left_next_of_ne_tag hskip (by simp [hm])]
    cases hs
    rw [h.count_filterBlock, count_filterShapes h htext hchildren, Shape.count, hname, hattributes]
    simp
  | opened =>
    rw [hm] at hmanner hs
    obtain ⟨herb, rfl⟩ := hmanner
    obtain rfl := hnone herb (by simp)
    have hname : "block".toList.count c = 0 := h.count_eq_zero (by decide)
    rw [left_next_of_ne_tag hskip (by simp [hm]), hrow _ _ _ _ hchildren hs, Shape.count, hname]
    simp [attributesCount]
  | script silent =>
    rw [hm] at hmanner hs
    obtain ⟨herb, hscript⟩ := hmanner
    obtain rfl := hnone herb (hscript.imp_right Or.inl)
    have hname : name.toList.count c = 0 := by
      rcases hscript with rfl | rfl
      · exact h.count_eq_zero (by decide)
      · exact h.count_eq_zero (by decide)
    obtain ⟨hcount, hand⟩ := @count_textAll c options.erb children
      (hcharacters (by simp [isWrittenAsText, herb, hscript])) hchildren
    rw [left_next_of_ne_tag hskip (by simp [hm])]
    cases hs
    rw [count_scriptLines h hand, hcount, Shape.count, hname]
    simp [attributesCount]
  | tag =>
    rw [hm] at hs
    rw [count_writeTag h hrow hall hs, Nat.add_assoc, count_tie_add_left_next hskip hm]

/-- Of a tree that is no text, nothing has been taken before it is written. -/
theorem Spot.Fits.left_cons (hfits : spot.Fits (tree :: rest)) (hskip : spot.skip = 0)
    (hne : ∀ content, tree ≠ .leaf (.text content)) :
    spot.left c (tree :: rest) = tree.count c + Shape.countAll c rest := by
  rw [Spot.left]
  cases hheld : spot.held with
  | none => simp [hskip, Shape.countAll]
  | some text =>
    obtain ⟨-, content, more, he⟩ := hfits text hheld
    cases he
    exact absurd rfl (hne content)

/-- A leaf that is written says what the spot before it has left and the next one has not. -/
theorem count_writeLeaf {leaf : Leaf} (h : Inert c)
    (hf : Shape.AllFaithful options.erb (.leaf leaf :: rest))
    (hfits : spot.Fits (.leaf leaf :: rest)) (hskip : spot.skip = 0)
    (hs : writeShape options row inPre level spot rest (.leaf leaf) = .ok s) :
    s.count c + (spot.next options.erb (.leaf leaf) rest).left c rest =
      spot.left c (.leaf leaf :: rest) := by
  rw [Shape.AllFaithful] at hf
  obtain ⟨hleaf, hrest⟩ := hf
  cases leaf with
  | text content =>
    have hleft : spot.left c (.leaf (.text content) :: rest) =
        (spot.held.getD content.toList).count c + Shape.countAll c rest := by
      rw [Spot.left]
      cases spot.held with
      | none => simp [hskip, Shape.countAll, Shape.count, Leaf.count]
      | some text => rfl
    have hnext : (spot.next options.erb (.leaf (.text content)) rest).left c rest =
        Shape.countAll c (rest.drop (spot.nextSkip options.erb (.leaf (.text content)) rest)) := by
      simp only [Spot.left, Spot.next, Spot.nextHeld, hskip]
    cases hs
    rw [hleft, hnext, count_writeText h hrest, Nat.add_assoc]
    simp only [Spot.nextSkip, hskip]
    split
    · rw [countAll_take_drop]
    · rw [List.drop_zero, Nat.zero_add]
  | comment content =>
    rw [hfits.left_cons hskip (by simp), left_next (by simp only [Spot.nextSkip, hskip])
      (by simp only [Spot.nextHeld, hskip])]
    cases hs
    rw [count_commentBlock h]
    rfl
  | cdata content =>
    rw [hfits.left_cons hskip (by simp), left_next (by simp only [Spot.nextSkip, hskip])
      (by simp only [Spot.nextHeld, hskip])]
    rw [Shape.Faithful] at hleaf
    have hname : (':' :: Filter.cdata.name.toList).count c = 0 := h.count_eq_zero (by decide)
    cases hs
    rw [List.count_append, List.count_append, hname, h.count_cons (by decide),
      h.count_indentation, count_textLines h, count_framedScript h _ hleaf, Nat.zero_add]
    rfl
  | doctype docName externalId systemId => simp [Shape.Faithful] at hleaf
  | instruction content => simp [Shape.Faithful] at hleaf

/-- **A tree that is written says what the spot before it has left and the next one has not.** -/
theorem count_writeShape (h : Inert c) (hrow : RowSays c options.erb row)
    (hf : Shape.AllFaithful options.erb (tree :: rest)) (hfits : spot.Fits (tree :: rest))
    (hskip : spot.skip = 0)
    (hs : writeShape options row inPre level spot rest tree = .ok s) :
    s.count c + (spot.next options.erb tree rest).left c rest = spot.left c (tree :: rest) := by
  cases tree with
  | leaf leaf => exact count_writeLeaf h hf hfits hskip hs
  | branch kind children =>
    rw [Shape.AllFaithful] at hf
    obtain ⟨htree, -⟩ := hf
    rw [hfits.left_cons hskip (by simp)]
    cases kind with
    | document =>
      rw [Shape.Faithful] at htree
      · rw [left_next (by simp only [Spot.nextSkip, hskip]) (by simp only [Spot.nextHeld, hskip]),
          hrow _ _ _ _ htree hs]
        rfl
      · simp
    | fragment =>
      rw [Shape.Faithful] at htree
      · rw [left_next (by simp only [Spot.nextSkip, hskip]) (by simp only [Spot.nextHeld, hskip]),
          hrow _ _ _ _ htree hs]
        rfl
      · simp
    | element name attributes selfClosing => exact count_writeElement h hrow htree hskip hs

end Accounts

section Rows

/-- A row says what its first spot has left. -/
theorem count_writeFrom (h : Inert c) (hrow : RowSays c options.erb row)
    (hf : Shape.AllFaithful options.erb trees) (hfits : spot.Fits trees)
    (hs : writeFrom options row inPre level spot trees = .ok s) :
    s.count c = spot.left c trees := by
  induction trees generalizing spot s with
  | nil =>
    cases hs
    rw [Spot.left]
    cases hheld : spot.held with
    | none => simp [Shape.countAll]
    | some text =>
      obtain ⟨-, content, more, he⟩ := hfits text hheld
      cases he
  | cons tree rest ih =>
    have hrest : Shape.AllFaithful options.erb rest := by
      rw [Shape.AllFaithful] at hf
      exact hf.2
    obtain ⟨first, more, hw, hm, rfl⟩ := exists_of_writeFrom_cons hs
    rw [List.count_append, ih hrest Spot.Fits.next hm]
    rw [writeNext] at hw
    split at hw
    · rename_i hskip
      exact count_writeShape h hrow hf hfits hskip hw
    · rename_i hskip
      obtain ⟨skip, hskip'⟩ := Nat.exists_eq_succ_of_ne_zero hskip
      have hheld : spot.held = none := by
        cases hc : spot.held with
        | none => rfl
        | some text => exact absurd (hfits text hc).1 hskip
      cases hw
      simp only [Spot.left, Spot.next, Spot.nextSkip, Spot.nextHeld, hskip', hheld]
      simp

/-- **A row says what its trees say.** -/
theorem writeRow_says (h : Inert c) (options : Options) (depth : Nat) :
    RowSays c options.erb (writeRow options depth) := by
  induction depth with
  | zero =>
    intro inPre level trees s _ hs
    cases trees with
    | nil =>
      cases hs
      rfl
    | cons tree rest => cases hs
  | succ depth ih =>
    intro inPre level trees s hf hs
    have hfits : Spot.Fits {} trees := fun text ht => nomatch ht
    exact count_writeFrom h ih hf hfits hs

/-- **Nothing is lost and nothing is said twice: what is neither ASCII nor white space occurs in the
answer as often as in the names, the attributes and the leaves of the tree.** -/
theorem count_render {store : Store} {kind : Branch} {answer : String} (h : store.Forest)
    (hkind : kind = .document ∨ kind = .fragment)
    (hs : store.Shows store.root (.branch kind trees))
    (hf : Shape.AllFaithful options.erb trees) (hc : Inert c)
    (hr : render store options = .ok answer) :
    answer.toList.count c = Shape.count c (.branch kind trees) := by
  rw [render_eq_writeRow h hkind hs] at hr
  have hall : Shape.count c (.branch kind trees) = Shape.countAll c trees := by
    rcases hkind with rfl | rfl
    · rfl
    · rfl
  cases hw : writeRow options options.maxDepth false 0 trees with
  | error failure =>
    rw [hw] at hr
    cases hr
  | ok lines =>
    rw [hw] at hr
    cases hr
    rw [String.toList_ofList, hall]
    exact writeRow_says hc options options.maxDepth _ _ _ _ hf hw

/-- A paragraph between two texts, the second of which takes the script after it. -/
def study : List Shape :=
  [.leaf (.text "né "), .branch (.element "p" [⟨"title", "été"⟩] false) [.leaf (.text "é")],
    .leaf (.text "étude et "), .branch (.element "loud" [] false) [.leaf (.text "été")]]

/-- All accents of a text with a script in it are in the answer. -/
theorem count_render_study :
    Inert 'é' ∧ Shape.AllFaithful true study ∧
      render (Shape.build .document study) { erb := true } =
        .ok ("né\n= succeed \"étude\" do\n  %p\x7b:title => \"été\"\x7d é\n" ++
          "et \x23\x7bété\x7d\n") ∧
      ("né\n= succeed \"étude\" do\n  %p\x7b:title => \"été\"\x7d é\n" ++
        "et \x23\x7bété\x7d\n").toList.count 'é' = Shape.count 'é' (.branch .document study) := by
  have hinert : Inert 'é' := ⟨by decide, by decide⟩
  have hf : Shape.AllFaithful true study := by
    simp [study, Shape.AllFaithful, Shape.Faithful, isWrittenAsText, Filter.forElement?,
      Shape.isCharacters]
  have hr : render (Shape.build .document study) { erb := true } =
      .ok ("né\n= succeed \"étude\" do\n  %p\x7b:title => \"été\"\x7d é\n" ++
        "et \x23\x7bété\x7d\n") := by
    decide +kernel
  have hall := @count_render 'é' { erb := true } study (Shape.build .document study) .document _
    (Store.forest_build _ _).1 (Or.inl rfl) (Store.shows_build _ rfl) hf hinert hr
  exact ⟨hinert, hf, hr, hall⟩

end Rows

end HtmlToHaml.Haml
