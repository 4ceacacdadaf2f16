import AtomicCss.Proofs.Markup.References
import AtomicCss.Sheet.Printer
import Mathlib.Data.List.TakeWhile

/-! # Reading a `style` block

A page that starts with a `style` block is read as a `style` element with the identifier and the CSS
text of the block, and goes on behind the block. For this the characters that end a value or a tag are
references in the identifier, and there is no `<` in the CSS text. -/

namespace AtomicCss.Markup

/-! ## Escaped identifiers -/

/-- A value as it is written inside a quoted attribute. -/
def escapeAttribute (value : Text) : Text := value.flatMap escapeAttributeChar

/-- A name that a semicolon follows is read whole. -/
theorem readNamed?_of_get? {name characters : Text} (hname : name.all Char.isAlphanum)
    (h : OrderedMap.get? name namedReferences = some characters) (inAttribute : Bool)
    (rest : Text) :
    readNamed? inAttribute (name ++ ';' :: rest) = some (characters, name.length + 1) := by
  have htake : (name ++ ';' :: rest).takeWhile Char.isAlphanum = name := by
    rw [List.takeWhile_append_of_pos (List.all_eq_true.1 hname),
      List.takeWhile_cons_of_neg (by decide), List.append_nil]
  have hsemicolon : ((name ++ ';' :: rest).drop name.length).head? = some ';' := by
    rw [List.drop_left]
    rfl
  simp only [readNamed?, htake, hsemicolon, if_true, h]

theorem decodeAfter_append (inAttribute : Bool) (skipped rest : Text) :
    decodeAfter inAttribute skipped.length (skipped ++ rest) = decodeAfter inAttribute 0 rest := by
  induction skipped with
  | nil => rfl
  | cons c skipped ih => exact ih

/-- A reference is decoded to what it stands for. -/
theorem decodeAfter_reference {reference rest characters : Text} {inAttribute : Bool}
    (h : readReference? inAttribute (reference ++ rest) = some (characters, reference.length)) :
    decodeAfter inAttribute 0 ('&' :: reference ++ rest) =
      characters ++ decodeAfter inAttribute 0 rest := by
  rw [List.cons_append, decodeAfter, if_pos rfl, h]
  simp only [decodeAfter_append]

/-- A name with its semicolon is the reference to what it stands for. -/
theorem readReference?_of_get? {name characters : Text} (hname : name.all Char.isAlphanum)
    (h : OrderedMap.get? name namedReferences = some characters) (inAttribute : Bool)
    (rest : Text) :
    readReference? inAttribute ((name ++ [';']) ++ rest) =
      some (characters, (name ++ [';']).length) := by
  have hhash : ((name ++ [';']) ++ rest).head? ≠ some '#' := by
    cases name with
    | nil => simp
    | cons c name =>
        rintro heq
        cases heq
        exact absurd (List.all_eq_true.1 hname '#' List.mem_cons_self) (by decide)
  rw [readReference?_of_head?_ne hhash, List.append_assoc, List.singleton_append,
    readNamed?_of_get? hname h, List.length_append, List.length_singleton]

/-- A character is escaped as a reference that stands for it, or stays as it is. -/
theorem escapeAttributeChar_cases (c : Char) :
    (∃ reference, escapeAttributeChar c = '&' :: reference ∧
      ∀ inAttribute rest,
        readReference? inAttribute (reference ++ rest) = some ([c], reference.length)) ∨
      escapeAttributeChar c = [c] ∧ c ∉ ['&', '<', '>', '"', '\''] := by
  rw [escapeAttributeChar]
  split_ifs with hand hless hgreater hquote hapostrophe
  · subst hand
    exact Or.inl ⟨['a', 'm', 'p', ';'], rfl,
      @readReference?_of_get? ['a', 'm', 'p'] _ (by decide) (by decide +kernel)⟩
  · subst hless
    exact Or.inl ⟨['l', 't', ';'], rfl,
      @readReference?_of_get? ['l', 't'] _ (by decide) (by decide +kernel)⟩
  · subst hgreater
    exact Or.inl ⟨['g', 't', ';'], rfl,
      @readReference?_of_get? ['g', 't'] _ (by decide) (by decide +kernel)⟩
  · subst hquote
    exact Or.inl ⟨['q', 'u', 'o', 't', ';'], rfl,
      @readReference?_of_get? ['q', 'u', 'o', 't'] _ (by decide) (by decide +kernel)⟩
  · subst hapostrophe
    exact Or.inl ⟨['#', 'x', '2', '7', ';'], rfl, fun _ _ => rfl⟩
  · exact Or.inr ⟨rfl, by simp [*]⟩

theorem decodeAfter_escapeAttributeChar (inAttribute : Bool) (c : Char) (rest : Text) :
    decodeAfter inAttribute 0 (escapeAttributeChar c ++ rest) =
      c :: decodeAfter inAttribute 0 rest := by
  rcases escapeAttributeChar_cases c with ⟨reference, hescape, hread⟩ | ⟨hescape, hplain⟩
  · rw [hescape, decodeAfter_reference (hread inAttribute rest)]
    rfl
  · rw [hescape, List.singleton_append, decodeAfter, if_neg]
    rintro rfl
    simp at hplain

/-- Decoding the references of an escaped value gives the value. -/
theorem decodeReferences_escapeAttribute (inAttribute : Bool) (value : Text) :
    decodeReferences inAttribute (escapeAttribute value) = value := by
  rw [decodeReferences, escapeAttribute]
  induction value with
  | nil => rfl
  | cons c value ih => rw [List.flatMap_cons, decodeAfter_escapeAttributeChar, ih]

/-- An escaped value has none of the characters that end it or its tag. -/
theorem notMem_of_mem_escapeAttribute {value : Text} {c : Char} (h : c ∈ escapeAttribute value) :
    c ∉ ['"', '<', '>'] := by
  obtain ⟨d, -, hd⟩ := List.mem_flatMap.1 h
  rw [escapeAttributeChar] at hd
  have hreference {reference : Text} (hall : reference.all fun d => d ∉ ['"', '<', '>'])
      (hc : c ∈ reference) : c ∉ ['"', '<', '>'] := by
    simpa using List.all_eq_true.1 hall c hc
  split_ifs at hd
  · exact hreference (by decide) hd
  · exact hreference (by decide) hd
  · exact hreference (by decide) hd
  · exact hreference (by decide) hd
  · exact hreference (by decide) hd
  · rw [List.mem_singleton.1 hd]
    simp [*]

/-! ## Reading the tags -/

theorem span_append_cons {p : Char → Bool} {front : Text} (hfront : front.all p) {c : Char}
    (hc : p c = false) (back : Text) : (front ++ c :: back).span p = (front, c :: back) := by
  rw [List.all_eq_true] at hfront
  rw [List.span_eq_takeWhile_dropWhile, List.takeWhile_append_of_pos hfront,
    List.dropWhile_append_of_pos hfront, List.takeWhile_cons_of_neg (by simp [hc]),
    List.dropWhile_cons_of_neg (by simp [hc]), List.append_nil]

/-- An escaped value between quotes is read back. -/
theorem readAttributeValue_escapeAttribute (value rest : Text) :
    readAttributeValue ('"' :: (escapeAttribute value ++ '"' :: rest)) = (value, rest) := by
  have hspan : (escapeAttribute value ++ '"' :: rest).span (· ≠ '"') =
      (escapeAttribute value, '"' :: rest) := by
    apply span_append_cons
    · rw [List.all_eq_true]
      intro c hc
      rw [decide_eq_true_eq]
      rintro rfl
      exact notMem_of_mem_escapeAttribute hc (by decide)
    · decide
  simp only [readAttributeValue, hspan, List.drop_one, List.tail_cons,
    decodeReferences_escapeAttribute]

theorem readAttribute_identifier (identifier rest : Text) :
    readAttribute 'i' ('d' :: '=' :: '"' :: (escapeAttribute identifier ++ '"' :: rest)) =
      (['i', 'd'], some identifier, rest) := by
  have hname (quoted : Text) :
      ('d' :: '=' :: quoted).span (fun c => !endsName c && c ≠ '=') = (['d'], '=' :: quoted) :=
    @span_append_cons _ ['d'] (by decide) '=' (by decide) quoted
  have hequals (quoted : Text) : ('=' :: quoted).dropWhile isSpace = '=' :: quoted :=
    List.dropWhile_cons_of_neg (by decide)
  have hquote (quoted : Text) : ('"' :: quoted).dropWhile isSpace = '"' :: quoted :=
    List.dropWhile_cons_of_neg (by decide)
  have hfold : foldName ['i', 'd'] = ['i', 'd'] := by decide
  simp only [readAttribute, hname, hequals, hquote, hfold, readAttributeValue_escapeAttribute]

theorem readAttributesFor_greater (rounds : Nat) (attributes : Attributes) (rest : Text) :
    readAttributesFor (rounds + 1) attributes ('>' :: rest) = some (⟨attributes, false⟩, rest) :=
  rfl

/-- A tag with nothing but an identifier is read as one. -/
theorem readAttributes_identifier (identifier rest : Text) :
    readAttributes (' ' :: 'i' :: 'd' :: '=' :: '"' ::
        (escapeAttribute identifier ++ '"' :: '>' :: rest)) =
      some (⟨[(['i', 'd'], some identifier)], false⟩, rest) := by
  have hround (rounds : Nat) (quoted : Text) :
      readAttributesFor (rounds + 1) [] (' ' :: 'i' :: quoted) =
        readAttributesFor rounds
          [((readAttribute 'i' quoted).1, (readAttribute 'i' quoted).2.1)]
          (readAttribute 'i' quoted).2.2 := rfl
  rw [readAttributes, hround, readAttribute_identifier, List.length_cons]
  exact readAttributesFor_greater _ _ rest

section

variable {c : Char} {rest tag named after : Text}

/-- A letter after a less-than sign starts a tag. -/
theorem readAfterLess_of_isAlpha (hc : c.isAlpha) (hname : readName (c :: rest) = (tag, named))
    {attributes : Attributes} (hread : readAttributes named = some (⟨attributes, false⟩, after)) :
    readAfterLess (c :: rest) =
      (.startTag tag attributes false :: contentTokens tag (splitContent tag after).1,
        (splitContent tag after).2) := by
  rw [readAfterLess]
  · simp only [hc, if_true, hname, hread, Bool.false_eq_true, if_false]
  -- the letter is none of the signs that start something else
  all_goals
    intros
    subst_vars
    cases hc

/-- A slash and a letter after a less-than sign start an end tag. -/
theorem readAfterLess_slash_of_isAlpha (hc : c.isAlpha)
    (hname : readName (c :: rest) = (tag, named)) {ending : TagEnding}
    (hread : readAttributes named = some (ending, after)) :
    readAfterLess ('/' :: c :: rest) = ([.endTag tag], after) := by
  rw [readAfterLess]
  · simp only [hc, if_true, hname, hread]
  · rintro rfl
    cases hc

end

/-! ## Reading the block -/

/-- The tag of style sheets. -/
def styleTag : Text := ['s', 't', 'y', 'l', 'e']

theorem readName_styleTag {c : Char} (hc : endsName c) (rest : Text) :
    readName (styleTag ++ c :: rest) = (styleTag, c :: rest) := by
  have hfold : foldName styleTag = styleTag := by decide
  have hname : styleTag.all fun d => !endsName d := by decide
  simp only [readName, span_append_cons hname (by simp [hc] : (!endsName c) = false), hfold]

/-- An end tag ends the content of an element with its tag. -/
theorem startsWithTag_endTag {tag : Text} (h : Text.lowercase tag = tag) (rest : Text) :
    startsWithTag ['<', '/'] tag ('<' :: '/' :: (tag ++ '>' :: rest)) := by
  have hword : startsWithWord tag (tag ++ '>' :: rest) := by
    rw [startsWithWord, List.take_left, h, List.isPrefixOf_iff_prefix]
  have hopening : ['<', '/'].isPrefixOf ('<' :: '/' :: (tag ++ '>' :: rest)) := rfl
  have hdrop : ('<' :: '/' :: (tag ++ '>' :: rest)).drop (2 + tag.length) = '>' :: rest := by
    rw [← List.drop_drop]
    exact List.drop_left
  rw [startsWithTag, hopening, Bool.true_and, List.length_cons, List.length_singleton, hdrop]
  simp only [List.drop_succ_cons, List.drop_zero, hword, Bool.true_and]
  rfl

theorem startsWithTag_of_ne {c : Char} (h : c ≠ '<') (opening tag rest : Text) :
    startsWithTag ('<' :: opening) tag (c :: rest) = false := by
  simp [startsWithTag, h.symm]

/-- Text without a less-than sign goes on to the end tag. -/
theorem splitAtEndTag_of_notMem {tag content : Text} (htag : Text.lowercase tag = tag)
    (h : '<' ∉ content) (rest : Text) :
    splitAtEndTag tag (content ++ '<' :: '/' :: (tag ++ '>' :: rest)) =
      (content, '<' :: '/' :: (tag ++ '>' :: rest)) := by
  induction content with
  | nil => rw [List.nil_append, splitAtEndTag, if_pos (startsWithTag_endTag htag rest)]
  | cons c content ih =>
      obtain ⟨hc, hcontent⟩ := not_or.1 (mt List.mem_cons.2 h)
      rw [List.cons_append, splitAtEndTag, startsWithTag_of_ne (Ne.symm hc), ih hcontent]
      rfl

/-- The start tag of a block is read as that of a `style` element with its identifier, and the text
up to the end tag as the content of the element. -/
theorem readAfterLess_styleTag {content : Text} (h : '<' ∉ content) (identifier rest : Text) :
    readAfterLess (styleTag ++ ' ' :: 'i' :: 'd' :: '=' :: '"' :: (escapeAttribute identifier ++
        '"' :: '>' :: (content ++ '<' :: '/' :: (styleTag ++ '>' :: rest)))) =
      (.startTag styleTag [(['i', 'd'], some identifier)] false ::
          if content.isEmpty then [] else [.text content],
        '<' :: '/' :: (styleTag ++ '>' :: rest)) := by
  have hkind : ContentKind.ofTag styleTag = .rawText := by decide
  have htag : Text.lowercase styleTag = styleTag := by decide
  refine (readAfterLess_of_isAlpha (by decide) (readName_styleTag rfl _)
    (readAttributes_identifier identifier _)).trans ?_
  simp only [splitContent, contentTokens, hkind, splitAtEndTag_of_notMem htag h, reduceCtorEq, if_false]

theorem readAfterLess_endTag (rest : Text) :
    readAfterLess ('/' :: (styleTag ++ '>' :: rest)) = ([.endTag styleTag], rest) :=
  readAfterLess_slash_of_isAlpha (by decide) (readName_styleTag rfl rest)
    (readAttributesFor_greater _ [] rest)

/-- A `style` block with this identifier and this text. -/
def blockText (identifier content : Text) : Text :=
  "<style id=\"".toList ++ escapeAttribute identifier ++ "\">".toList ++ content ++
    "</style>".toList

/-- A block is read as one element with its identifier and its text, whatever comes after it. -/
theorem scanFor_blockText {content : Text} (h : '<' ∉ content) (identifier rest : Text)
    (rounds : Nat) :
    scanFor (rounds + 2) (blockText identifier content ++ rest) =
      (.startTag styleTag [(['i', 'd'], some identifier)] false ::
          if content.isEmpty then [] else [.text content]) ++
        .endTag styleTag :: scanFor rounds rest := by
  have hjoin {start middle stop : Text}
      (hstart : start = '<' :: (styleTag ++ [' ', 'i', 'd', '=', '"']))
      (hmiddle : middle = ['"', '>']) (hstop : stop = '<' :: '/' :: (styleTag ++ ['>'])) :
      start ++ escapeAttribute identifier ++ middle ++ content ++ stop ++ rest =
        '<' :: (styleTag ++ ' ' :: 'i' :: 'd' :: '=' :: '"' :: (escapeAttribute identifier ++
          '"' :: '>' :: (content ++ '<' :: '/' :: (styleTag ++ '>' :: rest)))) := by
    subst hstart hmiddle hstop
    simp only [List.append_assoc, List.cons_append, List.nil_append]
  have hround (rounds : Nat) (text : Text) : scanFor (rounds + 1) ('<' :: text) =
      (readAfterLess text).1 ++ scanFor rounds (readAfterLess text).2 := rfl
  have hstart : "<style id=\"".toList = '<' :: (styleTag ++ [' ', 'i', 'd', '=', '"']) := by decide
  have hmiddle : "\">".toList = ['"', '>'] := by decide
  have hstop : "</style>".toList = '<' :: '/' :: (styleTag ++ ['>']) := by decide
  have hblock : blockText identifier content ++ rest = _ := hjoin hstart hmiddle hstop
  rw [hblock, hround, readAfterLess_styleTag h, hround, readAfterLess_endTag]
  simp only [List.cons_append, List.nil_append]

end AtomicCss.Markup
