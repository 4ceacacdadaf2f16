import AtomicCss.Proofs.Markup.ReadTags
import AtomicCss.Proofs.Text.Occurrences

/-! # Scanning plain trees

What is written of a plain tree is scanned as the tokens of its tags, texts and comments. Each piece
of it is read in a round of the scan, whatever comes after it. Nothing in it is changed before it is
scanned, and no element that names the content type is found in it. -/

namespace AtomicCss.Markup

/-! ## Pieces -/

/-- A text in front of `rest` is scanned as these tokens as it stands. -/
structure ScansTo (text : Text) (tokens : List Token) (rest : Text) : Prop where
  chars : text.all isPlainChar
  /-- No element that names the content type starts in the text. -/
  kept : contentTypeMeta <:+: text ++ rest → contentTypeMeta <:+: rest
  /-- Each round of the scan takes at least one character. -/
  scan : ∃ rounds ≤ text.length, ∀ more,
    scanFor (more + rounds) (text ++ rest) = tokens ++ scanFor more rest

theorem scansTo_nil (rest : Text) : ScansTo [] [] rest where
  chars := rfl
  kept := id
  scan := ⟨0, Nat.le_refl 0, fun _ => rfl⟩

theorem ScansTo.append {first second rest : Text} {tokens tokens' : List Token}
    (h : ScansTo first tokens (second ++ rest)) (h' : ScansTo second tokens' rest) :
    ScansTo (first ++ second) (tokens ++ tokens') rest where
  chars := by rw [List.all_append, h.chars, h'.chars, Bool.and_self]
  kept hoccurs := by
    rw [List.append_assoc] at hoccurs
    exact h'.kept (h.kept hoccurs)
  scan := by
    obtain ⟨rounds, hrounds, hscan⟩ := h.scan
    obtain ⟨rounds', hrounds', hscan'⟩ := h'.scan
    refine ⟨rounds' + rounds, ?_, fun more => ?_⟩
    · rw [List.length_append, Nat.add_comm]
      exact Nat.add_le_add hrounds hrounds'
    · rw [List.append_assoc, ← Nat.add_assoc, hscan, hscan', List.append_assoc]

theorem all_isPlainChar_of_inner {text : Text} (h : text.all isInnerChar) :
    text.all isPlainChar :=
  List.all_eq_true.2 fun c hc => (isInnerChar_iff.1 (List.all_eq_true.1 h c hc)).1

theorem less_notMem_of_inner {text : Text} (h : text.all isInnerChar) : '<' ∉ text := fun hmem =>
  (isInnerChar_iff.1 (List.all_eq_true.1 h '<' hmem)).2 rfl

/-- An element that names the content type starts with a less-than sign. -/
theorem contentTypeMeta_eq : contentTypeMeta = '<' ::
    (metaTag ++ ' ' :: "http-equiv=\"Content-Type\"".toList) := by
  decide

theorem contentTypeMeta_infix_of_append {front : Text} (h : '<' ∉ front) {rest : Text}
    (hoccurs : contentTypeMeta <:+: front ++ rest) : contentTypeMeta <:+: rest := by
  induction front with
  | nil => exact hoccurs
  | cons c front ih =>
      obtain ⟨hc, hfront⟩ := not_or.1 (mt List.mem_cons.2 h)
      rcases List.infix_cons_iff.1 hoccurs with hprefix | hoccurs
      · rw [contentTypeMeta_eq] at hprefix
        exact absurd (List.cons_prefix_cons.1 hprefix).1 hc
      · exact ih hfront hoccurs

/-- Markup that is read in one round. -/
theorem scansTo_of_readAfterLess {body rest : Text} {tokens : List Token}
    (hread : readAfterLess (body ++ rest) = (tokens, rest)) (hchars : body.all isInnerChar)
    (hkept : ¬contentTypeMeta <+: '<' :: (body ++ rest)) : ScansTo ('<' :: body) tokens rest where
  chars := by
    rw [List.all_cons, all_isPlainChar_of_inner hchars]
    rfl
  kept hoccurs := by
    rw [List.cons_append, List.infix_cons_iff, or_iff_right hkept] at hoccurs
    exact contentTypeMeta_infix_of_append (less_notMem_of_inner hchars) hoccurs
  scan := by
    refine ⟨1, by simp, fun more => ?_⟩
    rw [List.cons_append, scanFor, if_pos rfl, hread]

/-! ## Texts -/

/-- What follows a text: the end, or markup. -/
def StartsMarkup (rest : Text) : Prop := ∀ c ∈ rest.head?, c = '<'

theorem startsMarkup_less (rest : Text) : StartsMarkup ('<' :: rest) := by
  rintro c ⟨⟩
  rfl

theorem scansTo_text {content rest : Text} (hne : content ≠ [])
    (hchars : content.all isPlainChar) (hrest : StartsMarkup rest) :
    ScansTo (escapeText content) [.text content] rest where
  chars := all_isPlainChar_of_inner (all_isInnerChar_escapeText hchars)
  kept := contentTypeMeta_infix_of_append (less_notMem_of_inner (all_isInnerChar_escapeText hchars))
  scan := by
    refine ⟨1, ?_, fun more => ?_⟩
    · exact List.length_pos_iff.2 (escapeText_ne_nil hne)
    · have hdecode := decodeReferences_escapeText false content
      have hless := less_notMem_of_inner (all_isInnerChar_escapeText hchars)
      obtain ⟨c, escaped, hescape⟩ := List.exists_cons_of_ne_nil (escapeText_ne_nil hne)
      have hspan : (escapeText content ++ rest).span (· ≠ '<') = (escapeText content, rest) := by
        have hall : ∀ d ∈ escapeText content, (decide (d ≠ '<')) = true := by
          intro d hd
          rw [decide_eq_true_eq]
          rintro rfl
          exact hless hd
        cases rest with
        | nil =>
            rw [List.append_nil, List.span_eq_takeWhile_dropWhile, List.takeWhile_eq_self_iff.2 hall,
              List.dropWhile_eq_nil_iff.2 hall]
        | cons d rest =>
            obtain rfl := hrest d rfl
            exact span_append_cons (List.all_eq_true.2 hall) (by decide) rest
      rw [hescape] at hspan hless hdecode ⊢
      have hc : ¬c = '<' := by
        rintro rfl
        exact hless List.mem_cons_self
      rw [List.cons_append] at hspan ⊢
      rw [scanFor, if_neg hc, hspan]
      dsimp only
      rw [hdecode]
      rfl

/-! ## Comments -/

/-- No end of a comment starts before the one that is written. -/
theorem not_prefix_of_mem_commentEnds {stop content : Text} (hstop : stop ∈ commentEnds) {c : Char}
    (h : ¬stop <:+: c :: content) (rest : Text) :
    ¬stop <+: c :: (content ++ '-' :: '-' :: '>' :: rest) := by
  intro hprefix
  have hfull : c :: content <+: c :: (content ++ '-' :: '-' :: '>' :: rest) :=
    ⟨'-' :: '-' :: '>' :: rest, rfl⟩
  rcases List.prefix_or_prefix_of_prefix hprefix hfull with hinside | -
  · exact h hinside.isInfix
  · -- what is inside is a part of the end, which does not go on with two dashes and `>` then
    obtain rfl | rfl : stop = ['-', '-', '>'] ∨ stop = ['-', '-', '!', '>'] := by
      simpa [commentEnds] using hstop
    · rcases content with _ | ⟨d, _ | ⟨e, content⟩⟩
      · simp at hprefix
      · simp at hprefix
      · simp only [List.cons_append, List.cons_prefix_cons, List.nil_prefix, and_true] at hprefix
        obtain ⟨rfl, rfl, rfl⟩ := hprefix
        exact h ⟨[], content, rfl⟩
    · rcases content with _ | ⟨d, _ | ⟨e, _ | ⟨f, content⟩⟩⟩
      · simp at hprefix
      · simp at hprefix
      · simp at hprefix
      · simp only [List.cons_append, List.cons_prefix_cons, List.nil_prefix, and_true] at hprefix
        obtain ⟨rfl, rfl, rfl, rfl⟩ := hprefix
        exact h ⟨[], content, rfl⟩

/-- A comment is read up to its end if it has none inside. -/
theorem readCommentContent_append {content : Text} (h : ∀ stop ∈ commentEnds, ¬stop <:+: content)
    (rest : Text) :
    readCommentContent (content ++ '-' :: '-' :: '>' :: rest) = (content, rest) := by
  have hbroken (front : Text) :
      brokenCommentEnds.contains (front ++ '-' :: '-' :: '>' :: rest) = false := by
    rw [Bool.eq_false_iff]
    intro hmem
    have hlast : ∀ stop ∈ brokenCommentEnds, '>' ∉ stop := by decide
    exact hlast _ (List.contains_iff_mem.1 hmem) (by simp)
  induction content with
  | nil =>
      rw [List.nil_append, readCommentContent, ← List.nil_append ('-' :: _), hbroken]
      rfl
  | cons c content ih =>
      have hstop {stop : Text} (hmem : stop ∈ commentEnds) :
          stop.isPrefixOf (c :: (content ++ '-' :: '-' :: '>' :: rest)) = false := by
        rw [Bool.eq_false_iff, Ne, List.isPrefixOf_iff_prefix]
        exact not_prefix_of_mem_commentEnds hmem (h stop hmem) rest
      have hcontent : ∀ stop ∈ commentEnds, ¬stop <:+: content := fun stop hmem hoccurs =>
        h stop hmem (hoccurs.trans (List.suffix_cons c content).isInfix)
      rw [List.cons_append, readCommentContent, ← List.cons_append, hbroken, List.cons_append,
        hstop (by decide), hstop (by decide), ih hcontent]
      rfl

theorem readComment_append {content : Text} (h : IsPlainComment content) (rest : Text) :
    readComment (content ++ '-' :: '-' :: '>' :: rest) = (content, rest) := by
  rw [readComment.eq_def]
  split
  · rename_i tail heq
    cases content with
    | nil => cases heq
    | cons c content =>
        obtain ⟨rfl, -⟩ := List.cons.inj heq
        exact absurd ⟨content, rfl⟩ (h.starts ['>'] (by decide))
  · rename_i tail heq
    rcases content with _ | ⟨c, _ | ⟨d, content⟩⟩
    · simp at heq
    · simp at heq
    · obtain ⟨rfl, htail⟩ := List.cons.inj heq
      obtain ⟨rfl, -⟩ := List.cons.inj htail
      exact absurd ⟨content, rfl⟩ (h.starts ['-', '>'] (by decide))
  · exact readCommentContent_append h.ends rest

/-- What is written of a comment. -/
def printComment (content : Text) : Text := '<' :: '!' :: '-' :: '-' :: (content ++ ['-', '-', '>'])

/-- An element that names the content type ends with a quote. -/
theorem contentTypeMeta_infix_concat {front : Text} {c : Char} (hc : c ≠ '"') :
    contentTypeMeta <:+: front ++ [c] → contentTypeMeta <:+: front := by
  intro h
  rcases List.infix_concat_iff.1 h with hsuffix | hoccurs
  · have hlast : contentTypeMeta.getLast? = some '"' := by decide
    obtain ⟨before, hbefore⟩ := hsuffix
    have hequal := congrArg List.getLast? hbefore
    rw [List.getLast?_append, hlast, List.getLast?_concat] at hequal
    exact absurd (Option.some.inj hequal).symm hc
  · exact hoccurs

theorem scansTo_comment {content : Text} (h : IsPlainComment content) (rest : Text) :
    ScansTo (printComment content) [.comment content] rest where
  chars := by
    rw [printComment]
    simp only [List.all_cons, List.all_append, h.chars]
    decide
  kept hoccurs := by
    have hgreater : '>' ∉ contentTypeMeta := by decide
    have htext : printComment content ++ rest =
        '<' :: '!' :: '-' :: '-' :: (content ++ ['-'] ++ ['-']) ++ '>' :: rest := by
      simp [printComment]
    rw [htext, Text.infix_append_cons_iff hgreater] at hoccurs
    rcases hoccurs with hinside | hrest
    · rw [List.infix_cons_iff] at hinside
      rcases hinside with hprefix | hinside
      · rw [contentTypeMeta_eq, List.cons_prefix_cons] at hprefix
        have hsecond := List.cons_prefix_cons.1 (show 'm' :: _ <+: '!' :: _ from hprefix.2)
        exact absurd hsecond.1 (by decide)
      · have hinside : contentTypeMeta <:+: content ++ ['-'] ++ ['-'] :=
          @contentTypeMeta_infix_of_append ['!', '-', '-'] (by decide) _ hinside
        have hcontent := contentTypeMeta_infix_concat (by decide)
          (contentTypeMeta_infix_concat (by decide) hinside)
        exact absurd hcontent h.kept
    · exact hrest
  scan := by
    refine ⟨1, by simp [printComment], fun more => ?_⟩
    have htext : printComment content ++ rest =
        '<' :: '!' :: '-' :: '-' :: (content ++ '-' :: '-' :: '>' :: rest) := by
      simp [printComment]
    rw [htext, scanFor, if_pos rfl]
    simp only [readAfterLess, readDeclaration, readComment_append h]

/-! ## Tags -/

theorem fitBytes_sublist (room : Nat) (text : Text) : (fitBytes room text).Sublist text := by
  induction text generalizing room with
  | nil => exact List.Sublist.refl _
  | cons c rest ih =>
      rw [fitBytes]
      split_ifs
      · exact (ih _).cons_cons c
      · exact (ih _).cons c

/-- A name that is kept is in lowercase. -/
theorem IsPlainName.lowercase {name : Text} (h : IsPlainName name) :
    Text.lowercase name = name := by
  have hsublist : (foldName name).Sublist (Text.lowercase name) := fitBytes_sublist _ _
  rw [h.fold] at hsublist
  exact (hsublist.eq_of_length (by rw [Text.lowercase, List.length_map])).symm

theorem IsPlainName.all_isInnerChar {name : Text} (h : IsPlainName name) :
    name.all isInnerChar :=
  List.all_eq_true.2 fun c hc => (isPlainNameChar_iff.1 (List.all_eq_true.1 h.chars c hc)).1

section

variable {tag : Text} {attributes : Attributes}

theorem all_isInnerChar_printValue {name : Text} {value : Option Text}
    (h : IsPlainAttribute tag (name, value)) : (printValue value).all isInnerChar := by
  cases value with
  | none => rfl
  | some value =>
      obtain ⟨quote, body, hquoted, hquote, -, hbody, -⟩ := exists_quoteValue_eq value
      have hinner := hbody (h.value value rfl).chars
      rw [printValue, hquoted]
      rcases hquote with rfl | rfl
      all_goals
        simp only [List.all_cons, List.all_append, hinner]
        decide

theorem all_isInnerChar_printAttributes
    (h : ∀ entry ∈ attributes, IsPlainAttribute tag entry) :
    (printAttributes tag attributes).all isInnerChar := by
  induction attributes with
  | nil => rfl
  | cons entry attributes ih =>
      obtain ⟨name, value⟩ := entry
      obtain ⟨hentry, hattributes⟩ := List.forall_mem_cons.1 h
      have hname : name.all isInnerChar := hentry.name.all_isInnerChar
      rw [printAttributes_cons hentry, List.all_cons, List.all_append, List.all_append, hname,
        all_isInnerChar_printValue hentry, ih hattributes]
      decide

/-- What is read of attributes is put after those read before. -/
theorem subset_of_readAttributesFor {rounds : Nat} {before : Attributes} {text after : Text}
    {ending : TagEnding} (h : readAttributesFor rounds before text = some (ending, after)) :
    before ⊆ ending.attributes := by
  induction rounds generalizing before text with
  | zero => cases h
  | succ rounds ih =>
      rw [readAttributesFor] at h
      split at h
      · cases h
      · cases h
        exact List.Subset.refl _
      · cases h
        exact List.Subset.refl _
      · refine List.Subset.trans ?_ (ih h)
        split_ifs with hhas
        · exact List.Subset.refl _
        · rw [OrderedMap.has, Bool.not_eq_true, Option.isSome_eq_false_iff,
            Option.isNone_iff_eq_none, OrderedMap.get?_eq_none_iff] at hhas
          rw [OrderedMap.set, OrderedMap.alter_of_notMem hhas]
          exact List.subset_append_left _ _

/-- A plain tag is not that of an element that names the content type. -/
theorem IsPlainTag.not_prefix (h : IsPlainTag (tag, attributes)) (rest : Text) :
    ¬contentTypeMeta <+: '<' :: (tag ++ (printAttributes tag attributes ++ '>' :: rest)) := by
  rintro ⟨tail, htail⟩
  rw [contentTypeMeta_eq, List.cons_append, List.cons.injEq, List.append_assoc,
    List.cons_append] at htail
  obtain ⟨c, after, hafter, hc, -⟩ := exists_printAttributes_append h.attributes rest
  have hmeta : IsPlainName metaTag := by decide
  -- read as tags, both texts have the same name and the same attributes
  have hname := congrArg readName htail.2
  rw [readName_of_isPlainName hmeta (by decide), hafter, readName_of_isPlainName h.tag hc,
    ← hafter] at hname
  obtain ⟨htag, hattributes⟩ := Prod.mk.inj hname
  have hread := readAttributes_printAttributes h rest
  have hfirst : readAttribute 'h' ("ttp-equiv=\"Content-Type\"".toList ++ tail) =
      (contentType.1, contentType.2, tail) :=
    readAttribute_value (by decide : IsPlainName contentType.1) "Content-Type".toList tail
  rw [← hattributes, readAttributes,
    readAttributesFor_of_name rfl (by decide) hfirst List.not_mem_nil] at hread
  exact h.kept htag.symm (subset_of_readAttributesFor hread List.mem_cons_self)

theorem IsPlainTag.exists_cons (h : IsPlainTag (tag, attributes)) :
    ∃ first more, tag = first :: more ∧ first.isAlpha := by
  have halpha := h.alpha
  cases tag with
  | nil => cases halpha
  | cons first more => exact ⟨first, more, rfl, halpha⟩

/-- A start tag, with the text that is read as the content of its element. -/
theorem scansTo_startTag (h : IsPlainTag (tag, attributes)) {content rest : Text}
    (hcontent : content.all isInnerChar) (hsplit : splitContent tag (content ++ rest) =
      (content, rest)) :
    ScansTo ('<' :: (tag ++ (printAttributes tag attributes ++ '>' :: content)))
      (.startTag tag attributes false :: contentTokens tag content) rest := by
  have htext : tag ++ (printAttributes tag attributes ++ '>' :: content) ++ rest =
      tag ++ (printAttributes tag attributes ++ '>' :: (content ++ rest)) := by
    simp only [List.append_assoc, List.cons_append]
  have hread := readAttributes_printAttributes h (content ++ rest)
  obtain ⟨c, after, hafter, hc, -⟩ := exists_printAttributes_append h.attributes (content ++ rest)
  have hname : readName (tag ++ c :: after) = (tag, c :: after) :=
    readName_of_isPlainName h.tag hc _
  apply scansTo_of_readAfterLess
  · obtain ⟨first, more, rfl, halpha⟩ := h.exists_cons
    rw [hafter] at hread
    rw [List.cons_append] at hname
    rw [htext, hafter, List.cons_append, readAfterLess_of_isAlpha halpha hname hread, hsplit]
  · have htag : tag.all isInnerChar := h.tag.all_isInnerChar
    rw [List.all_append, List.all_append, List.all_cons, htag,
      all_isInnerChar_printAttributes h.attributes, hcontent]
    decide
  · rw [htext]
    exact h.not_prefix _

/-- An end tag. -/
theorem scansTo_endTag (h : IsPlainTag (tag, attributes)) (rest : Text) :
    ScansTo ('<' :: '/' :: (tag ++ ['>'])) [.endTag tag] rest := by
  have htext : '/' :: (tag ++ ['>']) ++ rest = '/' :: (tag ++ '>' :: rest) := by simp
  have hname : readName (tag ++ '>' :: rest) = (tag, '>' :: rest) :=
    readName_of_isPlainName h.tag (by decide) rest
  apply scansTo_of_readAfterLess
  · obtain ⟨first, more, rfl, halpha⟩ := h.exists_cons
    rw [htext]
    exact readAfterLess_slash_of_isAlpha halpha hname (readAttributesFor_greater _ [] rest)
  · have htag : tag.all isInnerChar := h.tag.all_isInnerChar
    rw [List.all_cons, List.all_append, htag]
    decide
  · rw [htext, contentTypeMeta_eq, List.cons_prefix_cons]
    intro hprefix
    have hsecond := List.cons_prefix_cons.1 (show 'm' :: _ <+: '/' :: _ from hprefix.2)
    exact absurd hsecond.1 (by decide)

end

/-! ## Content -/

theorem splitAtScriptEnd_of_notMem {content : Text} (h : '<' ∉ content) (rest : Text) :
    splitAtScriptEnd .code (content ++ '<' :: '/' :: (scriptTag ++ '>' :: rest)) =
      (content, '<' :: '/' :: (scriptTag ++ '>' :: rest)) := by
  induction content with
  | nil =>
      rw [List.nil_append, splitAtScriptEnd.eq_def]
      rfl
  | cons c content ih =>
      obtain ⟨hc, hcontent⟩ := not_or.1 (mt List.mem_cons.2 h)
      have hcomment : ['<', '!', '-', '-'].isPrefixOf
          (c :: (content ++ '<' :: '/' :: (scriptTag ++ '>' :: rest))) = false := by
        rw [Bool.eq_false_iff, Ne, List.isPrefixOf_iff_prefix, List.cons_prefix_cons]
        exact fun hprefix => hc hprefix.1
      rw [List.cons_append, splitAtScriptEnd.eq_def]
      simp only [startsWithTag_of_ne (Ne.symm hc), hcomment, Bool.false_and, Bool.false_eq_true,
        if_false, ih hcontent]

/-- Content without a less-than sign goes on to the end tag. -/
theorem splitContent_of_notMem {tag content : Text} (htag : Text.lowercase tag = tag)
    (hkind : ContentKind.ofTag tag ≠ .markup ∧ ContentKind.ofTag tag ≠ .plainText)
    (h : '<' ∉ content) (rest : Text) :
    splitContent tag (content ++ '<' :: '/' :: (tag ++ '>' :: rest)) =
      (content, '<' :: '/' :: (tag ++ '>' :: rest)) := by
  rw [splitContent]
  cases hofTag : ContentKind.ofTag tag with
  | markup => exact absurd hofTag hkind.1
  | plainText => exact absurd hofTag hkind.2
  | escapedText => exact splitAtEndTag_of_notMem htag h rest
  | rawText => exact splitAtEndTag_of_notMem htag h rest
  | script =>
      have hscript : tag = scriptTag := by
        rw [ContentKind.ofTag] at hofTag
        split_ifs at hofTag with htag
        exact htag
      subst hscript
      exact splitAtScriptEnd_of_notMem h rest

mutual

/-- The tokens of a node. -/
def Node.tokens : Node → List Token
  | .element tag attributes children =>
      .startTag tag attributes false ::
        (tokensOf children ++ if lacksEnd tag children then [] else [.endTag tag])
  | .text content => [.text content]
  | .comment content => [.comment content]
  | .instruction _ _ => []

/-- The tokens of nodes. -/
def tokensOf : List Node → List Token
  | [] => []
  | node :: rest => node.tokens ++ tokensOf rest

end

variable {parent tag : Text} {room : Nat} {rest : Text} {attributes : Attributes}
  {children : List Node}

theorem isPlainIn_text {content : Text} (h : (Node.text content).isPlainIn parent room) :
    content ≠ [] ∧ content.all isPlainChar ∧ (parent = headTag → content.all isSpace) := by
  simpa [Node.isPlainIn, and_assoc, Decidable.imp_iff_not_or] using h

theorem escapeText_of_notMem {text : Text} (h : ∀ c ∈ text, c ∉ ['&', '<', '>']) :
    escapeText text = text := by
  have hsingle : text.flatMap escapeChar = text.flatMap fun c => [c] := by
    apply List.flatMap_congr
    intro c hc
    have hplain := h c hc
    simp only [List.mem_cons, List.not_mem_nil, or_false, not_or] at hplain
    rw [escapeChar, if_neg hplain.1, if_neg hplain.2.1, if_neg hplain.2.2]
  rw [escapeText, hsingle, List.flatMap_singleton']

theorem hasRawContent_of_markup (h : ContentKind.ofTag tag = .markup ∨
    ContentKind.ofTag tag = .escapedText) : hasRawContent tag = false := by
  rw [hasRawContent, Bool.or_eq_false_iff, decide_eq_false_iff_not, decide_eq_false_iff_not]
  constructor
  · rintro rfl
    exact absurd h (by decide)
  · rintro rfl
    exact absurd h (by decide)

/-- Content that is read as text has no markup, and is read as its one text. -/
theorem contentTokens_printNodes (h : isPlainContent tag children)
    (hmarkup : ContentKind.ofTag tag ≠ .markup) (hplain : arePlainIn tag room children) :
    ContentKind.ofTag tag ≠ .plainText ∧
      (printNodes (hasRawContent tag) children).all isInnerChar ∧
      contentTokens tag (printNodes (hasRawContent tag) children) = tokensOf children := by
  have hone {content : Text} (hcontent : arePlainIn tag room [.text content]) :
      content ≠ [] ∧ content.all isPlainChar := by
    rw [arePlainIn, Bool.and_eq_true] at hcontent
    obtain ⟨hne, hchars, -⟩ := isPlainIn_text hcontent.1
    exact ⟨hne, hchars⟩
  rw [isPlainContent.eq_def] at h
  split at h
  · exact absurd ‹_› hmarkup
  · cases h
  · rename_i hplainText
    exact ⟨fun heq => hplainText heq, rfl, rfl⟩
  · rename_i content hkind
    obtain ⟨hne, hchars⟩ := hone hplain
    have hprint : printNodes (hasRawContent tag) [.text content] = escapeText content := by
      rw [hasRawContent_of_markup (Or.inr hkind)]
      simp [printNodes, printNode]
    rw [hprint, contentTokens, hkind, decodeReferences_escapeText]
    refine ⟨by decide, all_isInnerChar_escapeText hchars, ?_⟩
    simp [escapeText_ne_nil hne, tokensOf, Node.tokens]
  · rename_i content _ hplainText hescaped
    obtain ⟨hne, hchars⟩ := hone hplain
    obtain ⟨hless, hraw⟩ : '<' ∉ content ∧
        (hasRawContent tag ∨ ∀ c ∈ content, c ≠ '&' ∧ c ≠ '>') := by
      simpa using h
    have hprint : printNodes (hasRawContent tag) [.text content] = content := by
      rw [printNodes, printNodes, printNode, List.append_nil]
      split_ifs with hhas
      · rfl
      · apply escapeText_of_notMem
        intro c hc
        have hplain := hraw.resolve_left hhas c hc
        have hless' : c ≠ '<' := by
          rintro rfl
          exact hless hc
        simp [hplain.1, hplain.2, hless']
    rw [hprint, contentTokens, if_neg hescaped]
    refine ⟨hplainText, ?_, ?_⟩
    · rw [List.all_eq_true] at hchars ⊢
      intro c hc
      exact isInnerChar_iff.2 ⟨hchars c hc, by rintro rfl; exact hless hc⟩
    · simp [hne, tokensOf, Node.tokens]
  · cases h

/-! ## Trees -/

theorem splitContent_of_markup (h : ContentKind.ofTag tag = .markup) (text : Text) :
    splitContent tag text = ([], text) := by
  rw [splitContent, h]

theorem ofTag_of_isVoid (h : isVoid tag) : ContentKind.ofTag tag = .markup := by
  have hall : ∀ void ∈ voidTags, ContentKind.ofTag void.toList = .markup := by decide
  obtain ⟨void, hmem, heq⟩ := List.any_eq_true.1 h
  rw [← of_decide_eq_true heq]
  exact hall void hmem

/-- An element is scanned as its tags around what its content is scanned as. -/
theorem scansTo_element (htag : IsPlainTag (tag, attributes))
    (hend : lacksEnd tag children → isVoid tag ∧ children = [])
    (hcontent : isPlainContent tag children)
    (htext : ContentKind.ofTag tag ≠ .markup → arePlainIn tag room children)
    (hchildren : ContentKind.ofTag tag = .markup →
      ScansTo (printNodes false children) (tokensOf children)
        ('<' :: '/' :: (tag ++ '>' :: rest))) (raw : Bool) :
    ScansTo (printNode raw (.element tag attributes children))
      (Node.element tag attributes children).tokens rest := by
  have hprint : printNode raw (.element tag attributes children) =
      if lacksEnd tag children then '<' :: (tag ++ (printAttributes tag attributes ++ ['>']))
      else '<' :: (tag ++ (printAttributes tag attributes ++ ['>'])) ++
        (printNodes (hasRawContent tag) children ++ '<' :: '/' :: (tag ++ ['>'])) := by
    rw [printNode, ← printAttributes]
    simp only [List.append_assoc, List.cons_append, List.nil_append]
  have hstart {text : Text} (hmarkup : ContentKind.ofTag tag = .markup) :
      ScansTo ('<' :: (tag ++ (printAttributes tag attributes ++ ['>'])))
        [.startTag tag attributes false] text :=
    scansTo_startTag htag rfl (splitContent_of_markup hmarkup _)
  rw [hprint, Node.tokens]
  split_ifs with hlacks
  · obtain ⟨hvoid, rfl⟩ := hend hlacks
    exact hstart (ofTag_of_isVoid hvoid)
  · have hrest : '<' :: '/' :: (tag ++ ['>']) ++ rest = '<' :: '/' :: (tag ++ '>' :: rest) := by
      simp
    by_cases hmarkup : ContentKind.ofTag tag = .markup
    · rw [hasRawContent_of_markup (Or.inl hmarkup)]
      have hinner := (hchildren hmarkup)
      rw [← hrest] at hinner
      exact (hstart hmarkup).append (hinner.append (scansTo_endTag htag rest))
    · obtain ⟨hplainText, hinner, htokens⟩ :=
        contentTokens_printNodes hcontent hmarkup (htext hmarkup)
      have hsplit := splitContent_of_notMem htag.tag.lowercase ⟨hmarkup, hplainText⟩
        (less_notMem_of_inner hinner) rest
      rw [← hrest] at hsplit
      have hopen := scansTo_startTag htag hinner hsplit
      have hjoin : '<' :: (tag ++ (printAttributes tag attributes ++ ['>'])) ++
          (printNodes (hasRawContent tag) children ++ '<' :: '/' :: (tag ++ ['>'])) =
            '<' :: (tag ++ (printAttributes tag attributes ++
              '>' :: printNodes (hasRawContent tag) children)) ++ '<' :: '/' :: (tag ++ ['>']) := by
        simp
      rw [hjoin, ← htokens]
      exact hopen.append (scansTo_endTag htag rest)

theorem IsPlacedIn.isVoid_of_lacksEnd (h : IsPlacedIn parent tag children)
    (hlacks : lacksEnd tag children) : isVoid tag ∧ children = [] := by
  rw [lacksEnd, Bool.or_eq_true, Bool.and_eq_true, decide_eq_true_iff, List.isEmpty_iff] at hlacks
  rcases hlacks with hvoid | ⟨hitem, hempty⟩
  · exact ⟨hvoid, h.empty hvoid⟩
  · exact absurd hempty (h.ended hitem)

/-- What is written of a node that is no text starts with markup. -/
theorem startsMarkup_printNode {node : Node} (h : node.isText = false) (raw : Bool) (rest : Text) :
    StartsMarkup (printNode raw node ++ rest) := by
  cases node with
  | text content => cases h
  | comment content => exact startsMarkup_less _
  | instruction target content => exact startsMarkup_less _
  | element tag attributes children =>
      rw [printNode]
      dsimp only
      split_ifs
      · exact startsMarkup_less _
      · exact startsMarkup_less _

/-- Nodes are scanned one after the other, where no two texts stand next to each other. -/
theorem ScansTo.cons {node : Node} {others : List Node} (hapart : textsApart (node :: others))
    (hnode : (node.isText → StartsMarkup (printNodes false others ++ rest)) →
      ScansTo (printNode false node) node.tokens (printNodes false others ++ rest))
    (hothers : ScansTo (printNodes false others) (tokensOf others) rest)
    (hrest : StartsMarkup rest) :
    ScansTo (printNodes false (node :: others)) (tokensOf (node :: others)) rest := by
  rw [textsApart, Bool.and_eq_true] at hapart
  refine (hnode fun htext => ?_).append hothers
  -- after a text comes the end or a node that is none
  cases others with
  | nil => exact hrest
  | cons next others =>
      have hnext : next.isText = false := by simpa [htext] using hapart.1
      rw [printNodes, List.append_assoc]
      exact startsMarkup_printNode hnext false _

mutual

/-- A plain node is scanned as its tokens. -/
theorem scansTo_printNode {parent : Text} {room : Nat} {node : Node} {rest : Text}
    (h : node.isPlainIn parent room) (htags : ∀ element ∈ node.elements, IsPlainTag element)
    (hrest : node.isText → StartsMarkup rest) :
    ScansTo (printNode false node) node.tokens rest := by
  cases node with
  | text content =>
      obtain ⟨hne, hchars, -⟩ := isPlainIn_text h
      exact scansTo_text hne hchars (hrest rfl)
  | comment content =>
      rw [Node.isPlainIn, decide_eq_true_iff] at h
      exact scansTo_comment h rest
  | instruction target content =>
      rw [Node.isPlainIn] at h
      cases h
  | element tag attributes children =>
      cases room with
      | zero =>
          rw [Node.isPlainIn] at h
          cases h
      | succ room =>
          rw [Node.isPlainIn, Bool.and_eq_true, decide_eq_true_iff] at h
          rw [Node.elements, List.forall_mem_cons] at htags
          exact scansTo_element htags.1 h.1.isVoid_of_lacksEnd h.1.content (fun _ => h.2)
            (fun _ => scansTo_printNodes h.2 h.1.apart htags.2 (startsMarkup_less _)) false

theorem scansTo_printNodes {parent : Text} {room : Nat} {nodes : List Node} {rest : Text}
    (h : arePlainIn parent room nodes) (hapart : textsApart nodes)
    (htags : ∀ element ∈ Node.elementsOf nodes, IsPlainTag element)
    (hrest : StartsMarkup rest) : ScansTo (printNodes false nodes) (tokensOf nodes) rest := by
  cases nodes with
  | nil => exact scansTo_nil rest
  | cons node others =>
      have hothersApart := hapart
      rw [textsApart, Bool.and_eq_true] at hothersApart
      rw [arePlainIn, Bool.and_eq_true] at h
      rw [Node.elementsOf, List.forall_mem_append] at htags
      exact .cons hapart (scansTo_printNode h.1 htags.1)
        (scansTo_printNodes h.2 hothersApart.2 htags.2 hrest) hrest

end

/-! ## The root -/

/-- A node below the root is scanned as its tokens. -/
theorem scansTo_printFrame {node : Node} (h : node.isPlainFrame)
    (htags : ∀ element ∈ node.elements, IsPlainTag element)
    (hrest : node.isText → StartsMarkup rest) :
    ScansTo (printNode false node) node.tokens rest := by
  cases node with
  | text content => exact @scansTo_printNode headTag 0 _ rest h htags hrest
  | comment content => exact @scansTo_printNode headTag 0 _ rest h htags hrest
  | instruction target content => exact @scansTo_printNode headTag 0 _ rest h htags hrest
  | element tag attributes children =>
      rw [Node.isPlainFrame, Bool.and_eq_true, Bool.and_eq_true, Bool.or_eq_true,
        decide_eq_true_iff, decide_eq_true_iff] at h
      obtain ⟨⟨htag, hapart⟩, hplain⟩ := h
      rw [Node.elements, List.forall_mem_cons] at htags
      have hclosed : lacksEnd tag children = false ∧ isPlainContent tag children := by
        rcases htag with rfl | rfl
        · exact ⟨rfl, rfl⟩
        · exact ⟨rfl, rfl⟩
      refine scansTo_element htags.1 (by simp [hclosed.1]) hclosed.2 (fun _ => hplain)
        (fun _ => ?_) false
      exact scansTo_printNodes hplain hapart htags.2 (startsMarkup_less _)

theorem scansTo_printFrames {nodes : List Node} (h : nodes.all Node.isPlainFrame)
    (hapart : textsApart nodes) (htags : ∀ element ∈ Node.elementsOf nodes, IsPlainTag element)
    (hrest : StartsMarkup rest) : ScansTo (printNodes false nodes) (tokensOf nodes) rest := by
  induction nodes with
  | nil => exact scansTo_nil rest
  | cons node others ih =>
      have hothersApart := hapart
      rw [textsApart, Bool.and_eq_true] at hothersApart
      rw [List.all_cons, Bool.and_eq_true] at h
      rw [Node.elementsOf, List.forall_mem_append] at htags
      exact .cons hapart (scansTo_printFrame h.1 htags.1) (ih h.2 hothersApart.2 htags.2) hrest

/-- The root is scanned as its tokens. -/
theorem scansTo_printRoot (htags : ∀ element ∈ (Node.element htmlTag attributes children).elements,
      IsPlainTag element) (hframe : children.all Node.isPlainFrame) (hapart : textsApart children) :
    ScansTo (printNode false (.element htmlTag attributes children))
      (Node.element htmlTag attributes children).tokens rest := by
  rw [Node.elements, List.forall_mem_cons] at htags
  have hlacks : lacksEnd htmlTag children = false := rfl
  have hmarkup : ContentKind.ofTag htmlTag = .markup := by decide
  exact @scansTo_element htmlTag 0 rest attributes children htags.1 (by simp [hlacks]) rfl
    (fun hkind => absurd hmarkup hkind)
    (fun _ => scansTo_printFrames hframe hapart htags.2 (startsMarkup_less _)) false

/-- What is scanned as tokens up to the end of a page is the page of these tokens. -/
theorem ScansTo.scan_eq {text : Text} {tokens : List Token} (h : ScansTo text tokens [])
    (hnormal : normalizeInput text = text) : Token.scan text = tokens := by
  obtain ⟨rounds, hrounds, hscan⟩ := h.scan
  have hmore := hscan (text.length - rounds + 1)
  have hsum : text.length - rounds + 1 + rounds = text.length + 1 := by omega
  rw [List.append_nil, hsum] at hmore
  rw [Token.scan, hnormal, hmore, scanFor, List.append_nil]

end AtomicCss.Markup
