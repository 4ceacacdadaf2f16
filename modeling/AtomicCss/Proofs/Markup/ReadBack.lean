import AtomicCss.Proofs.Markup.Built
import AtomicCss.Proofs.Restyle.Detect

/-! # Reading back documents

A plain document is read as it is written, with its document type if it is written with one. -/

namespace AtomicCss.Markup

/-! ## The text as it is scanned -/

theorem normalizeInput_of_all {text : Text} (h : text.all isPlainChar) :
    normalizeInput text = text := by
  induction text with
  | nil => rfl
  | cons c rest ih =>
      rw [List.all_cons, Bool.and_eq_true] at h
      have hreturn : c ≠ '\r' := by
        rintro rfl
        exact absurd h.1 (by decide)
      have hnull : c ≠ '\x00' := by
        rintro rfl
        exact absurd h.1 (by decide)
      rw [normalizeInput_cons fun _ heq _ => hreturn heq, ih h.2, scannedChar, if_neg hreturn,
        if_neg hnull]

theorem dropContentTypeMeta_of_not_infix {text : Text} (h : ¬contentTypeMeta <:+: text) :
    dropContentTypeMeta text = text := by
  rw [dropContentTypeMeta]
  induction text with
  | nil => rfl
  | cons c rest ih =>
      rw [List.infix_cons_iff, not_or] at h
      have hwidth : contentTypeMetaWidth (c :: rest) = 0 := by
        rw [contentTypeMetaWidth, if_neg]
        rw [List.isPrefixOf_iff_prefix]
        exact h.1
      rw [dropContentTypeMetaAfter, hwidth, ih h.2]

/-! ## Document types -/

/-- An identifier between quotes is read back. -/
theorem readIdentifier?_quoted {quote : Char} (hquote : quote = '"' ∨ quote = '\'')
    {identifier : Text} (h : quote ∉ identifier) (rest : Text) :
    readIdentifier? (' ' :: quote :: (identifier ++ quote :: rest)) = some (identifier, rest) := by
  have hspan : (identifier ++ quote :: rest).span (· ≠ quote) = (identifier, quote :: rest) := by
    apply span_append_cons
    · rw [List.all_eq_true]
      intro c hc
      rw [decide_eq_true_eq]
      rintro rfl
      exact h hc
    · simp
  have hdrop : (' ' :: quote :: (identifier ++ quote :: rest)).dropWhile isSpace =
      quote :: (identifier ++ quote :: rest) := by
    rw [List.dropWhile_cons_of_pos (by decide)]
    apply List.dropWhile_cons_of_neg
    rcases hquote with rfl | rfl
    · decide
    · decide
  rw [readIdentifier?, hdrop]
  rcases hquote with rfl | rfl
  · simp only [hspan, List.drop_one, List.tail_cons]
  · simp only [hspan, List.drop_one, List.tail_cons]

theorem exists_quoteSystemId_eq {systemId : Text} (h : '"' ∉ systemId ∨ '\'' ∉ systemId) :
    ∃ quote, quoteSystemId systemId = quote :: (systemId ++ [quote]) ∧
      (quote = '"' ∨ quote = '\'') ∧ quote ∉ systemId := by
  rw [quoteSystemId]
  split_ifs with hdouble
  · exact ⟨'\'', rfl, Or.inr rfl, h.resolve_left fun hnone => hnone hdouble⟩
  · exact ⟨'"', rfl, Or.inl rfl, hdouble⟩

theorem nonempty_eq_self {identifier : Option Text} (h : ∀ text ∈ identifier, text ≠ []) :
    nonempty identifier = identifier := by
  cases identifier with
  | none => rfl
  | some text => simp [nonempty, h text rfl]

/-- What is written before the identifiers of a document type, without the brackets around it. -/
def doctypeStart : Text := ['D', 'O', 'C', 'T', 'Y', 'P', 'E', ' ', 'h', 't', 'm', 'l']

/-- The word before the public identifier. -/
def publicWord : Text := [' ', 'P', 'U', 'B', 'L', 'I', 'C']

/-- The word before a system identifier without a public one. -/
def systemWord : Text := [' ', 'S', 'Y', 'S', 'T', 'E', 'M']

theorem ofContent_public {text rest publicId : Text}
    (h : readIdentifier? text = some (publicId, rest)) :
    Doctype.ofContent ((doctypeStart ++ publicWord ++ text).drop 7) =
      ⟨some publicId, (readIdentifier? rest).map Prod.fst⟩ := by
  have hword : startsWithWord "public".toList ('P' :: 'U' :: 'B' :: 'L' :: 'I' :: 'C' :: text) :=
    rfl
  have hname : ((((doctypeStart ++ publicWord ++ text).drop 7).dropWhile isSpace).dropWhile
      fun c => !isSpace c).dropWhile isSpace =
        'P' :: 'U' :: 'B' :: 'L' :: 'I' :: 'C' :: text := rfl
  have hdrop : ('P' :: 'U' :: 'B' :: 'L' :: 'I' :: 'C' :: text).drop 6 = text := rfl
  rw [Doctype.ofContent, hname, if_pos hword, hdrop, h]

theorem ofContent_system {text : Text} :
    Doctype.ofContent ((doctypeStart ++ systemWord ++ text).drop 7) =
      ⟨none, (readIdentifier? text).map Prod.fst⟩ := by
  have hpublic : startsWithWord "public".toList
      ('S' :: 'Y' :: 'S' :: 'T' :: 'E' :: 'M' :: text) = false := rfl
  have hword : startsWithWord "system".toList ('S' :: 'Y' :: 'S' :: 'T' :: 'E' :: 'M' :: text) :=
    rfl
  have hname : ((((doctypeStart ++ systemWord ++ text).drop 7).dropWhile isSpace).dropWhile
      fun c => !isSpace c).dropWhile isSpace =
        'S' :: 'Y' :: 'S' :: 'T' :: 'E' :: 'M' :: text := rfl
  have hdrop : ('S' :: 'Y' :: 'S' :: 'T' :: 'E' :: 'M' :: text).drop 6 = text := rfl
  rw [Doctype.ofContent, hname, hpublic, if_neg (by decide), if_pos hword, hdrop]

/-- The identifiers of a document type, each after a space and between quotes. -/
def printIdentifiers (doctype : Doctype) : Text :=
  match doctype.publicId, doctype.systemId with
  | some publicId, some systemId =>
      publicWord ++ ' ' :: '"' :: (publicId ++ '"' :: ' ' :: quoteSystemId systemId)
  | some publicId, none => publicWord ++ ' ' :: '"' :: (publicId ++ ['"'])
  | none, some systemId => systemWord ++ ' ' :: quoteSystemId systemId
  | none, none => []

variable {doctype : Doctype}

theorem Doctype.print_eq (h : doctype.IsPlain) :
    doctype.print htmlTag =
      '<' :: '!' :: (doctypeStart ++ printIdentifiers doctype ++ ['>']) := by
  have hpublic := nonempty_eq_self fun text htext => (h.publicId text htext).1
  have hsystem := nonempty_eq_self fun text htext => (h.systemId text htext).1
  have hstart : "<!DOCTYPE ".toList = ['<', '!', 'D', 'O', 'C', 'T', 'Y', 'P', 'E', ' '] := by
    decide
  have hhtml : htmlTag = ['h', 't', 'm', 'l'] := by decide
  have hwordPublic : " PUBLIC \"".toList = publicWord ++ [' ', '"'] := by decide
  have hwordSystem : " SYSTEM ".toList = systemWord ++ [' '] := by decide
  have hbetween : "\" ".toList = ['"', ' '] := by decide
  obtain ⟨publicId, systemId⟩ := doctype
  unfold Doctype.print
  simp only [hpublic, hsystem, hstart, hhtml, doctypeStart]
  cases publicId with
  | none =>
      cases systemId with
      | none => rfl
      | some systemId =>
          simp only [printIdentifiers, hwordSystem, List.append_assoc, List.cons_append,
            List.nil_append]
  | some publicId =>
      cases systemId with
      | none =>
          simp only [printIdentifiers, hwordPublic, List.append_assoc, List.cons_append,
            List.nil_append]
      | some systemId =>
          simp only [printIdentifiers, hwordPublic, hbetween, List.append_assoc, List.cons_append,
            List.nil_append]

/-- The content of a document type is read back. -/
theorem Doctype.ofContent_printIdentifiers (h : doctype.IsPlain) :
    Doctype.ofContent ((doctypeStart ++ printIdentifiers doctype).drop 7) = doctype := by
  obtain ⟨_ | publicId, _ | systemId⟩ := doctype
  · rfl
  · obtain ⟨quote, hquoted, hquote, hnone⟩ := exists_quoteSystemId_eq (h.systemId systemId rfl).2.2
    have hread := readIdentifier?_quoted hquote hnone []
    simp only [printIdentifiers]
    rw [hquoted, ← List.append_assoc, ofContent_system, hread]
    rfl
  · have hread := readIdentifier?_quoted (Or.inl rfl) (h.publicId publicId rfl).2.2 []
    simp only [printIdentifiers]
    rw [← List.append_assoc, ofContent_public hread]
    rfl
  · obtain ⟨quote, hquoted, hquote, hnone⟩ := exists_quoteSystemId_eq (h.systemId systemId rfl).2.2
    have hread := readIdentifier?_quoted (Or.inl rfl) (h.publicId publicId rfl).2.2
      (' ' :: quoteSystemId systemId)
    have hread' := readIdentifier?_quoted hquote hnone []
    rw [← hquoted] at hread'
    simp only [printIdentifiers]
    rw [← List.append_assoc, ofContent_public hread, hread']
    rfl

theorem isPlainIdentifierChar_iff {c : Char} :
    isPlainIdentifierChar c ↔ isInnerChar c ∧ c ≠ '>' := by
  simp [isPlainIdentifierChar]

theorem all_isPlainIdentifierChar_printIdentifiers (h : doctype.IsPlain) :
    (printIdentifiers doctype).all isPlainIdentifierChar := by
  have hpublic {publicId : Text} (heq : doctype.publicId = some publicId) :
      publicId.all isPlainIdentifierChar := (h.publicId publicId heq).2.1
  have hsystem {systemId : Text} (heq : doctype.systemId = some systemId) :
      (quoteSystemId systemId).all isPlainIdentifierChar := by
    obtain ⟨-, hall, hquotes⟩ := h.systemId systemId heq
    obtain ⟨quote, hquoted, hquote, -⟩ := exists_quoteSystemId_eq hquotes
    rw [hquoted]
    rcases hquote with rfl | rfl
    all_goals
      rw [List.all_cons, List.all_append, hall]
      decide
  have hpublicWord : publicWord.all isPlainIdentifierChar := by decide
  have hsystemWord : systemWord.all isPlainIdentifierChar := by decide
  have hspace : isPlainIdentifierChar ' ' := by decide
  have hquote : isPlainIdentifierChar '"' := by decide
  rw [printIdentifiers]
  split
  · rename_i heq heq'
    simp [hpublic heq, hsystem heq', hpublicWord, hspace, hquote]
  · rename_i heq _
    simp [hpublic heq, hpublicWord, hspace, hquote]
  · rename_i _ heq'
    simp [hsystem heq', hsystemWord, hspace]
  · rfl

/-- A document type is scanned as it is. -/
theorem scansTo_doctype (h : doctype.IsPlain) (rest : Text) :
    ScansTo (doctype.print htmlTag) [.doctype doctype] rest := by
  have hcontent : (doctypeStart ++ printIdentifiers doctype).all isPlainIdentifierChar := by
    rw [List.all_append, all_isPlainIdentifierChar_printIdentifiers h]
    decide
  have hspan : (doctypeStart ++ printIdentifiers doctype ++ '>' :: rest).span (· ≠ '>') =
      (doctypeStart ++ printIdentifiers doctype, '>' :: rest) := by
    apply span_append_cons
    · rw [List.all_eq_true] at hcontent ⊢
      intro c hc
      rw [decide_eq_true_eq]
      exact (isPlainIdentifierChar_iff.1 (hcontent c hc)).2
    · decide
  have htext : '!' :: (doctypeStart ++ printIdentifiers doctype ++ ['>']) ++ rest =
      '!' :: (doctypeStart ++ printIdentifiers doctype ++ '>' :: rest) := by
    simp
  have hword : startsWithWord "doctype".toList (doctypeStart ++ printIdentifiers doctype) := rfl
  rw [Doctype.print_eq h]
  apply scansTo_of_readAfterLess
  · have hdeclaration :
        readDeclaration (doctypeStart ++ printIdentifiers doctype ++ '>' :: rest) =
          (.doctype doctype, rest) := by
      rw [readDeclaration]
      · rw [readBogusComment, hspan]
        dsimp only
        rw [if_pos hword, Doctype.ofContent_printIdentifiers h]
        rfl
      · rintro _ ⟨⟩
    rw [htext, readAfterLess, hdeclaration]
  · have hinner : (doctypeStart ++ printIdentifiers doctype).all isInnerChar := by
      rw [List.all_eq_true] at hcontent ⊢
      exact fun c hc => (isPlainIdentifierChar_iff.1 (hcontent c hc)).1
    rw [List.all_cons, List.all_append, hinner]
    decide
  · rw [htext, contentTypeMeta_eq, List.cons_prefix_cons]
    intro hprefix
    have hsecond := List.cons_prefix_cons.1 (show 'm' :: _ <+: '!' :: _ from hprefix.2)
    exact absurd hsecond.1 (by decide)

/-! ## Documents -/

/-- The tokens of a document, with its document type if `typed` holds. -/
def Document.tokens (typed : Bool) (document : Document) : List Token :=
  (if typed then [.doctype document.doctype, .text ['\n']] else []) ++ document.root.tokens

namespace Document

variable {typed : Bool} {document : Document}

theorem IsPlain.exists_root (h : document.IsPlain typed) :
    ∃ attributes children, document.root = .element htmlTag attributes children ∧
      children.all Node.isPlainFrame ∧ textsApart children := by
  obtain ⟨helement, htag, hframe, hapart, -, -⟩ := h
  cases hroot : document.root with
  | element tag attributes children =>
      rw [hroot] at htag hframe hapart
      obtain rfl : tag = htmlTag := htag
      exact ⟨attributes, children, rfl, hframe, hapart⟩
  | text content => rw [hroot] at helement; cases helement
  | comment content => rw [hroot] at helement; cases helement
  | instruction target content => rw [hroot] at helement; cases helement

/-- What is written of a plain document is scanned as its tokens. -/
theorem IsPlain.scansTo (h : document.IsPlain typed) :
    ScansTo ((if typed then document.doctype.print document.root.tag ++ ['\n'] else []) ++
      printNode false document.root) (document.tokens typed) [] := by
  obtain ⟨attributes, children, hroot, hframe, hapart⟩ := h.exists_root
  have htags := h.tags
  rw [hroot] at htags
  have htree {rest : Text} : ScansTo (printNode false document.root) document.root.tokens rest := by
    rw [hroot]
    exact scansTo_printRoot htags hframe hapart
  have hdoctype := h.doctype
  rw [tokens, h.tag]
  split_ifs at hdoctype ⊢ with htyped
  · have hmarkup : StartsMarkup (printNode false document.root ++ []) := by
      rw [hroot]
      exact startsMarkup_printNode rfl false []
    have hline : ScansTo ['\n'] [.text ['\n']] (printNode false document.root ++ []) :=
      @scansTo_text ['\n'] _ (by decide) (by decide) hmarkup
    exact ((scansTo_doctype hdoctype _).append hline).append htree
  · exact htree

/-- A plain document is built from its tokens. -/
theorem IsPlain.ofTokens (h : document.IsPlain typed) :
    (Builder.ofTokens (document.tokens typed)).roots = [document.root] ∧
      (Builder.ofTokens (document.tokens typed)).doctype.getD .standard = document.doctype := by
  obtain ⟨attributes, children, hroot, hframe, hapart⟩ := h.exists_root
  have hbuilt (doctype : Option Doctype) :=
    Builder.finish_foldl_read attributes doctype hframe hapart
  have hdoctype := h.doctype
  rw [← hroot] at hbuilt
  rw [Builder.ofTokens, tokens, List.foldl_append]
  split_ifs at hdoctype ⊢ with htyped
  · obtain ⟨hroots, hfound⟩ := hbuilt (some document.doctype)
    exact ⟨hroots, congrArg (Option.getD · Doctype.standard) hfound⟩
  · obtain ⟨hroots, hfound⟩ := hbuilt none
    exact ⟨hroots, (congrArg (Option.getD · Doctype.standard) hfound).trans hdoctype.symm⟩

/-- A plain document is read as it is written. -/
theorem read_of_print {page written : Text}
    (h : document.IsPlain (startsWithDoctype page.trimStart))
    (hprint : print page document = .ok written) : read written = .ok document := by
  have hscans := h.scansTo
  have hkept : ¬contentTypeMeta <:+: _ := fun hoccurs =>
    absurd (hscans.kept hoccurs) (by decide)
  rw [List.append_nil] at hkept
  have hwritten : written =
      (if startsWithDoctype page.trimStart then document.doctype.print document.root.tag ++ ['\n']
        else []) ++ printNode false document.root := by
    rw [← dropContentTypeMeta_of_not_infix hkept]
    rw [print] at hprint
    dsimp only at hprint
    split_ifs at hprint ⊢ with htyped
    · rw [← Except.ok.inj hprint, List.append_assoc, List.singleton_append]
    · rw [← Except.ok.inj hprint, List.nil_append]
  obtain ⟨hroots, hdoctype⟩ := h.ofTokens
  have hfind : [document.root].reverse.find? Node.isElement = some document.root := by
    rw [List.reverse_singleton, List.find?_cons_of_pos h.element]
  rw [read, hwritten, hscans.scan_eq (normalizeInput_of_all hscans.chars)]
  rw [hroots, hfind, hdoctype]

end Document
end AtomicCss.Markup
