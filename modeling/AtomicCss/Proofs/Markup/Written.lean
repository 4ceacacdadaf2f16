import AtomicCss.Proofs.Markup.Elements
import AtomicCss.Proofs.Text.Trim

/-! # Written documents

A document is written with its `html` element first, after a document type if its page has one. So
what is written is a document again, and has a document type exactly if the page has one. -/

namespace AtomicCss

/-- Trimming keeps a trimmed text that stands at the start. -/
theorem Text.exists_trim_append {start : Text} (h : Text.IsTrimmed start) (rest : Text) :
    ∃ tail, Text.trim (start ++ rest) = start ++ tail := by
  cases start with
  | nil => exact ⟨_, rfl⟩
  | cons c more =>
      have hstart : trimStart (c :: more ++ rest) = c :: more ++ rest := by
        apply trimStart_of_head?
        intro d hd
        exact h.1 d hd
      have hend := trimEnd_of_getLast? h.2
      rw [trimEnd] at hend
      rw [trim, hstart, trimEnd, List.reverse_append, List.dropWhile_append]
      split_ifs
      · exact ⟨[], by rw [hend, List.append_nil]⟩
      · exact ⟨_, by rw [List.reverse_append, List.reverse_reverse]⟩

namespace Markup

/-- How the text of a document starts. -/
def documentStart (typed : Bool) : Text := if typed then "<!DOCTYPE".toList else "<html".toList

/-- A page that starts as a document does is one, with a document type or without. -/
theorem isDocument_documentStart (typed : Bool) (rest : Text) :
    isDocument (documentStart typed ++ rest) ∧
      startsWithDoctype (documentStart typed ++ rest).trimStart = typed := by
  have htrimmed : Text.IsTrimmed (documentStart typed) := by
    cases typed
    · decide
    · decide
  obtain ⟨tail, htail⟩ := Text.exists_trim_append htrimmed rest
  rw [isDocument, htail]
  cases typed
  · exact ⟨rfl, rfl⟩
  · exact ⟨rfl, rfl⟩

/-- No content type element stands in the start of a document. -/
theorem dropContentTypeMeta_documentStart (typed : Bool) (rest : Text) :
    dropContentTypeMeta (documentStart typed ++ rest) =
      documentStart typed ++ dropContentTypeMeta rest := by
  cases typed <;> rfl

theorem exists_printNode_eq {root : Node} (helement : root.isElement) (htag : root.tag = htmlTag) :
    ∃ rest, printNode false root = documentStart false ++ rest := by
  cases root with
  | text content => cases helement
  | comment content => cases helement
  | instruction target content => cases helement
  | element tag attributes children =>
      have htag' : tag = htmlTag := htag
      rw [htag', printNode]
      dsimp only
      split_ifs
      · exact ⟨_, rfl⟩
      · exact ⟨_, rfl⟩

theorem exists_doctype_print_eq (rootTag : Text) (doctype : Doctype) :
    ∃ rest, doctype.print rootTag = documentStart true ++ rest := by
  unfold Doctype.print
  extract_lets identifiers
  exact ⟨' ' :: (rootTag ++ identifiers ++ ['>']), rfl⟩

namespace Document

variable {page written : Text} {document : Document}

/-- What is written of a document starts as its page does. -/
theorem exists_print_eq (helement : document.root.isElement) (htag : document.root.tag = htmlTag)
    (h : print page document = .ok written) :
    ∃ rest, written = documentStart (startsWithDoctype page.trimStart) ++ rest := by
  obtain ⟨tree, htree⟩ := exists_printNode_eq helement htag
  rw [print] at h
  dsimp only at h
  split_ifs at h with htyped
  · obtain ⟨declaration, hdeclaration⟩ := exists_doctype_print_eq document.root.tag document.doctype
    rw [hdeclaration, List.append_assoc (documentStart true) declaration,
      dropContentTypeMeta_documentStart] at h
    rw [htyped, ← Except.ok.inj h]
    exact ⟨_, rfl⟩
  · rw [Bool.not_eq_true] at htyped
    rw [htree, dropContentTypeMeta_documentStart] at h
    rw [htyped, ← Except.ok.inj h]
    exact ⟨_, rfl⟩

/-- What is written of a document is a document, with a document type if its page has one. -/
theorem isDocument_of_print (helement : document.root.isElement)
    (htag : document.root.tag = htmlTag) (h : print page document = .ok written) :
    isDocument written ∧
      startsWithDoctype written.trimStart = startsWithDoctype page.trimStart := by
  obtain ⟨rest, rfl⟩ := exists_print_eq helement htag h
  exact isDocument_documentStart _ rest

/-- Of the page only its document type counts. -/
theorem print_congr (h : startsWithDoctype written.trimStart = startsWithDoctype page.trimStart)
    (document : Document) : print written document = print page document := by
  rw [print, print, h]

/-- Writing fails only because of the document type, whatever is below the root. -/
theorem print_of_error {fault : Fault} (h : print page document = .error fault) {root : Node}
    (htag : root.tag = document.root.tag) :
    fault = .notXmlText ∧ print page { document with root := root } = .error .notXmlText := by
  rw [print] at h ⊢
  dsimp only at h ⊢
  rw [htag]
  split_ifs at h ⊢
  cases h
  exact ⟨rfl, rfl⟩

end Document
end Markup
end AtomicCss
