import AtomicCss.Proofs.Markup.Trees

/-! # The characters of written trees

Writing a tree escapes some of its characters, all of them with ASCII characters. So what is written
has the characters of the tree. -/

namespace AtomicCss

open Markup

namespace Repertoire

variable {repertoire : Repertoire} {text : Text}

/-! ## Escaping -/

theorem spells_escapeChar {c : Char} (h : repertoire.has c) :
    repertoire.Spells (escapeChar c) := by
  rw [escapeChar]
  split_ifs
  · exact spells_toList rfl (by decide)
  · exact spells_toList rfl (by decide)
  · exact spells_toList rfl (by decide)
  · exact spells_cons.2 ⟨h, spells_nil⟩

theorem Spells.escapeText (h : repertoire.Spells text) :
    repertoire.Spells (Markup.escapeText text) :=
  spells_flatMap fun c hc => spells_escapeChar (h c hc)

theorem Spells.escapeValueAfter (h : repertoire.Spells text) (verbatim : Nat) :
    repertoire.Spells (Markup.escapeValueAfter verbatim text) := by
  induction text generalizing verbatim with
  | nil => cases verbatim <;> exact spells_nil
  | cons c rest ih =>
      obtain ⟨hc, hrest⟩ := spells_cons.1 h
      cases verbatim with
      | succ verbatim => exact spells_cons.2 ⟨hc, ih hrest verbatim⟩
      | zero =>
          rw [Markup.escapeValueAfter]
          split
          · exact spells_append.2 ⟨spells_escapeChar hc, ih hrest 0⟩
          · exact spells_cons.2 ⟨hc, ih hrest _⟩

theorem spells_percentByte (byte : UInt8) : repertoire.Spells (percentByte byte) := by
  have hdigits : ∀ n < 256, ((Nat.toDigits 16 n).map Char.toUpper).all fun c => c.toNat < 0x80 := by
    decide +kernel
  simp only [percentByte]
  rw [List.cons_append, spells_cons, spells_append]
  refine ⟨repertoire.ascii _ (by decide), ?_, spells_of_all_ascii (hdigits _ byte.toNat_lt)⟩
  intro c hc
  rw [(List.mem_replicate.1 hc).2]
  exact repertoire.ascii _ (by decide)

theorem Spells.escapeAddress (h : repertoire.Spells text) :
    repertoire.Spells (Markup.escapeAddress text) := by
  apply spells_flatMap
  intro c hc
  split_ifs
  · exact spells_cons.2 ⟨h.dropWhile _ c hc, spells_nil⟩
  · exact spells_flatMap fun byte _ => spells_percentByte byte

theorem Spells.quoteValue (h : repertoire.Spells text) :
    repertoire.Spells (Markup.quoteValue text) := by
  have hsingle : repertoire.has '\'' := repertoire.ascii _ (by decide)
  have hdouble : repertoire.has '"' := repertoire.ascii _ (by decide)
  have hquote : repertoire.Spells "&quot;".toList := spells_toList rfl (by decide)
  rw [Markup.quoteValue]
  split_ifs
  · simp [h, hsingle]
  · have hescaped : repertoire.Spells
        (text.flatMap fun c => if c = '"' then "&quot;".toList else [c]) := by
      apply spells_flatMap
      intro c hc
      split_ifs
      · exact hquote
      · exact spells_cons.2 ⟨h c hc, spells_nil⟩
    rw [List.cons_append, spells_cons, spells_append]
    exact ⟨hdouble, hescaped, spells_cons.2 ⟨hdouble, spells_nil⟩⟩

/-! ## Trees -/

theorem spells_printAttribute (tag : Text) {name : Text} {value : Option Text}
    (hname : repertoire.Spells name) (hvalue : ∀ text ∈ value, repertoire.Spells text) :
    repertoire.Spells (printAttribute tag name value) := by
  have hspace : repertoire.has ' ' := repertoire.ascii _ (by decide)
  have hequals : repertoire.Spells ['='] := spells_of_all_ascii (by decide)
  rw [printAttribute.eq_def]
  split
  · exact spells_cons.2 ⟨hspace, hname⟩
  · rename_i value
    have hescaped : repertoire.Spells (escapeValue value) := (hvalue value rfl).escapeValueAfter 0
    dsimp only
    split_ifs
    · exact spells_cons.2 ⟨hspace, hname⟩
    · rw [spells_append, List.cons_append, spells_cons, spells_append]
      exact ⟨⟨hspace, hname, hequals⟩, hescaped.escapeAddress.quoteValue⟩
    · rw [spells_append, List.cons_append, spells_cons, spells_append]
      exact ⟨⟨hspace, hname, hequals⟩, hescaped.quoteValue⟩

theorem printNodes_eq_flatMap (raw : Bool) (nodes : List Node) :
    printNodes raw nodes = nodes.flatMap (printNode raw) := by
  induction nodes with
  | nil => rfl
  | cons node rest ih => rw [printNodes, ih, List.flatMap_cons]

/-- A tree is written with its characters. -/
theorem SpellsNode.print {node : Node} (h : repertoire.SpellsNode node) (raw : Bool) :
    repertoire.Spells (printNode raw node) := by
  induction h generalizing raw with
  | text hcontent =>
      rw [printNode]
      split_ifs
      · exact hcontent
      · exact hcontent.escapeText
  | comment hcontent =>
      rw [printNode, spells_append, spells_append]
      exact ⟨⟨spells_toList rfl (by decide), hcontent⟩, spells_toList rfl (by decide)⟩
  | instruction htarget hcontent =>
      have hopen : repertoire.Spells ['<', '?'] := spells_of_all_ascii (by decide)
      have hclose : repertoire.Spells ['>'] := spells_of_all_ascii (by decide)
      rw [printNode, spells_append, spells_append, spells_append]
      have hbetween := spells_cons.2 ⟨repertoire.ascii ' ' (by decide), hcontent⟩
      exact ⟨⟨⟨hopen, htarget⟩, hbetween⟩, hclose⟩
  | @element tag attributes children htag hattributes hchildren ih =>
      have hclose : repertoire.Spells ['>'] := spells_of_all_ascii (by decide)
      have hend : repertoire.Spells ['<', '/'] := spells_of_all_ascii (by decide)
      have hattributes' : repertoire.Spells
          (attributes.flatMap fun entry => printAttribute tag entry.1 entry.2) := by
        apply spells_flatMap
        intro entry hentry
        obtain ⟨hname, hvalue⟩ := hattributes entry hentry
        exact spells_printAttribute tag hname hvalue
      have hstart : repertoire.Spells ('<' :: tag ++
          (attributes.flatMap fun entry => printAttribute tag entry.1 entry.2) ++ ['>']) := by
        rw [spells_append, spells_append, spells_cons]
        exact ⟨⟨⟨repertoire.ascii _ (by decide), htag⟩, hattributes'⟩, hclose⟩
      rw [printNode]
      dsimp only
      split_ifs
      · exact hstart
      · rw [printNodes_eq_flatMap, spells_append, spells_append, spells_append, spells_append]
        refine ⟨⟨⟨⟨hstart, ?_⟩, hend⟩, htag⟩, hclose⟩
        exact spells_flatMap fun child hchild => ih child hchild _

theorem SpellsNodes.print {nodes : List Node} (h : repertoire.SpellsNodes nodes) (raw : Bool) :
    repertoire.Spells (printNodes raw nodes) := by
  rw [printNodes_eq_flatMap]
  exact spells_flatMap fun node hnode => (h node hnode).print raw

/-! ## Pages -/

theorem dropContentTypeMetaAfter_subset (skipped : Nat) (text : Text) :
    dropContentTypeMetaAfter skipped text ⊆ text := by
  induction text generalizing skipped with
  | nil => cases skipped <;> exact List.Subset.refl _
  | cons c rest ih =>
      cases skipped with
      | succ skipped => exact List.subset_cons_of_subset c (ih skipped)
      | zero =>
          rw [dropContentTypeMetaAfter]
          split
          · exact List.cons_subset_cons c (ih 0)
          · exact List.subset_cons_of_subset c (ih _)

theorem Spells.dropContentTypeMeta (h : repertoire.Spells text) :
    repertoire.Spells (Markup.dropContentTypeMeta text) :=
  h.subset (dropContentTypeMetaAfter_subset 0 text)

theorem spells_quoteSystemId (h : repertoire.Spells text) :
    repertoire.Spells (quoteSystemId text) := by
  have hsingle : repertoire.has '\'' := repertoire.ascii _ (by decide)
  have hdouble : repertoire.has '"' := repertoire.ascii _ (by decide)
  rw [quoteSystemId]
  split_ifs
  · simp [h, hsingle]
  · simp [h, hdouble]

theorem SpellsDoctype.print {doctype : Doctype} (h : repertoire.SpellsDoctype doctype)
    {rootTag : Text} (htag : repertoire.Spells rootTag) :
    repertoire.Spells (doctype.print rootTag) := by
  have hopen : repertoire.Spells "<!DOCTYPE ".toList := spells_toList rfl (by decide)
  have hpublic : repertoire.Spells " PUBLIC \"".toList := spells_toList rfl (by decide)
  have hbetween : repertoire.Spells "\" ".toList := spells_toList rfl (by decide)
  have hsystem : repertoire.Spells " SYSTEM ".toList := spells_toList rfl (by decide)
  have hquote : repertoire.Spells ['"'] := spells_of_all_ascii (by decide)
  have hclose : repertoire.Spells ['>'] := spells_of_all_ascii (by decide)
  unfold Doctype.print
  dsimp only
  rw [spells_append, spells_append, spells_append]
  refine ⟨⟨⟨hopen, htag⟩, ?_⟩, hclose⟩
  split
  · rename_i publicId systemId hpublicId hsystemId
    have hfirst := h.publicId publicId (Option.filter_eq_some_iff.1 hpublicId).1
    have hsecond := h.systemId systemId (Option.filter_eq_some_iff.1 hsystemId).1
    rw [spells_append, spells_append, spells_append]
    exact ⟨⟨⟨hpublic, hfirst⟩, hbetween⟩, spells_quoteSystemId hsecond⟩
  · rename_i publicId hpublicId hsystemId
    have hfirst := h.publicId publicId (Option.filter_eq_some_iff.1 hpublicId).1
    rw [spells_append, spells_append]
    exact ⟨⟨hpublic, hfirst⟩, hquote⟩
  · rename_i systemId hpublicId hsystemId
    have hsecond := h.systemId systemId (Option.filter_eq_some_iff.1 hsystemId).1
    rw [spells_append]
    exact ⟨hsystem, spells_quoteSystemId hsecond⟩
  · exact spells_nil

/-- A document is written with its characters. -/
theorem SpellsDocument.print {page written : Text} {document : Document}
    (h : repertoire.SpellsDocument document)
    (hprint : Document.print page document = .ok written) : repertoire.Spells written := by
  have htree := h.root.print false
  rw [Document.print] at hprint
  dsimp only at hprint
  split_ifs at hprint
  · cases hprint
    apply Spells.dropContentTypeMeta
    rw [spells_append, spells_cons]
    exact ⟨h.doctype.print h.root.tag, repertoire.ascii _ (by decide), htree⟩
  · cases hprint
    exact htree.dropContentTypeMeta

end Repertoire
end AtomicCss
