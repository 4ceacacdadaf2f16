import AtomicCss.Proofs.Markup.References

/-! # The characters of tokens

What is read of a page into its tokens are parts of the page, in lowercase where they are names, and
with their references decoded where they are values and texts. So the characters of the tokens are
those of the page and those that reading it brings in. -/

namespace AtomicCss

open Markup

namespace Repertoire

variable {repertoire : Repertoire} {text : Text}

/-- The names and the values of attributes are in a repertoire. -/
def SpellsAttributes (repertoire : Repertoire) (attributes : Attributes) : Prop :=
  ∀ entry ∈ attributes, repertoire.Spells entry.1 ∧ ∀ value ∈ entry.2, repertoire.Spells value

/-- The identifiers of a document type are in a repertoire. -/
structure SpellsDoctype (repertoire : Repertoire) (doctype : Doctype) : Prop where
  publicId : ∀ identifier ∈ doctype.publicId, repertoire.Spells identifier
  systemId : ∀ identifier ∈ doctype.systemId, repertoire.Spells identifier

/-- What a token puts into a tree is in a repertoire. -/
def SpellsToken (repertoire : Repertoire) : Token → Prop
  | .text content => repertoire.Spells content
  | .startTag tag attributes _ => repertoire.Spells tag ∧ repertoire.SpellsAttributes attributes
  | .comment content => repertoire.Spells content
  | .doctype doctype => repertoire.SpellsDoctype doctype
  | .lessSign => True
  | .cutTag _ => True
  | .endTag _ => True

/-- What some tokens put into a tree is in a repertoire. -/
def SpellsTokens (repertoire : Repertoire) (tokens : List Token) : Prop :=
  ∀ token ∈ tokens, repertoire.SpellsToken token

theorem spellsAttributes_nil : repertoire.SpellsAttributes [] := by
  intro entry hentry
  exact absurd hentry List.not_mem_nil

theorem SpellsAttributes.set {attributes : Attributes} {name : Text} {value : Option Text}
    (h : repertoire.SpellsAttributes attributes) (hname : repertoire.Spells name)
    (hvalue : ∀ text ∈ value, repertoire.Spells text) :
    repertoire.SpellsAttributes (OrderedMap.set name value attributes) :=
  OrderedMap.forall_mem_alter h ⟨hname, hvalue⟩ fun _ _ => ⟨hname, hvalue⟩

@[simp]
theorem spellsTokens_nil : repertoire.SpellsTokens [] := by
  intro token htoken
  exact absurd htoken List.not_mem_nil

@[simp]
theorem spellsTokens_cons {token : Token} {tokens : List Token} :
    repertoire.SpellsTokens (token :: tokens) ↔
      repertoire.SpellsToken token ∧ repertoire.SpellsTokens tokens := List.forall_mem_cons

@[simp]
theorem spellsTokens_append {first second : List Token} :
    repertoire.SpellsTokens (first ++ second) ↔
      repertoire.SpellsTokens first ∧ repertoire.SpellsTokens second := List.forall_mem_append

/-! ## Comments and document types -/

theorem readBogusComment_subset (text : Text) : (readBogusComment text).1 ⊆ text := by
  rw [readBogusComment, List.span_eq_takeWhile_dropWhile]
  exact List.takeWhile_subset _

theorem readCommentContent_subset (text : Text) : (readCommentContent text).1 ⊆ text := by
  induction text with
  | nil => exact List.Subset.refl _
  | cons c rest ih =>
      rw [readCommentContent]
      split_ifs
      · exact List.nil_subset _
      · exact List.nil_subset _
      · exact List.nil_subset _
      · exact List.cons_subset_cons c ih

theorem readComment_subset (text : Text) : (readComment text).1 ⊆ text := by
  rw [readComment.eq_def]
  split
  · exact List.nil_subset _
  · exact List.nil_subset _
  · exact readCommentContent_subset text

theorem Spells.readIdentifier? (h : repertoire.Spells text) {identifier rest : Text}
    (hread : Markup.readIdentifier? text = some (identifier, rest)) :
    repertoire.Spells identifier ∧ repertoire.Spells rest := by
  have hquoted := h.dropWhile isSpace
  rw [Markup.readIdentifier?] at hread
  split at hread
  · rename_i quoted heq
    rw [heq, spells_cons] at hquoted
    rw [List.span_eq_takeWhile_dropWhile] at hread
    cases hread
    exact ⟨hquoted.2.takeWhile _, (hquoted.2.dropWhile _).drop 1⟩
  · rename_i quoted heq
    rw [heq, spells_cons] at hquoted
    rw [List.span_eq_takeWhile_dropWhile] at hread
    cases hread
    exact ⟨hquoted.2.takeWhile _, (hquoted.2.dropWhile _).drop 1⟩
  · cases hread

theorem Spells.readIdentifier?_map (h : repertoire.Spells text) :
    ∀ identifier ∈ (Markup.readIdentifier? text).map Prod.fst, repertoire.Spells identifier := by
  intro identifier hmem
  obtain ⟨⟨_, rest⟩, hread, rfl⟩ := Option.map_eq_some_iff.1 hmem
  exact (h.readIdentifier? hread).1

theorem Spells.doctype_ofContent (h : repertoire.Spells text) :
    repertoire.SpellsDoctype (Doctype.ofContent text) := by
  rw [Doctype.ofContent]
  have hafter := ((h.dropWhile isSpace).dropWhile fun c => !isSpace c).dropWhile isSpace
  split_ifs
  · split
    · exact ⟨nofun, nofun⟩
    · rename_i publicId rest hread
      obtain ⟨hpublic, hrest⟩ := (hafter.drop 6).readIdentifier? hread
      exact ⟨by rintro _ ⟨⟩; exact hpublic, hrest.readIdentifier?_map⟩
  · exact ⟨nofun, (hafter.drop 6).readIdentifier?_map⟩
  · exact ⟨nofun, nofun⟩

theorem Spells.readDeclaration (h : repertoire.Spells text) :
    repertoire.SpellsToken (Markup.readDeclaration text).1 := by
  rw [Markup.readDeclaration.eq_def]
  split
  · rename_i rest
    apply h.subset
    intro c hc
    simp [readComment_subset rest hc]
  · have hcontent := h.subset (readBogusComment_subset text)
    dsimp only
    split_ifs
    · exact (hcontent.drop 7).doctype_ofContent
    · exact hcontent

/-! ## Tags -/

theorem fitBytes_subset (room : Nat) (text : Text) : fitBytes room text ⊆ text := by
  induction text generalizing room with
  | nil => exact List.Subset.refl _
  | cons c rest ih =>
      rw [fitBytes]
      split_ifs
      · exact List.cons_subset_cons c (ih _)
      · exact List.subset_cons_of_subset c (ih _)

theorem Spells.foldName (h : repertoire.Spells text) : repertoire.Spells (Markup.foldName text) :=
  h.lowercase.subset (fitBytes_subset _ _)

theorem Spells.readName (h : repertoire.Spells text) :
    repertoire.Spells (Markup.readName text).1 := by
  rw [Markup.readName, List.span_eq_takeWhile_dropWhile]
  exact (h.takeWhile _).foldName

/-- The decoded value of an attribute. It is cut off at a quote, at white space or at the end of the
tag, none of which is part of a reference. -/
theorem Reads.readAttributeValue (h : repertoire.Reads text) :
    repertoire.Spells (Markup.readAttributeValue text).1 := by
  have hquoted {quote : Char} {quoted : Text} (htext : text = quote :: quoted)
      (hquote : isReferenceChar quote = false) :
      repertoire.Spells (Markup.decodeReferences true (quoted.takeWhile (· ≠ quote))) := by
    have hrest : repertoire.Reads quoted := h.suffix (htext ▸ List.suffix_cons quote quoted)
    apply (hrest.takeWhile _).decodeReferences
    intro c hc
    have heq : c = quote := by simpa using hc
    rwa [heq]
  rw [Markup.readAttributeValue.eq_def]
  split
  rename_i value rest heq
  split at heq
  · rw [List.span_eq_takeWhile_dropWhile] at heq
    rw [← (Prod.mk.inj heq).1]
    exact hquoted rfl rfl
  · rw [List.span_eq_takeWhile_dropWhile] at heq
    rw [← (Prod.mk.inj heq).1]
    exact hquoted rfl rfl
  · rw [List.span_eq_takeWhile_dropWhile] at heq
    rw [← (Prod.mk.inj heq).1]
    apply (h.takeWhile _).decodeReferences
    intro c hc
    rw [Bool.and_eq_false_iff, Bool.not_eq_false', decide_eq_false_iff_not, not_not] at hc
    rcases hc with hspace | rfl
    · simp only [isSpace, Bool.or_eq_true, decide_eq_true_iff] at hspace
      rcases hspace with (((rfl | rfl) | rfl) | rfl) | rfl <;> rfl
    · rfl

theorem Reads.readAttribute {first : Char} (h : repertoire.Reads (first :: text)) :
    repertoire.Spells (Markup.readAttribute first text).1 ∧
      ∀ value ∈ (Markup.readAttribute first text).2.1, repertoire.Spells value := by
  obtain ⟨more, rest, rfl, -, ⟨value, hvalue, heq⟩ | ⟨-, heq⟩⟩ := readAttribute_cases first text
  all_goals
    rw [heq]
    have hname : repertoire.Spells (Markup.foldName (first :: more)) :=
      (h.spells.subset (List.subset_append_left (first :: more) rest)).foldName
  · refine ⟨hname, ?_⟩
    rintro _ ⟨⟩
    have hsuffix : '=' :: value <:+ first :: (more ++ rest) := by
      rw [← hvalue]
      exact (List.dropWhile_suffix _).trans
        ((List.suffix_append more rest).trans (List.suffix_cons _ _))
    apply Reads.readAttributeValue
    exact h.suffix ((List.dropWhile_suffix _).trans ((List.suffix_cons _ _).trans hsuffix))
  · exact ⟨hname, nofun⟩

theorem readAttribute_suffix (first : Char) (text : Text) :
    (Markup.readAttribute first text).2.2 <:+ text :=
  (isBetweenAttributes_readAttribute (List.suffix_refl text)).suffix

theorem skipGap_suffix (text : Text) : skipGap text <:+ text := by
  induction text with
  | nil => exact List.suffix_refl _
  | cons c rest ih =>
      rw [skipGap]
      split_ifs
      · exact ih.trans (List.suffix_cons c rest)
      · exact List.suffix_refl _

/-- The attributes of a tag, and what comes after it. The induction is on the rounds, each of which
reads one attribute. -/
theorem Reads.readAttributesFor {rounds : Nat} {attributes : Attributes} {ending : TagEnding}
    {after : Text} (h : repertoire.Reads text)
    (hread : Markup.readAttributesFor rounds attributes text = some (ending, after))
    (hattributes : repertoire.SpellsAttributes attributes) :
    repertoire.Reads after ∧ repertoire.SpellsAttributes ending.attributes := by
  induction rounds generalizing attributes text with
  | zero => cases hread
  | succ rounds ih =>
      have hgap := h.suffix (skipGap_suffix text)
      rw [Markup.readAttributesFor.eq_def] at hread
      dsimp only at hread
      split at hread
      · cases hread
      · rename_i rest hskip
        cases hread
        rw [hskip] at hgap
        exact ⟨hgap.suffix (List.suffix_cons _ _), hattributes⟩
      · rename_i rest hskip
        cases hread
        rw [hskip] at hgap
        exact ⟨hgap.suffix ((List.suffix_cons _ _).trans (List.suffix_cons _ _)), hattributes⟩
      · rename_i first rest _ _ hskip
        rw [hskip] at hgap
        obtain ⟨hname, hvalue⟩ := hgap.readAttribute
        apply ih (hgap.suffix ((readAttribute_suffix first rest).trans (List.suffix_cons _ _)))
          hread
        split_ifs
        · exact hattributes
        · exact hattributes.set hname hvalue

theorem Reads.readAttributes {ending : TagEnding} {after : Text} (h : repertoire.Reads text)
    (hread : Markup.readAttributes text = some (ending, after)) :
    repertoire.Reads after ∧ repertoire.SpellsAttributes ending.attributes :=
  h.readAttributesFor hread spellsAttributes_nil

theorem Reads.afterName (h : repertoire.Reads text) :
    repertoire.Reads (Markup.readName text).2 := by
  rw [Markup.readName, List.span_eq_takeWhile_dropWhile]
  exact h.suffix (List.dropWhile_suffix _)

/-! ## Content -/

/-- The content of an element ends where the page ends or its end tag starts. -/
theorem splitAtEndTag_eq (tag text : Text) :
    (splitAtEndTag tag text).1 ++ (splitAtEndTag tag text).2 = text ∧
      ∀ c ∈ (splitAtEndTag tag text).2.head?, c = '<' := by
  induction text with
  | nil => exact ⟨rfl, nofun⟩
  | cons c rest ih =>
      rw [splitAtEndTag]
      split_ifs with hend
      · refine ⟨rfl, ?_⟩
        rintro _ ⟨⟩
        have hopen : ['<', '/'] <+: c :: rest := by
          rw [startsWithTag, Bool.and_eq_true, Bool.and_eq_true] at hend
          exact List.isPrefixOf_iff_prefix.1 hend.1.1
        exact (List.cons_prefix_cons.1 hopen).1.symm
      · exact ⟨congrArg (c :: ·) ih.1, ih.2⟩

theorem splitAtScriptEnd_subset (depth : ScriptDepth) (text : Text) :
    (splitAtScriptEnd depth text).1 ⊆ text := by
  induction text generalizing depth with
  | nil =>
      rw [splitAtScriptEnd.eq_def]
      exact List.nil_subset _
  | cons c rest ih =>
      rw [splitAtScriptEnd.eq_def]
      dsimp only
      split
      · exact List.nil_subset _
      · exact List.cons_subset_cons c (ih _)

theorem Reads.splitAtEndTag (h : repertoire.Reads text) (tag : Text) :
    repertoire.Reads (Markup.splitAtEndTag tag text).1 := by
  obtain ⟨heq, hhead⟩ := splitAtEndTag_eq tag text
  rw [← heq] at h
  apply h.before
  intro c hc
  rw [hhead c hc]
  rfl

/-- The content of an element, with its references decoded if they are. -/
theorem Reads.contentTokens (h : repertoire.Reads text) (tag : Text) :
    repertoire.SpellsTokens (Markup.contentTokens tag (splitContent tag text).1) := by
  have hspells : repertoire.Spells (splitContent tag text).1 := by
    rw [splitContent]
    split
    · exact spells_nil
    · exact (h.splitAtEndTag tag).spells
    · exact (h.splitAtEndTag tag).spells
    · exact h.spells.subset (splitAtScriptEnd_subset .code text)
    · exact h.spells
  rw [Markup.contentTokens]
  split_ifs with _ hkind
  · exact spellsTokens_nil
  · rw [splitContent, hkind]
    exact spellsTokens_cons.2
      ⟨(h.splitAtEndTag tag).decodeReferences false, spellsTokens_nil⟩
  · exact spellsTokens_cons.2 ⟨hspells, spellsTokens_nil⟩

/-! ## Pages -/

/-- What a `<` starts is read from the page, and so is what comes after it. -/
theorem Reads.readAfterLess (h : repertoire.Reads text) :
    repertoire.Reads (Markup.readAfterLess text).2 ∧
      repertoire.SpellsTokens (Markup.readAfterLess text).1 := by
  have hone {token : Token} (htoken : repertoire.SpellsToken token) :
      repertoire.SpellsTokens [token] := spellsTokens_cons.2 ⟨htoken, spellsTokens_nil⟩
  have hbogus {content : Text} (hcontent : repertoire.Reads content) :
      repertoire.Reads (readBogusComment content).2 ∧
        repertoire.Spells (readBogusComment content).1 :=
    ⟨hcontent.suffix (readBogusComment_suffix content),
      hcontent.spells.subset (readBogusComment_subset content)⟩
  refine ⟨h.suffix (openMentioned_readAfterLess (List.suffix_refl text)).1, ?_⟩
  rw [Markup.readAfterLess.eq_def]
  -- a declaration, an instruction, `</>`, an end tag, a start tag, and a `<` that ends the page
  split
  · rename_i rest
    exact hone (h.suffix (List.suffix_cons _ rest)).spells.readDeclaration
  · exact hone (hbogus h).2
  · exact spellsTokens_nil
  · rename_i c rest _
    split_ifs
    · dsimp only
      split
      · exact spellsTokens_nil
      · exact hone trivial
    · exact hone (hbogus (h.suffix (List.suffix_cons _ _))).2
  · rename_i c rest _ _ _ _
    split_ifs
    · dsimp only
      split
      · exact hone trivial
      · rename_i attributes closed after hread
        obtain ⟨hafter, hattributes⟩ := h.afterName.readAttributes hread
        have htag := h.spells.readName
        cases closed with
        | true => exact hone ⟨htag, hattributes⟩
        | false => exact spellsTokens_cons.2 ⟨⟨htag, hattributes⟩, hafter.contentTokens _⟩
    · exact hone trivial
  · exact hone trivial

theorem Reads.scanFor (h : repertoire.Reads text) (rounds : Nat) :
    repertoire.SpellsTokens (Markup.scanFor rounds text) := by
  induction rounds generalizing text with
  | zero => exact spellsTokens_nil
  | succ rounds ih =>
      cases text with
      | nil => exact spellsTokens_nil
      | cons c rest =>
          rw [Markup.scanFor]
          split_ifs
          · obtain ⟨hafter, htokens⟩ := (h.suffix (List.suffix_cons c rest)).readAfterLess
            exact spellsTokens_append.2 ⟨htokens, ih hafter⟩
          · rw [List.span_eq_takeWhile_dropWhile]
            refine spellsTokens_cons.2 ⟨?_, ih (h.suffix (List.dropWhile_suffix _))⟩
            apply (h.takeWhile _).decodeReferences
            intro d hd
            have heq : d = '<' := by simpa using hd
            rw [heq]
            rfl

/-- The tokens of a page have its characters and those that reading it brings in. -/
theorem Reads.scan (h : repertoire.Reads text) : repertoire.SpellsTokens (Token.scan text) :=
  h.normalizeInput.scanFor _

end Repertoire
end AtomicCss
