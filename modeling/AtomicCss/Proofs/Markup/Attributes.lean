import AtomicCss.Proofs.Markup.Elements
import AtomicCss.Proofs.Markup.Remainder
import AtomicCss.Proofs.OrderedMap

/-! # Where attributes stand

Inside a tag, the next attribute starts after white space, after a slash, or right after the quote
that ends a value. So an attribute that is read with a value stands in the page after such a
character: its name, perhaps white space, and an equals sign. -/

namespace AtomicCss

namespace Markup

/-- Whether an attribute may start right after a character: white space, a slash, or a quote, which
may end a value. -/
def partsAttributes (c : Char) : Bool := isSpace c || c = '/' || c = '"' || c = '\''

/-- A text starts with a name that is kept as `name`, and an equals sign follows. -/
def StartsAttribute (name text : Text) : Prop :=
  ∃ written rest, text = written ++ rest ∧ foldName written = name ∧
    (rest.dropWhile isSpace).head? = some '='

/-- An attribute with this name and a value may start somewhere in a page. -/
def MentionsAttribute (name page : Text) : Prop :=
  ∃ c text, c :: text <:+ page ∧ partsAttributes c ∧ StartsAttribute name text

/-- Attributes that have a value stand in a page. -/
def AreMentioned (attributes : Attributes) (page : Text) : Prop :=
  ∀ name value, (name, some value) ∈ attributes → MentionsAttribute name page

/-- A place of a page between two attributes of a tag, or after the last one: a name ends here, or
an attribute may start. -/
structure IsBetweenAttributes (page text : Text) : Prop where
  suffix : text <:+ page
  parted : (∀ c ∈ text.head?, endsName c) ∨ ∃ c, partsAttributes c ∧ c :: text <:+ page

section

variable {page text : Text}

theorem areMentioned_nil : AreMentioned [] page := by
  intro name value hmem
  exact absurd hmem List.not_mem_nil

/-! ## Gaps -/

theorem isBetweenAttributes_cons {c : Char} (h : c :: text <:+ page) (hc : partsAttributes c) :
    IsBetweenAttributes page text :=
  ⟨(List.suffix_cons c text).trans h, Or.inr ⟨c, hc, h⟩⟩

theorem IsBetweenAttributes.dropSpace (h : IsBetweenAttributes page text) :
    IsBetweenAttributes page (text.dropWhile isSpace) := by
  induction text with
  | nil => exact h
  | cons c rest ih =>
      rw [List.dropWhile_cons]
      split_ifs with hc
      · have hparts : partsAttributes c := by simp [partsAttributes, hc]
        exact ih (isBetweenAttributes_cons h.suffix hparts)
      · exact h

theorem IsBetweenAttributes.skipGap (h : IsBetweenAttributes page text) :
    IsBetweenAttributes page (skipGap text) := by
  induction text with
  | nil => exact h
  | cons c rest ih =>
      rw [Markup.skipGap]
      split_ifs with hc
      · have hparts : partsAttributes c := by
          rw [Bool.or_eq_true, Bool.and_eq_true] at hc
          rcases hc with hc | ⟨hc, -⟩
          · simp [partsAttributes, hc]
          · simp [partsAttributes, of_decide_eq_true hc]
        exact ih (isBetweenAttributes_cons h.suffix hparts)
      · exact h

/-- After a gap comes the end of a tag or a character of a name. -/
theorem endsName_of_skipGap_eq {c : Char} {rest : Text} (h : skipGap text = c :: rest)
    (hc : endsName c) : c = '>' ∨ c = '/' ∧ rest.head? = some '>' := by
  induction text with
  | nil => cases h
  | cons d others ih =>
      rw [skipGap] at h
      split_ifs at h with hd
      · exact ih h
      · obtain ⟨rfl, rfl⟩ := List.cons.inj h
        rw [endsName, Bool.or_eq_true, Bool.or_eq_true, decide_eq_true_iff,
          decide_eq_true_iff] at hc
        rw [Bool.or_eq_true, not_or, Bool.and_eq_true, decide_eq_true_iff, decide_eq_true_iff,
          not_and, not_not] at hd
        rcases hc with (hc | hc) | hc
        · exact absurd hc hd.1
        · exact Or.inr ⟨hc, hd.2 hc⟩
        · exact Or.inl hc

/-! ## Values -/

theorem isBetweenAttributes_dropWhile {p : Char → Bool} (hp : ∀ c, p c = false → endsName c)
    (h : text <:+ page) : IsBetweenAttributes page (text.dropWhile p) where
  suffix := (List.dropWhile_suffix p).trans h
  parted := by
    left
    intro c hc
    have hhead := List.head?_dropWhile_not p text
    rw [Option.mem_def.1 hc] at hhead
    exact hp c hhead

theorem isBetweenAttributes_afterQuote {quote : Char} (hquote : partsAttributes quote)
    (h : text <:+ page) : IsBetweenAttributes page ((text.span (· ≠ quote)).2.drop 1) := by
  rw [List.span_eq_takeWhile_dropWhile]
  have hrest : text.dropWhile (· ≠ quote) <:+ page := (List.dropWhile_suffix _).trans h
  rcases hcase : text.dropWhile (· ≠ quote) with _ | ⟨c, rest⟩
  · refine ⟨List.nil_suffix, Or.inl ?_⟩
    intro c hc
    cases hc
  · have hhead := List.head?_dropWhile_not (· ≠ quote) text
    rw [hcase] at hhead hrest
    have heq : c = quote := by simpa using hhead
    exact isBetweenAttributes_cons hrest (heq ▸ hquote)

theorem isBetweenAttributes_readAttributeValue (h : text <:+ page) :
    IsBetweenAttributes page (readAttributeValue text).2 := by
  rw [readAttributeValue.eq_def]
  split
  rename_i value rest heq
  split at heq
  · rw [← (Prod.mk.inj heq).2]
    exact isBetweenAttributes_afterQuote (by decide) ((List.suffix_cons _ _).trans h)
  · rw [← (Prod.mk.inj heq).2]
    exact isBetweenAttributes_afterQuote (by decide) ((List.suffix_cons _ _).trans h)
  · rw [List.span_eq_takeWhile_dropWhile] at heq
    rw [← (Prod.mk.inj heq).2]
    apply isBetweenAttributes_dropWhile _ h
    intro c hc
    rw [Bool.and_eq_false_iff, Bool.not_eq_false', decide_eq_false_iff_not, not_not] at hc
    rw [endsName, Bool.or_eq_true, Bool.or_eq_true, decide_eq_true_iff, decide_eq_true_iff]
    exact hc.elim (fun hspace => Or.inl (Or.inl hspace)) Or.inr

/-! ## Attributes -/

/-- An attribute is a name, and after it a value if an equals sign comes next. -/
theorem readAttribute_cases (first : Char) (text : Text) :
    ∃ more rest, text = more ++ rest ∧ (∀ c ∈ rest.head?, endsName c ∨ c = '=') ∧
      ((∃ value, rest.dropWhile isSpace = '=' :: value ∧
          readAttribute first text = (foldName (first :: more),
            some (readAttributeValue (value.dropWhile isSpace)).1,
            (readAttributeValue (value.dropWhile isSpace)).2)) ∨
        ((rest.dropWhile isSpace).head? ≠ some '=' ∧
          readAttribute first text = (foldName (first :: more), none, rest.dropWhile isSpace))) := by
  refine ⟨text.takeWhile fun c => !endsName c && c ≠ '=',
    text.dropWhile fun c => !endsName c && c ≠ '=', List.takeWhile_append_dropWhile.symm, ?_, ?_⟩
  · intro c hc
    have hhead := List.head?_dropWhile_not (fun c => !endsName c && c ≠ '=') text
    rw [Option.mem_def.1 hc] at hhead
    have hstop : (!endsName c && decide (c ≠ '=')) = false := hhead
    rwa [Bool.and_eq_false_iff, Bool.not_eq_false', decide_eq_false_iff_not, not_not] at hstop
  · rw [readAttribute.eq_def, List.span_eq_takeWhile_dropWhile]
    dsimp only
    split
    · rename_i value hvalue
      exact Or.inl ⟨value, hvalue, rfl⟩
    · rename_i hne
      refine Or.inr ⟨?_, rfl⟩
      intro hhead
      obtain ⟨value, hvalue⟩ := List.head?_eq_some_iff.1 hhead
      exact hne value hvalue

theorem isBetweenAttributes_readAttribute {first : Char} (h : text <:+ page) :
    IsBetweenAttributes page (readAttribute first text).2.2 := by
  obtain ⟨more, rest, rfl, hhead, ⟨value, hvalue, heq⟩ | ⟨hne, heq⟩⟩ :=
    readAttribute_cases first text
  · have hsuffix : '=' :: value <:+ page := by
      rw [← hvalue]
      exact (List.dropWhile_suffix _).trans ((List.suffix_append _ _).trans h)
    rw [heq]
    exact isBetweenAttributes_readAttributeValue
      ((List.dropWhile_suffix _).trans ((List.suffix_cons _ _).trans hsuffix))
  · rw [heq]
    apply IsBetweenAttributes.dropSpace
    refine ⟨(List.suffix_append _ _).trans h, Or.inl ?_⟩
    intro c hc
    rcases hhead c hc with hends | rfl
    · exact hends
    · obtain ⟨others, rfl⟩ := List.head?_eq_some_iff.1 hc
      exact absurd rfl hne

theorem startsAttribute_readAttribute {first : Char} {value : Text}
    (h : (readAttribute first text).2.1 = some value) :
    StartsAttribute (readAttribute first text).1 (first :: text) := by
  obtain ⟨more, rest, rfl, -, ⟨value, hvalue, heq⟩ | ⟨-, heq⟩⟩ := readAttribute_cases first text
  · refine ⟨first :: more, rest, rfl, by rw [heq], ?_⟩
    rw [hvalue]
    rfl
  · rw [heq] at h
    cases h

/-- An attribute whose name starts after a gap is mentioned in the page if it has a value. -/
theorem areMentioned_readAttribute {first : Char} {rest : Text} {attributes : Attributes}
    (hplace : IsBetweenAttributes page (first :: rest)) (hfirst : ¬endsName first)
    (h : AreMentioned attributes page) :
    AreMentioned (OrderedMap.set (readAttribute first rest).1 (readAttribute first rest).2.1
      attributes) page := by
  intro name value hmem
  rcases OrderedMap.mem_set hmem with hmem | heq
  · exact h name value hmem
  · obtain ⟨hname, hvalue⟩ := Prod.mk.inj heq
    rcases hplace.parted with hends | ⟨c, hc, hsuffix⟩
    · exact absurd (hends first rfl) hfirst
    · exact ⟨c, _, hsuffix, hc, hname ▸ startsAttribute_readAttribute hvalue.symm⟩

/-- The attributes of a tag that have a value are mentioned in the page. The induction is on the
rounds, each of which reads one attribute between two gaps. -/
theorem areMentioned_readAttributesFor {rounds : Nat} {attributes : Attributes}
    {ending : TagEnding} {after : Text}
    (h : readAttributesFor rounds attributes text = some (ending, after))
    (hplace : IsBetweenAttributes page text) (hattributes : AreMentioned attributes page) :
    after <:+ page ∧ AreMentioned ending.attributes page := by
  induction rounds generalizing attributes text with
  | zero => cases h
  | succ rounds ih =>
      have hgap := hplace.skipGap
      rw [readAttributesFor.eq_def] at h
      dsimp only at h
      split at h
      · cases h
      · rename_i rest hskip
        cases h
        rw [hskip] at hgap
        exact ⟨(List.suffix_cons _ _).trans hgap.suffix, hattributes⟩
      · rename_i rest hskip
        cases h
        rw [hskip] at hgap
        exact ⟨(List.suffix_cons _ _).trans ((List.suffix_cons _ _).trans hgap.suffix),
          hattributes⟩
      · rename_i first rest hclose hslash hskip
        rw [hskip] at hgap
        -- the ends of a tag were the cases before, so a name starts here
        have hfirst : ¬endsName first := by
          intro hends
          rcases endsName_of_skipGap_eq hskip hends with rfl | ⟨rfl, hhead⟩
          · exact hclose rfl
          · obtain ⟨others, rfl⟩ := List.head?_eq_some_iff.1 hhead
            exact hslash others rfl rfl
        apply ih h
        · exact isBetweenAttributes_readAttribute ((List.suffix_cons _ _).trans hgap.suffix)
        · split_ifs
          · exact hattributes
          · exact areMentioned_readAttribute hgap hfirst hattributes

/-! ## Tags -/

/-- The start tags among some tokens are read with attributes of a page. -/
def OpenMentioned (tokens : List Token) (page : Text) : Prop :=
  ∀ token ∈ tokens, ∀ element ∈ token.opened, AreMentioned element.2 page

theorem openMentioned_of_opened_eq_nil {tokens : List Token}
    (h : ∀ token ∈ tokens, token.opened = []) : OpenMentioned tokens page := by
  intro token htoken element helement
  rw [h token htoken] at helement
  exact absurd helement List.not_mem_nil

theorem isBetweenAttributes_readName (h : text <:+ page) :
    IsBetweenAttributes page (readName text).2 := by
  rw [readName, List.span_eq_takeWhile_dropWhile]
  apply isBetweenAttributes_dropWhile _ h
  intro c hc
  rwa [Bool.not_eq_false'] at hc

theorem areMentioned_readAttributes (h : text <:+ page) {ending : TagEnding} {after : Text}
    (hread : readAttributes (readName text).2 = some (ending, after)) :
    after <:+ page ∧ AreMentioned ending.attributes page :=
  areMentioned_readAttributesFor hread (isBetweenAttributes_readName h) areMentioned_nil

theorem opened_readDeclaration (text : Text) : (readDeclaration text).1.opened = [] := by
  rw [readDeclaration.eq_def]
  split
  · rfl
  · dsimp only
    split_ifs <;> rfl

theorem opened_of_mem_contentTokens {tag content : Text} {token : Token}
    (h : token ∈ contentTokens tag content) : token.opened = [] := by
  rw [contentTokens] at h
  split_ifs at h
  · exact absurd h List.not_mem_nil
  · rw [List.mem_singleton.1 h]
    rfl
  · rw [List.mem_singleton.1 h]
    rfl

/-- What a `<` starts is read from the page, and so is what comes after it. -/
theorem openMentioned_readAfterLess (h : text <:+ page) :
    (readAfterLess text).2 <:+ page ∧ OpenMentioned (readAfterLess text).1 page := by
  have hnone : OpenMentioned [] page := openMentioned_of_opened_eq_nil (by simp)
  have hone {token : Token} (htoken : token.opened = []) : OpenMentioned [token] page :=
    openMentioned_of_opened_eq_nil (by simpa using htoken)
  rw [readAfterLess.eq_def]
  simp only
  -- a declaration, an instruction, `</>`, an end tag, a start tag, and a `<` that ends the page:
  -- only a start tag is read with attributes that are kept
  split
  · rename_i rest
    exact ⟨(readDeclaration_suffix rest).trans ((List.suffix_cons _ rest).trans h),
      hone (opened_readDeclaration rest)⟩
  · exact ⟨(readBogusComment_suffix _).trans h, hone rfl⟩
  · rename_i rest
    exact ⟨(List.suffix_cons _ rest).trans ((List.suffix_cons _ _).trans h), hnone⟩
  · rename_i c rest _
    have hname := (List.suffix_cons _ _).trans h
    split_ifs
    · split
      · exact ⟨List.nil_suffix, hnone⟩
      · rename_i hread
        exact ⟨(areMentioned_readAttributes hname hread).1, hone rfl⟩
    · exact ⟨(readBogusComment_suffix _).trans hname, hone rfl⟩
  · rename_i c rest _ _ _ _
    split_ifs
    · split
      · exact ⟨List.nil_suffix, hone rfl⟩
      · rename_i attributes closed after hread
        obtain ⟨hafter, hattributes⟩ := areMentioned_readAttributes h hread
        refine ⟨?_, ?_⟩
        · dsimp only
          split
          · exact hafter
          · exact (splitContent_suffix _ _).trans hafter
        · intro token htoken
          rcases List.mem_cons.1 htoken with rfl | htoken
          · intro element helement
            rw [List.mem_singleton.1 helement]
            exact hattributes
          · exact openMentioned_of_opened_eq_nil (fun _ => opened_of_mem_contentTokens)
              token htoken
    · exact ⟨h, hone rfl⟩
  · exact ⟨h, hone rfl⟩

/-- The start tags of a page are read with attributes that it mentions. -/
theorem openMentioned_scanFor {rounds : Nat} (h : text <:+ page) :
    OpenMentioned (scanFor rounds text) page := by
  induction rounds generalizing text with
  | zero => exact openMentioned_of_opened_eq_nil (by simp [scanFor])
  | succ rounds ih =>
      cases text with
      | nil => exact openMentioned_of_opened_eq_nil (by simp [scanFor])
      | cons c rest =>
          rw [scanFor]
          split_ifs
          · obtain ⟨hafter, htokens⟩ :=
              openMentioned_readAfterLess ((List.suffix_cons c rest).trans h)
            intro token htoken
            rcases List.mem_append.1 htoken with htoken | htoken
            · exact htokens token htoken
            · exact ih hafter token htoken
          · intro token htoken
            rcases List.mem_cons.1 htoken with rfl | htoken
            · intro element helement
              exact absurd helement List.not_mem_nil
            · have hafter : ((c :: rest).span (· ≠ '<')).2 <:+ page :=
                (span_snd_suffix _ _).trans h
              exact ih hafter token htoken

end

theorem openMentioned_scan (page : Text) :
    OpenMentioned (Token.scan page) (normalizeInput page) :=
  openMentioned_scanFor (List.suffix_refl _)

/-- The attributes of a document are mentioned in its page if they have a value. -/
theorem Document.areMentioned_of_read {page : Text} {document : Document}
    (h : Document.read page = .ok document) {element : Text × Attributes}
    (helement : element ∈ document.root.elements) :
    AreMentioned element.2 (normalizeInput page) := by
  rcases mem_elements_of_read h helement with hbare | ⟨token, htoken, hmem⟩
  · rw [hbare]
    exact areMentioned_nil
  · exact openMentioned_scan page token htoken element hmem

/-- The attributes of a fragment are mentioned in its document if they have a value. -/
theorem Fragment.areMentioned_of_read {page : Text} {container : Node}
    (h : Fragment.read page = .ok container) {element : Text × Attributes}
    (helement : element ∈ container.elements) :
    AreMentioned element.2 (normalizeInput (wrapped page)) := by
  rcases mem_elements_of_read h helement with hbare | ⟨token, htoken, hmem⟩
  · rw [hbare]
    exact areMentioned_nil
  · exact openMentioned_scan (wrapped page) token htoken element hmem

end Markup
end AtomicCss
