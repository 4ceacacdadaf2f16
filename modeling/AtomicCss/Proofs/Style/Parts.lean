import AtomicCss.Proofs.Style.Grammar
import AtomicCss.Proofs.Style.Malformed
import AtomicCss.Proofs.Text.Trim

/-! # The parts of a style

What is read of a style comes from segments of its text, which have no delimiters. So the names,
values and selectors are parts of the text: each of them stands in it without a gap. -/

namespace AtomicCss.Style

/-! ## Segments -/

/-- A declaration is what a segment of a text is read as. -/
def Declaration.IsRead (text : Text) (declaration : Declaration) : Prop :=
  ∃ segment : Segment, segment.val <:+: text ∧ declaration ∈ declarationsOf segment.val

/-- An item is what segments of a text are read as. -/
def Item.IsRead (text : Text) : Item → Prop
  | declaration d => d.IsRead text
  | rule r => (∃ head : Segment, head.val <:+: text ∧ r.selector = Text.trim head.val) ∧
      ∀ d ∈ r.declarations, d.IsRead text

/-- The segments of a phrase. -/
def Phrase.segments : Phrase → List Segment
  | plain segment => [segment]
  | block head body final => head :: (body ++ [final])

variable {text : Text}

theorem infix_flatMap_of_mem {α : Type} {f : α → Text} {item : α} {items : List α}
    (h : item ∈ items) : f item <:+: items.flatMap f := by
  rw [List.flatMap_def]
  exact List.infix_of_mem_flatten (List.mem_map_of_mem h)

theorem infix_of_mem_segments {phrase : Phrase} {segment : Segment}
    (h : segment ∈ phrase.segments) : segment.val <:+: phrase.text := by
  cases phrase with
  | plain segment =>
      rw [List.mem_singleton.1 h]
      exact ⟨[], [';'], by simp [Phrase.text, endedText]⟩
  | block head body final =>
      rw [Phrase.segments, List.mem_cons, List.mem_append, List.mem_singleton] at h
      rw [Phrase.text]
      rcases h with rfl | hsegment | rfl
      · exact ⟨[], ['{'] ++ endedText body ++ final.val ++ ['}'], by simp⟩
      · have hended : segment.val <:+: endedText body :=
          (List.prefix_append _ [';']).isInfix.trans
            (infix_flatMap_of_mem (f := fun s : Segment => s.val ++ [';']) hsegment)
        exact hended.trans ⟨head.val ++ ['{'], final.val ++ ['}'], by simp⟩
      · exact ⟨head.val ++ ['{'] ++ endedText body, ['}'], rfl⟩

theorem isRead_of_mem_phraseItems {phrase : Phrase} (hphrase : phrase.text <:+: text) {item : Item}
    (h : item ∈ phrase.items) : item.IsRead text := by
  have hsegments : ∀ segment ∈ phrase.segments, segment.val <:+: text := fun segment hsegment =>
    (infix_of_mem_segments hsegment).trans hphrase
  cases phrase with
  | plain segment =>
      obtain ⟨declaration, hmem, rfl⟩ := List.mem_map.1 h
      exact ⟨segment, hsegments segment List.mem_cons_self, hmem⟩
  | block head body final =>
      rw [List.mem_singleton.1 h]
      obtain ⟨hhead, hbody⟩ := List.forall_mem_cons.1 hsegments
      refine ⟨⟨head, hhead, rfl⟩, ?_⟩
      intro declaration hmem
      obtain ⟨segment, hsegment, hmem⟩ := List.mem_flatMap.1 hmem
      exact ⟨segment, hbody segment hsegment, hmem⟩

/-- What is read of a style is read of segments of its text. -/
theorem isRead_of_parse {strict : Bool} {items : List Item}
    (hparse : (parse strict text).outcome = .ok items) : ∀ item ∈ items, item.IsRead text := by
  have hlenient := lenient_of_parse hparse
  obtain ⟨derivation, rfl⟩ := exists_derivation hlenient
  rw [outcome_parse_text] at hlenient
  rw [← Except.ok.inj hlenient]
  intro item hitem
  rcases List.mem_append.1 hitem with hitem | hitem
  · obtain ⟨phrase, hphrase, hitem⟩ := List.mem_flatMap.1 hitem
    refine isRead_of_mem_phraseItems ?_ hitem
    exact (infix_flatMap_of_mem hphrase).trans (List.prefix_append _ _).isInfix
  · obtain ⟨declaration, hmem, rfl⟩ := List.mem_map.1 hitem
    exact ⟨derivation.final, (List.suffix_append _ _).isInfix, hmem⟩

/-! ## Parts -/

/-- The name and the value of a declaration stand in a text. -/
structure Declaration.IsWithin (text : Text) (declaration : Declaration) : Prop where
  name : declaration.name <:+: text
  value : declaration.value <:+: text

/-- The texts of an item stand in a text. -/
def Item.IsWithin (text : Text) : Item → Prop
  | declaration d => d.IsWithin text
  | rule r => r.selector <:+: text ∧ ∀ d ∈ r.declarations, d.IsWithin text

theorem eq_of_mem_declarationsOf {segment : Text} {declaration : Declaration}
    (h : declaration ∈ declarationsOf segment) : declaration = declarationOf segment := by
  rw [declarationsOf] at h
  split_ifs at h
  · exact absurd h List.not_mem_nil
  · exact List.mem_singleton.1 h

/-- The name comes before the first colon of a segment and the value after it. -/
theorem isWithin_declarationOf (segment : Text) :
    (declarationOf segment).IsWithin segment where
  name := (Text.trim_isInfix _).trans (List.takeWhile_prefix _).isInfix
  value := (Text.trim_isInfix _).trans
    ((List.tail_suffix _).trans (List.dropWhile_suffix _)).isInfix

theorem Declaration.IsRead.isWithin {declaration : Declaration} (h : declaration.IsRead text) :
    declaration.IsWithin text := by
  obtain ⟨segment, hsegment, hmem⟩ := h
  rw [eq_of_mem_declarationsOf hmem]
  have hwithin := isWithin_declarationOf segment.val
  exact ⟨hwithin.name.trans hsegment, hwithin.value.trans hsegment⟩

/-- What is read of a style stands in its text. -/
theorem isWithin_of_parse {strict : Bool} {items : List Item}
    (hparse : (parse strict text).outcome = .ok items) : ∀ item ∈ items, item.IsWithin text := by
  intro item hitem
  have hread := isRead_of_parse hparse item hitem
  cases item with
  | declaration declaration => exact Declaration.IsRead.isWithin hread
  | rule rule =>
      obtain ⟨⟨head, hhead, hselector⟩, hdeclarations⟩ := hread
      refine ⟨?_, fun d hd => (hdeclarations d hd).isWithin⟩
      rw [hselector]
      exact (Text.trim_isInfix _).trans hhead

/-! ## The rule that is left open -/

/-- An error about an unclosed rule is found after a segment that is read as a declaration. -/
theorem exists_of_andThen_unclosedRule {α : Type} {strict : Bool} {start position : Nat}
    {segment selector : Text} {next : List Declaration → Logged (Defect × Nat) α}
    (h : ((readDeclaration strict start segment).andThen next).outcome =
      .error (.unclosedRule selector, position)) :
    ∃ here, (next here).outcome = .error (.unclosedRule selector, position) := by
  rw [Logged.outcome_andThen, readDeclaration] at h
  split_ifs at h
  · exact ⟨_, h⟩
  · exact ⟨_, h⟩
  · cases h
  · exact ⟨_, h⟩

/-- The rule that an error finds unclosed was open before the pieces, or one of them opens it. -/
theorem selector_of_unclosedRule {strict : Bool} {start position : Nat} {inside : Option OpenRule}
    {ended : List Piece} {last selector : Text}
    (h : (readPieces strict start inside ended last).outcome =
      .error (.unclosedRule selector, position)) :
    (∃ rule ∈ inside, rule.selector = selector) ∨
      ∃ piece ∈ ended, piece.segment.trim = selector := by
  induction ended generalizing start inside with
  | nil =>
      cases inside with
      | none =>
          rw [readPieces, Logged.outcome_map, Outcome.map_eq_error_iff, readDeclaration] at h
          split_ifs at h <;> cases h
      | some rule =>
          cases h
          exact Or.inl ⟨rule, rfl, rfl⟩
  | cons piece rest ih =>
      obtain ⟨segment, delimiter⟩ := piece
      have hlater {start : Nat} {open? : Option OpenRule}
          (hrest : (readPieces strict start open? rest last).outcome =
            .error (.unclosedRule selector, position))
          (hopen : ∀ rule ∈ open?, (∃ outer ∈ inside, outer.selector = rule.selector) ∨
            segment.trim = rule.selector) :
          (∃ rule ∈ inside, rule.selector = selector) ∨
            ∃ piece ∈ ⟨segment, delimiter⟩ :: rest, piece.segment.trim = selector := by
        rcases ih hrest with ⟨rule, hrule, rfl⟩ | ⟨piece, hpiece, hsegment⟩
        · exact (hopen rule hrule).imp_right fun hhere => ⟨_, List.mem_cons_self, hhere⟩
        · exact Or.inr ⟨piece, List.mem_cons_of_mem _ hpiece, hsegment⟩
      cases inside with
      | none =>
          cases delimiter with
          | semicolon =>
              obtain ⟨here, hrest⟩ := exists_of_andThen_unclosedRule h
              refine hlater (Outcome.map_eq_error_iff.1 hrest) ?_
              rintro _ ⟨⟩
          | opening =>
              refine hlater h ?_
              rintro _ ⟨⟩
              exact Or.inr rfl
          | closing => cases h
      | some rule =>
          cases delimiter with
          | semicolon =>
              obtain ⟨here, hrest⟩ := exists_of_andThen_unclosedRule h
              refine hlater hrest ?_
              rintro _ ⟨⟩
              exact Or.inl ⟨rule, rfl, rfl⟩
          | opening => cases h
          | closing =>
              obtain ⟨here, hrest⟩ := exists_of_andThen_unclosedRule h
              refine hlater (Outcome.map_eq_error_iff.1 hrest) ?_
              rintro _ ⟨⟩

/-- The selector that an error names stands in the text. -/
theorem selector_infix_of_parse {strict : Bool} {text selector : Text} {error : StyleError}
    (h : (parse strict text).outcome = .error error)
    (hdefect : error.defect = .unclosedRule selector) : selector <:+: text := by
  obtain ⟨⟨defect, position⟩, hread, rfl⟩ := Outcome.mapError_eq_error_iff.1 h
  cases hdefect
  rcases selector_of_unclosedRule hread with ⟨rule, hrule, -⟩ | ⟨piece, hpiece, rfl⟩
  · cases hrule
  · obtain ⟨front, back, hended⟩ := List.append_of_mem hpiece
    apply (Text.trim_isInfix piece.segment).trans
    have htext := joinPieces_pieces text
    rw [hended, joinPieces_append, joinPieces_cons] at htext
    exact ⟨joinPieces front [], piece.delimiter.toChar :: joinPieces back (pieces text).2,
      by simpa using htext⟩

end AtomicCss.Style
