import AtomicCss.Proofs.Outcome
import AtomicCss.Proofs.Style.Lenient
import AtomicCss.Proofs.Style.Segments

/-! # The grammar of styles

A style is a sequence of phrases and a last segment. A phrase is a segment that a semicolon ends,
or a block: a head, an opening brace, segments that semicolons end, a last segment and a closing
brace. A derivation keeps all of these segments, so that its text can be written and its items
read off without the reader. The reader accepts the texts that have a derivation, each of which
has only one. -/

namespace AtomicCss.Style

/-- A text without delimiters. -/
abbrev Segment := { text : Text // IsPlain text }

/-- A segment with its semicolon, or a block. -/
inductive Phrase where
  | plain (segment : Segment)
  | block (head : Segment) (body : List Segment) (final : Segment)
  deriving DecidableEq

/-- How a text is built by the grammar. -/
structure Derivation where
  phrases : List Phrase
  final : Segment
  deriving DecidableEq

/-- The text of segments that semicolons end. -/
def endedText (segments : List Segment) : Text := segments.flatMap fun s => s.val ++ [';']

/-- The text of a phrase. -/
def Phrase.text : Phrase → Text
  | plain segment => endedText [segment]
  | block head body final => head.val ++ ['{'] ++ endedText body ++ final.val ++ ['}']

/-- The text that a derivation derives. -/
def Derivation.text (derivation : Derivation) : Text :=
  derivation.phrases.flatMap Phrase.text ++ derivation.final.val

/-- The items of a phrase: the declarations of its segment, or one rule with those of its
block. -/
def Phrase.items : Phrase → List Item
  | plain segment => (declarationsOf segment.val).map .declaration
  | block head body final =>
      [.rule ⟨Text.trim head.val, (body ++ [final]).flatMap fun s => declarationsOf s.val⟩]

/-- The items of a derivation, in the order of its phrases. -/
def Derivation.items (derivation : Derivation) : List Item :=
  derivation.phrases.flatMap Phrase.items ++
    (declarationsOf derivation.final.val).map .declaration

/-- The pieces of a block after its opening brace. -/
def blockPieces (body : List Segment) (final : Segment) : List Piece :=
  body.map (fun s => ⟨s.val, .semicolon⟩) ++ [⟨final.val, .closing⟩]

/-- The pieces that the text of a phrase is cut into. -/
def Phrase.pieces : Phrase → List Piece
  | plain segment => [⟨segment.val, .semicolon⟩]
  | block head body final => ⟨head.val, .opening⟩ :: blockPieces body final

theorem joinPieces_blockPieces (body : List Segment) (final : Segment) :
    joinPieces (blockPieces body final) [] = endedText body ++ final.val ++ ['}'] := by
  induction body with
  | nil => simp [blockPieces, endedText, Delimiter.toChar]
  | cons segment body ih =>
      simp only [blockPieces, List.map_cons, List.cons_append, joinPieces_cons] at ih ⊢
      rw [ih]
      simp [endedText, Delimiter.toChar]

theorem joinPieces_phrasePieces (phrase : Phrase) :
    joinPieces phrase.pieces [] = phrase.text := by
  cases phrase with
  | plain segment => simp [Phrase.pieces, Phrase.text, endedText, Delimiter.toChar]
  | block head body final =>
      rw [Phrase.pieces, joinPieces_cons, joinPieces_blockPieces]
      simp [Phrase.text, Delimiter.toChar]

theorem joinPieces_derivation (derivation : Derivation) :
    joinPieces (derivation.phrases.flatMap Phrase.pieces) derivation.final.val =
      derivation.text := by
  obtain ⟨phrases, final⟩ := derivation
  induction phrases with
  | nil => rfl
  | cons phrase phrases ih =>
      simp only [Derivation.text, List.flatMap_cons, List.append_assoc] at ih ⊢
      rw [joinPieces_append, joinPieces_phrasePieces, ih]

theorem isPlain_of_mem_phrasePieces {phrase : Phrase} {piece : Piece}
    (h : piece ∈ phrase.pieces) : IsPlain piece.segment := by
  cases phrase with
  | plain segment =>
      rw [List.mem_singleton.1 h]
      exact segment.property
  | block head body final =>
      simp only [Phrase.pieces, blockPieces, List.mem_cons, List.mem_append, List.mem_map,
        List.not_mem_nil, or_false] at h
      rcases h with rfl | ⟨segment, -, rfl⟩ | rfl
      · exact head.property
      · exact segment.property
      · exact final.property

/-- The text of a derivation is cut into the pieces of its phrases. -/
theorem pieces_text (derivation : Derivation) :
    pieces derivation.text =
      (derivation.phrases.flatMap Phrase.pieces, derivation.final.val) := by
  rw [← joinPieces_derivation]
  apply pieces_joinPieces _ derivation.final.property
  intro piece hpiece
  obtain ⟨phrase, -, hmem⟩ := List.mem_flatMap.1 hpiece
  exact isPlain_of_mem_phrasePieces hmem

/-! ## Unambiguity -/

/-- The first closing brace ends a block. -/
theorem blockPieces_append_inj {body body' : List Segment} {final final' : Segment}
    {rest rest' : List Piece}
    (h : blockPieces body final ++ rest = blockPieces body' final' ++ rest') :
    body = body' ∧ final = final' ∧ rest = rest' := by
  induction body generalizing body' with
  | nil =>
      cases body' with
      | nil => simpa [blockPieces, Subtype.ext_iff] using h
      | cons segment body' => simp [blockPieces] at h
  | cons segment body ih =>
      cases body' with
      | nil => simp [blockPieces] at h
      | cons segment' body' =>
          simp only [blockPieces, List.map_cons, List.cons_append, List.cons.injEq,
            Piece.mk.injEq, and_true] at h
          obtain ⟨hbody, hfinal, hrest⟩ := ih h.2
          exact ⟨by rw [Subtype.ext h.1, hbody], hfinal, hrest⟩

theorem flatMap_pieces_injective {phrases phrases' : List Phrase}
    (h : phrases.flatMap Phrase.pieces = phrases'.flatMap Phrase.pieces) : phrases = phrases' := by
  induction phrases generalizing phrases' with
  | nil =>
      rcases phrases' with _ | ⟨_ | _, _⟩
      · rfl
      all_goals simp [Phrase.pieces] at h
  | cons phrase phrases ih =>
      rcases phrases' with _ | ⟨phrase', phrases'⟩
      · cases phrase <;> simp [Phrase.pieces] at h
      · cases phrase with
        | plain segment =>
            cases phrase' with
            | plain segment' =>
                simp only [List.flatMap_cons, Phrase.pieces, List.singleton_append,
                  List.cons.injEq, Piece.mk.injEq, and_true] at h
                rw [Subtype.ext h.1, ih h.2]
            | block head' body' final' => simp [Phrase.pieces] at h
        | block head body final =>
            cases phrase' with
            | plain segment' => simp [Phrase.pieces] at h
            | block head' body' final' =>
                simp only [List.flatMap_cons, Phrase.pieces, List.cons_append,
                  List.cons.injEq, Piece.mk.injEq, and_true] at h
                obtain ⟨hbody, hfinal, hrest⟩ := blockPieces_append_inj h.2
                rw [Subtype.ext h.1, hbody, hfinal, ih hrest]

/-- A text has at most one derivation. -/
theorem text_injective {first second : Derivation} (h : first.text = second.text) :
    first = second := by
  have hpieces := congrArg pieces h
  rw [pieces_text, pieces_text, Prod.mk.injEq] at hpieces
  obtain ⟨phrases, final⟩ := first
  obtain ⟨phrases', final'⟩ := second
  rw [Derivation.mk.injEq]
  exact ⟨flatMap_pieces_injective hpieces.1, Subtype.ext hpieces.2⟩

/-! ## Completeness -/

/-- A block is read as its rule, and reading goes on outside. -/
theorem exists_outcome_readPieces_block (body : List Segment) (final : Segment) (start : Nat)
    (rule : OpenRule) (rest : List Piece) (last : Text) :
    ∃ next,
      (readPieces false start (some rule) (blockPieces body final ++ rest) last).outcome =
        (readPieces false next none rest last).outcome.map fun items =>
          .rule ⟨rule.selector, rule.declarations ++
            (body ++ [final]).flatMap fun s => declarationsOf s.val⟩ :: items := by
  induction body generalizing start rule with
  | nil =>
      refine ⟨start + (final.val.length + 1), ?_⟩
      simp [blockPieces, outcome_readPieces_closing_inside]
  | cons segment body ih =>
      obtain ⟨next, hnext⟩ := ih (start + (segment.val.length + 1))
        ⟨rule.selector, rule.declarations ++ declarationsOf segment.val⟩
      refine ⟨next, ?_⟩
      rw [blockPieces, List.map_cons, List.cons_append, List.cons_append,
        outcome_readPieces_semicolon_inside]
      simpa [blockPieces] using hnext

/-- The pieces of phrases are read as their items. -/
theorem outcome_readPieces_phrases (phrases : List Phrase) (start : Nat) (last : Text) :
    (readPieces false start none (phrases.flatMap Phrase.pieces) last).outcome =
      .ok (phrases.flatMap Phrase.items ++ (declarationsOf last).map .declaration) := by
  induction phrases generalizing start with
  | nil => exact outcome_readPieces_nil start last
  | cons phrase phrases ih =>
      cases phrase with
      | plain segment =>
          simp [Phrase.pieces, Phrase.items, outcome_readPieces_semicolon, ih, Except.map]
      | block head body final =>
          obtain ⟨next, hnext⟩ := exists_outcome_readPieces_block body final
            (start + (head.val.length + 1)) ⟨Text.trim head.val, []⟩
            (phrases.flatMap Phrase.pieces) last
          rw [List.flatMap_cons, Phrase.pieces, List.cons_append, outcome_readPieces_opening,
            hnext, ih]
          simp [Phrase.items, Except.map]

/-- What is derived is read as the items of its derivation. -/
theorem outcome_parse_text (derivation : Derivation) :
    (parse false derivation.text).outcome = .ok derivation.items := by
  rw [outcome_parse, pieces_text, outcome_readPieces_phrases]
  rfl

/-! ## Soundness -/

/-- The pieces that can be read to the end: phrases, after the rest of the block that is
open. -/
def IsReadable : Option OpenRule → List Piece → Prop
  | none, ended => ∃ phrases : List Phrase, ended = phrases.flatMap Phrase.pieces
  | some _, ended =>
      ∃ (body : List Segment) (final : Segment) (phrases : List Phrase),
        ended = blockPieces body final ++ phrases.flatMap Phrase.pieces

/-- A reader that does not fail has read phrases. The induction is on the pieces; inside a rule
it collects the block up to its closing brace. -/
theorem isReadable_of_outcome {ended : List Piece} {last : Text} {start : Nat}
    {inside : Option OpenRule} {items : List Item}
    (hplain : ∀ piece ∈ ended, IsPlain piece.segment)
    (h : (readPieces false start inside ended last).outcome = .ok items) :
    IsReadable inside ended := by
  induction ended generalizing start inside items with
  | nil =>
      cases inside with
      | none => exact ⟨[], rfl⟩
      | some rule => rw [outcome_readPieces_nil_inside] at h; cases h
  | cons piece rest ih =>
      obtain ⟨segment, delimiter⟩ := piece
      have hsegment : IsPlain segment := hplain _ List.mem_cons_self
      have hrest : ∀ other ∈ rest, IsPlain other.segment := fun other hother =>
        hplain other (List.mem_cons_of_mem _ hother)
      cases inside with
      | none =>
          cases delimiter with
          | semicolon =>
              rw [outcome_readPieces_semicolon] at h
              obtain ⟨others, hothers, -⟩ := Outcome.map_eq_ok_iff.1 h
              obtain ⟨phrases, rfl⟩ := ih hrest hothers
              exact ⟨.plain ⟨segment, hsegment⟩ :: phrases, rfl⟩
          | opening =>
              rw [outcome_readPieces_opening] at h
              obtain ⟨body, final, phrases, rfl⟩ := ih hrest h
              exact ⟨.block ⟨segment, hsegment⟩ body final :: phrases, rfl⟩
          | closing => rw [outcome_readPieces_closing] at h; cases h
      | some rule =>
          cases delimiter with
          | semicolon =>
              rw [outcome_readPieces_semicolon_inside] at h
              obtain ⟨body, final, phrases, rfl⟩ := ih hrest h
              exact ⟨⟨segment, hsegment⟩ :: body, final, phrases, rfl⟩
          | opening => rw [outcome_readPieces_opening_inside] at h; cases h
          | closing =>
              rw [outcome_readPieces_closing_inside] at h
              obtain ⟨others, hothers, -⟩ := Outcome.map_eq_ok_iff.1 h
              obtain ⟨phrases, rfl⟩ := ih hrest hothers
              exact ⟨[], ⟨segment, hsegment⟩, phrases, rfl⟩

/-- A text that can be read has a derivation. -/
theorem exists_derivation {text : Text} {items : List Item}
    (h : (parse false text).outcome = .ok items) : ∃ derivation : Derivation,
      derivation.text = text := by
  obtain ⟨hended, hlast⟩ := isPlain_pieces text
  rw [outcome_parse] at h
  obtain ⟨phrases, hphrases⟩ :=
    isReadable_of_outcome hended (Outcome.mapError_eq_ok_iff.1 h)
  refine ⟨⟨phrases, (pieces text).2, hlast⟩, ?_⟩
  rw [← joinPieces_derivation, ← hphrases, joinPieces_pieces]

/-- Reading accepts exactly what the grammar derives, in its only derivation, and gives the
items of that derivation. -/
theorem lenient_parse_iff_derivation (text : Text) :
    (∀ first second : Derivation, first.text = text → second.text = text → first = second) ∧
      ∀ items, (parse false text).outcome = .ok items ↔
        ∃ derivation : Derivation, derivation.text = text ∧ derivation.items = items := by
  refine ⟨fun first second hfirst hsecond => text_injective (hfirst.trans hsecond.symm), ?_⟩
  intro items
  constructor
  · intro h
    obtain ⟨derivation, rfl⟩ := exists_derivation h
    rw [outcome_parse_text] at h
    exact ⟨derivation, rfl, Except.ok.inj h⟩
  · rintro ⟨derivation, rfl, rfl⟩
    exact outcome_parse_text derivation

/-- A rule and the declarations around it have one derivation, which keeps their order. -/
theorem exists_unique_derivation_around_rule :
    ∃ derivation : Derivation,
      (derivation.text = "a:b:c;:d\x7b;e\x7d f".toList ∧
        derivation.items =
          [.declaration ⟨['a'], "b:c".toList⟩, .rule ⟨":d".toList, [⟨['e'], []⟩]⟩,
            .declaration ⟨['f'], []⟩]) ∧
      ∀ other : Derivation, other.text = "a:b:c;:d\x7b;e\x7d f".toList → other = derivation := by
  obtain ⟨hunique, hitems⟩ := lenient_parse_iff_derivation "a:b:c;:d\x7b;e\x7d f".toList
  obtain ⟨derivation, htext, hread⟩ := (hitems _).1 rfl
  exact ⟨derivation, ⟨htext, hread⟩, fun other hother => hunique other derivation hother htext⟩

end AtomicCss.Style
