import AtomicCss.Proofs.Style.Braces
import AtomicCss.Proofs.Style.Malformed
import AtomicCss.Proofs.Style.Steps

/-! # The first notice of a style

A strict reader does what a lenient one does up to its first notice. There it fails, at the start of
the segment that the notice is about, whatever a lenient reader finds later in the text. -/

namespace AtomicCss.Style

/-! ## One piece -/

/-- A segment is read alike by a strict and a lenient reader, or the lenient one gives a notice where
the strict one fails. -/
theorem readDeclaration_cases (start : Nat) (segment : Text) :
    (∀ strict, readDeclaration strict start segment = .ok (declarationsOf segment)) ∨
      readDeclaration true start segment = .fail (.malformedDeclaration segment.trim, start) ∧
        readDeclaration false start segment =
          ⟨[.malformedDeclaration segment.trim], .ok (declarationsOf segment)⟩ := by
  have hlenient := readDeclaration_lenient start segment
  rw [noticesOf] at hlenient
  split_ifs at hlenient with hsegment
  · left
    intro strict
    cases strict with
    | false => exact hlenient
    | true =>
        have hrefines := refines_readDeclaration start segment
        rw [Logged.Refines, hlenient, if_pos rfl] at hrefines
        exact hrefines
  · right
    obtain ⟨hblank, hcomplete⟩ := not_or.1 hsegment
    refine ⟨?_, hlenient⟩
    rw [Text.trim_eq_nil_iff] at hblank
    simp only [readDeclaration, ofSegment_eq_declarationOf, hblank, hcomplete, if_true,
      Bool.false_eq_true, if_false]

/-- What readers do with a piece. A strict and a lenient one both fail there, or both leave the same,
or the strict one fails where the lenient one gives a notice. -/
inductive ReadsPiece (start : Nat) (inside : Option OpenRule) (piece : Piece) : Prop
  | stops (fault : Defect × Nat) (hread : ∀ strict, readPiece strict start inside piece = .fail fault)
  | passes (read : Progress) (hread : ∀ strict, readPiece strict start inside piece = .ok read)
  | malformed (read : Progress)
      (hstrict : readPiece true start inside piece =
        .fail (.malformedDeclaration piece.segment.trim, start))
      (hlenient : readPiece false start inside piece =
        ⟨[.malformedDeclaration piece.segment.trim], .ok read⟩)

/-- A piece whose segment is read as a declaration. -/
theorem ReadsPiece.of_declaration {start : Nat} {inside : Option OpenRule} {piece : Piece}
    (leave : List Declaration → Progress)
    (hread : ∀ strict, readPiece strict start inside piece =
      (readDeclaration strict start piece.segment).map leave) :
    ReadsPiece start inside piece := by
  rcases readDeclaration_cases start piece.segment with hfine | ⟨hstrict, hlenient⟩
  · refine .passes (leave (declarationsOf piece.segment)) ?_
    intro strict
    rw [hread, hfine]
    rfl
  · refine .malformed (leave (declarationsOf piece.segment)) ?_ ?_
    · rw [hread, hstrict]
      rfl
    · rw [hread, hlenient]
      rfl

theorem readsPiece (start : Nat) (inside : Option OpenRule) (piece : Piece) :
    ReadsPiece start inside piece := by
  obtain ⟨segment, delimiter⟩ := piece
  cases inside with
  | none =>
      cases delimiter with
      | semicolon => exact .of_declaration _ fun _ => rfl
      | opening => exact .passes _ fun _ => rfl
      | closing => exact .stops _ fun _ => rfl
  | some rule =>
      cases delimiter with
      | semicolon => exact .of_declaration _ fun _ => rfl
      | opening => exact .stops _ fun _ => rfl
      | closing => exact .of_declaration _ fun _ => rfl

/-! ## All pieces -/

/-- A strict reader gives no notice. -/
theorem notices_strict_readPieces (start : Nat) (inside : Option OpenRule) (ended : List Piece)
    (last : Text) : (readPieces true start inside ended last).notices = [] := by
  induction ended generalizing start inside with
  | nil =>
      cases inside with
      | none =>
          rcases readDeclaration_cases start last with hfine | ⟨hstrict, -⟩
          · rw [readPieces, hfine]
            rfl
          · rw [readPieces, hstrict]
            rfl
      | some rule => rfl
  | cons piece rest ih =>
      rw [readPieces_cons]
      cases readsPiece start inside piece with
      | stops fault hread =>
          rw [hread]
          rfl
      | passes read hread =>
          rw [hread]
          exact ih _ _
      | malformed read hstrict _ =>
          rw [hstrict]
          rfl

/-- A segment that stands after some pieces. The last two arguments are the pieces and the last
segment of the text up to what ends it. -/
inductive StandsAfter (front : List Piece) (segment : Text) :
    List Piece → Text → List Piece → Text → Prop
  | ended (delimiter : Delimiter) (rest : List Piece) (last : Text) :
      StandsAfter front segment (front ++ ⟨segment, delimiter⟩ :: rest) last
        (front ++ [⟨segment, delimiter⟩]) []
  | last : StandsAfter front segment front segment front segment

theorem StandsAfter.cons {front ended upto : List Piece} {segment last uptoLast : Text}
    (h : StandsAfter front segment ended last upto uptoLast) (piece : Piece) :
    StandsAfter (piece :: front) segment (piece :: ended) last (piece :: upto) uptoLast := by
  cases h with
  | ended delimiter rest last => exact .ended delimiter rest last
  | last => exact .last

/-- The first notice of a lenient reader is about a segment. Before it there is nothing to notice,
and at its start a strict reader fails. The induction is on the pieces; the front grows by those
that both readers pass. -/
theorem exists_first_notice {start : Nat} {inside : Option OpenRule} {ended : List Piece}
    {last : Text} {first : Notice} {later : List Notice}
    (h : (readPieces false start inside ended last).notices = first :: later) :
    ∃ front segment upto uptoLast, StandsAfter front segment ended last upto uptoLast ∧
      (readPieces false start inside front []).notices = [] ∧
      (readPieces false start inside upto uptoLast).notices = [first] ∧
      first = .malformedDeclaration segment.trim ∧
      (readPieces true start inside ended last).outcome =
        .error (.malformedDeclaration segment.trim, start + (joinPieces front []).length) := by
  have hnothing (start : Nat) (inside : Option OpenRule) :
      (readPieces false start inside [] []).notices = [] := by
    cases inside <;> rfl
  induction ended generalizing start inside with
  | nil =>
      cases inside with
      | none =>
          rcases readDeclaration_cases start last with hfine | ⟨hstrict, hlenient⟩
          · rw [readPieces, hfine] at h
            cases h
          · rw [readPieces, hlenient] at h
            cases h
            refine ⟨[], last, [], last, .last, hnothing _ _, ?_, rfl, ?_⟩
            · rw [readPieces, hlenient]
              rfl
            · rw [readPieces, hstrict]
              rfl
      | some rule => cases h
  | cons piece rest ih =>
      rw [readPieces_cons] at h ⊢
      cases readsPiece start inside piece with
      | stops fault hread =>
          rw [hread] at h
          cases h
      | passes read hread =>
          rw [hread, Logged.andThen_ok] at h
          obtain ⟨front, segment, upto, uptoLast, hstands, hbefore, hupto, hfirst, hstrict⟩ := ih h
          refine ⟨piece :: front, segment, piece :: upto, uptoLast, hstands.cons piece, ?_, ?_,
            hfirst, ?_⟩
          · rw [readPieces_cons, hread]
            exact hbefore
          · rw [readPieces_cons, hread]
            exact hupto
          · rw [hread, Logged.andThen_ok, Logged.outcome_map, hstrict, length_joinPieces_cons,
              Nat.add_assoc]
            rfl
      | malformed read hstrict hlenient =>
          rw [hlenient] at h
          cases h
          refine ⟨[], piece.segment, [piece], [], .ended piece.delimiter rest last,
            hnothing _ _, ?_, rfl, ?_⟩
          · rw [readPieces_cons, hlenient]
            exact congrArg (_ :: ·) (hnothing _ _)
          · rw [hstrict]
            rfl

/-! ## Texts -/

/-- A segment of a text: delimiters or the ends of the text stand around it. -/
structure IsSegmentOf (text before segment after : Text) : Prop where
  text_eq : text = before ++ segment ++ after
  plain : IsPlain segment
  before_ended : lastSegment before = []
  after_delimits : ∀ c ∈ after.head?, ¬IsPlain [c]

theorem lastSegment_joinPieces (front : List Piece) : lastSegment (joinPieces front []) = [] := by
  induction front using List.reverseRecOn with
  | nil => rfl
  | append_singleton front piece _ =>
      have hjoin : joinPieces (front ++ [piece]) [] =
          joinPieces front [] ++ piece.segment ++ [piece.delimiter.toChar] := by
        rw [joinPieces_append, joinPieces_cons, joinPieces_nil, List.append_assoc]
      rw [hjoin, lastSegment_append_delimiter]

/-- The pieces up to a segment and up to its end are those of the text up to there. -/
theorem StandsAfter.exists_isSegmentOf {text segment : Text} {front upto : List Piece}
    {uptoLast : Text}
    (h : StandsAfter front segment (pieces text).1 (pieces text).2 upto uptoLast) :
    ∃ after, IsSegmentOf text (joinPieces front []) segment after ∧
      pieces (joinPieces front []) = (front, []) ∧
      pieces (joinPieces front [] ++ segment ++ after.take 1) = (upto, uptoLast) := by
  obtain ⟨hended, hlast⟩ := isPlain_pieces text
  have htext := joinPieces_pieces text
  generalize (pieces text).1 = ended, (pieces text).2 = last at h hended hlast htext
  cases h with
  | ended delimiter rest last =>
      have hfront : ∀ piece ∈ front, IsPlain piece.segment := fun piece hpiece =>
        hended piece (List.mem_append_left _ hpiece)
      have hsegment : IsPlain segment := hended ⟨segment, delimiter⟩ (by simp)
      refine ⟨delimiter.toChar :: joinPieces rest last, ⟨?_, hsegment,
        lastSegment_joinPieces front, ?_⟩, pieces_joinPieces hfront isPlain_nil, ?_⟩
      · rw [← htext, joinPieces_append, joinPieces_cons, List.append_assoc]
      · rintro c ⟨⟩
        cases delimiter <;> decide
      · have hjoin : joinPieces front [] ++ segment ++ [delimiter.toChar] =
            joinPieces (front ++ [⟨segment, delimiter⟩]) [] := by
          rw [joinPieces_append, joinPieces_cons, joinPieces_nil, List.append_assoc]
        rw [List.take_succ_cons, List.take_zero, hjoin]
        apply pieces_joinPieces _ isPlain_nil
        intro piece hpiece
        rcases List.mem_append.1 hpiece with hpiece | hpiece
        · exact hfront piece hpiece
        · exact List.mem_singleton.1 hpiece ▸ hsegment
  | last =>
      refine ⟨[], ⟨?_, hlast, lastSegment_joinPieces front, by simp⟩,
        pieces_joinPieces hended isPlain_nil, ?_⟩
      · rw [← htext, List.append_nil, ← joinPieces_eq_append]
      · rw [List.take_nil, List.append_nil, ← joinPieces_eq_append]
        exact pieces_joinPieces hended hlast

/-- A strict reader gives no notice. It does what a lenient one does if that gives none either.
Otherwise it fails for the segment that the first notice is about, at the start of that segment:
the lenient reader has nothing to notice in the text before, and gives this notice as soon as it has
read the segment and the character that ends it. -/
theorem strict_parse_stops_at_first_notice (text : Text) :
    (parse true text).notices = [] ∧
      ((parse false text).notices = [] → (parse true text).outcome = (parse false text).outcome) ∧
      ∀ first later, (parse false text).notices = first :: later →
        ∃ before segment after, IsSegmentOf text before segment after ∧
          (parse false before).notices = [] ∧
          (parse false (before ++ segment ++ after.take 1)).notices = [first] ∧
          first = .malformedDeclaration segment.trim ∧
          ∃ error, (parse true text).outcome = .error error ∧
            error.position = before.length ∧ error.source = text ∧
            error.defect.reason =
              "Declaration is incorrectly formatted: ".toList ++ segment.trim.quoted := by
  refine ⟨notices_strict_readPieces _ _ _ _, ?_, ?_⟩
  · intro hnone
    have hrefines := refines_readPieces 0 none (pieces text).1 (pieces text).2
    have hsame := (if_pos hnone).mp hrefines
    rw [outcome_parse, outcome_parse, hsame]
  · intro first later h
    obtain ⟨front, segment, upto, uptoLast, hstands, hbefore, hupto, hfirst, hstrict⟩ :=
      exists_first_notice h
    obtain ⟨after, hsegment, hfront, hend⟩ := hstands.exists_isSegmentOf
    refine ⟨_, segment, after, hsegment, ?_, ?_, hfirst, ?_⟩
    · rw [parse, hfront]
      exact hbefore
    · rw [parse, hend]
      exact hupto
    · rw [outcome_parse, hstrict, Nat.zero_add]
      exact ⟨_, rfl, rfl, rfl, rfl⟩

/-- The notice counts even if a brace is at fault later in the text. -/
example :
    (parse false "a:b; c;\x7d".toList).outcome =
        .error ⟨.unmatchedClose, 7, "a:b; c;\x7d".toList⟩ ∧
      (parse true "a:b; c;\x7d".toList).outcome =
        .error ⟨.malformedDeclaration ['c'], 4, "a:b; c;\x7d".toList⟩ := ⟨rfl, rfl⟩

end AtomicCss.Style
