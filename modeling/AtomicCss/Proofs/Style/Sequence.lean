import AtomicCss.Proofs.Style.Lenient
import AtomicCss.Proofs.Style.Steps

/-! # Styles joined by a semicolon

A semicolon between two texts separates them: the items and the notices of the first one come before
those of the second one, and a fault in the second one is found where that text now stands. This
fails only if the first text leaves a rule open. -/

namespace AtomicCss.Style

/-- Where no rule is left open, a semicolon ends the last segment of some pieces as the end of the
text does. -/
theorem readPieces_append_semicolon {strict : Bool} {start : Nat} {inside : Option OpenRule}
    {front : List Piece} {segment : Text}
    (h : ∀ selector position, (readPieces strict start inside front segment).outcome ≠
      .error (.unclosedRule selector, position)) (rest : List Piece) (last : Text) :
    readPieces strict start inside (front ++ ⟨segment, .semicolon⟩ :: rest) last =
      (readPieces strict start inside front segment).andThen fun items =>
        (readPieces strict (start + (joinPieces front segment).length + 1) none rest last).map
          fun others => items ++ others := by
  have hfront : readPieces strict start inside front segment = _ :=
    List.append_nil front ▸ readPieces_append strict start inside front [] segment
  rw [hfront, readPieces_append, Logged.andThen_assoc]
  apply Logged.andThen_congr
  rintro ⟨items, inside'⟩ hread
  cases inside' with
  | none =>
      have hnext : start + (joinPieces front []).length + (segment.length + 1) =
          start + (joinPieces front segment).length + 1 := by
        rw [joinPieces_eq_append front segment, List.length_append]
        omega
      simp only [readPieces, Piece.width, hnext, Logged.map_andThen, Logged.map_map,
        Logged.andThen_map, List.append_assoc]
  | some rule =>
      -- a rule that is open here is not closed before the end of the first text
      refine absurd ?_ (h rule.selector (start + (joinPieces front []).length + segment.length))
      rw [hfront, Logged.outcome_andThen, hread]
      rfl

/-- An error as it is reported for a text in which the source stands at `offset`. -/
def StyleError.within (whole : Text) (offset : Nat) (error : StyleError) : StyleError :=
  ⟨error.defect, error.position + offset, whole⟩

/-- Reading two texts with a semicolon between them is reading the one and then the other. -/
theorem parse_append_semicolon_eq {strict : Bool} {first : Text}
    (h : ∀ error, (parse strict first).outcome = .error error →
      ∀ selector, error.defect ≠ .unclosedRule selector) (second : Text) :
    parse strict (first ++ ';' :: second) =
      ((parse strict first).mapError (StyleError.within (first ++ ';' :: second) 0)).andThen
        fun items =>
          ((parse strict second).mapError
            (StyleError.within (first ++ ';' :: second) (first.length + 1))).map
              fun others => items ++ others := by
  have hclosed : ∀ selector position,
      (readPieces strict 0 none (pieces first).1 (pieces first).2).outcome ≠
        .error (.unclosedRule selector, position) := by
    intro selector position hread
    apply h ⟨.unclosedRule selector, position, first⟩ _ selector rfl
    rw [outcome_parse, hread]
    rfl
  have hpieces : pieces (first ++ ';' :: second) = _ :=
    pieces_append_toChar first .semicolon second
  have hstart : 0 + (joinPieces (pieces first).1 (pieces first).2).length + 1 =
      0 + (first.length + 1) := by
    rw [joinPieces_pieces]
    omega
  rw [parse, hpieces]
  simp only [readPieces_append_semicolon hclosed, hstart, readPieces_shift, Logged.mapError_andThen,
    Logged.mapError_map, Logged.mapError_mapError, parse]
  rfl

/-- If the first of two texts can be read, then with a semicolon between them they give the items of
both, or the defect of the second one at its place behind the semicolon, and the notices of both. If
the first one cannot be read, and not because it leaves a rule open, then its defect is found at the
same place. -/
theorem parse_append_semicolon (strict : Bool) (first second : Text) :
    (∀ items, (parse strict first).outcome = .ok items →
      (parse strict (first ++ ';' :: second)).notices =
          (parse strict first).notices ++ (parse strict second).notices ∧
        (∀ others, (parse strict second).outcome = .ok others →
          (parse strict (first ++ ';' :: second)).outcome = .ok (items ++ others)) ∧
        ∀ error, (parse strict second).outcome = .error error →
          (parse strict (first ++ ';' :: second)).outcome =
            .error ⟨error.defect, error.position + (first.length + 1), first ++ ';' :: second⟩) ∧
      ∀ error, (parse strict first).outcome = .error error →
        (∀ selector, error.defect ≠ .unclosedRule selector) →
          (parse strict (first ++ ';' :: second)).notices = (parse strict first).notices ∧
            (parse strict (first ++ ';' :: second)).outcome =
              .error ⟨error.defect, error.position, first ++ ';' :: second⟩ := by
  constructor
  · intro items hitems
    have hclosed : ∀ error, (parse strict first).outcome = .error error →
        ∀ selector, error.defect ≠ .unclosedRule selector := by
      intro error herror
      rw [hitems] at herror
      cases herror
    rw [parse_append_semicolon_eq hclosed,
      Logged.andThen_of_ok (by rw [Logged.outcome_mapError, hitems]; rfl)]
    refine ⟨rfl, ?_, ?_⟩
    · intro others hothers
      rw [Logged.outcome_map, Logged.outcome_mapError, hothers]
      rfl
    · intro error herror
      rw [Logged.outcome_map, Logged.outcome_mapError, herror]
      rfl
  · intro error herror hdefect
    have hclosed : ∀ error, (parse strict first).outcome = .error error →
        ∀ selector, error.defect ≠ .unclosedRule selector := by
      intro error' herror'
      rw [herror] at herror'
      cases herror'
      exact hdefect
    rw [parse_append_semicolon_eq hclosed,
      Logged.andThen_of_error (by rw [Logged.outcome_mapError, herror]; rfl)]
    exact ⟨rfl, rfl⟩

/-- A rule that the second text leaves open is found at the end of both, after the notices of both. -/
theorem openRule_after_semicolon :
    (parse false "a:b; c;d;:h\x7be".toList).outcome =
        .error ⟨.unclosedRule ":h".toList, 13, "a:b; c;d;:h\x7be".toList⟩ ∧
      (parse false "a:b; c;d;:h\x7be".toList).notices =
        [.malformedDeclaration ['c'], .malformedDeclaration ['d']] := by
  obtain ⟨hnotices, -, herror⟩ :=
    (parse_append_semicolon false "a:b; c".toList "d;:h\x7be".toList).1 _ rfl
  exact ⟨herror _ rfl, hnotices⟩

end AtomicCss.Style
