import AtomicCss.Proofs.Style.Lenient
import AtomicCss.Proofs.Style.Steps
import AtomicCss.Proofs.Text.Trim
import Mathlib.Logic.Relation

/-! # Layout of a style

Blanks at the ends of a segment are trimmed, and a semicolon that ends an empty segment is passed
over. So blanks next to a delimiter or at an end of the text, and semicolons at the start of the text
or after a delimiter, make no difference to what is read. -/

namespace AtomicCss.Style

/-! ## Where blanks and semicolons can be put -/

/-- A text after which a segment starts: it is empty or ends in a delimiter. -/
inductive StartsSegment : Text → Prop
  | start : StartsSegment []
  | afterDelimiter (before : Text) (delimiter : Delimiter) :
      StartsSegment (before ++ [delimiter.toChar])

/-- A text before which a segment ends: it is empty or starts with a delimiter. -/
inductive EndsSegment : Text → Prop
  | stop : EndsSegment []
  | beforeDelimiter (delimiter : Delimiter) (after : Text) :
      EndsSegment (delimiter.toChar :: after)

/-- One more piece of layout: blanks next to a delimiter or at an end of the text, or a semicolon
at the start of the text or after a delimiter. -/
inductive AddsLayout : Text → Text → Prop
  | blanks {before blanks after : Text} (hplace : StartsSegment before ∨ EndsSegment after)
      (hblank : blanks.all Text.isBlank) : AddsLayout (before ++ after) (before ++ blanks ++ after)
  | semicolon {before after : Text} (hplace : StartsSegment before) :
      AddsLayout (before ++ after) (before ++ ';' :: after)

/-! ## Blanks around a segment -/

theorem isPlain_of_blank {text : Text} (h : text.all Text.isBlank) : IsPlain text := by
  intro c hc
  refine ⟨?_, ?_, ?_⟩
  all_goals
    rintro rfl
    exact Text.notMem_of_blank h (by decide) hc

section

variable {lead tail : Text} (hlead : lead.all Text.isBlank) (htail : tail.all Text.isBlank)

include hlead htail

theorem trim_surround (segment : Text) : Text.trim (lead ++ segment ++ tail) = segment.trim := by
  rw [Text.trim_append_blank htail, Text.trim_blank_append hlead]

theorem declarationOf_surround (segment : Text) :
    declarationOf (lead ++ segment ++ tail) = declarationOf segment := by
  have hcolon : ':' ∉ lead := Text.notMem_of_blank hlead (by decide)
  have hcolon' : ':' ∉ tail := Text.notMem_of_blank htail (by decide)
  by_cases hsegment : ':' ∈ segment
  · obtain ⟨name, value, rfl, hname⟩ := List.eq_append_cons_of_mem hsegment
    have hfront : ':' ∉ lead ++ name := by simp [hcolon, hname]
    calc
      declarationOf (lead ++ (name ++ ':' :: value) ++ tail) =
          declarationOf ((lead ++ name) ++ ':' :: (value ++ tail)) := by simp
      _ = ⟨Text.trim name, Text.trim value⟩ := by
        rw [declarationOf_colon hfront, Text.trim_blank_append hlead,
          Text.trim_append_blank htail]
      _ = declarationOf (name ++ ':' :: value) := (declarationOf_colon hname value).symm
  · have hnone : ':' ∉ lead ++ segment ++ tail := by simp [hcolon, hcolon', hsegment]
    rw [declarationOf_of_notMem hnone, declarationOf_of_notMem hsegment,
      trim_surround hlead htail]

theorem readDeclaration_surround (strict : Bool) (start : Nat) (segment : Text) :
    readDeclaration strict start (lead ++ segment ++ tail) =
      readDeclaration strict start segment := by
  have hblank : (lead ++ segment ++ tail).all Text.isBlank = segment.all Text.isBlank := by
    simp [List.all_append, hlead, htail]
  simp only [readDeclaration, ofSegment_eq_declarationOf, declarationOf_surround hlead htail,
    trim_surround hlead htail, hblank]

end

/-! ## Reading without places -/

/-- Reads the pieces and the last segment of a text, and leaves out where a fault is. -/
def readUnplaced (strict : Bool) (inside : Option OpenRule) (cut : List Piece × Text) :
    Logged Defect (List Item) :=
  (readPieces strict 0 inside cut.1 cut.2).mapError Prod.fst

/-- Both are read alike, outside a rule and inside any that is open. -/
def ReadAlike (first second : List Piece × Text) : Prop :=
  ∀ strict inside, readUnplaced strict inside first = readUnplaced strict inside second

theorem mapError_fst_readPieces (strict : Bool) (start : Nat) (inside : Option OpenRule)
    (ended : List Piece) (last : Text) :
    (readPieces strict start inside ended last).mapError Prod.fst =
      readUnplaced strict inside (ended, last) := by
  have hshift := readPieces_shift strict 0 inside start ended last
  rw [Nat.zero_add] at hshift
  rw [hshift, Logged.mapError_mapError]
  rfl

theorem readUnplaced_append (strict : Bool) (inside : Option OpenRule) (front rest : List Piece)
    (last : Text) :
    readUnplaced strict inside (front ++ rest, last) =
      ((readFront strict 0 inside front).mapError Prod.fst).andThen fun read =>
        (readUnplaced strict read.inside (rest, last)).map fun items => read.items ++ items := by
  rw [readUnplaced, readPieces_append, Logged.mapError_andThen]
  simp only [Logged.mapError_map, mapError_fst_readPieces]

theorem readUnplaced_cons (strict : Bool) (inside : Option OpenRule) (piece : Piece)
    (rest : List Piece) (last : Text) :
    readUnplaced strict inside (piece :: rest, last) =
      ((readPiece strict 0 inside piece).mapError Prod.fst).andThen fun first =>
        (readUnplaced strict first.inside (rest, last)).map fun items => first.items ++ items := by
  rw [readUnplaced, readPieces_cons, Logged.mapError_andThen]
  simp only [Logged.mapError_map, mapError_fst_readPieces]

theorem ReadAlike.append_front {ended ended' : List Piece} {last last' : Text}
    (h : ReadAlike (ended, last) (ended', last')) (front : List Piece) :
    ReadAlike (front ++ ended, last) (front ++ ended', last') := by
  intro strict inside
  simp only [readUnplaced_append, h strict]

/-- A semicolon that ends an empty segment is passed over. -/
theorem readAlike_semicolon (ended : List Piece) (last : Text) :
    ReadAlike (⟨[], .semicolon⟩ :: ended, last) (ended, last) := by
  intro strict inside
  have hnothing : readPiece strict 0 inside ⟨[], .semicolon⟩ = .ok ⟨[], inside⟩ := by
    cases inside with
    | none => rfl
    | some rule => simp [readPiece, readDeclaration, Logged.ok, Logged.map, Except.map]
  rw [readUnplaced_cons, hnothing]
  calc
    _ = (readUnplaced strict inside (ended, last)).map fun items => items := rfl
    _ = readUnplaced strict inside (ended, last) := Logged.map_id _

section

variable {lead tail : Text} (hlead : lead.all Text.isBlank) (htail : tail.all Text.isBlank)
  (segment : Text)

include hlead htail

theorem readAlike_piece (delimiter : Delimiter) (rest : List Piece) (last : Text) :
    ReadAlike (⟨lead ++ segment ++ tail, delimiter⟩ :: rest, last)
      (⟨segment, delimiter⟩ :: rest, last) := by
  intro strict inside
  have hpiece : (readPiece strict 0 inside ⟨lead ++ segment ++ tail, delimiter⟩).mapError Prod.fst =
      (readPiece strict 0 inside ⟨segment, delimiter⟩).mapError Prod.fst := by
    cases inside <;> cases delimiter <;>
      simp only [readPiece, readDeclaration_surround hlead htail, trim_surround hlead htail] <;> rfl
  rw [readUnplaced_cons, readUnplaced_cons, hpiece]

theorem readAlike_last : ReadAlike ([], lead ++ segment ++ tail) ([], segment) := by
  intro strict inside
  cases inside with
  | none => simp only [readUnplaced, readPieces, readDeclaration_surround hlead htail]
  | some rule => rfl

end

/-! ## Texts with more layout -/

/-- A plain text in front goes into the first segment. -/
theorem pieces_append_of_isPlain {front : Text} (h : IsPlain front) (text : Text) :
    pieces (front ++ text) =
      match pieces text with
      | ([], last) => ([], front ++ last)
      | (piece :: ended, last) => (⟨front ++ piece.segment, piece.delimiter⟩ :: ended, last) := by
  induction front with
  | nil =>
      rw [List.nil_append]
      rcases pieces text with ⟨_ | ⟨piece, ended⟩, last⟩ <;> rfl
  | cons c front ih =>
      obtain ⟨hc, hfront⟩ := isPlain_cons.1 h
      rw [List.cons_append, pieces, hc, ih hfront]
      rcases pieces text with ⟨_ | ⟨piece, ended⟩, last⟩ <;> rfl

/-- A plain text at the end goes into the last segment. -/
theorem pieces_append_isPlain {tail : Text} (h : IsPlain tail) (text : Text) :
    pieces (text ++ tail) = ((pieces text).1, (pieces text).2 ++ tail) := by
  obtain ⟨hended, hlast⟩ := isPlain_pieces text
  have htext : text ++ tail = joinPieces (pieces text).1 ((pieces text).2 ++ tail) := by
    rw [joinPieces_eq_append, ← List.append_assoc, ← joinPieces_eq_append, joinPieces_pieces]
  rw [htext]
  exact pieces_joinPieces hended (List.forall_mem_append.2 ⟨hlast, h⟩)

section

variable {blanks : Text} (hblank : blanks.all Text.isBlank)

include hblank

/-- Blanks at the start of a text make no difference. -/
theorem readAlike_blanks_append (text : Text) : ReadAlike (pieces (blanks ++ text)) (pieces text) := by
  have hempty : List.all [] Text.isBlank := rfl
  rw [pieces_append_of_isPlain (isPlain_of_blank hblank)]
  rcases pieces text with ⟨_ | ⟨⟨segment, delimiter⟩, ended⟩, last⟩
  · have hlast := readAlike_last hblank hempty last
    rwa [List.append_nil] at hlast
  · have hpiece := readAlike_piece hblank hempty segment delimiter ended last
    rwa [List.append_nil] at hpiece

/-- Blanks at the end of a segment make no difference. -/
theorem readAlike_append_blanks {after : Text} (h : EndsSegment after) (before : Text) :
    ReadAlike (pieces (before ++ blanks ++ after)) (pieces (before ++ after)) := by
  have hempty : List.all [] Text.isBlank := rfl
  have hbefore := pieces_append_isPlain (isPlain_of_blank hblank) before
  cases h with
  | stop =>
      rw [List.append_nil, List.append_nil, hbefore]
      have hlast := (readAlike_last hempty hblank (pieces before).2).append_front (pieces before).1
      rwa [List.append_nil] at hlast
  | beforeDelimiter delimiter after =>
      rw [pieces_append_toChar, pieces_append_toChar, hbefore]
      exact (readAlike_piece hempty hblank (pieces before).2 delimiter (pieces after).1
        (pieces after).2).append_front (pieces before).1

end

/-- Texts that are read alike are read alike after a delimiter. -/
theorem ReadAlike.append_text {before text other : Text} (hplace : StartsSegment before)
    (h : ReadAlike (pieces other) (pieces text)) :
    ReadAlike (pieces (before ++ other)) (pieces (before ++ text)) := by
  cases hplace with
  | start => exact h
  | afterDelimiter before delimiter =>
      have hpieces (after : Text) : pieces (before ++ [delimiter.toChar] ++ after) =
          (((pieces before).1 ++ [⟨(pieces before).2, delimiter⟩]) ++ (pieces after).1,
            (pieces after).2) := by
        simp [pieces_append_toChar]
      rw [hpieces, hpieces]
      exact ReadAlike.append_front h _

theorem AddsLayout.readAlike {text other : Text} (h : AddsLayout text other) :
    ReadAlike (pieces other) (pieces text) := by
  cases h with
  | @blanks before blanks after hplace hblank =>
      rcases hplace with hstarts | hends
      · rw [List.append_assoc]
        exact (readAlike_blanks_append hblank after).append_text hstarts
      · exact readAlike_append_blanks hblank hends before
  | semicolon hplace =>
      apply ReadAlike.append_text hplace
      exact readAlike_semicolon _ _

/-- Layout changes neither the items and the notices nor the defect that is found. -/
theorem AddsLayout.parse_eq {text other : Text} (h : AddsLayout text other) (strict : Bool) :
    (parse strict other).mapError StyleError.defect =
      (parse strict text).mapError StyleError.defect := by
  have hread (text : Text) : (parse strict text).mapError StyleError.defect =
      readUnplaced strict none (pieces text) := by
    rw [parse, Logged.mapError_mapError]
    rfl
  rw [hread, hread]
  exact h.readAlike strict none

/-- Any number of pieces of layout makes no difference either. -/
theorem parse_eq_of_layout {text other : Text} (h : Relation.ReflTransGen AddsLayout text other)
    (strict : Bool) :
    (parse strict other).mapError StyleError.defect =
      (parse strict text).mapError StyleError.defect := by
  induction h with
  | refl => rfl
  | tail _ hstep ih => exact (hstep.parse_eq strict).trans ih

end AtomicCss.Style
