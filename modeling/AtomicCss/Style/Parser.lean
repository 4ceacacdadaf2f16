import AtomicCss.Logged
import AtomicCss.Style.Segment
import AtomicCss.Style.Defect

/-! # Reading styles

A style is read segment by segment. A segment before an opening brace is the selector of a
rule, every other one is a declaration or blank. A segment is judged when its delimiter is
reached, so of two defects the one whose delimiter comes first is reported. -/

namespace AtomicCss.Style

/-- The declaration that a segment is read as: the first colon parts name and value, and a
missing side is empty. -/
def Declaration.ofSegment (segment : Text) : Declaration :=
  let (name, value) := Text.cut ':' segment
  ⟨name.trim, (value.getD []).trim⟩

/-- A rule whose closing brace has not been reached. -/
structure OpenRule where
  selector : Text
  declarations : List Declaration
  deriving DecidableEq, Repr

/-- Reads a segment that stands where a declaration is expected and starts at `start`. A strict
reader refuses a malformed declaration, a lenient one keeps it and gives a notice. -/
def readDeclaration (strict : Bool) (start : Nat) (segment : Text) :
    Logged (Defect × Nat) (List Declaration) :=
  let declaration := Declaration.ofSegment segment
  if segment.all Text.isBlank then .ok []
  else if declaration.isComplete then .ok [declaration]
  else if strict then .fail (.malformedDeclaration segment.trim, start)
  else ⟨[.malformedDeclaration segment.trim], .ok [declaration]⟩

/-- Reads pieces and a last segment, the first of which starts at `start`, outside a rule or
inside the one that is open. -/
def readPieces (strict : Bool) (start : Nat) (inside : Option OpenRule) :
    List Piece → Text → Logged (Defect × Nat) (List Item)
  | [], last =>
      match inside with
      | none => (readDeclaration strict start last).map fun here => here.map .declaration
      | some rule => .fail (.unclosedRule rule.selector, start + last.length)
  | piece :: rest, last =>
      let next := start + piece.width
      match piece.delimiter, inside with
      | .semicolon, none =>
          (readDeclaration strict start piece.segment).andThen fun here =>
            (readPieces strict next none rest last).map fun items =>
              here.map .declaration ++ items
      | .semicolon, some rule =>
          (readDeclaration strict start piece.segment).andThen fun here =>
            let longer : OpenRule := ⟨rule.selector, rule.declarations ++ here⟩
            readPieces strict next (some longer) rest last
      | .opening, none => readPieces strict next (some ⟨piece.segment.trim, []⟩) rest last
      | .opening, some _ => .fail (.nestedTooDeep, start + piece.segment.length)
      | .closing, none => .fail (.unmatchedClose, start + piece.segment.length)
      | .closing, some rule =>
          (readDeclaration strict start piece.segment).andThen fun here =>
            (readPieces strict next none rest last).map fun items =>
              .rule ⟨rule.selector, rule.declarations ++ here⟩ :: items

/-- Reads a style text. -/
def parse (strict : Bool) (text : Text) : Logged StyleError (List Item) :=
  let (ended, last) := pieces text
  (readPieces strict 0 none ended last).mapError fun (defect, position) =>
    ⟨defect, position, text⟩

end AtomicCss.Style
