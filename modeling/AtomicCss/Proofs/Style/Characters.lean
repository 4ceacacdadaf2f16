import AtomicCss.Proofs.Style.Parts
import AtomicCss.Proofs.Text.Repertoire
import AtomicCss.Rule.Basic

/-! # The characters of styles

The items of a style are trimmed parts of its text, and what is written of them has ASCII characters
in between only. -/

namespace AtomicCss

open Style

namespace Style

/-- A declaration has only characters of a text. -/
structure Declaration.IsFrom (text : Text) (declaration : Declaration) : Prop where
  name : declaration.name ⊆ text
  value : declaration.value ⊆ text

/-- An item has only characters of a text. -/
def Item.IsFrom (text : Text) : Item → Prop
  | declaration d => d.IsFrom text
  | rule r => r.selector ⊆ text ∧ ∀ d ∈ r.declarations, d.IsFrom text

/-- What is read of a style has only characters of its text. -/
theorem isFrom_of_parse {strict : Bool} {text : Text} {items : List Item}
    (hparse : (parse strict text).outcome = .ok items) : ∀ item ∈ items, item.IsFrom text := by
  have hdeclaration {d : Declaration} (h : d.IsWithin text) : d.IsFrom text :=
    ⟨h.name.subset, h.value.subset⟩
  intro item hitem
  have hwithin := isWithin_of_parse hparse item hitem
  cases item with
  | declaration declaration => exact hdeclaration hwithin
  | rule rule =>
      exact ⟨hwithin.1.subset, fun d hd => hdeclaration (hwithin.2 d hd)⟩

end Style

namespace Repertoire

/-- The name and the value of a declaration are in a repertoire. -/
structure SpellsDeclaration (repertoire : Repertoire) (declaration : Declaration) : Prop where
  name : repertoire.Spells declaration.name
  value : repertoire.Spells declaration.value

/-- Declarations are in a repertoire. -/
def SpellsDeclarations (repertoire : Repertoire) (declarations : List Declaration) : Prop :=
  ∀ declaration ∈ declarations, repertoire.SpellsDeclaration declaration

/-- The selector and the declarations of a nested rule are in a repertoire. -/
structure SpellsRule (repertoire : Repertoire) (rule : NestedRule) : Prop where
  selector : repertoire.Spells rule.selector
  declarations : repertoire.SpellsDeclarations rule.declarations

/-- An item of a style is in a repertoire. -/
def SpellsItem (repertoire : Repertoire) : Item → Prop
  | .declaration declaration => repertoire.SpellsDeclaration declaration
  | .rule rule => repertoire.SpellsRule rule

variable {repertoire : Repertoire} {text : Text} {declarations : List Declaration}

/-! ## Reading -/

/-- What is read of a style has its characters. -/
theorem Spells.parse {strict : Bool} {items : List Item} (h : repertoire.Spells text)
    (hparse : (Style.parse strict text).outcome = .ok items) :
    ∀ item ∈ items, repertoire.SpellsItem item := by
  intro item hitem
  have hfrom := isFrom_of_parse hparse item hitem
  cases item with
  | declaration declaration => exact ⟨h.subset hfrom.name, h.subset hfrom.value⟩
  | rule rule =>
      obtain ⟨hselector, hdeclarations⟩ := hfrom
      refine ⟨h.subset hselector, fun declaration hmem => ?_⟩
      exact ⟨h.subset (hdeclarations declaration hmem).name,
        h.subset (hdeclarations declaration hmem).value⟩

/-! ## Writing -/

theorem SpellsDeclaration.print {declaration : Declaration}
    (h : repertoire.SpellsDeclaration declaration) : repertoire.Spells declaration.print := by
  rw [Declaration.print, spells_append, spells_append]
  exact ⟨⟨h.name, spells_of_all_ascii (by decide)⟩, h.value⟩

theorem SpellsDeclarations.print (h : repertoire.SpellsDeclarations declarations) :
    repertoire.Spells (printDeclarations declarations) := by
  apply spells_joinWith (spells_of_all_ascii (by decide))
  intro part hpart
  obtain ⟨declaration, hmem, rfl⟩ := List.mem_map.1 hpart
  exact (h declaration hmem).print

theorem spells_printBlock {head content : Text} (hhead : repertoire.Spells head)
    (hcontent : repertoire.Spells content) : repertoire.Spells (printBlock head content) := by
  rw [printBlock, spells_append, spells_append, spells_append]
  exact ⟨⟨⟨hhead, spells_of_all_ascii (by decide)⟩, hcontent⟩, spells_of_all_ascii (by decide)⟩

theorem SpellsDeclarations.plainBody (h : repertoire.SpellsDeclarations declarations) :
    repertoire.Spells (GeneratedRule.plainBody declarations) :=
  spells_printBlock (spells_toList rfl (by decide)) h.print

theorem SpellsRule.atRuleBody {rule : NestedRule} (h : repertoire.SpellsRule rule) :
    repertoire.Spells (GeneratedRule.atRuleBody rule.selector rule.declarations) :=
  spells_printBlock h.selector h.declarations.plainBody

end Repertoire
end AtomicCss
