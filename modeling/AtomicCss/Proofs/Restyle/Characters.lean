import AtomicCss.Proofs.Markup.Trees
import AtomicCss.Proofs.Restyle.Classes
import AtomicCss.Proofs.Rule.Atoms
import AtomicCss.Proofs.Style.Characters

/-! # The characters of restyled trees

A style compiles to classes and rules with the characters of its text, next to the stem of the
classes and ASCII characters. So restyling a tree brings no other characters into the tree or into
the sheet. -/

namespace AtomicCss

open Markup Style

/-- The declarations that stay inline are those of the style. -/
theorem Compiled.mem_of_mem_residual {stem : Text} {items : List Item} {declaration : Declaration}
    (h : declaration ∈ (ofItems stem items).residual) : .declaration declaration ∈ items := by
  rw [residual_ofItems] at h
  exact Atom.mem_filterMap_declaration?.1 (List.mem_filter.1 h).1

namespace Repertoire

/-- The body and the selector of a generated rule are in a repertoire. -/
structure SpellsGenerated (repertoire : Repertoire) (rule : GeneratedRule) : Prop where
  body : repertoire.Spells rule.body
  selector : repertoire.Spells rule.selector

/-- Everything in a sheet is in a repertoire. -/
def SpellsSheet (repertoire : Repertoire) (sheet : Sheet) : Prop :=
  ∀ entry ∈ sheet.entries,
    repertoire.Spells entry.1 ∧ ∀ selector ∈ entry.2, repertoire.Spells selector

/-- What takes the place of a style is in a repertoire. -/
structure SpellsRestyled (repertoire : Repertoire) (restyled : Restyled) : Prop where
  classes : ∀ classes ∈ restyled.classes, repertoire.Spells classes
  style : ∀ style ∈ restyled.style, repertoire.Spells style
  rules : ∀ rule ∈ restyled.rules, repertoire.SpellsGenerated rule

variable {repertoire : Repertoire} {settings : Settings} {attributes : Attributes} {sheet : Sheet}

/-! ## Sheets -/

theorem spellsSheet_empty : repertoire.SpellsSheet .empty := nofun

theorem SpellsSheet.merge (h : repertoire.SpellsSheet sheet) {rule : GeneratedRule}
    (hrule : repertoire.SpellsGenerated rule) : repertoire.SpellsSheet (sheet.merge rule) := by
  have hadd {selectors : List Text} (hselectors : ∀ s ∈ selectors, repertoire.Spells s) :
      ∀ s ∈ Sheet.addSelector rule.selector selectors, repertoire.Spells s := by
    rw [Sheet.addSelector]
    split_ifs
    · exact hselectors
    · intro s hs
      rcases List.mem_append.1 hs with hs | hs
      · exact hselectors s hs
      · exact List.mem_singleton.1 hs ▸ hrule.selector
  apply OrderedMap.forall_mem_alter h
  · exact ⟨hrule.body, hadd (List.forall_mem_nil _)⟩
  · exact fun selectors hentry => ⟨hentry.1, hadd hentry.2⟩

theorem SpellsSheet.mergeAll (h : repertoire.SpellsSheet sheet) {rules : List GeneratedRule}
    (hrules : ∀ rule ∈ rules, repertoire.SpellsGenerated rule) :
    repertoire.SpellsSheet (sheet.mergeAll rules) := by
  induction rules generalizing sheet with
  | nil => exact h
  | cons rule rules ih =>
      obtain ⟨hrule, hrules⟩ := List.forall_mem_cons.1 hrules
      exact ih (h.merge hrule) hrules

/-! ## Rules -/

theorem spells_token (text : Text) : repertoire.Spells (ClassToken.ofText text) := by
  have halphabet : repertoire.Spells ClassToken.alphabet := spells_toList rfl (by decide)
  exact halphabet.subset (ClassToken.ofText_subset_alphabet text)

theorem spells_className {stem : Text} (hstem : repertoire.Spells stem) (atom : Atom) :
    repertoire.Spells (atom.className stem) := by
  rw [Atom.className, spells_append]
  exact ⟨hstem, spells_token _⟩

/-- The rule of an atom of a style. -/
theorem spellsGenerated_rule {stem : Text} (hstem : repertoire.Spells stem) {items : List Item}
    (hitems : ∀ item ∈ items, repertoire.SpellsItem item) {atom : Atom}
    (hatom : atom ∈ Atom.ofItems items) : repertoire.SpellsGenerated (atom.rule stem) := by
  have hfrom := Atom.comesFrom_of_mem hatom
  have hselector (hsuffix : repertoire.Spells atom.suffix) :
      repertoire.Spells (atom.rule stem).selector := by
    rw [Atom.rule, spells_cons, spells_append]
    exact ⟨repertoire.ascii _ (by decide), spells_className hstem atom, hsuffix⟩
  cases atom with
  | plain declarations =>
      refine ⟨SpellsDeclarations.plainBody ?_, hselector spells_nil⟩
      exact fun d hd => hitems _ (hfrom d (List.mem_filter.1 hd).1)
  | pseudoClass rule =>
      have hrule : repertoire.SpellsRule rule := hitems _ hfrom
      exact ⟨hrule.declarations.plainBody, hselector hrule.selector⟩
  | atRule rule =>
      have hrule : repertoire.SpellsRule rule := hitems _ hfrom
      exact ⟨hrule.atRuleBody, hselector spells_nil⟩

/-! ## Elements -/

/-- What takes the place of a style that can be read. -/
theorem Spells.restyle (hstem : repertoire.Spells settings.classStem) {style : Text}
    (hstyle : repertoire.Spells style) {existing : Option Text}
    (hexisting : ∀ text ∈ existing, repertoire.Spells text) {restyled : Restyled}
    (h : (AtomicCss.restyle settings style existing).outcome = .ok restyled) :
    repertoire.SpellsRestyled restyled := by
  obtain ⟨items, hparse, rfl⟩ := outcome_restyle_eq_ok_iff.1 h
  have hitems := hstyle.parse hparse
  constructor
  · have hblank : repertoire.Spells [' '] := spells_of_all_ascii (by decide)
    apply forall_mem_joinClasses (fun _ => spells_joinWith hblank) hexisting
    rw [Compiled.classes_ofItems]
    intro name hname
    obtain ⟨atom, -, rfl⟩ := List.mem_map.1 hname
    exact spells_className hstem atom
  · intro text htext
    dsimp only [Restyled.ofItems] at htext
    split_ifs at htext
    · cases htext
    · cases htext
      apply SpellsDeclarations.print
      exact fun d hd => hitems _ (Compiled.mem_of_mem_residual hd)
  · rw [Restyled.ofItems, Compiled.rules_ofItems]
    intro rule hrule
    obtain ⟨atom, hatom, rfl⟩ := List.mem_map.1 hrule
    exact spellsGenerated_rule hstem hitems hatom

theorem SpellsAttributes.text? (h : repertoire.SpellsAttributes attributes) (name : Text) :
    ∀ text ∈ Attributes.text? name attributes, repertoire.Spells text := by
  intro text htext
  obtain ⟨value, hvalue, rfl⟩ := Option.map_eq_some_iff.1 htext
  cases value with
  | none => exact spells_nil
  | some value => exact (h _ (OrderedMap.mem_of_get? hvalue)).2 value rfl

theorem SpellsRestyled.putClasses {restyled : Restyled} (h : repertoire.SpellsRestyled restyled)
    (hattributes : repertoire.SpellsAttributes attributes) :
    repertoire.SpellsAttributes (restyled.putClasses attributes) := by
  rw [Restyled.putClasses]
  cases hclasses : restyled.classes with
  | none => exact hattributes
  | some classes =>
      apply hattributes.set (spells_toList rfl (by decide))
      rintro _ ⟨⟩
      exact h.classes classes hclasses

theorem SpellsRestyled.putStyle {restyled : Restyled} (h : repertoire.SpellsRestyled restyled)
    (hattributes : repertoire.SpellsAttributes attributes) :
    repertoire.SpellsAttributes (restyled.putStyle attributes) := by
  rw [Restyled.putStyle]
  cases hstyle : restyled.style with
  | none => exact fun entry hentry => hattributes entry (List.mem_filter.1 hentry).1
  | some style =>
      apply hattributes.set (spells_toList rfl (by decide))
      rintro _ ⟨⟩
      exact h.style style hstyle

theorem SpellsRestyled.putsOnto {restyled : Restyled} (h : repertoire.SpellsRestyled restyled)
    (hattributes : repertoire.SpellsAttributes attributes)
    {put : Attributes × Except Fault Unit} (hput : restyled.PutsOnto attributes put) :
    repertoire.SpellsAttributes put.1 := by
  cases hput with
  | classesRefused => exact hattributes
  | styleRefused => exact h.putClasses hattributes
  | done => exact h.putStyle (h.putClasses hattributes)

/-- Restyling the attributes of an element. -/
theorem SpellsAttributes.restyles (hstem : repertoire.Spells settings.classStem)
    (h : repertoire.SpellsAttributes attributes) (hsheet : repertoire.SpellsSheet sheet)
    {left : Attributes × Sheet} {outcome : Except Fault Unit}
    (hrestyles : Restyles settings attributes sheet left outcome) :
    repertoire.SpellsAttributes left.1 ∧ repertoire.SpellsSheet left.2 := by
  cases hrestyles with
  | unstyled => exact ⟨h, hsheet⟩
  | unread => exact ⟨h, hsheet⟩
  | put hread hput =>
      obtain ⟨style, hstyle, hrestyle⟩ := restyled?_eq_some_iff.1 hread
      have hrestyled := Spells.restyle hstem (h.text? styleName style hstyle)
        (h.text? className) hrestyle
      exact ⟨hrestyled.putsOnto h hput, hsheet.mergeAll hrestyled.rules⟩

/-! ## Trees -/

mutual

/-- Restyling a tree brings no other characters into the tree and the sheet. -/
theorem SpellsNode.restyleTree (hstem : repertoire.Spells settings.classStem) {node : Node}
    (h : repertoire.SpellsNode node) {sheet : Sheet} (hsheet : repertoire.SpellsSheet sheet) :
    repertoire.SpellsNode (AtomicCss.restyleTree settings node sheet).state.1 ∧
      repertoire.SpellsSheet (AtomicCss.restyleTree settings node sheet).state.2 := by
  cases node with
  | text content => exact ⟨h, hsheet⟩
  | comment content => exact ⟨h, hsheet⟩
  | instruction target content => exact ⟨h, hsheet⟩
  | element tag attributes children =>
      cases h with
      | element htag hattributes hchildren =>
          obtain ⟨hfirst, hafter⟩ := hattributes.restyles hstem hsheet
            (AtomicCss.restyles settings attributes sheet)
          rw [AtomicCss.restyleTree]
          dsimp only
          split
          · exact ⟨.element htag hfirst hchildren, hafter⟩
          · obtain ⟨hbelow, hsheet'⟩ := SpellsNodes.restyleForest hstem hchildren hafter
            exact ⟨.element htag hfirst hbelow, hsheet'⟩

theorem SpellsNodes.restyleForest (hstem : repertoire.Spells settings.classStem)
    {nodes : List Node} (h : repertoire.SpellsNodes nodes) {sheet : Sheet}
    (hsheet : repertoire.SpellsSheet sheet) :
    repertoire.SpellsNodes (AtomicCss.restyleForest settings nodes sheet).state.1 ∧
      repertoire.SpellsSheet (AtomicCss.restyleForest settings nodes sheet).state.2 := by
  cases nodes with
  | nil => exact ⟨h, hsheet⟩
  | cons node rest =>
      obtain ⟨hnode, hrest⟩ := spellsNodes_cons.1 h
      obtain ⟨hfirst, hafter⟩ := SpellsNode.restyleTree hstem hnode hsheet
      rw [AtomicCss.restyleForest]
      dsimp only
      split
      · exact ⟨spellsNodes_cons.2 ⟨hfirst, hrest⟩, hafter⟩
      · obtain ⟨hothers, hsheet'⟩ := SpellsNodes.restyleForest hstem hrest hafter
        exact ⟨spellsNodes_cons.2 ⟨hfirst, hothers⟩, hsheet'⟩

end

end Repertoire
end AtomicCss
