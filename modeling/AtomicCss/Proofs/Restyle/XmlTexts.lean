import AtomicCss.Proofs.Restyle.Characters

/-! # Texts that a tree allows

Where the stem of the classes and the texts of an element are allowed in a tree, so are the texts that
restyling gives the element. Then restyling fails only for a style that cannot be read. -/

namespace AtomicCss

open Markup Style

section

variable {text first second : Text}

theorem isXmlText_iff : isXmlText text ↔ ∀ c ∈ text, isXmlChar c := List.all_eq_true

theorem isXmlText_append : isXmlText (first ++ second) ↔ isXmlText first ∧ isXmlText second := by
  rw [isXmlText, List.all_append, Bool.and_eq_true]
  rfl

theorem isXmlText_of_subset (h : isXmlText second) (hsubset : first ⊆ second) :
    isXmlText first :=
  isXmlText_iff.2 fun c hc => isXmlText_iff.1 h c (hsubset hc)

theorem isXmlText_joinWith {separator : Text} (hseparator : isXmlText separator)
    {parts : List Text} (h : ∀ part ∈ parts, isXmlText part) :
    isXmlText (Text.joinWith separator parts) :=
  isXmlText_iff.2 (Text.forall_mem_joinWith (isXmlText_iff.1 hseparator)
    fun part hpart => isXmlText_iff.1 (h part hpart))

end

/-! ## Classes and styles -/

theorem isXmlText_className {stem : Text} (hstem : isXmlText stem) (atom : Atom) :
    isXmlText (atom.className stem) := by
  have halphabet : isXmlText ClassToken.alphabet := by decide
  exact isXmlText_append.2
    ⟨hstem, isXmlText_of_subset halphabet (ClassToken.ofText_subset_alphabet _)⟩

theorem isXmlText_printDeclarations {text : Text} (htext : isXmlText text)
    {declarations : List Declaration} (h : ∀ d ∈ declarations, d.IsFrom text) :
    isXmlText (printDeclarations declarations) := by
  apply isXmlText_joinWith (by decide)
  intro part hpart
  obtain ⟨declaration, hmem, rfl⟩ := List.mem_map.1 hpart
  obtain ⟨hname, hvalue⟩ := h declaration hmem
  rw [Declaration.print, isXmlText_append, isXmlText_append]
  exact ⟨⟨isXmlText_of_subset htext hname, by decide⟩, isXmlText_of_subset htext hvalue⟩

/-! ## Elements -/

variable {settings : Settings}

theorem hasXmlTexts_of_restyle (hstem : isXmlText settings.classStem) {style : Text}
    (hstyle : isXmlText style) {existing : Option Text}
    (hexisting : ∀ text ∈ existing, isXmlText text) {restyled : Restyled}
    (h : (restyle settings style existing).outcome = .ok restyled) : restyled.HasXmlTexts := by
  obtain ⟨items, hparse, rfl⟩ := outcome_restyle_eq_ok_iff.1 h
  constructor
  · apply forall_mem_joinClasses (fun _ => isXmlText_joinWith (by decide)) hexisting
    rw [Compiled.classes_ofItems]
    intro name hname
    obtain ⟨atom, -, rfl⟩ := List.mem_map.1 hname
    exact isXmlText_className hstem atom
  · intro text htext
    dsimp only [Restyled.ofItems] at htext
    split_ifs at htext
    · cases htext
    · cases htext
      apply isXmlText_printDeclarations hstyle
      exact fun d hd => isFrom_of_parse hparse _ (Compiled.mem_of_mem_residual hd)

/-- The texts of attributes are allowed in a tree. -/
def HasXmlValues (attributes : Attributes) : Prop :=
  ∀ entry ∈ attributes, isXmlText (entry.2.getD [])

instance (attributes : Attributes) : Decidable (HasXmlValues attributes) :=
  List.decidableBAll _ attributes

theorem HasXmlValues.text? {attributes : Attributes} (h : HasXmlValues attributes) (name : Text) :
    ∀ text ∈ Attributes.text? name attributes, isXmlText text := by
  intro text htext
  obtain ⟨value, hvalue, rfl⟩ := Option.map_eq_some_iff.1 htext
  exact h _ (OrderedMap.mem_of_get? hvalue)

theorem hasXmlTexts_of_restyled? (hstem : isXmlText settings.classStem) {attributes : Attributes}
    (h : HasXmlValues attributes) {restyled : Restyled}
    (hread : restyled? settings attributes = some restyled) : restyled.HasXmlTexts := by
  obtain ⟨style, hstyle, hrestyle⟩ := restyled?_eq_some_iff.1 hread
  exact hasXmlTexts_of_restyle hstem (h.text? styleName style hstyle) (h.text? className) hrestyle

/-- An element whose texts are allowed in a tree cannot be restyled exactly if its style cannot be
read. -/
theorem outcome_restyleAttributes (hstem : isXmlText settings.classStem) {attributes : Attributes}
    (h : HasXmlValues attributes) (sheet : Sheet) :
    (restyleAttributes settings attributes sheet).outcome =
      match styleError? settings attributes with
      | some error => .error (.style error)
      | none => .ok () := by
  have hrestyles := restyles settings attributes sheet
  generalize (restyleAttributes settings attributes sheet).state = left,
    (restyleAttributes settings attributes sheet).outcome = outcome at hrestyles ⊢
  cases hrestyles with
  | unstyled hstyle => simp only [styleError?, hstyle]
  | unread herror => simp only [herror]
  | put hread hput =>
      have htexts := hasXmlTexts_of_restyled? hstem h hread
      rw [styleError?_eq_none hread]
      cases hput.eq_done htexts
      rfl

end AtomicCss
