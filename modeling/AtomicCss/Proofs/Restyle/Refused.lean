import AtomicCss.Pass.Basic
import AtomicCss.Proofs.Restyle.XmlTexts

/-! # What a fault leaves

A style that cannot be read leaves its element and the sheet as they are. A text that a tree does not
allow is refused too late for that: the rules of the style are in the sheet by then, and if the text
is that of the style, the element has its new classes next to its old style. -/

namespace AtomicCss

open Markup Style

variable {settings : Settings} {attributes : Attributes} {sheet : Sheet}

/-! ## New classes are seen -/

/-- The class text changes if there is a class to put into it. -/
theorem joinClasses_ne (existing : Option Text) {name : Text} (hname : name ≠ [])
    (generated : List Text) : joinClasses existing (name :: generated) ≠ existing := by
  have hjoined : Text.joinWith [' '] (name :: generated) ≠ [] := by
    cases generated with
    | nil => exact hname
    | cons next generated => simp
  intro heq
  cases existing with
  | none => simp [joinClasses] at heq
  | some text =>
      cases text with
      | nil =>
          have hempty : Text.joinWith [' '] (name :: generated) = [] := by
            simpa [joinClasses] using heq
          exact hjoined hempty
      | cons c text =>
          -- the old classes stand in front of a space
          simp [joinClasses] at heq

/-- A style of which something stays inline gives a class. -/
theorem Compiled.classes_ne_of_residual {stem : Text} {items : List Item} {declaration : Declaration}
    (h : declaration ∈ (ofItems stem items).residual) :
    ∃ name generated, name ≠ [] ∧ (ofItems stem items).classes = name :: generated := by
  have hmem : declaration ∈ items.filterMap Item.declaration? :=
    Atom.mem_filterMap_declaration?.2 (mem_of_mem_residual h)
  have hplain : (items.filterMap Item.declaration?).isEmpty = false :=
    List.isEmpty_eq_false_iff_exists_mem.2 ⟨declaration, hmem⟩
  rw [classes_ofItems, Atom.ofItems]
  simp only [hplain, Bool.false_eq_true, if_false, List.cons_append, List.map_cons]
  refine ⟨_, _, ?_, rfl⟩
  intro hnil
  have hlength := congrArg List.length hnil
  simp [Atom.className] at hlength

/-- Where a style stays inline, the element is changed as soon as its classes are set. -/
theorem putClasses_ne {restyled : Restyled} (h : restyled? settings attributes = some restyled)
    {style : Text} (hstyle : restyled.style = some style) :
    restyled.putClasses attributes ≠ attributes := by
  have hclasses : restyled.classes ≠ Attributes.text? className attributes ∧
      restyled.classes.isSome := by
    obtain ⟨text, -, hrestyle⟩ := restyled?_eq_some_iff.1 h
    obtain ⟨items, -, rfl⟩ := outcome_restyle_eq_ok_iff.1 hrestyle
    dsimp only [Restyled.ofItems] at hstyle ⊢
    split_ifs at hstyle with hresidual
    obtain ⟨declaration, hmem⟩ := List.isEmpty_eq_false_iff_exists_mem.1
      (Bool.eq_false_iff.2 hresidual)
    obtain ⟨name, generated, hname, hgenerated⟩ := Compiled.classes_ne_of_residual hmem
    rw [hgenerated]
    exact ⟨joinClasses_ne _ hname generated, by simp [joinClasses]⟩
  intro hsame
  have htext := text?_putClasses restyled attributes
  rw [hsame, Option.or_of_isSome hclasses.2] at htext
  exact hclasses.1 htext.symm

/-! ## What is left -/

/-- A call that fails leaves the attributes and the sheet as they were if the style could not be
read, or if the class text is refused and the sheet had the rules of the style already. -/
theorem Restyles.eq_iff {left : Attributes × Sheet} {fault : Fault}
    (h : Restyles settings attributes sheet left (.error fault)) :
    left = (attributes, sheet) ↔
      (∃ error, fault = .style error) ∨
        ∃ restyled ∈ restyled? settings attributes,
          (∃ classes ∈ restyled.classes, isXmlText classes = false) ∧
            sheet.mergeAll restyled.rules = sheet := by
  cases h with
  | unread herror => exact iff_of_true rfl (Or.inl ⟨_, rfl⟩)
  | put hread hput =>
      cases hput with
      | classesRefused hclasses hrefused =>
          constructor
          · intro hsame
            exact Or.inr ⟨_, hread, ⟨_, hclasses, hrefused⟩, (Prod.mk.inj hsame).2⟩
          · rintro (⟨error, herror⟩ | ⟨restyled, hrestyled, -, hsheet⟩)
            · cases herror
            · cases hread.symm.trans hrestyled
              rw [hsheet]
      | styleRefused hclasses hstyle hrefused =>
          refine iff_of_false (fun hsame => putClasses_ne hread hstyle (Prod.mk.inj hsame).1) ?_
          rintro (⟨error, herror⟩ | ⟨restyled, hrestyled, ⟨classes, hmem, hno⟩, -⟩)
          · cases herror
          · cases hread.symm.trans hrestyled
            exact absurd (hclasses classes hmem) (by simp [hno])

/-- Collecting the style of a node fails where restyling the node does. -/
theorem collectElement_of_error {node : Node} {fault : Fault}
    (h : (restyleElement settings node sheet).outcome = .error fault) :
    (Pass.collectElement settings node sheet).outcome = .error fault := by
  rw [Pass.collectElement, h]
  rfl

/-- Where restyling an element fails, so does collecting its style, with the same fault and the
same sheet. The element and the sheet stay as they are if the style cannot be read. A refused text
leaves the rules of the style in the sheet, and the text of a style that is refused leaves the new
classes as well; only where the class text is refused and the sheet had all the rules before is
nothing changed. With an allowed stem and allowed attributes nothing is ever refused. -/
theorem restyleElement_keeps_iff {tag : Text} {children : List Node} {fault : Fault}
    (h : (restyleElement settings (.element tag attributes children) sheet).outcome =
      .error fault) :
    let left := (restyleElement settings (.element tag attributes children) sheet).state
    let collected := Pass.collectElement settings (.element tag attributes children) sheet
    collected.outcome = .error fault ∧ collected.state = left.2 ∧
    (∃ changed, left.1 = .element tag changed children ∧
      Restyles settings attributes sheet (changed, left.2) (.error fault)) ∧
    (left = (.element tag attributes children, sheet) ↔
      (∃ error, fault = .style error) ∨
        ∃ restyled ∈ restyled? settings attributes,
          (∃ classes ∈ restyled.classes, isXmlText classes = false) ∧
            sheet.mergeAll restyled.rules = sheet) ∧
    (isXmlText settings.classStem → HasXmlValues attributes →
      left = (.element tag attributes children, sheet)) := by
  intro left collected
  have hfault : (restyleAttributes settings attributes sheet).outcome = .error fault := h
  have hleft := restyles settings attributes sheet
  rw [hfault] at hleft
  have hkeeps : left = (.element tag attributes children, sheet) ↔
      (restyleAttributes settings attributes sheet).state = (attributes, sheet) := by
    simp [left, restyleElement, Prod.ext_iff]
  refine ⟨collectElement_of_error h, rfl, ⟨_, rfl, hleft⟩, hkeeps.trans hleft.eq_iff, ?_⟩
  intro hstem hvalues
  rw [hkeeps, hleft.eq_iff]
  -- such an element fails only for its style
  have houtcome := outcome_restyleAttributes hstem hvalues sheet
  rw [hfault] at houtcome
  cases herror : styleError? settings attributes with
  | none =>
      rw [herror] at houtcome
      cases houtcome
  | some error =>
      rw [herror] at houtcome
      exact Or.inl ⟨error, Except.error.inj houtcome⟩

/-- The attributes of a paragraph with a class that a tree does not allow. -/
def oddClass : Attributes :=
  [(className, some ['\x01']), (styleName, some "color: red".toList)]

/-- The paragraph is refused, and refused again. Only the second time is nothing changed. -/
theorem oddClass_kept_when_refused_again :
    let refused := restyleElement .standard (.element ['p'] oddClass [])
    let once := (refused .empty).state.2
    once ≠ .empty ∧ (refused once).outcome = .error .notXmlText ∧
      (refused once).state = (.element ['p'] oddClass [], once) := by
  intro refused once
  have hfault : once ≠ .empty ∧ (refused once).outcome = .error .notXmlText := by decide +kernel
  have hrules : ∃ restyled ∈ restyled? .standard oddClass,
      (∃ classes ∈ restyled.classes, isXmlText classes = false) ∧
        once.mergeAll restyled.rules = once := by decide +kernel
  obtain ⟨-, -, -, hkeeps, -⟩ := restyleElement_keeps_iff hfault.2
  exact ⟨hfault.1, hfault.2, hkeeps.2 (Or.inr hrules)⟩

/-- The attributes of a paragraph whose style has a custom property that a tree does not allow. -/
def oddStyle : Attributes := [(styleName, some "color: red; --x: \x01".toList)]

/-- Restyling is not all or nothing: the call fails, the paragraph has a new class next to its old
style, and the rule of the class is in the sheet. -/
theorem oddStyle_half_restyled :
    let refused := restyleElement .standard (.element ['p'] oddStyle []) .empty
    (Pass.collectElement .standard (.element ['p'] oddStyle []) .empty).outcome =
        .error .notXmlText ∧
      refused.outcome = .error .notXmlText ∧
      refused.state.1.elements = [(['p'], oddStyle ++ [(className, some "hw_CTY41".toList)])] ∧
      refused.state.2 =
        Sheet.empty.merge ⟨placeholder ++ " \x7b color: red \x7d".toList, ".hw_CTY41".toList⟩ ∧
      refused.state ≠ (.element ['p'] oddStyle [], .empty) := by
  intro refused
  have hsheet : refused.state.2 =
      Sheet.empty.merge ⟨placeholder ++ " \x7b color: red \x7d".toList, ".hw_CTY41".toList⟩ := by
    decide +kernel
  have houtcome : refused.outcome = .error .notXmlText ∧
      refused.state.1.elements = [(['p'], oddStyle ++ [(className, some "hw_CTY41".toList)])] := by
    decide +kernel
  refine ⟨?_, houtcome.1, houtcome.2, hsheet, ?_⟩
  · exact collectElement_of_error houtcome.1
  · intro hsame
    rw [hsame] at hsheet
    cases hsheet

end AtomicCss
