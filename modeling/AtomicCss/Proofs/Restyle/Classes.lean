import AtomicCss.Proofs.OrderedMap
import AtomicCss.Proofs.Outcome
import AtomicCss.Restyle.Element

/-! # The classes of a restyled element

A style that can be read gives classes. They follow the class value that the element has, in an
attribute mapping and in a tree alike; an element that gets no class keeps its value. -/

namespace AtomicCss

open Markup Style

/-! ## Compiling a style -/

theorem outcome_compileStyle (settings : Settings) (style : Text) :
    (compileStyle settings style).outcome =
      (parse settings.strict style).outcome.map (Compiled.ofItems settings.classStem) := by
  rw [compileStyle, Logged.outcome_andThen]
  cases (parse settings.strict style).outcome <;> rfl

/-- What is left of restyling where the style can be compiled. -/
theorem exists_outcome_restyle {settings : Settings} {style : Text} {compiled : Compiled}
    (h : (compileStyle settings style).outcome = .ok compiled) (existing : Option Text) :
    ∃ restyled, (restyle settings style existing).outcome = .ok restyled ∧
      restyled.classes = joinClasses existing compiled.classes ∧
      restyled.rules = compiled.rules := by
  rw [restyle, Logged.outcome_map, h]
  exact ⟨_, rfl, rfl, rfl⟩

theorem outcome_restyle_error {settings : Settings} {style : Text} {error : StyleError}
    (h : (compileStyle settings style).outcome = .error error) (existing : Option Text) :
    (restyle settings style existing).outcome = .error error := by
  rw [restyle, Logged.outcome_map, h]
  rfl

/-- What takes the place of a style with these items, next to the class value `existing`. -/
def Restyled.ofItems (stem : Text) (existing : Option Text) (items : List Item) : Restyled :=
  let compiled := Compiled.ofItems stem items
  { classes := joinClasses existing compiled.classes
    style :=
      if compiled.residual.isEmpty then none else some (printDeclarations compiled.residual)
    rules := compiled.rules }

theorem outcome_restyle (settings : Settings) (style : Text) (existing : Option Text) :
    (restyle settings style existing).outcome =
      (parse settings.strict style).outcome.map
        (Restyled.ofItems settings.classStem existing) := by
  rw [restyle, Logged.outcome_map, outcome_compileStyle]
  cases (parse settings.strict style).outcome <;> rfl

theorem outcome_restyle_eq_ok_iff {settings : Settings} {style : Text} {existing : Option Text}
    {restyled : Restyled} :
    (restyle settings style existing).outcome = .ok restyled ↔
      ∃ items, (parse settings.strict style).outcome = .ok items ∧
        Restyled.ofItems settings.classStem existing items = restyled := by
  rw [outcome_restyle, Outcome.map_eq_ok_iff]

/-! ## Joining -/

/-- The class text that joining gives, where nothing counts as the empty text. -/
theorem joinClasses_getD (existing : Option Text) (generated : List Text) :
    (joinClasses existing generated).getD [] =
      Text.joinWith [' '] ((existing.toList.filter fun text => !text.isEmpty) ++ generated) := by
  simp only [joinClasses]
  split_ifs with h
  · rw [List.isEmpty_iff.1 h]
    rfl
  · rfl

/-- What holds of the classes and is kept by joining holds of what joining gives. -/
theorem forall_mem_joinClasses {p : Text → Prop}
    (hjoin : ∀ parts, (∀ part ∈ parts, p part) → p (Text.joinWith [' '] parts))
    {existing : Option Text} (hexisting : ∀ text ∈ existing, p text) {generated : List Text}
    (hgenerated : ∀ name ∈ generated, p name) :
    ∀ classes ∈ joinClasses existing generated, p classes := by
  intro classes hclasses
  simp only [joinClasses] at hclasses
  split_ifs at hclasses
  · cases hclasses
  · cases hclasses
    apply hjoin
    intro part hpart
    rcases List.mem_append.1 hpart with hpart | hpart
    · exact hexisting part (Option.mem_toList.1 (List.mem_filter.1 hpart).1)
    · exact hgenerated part hpart

/-- Where joining gives nothing, the class text is empty already. -/
theorem getD_eq_nil_of_joinClasses_eq_none {existing : Option Text} {generated : List Text}
    (h : joinClasses existing generated = none) : existing.getD [] = [] := by
  cases existing with
  | none => rfl
  | some text =>
      cases text with
      | nil => rfl
      | cons c text => simp [joinClasses] at h

/-- The class text of an element whose classes are joined where there are any. -/
theorem joinClasses_or_getD (existing : Option Text) (generated : List Text) :
    ((joinClasses existing generated).or existing).getD [] =
      Text.joinWith [' '] ((existing.toList.filter fun text => !text.isEmpty) ++ generated) := by
  rw [← joinClasses_getD]
  cases hjoin : joinClasses existing generated with
  | none => simpa using getD_eq_nil_of_joinClasses_eq_none hjoin
  | some classes => rfl

/-! ## Attributes with the results put in -/

theorem get?_putInto (restyled : Restyled) (attributes : OrderedMap Value) :
    OrderedMap.get? className (restyled.putInto attributes) =
      (restyled.classes.map Value.text).or (OrderedMap.get? className attributes) := by
  have hname : className ≠ styleName := by decide
  obtain ⟨classes, style, rules⟩ := restyled
  cases classes <;> cases style <;>
    simp [Restyled.putInto, OrderedMap.set, OrderedMap.get?_alter_of_ne hname,
      OrderedMap.get?_erase_of_ne hname, OrderedMap.get?_alter_self]

/-- A mapping has the new classes, or the old ones if none are new. -/
theorem classText?_putInto {attributes : OrderedMap Value} {existing : Option Text}
    (h : classText? attributes = .ok existing) (restyled : Restyled) :
    classText? (restyled.putInto attributes) = .ok (restyled.classes.or existing) := by
  rw [classText?, get?_putInto]
  cases hclasses : restyled.classes with
  | none => simpa [classText?] using h
  | some classes => rfl

/-- The attributes of an element with the new classes, if any are new. -/
def Restyled.putClasses (restyled : Restyled) (attributes : Attributes) : Attributes :=
  match restyled.classes with
  | some classes => OrderedMap.set className (some classes) attributes
  | none => attributes

/-- The attributes of an element with the style set or taken out. -/
def Restyled.putStyle (restyled : Restyled) (attributes : Attributes) : Attributes :=
  match restyled.style with
  | some style => OrderedMap.set styleName (some style) attributes
  | none => OrderedMap.erase styleName attributes

/-- The new texts of an element are allowed in a tree. -/
structure Restyled.HasXmlTexts (restyled : Restyled) : Prop where
  classes : ∀ classes ∈ restyled.classes, isXmlText classes
  style : ∀ style ∈ restyled.style, isXmlText style

/-- The attributes and the outcome of putting the results onto the attributes of an element. The
classes are set first, and stay if the style is refused. -/
inductive Restyled.PutsOnto (restyled : Restyled) (attributes : Attributes) :
    Attributes × Except Fault Unit → Prop
  | classesRefused {classes : Text} (hclasses : restyled.classes = some classes)
      (hrefused : isXmlText classes = false) :
      PutsOnto restyled attributes (attributes, .error .notXmlText)
  | styleRefused {style : Text} (hclasses : ∀ classes ∈ restyled.classes, isXmlText classes)
      (hstyle : restyled.style = some style) (hrefused : isXmlText style = false) :
      PutsOnto restyled attributes (restyled.putClasses attributes, .error .notXmlText)
  | done (htexts : restyled.HasXmlTexts) :
      PutsOnto restyled attributes (restyled.putStyle (restyled.putClasses attributes), .ok ())

/-- Allowed texts are not refused. -/
theorem Restyled.PutsOnto.eq_done {restyled : Restyled} {attributes : Attributes}
    {put : Attributes × Except Fault Unit} (h : restyled.PutsOnto attributes put)
    (htexts : restyled.HasXmlTexts) :
    put = (restyled.putStyle (restyled.putClasses attributes), .ok ()) := by
  cases h with
  | classesRefused hclasses hrefused =>
      exact absurd (htexts.classes _ hclasses) (by simp [hrefused])
  | styleRefused _ hstyle hrefused => exact absurd (htexts.style _ hstyle) (by simp [hrefused])
  | done => rfl

theorem setText_cases (name value : Text) (attributes : Attributes) :
    isXmlText value ∧
        setText name value attributes = .ok (OrderedMap.set name (some value) attributes) ∨
      isXmlText value = false ∧ setText name value attributes = .error .notXmlText := by
  rw [setText]
  cases isXmlText value with
  | true => exact Or.inl ⟨rfl, rfl⟩
  | false => exact Or.inr ⟨rfl, rfl⟩

theorem Restyled.putsOnto (restyled : Restyled) (attributes : Attributes) :
    restyled.PutsOnto attributes (restyled.putOnto attributes) := by
  -- the style is put onto the attributes that have the classes already
  have hstyled (hclasses : ∀ classes ∈ restyled.classes, isXmlText classes)
      (hput : restyled.putOnto attributes =
        Restyled.putOnto { restyled with classes := none } (restyled.putClasses attributes)) :
      restyled.PutsOnto attributes (restyled.putOnto attributes) := by
    rw [hput]
    cases hstyle : restyled.style with
    | none =>
        have hdone : restyled.PutsOnto attributes _ := .done ⟨hclasses, by simp [hstyle]⟩
        simpa [Restyled.putOnto, putStyle, hstyle] using hdone
    | some style =>
        rcases setText_cases styleName style (restyled.putClasses attributes) with
          ⟨hxml, hset⟩ | ⟨hrefused, hset⟩
        · have hdone : restyled.PutsOnto attributes _ :=
            .done ⟨hclasses, by simp [hstyle, hxml]⟩
          simpa [Restyled.putOnto, putStyle, hstyle, hset] using hdone
        · have hdone : restyled.PutsOnto attributes _ := .styleRefused hclasses hstyle hrefused
          simpa [Restyled.putOnto, hset] using hdone
  cases hclasses : restyled.classes with
  | none =>
      apply hstyled
      · simp [hclasses]
      · simp [Restyled.putOnto, putClasses, hclasses]
  | some classes =>
      rcases setText_cases className classes attributes with ⟨hxml, hset⟩ | ⟨hrefused, hset⟩
      · apply hstyled
        · simp [hclasses, hxml]
        · simp [Restyled.putOnto, putClasses, hclasses, hset]
      · have hdone : restyled.PutsOnto attributes _ := .classesRefused hclasses hrefused
        simpa [Restyled.putOnto, hclasses, hset] using hdone

theorem text?_set_self (name value : Text) (attributes : Attributes) :
    Attributes.text? name (OrderedMap.set name (some value) attributes) = some value := by
  rw [Attributes.text?, OrderedMap.set, OrderedMap.get?_alter_self]
  rfl

theorem text?_set_of_ne {name other : Text} (h : other ≠ name) (value : Option Text)
    (attributes : Attributes) :
    Attributes.text? other (OrderedMap.set name value attributes) =
      Attributes.text? other attributes := by
  rw [Attributes.text?, OrderedMap.set, OrderedMap.get?_alter_of_ne h, Attributes.text?]

theorem text?_putClasses (restyled : Restyled) (attributes : Attributes) :
    Attributes.text? className (restyled.putClasses attributes) =
      restyled.classes.or (Attributes.text? className attributes) := by
  rw [Restyled.putClasses]
  cases restyled.classes with
  | none => rfl
  | some classes => exact text?_set_self className classes attributes

/-- Setting or taking out the style leaves the class alone. -/
theorem text?_putStyle (restyled : Restyled) (attributes : Attributes) :
    Attributes.text? className (restyled.putStyle attributes) =
      Attributes.text? className attributes := by
  have hname : className ≠ styleName := by decide
  rw [Restyled.putStyle]
  cases restyled.style with
  | none => simp only [Attributes.text?, OrderedMap.get?_erase_of_ne hname]
  | some style => exact text?_set_of_ne hname (some style) attributes

/-- An element has the new classes, or the old ones if none are new, unless a text is refused. -/
theorem text?_putOnto {restyled : Restyled} {attributes : Attributes}
    (h : (restyled.putOnto attributes).2 = .ok ()) :
    Attributes.text? className (restyled.putOnto attributes).1 =
      restyled.classes.or (Attributes.text? className attributes) := by
  have hputs := restyled.putsOnto attributes
  generalize restyled.putOnto attributes = put at h hputs ⊢
  cases hputs with
  | classesRefused => cases h
  | styleRefused => cases h
  | done => rw [text?_putStyle, text?_putClasses]

/-! ## Other attributes -/

namespace Markup.Attributes

/-- The attributes that are neither the class nor the style. -/
def others (attributes : Attributes) : Attributes :=
  attributes.filter fun (name, _) => name ≠ className && name ≠ styleName

variable {attributes : Attributes}

theorem others_set {name : Text} (h : name = className ∨ name = styleName) (value : Option Text) :
    others (OrderedMap.set name value attributes) = others attributes :=
  OrderedMap.filter_alter (by rcases h with rfl | rfl <;> simp) _

theorem others_erase : others (OrderedMap.erase styleName attributes) = others attributes :=
  OrderedMap.filter_erase (by simp)

end Markup.Attributes

theorem others_putClasses (restyled : Restyled) (attributes : Attributes) :
    (restyled.putClasses attributes).others = attributes.others := by
  rw [Restyled.putClasses]
  cases restyled.classes with
  | none => rfl
  | some classes => exact Attributes.others_set (Or.inl rfl) (some classes)

theorem others_putStyle (restyled : Restyled) (attributes : Attributes) :
    (restyled.putStyle attributes).others = attributes.others := by
  rw [Restyled.putStyle]
  cases restyled.style with
  | none => exact Attributes.others_erase
  | some style => exact Attributes.others_set (Or.inr rfl) (some style)

/-! ## One element -/

/-- A style that cannot be read leaves the attributes and the sheet as they are. -/
theorem restyleAttributes_of_error {settings : Settings} {attributes : Attributes} {style : Text}
    {error : StyleError} (hstyle : Attributes.text? styleName attributes = some style)
    (h : (compileStyle settings style).outcome = .error error) (sheet : Sheet) :
    (restyleAttributes settings attributes sheet).state = (attributes, sheet) ∧
      (restyleAttributes settings attributes sheet).outcome = .error (.style error) := by
  simp only [restyleAttributes, hstyle, outcome_restyle_error h, and_self]

/-- The rules of a style that can be read go into the sheet, even if a text is refused. -/
theorem restyleAttributes_of_ok {settings : Settings} {attributes : Attributes} {style : Text}
    {restyled : Restyled} (hstyle : Attributes.text? styleName attributes = some style)
    (h : (restyle settings style (Attributes.text? className attributes)).outcome = .ok restyled)
    (sheet : Sheet) :
    (restyleAttributes settings attributes sheet).state =
        ((restyled.putOnto attributes).1, sheet.mergeAll restyled.rules) ∧
      (restyleAttributes settings attributes sheet).outcome =
        (restyled.putOnto attributes).2 := by
  simp only [restyleAttributes, hstyle, h, and_self]

/-! ## What restyling an element can do -/

variable {settings : Settings} {attributes : Attributes} {restyled : Restyled}

/-- The fault for which the style of an element cannot be read, if there is one. -/
def styleError? (settings : Settings) (attributes : Attributes) : Option StyleError :=
  match Attributes.text? styleName attributes with
  | none => none
  | some style =>
      match (parse settings.strict style).outcome with
      | .error error => some error
      | .ok _ => none

/-- What takes the place of the style of an element, if it has one that can be read. -/
def restyled? (settings : Settings) (attributes : Attributes) : Option Restyled :=
  match Attributes.text? styleName attributes with
  | none => none
  | some style =>
      (restyle settings style (Attributes.text? className attributes)).outcome.toOption

theorem restyled?_eq_some_iff :
    restyled? settings attributes = some restyled ↔
      ∃ style, Attributes.text? styleName attributes = some style ∧
        (restyle settings style (Attributes.text? className attributes)).outcome =
          .ok restyled := by
  rw [restyled?]
  cases hstyle : Attributes.text? styleName attributes with
  | none => simp
  | some style => simp [Outcome.toOption_eq_some_iff]

/-- What is left of the attributes of an element and of the sheet, and the outcome. The rules of a style
that can be read go into the sheet before a text is refused. -/
inductive Restyles (settings : Settings) (attributes : Attributes) (sheet : Sheet) :
    Attributes × Sheet → Except Fault Unit → Prop
  | unstyled (hstyle : Attributes.text? styleName attributes = none) :
      Restyles settings attributes sheet (attributes, sheet) (.ok ())
  | unread {error : StyleError} (herror : styleError? settings attributes = some error) :
      Restyles settings attributes sheet (attributes, sheet) (.error (.style error))
  | put {restyled : Restyled} (hread : restyled? settings attributes = some restyled)
      {changed : Attributes} {outcome : Except Fault Unit}
      (hput : restyled.PutsOnto attributes (changed, outcome)) :
      Restyles settings attributes sheet (changed, sheet.mergeAll restyled.rules) outcome

theorem restyles (settings : Settings) (attributes : Attributes) (sheet : Sheet) :
    Restyles settings attributes sheet (restyleAttributes settings attributes sheet).state
      (restyleAttributes settings attributes sheet).outcome := by
  cases hstyle : Attributes.text? styleName attributes with
  | none =>
      simp only [restyleAttributes, hstyle]
      exact .unstyled hstyle
  | some style =>
      have hcompile := outcome_compileStyle settings style
      cases hparse : (parse settings.strict style).outcome with
      | error error =>
          rw [hparse] at hcompile
          obtain ⟨hstate, houtcome⟩ := restyleAttributes_of_error hstyle hcompile sheet
          rw [hstate, houtcome]
          exact .unread (by simp only [styleError?, hstyle, hparse])
      | ok items =>
          rw [hparse] at hcompile
          obtain ⟨restyled, hrestyle, -⟩ :=
            exists_outcome_restyle hcompile (Attributes.text? className attributes)
          obtain ⟨hstate, houtcome⟩ := restyleAttributes_of_ok hstyle hrestyle sheet
          rw [hstate, houtcome]
          exact .put (restyled?_eq_some_iff.2 ⟨style, hstyle, hrestyle⟩)
            (restyled.putsOnto attributes)

/-- Restyling changes no attribute but the class and the style, whether it fails or not. -/
theorem Restyles.others_eq {sheet : Sheet} {left : Attributes × Sheet}
    {outcome : Except Fault Unit} (h : Restyles settings attributes sheet left outcome) :
    left.1.others = attributes.others := by
  cases h with
  | unstyled => rfl
  | unread => rfl
  | put hread hput =>
      cases hput with
      | classesRefused => rfl
      | styleRefused => exact others_putClasses _ attributes
      | done => rw [others_putStyle, others_putClasses]

/-- A style is read or it is not. -/
theorem styleError?_eq_none (h : restyled? settings attributes = some restyled) :
    styleError? settings attributes = none := by
  obtain ⟨style, hstyle, hrestyle⟩ := restyled?_eq_some_iff.1 h
  obtain ⟨items, hparse, -⟩ := outcome_restyle_eq_ok_iff.1 hrestyle
  simp only [styleError?, hstyle, hparse]

end AtomicCss
