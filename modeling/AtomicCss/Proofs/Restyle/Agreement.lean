import AtomicCss.Proofs.Restyle.XmlTexts

/-! # Mappings and elements

An element can be restyled in a tree, or by itself as a mapping of its attributes. Where its texts
are allowed in a tree, the two agree: the attributes, the sheet, the notices and the failure are the
same. A call that fails changes nothing. A call that does not fail changes the class and the style
only: the class text is extended by the classes of the style, and the custom properties stay. -/

namespace AtomicCss

open Markup Style

/-! ## The attributes of an element as a mapping -/

/-- The attributes as a mapping; the text of an attribute without a value is empty. -/
def Markup.Attributes.toMapping (attributes : Attributes) : OrderedMap Value :=
  OrderedMap.mapValues (fun value => .text (value.getD [])) attributes

section

variable (attributes : Attributes)

theorem get?_toMapping (name : Text) :
    OrderedMap.get? name attributes.toMapping =
      (Attributes.text? name attributes).map Value.text := by
  rw [Attributes.toMapping, OrderedMap.get?_mapValues, Attributes.text?, Option.map_map]
  rfl

theorem classText?_toMapping :
    classText? attributes.toMapping = .ok (Attributes.text? className attributes) := by
  rw [classText?, get?_toMapping]
  cases Attributes.text? className attributes <;> rfl

theorem toMapping_set (name value : Text) :
    Attributes.toMapping (OrderedMap.set name (some value) attributes) =
      OrderedMap.set name (.text value) attributes.toMapping := by
  rw [Attributes.toMapping, OrderedMap.mapValues_set]
  rfl

theorem toMapping_erase (name : Text) :
    Attributes.toMapping (OrderedMap.erase name attributes) =
      OrderedMap.erase name attributes.toMapping :=
  OrderedMap.mapValues_erase _ name attributes

/-- Putting the results into the mapping is putting them onto the attributes. -/
theorem putInto_toMapping (restyled : Restyled) :
    restyled.putInto attributes.toMapping =
      (restyled.putStyle (restyled.putClasses attributes)).toMapping := by
  obtain ⟨classes, style, rules⟩ := restyled
  cases classes <;> cases style <;>
    simp only [Restyled.putInto, Restyled.putClasses, Restyled.putStyle, toMapping_set,
      toMapping_erase]

end

/-! ## Effects -/

/-- The effect of a computation that gives a new state. One that fails gives none, so the state is
kept. -/
def Logged.toEffect {σ : Type} (state : σ) (logged : Logged StyleError σ) : Effect σ Unit :=
  match logged.outcome with
  | .ok next => ⟨next, logged.notices, .ok ()⟩
  | .error error => ⟨state, logged.notices, .error (.style error)⟩

/-! ## What restyling makes of attributes -/

/-- The style is what stays inline, if anything does. -/
theorem text?_style_putStyle (restyled : Restyled) (attributes : Attributes) :
    Attributes.text? styleName (restyled.putStyle attributes) = restyled.style := by
  rw [Restyled.putStyle]
  cases restyled.style with
  | none => rw [Attributes.text?, OrderedMap.get?_erase_self, Option.map_none]
  | some style => exact text?_set_self styleName style attributes

/-- The attributes after restyling, where the style has these items: the class text is followed by
the classes of the style, its custom properties make up the new style, and everything else is as it
was before. -/
structure IsRestyled (stem : Text) (items : List Item) (before after : Attributes) : Prop where
  others : after.others = before.others
  hasClass : (Attributes.text? className after).isSome ↔
    (Attributes.text? className before).isSome ∨ (Compiled.ofItems stem items).classes ≠ []
  classText : (Attributes.text? className after).getD [] =
    Text.joinWith [' '] (((Attributes.text? className before).toList.filter
      fun text => !text.isEmpty) ++ (Compiled.ofItems stem items).classes)
  hasStyle : (Attributes.text? styleName after).isSome ↔
    ∃ declaration, .declaration declaration ∈ items ∧ declaration.isCustom
  styleText : ∀ text ∈ Attributes.text? styleName after, text =
    printDeclarations ((items.filterMap Item.declaration?).filter Declaration.isCustom)

theorem isSome_joinClasses_or (existing : Option Text) (generated : List Text) :
    ((joinClasses existing generated).or existing).isSome ↔
      existing.isSome ∨ generated ≠ [] := by
  cases existing with
  | none => cases generated <;> simp [joinClasses]
  | some text => simp

theorem isRestyled_ofItems (stem : Text) (items : List Item) (attributes : Attributes) :
    let restyled := Restyled.ofItems stem (Attributes.text? className attributes) items
    IsRestyled stem items attributes (restyled.putStyle (restyled.putClasses attributes)) := by
  intro restyled
  constructor
  · rw [others_putStyle, others_putClasses]
  · rw [text?_putStyle, text?_putClasses]
    exact isSome_joinClasses_or _ _
  · rw [text?_putStyle, text?_putClasses]
    exact joinClasses_or_getD _ _
  · simp only [text?_style_putStyle, restyled, Restyled.ofItems, Compiled.residual_ofItems,
      ← Atom.mem_filterMap_declaration?, ← List.mem_filter, ← List.isEmpty_eq_false_iff_exists_mem]
    split_ifs with hempty <;> simp [hempty]
  · simp only [text?_style_putStyle, restyled, Restyled.ofItems, Compiled.residual_ofItems]
    intro text htext
    split_ifs at htext
    · cases htext
    · exact (Option.some.inj htext).symm

/-- What is left of the attributes of an element and of the sheet, and the outcome, where no text is
refused. -/
inductive RestylesOrKeeps (settings : Settings) (attributes : Attributes) (sheet : Sheet) :
    Attributes × Sheet → Except Fault Unit → Prop
  | unstyled (hstyle : Attributes.text? styleName attributes = none) :
      RestylesOrKeeps settings attributes sheet (attributes, sheet) (.ok ())
  | unread {error : StyleError} (herror : styleError? settings attributes = some error) :
      RestylesOrKeeps settings attributes sheet (attributes, sheet) (.error (.style error))
  | restyled {style : Text} {items : List Item} {after : Attributes}
      (hstyle : Attributes.text? styleName attributes = some style)
      (hparse : (parse settings.strict style).outcome = .ok items)
      (hafter : IsRestyled settings.classStem items attributes after) :
      RestylesOrKeeps settings attributes sheet
        (after, sheet.mergeAll (Compiled.ofItems settings.classStem items).rules) (.ok ())

/-! ## Agreement -/

section

variable {settings : Settings} (hstem : isXmlText settings.classStem) {attributes : Attributes}
  (hvalues : HasXmlValues attributes)

include hstem hvalues

/-- Restyling the mapping of an element does to it what restyling its attributes does. -/
theorem toEffect_restyleMapping (tag : Option Text) (sheet : Sheet) :
    (restyleMapping settings tag attributes.toMapping sheet).toEffect
        (attributes.toMapping, sheet) =
      let done := restyleAttributes settings attributes sheet
      ⟨(done.state.1.toMapping, done.state.2), done.notices, done.outcome⟩ := by
  rw [restyleMapping, restyleAttributes, get?_toMapping, classText?_toMapping]
  cases hstyle : Attributes.text? styleName attributes with
  | none => rfl
  | some style =>
      simp only [Option.map_some, StyleValue.ofValue?, Logged.toEffect, Logged.map]
      cases hrestyle : (restyle settings style (Attributes.text? className attributes)).outcome with
      | error error => rfl
      | ok restyled =>
          have hread := restyled?_eq_some_iff.2 ⟨style, hstyle, hrestyle⟩
          have htexts := hasXmlTexts_of_restyled? hstem hvalues hread
          have hput := (restyled.putsOnto attributes).eq_done htexts
          simp only [Except.map, putInto_toMapping, hput]

theorem restylesOrKeeps (sheet : Sheet) :
    RestylesOrKeeps settings attributes sheet (restyleAttributes settings attributes sheet).state
      (restyleAttributes settings attributes sheet).outcome := by
  have hrestyles := restyles settings attributes sheet
  generalize (restyleAttributes settings attributes sheet).state = left,
    (restyleAttributes settings attributes sheet).outcome = outcome at hrestyles ⊢
  cases hrestyles with
  | unstyled hstyle => exact .unstyled hstyle
  | unread herror => exact .unread herror
  | put hread hput =>
      have htexts := hasXmlTexts_of_restyled? hstem hvalues hread
      obtain ⟨style, hstyle, hrestyle⟩ := restyled?_eq_some_iff.1 hread
      obtain ⟨items, hparse, rfl⟩ := outcome_restyle_eq_ok_iff.1 hrestyle
      cases hput.eq_done htexts
      exact .restyled hstyle hparse (isRestyled_ofItems _ items attributes)

/-- An element whose texts are allowed in a tree is restyled alike as an element of a tree and as a
mapping: with the same attributes in the same order, the same sheet, the same notices and the same
failure. It is left as it was, and so is the sheet, if it has no style or one that cannot be read.
Otherwise only its class and its style are changed, the class to the class text with the classes of
the style after it, the style to its custom properties. -/
theorem restyleMapping_agrees (name : Text) (children : List Node) (tag : Option Text)
    (sheet : Sheet) :
    let element := restyleElement settings (.element name attributes children) sheet
    let mapping := restyleMapping settings tag attributes.toMapping sheet
    ∃ after, element.state.1 = .element name after children ∧
      mapping.toEffect (attributes.toMapping, sheet) =
        ⟨(after.toMapping, element.state.2), element.notices, element.outcome⟩ ∧
      RestylesOrKeeps settings attributes sheet (after, element.state.2) element.outcome :=
  ⟨_, rfl, toEffect_restyleMapping hstem hvalues tag sheet,
    restylesOrKeeps hstem hvalues sheet⟩

end

/-- The attributes of a paragraph whose style has a custom property. -/
def customStyle : Attributes :=
  [(styleName, some "color: red; --x: 1".toList), ("id".toList, some ['a']),
    (className, some ['b'])]

/-- The paragraph has a new class after its own one, and the custom property stays. -/
theorem customStyle_restyled_alike :
    let element := restyleElement .standard (.element ['p'] customStyle []) .empty
    let mapping := restyleMapping .standard none customStyle.toMapping .empty
    let after : Attributes := [(styleName, some "--x: 1".toList), ("id".toList, some ['a']),
      (className, some "b hw_CTY41".toList)]
    element.state.1.elements = [(['p'], after)] ∧
      mapping.toEffect (customStyle.toMapping, .empty) =
        ⟨(after.toMapping, element.state.2), element.notices, element.outcome⟩ ∧
      RestylesOrKeeps .standard customStyle .empty (after, element.state.2) element.outcome := by
  intro element mapping after
  have helements : element.state.1.elements = [(['p'], after)] := by decide +kernel
  obtain ⟨changed, hnode, hmapping, hleft⟩ :=
    @restyleMapping_agrees .standard (by decide) customStyle (by decide) ['p'] [] none .empty
  have hchanged : changed = after := by
    have hsame := hnode ▸ helements
    exact (Prod.mk.inj (List.cons.inj hsame).1).2
  subst hchanged
  exact ⟨helements, hmapping, hleft⟩

end AtomicCss
