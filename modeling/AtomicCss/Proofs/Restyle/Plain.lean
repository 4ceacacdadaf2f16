import AtomicCss.Proofs.Markup.Plain
import AtomicCss.Proofs.Restyle.FirstFault
import AtomicCss.Proofs.Style.Parts
import AtomicCss.Proofs.Text.Occurrences

/-! # Restyling plain documents

The class and the style that restyling puts onto an element are read as they are written if those
that were there are, and if the stem of the classes has nothing that could start markup. So a plain
document stays plain, whatever is read of its styles. -/

namespace AtomicCss

open Markup Style

/-- A stem that is read as it is written whatever token follows it. -/
def isPlainStem (stem : Text) : Bool := stem.all fun c => isInnerChar c && c ≠ '&'

/-! ## Values -/

section

variable {text part : Text}

theorem Markup.IsPlainValue.of_infix (h : IsPlainValue text) (hpart : part <:+: text) :
    IsPlainValue part where
  chars := List.all_eq_true.2 fun c hc => List.all_eq_true.1 h.chars c (hpart.subset hc)
  escaped := fun start hstart hoccurs => h.escaped start hstart (hoccurs.trans hpart)

theorem Markup.IsPlainValue.isXmlText (h : IsPlainValue text) : isXmlText text := by
  refine isXmlText_iff.2 fun c hc => ?_
  have hplain := List.all_eq_true.1 h.chars c hc
  rw [isPlainChar, Bool.and_eq_true] at hplain
  exact hplain.1

/-- Parts are joined by characters that no markup in a value starts with. -/
theorem isPlainValue_joinWith {separator : Text} (hne : separator ≠ [])
    (hchars : separator.all isPlainChar)
    (hseparator : separator.all fun c => !verbatimStarts.flatten.contains c) {parts : List Text}
    (h : ∀ part ∈ parts, IsPlainValue part) : IsPlainValue (Text.joinWith separator parts) := by
  constructor
  · exact List.all_eq_true.2 (Text.forall_mem_joinWith (List.all_eq_true.1 hchars)
      fun part hpart => List.all_eq_true.1 (h part hpart).chars)
  · intro start hstart hoccurs
    have hnonempty : start ≠ [] := by
      rintro rfl
      exact absurd hstart (by decide)
    -- so no start goes across a separator
    have hapart : ∀ c ∈ separator, c ∉ start := by
      intro c hc hmem
      have hnew := List.all_eq_true.1 hseparator c hc
      simp [List.mem_flatten.2 ⟨start, hstart, hmem⟩] at hnew
    obtain ⟨part, hpart, hfound⟩ := (Text.infix_joinWith_iff hnonempty hne hapart).1 hoccurs
    exact (h part hpart).escaped start hstart hfound

end

/-! ## Classes and styles -/

theorem isXmlText_of_isPlainStem {stem : Text} (h : isPlainStem stem) : isXmlText stem := by
  refine isXmlText_iff.2 fun c hc => ?_
  have hplain := List.all_eq_true.1 h c hc
  simp only [isInnerChar, isPlainChar, Bool.and_eq_true] at hplain
  exact hplain.1.1.1

theorem isPlainValue_className {stem : Text} (hstem : isPlainStem stem) (atom : Atom) :
    IsPlainValue (atom.className stem) := by
  have hchars : ∀ c ∈ atom.className stem, isInnerChar c && c ≠ '&' := by
    have halphabet : ClassToken.alphabet.all fun c => isInnerChar c && c ≠ '&' := by decide
    rw [Atom.className, List.forall_mem_append]
    exact ⟨List.all_eq_true.1 hstem,
      fun c hc => List.all_eq_true.1 halphabet c (ClassToken.ofText_subset_alphabet _ hc)⟩
  constructor
  · refine List.all_eq_true.2 fun c hc => ?_
    have hinner := hchars c hc
    simp only [isInnerChar, Bool.and_eq_true] at hinner
    exact hinner.1.1
  · intro start hstart hoccurs
    have hsubset := hoccurs.subset
    simp only [verbatimStarts, List.mem_cons, List.not_mem_nil, or_false] at hstart
    -- each start begins with a character that neither the stem nor a token has
    rcases hstart with rfl | rfl
    · exact absurd (hchars '<' (hsubset (by decide))) (by decide)
    · exact absurd (hchars '&' (hsubset (by decide))) (by decide)

theorem isPlainValue_printDeclarations {text : Text} (htext : IsPlainValue text)
    {declarations : List Declaration} (h : ∀ d ∈ declarations, d.IsWithin text) :
    IsPlainValue (printDeclarations declarations) := by
  apply isPlainValue_joinWith (by decide) (by decide) (by decide)
  intro part hpart
  obtain ⟨declaration, hmem, rfl⟩ := List.mem_map.1 hpart
  obtain ⟨hname, hvalue⟩ := h declaration hmem
  have hprint : declaration.print =
      Text.joinWith [':', ' '] [declaration.name, declaration.value] := rfl
  rw [hprint]
  apply isPlainValue_joinWith (by decide) (by decide) (by decide)
  simpa using ⟨htext.of_infix hname, htext.of_infix hvalue⟩

/-! ## Elements -/

/-- The new texts of an element are read as they are written. -/
structure Restyled.IsPlain (restyled : Restyled) : Prop where
  classes : ∀ classes ∈ restyled.classes, IsPlainValue classes
  style : ∀ style ∈ restyled.style, IsPlainValue style

variable {settings : Settings}

theorem isPlain_of_restyle (hstem : isPlainStem settings.classStem) {style : Text}
    (hstyle : IsPlainValue style) {existing : Option Text}
    (hexisting : ∀ text ∈ existing, IsPlainValue text) {restyled : Restyled}
    (h : (restyle settings style existing).outcome = .ok restyled) : restyled.IsPlain := by
  obtain ⟨items, hparse, rfl⟩ := outcome_restyle_eq_ok_iff.1 h
  constructor
  · have hjoin (parts : List Text) (h : ∀ part ∈ parts, IsPlainValue part) :
        IsPlainValue (Text.joinWith [' '] parts) :=
      isPlainValue_joinWith (by decide) (by decide) (by decide) h
    apply forall_mem_joinClasses hjoin hexisting
    rw [Compiled.classes_ofItems]
    intro name hname
    obtain ⟨atom, -, rfl⟩ := List.mem_map.1 hname
    exact isPlainValue_className hstem atom
  · intro text htext
    dsimp only [Restyled.ofItems] at htext
    split_ifs at htext
    · cases htext
    · cases htext
      apply isPlainValue_printDeclarations hstyle
      exact fun d hd => isWithin_of_parse hparse _ (Compiled.mem_of_mem_residual hd)

namespace Markup.IsPlainTag

variable {tag name : Text} {attributes : Attributes}

theorem text? (h : IsPlainTag (tag, attributes)) (name : Text) :
    ∀ text ∈ Attributes.text? name attributes, IsPlainValue text := by
  intro text htext
  obtain ⟨value, hvalue, rfl⟩ := Option.map_eq_some_iff.1 htext
  cases value with
  | none => exact ⟨rfl, by decide⟩
  | some value => exact (h.attributes _ (OrderedMap.mem_of_get? hvalue)).value value rfl

theorem hasXmlValues (h : IsPlainTag (tag, attributes)) : HasXmlValues attributes := by
  rintro ⟨name, _ | value⟩ hentry
  · rfl
  · exact ((h.attributes _ hentry).value value rfl).isXmlText

/-- A class or a style is an attribute like any other for all elements. -/
theorem set (h : IsPlainTag (tag, attributes)) (hname : name = className ∨ name = styleName)
    {value : Text} (hvalue : IsPlainValue value) :
    IsPlainTag (tag, OrderedMap.set name (some value) attributes) := by
  obtain ⟨hplain, hboolean, haddress⟩ : IsPlainName name ∧
      booleanAttributes.any (·.toList = name) = false ∧ holdsAddress tag name = false := by
    rcases hname with rfl | rfl
    · exact ⟨by decide, by decide, rfl⟩
    · exact ⟨by decide, by decide, rfl⟩
  have hentry : IsPlainAttribute tag (name, some value) := by
    refine ⟨hplain, ?_, ?_, ?_⟩
    · rintro _ ⟨⟩
      exact hvalue
    · exact fun hfound => absurd (hboolean.symm.trans hfound) Bool.false_ne_true
    · exact fun hfound => absurd (haddress.symm.trans hfound) Bool.false_ne_true
  refine ⟨h.tag, h.alpha, ?_, ?_, ?_⟩
  · rw [OrderedMap.set, OrderedMap.names_alter]
    split_ifs with hmem
    · exact h.names
    · exact List.concat_eq_append ▸ h.names.concat hmem
  · intro entry hmem
    rcases OrderedMap.mem_set hmem with hold | rfl
    · exact h.attributes entry hold
    · exact hentry
  · intro htag hmem
    rcases OrderedMap.mem_set hmem with hold | hnew
    · exact h.kept htag hold
    · have hsame : contentType.1 = name := congrArg Prod.fst hnew
      rcases hname with rfl | rfl <;> exact absurd hsame (by decide)

theorem erase (h : IsPlainTag (tag, attributes)) (name : Text) :
    IsPlainTag (tag, OrderedMap.erase name attributes) where
  tag := h.tag
  alpha := h.alpha
  names := h.names.sublist (List.filter_sublist.map _)
  attributes := fun entry hentry => h.attributes entry (List.mem_filter.1 hentry).1
  kept := fun htag hmem => h.kept htag (List.mem_filter.1 hmem).1

theorem putClasses (h : IsPlainTag (tag, attributes)) {restyled : Restyled}
    (hrestyled : restyled.IsPlain) : IsPlainTag (tag, restyled.putClasses attributes) := by
  rw [Restyled.putClasses]
  cases hclasses : restyled.classes with
  | none => exact h
  | some classes => exact h.set (Or.inl rfl) (hrestyled.classes classes hclasses)

theorem putStyle (h : IsPlainTag (tag, attributes)) {restyled : Restyled}
    (hrestyled : restyled.IsPlain) : IsPlainTag (tag, restyled.putStyle attributes) := by
  rw [Restyled.putStyle]
  cases hstyle : restyled.style with
  | none => exact h.erase styleName
  | some style => exact h.set (Or.inr rfl) (hrestyled.style style hstyle)

/-- Restyling an element keeps it plain, whether it fails or not. -/
theorem restyles (hstem : isPlainStem settings.classStem) (h : IsPlainTag (tag, attributes))
    {sheet : Sheet} {left : Attributes × Sheet} {outcome : Except Fault Unit}
    (hrestyles : Restyles settings attributes sheet left outcome) : IsPlainTag (tag, left.1) := by
  cases hrestyles with
  | unstyled => exact h
  | unread => exact h
  | put hread hput =>
      obtain ⟨style, hstyle, hrestyle⟩ := restyled?_eq_some_iff.1 hread
      have hrestyled := isPlain_of_restyle hstem (h.text? styleName style hstyle)
        (h.text? className) hrestyle
      cases hput with
      | classesRefused => exact h
      | styleRefused => exact h.putClasses hrestyled
      | done => exact (h.putClasses hrestyled).putStyle hrestyled

end Markup.IsPlainTag

/-! ## Trees -/

theorem isPlainTag_restyleEach (hstem : isPlainStem settings.classStem)
    {elements : List (Text × Attributes)} (h : ∀ element ∈ elements, IsPlainTag element)
    (sheet : Sheet) :
    ∀ element ∈ (restyleEach settings elements sheet).state.1, IsPlainTag element := by
  induction elements generalizing sheet with
  | nil => exact List.forall_mem_nil _
  | cons element rest ih =>
      obtain ⟨tag, attributes⟩ := element
      obtain ⟨hhere, hrest⟩ := List.forall_mem_cons.1 h
      have hfirst := hhere.restyles hstem (restyles settings attributes sheet)
      rw [restyleEach]
      dsimp only
      split
      · exact List.forall_mem_cons.2 ⟨hfirst, hrest⟩
      · exact List.forall_mem_cons.2 ⟨hfirst, ih hrest _⟩

/-- A plain document stays plain when its elements are restyled. -/
theorem Markup.Document.IsPlain.restyleTree (hstem : isPlainStem settings.classStem) {typed : Bool}
    {document : Document} (h : document.IsPlain typed) (sheet : Sheet) :
    Document.IsPlain typed
      { document with root := (AtomicCss.restyleTree settings document.root sheet).state.1 } := by
  apply h.of_skeleton_eq (skeleton_restyleTree settings document.root sheet)
  rw [elements_restyleTree]
  exact isPlainTag_restyleEach hstem h.tags sheet

end AtomicCss
