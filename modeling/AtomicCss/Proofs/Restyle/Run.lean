import AtomicCss.Proofs.Restyle.Classes
import AtomicCss.Proofs.Rule.Atoms

/-! # Runs of restyling calls

Elements are restyled one after the other into one sheet, some as attribute mappings and some in
a tree. A call merges the rules of the style that it reads and leaves the sheet alone if it reads
none, so the sheet after a run is that of all atoms of the run. -/

namespace AtomicCss

open Markup Style

/-- What is restyled: an attribute mapping, or the attributes of an element of a tree. -/
inductive Subject where
  | mapping (tag : Option Text) (attributes : OrderedMap Value)
  | element (attributes : Attributes)

/-- One call: its parser is strict or lenient. -/
structure Call where
  strict : Bool
  subject : Subject

namespace Subject

/-- The style text that is read: that of a mapping only next to a class that can be extended. -/
def style? : Subject → Option Text
  | mapping _ attributes =>
      match StyleValue.ofValue? (OrderedMap.get? styleName attributes), classText? attributes with
      | .text style, .ok _ => some style
      | _, _ => none
  | element attributes => Attributes.text? styleName attributes

/-- The class value, if there is one and it is a text. -/
def classValue? : Subject → Option Text
  | mapping _ attributes => (classText? attributes).toOption.join
  | element attributes => Attributes.text? AtomicCss.className attributes

/-- The class text: empty where there is no class. -/
def classText (subject : Subject) : Text := subject.classValue?.getD []

/-- The class value as a list: empty where there is none or an empty one. -/
def existing (subject : Subject) : List Text :=
  subject.classValue?.toList.filter fun text => !text.isEmpty

end Subject

namespace Call

variable (stem : Text) (call : Call)

/-- The settings of a call whose compiler has the given stem. -/
def settings : Settings := { classStem := stem, strict := call.strict }

/-- The subject that a call leaves behind, if it does not fail, and the sheet. -/
def perform (sheet : Sheet) : Option Subject × Sheet :=
  match call.subject with
  | .mapping tag attributes =>
      match (restyleMapping (call.settings stem) tag attributes sheet).outcome with
      | .ok (attributes, sheet) => (some (.mapping tag attributes), sheet)
      | .error _ => (none, sheet)
  | .element attributes =>
      let done := restyleAttributes (call.settings stem) attributes sheet
      match done.outcome with
      | .ok () => (some (.element done.state.1), done.state.2)
      | .error _ => (none, done.state.2)

/-- What the style of a call compiles to, if there is a style and it can be read. -/
def compiled? : Option Compiled :=
  call.subject.style?.bind fun style =>
    (compileStyle (call.settings stem) style).outcome.toOption

/-- The items of the style, if there is a style and it can be read. -/
def items? : Option (List Item) :=
  call.subject.style?.bind fun style => (parse call.strict style).outcome.toOption

/-- The atoms of the style. -/
def atoms : List Atom := (call.items?.map Atom.ofItems).getD []

/-- The texts of which a token is taken to compile the style. -/
def hashed : List Text := call.atoms.flatMap Atom.hashed

end Call

/-- The sheet after a run of calls. -/
def restyleAll (stem : Text) (calls : List Call) (sheet : Sheet) : Sheet :=
  calls.foldl (fun sheet call => (call.perform stem sheet).2) sheet

/-! ## What a call compiles -/

namespace Call

variable {stem : Text} {call : Call}

theorem compiled?_eq (stem : Text) (call : Call) :
    call.compiled? stem = call.items?.map (Compiled.ofItems stem) := by
  rw [compiled?, items?]
  cases call.subject.style? with
  | none => rfl
  | some style =>
      rw [Option.bind_some, Option.bind_some, outcome_compileStyle]
      cases h : (parse call.strict style).outcome <;>
        simp [settings, h, Except.map, Except.toOption]

theorem compiled?_eq_some_iff {compiled : Compiled} :
    call.compiled? stem = some compiled ↔
      ∃ style, call.subject.style? = some style ∧
        (compileStyle (call.settings stem) style).outcome = .ok compiled := by
  rw [compiled?, Option.bind_eq_some_iff]
  refine exists_congr fun style => and_congr_right fun _ => ?_
  cases (compileStyle (call.settings stem) style).outcome <;> simp [Except.toOption]

theorem mem_atoms_iff {atom : Atom} :
    atom ∈ call.atoms ↔ ∃ items, call.items? = some items ∧ atom ∈ Atom.ofItems items := by
  rw [atoms]
  cases call.items? <;> simp

/-- The classes and the rules are those of the atoms. -/
theorem classes_and_rules_of_compiled? {compiled : Compiled}
    (h : call.compiled? stem = some compiled) :
    compiled.classes = call.atoms.map (Atom.className stem) ∧
      compiled.rules = call.atoms.map (Atom.rule stem) := by
  rw [compiled?_eq, Option.map_eq_some_iff] at h
  obtain ⟨items, hitems, rfl⟩ := h
  rw [atoms, hitems]
  exact ⟨Compiled.classes_ofItems stem items, Compiled.rules_ofItems stem items⟩

end Call

/-! ## One call -/

theorem style?_mapping_iff {tag : Option Text} {attributes : OrderedMap Value} {style : Text} :
    (Subject.mapping tag attributes).style? = some style ↔
      StyleValue.ofValue? (OrderedMap.get? styleName attributes) = .text style ∧
        ∃ existing, classText? attributes = .ok existing := by
  rw [Subject.style?]
  cases StyleValue.ofValue? (OrderedMap.get? styleName attributes) <;>
    cases classText? attributes <;> simp

theorem outcome_restyleMapping_of_style?_eq_none {tag : Option Text}
    {attributes : OrderedMap Value} (h : (Subject.mapping tag attributes).style? = none)
    (settings : Settings) (sheet : Sheet) :
    (restyleMapping settings tag attributes sheet).outcome = .ok (attributes, sheet) := by
  rw [Subject.style?] at h
  rw [restyleMapping]
  cases hstyle : StyleValue.ofValue? (OrderedMap.get? styleName attributes) with
  | absent => rfl
  | other value => rfl
  | text style =>
      cases hclass : classText? attributes with
      | error value => rfl
      | ok existing => simp [hstyle, hclass] at h

theorem outcome_restyleMapping {tag : Option Text} {attributes : OrderedMap Value} {style : Text}
    (h : (Subject.mapping tag attributes).style? = some style) (settings : Settings)
    (sheet : Sheet) :
    (restyleMapping settings tag attributes sheet).outcome =
      (restyle settings style (Subject.mapping tag attributes).classValue?).outcome.map
        fun restyled => (restyled.putInto attributes, sheet.mergeAll restyled.rules) := by
  obtain ⟨hstyle, existing, hclass⟩ := style?_mapping_iff.1 h
  rw [restyleMapping, hstyle, Subject.classValue?, hclass]
  rfl

namespace Call

variable {stem : Text} {call : Call}

/-- A call without a style changes nothing. -/
theorem perform_of_style?_eq_none (h : call.subject.style? = none) (sheet : Sheet) :
    call.perform stem sheet = (some call.subject, sheet) := by
  obtain ⟨strict, subject⟩ := call
  cases subject with
  | mapping tag attributes =>
      simp only [perform, outcome_restyleMapping_of_style?_eq_none h]
  | element attributes =>
      have hstyle : Attributes.text? styleName attributes = none := h
      simp only [perform, restyleAttributes, hstyle, Effect.ok]

/-- A call fails where the style cannot be read, and then leaves the sheet alone. -/
theorem perform_of_error {style : Text} {error : StyleError}
    (hstyle : call.subject.style? = some style)
    (h : (compileStyle (call.settings stem) style).outcome = .error error) (sheet : Sheet) :
    call.perform stem sheet = (none, sheet) := by
  obtain ⟨strict, subject⟩ := call
  cases subject with
  | mapping tag attributes =>
      simp only [perform, outcome_restyleMapping hstyle, outcome_restyle_error h, Except.map]
  | element attributes =>
      obtain ⟨hstate, houtcome⟩ := restyleAttributes_of_error hstyle h sheet
      simp only [perform, hstate, houtcome]

/-- A call merges the rules of the style that it reads. -/
theorem sheet_perform {style : Text} {compiled : Compiled}
    (hstyle : call.subject.style? = some style)
    (h : (compileStyle (call.settings stem) style).outcome = .ok compiled) (sheet : Sheet) :
    (call.perform stem sheet).2 = sheet.mergeAll compiled.rules := by
  obtain ⟨restyled, hrestyled, -, hrules⟩ :=
    exists_outcome_restyle h call.subject.classValue?
  obtain ⟨strict, subject⟩ := call
  cases subject with
  | mapping tag attributes =>
      simp only [perform, outcome_restyleMapping hstyle, hrestyled, Except.map, hrules]
  | element attributes =>
      obtain ⟨hstate, -⟩ := restyleAttributes_of_ok hstyle hrestyled sheet
      simp only [perform, hstate, ← hrules]
      split <;> rfl

/-- A call that does not fail puts the new classes after those that the element has. -/
theorem classValue?_perform {style : Text} {compiled : Compiled} {sheet : Sheet}
    {after : Subject} (hstyle : call.subject.style? = some style)
    (h : (compileStyle (call.settings stem) style).outcome = .ok compiled)
    (hafter : (call.perform stem sheet).1 = some after) :
    after.classValue? =
      (joinClasses call.subject.classValue? compiled.classes).or call.subject.classValue? := by
  obtain ⟨restyled, hrestyled, hclasses, -⟩ :=
    exists_outcome_restyle h call.subject.classValue?
  obtain ⟨strict, subject⟩ := call
  rw [← hclasses]
  cases subject with
  | mapping tag attributes =>
      obtain ⟨-, existing, hexisting⟩ := style?_mapping_iff.1 hstyle
      simp only [perform, outcome_restyleMapping hstyle, hrestyled, Except.map,
        Option.some.injEq] at hafter
      subst hafter
      simp only [Subject.classValue?, classText?_putInto hexisting, hexisting]
      rfl
  | element attributes =>
      obtain ⟨hstate, houtcome⟩ := restyleAttributes_of_ok hstyle hrestyled sheet
      simp only [perform, hstate, houtcome] at hafter
      cases hput : (restyled.putOnto attributes).2 with
      | error fault => simp [hput] at hafter
      | ok done =>
          simp only [hput, Option.some.injEq] at hafter
          subst hafter
          exact text?_putOnto hput

/-- A call merges the rules of its atoms, in order, and nothing else. -/
theorem sheet_perform_eq_mergeAll (stem : Text) (call : Call) (sheet : Sheet) :
    (call.perform stem sheet).2 = sheet.mergeAll (call.atoms.map (Atom.rule stem)) := by
  cases hstyle : call.subject.style? with
  | none =>
      rw [perform_of_style?_eq_none hstyle, atoms, items?, hstyle]
      rfl
  | some style =>
      cases houtcome : (compileStyle (call.settings stem) style).outcome with
      | error error =>
          have hitems : call.items? = none := by
            have hnone : call.compiled? stem = none := by
              rw [compiled?, hstyle, Option.bind_some, houtcome]
              rfl
            rwa [compiled?_eq, Option.map_eq_none_iff] at hnone
          rw [perform_of_error hstyle houtcome, atoms, hitems]
          rfl
      | ok compiled =>
          have hcompiled := compiled?_eq_some_iff.2 ⟨style, hstyle, houtcome⟩
          rw [sheet_perform hstyle houtcome, (classes_and_rules_of_compiled? hcompiled).2]

/-- The class text that a call leaves, if it does not fail: the classes of the style that it reads
follow those that the element has. -/
theorem classText_perform {compiled : Compiled} {sheet : Sheet} {after : Subject}
    (h : call.compiled? stem = some compiled)
    (hafter : (call.perform stem sheet).1 = some after) :
    after.classText = Text.joinWith [' '] (call.subject.existing ++ compiled.classes) := by
  obtain ⟨style, hstyle, houtcome⟩ := compiled?_eq_some_iff.1 h
  rw [Subject.classText, classValue?_perform hstyle houtcome hafter, joinClasses_or_getD]
  rfl

end Call

/-! ## Runs -/

theorem restyleAll_cons (stem : Text) (call : Call) (calls : List Call) (sheet : Sheet) :
    restyleAll stem (call :: calls) sheet =
      restyleAll stem calls (call.perform stem sheet).2 := rfl

/-- A run merges the rules of its atoms, in order, and nothing else. -/
theorem restyleAll_eq_mergeAll (stem : Text) (calls : List Call) (sheet : Sheet) :
    restyleAll stem calls sheet =
      sheet.mergeAll ((calls.flatMap Call.atoms).map (Atom.rule stem)) := by
  induction calls generalizing sheet with
  | nil => rfl
  | cons call calls ih =>
      calc
        restyleAll stem (call :: calls) sheet =
            restyleAll stem calls (sheet.mergeAll (call.atoms.map (Atom.rule stem))) := by
          rw [restyleAll_cons, Call.sheet_perform_eq_mergeAll]
        _ = (sheet.mergeAll (call.atoms.map (Atom.rule stem))).mergeAll
            ((calls.flatMap Call.atoms).map (Atom.rule stem)) := ih _
        _ = sheet.mergeAll (((call :: calls).flatMap Call.atoms).map (Atom.rule stem)) := by
          rw [List.flatMap_cons, List.map_append, Sheet.mergeAll_append]

end AtomicCss
