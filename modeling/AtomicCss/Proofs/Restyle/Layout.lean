import AtomicCss.Proofs.Sheet.Order
import AtomicCss.Proofs.Style.Layout

/-! # Layout and classes

Layout makes no difference to what is read of a style, and so none to what the style compiles to. A
style and the same style in another layout have the same classes, and they share their rules in a
sheet. -/

namespace AtomicCss

open Style

variable {settings : Settings} {text other : Text}

/-- Styles that are read alike are compiled alike. -/
theorem compileStyle_eq_of_parse_eq
    (h : (parse settings.strict other).mapError StyleError.defect =
      (parse settings.strict text).mapError StyleError.defect) :
    (compileStyle settings other).mapError StyleError.defect =
      (compileStyle settings text).mapError StyleError.defect := by
  rw [compileStyle, compileStyle, Logged.mapError_andThen, Logged.mapError_andThen, h]

/-- Where a fault is makes no difference to the rules. -/
theorem compiledRules_eq_of_compileStyle_eq
    (h : (compileStyle settings other).mapError StyleError.defect =
      (compileStyle settings text).mapError StyleError.defect) :
    compiledRules settings other = compiledRules settings text := by
  have houtcome := congrArg Logged.outcome h
  rw [Logged.outcome_mapError, Logged.outcome_mapError] at houtcome
  rw [compiledRules, compiledRules]
  cases hother : (compileStyle settings other).outcome with
  | error error =>
      rw [hother] at houtcome
      obtain ⟨error', htext, -⟩ := Outcome.mapError_eq_error_iff.1 houtcome.symm
      rw [htext]
  | ok compiled =>
      rw [hother] at houtcome
      rw [Outcome.mapError_eq_ok_iff.1 houtcome.symm]

/-- A style with more layout is read alike, with the same items and the same notices or the same
defect. It compiles to the same classes, custom properties and rules, and merging its rules next to
those of the style, or in their place, makes no difference to a sheet. -/
theorem compileStyle_eq_of_layout (h : Relation.ReflTransGen AddsLayout text other)
    (settings : Settings) :
    (parse settings.strict other).mapError StyleError.defect =
        (parse settings.strict text).mapError StyleError.defect ∧
      (compileStyle settings other).mapError StyleError.defect =
        (compileStyle settings text).mapError StyleError.defect ∧
      ∀ sheet : Sheet,
        sheet.mergeAll (compiledRules settings other) =
            sheet.mergeAll (compiledRules settings text) ∧
          (sheet.mergeAll (compiledRules settings text)).mergeAll (compiledRules settings other) =
            sheet.mergeAll (compiledRules settings text) := by
  have hparse := parse_eq_of_layout h settings.strict
  have hcompile := compileStyle_eq_of_parse_eq hparse
  refine ⟨hparse, hcompile, ?_⟩
  intro sheet
  rw [compiledRules_eq_of_compileStyle_eq hcompile]
  exact ⟨rfl, Sheet.mergeAll_mergeAll _ sheet⟩

/-- Blanks at the start and before a brace, and a second semicolon. -/
theorem compileStyle_eq_of_blanks_and_semicolon :
    let text : Text := ['a', ';', ':', 'b', '{', 'c', '}']
    let other : Text := [' ', 'a', ';', ';', ':', 'b', '\n', '{', 'c', '}']
    Relation.ReflTransGen AddsLayout text other ∧
      (compileStyle .standard other).mapError StyleError.defect =
        (compileStyle .standard text).mapError StyleError.defect ∧
      (Sheet.empty.mergeAll (compiledRules .standard text)).mergeAll
          (compiledRules .standard other) =
        Sheet.empty.mergeAll (compiledRules .standard text) := by
  intro text other
  have hlayout : Relation.ReflTransGen AddsLayout text other := by
    have hstart : AddsLayout text (' ' :: text) :=
      @AddsLayout.blanks [] [' '] text (Or.inl .start) rfl
    have hsemicolon : AddsLayout (' ' :: text) [' ', 'a', ';', ';', ':', 'b', '{', 'c', '}'] :=
      .semicolon (.afterDelimiter [' ', 'a'] .semicolon)
    have hbrace : AddsLayout [' ', 'a', ';', ';', ':', 'b', '{', 'c', '}'] other :=
      @AddsLayout.blanks [' ', 'a', ';', ';', ':', 'b'] ['\n'] _
        (Or.inr (.beforeDelimiter .opening ['c', '}'])) rfl
    exact ((Relation.ReflTransGen.single hstart).tail hsemicolon).tail hbrace
  obtain ⟨-, hcompile, hmerge⟩ := compileStyle_eq_of_layout hlayout .standard
  exact ⟨hlayout, hcompile, (hmerge .empty).2⟩

end AtomicCss
