import AtomicCss.CommandLine.Command
import AtomicCss.Proofs.CommandLine.Unmarked
import AtomicCss.Proofs.Restyle.Residual

/-! # What compiling a style shows

Compiling a style on the command line shows what restyling a mapping that has this style and nothing
else gives: the class, the style that stays inline and the rules of the sheet, or the error. -/

namespace AtomicCss.CommandLine

open Style

/-- The words that compile a style, with the settings file if one is named. Whatever the style is,
it stands after the end of the options. -/
def compileWords (settingsPath : Option Text) (style : Text) : List Text :=
  match settingsPath with
  | some path => ["compile".toList, settingsOption.long, path, optionsEnd, style]
  | none => ["compile".toList, optionsEnd, style]

/-- A settings file may be named by a path without the null character that leads to no folder. -/
def CanName (directory : Directory) (settingsPath : Option Text) : Prop :=
  ∀ path ∈ settingsPath, '\x00' ∉ path ∧ directory.hasFolder path = false

/-- Lines with the class value, the style if one stays, and the rules. A loose stem stands in the class
value and in the rules. -/
def resultLines (isLoose : Bool) (classes : Text) (residual : Option Text) (css : Text) :
    List LooseText :=
  ⟨"class: ".toList ++ classes, isLoose⟩ ::
    ((residual.map fun style => ⟨"style: ".toList ++ style, false⟩).toList ++ [⟨css, isLoose⟩])

/-- The lines that show a restyled mapping and its sheet. A mapping without a class has the empty
class value. -/
def shownLines (looseStem : Bool) (attributes : OrderedMap Value) (sheet : Sheet) :
    List LooseText :=
  let classValue := OrderedMap.get? className attributes
  resultLines (looseStem && classValue.isSome) ((classValue.map Value.toText).getD [])
    ((OrderedMap.get? styleName attributes).map Value.toText) sheet.print

/-- Lines as they stand on the standard output. -/
def textOfLines (lines : List LooseText) : Text := lines.flatMap fun line => line.text ++ ['\n']

/-- The report on a mapping that has been restyled or whose style cannot be read, after settings have
been loaded. -/
def reportOn (machine : Machine) (loaded : Loaded) (looseStem : Bool)
    (restyled : Logged StyleError (OrderedMap Value × Sheet)) : Report :=
  let notices := loaded.notices ++ restyled.notices
  match restyled.outcome with
  | .ok (attributes, sheet) =>
      .printing machine notices (shownLines looseStem attributes sheet) loaded.traces
  | .error error => .failure notices error.message loaded.traces

variable {machine : Machine} {directory : Directory} {settingsPath : Option Text} {style : Text}
  {configuration : Configuration} {lines : List LooseText} {notices : List Notice}
  {before : Traces}

/-! ## Printing lines -/

/-- Lines are printed one after the other if the standard output takes them all. -/
theorem printLines_of_takes (h : ∀ line ∈ lines, machine.takes line) :
    printLines machine lines = (lines.flatMap fun line => printedLine line.text, true) := by
  induction lines with
  | nil => rfl
  | cons line rest ih =>
      obtain ⟨hline, hrest⟩ := List.forall_mem_cons.1 h
      rw [printLines, if_pos hline, ih hrest]
      rfl

/-- Printing stops at a line that the standard output does not take. -/
theorem printLines_snd_of_not_takes (h : ¬ ∀ line ∈ lines, machine.takes line) :
    (printLines machine lines).2 = false := by
  induction lines with
  | nil => exact absurd (List.forall_mem_nil _) h
  | cons line rest ih =>
      rw [printLines]
      split_ifs with hline
      · exact ih fun hrest => h (List.forall_mem_cons.2 ⟨hline, hrest⟩)
      · rfl

theorem printing_of_takes (h : ∀ line ∈ lines, machine.takes line) :
    Report.printing machine notices lines before =
      ⟨before.print (lines.flatMap fun line => printedLine line.text), 0, none, notices⟩ := by
  rw [Report.printing, printLines_of_takes h]

theorem printing_of_not_takes (h : ¬ ∀ line ∈ lines, machine.takes line) :
    Report.printing machine notices lines before =
      ⟨before.print (printLines machine lines).1, 1, some .lineNotTaken, notices⟩ := by
  have hsplit : printLines machine lines = ((printLines machine lines).1, false) :=
    Prod.ext rfl (printLines_snd_of_not_takes h)
  rw [Report.printing, hsplit]

/-- Exactly when the standard output takes every line is the exit code 0. -/
theorem exitCode_printing (machine : Machine) (notices : List Notice) (lines : List LooseText)
    (before : Traces) :
    (Report.printing machine notices lines before).exitCode =
      if ∀ line ∈ lines, machine.takes line then 0 else 1 := by
  split_ifs with h
  · rw [printing_of_takes h]
  · rw [printing_of_not_takes h]

/-- Printing writes no file. -/
@[simp] theorem written_printing (machine : Machine) (notices : List Notice)
    (lines : List LooseText) (before : Traces) :
    (Report.printing machine notices lines before).written = before.written := by
  unfold Report.printing
  split <;> rfl

/-- Lines without terminal control sequences are printed as they are. -/
theorem printing_of_isUnmarked (h : ∀ line ∈ lines, machine.takes line)
    (hunmarked : ∀ line ∈ lines, IsUnmarked line.text) :
    Report.printing machine notices lines before =
      ⟨before.print (textOfLines lines), 0, none, notices⟩ := by
  have hlines : (lines.flatMap fun line => printedLine line.text) = textOfLines lines :=
    List.flatMap_congr fun line hline => printedLine_of_isUnmarked (hunmarked line hline)
  rw [printing_of_takes h, hlines]

/-! ## Reading the words -/

theorem pathError?_eq_none {context : Context} {parameter path : Text} (hnull : '\x00' ∉ path)
    (hfolder : directory.hasFolder path = false) :
    pathError? context false parameter directory path = none := by
  rw [pathError?, if_neg hnull]
  rw [Directory.hasFolder] at hfolder
  cases hentry : directory.find? path with
  | none => rfl
  | some entry =>
      have hfile : entry.isFolder = false := by simpa [hentry] using hfolder
      simp [hfile]

/-- The words of a command with one argument, where its options have nothing wrong with them. -/
theorem readWords_eq {context : Context} {options : List OptionNames} {name argument : Text}
    {check : Text → Option EarlyEnd} {words : List Text} {arguments : Arguments}
    (hread : Arguments.read options true words = .ok arguments)
    (hhelp : arguments.value? helpOption = none)
    (herror : optionError? context directory arguments = none)
    (hothers : arguments.others = [argument]) (hcheck : check argument = none) :
    readWords context options name check directory words = .ok (argument, arguments) := by
  simp [readWords, hread, hhelp, herror, hothers, hcheck]

/-- The words are read as the command that they are for. -/
theorem read_compileWords (h : CanName directory settingsPath) :
    Command.read directory (compileWords settingsPath style) =
      .ok (.compile style settingsPath) := by
  cases settingsPath with
  | none => rfl
  | some path =>
      obtain ⟨hnull, hfolder⟩ := h path rfl
      let sorted : Arguments := ⟨[(settingsOption, path)], [style]⟩
      have herror : optionError? .compile directory sorted = none := by
        have hpath : pathError? .compile false settingsOption.shown directory path = none :=
          pathError?_eq_none hnull hfolder
        have hvalues : sorted.lastValues = [(settingsOption, path)] := rfl
        rw [optionError?, hvalues, List.findSome?_singleton]
        exact hpath
      have hwords : readWords .compile [settingsOption, helpOption] "STYLE".toList (fun _ => none)
          directory [settingsOption.long, path, optionsEnd, style] = .ok (style, sorted) :=
        readWords_eq rfl rfl herror rfl rfl
      change readCompile directory [settingsOption.long, path, optionsEnd, style] = _
      rw [readCompile, hwords]
      rfl

/-! ## Running the command -/

/-- Restyling a mapping with a style and nothing else. -/
theorem outcome_restyleMapping_styleMapping (settings : Settings) (tag : Option Text)
    (style : Text) (sheet : Sheet) :
    (restyleMapping settings tag (styleMapping style) sheet).outcome =
      (parse settings.strict style).outcome.map fun items =>
        ((Restyled.ofItems settings.classStem none items).putInto (styleMapping style),
          sheet.mergeAll (Compiled.ofItems settings.classStem items).rules) := by
  have hmapping : restyleMapping settings tag (styleMapping style) sheet =
      (restyle settings style none).map fun restyled =>
        (restyled.putInto (styleMapping style), sheet.mergeAll restyled.rules) := rfl
  rw [hmapping, Logged.outcome_map, outcome_restyle]
  cases (parse settings.strict style).outcome <;> rfl

/-- The lines that show a mapping in which the results of a style have taken its place are those that
show the compiled style. -/
theorem shownLines_putInto (looseStem : Bool) (style stem : Text) (items : List Item) :
    let compiled := Compiled.ofItems stem items
    shownLines looseStem ((Restyled.ofItems stem none items).putInto (styleMapping style))
        (Sheet.empty.mergeAll compiled.rules) =
      compiledLines looseStem compiled := by
  intro compiled
  have htext (value : Option Text) : (value.map Value.text).map Value.toText = value := by
    cases value <;> rfl
  have hnone : OrderedMap.get? className (styleMapping style) = none := rfl
  have hclasses : (Restyled.ofItems stem none items).classes =
      joinClasses none compiled.classes := rfl
  have hsome : ((joinClasses none compiled.classes).map Value.text).isSome =
      !compiled.classes.isEmpty := by
    rw [Option.isSome_map]
    cases compiled.classes <;> rfl
  unfold shownLines
  dsimp only
  rw [get?_putInto, hnone, Option.or_none, get?_style_putInto, htext, hclasses, htext, hsome,
    joinClasses_getD]
  unfold resultLines compiledLines
  dsimp only [Restyled.ofItems]
  cases hresidual : compiled.residual.isEmpty <;> simp [compiled]

/-- Compiling a style shows what restyling the mapping gives. -/
theorem runCompile_eq
    (hload : (directory.loadSettings machine settingsPath).outcome = .ok configuration)
    (tag : Option Text) :
    runCompile machine directory style settingsPath =
      reportOn machine (directory.loadSettings machine settingsPath) configuration.looseStem
        (restyleMapping configuration.settings tag (styleMapping style) .empty) := by
  have houtcome :=
    outcome_restyleMapping_styleMapping configuration.settings tag style .empty
  have hcompile := outcome_compileStyle configuration.settings style
  unfold runCompile reportOn
  dsimp only
  rw [hload, houtcome]
  dsimp only
  rw [hcompile]
  cases (parse configuration.settings.strict style).outcome with
  | error error => rfl
  | ok items =>
      have hlines := shownLines_putInto configuration.looseStem style
        configuration.settings.classStem items
      dsimp only [Except.map]
      rw [hlines]
      rfl

/-- The words that compile a style show what restyling the mapping gives. -/
theorem run_compileWords (hname : CanName directory settingsPath)
    (hload : (directory.loadSettings machine settingsPath).outcome = .ok configuration)
    (tag : Option Text) :
    run machine directory (compileWords settingsPath style) =
      reportOn machine (directory.loadSettings machine settingsPath) configuration.looseStem
        (restyleMapping configuration.settings tag (styleMapping style) .empty) := by
  rw [run, read_compileWords hname]
  exact runCompile_eq hload tag

/-! ## Reports on styles without terminal control sequences -/

/-- No terminal control sequence stands in the lines that show a style. -/
theorem isUnmarked_compiledLines {stem : Text} {items : List Item} (hstyle : IsUnmarked style)
    (hstem : IsUnmarked stem) (hitems : ∀ item ∈ items, item.IsFrom style) (looseStem : Bool) :
    ∀ line ∈ compiledLines looseStem (Compiled.ofItems stem items), IsUnmarked line.text := by
  obtain ⟨hclasses, hresidual, hcss⟩ := Compiled.isUnmarked_ofItems hstem hstyle hitems
  have hclassLine := isUnmarked_append.2 ⟨(by decide : IsUnmarked "class: ".toList), hclasses⟩
  have hstyleLine := isUnmarked_append.2 ⟨(by decide : IsUnmarked "style: ".toList), hresidual⟩
  intro line hline
  rcases List.mem_cons.1 hline with rfl | hline
  · exact hclassLine
  rcases List.mem_append.1 hline with hline | hline
  · split_ifs at hline
    · exact absurd hline List.not_mem_nil
    · exact List.mem_singleton.1 hline ▸ hstyleLine
  · exact List.mem_singleton.1 hline ▸ hcss

/-- What the report on a style shows. -/
structure Shows (report : Report) (machine : Machine) (before : Traces) (lines : List LooseText) :
    Prop where
  exitCode_eq : report.exitCode = if ∀ line ∈ lines, machine.takes line then 0 else 1
  written_eq : report.written = before.written
  /-- If the standard output takes all lines, they and nothing else are printed. -/
  printed : report.exitCode = 0 → report.out = before.out ++ textOfLines lines ∧
    report.err = before.err

/-- A style that can be read is shown. -/
theorem shows_reportOn {loaded : Loaded} {looseStem : Bool} {settings : Settings}
    {tag : Option Text} {items : List Item}
    (h : (parse settings.strict style).outcome = .ok items)
    (hstyle : IsUnmarked style) (hstem : IsUnmarked settings.classStem) :
    ∃ attributes sheet,
      (restyleMapping settings tag (styleMapping style) .empty).outcome = .ok (attributes, sheet) ∧
        Shows (reportOn machine loaded looseStem
            (restyleMapping settings tag (styleMapping style) .empty))
          machine loaded.traces (shownLines looseStem attributes sheet) := by
  have houtcome := outcome_restyleMapping_styleMapping settings tag style .empty
  rw [h] at houtcome
  refine ⟨_, _, houtcome, ?_⟩
  have hlines := shownLines_putInto looseStem style settings.classStem items
  have hunmarked := isUnmarked_compiledLines hstyle hstem (isFrom_of_parse h) looseStem
  rw [← hlines] at hunmarked
  unfold reportOn
  rw [houtcome]
  dsimp only [Except.map]
  refine ⟨exitCode_printing .., written_printing .., fun hcode => ?_⟩
  rw [exitCode_printing] at hcode
  split_ifs at hcode with htakes
  rw [printing_of_isUnmarked htakes hunmarked]
  exact ⟨rfl, rfl⟩

/-- The report on a style that cannot be read says why. -/
theorem reportOn_of_error {loaded : Loaded} {looseStem : Bool} {settings : Settings}
    {tag : Option Text} {error : StyleError}
    (h : (parse settings.strict style).outcome = .error error) (hstyle : IsUnmarked style) :
    (restyleMapping settings tag (styleMapping style) .empty).outcome = .error error ∧
      reportOn machine loaded looseStem
          (restyleMapping settings tag (styleMapping style) .empty) =
        ⟨loaded.traces.complain ("Error: ".toList ++ error.message ++ ['\n']), 1, none,
          loaded.notices ++ (restyleMapping settings tag (styleMapping style) .empty).notices⟩ := by
  have houtcome := outcome_restyleMapping_styleMapping settings tag style .empty
  rw [h] at houtcome
  refine ⟨houtcome, ?_⟩
  have hmessage : IsUnmarked ("Error: ".toList ++ error.message) :=
    isUnmarked_append.2 ⟨by decide, isUnmarked_message hstyle h⟩
  unfold reportOn
  rw [houtcome]
  dsimp only [Except.map, Report.failure]
  rw [printedLine_of_isUnmarked hmessage]

end AtomicCss.CommandLine
