import AtomicCss.Proofs.CommandLine.Shown
import AtomicCss.Proofs.OrderedMap

/-! # What a command line writes

The program writes nothing of its own before the page is rendered. A build that fails has left every
file as loading the settings has left it, or has opened the output file and then broken down, so that
a beginning of the page stands there. A build with an output file that succeeds leaves the rendered
page in it and changes nothing else. -/

namespace AtomicCss.CommandLine

variable {machine : Machine} {directory : Directory} {words : List Text} {input output : Text}
  {settingsPath : Option Text} {report : Report}

/-! ## Files left by loading settings -/

/-- The files that loading settings leaves behind. -/
def filesLeft (machine : Machine) (directory : Directory) (settingsPath : Option Text) :
    List (Text × Bytes) :=
  (directory.loadSettings machine settingsPath).traces.written

/-- The directory after settings have been loaded. -/
def afterLoading (machine : Machine) (directory : Directory) (settingsPath : Option Text) :
    Directory :=
  directory.withFiles (filesLeft machine directory settingsPath)

/-- Settings that end the program leave the files as they are. Only if they give an exit code
themselves may it be another one than 1. -/
theorem report_ended (notices : List Notice) (before : Traces) (ending : LoadEnd) :
    let report := Report.ended notices before ending
    report.written = before.written ∧
      (report.exitCode = 1 ∨ ∃ code text, ending = .raised (.exitCode code) text ∧
        report.exitCode = code.toNat) := by
  rcases ending with ⟨kind, text⟩ | _
  · cases kind with
    | exitCode code => exact ⟨rfl, .inr ⟨code, text, rfl, rfl⟩⟩
    | _ => exact ⟨rfl, .inl rfl⟩
  · exact ⟨rfl, .inl rfl⟩

/-- Nothing is written if there is no command to run. -/
theorem EarlyEnd.written_report (machine : Machine) (ending : EarlyEnd) :
    (ending.report machine).written = [] := by
  cases ending with
  | help | version => exact written_printing machine [] _ .none
  | misuse | breakdown => rfl

/-- Compiling a style writes nothing. -/
theorem written_runCompile (machine : Machine) (directory : Directory) (style : Text)
    (settingsPath : Option Text) :
    (runCompile machine directory style settingsPath).written =
      filesLeft machine directory settingsPath := by
  unfold runCompile
  dsimp only
  cases (directory.loadSettings machine settingsPath).outcome with
  | error ending => exact (report_ended _ _ ending).1
  | ok configuration =>
      dsimp only
      cases (compileStyle configuration.settings style).outcome with
      | error error => rfl
      | ok compiled => exact written_printing machine _ _ _

/-! ## Builds -/

/-- A build whose output file is opened: the settings are loaded, the page is read and rendered, and
there is a place for the output. -/
structure Build (machine : Machine) (directory : Directory) (input output : Text)
    (settingsPath : Option Text) where
  configuration : Configuration
  page : Text
  rendered : LooseText
  place : Place
  loaded : (directory.loadSettings machine settingsPath).outcome = .ok configuration
  page_read : inputText? (afterLoading machine directory settingsPath) input = some page
  page_rendered : (Pass.renderLoaded configuration page).outcome = .ok rendered
  place_found :
    (afterLoading machine directory settingsPath).placeToWrite output.normalizePath = .ok place

namespace Build

/-- The name of the output file. -/
def name (build : Build machine directory input output settingsPath) : Text :=
  directory.nameOf build.place

/-- The rendered page in bytes. -/
def content (build : Build machine directory input output settingsPath) : Bytes :=
  Charset.encodeUtf8 build.rendered.text

/-- What can go wrong when the output file is open: the page cannot be encoded, writing breaks off,
or the standard output does not take the last line. -/
def MayBreak (build : Build machine directory input output settingsPath) : Prop :=
  build.rendered.isLoose ∨ machine.breaksOff? build.name build.content ≠ none ∨
    ¬ machine.takes (writtenLine output.normalizePath)

/-- A page is rendered under loaded settings as a pass with these settings renders it. -/
theorem outcome_render (build : Build machine directory input output settingsPath) :
    (Pass.render build.configuration.settings build.page .empty).outcome =
      .ok build.rendered.text := by
  have h := build.page_rendered
  unfold Pass.renderLoaded at h
  dsimp only at h
  cases hrendered :
      (Pass.render build.configuration.settings build.page .empty).outcome with
  | error fault => rw [hrendered] at h; cases h
  | ok text =>
      rw [hrendered] at h
      rw [← Except.ok.inj h]

end Build

/-- How a build ends. -/
inductive BuildEnd (machine : Machine) (directory : Directory) (input : Text)
    (settingsPath : Option Text) (report : Report) : Option Text → Prop
  /-- The settings have ended the program with an exit code. -/
  | exited {output : Option Text} {code : UInt8} {text : Text}
      (hloaded : (directory.loadSettings machine settingsPath).outcome =
        .error (.raised (.exitCode code) text))
      (hcode : report.exitCode = code.toNat)
      (hwritten : report.written = filesLeft machine directory settingsPath) :
      BuildEnd machine directory input settingsPath report output
  /-- It has failed before the output file is opened. -/
  | failed {output : Option Text} (hcode : report.exitCode = 1)
      (hwritten : report.written = filesLeft machine directory settingsPath) :
      BuildEnd machine directory input settingsPath report output
  /-- It has printed the page. -/
  | printed (hcode : report.exitCode = 0)
      (hwritten : report.written = filesLeft machine directory settingsPath) :
      BuildEnd machine directory input settingsPath report none
  /-- It has broken down after the output file is opened. -/
  | broken {output : Text} (build : Build machine directory input output settingsPath)
      {beginning : Bytes} (hbeginning : beginning <+: build.content) (hbreak : build.MayBreak)
      (hcode : report.exitCode = 1)
      (hwritten : report.written =
        filesLeft machine directory settingsPath ++ [(build.name, beginning)]) :
      BuildEnd machine directory input settingsPath report (some output)
  /-- It has written the page to the output file. -/
  | wrote {output : Text} (build : Build machine directory input output settingsPath)
      (hencodable : build.rendered.isLoose = false) (hcode : report.exitCode = 0)
      (hwritten : report.written =
        filesLeft machine directory settingsPath ++ [(build.name, build.content)]) :
      BuildEnd machine directory input settingsPath report (some output)

/-- The last line of a build is printed, or it is all that fails. -/
theorem buildEnd_printing (build : Build machine directory input output settingsPath)
    (hencodable : build.rendered.isLoose = false) (notices : List Notice) :
    BuildEnd machine directory input settingsPath
      (.printing machine notices [writtenLine output.normalizePath]
        ((directory.loadSettings machine settingsPath).traces.write build.name build.content))
      (some output) := by
  have hwritten := written_printing machine notices [writtenLine output.normalizePath]
    ((directory.loadSettings machine settingsPath).traces.write build.name build.content)
  have hcode := exitCode_printing machine notices [writtenLine output.normalizePath]
    ((directory.loadSettings machine settingsPath).traces.write build.name build.content)
  split_ifs at hcode with htakes
  · exact .wrote build hencodable hcode hwritten
  · rw [List.forall_mem_singleton] at htakes
    exact .broken build (List.prefix_refl _) (.inr (.inr htakes)) hcode hwritten

/-- A page is written only if there is a place for it, and what is written first of all empties the
file. -/
theorem buildEnd_writeOutput {configuration : Configuration} {page : Text} {rendered : LooseText}
    (hloaded : (directory.loadSettings machine settingsPath).outcome = .ok configuration)
    (hpage : inputText? (afterLoading machine directory settingsPath) input = some page)
    (hrendered : (Pass.renderLoaded configuration page).outcome = .ok rendered)
    (output : Text) (notices : List Notice) :
    BuildEnd machine directory input settingsPath
      (writeOutput machine (afterLoading machine directory settingsPath) notices
        (directory.loadSettings machine settingsPath).traces output.normalizePath rendered)
      (some output) := by
  unfold writeOutput
  cases hplace :
      (afterLoading machine directory settingsPath).placeToWrite output.normalizePath with
  | error failure => cases failure <;> exact .failed rfl rfl
  | ok place =>
      let build : Build machine directory input output settingsPath :=
        ⟨configuration, page, rendered, place, hloaded, hpage, hrendered, hplace⟩
      dsimp only
      split_ifs with hfolder hopens hloose
      · exact .failed rfl rfl
      · exact .failed rfl rfl
      · exact .broken build List.nil_prefix (.inl hloose) rfl rfl
      · have hencodable : rendered.isLoose = false := Bool.not_eq_true _ ▸ hloose
        split
        next size hbreaks =>
          have hbreak : build.MayBreak :=
            .inr (.inl fun hnone => Option.some_ne_none size (hbreaks.symm.trans hnone))
          exact .broken build (List.take_prefix size _) hbreak rfl rfl
        next => exact buildEnd_printing build hencodable notices

/-- Every build ends in one of these ways. -/
theorem buildEnd_runBuild (machine : Machine) (directory : Directory) (input : Text)
    (output settingsPath : Option Text) :
    BuildEnd machine directory input settingsPath
      (runBuild machine directory input output settingsPath) output := by
  unfold runBuild
  dsimp only
  cases hloaded : (directory.loadSettings machine settingsPath).outcome with
  | error ending =>
      obtain ⟨hwritten, hcode | ⟨code, text, rfl, hcode⟩⟩ := report_ended
        (directory.loadSettings machine settingsPath).notices
        (directory.loadSettings machine settingsPath).traces ending
      · exact .failed hcode hwritten
      · exact .exited hloaded hcode hwritten
  | ok configuration =>
      dsimp only
      split
      next => exact .failed rfl rfl
      next page hpage =>
        cases hrendered : (Pass.renderLoaded configuration page).outcome with
        | error failure =>
            rcases failure with fault | _
            · cases fault <;> exact .failed rfl rfl
            · exact .failed rfl rfl
        | ok rendered =>
            cases output with
            | some output => exact buildEnd_writeOutput hloaded hpage hrendered output _
            | none =>
                dsimp only
                have hwritten := written_printing machine
                  ((directory.loadSettings machine settingsPath).notices ++
                    (Pass.renderLoaded configuration page).notices) [rendered]
                  (directory.loadSettings machine settingsPath).traces
                have hcode := exitCode_printing machine
                  ((directory.loadSettings machine settingsPath).notices ++
                    (Pass.renderLoaded configuration page).notices) [rendered]
                  (directory.loadSettings machine settingsPath).traces
                split_ifs at hcode
                · exact .printed hcode hwritten
                · exact .failed hcode hwritten

/-- Writing one more file changes at most this file. -/
theorem changedBy_append {written : List (Text × Bytes)} {name : Text} {content : Bytes}
    {file : Text × Bytes} (h : file ∈ directory.changedBy (written ++ [(name, content)])) :
    file = (name, content) ∨ file ∈ directory.changedBy written := by
  obtain ⟨hmem, hchanged⟩ := List.mem_filter.1 h
  rw [OrderedMap.ofPairs, List.foldl_concat] at hmem
  rcases OrderedMap.mem_set hmem with hbefore | hlast
  · exact .inr (List.mem_filter.2 ⟨hbefore, hchanged⟩)
  · exact .inl hlast

/-! ## Command lines -/

/-- What a build has written besides what loading the settings has left. -/
structure Writes (machine : Machine) (directory : Directory) (input : Text)
    (output settingsPath : Option Text) (report : Report) : Prop where
  /-- A build that fails has written nothing, or broken down when the output file was open. -/
  of_failure : report.exitCode ≠ 0 →
    report.written = filesLeft machine directory settingsPath ∨
      ∃ path, output = some path ∧ ∃ build : Build machine directory input path settingsPath,
        build.MayBreak ∧ ∃ beginning, beginning <+: build.content ∧
          report.written = filesLeft machine directory settingsPath ++ [(build.name, beginning)]
  /-- A build without an output file writes nothing. -/
  of_no_output : output = none → report.written = filesLeft machine directory settingsPath
  /-- A build with an output file that succeeds has written the page there, unless the settings
  themselves have ended the program. -/
  of_success : report.exitCode = 0 → ∀ path, output = some path →
    (report.written = filesLeft machine directory settingsPath ∧ ∃ text,
      (directory.loadSettings machine settingsPath).outcome = .error (.raised (.exitCode 0) text)) ∨
    ∃ build : Build machine directory input path settingsPath,
      build.rendered.isLoose = false ∧
        (Pass.render build.configuration.settings build.page .empty).outcome =
          .ok build.rendered.text ∧
        report.written =
          filesLeft machine directory settingsPath ++ [(build.name, build.content)]

/-- What a build has written can be told from how it ends. -/
theorem BuildEnd.writes {output : Option Text}
    (h : BuildEnd machine directory input settingsPath report output) :
    Writes machine directory input output settingsPath report := by
  cases h with
  | @exited _ code text hloaded hcode hwritten =>
      refine ⟨fun _ => .inl hwritten, fun _ => hwritten, fun hzero _ _ => .inl ⟨hwritten, text, ?_⟩⟩
      have hsame : code = 0 := UInt8.toNat.inj (hcode.symm.trans hzero)
      rw [hloaded, hsame]
  | failed hcode hwritten =>
      exact ⟨fun _ => .inl hwritten, fun _ => hwritten,
        fun hzero => absurd (hcode.symm.trans hzero) Nat.one_ne_zero⟩
  | printed hcode hwritten =>
      exact ⟨fun _ => .inl hwritten, fun _ => hwritten, by rintro _ _ ⟨⟩⟩
  | @broken path build beginning hbeginning hbreak hcode hwritten =>
      exact ⟨fun _ => .inr ⟨path, rfl, build, hbreak, beginning, hbeginning, hwritten⟩,
        by rintro ⟨⟩, fun hzero => absurd (hcode.symm.trans hzero) Nat.one_ne_zero⟩
  | wrote build hencodable hcode hwritten =>
      refine ⟨fun hfailed => absurd hcode hfailed, by rintro ⟨⟩, ?_⟩
      rintro _ _ ⟨⟩
      exact .inr ⟨build, hencodable, build.outcome_render, hwritten⟩

/-- A build changes the output file at most, besides what loading the settings has left. -/
theorem BuildEnd.changes_output {output : Option Text}
    (h : BuildEnd machine directory input settingsPath report output) :
    ∀ file ∈ directory.changedBy report.written,
      file ∈ directory.changedBy (filesLeft machine directory settingsPath) ∨
        ∃ path, output = some path ∧ ∃ build : Build machine directory input path settingsPath,
          file.1 = build.name ∧ file.2 <+: build.content ∧
            (report.exitCode = 0 → file.2 = build.content) := by
  intro file hfile
  cases h with
  | exited _ _ hwritten => exact .inl (hwritten ▸ hfile)
  | failed _ hwritten => exact .inl (hwritten ▸ hfile)
  | printed _ hwritten => exact .inl (hwritten ▸ hfile)
  | @broken path build beginning hbeginning _ hcode hwritten =>
      rcases changedBy_append (hwritten ▸ hfile) with rfl | hbefore
      · exact .inr ⟨path, rfl, build, rfl, hbeginning,
          fun hzero => absurd (hcode.symm.trans hzero) Nat.one_ne_zero⟩
      · exact .inl hbefore
  | @wrote path build _ _ hwritten =>
      rcases changedBy_append (hwritten ▸ hfile) with rfl | hbefore
      · exact .inr ⟨path, rfl, build, rfl, List.prefix_refl _, fun _ => rfl⟩
      · exact .inl hbefore

/-- Compiling a style shows what restyling a mapping with this style gives, if the standard output
takes it, and the exit code is 0 only for a style that can be read. The program changes no file before
the page of a build is rendered: a build that fails leaves at most a beginning of the page in the
output file, and one that succeeds the whole page. Nothing else changes but what loading the settings
leaves behind. -/
theorem run_shows_and_writes (machine : Machine) (directory : Directory) :
    (∀ (settingsPath : Option Text) (style : Text) (configuration : Configuration)
        (tag : Option Text),
      CanName directory settingsPath →
      (directory.loadSettings machine settingsPath).outcome = .ok configuration →
      IsUnmarked style → IsUnmarked configuration.settings.classStem →
      let before := (directory.loadSettings machine settingsPath).traces
      let report := run machine directory (compileWords settingsPath style)
      let parsed := (Style.parse configuration.settings.strict style).outcome
      let restyled :=
        (restyleMapping configuration.settings tag (styleMapping style) .empty).outcome
      (report.exitCode = 0 → ∃ items, parsed = .ok items) ∧
        (∀ items, parsed = .ok items → ∃ attributes sheet, restyled = .ok (attributes, sheet) ∧
          Shows report machine before (shownLines configuration.looseStem attributes sheet)) ∧
        ∀ error, parsed = .error error → restyled = .error error ∧
          report.exitCode = 1 ∧ report.out = before.out ∧
            report.err = before.err ++ ("Error: ".toList ++ error.message ++ ['\n'])) ∧
    ∀ words : List Text,
      let report := run machine directory words
      (∀ ending, Command.read directory words = .error ending → report.written = []) ∧
        (∀ style settingsPath, Command.read directory words = .ok (.compile style settingsPath) →
          report.written = filesLeft machine directory settingsPath) ∧
        ∀ input output settingsPath,
          Command.read directory words = .ok (.build input output settingsPath) →
          Writes machine directory input output settingsPath report ∧
            ∀ file ∈ directory.changedBy report.written,
              file ∈ directory.changedBy (filesLeft machine directory settingsPath) ∨
                ∃ path, output = some path ∧
                  ∃ build : Build machine directory input path settingsPath,
                    file.1 = build.name ∧ file.2 <+: build.content ∧
                      (report.exitCode = 0 → file.2 = build.content) := by
  refine ⟨fun settingsPath style configuration tag hname hload hstyle hstem => ?_,
    fun words => ⟨fun ending hread => ?_, fun style settingsPath hread => ?_,
      fun input output settingsPath hread => ?_⟩⟩
  · intro before report parsed restyled
    have hreport : report = _ := run_compileWords hname hload tag
    have hfailed : ∀ error, parsed = .error error → restyled = .error error ∧
        report.exitCode = 1 ∧ report.out = before.out ∧
          report.err = before.err ++ ("Error: ".toList ++ error.message ++ ['\n']) := by
      intro error hparse
      obtain ⟨hrestyled, heq⟩ := reportOn_of_error hparse hstyle
      rw [hreport, heq]
      exact ⟨hrestyled, rfl, rfl, rfl⟩
    refine ⟨fun hcode => ?_, fun items hparse => ?_, hfailed⟩
    · cases hparse : parsed with
      | ok items => exact ⟨items, rfl⟩
      | error error =>
          exact absurd ((hfailed error hparse).2.1.symm.trans hcode) Nat.one_ne_zero
    · rw [hreport]
      exact shows_reportOn hparse hstyle hstem
  · rw [run, hread]
    exact ending.written_report machine
  · rw [run, hread]
    exact written_runCompile machine directory style settingsPath
  · have hend : BuildEnd machine directory input settingsPath (run machine directory words)
        output := by
      rw [run, hread]
      exact buildEnd_runBuild machine directory input output settingsPath
    exact ⟨hend.writes, hend.changes_output⟩

/-- A directory with this settings file, one page and an output file that is there already. -/
def onePageDirectory (settingsText page : String) : Directory where
  location := "/w".toList
  entries :=
    [("headwind.config.py".toList, .file (Charset.encodeUtf8 settingsText.toList)),
      ("page.html".toList, .file (Charset.encodeUtf8 page.toList)),
      ("out.html".toList, .file (Charset.encodeUtf8 "old".toList))]

/-- The words that build this page into an output file. -/
def buildInto (output : Text) : List Text :=
  ["build".toList, "page.html".toList, "-o".toList, output]

/-- In a directory with settings under which classes have a stem of their own, a style is shown with
this stem, one with a brace too many is refused, and the page is written over the output file but not
into a folder that is missing. -/
theorem onePageDirectory_shown_and_written :
    let directory :=
      onePageDirectory "CLASS_PREFIX = \"x_\"  # short names\n" "<p style='a: b'></p>"
    let settings : Settings := { classStem := "x_".toList }
    (∃ attributes sheet,
      (restyleMapping settings none (styleMapping "a: b; --x: 1".toList) .empty).outcome =
          .ok (attributes, sheet) ∧
        (run .plain directory (compileWords none "a: b; --x: 1".toList)).out =
          textOfLines (shownLines false attributes sheet)) ∧
      (run .plain directory (compileWords none "a: b \x7d".toList)).exitCode = 1 ∧
      (∃ build : Build .plain directory "page.html".toList "out.html".toList none,
        (run .plain directory (buildInto "out.html".toList)).written =
          [(build.name, build.content)]) ∧
      (run .plain directory (buildInto "missing/out.html".toList)).written = [] := by
  intro directory settings
  obtain ⟨hcompile, hrun⟩ := run_shows_and_writes .plain directory
  have hname : CanName directory none := by rintro _ ⟨⟩
  have hload : (directory.loadSettings .plain none).outcome = .ok ⟨settings, false, false⟩ := by
    decide +kernel
  have hbefore : (directory.loadSettings .plain none).traces = .none := by decide +kernel
  have hleft : filesLeft .plain directory none = [] := congrArg Traces.written hbefore
  have hstem : IsUnmarked settings.classStem := by decide
  refine ⟨?_, ?_, ?_, ?_⟩
  · obtain ⟨hparsed, hshown, -⟩ :=
      hcompile none "a: b; --x: 1".toList _ none hname hload (by decide) hstem
    have hcode : (run .plain directory (compileWords none "a: b; --x: 1".toList)).exitCode = 0 := by
      decide +kernel
    obtain ⟨items, hparse⟩ := hparsed hcode
    obtain ⟨attributes, sheet, hrestyled, hshows⟩ := hshown items hparse
    have hout := (hshows.printed hcode).1
    rw [hbefore] at hout
    exact ⟨attributes, sheet, hrestyled, hout⟩
  · have hparse : (Style.parse settings.strict "a: b \x7d".toList).outcome =
        .error ⟨.unmatchedClose, 5, "a: b \x7d".toList⟩ := by decide +kernel
    exact ((hcompile none _ _ none hname hload (by decide) hstem).2.2 _ hparse).2.1
  · have hread : Command.read directory (buildInto "out.html".toList) =
        .ok (.build "page.html".toList (some "out.html".toList) none) := by decide +kernel
    have hcode : (run .plain directory (buildInto "out.html".toList)).exitCode = 0 := by
      decide +kernel
    have hwrites := ((hrun (buildInto "out.html".toList)).2.2 _ _ _ hread).1
    rcases hwrites.of_success hcode _ rfl with ⟨-, text, hended⟩ | ⟨build, -, -, hwritten⟩
    · rw [hload] at hended
      cases hended
    · rw [hleft] at hwritten
      exact ⟨build, hwritten⟩
  · have hread : Command.read directory (buildInto "missing/out.html".toList) =
        .ok (.build "page.html".toList (some "missing/out.html".toList) none) := by
      decide +kernel
    have hcode : (run .plain directory (buildInto "missing/out.html".toList)).exitCode ≠ 0 := by
      decide +kernel
    have hplace : (afterLoading .plain directory none).placeToWrite
        (Text.normalizePath "missing/out.html".toList) = .error .missing := by decide +kernel
    have hwrites := ((hrun (buildInto "missing/out.html".toList)).2.2 _ _ _ hread).1
    rcases hwrites.of_failure hcode with hwritten | ⟨path, hpath, build, -⟩
    · exact hwritten.trans hleft
    · cases hpath
      have hfound := build.place_found
      rw [hplace] at hfound
      cases hfound

/-- The plain machine, but running a settings file, whatever is in it, comes to this. -/
def machineRunning (run : SettingsRun) : Machine :=
  { Machine.plain with runSettings := fun _ _ => run }

/-- What a machine leaves behind that keeps compiled settings. -/
def compiledSettings : Traces :=
  Traces.none.write "__pycache__/headwind.config.cpython-311.pyc".toList [0xa7, 0x0d, 0x0d, 0x0a]

/-- The exit code of a build into this output file, and the files of the directory it changes. -/
def exitAndChanges (machine : Machine) (directory : Directory) (output : String) :
    Nat × List (Text × Bytes) :=
  let report := run machine directory (buildInto output.toList)
  (report.exitCode, directory.changedBy report.written)

/-- A style that can be read need not lead to exit code 0, and what is printed need not be all from
the style. A build that fails may change files, and one with exit code 0 need not write its page. -/
theorem onePageDirectory_changed_by_failures :
    -- The stem of the classes is a lone surrogate, which the standard output does not take.
    ((Style.parse false "a: b".toList).outcome.isOk ∧
      (run .plain (onePageDirectory "CLASS_PREFIX = '\\ud800'\n" "a")
        (compileWords none "a: b".toList)).exitCode = 1) ∧
    -- The settings print a line of their own.
    ((run (machineRunning ⟨[], [], none, Traces.none.print ['x', '\n']⟩) (onePageDirectory "" "a")
        (compileWords none [])).out = "x\nclass: \n\n".toList) ∧
    -- The id of the style element is a lone surrogate: the output file is emptied.
    exitAndChanges .plain (onePageDirectory "STYLE_ID = '\\ud800'\n" "<p style='a: b'></p>")
      "out.html" = (1, [("out.html".toList, [])]) ∧
    -- The compiled settings are kept in a new file, though there is no folder for the output.
    exitAndChanges (machineRunning ⟨[], [], none, compiledSettings⟩) (onePageDirectory "" "a")
      "missing/out.html" = (1, compiledSettings.written) ∧
    -- Writing breaks off after one byte.
    exitAndChanges { Machine.plain with breaksOff? := fun _ _ => some 1 } (onePageDirectory "" "ab")
      "out.html" = (1, [("out.html".toList, [0x61])]) ∧
    -- The standard output takes no line, when the page is written already.
    exitAndChanges { Machine.plain with takes := fun _ => false } (onePageDirectory "" "ab")
      "out.html" = (1, [("out.html".toList, [0x61, 0x62])]) ∧
    -- The settings end the program with exit code 0: the page is not written.
    exitAndChanges (machineRunning ⟨[], [], some (.ending (.exitCode 0) []), .none⟩)
      (onePageDirectory "" "ab") "out.html" = (0, []) := by
  refine ⟨?_, ?_, ?_, ?_, ?_, ?_, ?_⟩ <;> decide +kernel

end AtomicCss.CommandLine
