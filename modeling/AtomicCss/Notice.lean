import AtomicCss.Text.Quoted

/-! # Notices

A notice reports input that is accepted but probably not meant. Each kind of notice belongs to
one channel and has one wording. -/

namespace AtomicCss

/-- What a notice reports. -/
inductive Notice where
  /-- A segment that has no name, no colon or no value; the segment is trimmed. -/
  | malformedDeclaration (segment : Text)
  /-- A nested rule that is neither a pseudo-class nor an at-rule. -/
  | unclassifiedSelector (selector : Text)
  /-- A `style` that is no text, on an element with this tag. -/
  | styleNotText (kind : Text) (tag : Option Text)
  /-- A `class` that is no text, on an element with this tag. -/
  | classNotText (kind : Text) (tag : Option Text)
  /-- A settings file that could not be loaded. -/
  | settingsNotLoaded (path reason : Text)
  deriving DecidableEq, Repr

namespace Notice

/-- The channel that a notice is given on. -/
def channel : Notice → Text
  | malformedDeclaration _ => "headwind.parser".toList
  | unclassifiedSelector _ => "headwind.compiler".toList
  | styleNotText _ _ => "headwind.hook".toList
  | classNotText _ _ => "headwind.hook".toList
  | settingsNotLoaded _ _ => "headwind.config".toList

/-- The tag as a notice shows it. -/
def tagText (tag : Option Text) : Text := tag.getD "None".toList

/-- The wording of a notice. -/
def message : Notice → Text
  | malformedDeclaration segment =>
      "Headwind: declaration is incorrectly formatted: ".toList ++ segment.quoted
  | unclassifiedSelector selector =>
      "Headwind: nested selector ".toList ++ selector.quoted ++
        " is neither a pseudo-class nor an at-rule; its declarations are dropped".toList
  | styleNotText kind tag =>
      "Headwind: the compiler only works with strings, but style of the type '".toList ++ kind ++
        "' on element '".toList ++ tagText tag ++ "'".toList
  | classNotText kind tag =>
      "Headwind: class of the type '".toList ++ kind ++ "' on element '".toList ++
        tagText tag ++ "' is not a string, style left inline".toList
  | settingsNotLoaded path reason =>
      "Failed to load config from ".toList ++ path ++ ": ".toList ++ reason

end Notice
end AtomicCss
