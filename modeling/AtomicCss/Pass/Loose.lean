import AtomicCss.Pass.Basic
import AtomicCss.Settings.Run

/-! # Passes with lone surrogates

The stem and the id of loaded settings may have lone surrogates, for which the null character stands
in the settings of the pass. Neither is taken by a tree. Only in a fragment is the id written as
text, so that the page comes out with lone surrogates in it. -/

namespace AtomicCss.Pass

open Markup

/-- The sheet after the styles of a page have been collected, and whether all of them have been. -/
def collected (settings : Settings) (page : Text) : Sheet × Bool :=
  if isDocument page then
    match Document.read page with
    | .error _ => (.empty, false)
    | .ok document =>
        let done := collectTree settings document.root .empty
        (done.state, done.outcome.isOk)
  else
    let done := collectPage settings page .empty
    (done.state, done.outcome.isOk)

/-- Whether it is for its lone surrogates that a text is refused. The class of an element is set
after its rules are there and before its style, and the id is set after all styles are collected. -/
def refusesLoose (configuration : Configuration) (page : Text) : Bool :=
  match collected configuration.settings page with
  | (sheet, false) => configuration.looseStem && !sheet.isEmpty
  | (_, true) => configuration.looseId

/-- Why a page is not rendered under loaded settings. -/
inductive RenderFailure where
  | fault (fault : Fault)
  | notEncodable
  deriving DecidableEq, Repr

/-- Restyles a page under loaded settings. -/
def renderLoaded (configuration : Configuration) (page : Text) : Logged RenderFailure LooseText :=
  let settings := configuration.settings
  let rendered := render settings page .empty
  ⟨rendered.notices, match rendered.outcome with
    | .error fault =>
        .error (if fault = .notXmlText ∧ refusesLoose configuration page then .notEncodable
          else .fault fault)
    | .ok text =>
        let writesId := !isDocument page && !(collected settings page).1.isEmpty
        .ok ⟨text, configuration.looseId && writesId⟩⟩

end AtomicCss.Pass
