import AtomicCss.Pass.Basic

/-! # Sessions

A session has several passes, each with settings and a sheet of its own, and at most one of
them is active. Entering a pass makes it active and remembers which one was active before;
leaving it brings that one back and empties the sheet. -/

namespace AtomicCss

open Markup

/-- One pass of a session. -/
structure PassState where
  settings : Settings
  sheet : Sheet
  /-- The pass that was active when this one was entered, as long as it is not left. -/
  previous : Option (Option Nat)

/-- The passes by their index, and the index of the active one. -/
structure Session where
  passes : List PassState
  active : Option Nat

/-- What can be done with a pass. -/
inductive PassAction where
  | collectPage (page : Text)
  | embedPage (page : Text)
  | render (page : Text)
  | collectTree (root : Node)
  | collectElement (node : Node)
  | embedTree (root : Node)
  | flush
  | flushBlock
  | enter
  | leave

/-- What an action gives. -/
inductive PassResult where
  | text (text : Text)
  | tree (root : Node)
  | entered (pass : Nat)
  | done

namespace Session

/-- A session with a pass for each settings. -/
def start (settings : List Settings) : Session :=
  ⟨settings.map fun settings => ⟨settings, .empty, none⟩, none⟩

/-- What an action does to a sheet and gives, for the actions that a sheet is enough for. -/
def onSheet (settings : Settings) (action : PassAction) (sheet : Sheet) :
    Effect Sheet PassResult :=
  match action with
  | .collectPage page => asText (Pass.collectPage settings page sheet)
  | .embedPage page => asText (Pass.embedPage settings page sheet)
  | .render page => asText (Pass.render settings page sheet)
  | .collectTree root => asTree (Pass.collectTree settings root sheet)
  | .collectElement node => asTree (Pass.collectElement settings node sheet)
  | .embedTree root => asTree (Pass.embedTree settings root sheet)
  | .flush => asText (Pass.flush sheet)
  | .flushBlock => asText (Pass.flushBlock settings sheet)
  | .enter => .ok sheet .done
  | .leave => .ok .empty .done
where
  /-- An effect that gives a text. -/
  asText (effect : Effect Sheet Text) : Effect Sheet PassResult :=
    ⟨effect.state, effect.notices, effect.outcome.map .text⟩
  /-- An effect that gives a tree. -/
  asTree (effect : Effect Sheet Node) : Effect Sheet PassResult :=
    ⟨effect.state, effect.notices, effect.outcome.map .tree⟩

/-- Takes an action on the pass with this index; a pass that does not exist stays away. -/
def act (index : Nat) (action : PassAction) (session : Session) : Effect Session PassResult :=
  match session.passes[index]? with
  | none => .ok session .done
  | some pass =>
      let effect := onSheet pass.settings action pass.sheet
      let pass := { pass with sheet := effect.state }
      match action with
      | .enter =>
          let pass := { pass with previous := some session.active }
          ⟨⟨session.passes.set index pass, some index⟩, effect.notices, .ok (.entered index)⟩
      | .leave =>
          let active := pass.previous.getD session.active
          let pass := { pass with previous := none }
          ⟨⟨session.passes.set index pass, active⟩, effect.notices, effect.outcome⟩
      | _ => ⟨⟨session.passes.set index pass, session.active⟩, effect.notices, effect.outcome⟩

/-- The rules of a pass, each body with its selectors. -/
def rules (index : Nat) (session : Session) : OrderedMap (List Text) :=
  match session.passes[index]? with
  | none => []
  | some pass => pass.sheet.entries

end Session
end AtomicCss
