import AtomicCss.Notice
import AtomicCss.Style.Defect
import AtomicCss.Text.Quoted

/-! # Faults of pages

The reasons for which restyling a page fails, and the effect of an operation that may fail: a
failure keeps the state and the notices that came before it. -/

namespace AtomicCss

/-- Why a page cannot be restyled. -/
inductive Fault where
  | style (error : Style.StyleError)
  /-- A text that is put into a tree has a character that is not allowed there. -/
  | notXmlText
  /-- A tag or the name of an attribute is empty. -/
  | emptyName
  /-- The namespace before a name has no end. -/
  | unclosedNamespace
  /-- A tag has a character that delimits tags. -/
  | invalidTag (name : Text)
  /-- The namespace of a tag is no URI reference. -/
  | invalidNamespace (space : Text)
  /-- An element is put into a comment or an instruction. -/
  | notAnElement
  /-- A document without an element. -/
  | emptyDocument
  /-- A fragment whose markup ends the body it is read in and begins another one. -/
  | severalBodies
  deriving DecidableEq, Repr

/-- The wording of a fault. -/
def Fault.message : Fault → Text
  | style error => error.message
  | notXmlText =>
      ("All strings must be XML compatible: Unicode or ASCII, " ++
        "no NULL bytes or control characters").toList
  | emptyName => "Empty tag name".toList
  | unclosedNamespace => "Invalid tag name".toList
  | invalidTag name => "Invalid HTML tag name ".toList ++ name.quoted
  | invalidNamespace space => "Invalid namespace URI ".toList ++ space.quoted
  | notAnElement => "this element does not have children or attributes".toList
  | emptyDocument => "Document is empty".toList
  | severalBodies => "too many bodies".toList

/-- What an operation on a state leaves behind: the state, the notices, and a result or a
fault. -/
structure Effect (σ α : Type) where
  state : σ
  notices : List Notice
  outcome : Except Fault α

namespace Effect

variable {σ α β : Type}

/-- A result; the state is `state`. -/
def ok (state : σ) (a : α) : Effect σ α := ⟨state, [], .ok a⟩

/-- A fault; the state is `state`. -/
def fail (state : σ) (fault : Fault) : Effect σ α := ⟨state, [], .error fault⟩

/-- Goes on from the state with the result; after a fault nothing more happens. -/
def andThen (x : Effect σ α) (f : α → σ → Effect σ β) : Effect σ β :=
  match x.outcome with
  | .error fault => ⟨x.state, x.notices, .error fault⟩
  | .ok a =>
      let y := f a x.state
      ⟨y.state, x.notices ++ y.notices, y.outcome⟩

end Effect
end AtomicCss
