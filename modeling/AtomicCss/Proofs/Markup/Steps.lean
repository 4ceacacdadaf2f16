import AtomicCss.Markup.Fragment
import Mathlib.Data.List.TakeDrop
import Mathlib.Logic.Relation
import Mathlib.Tactic.SplitIfs

/-! # The steps of building a tree

However a token is read, the tree that is still open changes in a few ways only: a text or a comment
of the token is added, an element is opened that the token starts or that is supplied, the innermost
element is ended, or something else than the tree changes. What each of these steps keeps holds of
the tree of any page. -/

namespace AtomicCss.Markup

/-- The element that a token opens, if it is a start tag. -/
def Token.opened : Token → List (Text × Attributes)
  | startTag tag attributes _ => [(tag, attributes)]
  | _ => []

/-- A token puts a text or a comment into a tree. -/
inductive Token.Brings : Token → Node → Prop
  | text {content part : Text} (hpart : part ⊆ content) : Brings (.text content) (.text part)
  | lessSign : Brings .lessSign (.text ['<'])
  | comment {content : Text} : Brings (.comment content) (.comment content)

/-- The tags of the elements that are supplied. -/
def suppliedTags : List Text := [htmlTag, headTag, bodyTag]

namespace Builder

/-- One step of reading a token. Only an `html` element is opened outside every other one. -/
inductive Step (token : Token) : Builder → Builder → Prop
  | mark {builder other : Builder} (hstack : other.stack = builder.stack)
      (hroots : other.roots = builder.roots)
      (hdoctype : other.doctype = builder.doctype ∨
        ∃ doctype, token = .doctype doctype ∧ other.doctype = some doctype) :
      Step token builder other
  | leaf {builder : Builder} {node : Node} (hnode : token.Brings node) :
      Step token builder (builder.add node)
  | supply {builder : Builder} {tag : Text} (htag : tag ∈ suppliedTags)
      (hbottom : builder.stack = [] → tag = htmlTag) : Step token builder (builder.push tag [])
  | push {builder : Builder} {tag : Text} {attributes : Attributes}
      (hnew : (tag, attributes) ∈ token.opened) (hbottom : builder.stack = [] → tag = htmlTag) :
      Step token builder (builder.push tag attributes)
  | pop {builder : Builder} : Step token builder builder.pop

/-- Any number of steps. -/
abbrev Steps (token : Token) : Builder → Builder → Prop := Relation.ReflTransGen (Step token)

variable {token : Token} {builder : Builder}

/-! ## Ending and supplying elements -/

theorem steps_popMany (count : Nat) (builder : Builder) :
    Steps token builder (builder.popMany count) := by
  induction count generalizing builder with
  | zero => exact .refl
  | succ count ih => exact .head .pop (ih builder.pop)

theorem push_stack_ne_nil (tag : Text) (attributes : Attributes) (builder : Builder) :
    (builder.push tag attributes).stack ≠ [] := by
  rw [push]
  split_ifs with hlimit
  · intro hstack
    have hempty : builder.stack = [] := hstack
    rw [hempty] at hlimit
    exact absurd hlimit (by decide)
  · exact List.cons_ne_nil _ _

/-- After supplying elements for a tag, one is open unless the tag is that of a page. -/
theorem steps_imply (token : Token) (tag : Text) (builder : Builder) :
    Steps token builder (builder.imply tag) ∧
      ((builder.imply tag).stack = [] → tag = htmlTag) := by
  rw [imply]
  by_cases hhtml : tag = htmlTag
  · rw [if_pos hhtml]
    exact ⟨.refl, fun _ => hhtml⟩
  · rw [if_neg hhtml]
    -- any other tag stands in an element that is open by then
    have hframe : ∃ framed, framed = (if builder.stack.isEmpty then builder.push htmlTag []
        else builder) ∧ Steps token builder framed ∧ framed.stack ≠ [] := by
      refine ⟨_, rfl, ?_⟩
      split_ifs with hempty
      · exact ⟨.single (.supply (by simp [suppliedTags]) fun _ => rfl), push_stack_ne_nil _ _ _⟩
      · exact ⟨.refl, fun hstack => hempty (List.isEmpty_iff.2 hstack)⟩
    obtain ⟨framed, heq, hsteps, hne⟩ := hframe
    have hpush {name : Text} (hname : name ∈ suppliedTags) :
        Steps token builder (framed.push name []) ∧
          ((framed.push name []).stack = [] → tag = htmlTag) :=
      ⟨hsteps.tail (.supply hname fun hstack => absurd hstack hne),
        fun hstack => absurd hstack (push_stack_ne_nil _ _ _)⟩
    have hkeep : Steps token builder framed ∧ (framed.stack = [] → tag = htmlTag) :=
      ⟨hsteps, fun hstack => absurd hstack hne⟩
    dsimp only
    rw [← heq]
    split_ifs
    all_goals first | exact hkeep | exact hpush (by simp [suppliedTags])

theorem steps_makeRoom (token : Token) (tag : Text) (builder : Builder) :
    Steps token builder (builder.makeRoom tag) ∧
      ((builder.makeRoom tag).stack = [] → tag = htmlTag) := by
  obtain ⟨hsteps, hstack⟩ := steps_imply token tag (builder.endBefore tag)
  exact ⟨(steps_popMany _ builder).trans hsteps, hstack⟩

/-! ## Reading tokens -/

theorem steps_startTag {tag : Text} {attributes : Attributes}
    (hnew : (tag, attributes) ∈ token.opened) (closed : Bool) (builder : Builder) :
    Steps token builder (builder.startTag tag attributes closed) := by
  obtain ⟨hroom, hstack⟩ := steps_makeRoom token tag builder
  have hleft : Steps token builder { builder.makeRoom tag with
      leftOut := (builder.makeRoom tag).leftOut + 1 } := hroom.tail (.mark rfl rfl (Or.inl rfl))
  have hpush := hroom.tail (.push hnew hstack)
  rw [startTag]
  dsimp only
  split_ifs
  · exact hleft.tail .pop
  · exact hleft
  · exact hpush.tail .pop
  · exact hpush

theorem steps_endTag (tag : Text) (builder : Builder) :
    Steps token builder (builder.endTag tag) := by
  rw [endTag]
  dsimp only
  split_ifs
  · exact .single (.mark rfl rfl (Or.inl rfl))
  · exact .refl
  · exact .refl
  · exact steps_popMany _ builder

theorem steps_addText {content : Text} (h : token.Brings (.text content)) (builder : Builder) :
    Steps token builder (builder.addText content) := by
  rw [addText]
  split_ifs
  · exact .refl
  · exact .single (.leaf h)

theorem steps_makeRoomForText (builder : Builder) :
    Steps token builder builder.makeRoomForText := by
  rw [makeRoomForText]
  split_ifs
  · exact (steps_popMany _ builder).trans (steps_imply token _ _).1
  · exact (steps_imply token _ builder).1

theorem steps_text (content : Text) (builder : Builder) :
    Steps (.text content) builder (builder.text content) := by
  have hspace : Token.Brings (.text content) (.text (content.takeWhile isSpace)) :=
    .text (List.takeWhile_subset _)
  have hrest : Token.Brings (.text content) (.text (content.dropWhile isSpace)) :=
    .text (List.dropWhile_suffix _).subset
  rw [text, List.span_eq_takeWhile_dropWhile]
  dsimp only
  split_ifs
  · exact steps_addText hspace builder
  · exact ((steps_addText hspace builder).trans (steps_makeRoomForText _)).trans
      (steps_addText hrest _)
  · exact steps_addText (.text (List.Subset.refl _)) builder

/-- Reading a token takes some steps. -/
theorem steps_read (token : Token) (builder : Builder) :
    Steps token builder (builder.read token) := by
  rw [read.eq_def]
  split_ifs
  · exact .refl
  · cases token with
    | text content => exact steps_text content builder
    | lessSign => exact (steps_makeRoomForText builder).trans (steps_addText .lessSign _)
    | startTag tag attributes closed =>
        exact steps_startTag (List.mem_singleton_self _) closed builder
    | cutTag tag => exact (steps_makeRoom _ tag builder).1
    | endTag tag => exact steps_endTag tag builder
    | comment content => exact .single (.leaf .comment)
    | doctype doctype =>
        dsimp only [readDoctype]
        split_ifs
        · refine .single (.mark rfl rfl ?_)
          cases hdoctype : builder.doctype with
          | none => exact Or.inr ⟨doctype, rfl, rfl⟩
          | some first => exact Or.inl rfl
        · exact .refl

/-! ## Pages -/

variable {inv : Builder → Prop}

theorem Steps.keeps {before after : Builder} (h : Steps token before after)
    (hstep : ∀ before after, Step token before after → inv before → inv after)
    (hbefore : inv before) : inv after := by
  induction h with
  | refl => exact hbefore
  | tail _ hlast ih => exact hstep _ _ hlast ih

/-- What every step of some tokens keeps holds after reading them. -/
theorem foldl_read_keeps {tokens : List Token}
    (hstep : ∀ token ∈ tokens, ∀ before after, Step token before after → inv before → inv after)
    (h : inv builder) : inv (tokens.foldl read builder) := by
  induction tokens generalizing builder with
  | nil => exact h
  | cons token tokens ih =>
      obtain ⟨htoken, htokens⟩ := List.forall_mem_cons.1 hstep
      exact ih htokens ((steps_read token builder).keeps htoken h)

/-- What holds before anything is read and is kept by every step holds of the tree of a page. -/
theorem ofTokens_keeps {tokens : List Token} (hempty : inv empty)
    (hstep : ∀ token ∈ tokens, ∀ before after, Step token before after → inv before → inv after)
    (hpop : ∀ before, inv before → inv (pop before)) : inv (ofTokens tokens) := by
  have hends (count : Nat) : ∀ before, inv before → inv (before.popMany count) := by
    induction count with
    | zero => exact fun before hbefore => hbefore
    | succ count ih => exact fun before hbefore => ih before.pop (hpop before hbefore)
  exact hends _ _ (foldl_read_keeps hstep hempty)

end Builder
end AtomicCss.Markup
