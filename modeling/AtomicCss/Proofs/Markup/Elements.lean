import AtomicCss.Proofs.Markup.Steps
import Mathlib.Data.List.Infix

/-! # The elements of a tree

Every element of a tree that is built from tokens was opened by a start tag, with its attributes, or
was supplied without attributes. The elements outside every other one are `html` elements. Both are
kept by each step of building, so they hold of the tree of any page. -/

namespace AtomicCss.Markup

/-! ## Equality of trees -/

namespace Node

mutual

/-- Whether two trees are the same. -/
def same : Node → Node → Bool
  | element tag attributes children, element tag' attributes' children' =>
      decide (tag = tag') && decide (attributes = attributes') && sameAll children children'
  | text content, text content' => content = content'
  | comment content, comment content' => content = content'
  | instruction target content, instruction target' content' =>
      decide (target = target') && decide (content = content')
  | _, _ => false

/-- Whether two lists of trees are the same. -/
def sameAll : List Node → List Node → Bool
  | [], [] => true
  | node :: rest, node' :: rest' => same node node' && sameAll rest rest'
  | _, _ => false

end

mutual

theorem same_iff : ∀ first second : Node, same first second ↔ first = second
  | element tag attributes children, second => by
      cases second with
      | element tag' attributes' children' => simp [same, sameAll_iff children, and_assoc]
      | text content => simp [same]
      | comment content => simp [same]
      | instruction target content => simp [same]
  | text content, second => by cases second <;> simp [same]
  | comment content, second => by cases second <;> simp [same]
  | instruction target content, second => by cases second <;> simp [same]

theorem sameAll_iff : ∀ first second : List Node, sameAll first second ↔ first = second
  | [], second => by cases second <;> simp [sameAll]
  | node :: rest, second => by
      cases second with
      | nil => simp [sameAll]
      | cons node' rest' => simp [sameAll, same_iff node, sameAll_iff rest]

end
end Node

instance : DecidableEq Node := fun first second =>
  decidable_of_iff (Node.same first second) (Node.same_iff first second)

deriving instance DecidableEq for Document

/-! ## Elements -/

namespace Node

mutual

/-- The elements of a tree in document order, each with its tag and its attributes. -/
def elements : Node → List (Text × Attributes)
  | element tag attributes children => (tag, attributes) :: elementsOf children
  | text _ => []
  | comment _ => []
  | instruction _ _ => []

/-- The elements of some trees. -/
def elementsOf : List Node → List (Text × Attributes)
  | [] => []
  | node :: rest => elements node ++ elementsOf rest

end

theorem elementsOf_eq_flatMap (nodes : List Node) : elementsOf nodes = nodes.flatMap elements := by
  induction nodes with
  | nil => rfl
  | cons node rest ih => rw [elementsOf, ih, List.flatMap_cons]

theorem elements_element (tag : Text) (attributes : Attributes) (children : List Node) :
    (element tag attributes children).elements =
      (tag, attributes) :: children.flatMap elements := by
  rw [elements, elementsOf_eq_flatMap]

end Node

theorem mem_flatMap_addLast {node : Node} {nodes : List Node} {element : Text × Attributes} :
    element ∈ (addLast node nodes).flatMap Node.elements ↔
      element ∈ node.elements ∨ element ∈ nodes.flatMap Node.elements := by
  unfold addLast
  split <;> simp [Node.elements]

/-- An element that is still open, and the elements inside it. -/
def OpenElement.elements (element : OpenElement) : List (Text × Attributes) :=
  (element.tag, element.attributes) :: element.children.flatMap Node.elements

namespace Builder

/-- The elements that were opened so far. -/
def elements (builder : Builder) : List (Text × Attributes) :=
  builder.stack.flatMap OpenElement.elements ++ builder.roots.flatMap Node.elements

/-- The elements that were opened so far have a property, and those outside every other one are
`html` elements. -/
structure IsValid (p : Text × Attributes → Prop) (builder : Builder) : Prop where
  elements : ∀ element ∈ builder.elements, p element
  bottom : ∀ element ∈ builder.stack.getLast?, element.tag = htmlTag
  roots : ∀ node ∈ builder.roots, node.isElement → node.tag = htmlTag

variable {p : Text × Attributes → Prop} {builder : Builder}

theorem isValid_empty : IsValid p empty := by
  constructor <;> simp [empty, elements]

/-- Only the stack and the roots of a builder matter. -/
theorem IsValid.congr {other : Builder} (h : builder.IsValid p)
    (hstack : other.stack = builder.stack) (hroots : other.roots = builder.roots) :
    other.IsValid p where
  elements := by
    rw [Builder.elements, hstack, hroots]
    exact h.elements
  bottom := hstack ▸ h.bottom
  roots := hroots ▸ h.roots

/-! ## One step -/

theorem mem_elements_add {node : Node} {element : Text × Attributes} :
    element ∈ (builder.add node).elements ↔
      element ∈ node.elements ∨ element ∈ builder.elements := by
  obtain ⟨stack, roots⟩ := builder
  cases stack with
  | nil => simp [add, elements]
  | cons current outer =>
      simp only [add, elements, List.flatMap_cons, OpenElement.elements, List.mem_append,
        List.mem_cons, mem_flatMap_addLast]
      tauto

theorem IsValid.add (h : builder.IsValid p) {node : Node} (hnode : ∀ e ∈ node.elements, p e)
    (hroot : builder.stack = [] → node.isElement → node.tag = htmlTag) :
    (builder.add node).IsValid p where
  elements := by
    intro element helement
    rcases mem_elements_add.1 helement with helement | helement
    · exact hnode element helement
    · exact h.elements element helement
  bottom := by
    obtain ⟨stack, roots⟩ := builder
    rcases stack with _ | ⟨current, _ | ⟨next, outer⟩⟩
    · exact h.bottom
    · intro element helement
      rw [← Option.some.inj helement]
      exact h.bottom current rfl
    · exact h.bottom
  roots := by
    intro other hother
    obtain ⟨stack, roots⟩ := builder
    cases stack with
    | nil =>
        rcases List.mem_cons.1 hother with rfl | hother
        · exact hroot rfl
        · exact h.roots other hother
    | cons current outer => exact h.roots other hother

/-- A finished node that is no element brings no elements. -/
theorem IsValid.addLeaf (h : builder.IsValid p) {node : Node} (hnode : node.isElement = false) :
    (builder.add node).IsValid p := by
  apply h.add
  · intro element helement
    cases node with
    | element tag attributes children => cases hnode
    | text content => cases helement
    | comment content => cases helement
    | instruction target content => cases helement
  · intro _ helement
    rw [hnode] at helement
    cases helement

theorem IsValid.push (h : builder.IsValid p) {tag : Text} {attributes : Attributes}
    (hnew : p (tag, attributes)) (hbottom : builder.stack = [] → tag = htmlTag) :
    (builder.push tag attributes).IsValid p := by
  rw [Builder.push]
  split_ifs with hlimit
  · exact h.congr rfl rfl
  · refine ⟨?_, ?_, h.roots⟩
    · intro element helement
      have hcases : element = (tag, attributes) ∨ element ∈ builder.elements := by
        simpa [Builder.elements, OpenElement.elements, or_assoc] using helement
      rcases hcases with rfl | helement
      · exact hnew
      · exact h.elements element helement
    · intro element helement
      rcases hstack : builder.stack with _ | ⟨current, outer⟩
      · rw [hstack] at helement
        rw [← Option.some.inj helement]
        exact hbottom hstack
      · apply h.bottom
        rwa [hstack, List.getLast?_cons_cons, ← hstack] at helement

theorem IsValid.pop (h : builder.IsValid p) : builder.pop.IsValid p := by
  rw [Builder.pop]
  split
  · exact h
  · rename_i current outer hstack
    have hmem : ∀ element ∈ current.elements, element ∈ builder.elements := by
      intro element helement
      rw [Builder.elements, hstack, List.flatMap_cons]
      exact List.mem_append_left _ (List.mem_append_left _ helement)
    have hvalid : IsValid p { builder with stack := outer } := by
      refine ⟨?_, ?_, h.roots⟩
      · intro element helement
        apply h.elements
        rw [Builder.elements, hstack, List.flatMap_cons, List.append_assoc]
        exact List.mem_append_right _ helement
      · intro element helement
        apply h.bottom
        cases outer with
        | nil => cases helement
        | cons next outer => rwa [hstack, List.getLast?_cons_cons]
    apply hvalid.add
    · intro element helement
      apply h.elements
      apply hmem
      simpa [OpenElement.elements, Node.elements_element] using helement
    · intro houter _
      apply h.bottom
      have houter' : outer = [] := houter
      rw [hstack, houter']
      rfl

theorem IsValid.step {before after : Builder} (h : before.IsValid p) (hbare : ∀ tag, p (tag, []))
    {token : Token} (htoken : ∀ element ∈ token.opened, p element)
    (hstep : Step token before after) : after.IsValid p := by
  cases hstep with
  | mark hstack hroots hdoctype => exact h.congr hstack hroots
  | leaf hnode =>
      apply h.addLeaf
      cases hnode <;> rfl
  | supply htag hbottom => exact h.push (hbare _) hbottom
  | push hnew hbottom => exact h.push (htoken _ hnew) hbottom
  | pop => exact h.pop

/-- The elements that tokens are built into have every property that those without attributes and
those of the start tags have. -/
theorem isValid_ofTokens (hbare : ∀ tag, p (tag, [])) {tokens : List Token}
    (htokens : ∀ token ∈ tokens, ∀ element ∈ token.opened, p element) :
    (ofTokens tokens).IsValid p :=
  ofTokens_keeps isValid_empty
    (fun token htoken _ _ hstep h => h.step hbare (htokens token htoken) hstep)
    fun _ h => h.pop

end Builder

namespace Document

variable {page : Text} {document : Document}

theorem root_mem_roots_of_read (h : read page = .ok document) :
    document.root ∈ (Builder.ofTokens (Token.scan page)).roots ∧ document.root.isElement := by
  rw [read] at h
  split at h
  · cases h
  · rename_i root hroot
    cases h
    exact ⟨List.mem_reverse.1 (List.mem_of_find?_eq_some hroot), List.find?_some hroot⟩

/-- The tree of a document is an `html` element. -/
theorem tag_root_of_read (h : read page = .ok document) :
    document.root.isElement ∧ document.root.tag = htmlTag := by
  obtain ⟨hroot, helement⟩ := root_mem_roots_of_read h
  have hvalid : (Builder.ofTokens (Token.scan page)).IsValid fun _ => True :=
    Builder.isValid_ofTokens (fun _ => trivial) fun _ _ _ _ => trivial
  exact ⟨helement, hvalid.roots _ hroot helement⟩

/-- Every element of a document was opened by a start tag of its page or has no attributes. -/
theorem mem_elements_of_read (h : read page = .ok document) {element : Text × Attributes}
    (helement : element ∈ document.root.elements) :
    element.2 = [] ∨ ∃ token ∈ Token.scan page, element ∈ token.opened := by
  obtain ⟨hroot, -⟩ := root_mem_roots_of_read h
  have hvalid : (Builder.ofTokens (Token.scan page)).IsValid fun e =>
      e.2 = [] ∨ ∃ token ∈ Token.scan page, e ∈ token.opened :=
    Builder.isValid_ofTokens (fun _ => Or.inl rfl) fun token htoken e he =>
      Or.inr ⟨token, htoken, he⟩
  exact hvalid.elements element
    (List.mem_append_right _ (List.mem_flatMap.2 ⟨document.root, hroot, helement⟩))

end Document

namespace Fragment

/-- The document that a fragment is read as. -/
def wrapped (page : Text) : Text :=
  "<html><body>".toList ++ page ++ "</body></html>".toList

variable {page : Text} {container : Node} {element : Text × Attributes}

/-- What is below a node is part of it. -/
theorem mem_elements_children {node : Node}
    (h : element ∈ node.children.flatMap Node.elements) : element ∈ node.elements := by
  cases node with
  | element tag attributes children =>
      rw [Node.elements_element]
      exact List.mem_cons_of_mem _ h
  | text content => cases h
  | comment content => cases h
  | instruction target content => cases h

/-- The container has no attributes, and what is below it is that of the body. -/
theorem mem_elements_ofBody {children : List Node} (h : ofBody children = .ok container)
    (helement : element ∈ container.elements) :
    element.2 = [] ∨ element ∈ children.flatMap Node.elements := by
  have hrest : ∀ e ∈ (children.dropWhile Node.isText).flatMap Node.elements,
      e ∈ children.flatMap Node.elements := by
    intro e he
    obtain ⟨node, hnode, he⟩ := List.mem_flatMap.1 he
    exact List.mem_flatMap.2 ⟨node, (List.dropWhile_suffix _).subset hnode, he⟩
  rw [ofBody] at h
  split_ifs at h
  · cases h
    rw [Node.elements_element] at helement
    rcases List.mem_cons.1 helement with rfl | helement
    · exact Or.inl rfl
    · exact Or.inr (hrest _ helement)
  · cases h
    rw [Node.elements_element] at helement
    rcases List.mem_cons.1 helement with rfl | helement
    · exact Or.inl rfl
    · exact Or.inr (hrest _ helement)

/-- Every element of a fragment was opened by a start tag of its document or has no attributes. -/
theorem mem_elements_of_read (h : read page = .ok container)
    (helement : element ∈ container.elements) :
    element.2 = [] ∨ ∃ token ∈ Token.scan (wrapped page), element ∈ token.opened := by
  rw [read] at h
  split at h
  · cases h
  · rename_i document hdocument
    split at h
    · rename_i body hbody
      rcases mem_elements_ofBody h helement with hbare | hmem
      · exact Or.inl hbare
      · have hchild : body ∈ document.root.children :=
          (List.mem_filter.1 (hbody ▸ List.mem_singleton_self body)).1
        apply Document.mem_elements_of_read hdocument
        apply mem_elements_children
        exact List.mem_flatMap.2 ⟨body, hchild, mem_elements_children hmem⟩
    · cases h

end Fragment
end AtomicCss.Markup
