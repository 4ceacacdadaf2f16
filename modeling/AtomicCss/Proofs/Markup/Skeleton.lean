import AtomicCss.Proofs.Markup.Elements

/-! # Skeletons

The skeleton of a tree is the tree without its attributes. It holds the nesting, the tags, the texts,
the comments and the instructions. A tree is its skeleton together with the attributes of its elements
in document order. -/

namespace AtomicCss.Markup.Node

mutual

/-- A tree without its attributes. -/
def skeleton : Node → Node
  | element tag _ children => element tag [] (skeletons children)
  | text content => text content
  | comment content => comment content
  | instruction target content => instruction target content

/-- Trees without their attributes. -/
def skeletons : List Node → List Node
  | [] => []
  | node :: rest => skeleton node :: skeletons rest

end

theorem isText_skeleton (node : Node) : node.skeleton.isText = node.isText := by
  cases node <;> rfl

theorem isElement_skeleton (node : Node) : node.skeleton.isElement = node.isElement := by
  cases node <;> rfl

theorem tag_skeleton (node : Node) : node.skeleton.tag = node.tag := by
  cases node <;> rfl

theorem children_skeleton (node : Node) : node.skeleton.children = skeletons node.children := by
  cases node <;> rfl

mutual

/-- A skeleton has the tags of the tree. -/
theorem map_fst_elements_skeleton (node : Node) :
    node.skeleton.elements.map Prod.fst = node.elements.map Prod.fst := by
  cases node with
  | element tag attributes children =>
      rw [skeleton, elements, elements, List.map_cons, List.map_cons,
        map_fst_elementsOf_skeletons children]
  | text content => rfl
  | comment content => rfl
  | instruction target content => rfl

theorem map_fst_elementsOf_skeletons (nodes : List Node) :
    (elementsOf (skeletons nodes)).map Prod.fst = (elementsOf nodes).map Prod.fst := by
  cases nodes with
  | nil => rfl
  | cons node rest =>
      rw [skeletons, elementsOf, elementsOf, List.map_append, List.map_append,
        map_fst_elements_skeleton node, map_fst_elementsOf_skeletons rest]

end

/-- Trees with one skeleton have equally many elements. -/
theorem length_elements_eq {first second : Node} (h : first.skeleton = second.skeleton) :
    first.elements.length = second.elements.length := by
  have htags := map_fst_elements_skeleton first
  rw [h, map_fst_elements_skeleton second] at htags
  simpa using congrArg List.length htags.symm

mutual

/-- A tree is determined by its skeleton and its elements. -/
theorem eq_of_skeleton_eq : ∀ {first second : Node}, first.skeleton = second.skeleton →
    first.elements = second.elements → first = second
  | element tag attributes children, second, hskeleton, helements => by
      cases second with
      | element tag' attributes' children' =>
          simp only [skeleton, element.injEq, true_and] at hskeleton
          simp only [elements, List.cons.injEq, Prod.mk.injEq] at helements
          obtain ⟨⟨rfl, rfl⟩, hbelow⟩ := helements
          rw [eq_of_skeletons_eq hskeleton.2 hbelow]
      | text content => cases hskeleton
      | comment content => cases hskeleton
      | instruction target content => cases hskeleton
  | text content, second, hskeleton, _ => by
      cases second
      all_goals cases hskeleton
      rfl
  | comment content, second, hskeleton, _ => by
      cases second
      all_goals cases hskeleton
      rfl
  | instruction target content, second, hskeleton, _ => by
      cases second
      all_goals cases hskeleton
      rfl

theorem eq_of_skeletons_eq : ∀ {first second : List Node}, skeletons first = skeletons second →
    elementsOf first = elementsOf second → first = second
  | [], second, hskeletons, _ => by
      cases second with
      | nil => rfl
      | cons node rest => cases hskeletons
  | node :: rest, second, hskeletons, helements => by
      cases second with
      | nil => cases hskeletons
      | cons node' rest' =>
          obtain ⟨hskeleton, hskeletons⟩ := List.cons.inj hskeletons
          obtain ⟨hfirst, hrest⟩ := List.append_inj helements (length_elements_eq hskeleton)
          rw [eq_of_skeleton_eq hskeleton hfirst, eq_of_skeletons_eq hskeletons hrest]

end

end AtomicCss.Markup.Node
