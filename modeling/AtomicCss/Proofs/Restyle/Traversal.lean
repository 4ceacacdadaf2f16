import AtomicCss.Proofs.Markup.Skeleton
import AtomicCss.Restyle.Element

/-! # Restyling a tree, element by element

Restyling a tree takes its elements one after the other, in document order, and stops at the first
one that cannot be restyled. Of the tree only the attributes of these elements change. -/

namespace AtomicCss

open Markup

/-- Restyles the attributes of elements one after the other, up to the first fault. -/
def restyleEach (settings : Settings) :
    List (Text × Attributes) → Sheet → Effect (List (Text × Attributes) × Sheet) Unit
  | [], sheet => .ok ([], sheet) ()
  | (tag, attributes) :: rest, sheet =>
      let first := restyleAttributes settings attributes sheet
      match first.outcome with
      | .error fault =>
          ⟨((tag, first.state.1) :: rest, first.state.2), first.notices, .error fault⟩
      | .ok () =>
          let others := restyleEach settings rest first.state.2
          ⟨((tag, first.state.1) :: others.state.1, others.state.2),
            first.notices ++ others.notices, others.outcome⟩

variable {settings : Settings} {first second : List (Text × Attributes)} {sheet : Sheet}

theorem restyleEach_append_of_error {fault : Fault}
    (h : (restyleEach settings first sheet).outcome = .error fault) :
    restyleEach settings (first ++ second) sheet =
      ⟨((restyleEach settings first sheet).state.1 ++ second,
          (restyleEach settings first sheet).state.2),
        (restyleEach settings first sheet).notices, .error fault⟩ := by
  induction first generalizing sheet with
  | nil => cases h
  | cons element first ih =>
      obtain ⟨tag, attributes⟩ := element
      rw [restyleEach] at h
      rw [List.cons_append, restyleEach, restyleEach]
      cases hhere : (restyleAttributes settings attributes sheet).outcome with
      | error here =>
          rw [hhere] at h
          cases h
          rfl
      | ok done =>
          rw [hhere] at h
          simp only [ih h, List.cons_append]

theorem restyleEach_append_of_ok (h : (restyleEach settings first sheet).outcome = .ok ()) :
    restyleEach settings (first ++ second) sheet =
      ⟨((restyleEach settings first sheet).state.1 ++
            (restyleEach settings second (restyleEach settings first sheet).state.2).state.1,
          (restyleEach settings second (restyleEach settings first sheet).state.2).state.2),
        (restyleEach settings first sheet).notices ++
          (restyleEach settings second (restyleEach settings first sheet).state.2).notices,
        (restyleEach settings second (restyleEach settings first sheet).state.2).outcome⟩ := by
  induction first generalizing sheet with
  | nil => rfl
  | cons element first ih =>
      obtain ⟨tag, attributes⟩ := element
      rw [restyleEach] at h
      rw [List.cons_append, restyleEach, restyleEach]
      cases hhere : (restyleAttributes settings attributes sheet).outcome with
      | error here =>
          rw [hhere] at h
          cases h
      | ok done =>
          rw [hhere] at h
          simp only [ih h, List.cons_append, List.append_assoc]

/-! ## Trees -/

/-- What restyling a node leaves, in the place of the node its elements. -/
def elementsLeft (done : Effect (Node × Sheet) Unit) :
    Effect (List (Text × Attributes) × Sheet) Unit :=
  ⟨(done.state.1.elements, done.state.2), done.notices, done.outcome⟩

/-- What restyling some nodes leaves, in the place of the nodes their elements. -/
def elementsLeftOf (done : Effect (List Node × Sheet) Unit) :
    Effect (List (Text × Attributes) × Sheet) Unit :=
  ⟨(Node.elementsOf done.state.1, done.state.2), done.notices, done.outcome⟩

mutual

/-- Restyling a tree restyles its elements in document order. -/
theorem elementsLeft_restyleTree (settings : Settings) (node : Node) (sheet : Sheet) :
    elementsLeft (restyleTree settings node sheet) =
      restyleEach settings node.elements sheet := by
  cases node with
  | element tag attributes children =>
      rw [Node.elements, restyleEach, restyleTree]
      cases hfirst : (restyleAttributes settings attributes sheet).outcome with
      | error fault => rfl
      | ok done =>
          rw [← elementsLeftOf_restyleForest settings children]
          rfl
  | text content => rfl
  | comment content => rfl
  | instruction target content => rfl

theorem elementsLeftOf_restyleForest (settings : Settings) (nodes : List Node) (sheet : Sheet) :
    elementsLeftOf (restyleForest settings nodes sheet) =
      restyleEach settings (Node.elementsOf nodes) sheet := by
  cases nodes with
  | nil => rfl
  | cons node rest =>
      have hnode := elementsLeft_restyleTree settings node sheet
      rw [Node.elementsOf, restyleForest]
      cases hfirst : (restyleTree settings node sheet).outcome with
      | error fault =>
          have herror : (restyleEach settings node.elements sheet).outcome = .error fault := by
            rw [← hnode]
            exact hfirst
          rw [restyleEach_append_of_error herror, ← hnode]
          rfl
      | ok done =>
          have hok : (restyleEach settings node.elements sheet).outcome = .ok () := by
            rw [← hnode]
            exact hfirst
          rw [restyleEach_append_of_ok hok, ← hnode]
          simp only [elementsLeft, ← elementsLeftOf_restyleForest settings rest]
          rfl

end

theorem elements_restyleTree (settings : Settings) (node : Node) (sheet : Sheet) :
    (restyleTree settings node sheet).state.1.elements =
      (restyleEach settings node.elements sheet).state.1 := by
  rw [← elementsLeft_restyleTree]
  rfl

theorem sheet_restyleTree (settings : Settings) (node : Node) (sheet : Sheet) :
    (restyleTree settings node sheet).state.2 =
      (restyleEach settings node.elements sheet).state.2 := by
  rw [← elementsLeft_restyleTree]
  rfl

mutual

/-- Restyling changes nothing of a tree but attributes. -/
theorem skeleton_restyleTree (settings : Settings) (node : Node) (sheet : Sheet) :
    (restyleTree settings node sheet).state.1.skeleton = node.skeleton := by
  cases node with
  | element tag attributes children =>
      rw [restyleTree]
      cases (restyleAttributes settings attributes sheet).outcome with
      | error fault => rfl
      | ok done =>
          simp only [Node.skeleton, skeletons_restyleForest settings children]
  | text content => rfl
  | comment content => rfl
  | instruction target content => rfl

theorem skeletons_restyleForest (settings : Settings) (nodes : List Node) (sheet : Sheet) :
    Node.skeletons (restyleForest settings nodes sheet).state.1 = Node.skeletons nodes := by
  cases nodes with
  | nil => rfl
  | cons node rest =>
      have hnode := skeleton_restyleTree settings node sheet
      rw [restyleForest]
      cases (restyleTree settings node sheet).outcome with
      | error fault => simp only [Node.skeletons, hnode]
      | ok done => simp only [Node.skeletons, hnode, skeletons_restyleForest settings rest]

end

end AtomicCss
