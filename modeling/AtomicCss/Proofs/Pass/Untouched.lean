import AtomicCss.Proofs.Pass.Emptied
import AtomicCss.Proofs.Restyle.Traversal

/-! # What a pass leaves untouched

A pass changes a tree in the classes and the styles of the elements that have a style, and it adds one
`style` element, in a head that it supplies if there is none. A page without styles is left as it
is. -/

namespace AtomicCss

open Markup

/-! ## Elements -/

variable {settings : Settings}

/-- An element differs from what it was in nothing but its class and its style, and in nothing at all
if it had no style. -/
structure DiffersInStyle (before after : Text × Attributes) : Prop where
  tag : after.1 = before.1
  others : after.2.others = before.2.others
  unstyled : Attributes.text? styleName before.2 = none → after = before

theorem DiffersInStyle.refl (element : Text × Attributes) : DiffersInStyle element element :=
  ⟨rfl, rfl, fun _ => rfl⟩

theorem differsInStyle_restyleAttributes (settings : Settings) (tag : Text)
    (attributes : Attributes) (sheet : Sheet) :
    DiffersInStyle (tag, attributes)
      (tag, (restyleAttributes settings attributes sheet).state.1) where
  tag := rfl
  others := (restyles settings attributes sheet).others_eq
  unstyled := fun hunstyled => by simp only [restyleAttributes, hunstyled, Effect.ok]

theorem differsInStyle_restyleEach (settings : Settings) (elements : List (Text × Attributes))
    (sheet : Sheet) :
    List.Forall₂ DiffersInStyle elements (restyleEach settings elements sheet).state.1 := by
  induction elements generalizing sheet with
  | nil => exact .nil
  | cons element rest ih =>
      obtain ⟨tag, attributes⟩ := element
      have hhere := differsInStyle_restyleAttributes settings tag attributes sheet
      rw [restyleEach]
      cases (restyleAttributes settings attributes sheet).outcome with
      | error fault => exact .cons hhere (List.forall₂_same.2 fun _ _ => .refl _)
      | ok done => exact .cons hhere (ih _)

/-! ## Trees -/

/-- A tree differs from what it was in nothing but the classes and the styles of the elements that had
a style. -/
structure Markup.Node.DiffersInStyles (before after : Node) : Prop where
  skeleton : after.skeleton = before.skeleton
  elements : List.Forall₂ DiffersInStyle before.elements after.elements

theorem differsInStyles_restyleTree (settings : Settings) (root : Node) (sheet : Sheet) :
    root.DiffersInStyles (restyleTree settings root sheet).state.1 where
  skeleton := skeleton_restyleTree settings root sheet
  elements := by
    rw [elements_restyleTree]
    exact differsInStyle_restyleEach settings root.elements sheet

/-- A tree without styles does not differ at all. -/
theorem Markup.Node.DiffersInStyles.eq {before after : Node} (h : before.DiffersInStyles after)
    (hunstyled : ∀ element ∈ before.elements, Attributes.text? styleName element.2 = none) :
    after = before := by
  have hall := (List.forall₂_and_left _ _).2 ⟨hunstyled, h.elements⟩
  have hsame : List.Forall₂ (· = ·) before.elements after.elements :=
    hall.imp fun _ _ hboth => (hboth.2.unstyled hboth.1).symm
  rw [List.forall₂_eq_eq_eq] at hsame
  exact Node.eq_of_skeleton_eq h.skeleton hsame.symm

/-- Elements without styles are left as they are, and nothing is merged. -/
theorem restyleEach_of_unstyled {elements : List (Text × Attributes)}
    (h : ∀ element ∈ elements, Attributes.text? styleName element.2 = none) (sheet : Sheet) :
    restyleEach settings elements sheet = .ok (elements, sheet) () := by
  induction elements with
  | nil => rfl
  | cons element rest ih =>
      obtain ⟨tag, attributes⟩ := element
      obtain ⟨hhere, hrest⟩ := List.forall_mem_cons.1 h
      have hfirst : restyleAttributes settings attributes sheet = .ok (attributes, sheet) () := by
        simp only [restyleAttributes, hhere]
      simp only [restyleEach, hfirst, Effect.ok, ih hrest, List.append_nil]

theorem restyleTree_of_unstyled {root : Node}
    (h : ∀ element ∈ root.elements, Attributes.text? styleName element.2 = none) (sheet : Sheet) :
    restyleTree settings root sheet = .ok (root, sheet) () := by
  have hsame := (differsInStyles_restyleTree settings root sheet).eq h
  have hleft := elementsLeft_restyleTree settings root sheet
  rw [restyleEach_of_unstyled h] at hleft
  obtain ⟨hstate, hnotices, houtcome⟩ := Effect.mk.inj hleft
  generalize restyleTree settings root sheet = done at *
  obtain ⟨⟨node, left⟩, notices, outcome⟩ := done
  obtain ⟨-, rfl⟩ := Prod.mk.inj hstate
  obtain rfl : node = root := hsame
  obtain rfl : notices = [] := hnotices
  obtain rfl : outcome = .ok () := houtcome
  rfl

/-! ## Pages without styles -/

/-- A page in which there is no style to collect: a fragment that mentions none, or a document that
is read as a tree in which no element has one. -/
inductive Pass.IsStyleFree (page : Text) : Prop
  | fragment (hfragment : isDocument page = false) (hmention : mentionsStyle page = false)
  | document {document : Document} (hdocument : isDocument page)
      (hread : Document.read page = .ok document)
      (hunstyled : ∀ element ∈ document.root.elements,
        Attributes.text? styleName element.2 = none)

/-- A page without styles is given back as it is. -/
theorem Pass.render_of_isStyleFree {page : Text} (h : IsStyleFree page) :
    render settings page .empty = .ok .empty page := by
  cases h with
  | fragment hfragment hmention =>
      have hcollect : collectPage settings page .empty = .ok .empty page := by
        rw [collectPage, hmention]
        rfl
      rw [render, hfragment, hcollect]
      rfl
  | document hdocument hread hunstyled =>
      rw [render, if_pos hdocument, renderDocument, hread]
      simp only [collectTree, restyleTree_of_unstyled hunstyled]
      rfl

/-! ## The added element -/

/-- The nodes with one more node, in front of the first that is not a text. -/
inductive PutsFirst (node : Node) : List Node → List Node → Prop
  | mk {texts rest : List Node} (htexts : ∀ text ∈ texts, text.isText)
      (hrest : ∀ next ∈ rest.head?, next.isText = false) :
      PutsFirst node (texts ++ rest) (texts ++ node :: rest)

/-- The tree with a `style` element that is the first child of the first head among the children of
the root. A root without one gets a head with the `style` element as its first child. -/
inductive AddsStyle (style : Node) : Node → Node → Prop
  | toHead {tag : Text} {attributes headAttributes : Attributes}
      {earlier later content changed : List Node}
      (hearlier : ∀ node ∈ earlier, node.hasTag headTag = false)
      (hcontent : PutsFirst style content changed) :
      AddsStyle style
        (.element tag attributes (earlier ++ .element headTag headAttributes content :: later))
        (.element tag attributes (earlier ++ .element headTag headAttributes changed :: later))
  | newHead {tag : Text} {attributes : Attributes} {children changed : List Node}
      (hchildren : ∀ node ∈ children, node.hasTag headTag = false)
      (hcontent : PutsFirst (.element headTag [] [style]) children changed) :
      AddsStyle style (.element tag attributes children) (.element tag attributes changed)

theorem putsFirst_insertFirst (node : Node) (nodes : List Node) :
    PutsFirst node nodes (Node.insertFirst node nodes) := by
  have hput : PutsFirst node (nodes.takeWhile Node.isText ++ nodes.dropWhile Node.isText)
      (Node.insertFirst node nodes) := by
    refine .mk (fun text htext => List.mem_takeWhile_imp htext) ?_
    intro next hnext
    have hhead := List.head?_dropWhile_not Node.isText nodes
    rw [Option.mem_def.1 hnext] at hhead
    exact hhead
  rwa [List.takeWhile_append_dropWhile] at hput

theorem insertIntoHead_of_not_head {node : Node} (h : node.hasTag headTag = false) (style : Node)
    (rest : List Node) :
    Pass.insertIntoHead style (node :: rest) =
      (Pass.insertIntoHead style rest).map (node :: ·) := by
  cases node with
  | element tag attributes children =>
      have htag : tag ≠ headTag := by simpa [Node.hasTag] using h
      exact if_neg htag
  | text content => rfl
  | comment content => rfl
  | instruction target content => rfl

theorem exists_eq_of_hasTag {node : Node} {name : Text} (h : node.hasTag name) :
    ∃ attributes children, node = .element name attributes children := by
  cases node with
  | element tag attributes children =>
      have htag : tag = name := by simpa [Node.hasTag] using h
      exact ⟨attributes, children, htag ▸ rfl⟩
  | text content => cases h
  | comment content => cases h
  | instruction target content => cases h

/-- The first head among some nodes gets the `style` element, if there is a head. -/
theorem insertIntoHead_cases (style : Node) (nodes : List Node) :
    ((∀ node ∈ nodes, node.hasTag headTag = false) ∧ Pass.insertIntoHead style nodes = none) ∨
      ∃ earlier attributes content later,
        nodes = earlier ++ .element headTag attributes content :: later ∧
        (∀ node ∈ earlier, node.hasTag headTag = false) ∧
        Pass.insertIntoHead style nodes =
          some (earlier ++
            .element headTag attributes (Node.insertFirst style content) :: later) := by
  induction nodes with
  | nil => exact Or.inl ⟨by simp, rfl⟩
  | cons node rest ih =>
      cases hnode : node.hasTag headTag with
      | true =>
          obtain ⟨attributes, content, rfl⟩ := exists_eq_of_hasTag hnode
          refine Or.inr ⟨[], attributes, content, rest, rfl, by simp, ?_⟩
          rw [Pass.insertIntoHead, if_pos rfl, List.nil_append]
      | false =>
          rw [insertIntoHead_of_not_head hnode]
          rcases ih with ⟨hrest, hnone⟩ | ⟨earlier, attributes, content, later, rfl, hearlier, hsome⟩
          · exact Or.inl ⟨List.forall_mem_cons.2 ⟨hnode, hrest⟩, by rw [hnone]; rfl⟩
          · exact Or.inr ⟨node :: earlier, attributes, content, later, rfl,
              List.forall_mem_cons.2 ⟨hnode, hearlier⟩, by rw [hsome]; rfl⟩

theorem addsStyle_insertStyle (style : Node) {root : Node} (h : root.isElement) :
    AddsStyle style root (Pass.insertStyle style root) := by
  cases root with
  | element tag attributes children =>
      rw [Pass.insertStyle]
      rcases insertIntoHead_cases style children with
        ⟨hchildren, hnone⟩ | ⟨earlier, headAttributes, content, later, rfl, hearlier, hsome⟩
      · rw [hnone]
        exact .newHead hchildren (putsFirst_insertFirst _ children)
      · rw [hsome]
        exact .toHead hearlier (putsFirst_insertFirst style content)
  | text content => cases h
  | comment content => cases h
  | instruction target content => cases h

/-! ## Collecting and embedding -/

/-- A tree that is collected by a new pass and then embedded is the old one, up to the classes and
the styles of the elements that had a style, with one `style` element more if a rule was collected. -/
theorem embedTree_collectTree_differsInStyles {root embedded : Node}
    (h : ((Pass.collectTree settings root .empty).andThen (Pass.embedTree settings)).outcome =
      .ok embedded) :
    let sheet := (Pass.collectTree settings root .empty).state
    ∃ collected, root.DiffersInStyles collected ∧
      (sheet.isEmpty → embedded = collected) ∧
      (sheet.isEmpty = false →
        AddsStyle (Pass.styleNode settings sheet.print) collected embedded) := by
  intro sheet
  obtain ⟨collected, hcollect, hembed⟩ := Effect.outcome_andThen_eq_ok_iff.1 h
  obtain ⟨done, -, rfl⟩ := Outcome.map_eq_ok_iff.1 hcollect
  have hprint : sheet.print = [] ↔ sheet.isEmpty := by
    rw [show sheet = _ from Pass.state_collectTree settings root .empty]
    exact Sheet.print_mergeAll_eq_nil_iff fun rule hrule =>
      brace_mem_body_of_mem_rulesThrough hrule
  refine ⟨_, differsInStyles_restyleTree settings root .empty, ?_, ?_⟩
  · intro hempty
    rcases Pass.eq_of_embedTree hembed with ⟨-, hsame⟩ | ⟨hcss, -⟩
    · exact hsame
    · exact absurd (hprint.2 hempty) hcss
  · intro hrules
    rcases Pass.eq_of_embedTree hembed with ⟨hnone, -⟩ | ⟨-, helement, rfl⟩
    · rw [hprint.1 hnone] at hrules
      cases hrules
    · exact addsStyle_insertStyle _ helement

/-- A page whose root has no head, with a styled and an unstyled element. -/
def headlessPage : Node :=
  .element "html".toList [] [.text ['\n'],
    .element "body".toList [("lang".toList, some "en".toList)] [.comment ['c'],
      .element ['p'] [("title".toList, some ['t']), (styleName, some "color: red".toList),
        ("id".toList, some ['i'])] [.text ['x']]]]

/-- The page with its style collected. -/
def headlessCollected : Node :=
  .element "html".toList [] [.text ['\n'],
    .element "body".toList [("lang".toList, some "en".toList)] [.comment ['c'],
      .element ['p'] [("title".toList, some ['t']), ("id".toList, some ['i']),
        (className, some "hw_CTY41".toList)] [.text ['x']]]]

theorem headlessPage_differsInStyles :
    let sheet := (Pass.collectTree .standard headlessPage .empty).state
    let embedded := Pass.insertStyle (Pass.styleNode .standard sheet.print) headlessCollected
    ((Pass.collectTree .standard headlessPage .empty).andThen
        (Pass.embedTree .standard)).outcome = .ok embedded ∧
      sheet.isEmpty = false ∧
      ∃ collected, headlessPage.DiffersInStyles collected ∧
        AddsStyle (Pass.styleNode .standard sheet.print) collected embedded := by
  intro sheet embedded
  have hok : ((Pass.collectTree .standard headlessPage .empty).andThen
      (Pass.embedTree .standard)).outcome = .ok embedded := by decide +kernel
  have hrules : sheet.isEmpty = false := by decide +kernel
  obtain ⟨collected, hcollected, -, hadds⟩ := embedTree_collectTree_differsInStyles hok
  exact ⟨hok, hrules, collected, hcollected, hadds hrules⟩

end AtomicCss
