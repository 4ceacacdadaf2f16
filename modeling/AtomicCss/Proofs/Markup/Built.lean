import AtomicCss.Proofs.Markup.Scanned

/-! # Building plain trees

The tokens of a plain node add the node to the element that is open around it. Inside a head or a
body no other element is supplied or ended by its tags, and an element has all its children when its
end tag comes. -/

namespace AtomicCss.Markup

/-- Texts that stand apart stay apart. -/
theorem foldl_addLast {nodes : List Node} (h : textsApart nodes) {before : List Node}
    (hbefore : before.head?.any Node.isText → nodes.head?.any Node.isText = false) :
    nodes.foldl (fun before node => addLast node before) before = nodes.reverse ++ before := by
  induction nodes generalizing before with
  | nil => rfl
  | cons node nodes ih =>
      rw [textsApart, Bool.and_eq_true] at h
      have hnode : addLast node before = node :: before := by
        rw [addLast.eq_def]
        split
        · exact absurd (hbefore rfl) (by simp [Node.isText])
        · rfl
      have hnext :
          (node :: before).head?.any Node.isText → nodes.head?.any Node.isText = false := by
        intro htext
        have htext' : node.isText := htext
        simpa [htext'] using h.1
      rw [List.foldl_cons, hnode, ih h.2 hnext, List.reverse_cons, List.append_assoc,
        List.singleton_append]

namespace Builder

variable {builder : Builder} {tag parent : Text} {attributes : Attributes} {children : List Node}
  {room : Nat}

/-! ## Adding nodes -/

/-- Adds nodes one after the other to the innermost open element. -/
def addAll (nodes : List Node) (builder : Builder) : Builder :=
  nodes.foldl (fun builder node => builder.add node) builder

theorem add_of_stack {element : OpenElement} {outer : List OpenElement}
    (h : builder.stack = element :: outer) (node : Node) :
    builder.add node =
      { builder with
        stack := { element with children := addLast node element.children } :: outer } := by
  rw [add, h]

theorem addAll_of_stack {element : OpenElement} {outer : List OpenElement}
    (h : builder.stack = element :: outer) (nodes : List Node) :
    addAll nodes builder =
      { builder with
        stack := { element with
          children := nodes.foldl (fun before node => addLast node before) element.children } ::
            outer } := by
  induction nodes generalizing builder element with
  | nil =>
      rw [addAll, List.foldl_nil, List.foldl_nil, ← h]
  | cons node nodes ih =>
      rw [addAll, List.foldl_cons, ← addAll, add_of_stack h, ih rfl]
      rfl

/-! ## Elements -/

/-- An element with this tag can be opened as it is. -/
structure CanOpen (tag : Text) (builder : Builder) : Prop where
  running : builder.stopped = false
  complete : builder.leftOut = 0
  makeRoom : builder.makeRoom tag = builder
  placed : builder.isMisplaced tag = false
  room : builder.stack.length < depthLimit

/-- The builder with an element with this tag noted as seen. -/
def seen (tag : Text) (builder : Builder) : Builder :=
  { builder with
    headSeen := builder.headSeen || tag = headTag || tag = bodyTag
    bodySeen := builder.bodySeen || tag = bodyTag }

/-- The builder with this element as the innermost one. -/
def opened (element : OpenElement) (builder : Builder) : Builder :=
  { builder with stack := element :: builder.stack }

theorem push_of_lt (h : builder.stack.length < depthLimit) (tag : Text) (attributes : Attributes) :
    builder.push tag attributes = (builder.seen tag).opened ⟨tag, attributes, []⟩ := by
  rw [push, if_neg (Nat.not_le.2 h)]
  rfl

theorem addAll_opened (h : textsApart children) :
    addAll children (builder.opened ⟨tag, attributes, []⟩) =
      builder.opened ⟨tag, attributes, children.reverse⟩ := by
  rw [addAll_of_stack rfl, foldl_addLast h (by simp), List.append_nil]
  rfl

theorem pop_opened (tag : Text) (attributes : Attributes) (children : List Node) :
    (builder.opened ⟨tag, attributes, children⟩).pop =
      builder.add (.element tag attributes children.reverse) :=
  rfl

theorem CanOpen.read_startTag (h : builder.CanOpen tag) (attributes : Attributes) :
    builder.read (.startTag tag attributes false) =
      if isVoid tag then (builder.push tag attributes).pop else builder.push tag attributes := by
  rw [read, h.running]
  simp only [Bool.false_eq_true, if_false, startTag, h.makeRoom, h.placed, Bool.false_or]

/-- The end tag of the innermost element ends it. -/
theorem read_endTag (hrunning : builder.stopped = false) (hcomplete : builder.leftOut = 0)
    (attributes : Attributes) (children : List Node) :
    (builder.opened ⟨tag, attributes, children.reverse⟩).read (.endTag tag) =
      builder.add (.element tag attributes children) := by
  have hopen : (builder.opened ⟨tag, attributes, children.reverse⟩).isOpen tag := by
    rw [isOpen, opened, List.any_cons, decide_eq_true rfl, Bool.true_or]
  have hinside : (builder.opened ⟨tag, attributes, children.reverse⟩).stack.takeWhile
      (fun element => element.tag ≠ tag) = [] :=
    List.takeWhile_cons_of_neg (by simp)
  have hpop : (builder.opened ⟨tag, attributes, children.reverse⟩).read (.endTag tag) =
      (builder.opened ⟨tag, attributes, children.reverse⟩).pop := by
    have hstopped : (builder.opened ⟨tag, attributes, children.reverse⟩).stopped = false := hrunning
    have hleftOut : (builder.opened ⟨tag, attributes, children.reverse⟩).leftOut = 0 := hcomplete
    rw [read, hstopped, if_neg (by decide), endTag, hleftOut, if_neg (by simp), hopen,
      if_neg (by decide), hinside]
    rfl
  rw [hpop, pop_opened, List.reverse_reverse]

/-- The tokens of an element add it, once its children are added to it. -/
theorem CanOpen.foldl_read (h : builder.CanOpen tag)
    (hempty : isVoid tag → children = []) (hend : lacksEnd tag children → isVoid tag)
    (hapart : textsApart children)
    (hchildren : (tokensOf children).foldl read (builder.push tag attributes) =
      addAll children (builder.push tag attributes)) :
    (Node.element tag attributes children).tokens.foldl read builder =
      (builder.seen tag).add (.element tag attributes children) := by
  have hpush := push_of_lt h.room tag attributes
  rw [Node.tokens, List.foldl_cons, h.read_startTag]
  by_cases hvoid : isVoid tag
  · obtain rfl := hempty hvoid
    have hlacks : lacksEnd tag [] := by rw [lacksEnd, hvoid, Bool.true_or]
    rw [if_pos hvoid, if_pos hlacks, hpush]
    rfl
  · have hlacks : ¬lacksEnd tag children := fun hlacks => hvoid (hend hlacks)
    rw [if_neg hvoid, if_neg hlacks, List.foldl_append, hchildren, List.foldl_cons,
      List.foldl_nil, hpush, addAll_opened hapart]
    exact @read_endTag (builder.seen tag) tag h.running h.complete attributes children

/-! ## Inside a head or a body -/

/-- The tags of the open elements, the innermost first. -/
def tags (builder : Builder) : List Text := builder.stack.map OpenElement.tag

theorem isOpen_iff : builder.isOpen tag ↔ tag ∈ builder.tags := by
  simp [isOpen, tags]

theorem tags_add (h : builder.stack ≠ []) (node : Node) :
    (builder.add node).tags = builder.tags := by
  obtain ⟨element, outer, hstack⟩ := List.exists_cons_of_ne_nil h
  rw [add_of_stack hstack, tags, tags, hstack]
  rfl

/-- A builder stands in an element with this tag, which is a head or a body or inside one, and has
room for so many more open elements. -/
structure IsInside (parent : Text) (room : Nat) (builder : Builder) : Prop where
  running : builder.stopped = false
  complete : builder.leftOut = 0
  below : parent ≠ htmlTag
  innermost : ∃ outer, builder.tags = parent :: outer ∧ outer ≠ []
  framed : headTag ∈ builder.tags ∨ bodyTag ∈ builder.tags
  room : builder.tags.length + room ≤ depthLimit

theorem IsInside.stack_ne_nil (h : builder.IsInside parent room) : builder.stack ≠ [] := by
  obtain ⟨outer, houter, -⟩ := h.innermost
  rintro hnil
  rw [tags, hnil] at houter
  cases houter

theorem IsInside.add (h : builder.IsInside parent room) (node : Node) :
    (builder.add node).IsInside parent room := by
  have htags := tags_add h.stack_ne_nil node
  obtain ⟨element, outer, hstack⟩ := List.exists_cons_of_ne_nil h.stack_ne_nil
  have hadd := add_of_stack hstack node
  exact
    { running := by rw [hadd]; exact h.running
      complete := by rw [hadd]; exact h.complete
      below := h.below
      innermost := by rw [htags]; exact h.innermost
      framed := by rw [htags]; exact h.framed
      room := by rw [htags]; exact h.room }

theorem endBefore_of_stack {element : OpenElement} {outer : List OpenElement}
    (hstack : builder.stack = element :: outer) (h : endsAtStart tag element.tag = false) :
    builder.endBefore tag = builder := by
  rw [endBefore, hstack, List.takeWhile_cons_of_neg (by simp [h])]
  rfl

/-- Nothing is supplied inside a head or a body. -/
theorem IsInside.imply (h : builder.IsInside parent room)
    (htag : tag ≠ htmlTag ∧ tag ≠ headTag ∧ tag ≠ bodyTag) : builder.imply tag = builder := by
  obtain ⟨hhtml, hhead, hbody⟩ := htag
  obtain ⟨element, rest, hstack⟩ := List.exists_cons_of_ne_nil h.stack_ne_nil
  have hempty : builder.stack.isEmpty = false := by rw [hstack]; rfl
  have hdeep : ¬builder.stack.length ≤ 1 := by
    obtain ⟨outer, houter, hne⟩ := h.innermost
    have hlength : builder.stack.length = outer.length + 1 := by
      rw [← List.length_cons, ← houter, tags, List.length_map]
    have hpos := List.length_pos_iff.2 hne
    omega
  have hframed : builder.bodySeen || builder.isOpen bodyTag || builder.isOpen headTag := by
    rcases h.framed with hmem | hmem
    · rw [isOpen_iff.2 hmem, Bool.or_true]
    · rw [isOpen_iff.2 hmem, Bool.or_true, Bool.true_or]
  rw [Builder.imply, if_neg hhtml]
  simp only [hempty, Bool.false_eq_true, if_false, hhead, hbody, or_self, hdeep, false_and, hframed,
    if_true, ite_self]

/-- An element that is placed there can be opened. -/
theorem IsInside.canOpen (h : builder.IsInside parent (room + 1))
    (hplaced : IsPlacedIn parent tag children) : builder.CanOpen tag := by
  obtain ⟨hhtml, hhead, hbody⟩ := hplaced.framed
  obtain ⟨element, rest, hstack⟩ := List.exists_cons_of_ne_nil h.stack_ne_nil
  have hparent : element.tag = parent := by
    obtain ⟨outer, houter, -⟩ := h.innermost
    rw [tags, hstack] at houter
    exact (List.cons.inj houter).1
  exact
    { running := h.running
      complete := h.complete
      makeRoom := by
        rw [makeRoom, endBefore_of_stack hstack (by rw [hparent]; exact hplaced.nested),
          h.imply hplaced.framed]
      placed := by simp [isMisplaced, hhtml, hhead, hbody]
      room := by
        have hroom := h.room
        rw [tags, List.length_map] at hroom
        omega }

theorem seen_of_ne (h : tag ≠ headTag ∧ tag ≠ bodyTag) : builder.seen tag = builder := by
  simp [seen, h]

theorem IsInside.push (h : builder.IsInside parent (room + 1))
    (hplaced : IsPlacedIn parent tag children) (attributes : Attributes) :
    (builder.push tag attributes).IsInside tag room := by
  rw [push_of_lt (h.canOpen hplaced).room, seen_of_ne hplaced.framed.2]
  exact
    { running := h.running
      complete := h.complete
      below := hplaced.framed.1
      innermost := ⟨builder.tags, rfl, fun hnil => h.stack_ne_nil (List.map_eq_nil_iff.1 hnil)⟩
      framed := h.framed.imp (List.mem_cons_of_mem _) (List.mem_cons_of_mem _)
      room := by
        have hroom := h.room
        have hlength : (builder.opened ⟨tag, attributes, []⟩).tags.length =
          builder.tags.length + 1 := rfl
        omega }

/-! ## Texts and comments -/

theorem read_comment (h : builder.stopped = false) (content : Text) :
    builder.read (.comment content) = builder.add (.comment content) := by
  rw [read, h]
  rfl

/-- Text stays where it is, and outside the body this holds of white space. -/
theorem read_text (h : builder.stopped = false) (hstack : builder.stack ≠ []) {content : Text}
    (hne : content ≠ []) (hspace : builder.current? = some htmlTag ∨
      builder.current? = some headTag → content.all isSpace) :
    builder.read (.text content) = builder.add (.text content) := by
  have hadd : builder.addText content = builder.add (.text content) := by
    rw [addText, if_neg]
    simp [hne, hstack]
  have hcurrent : builder.current? ≠ none := by
    obtain ⟨element, outer, hcons⟩ := List.exists_cons_of_ne_nil hstack
    simp [current?, hcons]
  rw [read, h, if_neg (by decide)]
  by_cases houtside : builder.current? = some htmlTag ∨ builder.current? = some headTag
  · have hall : ∀ c ∈ content, isSpace c := List.all_eq_true.1 (hspace houtside)
    have hspan : content.span isSpace = (content, []) := by
      rw [List.span_eq_takeWhile_dropWhile, List.takeWhile_eq_self_iff.2 hall,
        List.dropWhile_eq_nil_iff.2 hall]
    rw [Builder.text, if_pos (Or.inr houtside), hspan]
    exact hadd
  · rw [Builder.text, if_neg (not_or.2 ⟨hcurrent, houtside⟩)]
    exact hadd

/-! ## Trees -/

mutual

/-- The tokens of a plain node add it to the element around it. -/
theorem IsInside.foldl_read {parent : Text} {room : Nat} {builder : Builder} {node : Node}
    (h : builder.IsInside parent room) (hplain : node.isPlainIn parent room) :
    node.tokens.foldl read builder = builder.add node := by
  cases node with
  | text content =>
      obtain ⟨hne, -, hhead⟩ := isPlainIn_text hplain
      obtain ⟨outer, houter, -⟩ := h.innermost
      have hcurrent : builder.current? = some parent := by
        rw [current?, ← List.head?_map, ← tags, houter]
        rfl
      refine read_text h.running h.stack_ne_nil hne fun houtside => ?_
      rw [hcurrent, Option.some.injEq, Option.some.injEq, or_iff_right h.below] at houtside
      exact hhead houtside
  | comment content => exact read_comment h.running content
  | instruction target content =>
      rw [Node.isPlainIn] at hplain
      cases hplain
  | element tag attributes children =>
      cases room with
      | zero =>
          rw [Node.isPlainIn] at hplain
          cases hplain
      | succ room =>
          rw [Node.isPlainIn, Bool.and_eq_true, decide_eq_true_iff] at hplain
          obtain ⟨hplaced, hchildren⟩ := hplain
          -- below, one more element is open and there is room for one less
          have hbelow := (h.push hplaced attributes).foldl_read_all hchildren
          rw [(h.canOpen hplaced).foldl_read hplaced.empty
            (fun hlacks => (hplaced.isVoid_of_lacksEnd hlacks).1) hplaced.apart hbelow,
            seen_of_ne hplaced.framed.2]

theorem IsInside.foldl_read_all {parent : Text} {room : Nat} {builder : Builder}
    {nodes : List Node} (h : builder.IsInside parent room)
    (hplain : arePlainIn parent room nodes) :
    (tokensOf nodes).foldl read builder = addAll nodes builder := by
  cases nodes with
  | nil => rfl
  | cons node rest =>
      rw [arePlainIn, Bool.and_eq_true] at hplain
      rw [tokensOf, List.foldl_append, h.foldl_read hplain.1, (h.add node).foldl_read_all hplain.2]
      rfl

end

/-! ## Below the root -/

/-- A builder stands in the root, with these children so far, the last one first. -/
structure IsAtRoot (attributes : Attributes) (doctype : Option Doctype) (children : List Node)
    (builder : Builder) : Prop where
  running : builder.stopped = false
  complete : builder.leftOut = 0
  stack : builder.stack = [⟨htmlTag, attributes, children⟩]
  roots : builder.roots = []
  doctype : builder.doctype = doctype

variable {doctype : Option Doctype}

theorem IsAtRoot.add (h : builder.IsAtRoot attributes doctype children) (node : Node) :
    (builder.add node).IsAtRoot attributes doctype (addLast node children) := by
  have hadd := add_of_stack h.stack node
  rw [hadd]
  exact ⟨h.running, h.complete, rfl, h.roots, h.doctype⟩

/-- A head or a body can be opened in the root. -/
theorem IsAtRoot.canOpen (h : builder.IsAtRoot attributes doctype children)
    (htag : tag = headTag ∨ tag = bodyTag) : builder.CanOpen tag where
  running := h.running
  complete := h.complete
  makeRoom := by
    have hend : endsAtStart tag htmlTag = false := by
      rcases htag with rfl | rfl
      · decide +kernel
      · decide +kernel
    have hhtml : tag ≠ htmlTag := by
      rcases htag with rfl | rfl
      · decide
      · decide
    rw [makeRoom, endBefore_of_stack h.stack hend, imply, if_neg hhtml, h.stack]
    simp only [List.isEmpty_cons, Bool.false_eq_true, if_false, htag, if_true]
  placed := by
    rcases htag with rfl | rfl
    all_goals
      rw [isMisplaced, isOpen, h.stack]
      rfl
  room := by
    have hone : 1 < depthLimit := by decide
    rwa [h.stack]

theorem IsAtRoot.push (h : builder.IsAtRoot attributes doctype children)
    (htag : tag = headTag ∨ tag = bodyTag) (below : Attributes) :
    (builder.push tag below).IsInside tag (depthLimit - 2) := by
  have htags : ((builder.seen tag).opened ⟨tag, below, []⟩).tags = [tag, htmlTag] := by
    have hstack : (builder.seen tag).stack = builder.stack := rfl
    rw [tags, opened, hstack, h.stack]
    rfl
  rw [push_of_lt (h.canOpen htag).room]
  exact
    { running := h.running
      complete := h.complete
      below := by
        rcases htag with rfl | rfl
        · decide
        · decide
      innermost := ⟨[htmlTag], htags, List.cons_ne_nil _ _⟩
      framed := by
        rw [htags]
        rcases htag with rfl | rfl
        · exact Or.inl List.mem_cons_self
        · exact Or.inr List.mem_cons_self
      room := by
        have hroom : 2 + (depthLimit - 2) ≤ depthLimit := by decide
        rwa [htags] }

theorem IsAtRoot.seen (h : builder.IsAtRoot attributes doctype children) :
    (builder.seen tag).IsAtRoot attributes doctype children :=
  ⟨h.running, h.complete, h.stack, h.roots, h.doctype⟩

/-- The tokens of a node below the root add it there. -/
theorem IsAtRoot.foldl_read (h : builder.IsAtRoot attributes doctype children) {node : Node}
    (hframe : node.isPlainFrame) :
    (node.tokens.foldl read builder).IsAtRoot attributes doctype (addLast node children) := by
  have hne : builder.stack ≠ [] := by rw [h.stack]; exact List.cons_ne_nil _ _
  cases node with
  | text content =>
      obtain ⟨hcontent, -, hspace⟩ := @isPlainIn_text headTag 0 content hframe
      have hread : builder.read (.text content) = builder.add (.text content) :=
        read_text h.running hne hcontent fun _ => hspace rfl
      rw [Node.tokens, List.foldl_cons, List.foldl_nil, hread]
      exact h.add _
  | comment content =>
      rw [Node.tokens, List.foldl_cons, List.foldl_nil, read_comment h.running]
      exact h.add _
  | instruction target content =>
      rw [Node.isPlainFrame, Node.isPlainIn] at hframe
      · cases hframe
      · intros; contradiction
  | element tag below nodes =>
      rw [Node.isPlainFrame, Bool.and_eq_true, Bool.and_eq_true, Bool.or_eq_true,
        decide_eq_true_iff, decide_eq_true_iff] at hframe
      obtain ⟨⟨htag, hapart⟩, hplain⟩ := hframe
      have hopen := h.canOpen htag
      have hvoid : isVoid tag = false ∧ ∀ nodes, lacksEnd tag nodes = false := by
        rcases htag with rfl | rfl
        · exact ⟨by decide, fun _ => rfl⟩
        · exact ⟨by decide, fun _ => rfl⟩
      have hbelow := (h.push htag below).foldl_read_all hplain
      rw [hopen.foldl_read (by simp [hvoid.1]) (by simp [hvoid.2]) hapart hbelow]
      exact h.seen.add _

/-- The tokens of nodes below the root add them there. -/
theorem IsAtRoot.foldl_read_all (h : builder.IsAtRoot attributes doctype children)
    {nodes : List Node} (hframe : nodes.all Node.isPlainFrame) :
    ((tokensOf nodes).foldl read builder).IsAtRoot attributes doctype
      (nodes.foldl (fun before node => addLast node before) children) := by
  induction nodes generalizing builder children with
  | nil => exact h
  | cons node rest ih =>
      rw [List.all_cons, Bool.and_eq_true] at hframe
      rw [tokensOf, List.foldl_append, List.foldl_cons]
      exact ih (h.foldl_read hframe.1) hframe.2

/-- The tokens of a root are built into the root, after those of a document type. -/
theorem finish_foldl_read (attributes : Attributes) (doctype : Option Doctype)
    (hframe : children.all Node.isPlainFrame) (hapart : textsApart children) :
    ((Node.element htmlTag attributes children).tokens.foldl read
          { empty with doctype := doctype }).finish.roots =
        [.element htmlTag attributes children] ∧
      ((Node.element htmlTag attributes children).tokens.foldl read
          { empty with doctype := doctype }).finish.doctype = doctype := by
  have hopen : IsAtRoot attributes doctype []
      (read { empty with doctype := doctype } (.startTag htmlTag attributes false)) :=
    ⟨rfl, rfl, rfl, rfl, rfl⟩
  have hinner := hopen.foldl_read_all hframe
  rw [foldl_addLast hapart (by simp), List.append_nil] at hinner
  have hlacks : lacksEnd htmlTag children = false := rfl
  rw [Node.tokens, List.foldl_cons, hlacks, if_neg (by decide), List.foldl_append,
    List.foldl_cons, List.foldl_nil]
  generalize (tokensOf children).foldl read _ = inner at hinner
  -- the root is the only element that is open, so that its end tag makes it the only root
  obtain ⟨stack, roots, headSeen, bodySeen, leftOut, found, stopped⟩ := inner
  obtain ⟨rfl, rfl, rfl, rfl, rfl⟩ := hinner
  have hend := @read_endTag ⟨[], [], headSeen, bodySeen, 0, found, false⟩ htmlTag rfl rfl attributes
    children
  rw [opened] at hend
  rw [hend]
  exact ⟨rfl, rfl⟩

end Builder
end AtomicCss.Markup
