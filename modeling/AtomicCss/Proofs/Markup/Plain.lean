import AtomicCss.Markup.Document
import AtomicCss.Proofs.Markup.Skeleton
import Mathlib.Tactic.MkIffOfInductiveProp

/-! # Plain documents

Not every document is read back as it is written. An empty list item takes in what comes after it,
a boolean attribute loses its value and an address its spaces, part of a value may not be escaped,
and an element that names the content type is left out. A plain document has nothing of the kind:
its tree has an `html` element with white space, comments, heads and bodies, the elements in these
are nested as reading would nest them, and every name, value, text and comment is read as it is
written. Whether a document is plain can be decided. -/

namespace AtomicCss.Markup

/-! ## Characters, names and values -/

/-- Whether a character is not changed by reading it: it may stand in XML text and is no carriage
return. -/
def isPlainChar (c : Char) : Bool := isXmlChar c && c ≠ '\r'

/-- Whether a character starts no markup either. -/
def isInnerChar (c : Char) : Bool := isPlainChar c && c ≠ '<'

/-- Whether a character is part of a name wherever the name stands in a tag. -/
def isPlainNameChar (c : Char) : Bool := isInnerChar c && !endsName c && c ≠ '='

/-- A name that is kept as it is written. -/
@[mk_iff]
structure IsPlainName (name : Text) : Prop where
  fold : foldName name = name
  nonempty : name ≠ []
  chars : name.all isPlainNameChar

/-- What may start the parts of a value that are written as they stand. -/
def verbatimStarts : List Text := [['<', '!', '-', '-'], ['&', '{']]

/-- A value all of which is escaped. -/
@[mk_iff]
structure IsPlainValue (value : Text) : Prop where
  chars : value.all isPlainChar
  escaped : ∀ start ∈ verbatimStarts, ¬start <:+: value

/-- An attribute of an element with this tag that is read as it is written. -/
@[mk_iff]
structure IsPlainAttribute (tag : Text) (entry : Text × Option Text) : Prop where
  name : IsPlainName entry.1
  value : ∀ value ∈ entry.2, IsPlainValue value
  /-- A boolean attribute is written without its value. -/
  boolean : booleanAttributes.any (·.toList = entry.1) → entry.2 = none
  /-- Other characters of an address are percent-encoded. -/
  address : holdsAddress tag entry.1 → ∀ value ∈ entry.2, value.all isAddressChar

/-- The tag of the elements that stand for a header of the page. -/
def metaTag : Text := "meta".toList

/-- The attribute of such an element that names the content type. -/
def contentType : Text × Option Text := ("http-equiv".toList, some "Content-Type".toList)

/-- A tag and attributes that are read as they are written. -/
@[mk_iff]
structure IsPlainTag (element : Text × Attributes) : Prop where
  tag : IsPlainName element.1
  alpha : element.1.head?.any Char.isAlpha
  names : (OrderedMap.names element.2).Nodup
  attributes : ∀ entry ∈ element.2, IsPlainAttribute element.1 entry
  /-- An element that names the content type is left out of what is written. -/
  kept : element.1 = metaTag → contentType ∉ element.2

/-- The ends of a comment. -/
def commentEnds : List Text := [['-', '-', '>'], ['-', '-', '!', '>']]

/-- A comment that ends only at its end. -/
@[mk_iff]
structure IsPlainComment (content : Text) : Prop where
  chars : content.all isPlainChar
  /-- A comment may end right where it starts. -/
  starts : ∀ stop ∈ [['>'], ['-', '>']], ¬stop <+: content
  ends : ∀ stop ∈ commentEnds, ¬stop <:+: content
  kept : ¬contentTypeMeta <:+: content

/-! ## Trees -/

/-- Whether no two texts stand next to each other. -/
def textsApart : List Node → Bool
  | [] => true
  | node :: rest => !(node.isText && rest.head?.any Node.isText) && textsApart rest

/-- Whether the children of an element with this tag are read as what they are. Where only text is
read, that is one text at most, with no end tag in it and nothing that is escaped in vain. -/
def isPlainContent (tag : Text) (children : List Node) : Bool :=
  match ContentKind.ofTag tag, children with
  | .markup, _ => true
  | .plainText, _ => false
  | _, [] => true
  | .escapedText, [.text _] => true
  | _, [.text content] =>
      !content.contains '<' && (hasRawContent tag || !content.any fun c => c = '&' || c = '>')
  | _, _ => false

/-- An element that stands where reading puts it, in an element with the tag `parent`. -/
@[mk_iff]
structure IsPlacedIn (parent tag : Text) (children : List Node) : Prop where
  /-- The elements that frame a page stand elsewhere. -/
  framed : tag ≠ htmlTag ∧ tag ≠ headTag ∧ tag ≠ bodyTag
  /-- It does not end the element around it. -/
  nested : endsAtStart tag parent = false
  empty : isVoid tag → children = []
  /-- An empty list item is written without its end. -/
  ended : tag = itemTag → children ≠ []
  apart : textsApart children
  content : isPlainContent tag children

instance (name : Text) : Decidable (IsPlainName name) :=
  decidable_of_iff' _ (isPlainName_iff name)

instance (value : Text) : Decidable (IsPlainValue value) :=
  decidable_of_iff' _ (isPlainValue_iff value)

instance (tag : Text) (entry : Text × Option Text) : Decidable (IsPlainAttribute tag entry) :=
  decidable_of_iff' _ (isPlainAttribute_iff tag entry)

instance (element : Text × Attributes) : Decidable (IsPlainTag element) :=
  decidable_of_iff' _ (isPlainTag_iff element)

instance (content : Text) : Decidable (IsPlainComment content) :=
  decidable_of_iff' _ (isPlainComment_iff content)

instance (parent tag : Text) (children : List Node) : Decidable (IsPlacedIn parent tag children) :=
  decidable_of_iff' _ (isPlacedIn_iff parent tag children)

mutual

/-- Whether a node is read as it is written, in an element with the tag `parent` and with room for
this many more open elements. The texts of a head are white space. -/
def Node.isPlainIn (parent : Text) : Nat → Node → Bool
  | _, .text content =>
      !content.isEmpty && content.all isPlainChar && (parent ≠ headTag || content.all isSpace)
  | _, .comment content => IsPlainComment content
  | _, .instruction _ _ => false
  | 0, .element _ _ _ => false
  | room + 1, .element tag _ children =>
      decide (IsPlacedIn parent tag children) && arePlainIn tag room children

/-- Whether nodes are read as they are written. -/
def arePlainIn (parent : Text) : Nat → List Node → Bool
  | _, [] => true
  | room, node :: rest => node.isPlainIn parent room && arePlainIn parent room rest

end

/-- Whether a node may stand right below the root: a head, a body, white space or a comment. -/
def Node.isPlainFrame : Node → Bool
  | .element tag _ children =>
      (tag = headTag || tag = bodyTag) && textsApart children &&
        arePlainIn tag (depthLimit - 2) children
  | node => node.isPlainIn headTag 0

/-! ## Documents -/

/-- Whether a character of an identifier is read as it is written. -/
def isPlainIdentifierChar (c : Char) : Bool := isInnerChar c && c ≠ '>'

/-- A document type that is read as it is written. -/
@[mk_iff]
structure Doctype.IsPlain (doctype : Doctype) : Prop where
  publicId : ∀ identifier ∈ doctype.publicId,
    identifier ≠ [] ∧ identifier.all isPlainIdentifierChar ∧ '"' ∉ identifier
  systemId : ∀ identifier ∈ doctype.systemId,
    identifier ≠ [] ∧ identifier.all isPlainIdentifierChar ∧ ('"' ∉ identifier ∨ '\'' ∉ identifier)

/-- A document that is read as it is written, with a document type if `typed` holds. -/
@[mk_iff]
structure Document.IsPlain (typed : Bool) (document : Document) : Prop where
  element : document.root.isElement
  tag : document.root.tag = htmlTag
  frame : document.root.children.all Node.isPlainFrame
  apart : textsApart document.root.children
  tags : ∀ element ∈ document.root.elements, IsPlainTag element
  /-- A document type that is not written is taken to be the standard one. -/
  doctype : if typed then document.doctype.IsPlain else document.doctype = .standard

instance (doctype : Doctype) : Decidable doctype.IsPlain :=
  decidable_of_iff' _ (Doctype.isPlain_iff doctype)

instance (typed : Bool) (document : Document) : Decidable (document.IsPlain typed) :=
  decidable_of_iff' _ (Document.isPlain_iff typed document)

/-! ## Skeletons

Apart from the attributes, whether a tree is read as it is written depends on its skeleton only. -/

section

open Node

variable {parent tag : Text} {room : Nat}

theorem textsApart_skeletons (nodes : List Node) :
    textsApart (skeletons nodes) = textsApart nodes := by
  induction nodes with
  | nil => rfl
  | cons node rest ih =>
      rw [skeletons, textsApart, textsApart, ih, isText_skeleton]
      cases rest with
      | nil => rfl
      | cons next rest =>
          rw [skeletons, List.head?_cons, List.head?_cons, Option.any_some, Option.any_some,
            isText_skeleton]

theorem isPlainContent_skeletons (tag : Text) (children : List Node) :
    isPlainContent tag (skeletons children) = isPlainContent tag children := by
  unfold isPlainContent
  rcases children with _ | ⟨node, _ | ⟨next, rest⟩⟩
  · rfl
  · cases node <;> cases ContentKind.ofTag tag <;> rfl
  · cases node <;> cases ContentKind.ofTag tag <;> rfl

theorem skeletons_eq_nil_iff {nodes : List Node} : skeletons nodes = [] ↔ nodes = [] := by
  cases nodes <;> simp [skeletons]

theorem isPlacedIn_skeletons_iff {children : List Node} :
    IsPlacedIn parent tag (skeletons children) ↔ IsPlacedIn parent tag children := by
  rw [isPlacedIn_iff, isPlacedIn_iff, textsApart_skeletons, isPlainContent_skeletons]
  simp only [ne_eq, skeletons_eq_nil_iff]

mutual

theorem isPlainIn_skeleton (parent : Text) (room : Nat) (node : Node) :
    node.skeleton.isPlainIn parent room = node.isPlainIn parent room := by
  cases node with
  | text content => rfl
  | comment content => rfl
  | instruction target content => rfl
  | element tag attributes children =>
      cases room with
      | zero => rfl
      | succ room =>
          rw [skeleton, isPlainIn, isPlainIn, arePlainIn_skeletons tag room children,
            decide_eq_decide.2 isPlacedIn_skeletons_iff]

theorem arePlainIn_skeletons (parent : Text) (room : Nat) (nodes : List Node) :
    arePlainIn parent room (skeletons nodes) = arePlainIn parent room nodes := by
  cases nodes with
  | nil => rfl
  | cons node rest =>
      rw [skeletons, arePlainIn, arePlainIn, isPlainIn_skeleton parent room node,
        arePlainIn_skeletons parent room rest]

end

theorem isPlainFrame_skeleton (node : Node) : node.skeleton.isPlainFrame = node.isPlainFrame := by
  cases node with
  | text content => rfl
  | comment content => rfl
  | instruction target content => rfl
  | element tag attributes children =>
      rw [skeleton, isPlainFrame, isPlainFrame, textsApart_skeletons, arePlainIn_skeletons]

theorem all_isPlainFrame_skeletons (nodes : List Node) :
    (skeletons nodes).all isPlainFrame = nodes.all isPlainFrame := by
  induction nodes with
  | nil => rfl
  | cons node rest ih =>
      rw [skeletons, List.all_cons, List.all_cons, ih, isPlainFrame_skeleton]

/-- A plain document stays plain where only attributes change, and only to such that are read as
they are written. -/
theorem Document.IsPlain.of_skeleton_eq {typed : Bool} {document : Document}
    (h : document.IsPlain typed) {root : Node} (hskeleton : root.skeleton = document.root.skeleton)
    (htags : ∀ element ∈ root.elements, IsPlainTag element) :
    Document.IsPlain typed { document with root := root } := by
  have hchildren : skeletons root.children = skeletons document.root.children := by
    rw [← children_skeleton, hskeleton, children_skeleton]
  obtain ⟨helement, htag, hframe, hapart, -, hdoctype⟩ := h
  constructor
  · rwa [← isElement_skeleton, hskeleton, isElement_skeleton]
  · rw [← tag_skeleton, hskeleton, tag_skeleton, htag]
  · rwa [← all_isPlainFrame_skeletons, hchildren, all_isPlainFrame_skeletons]
  · rwa [← textsApart_skeletons, hchildren, textsApart_skeletons]
  · exact htags
  · exact hdoctype

end

end AtomicCss.Markup
