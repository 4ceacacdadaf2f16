import AtomicCss.Proofs.Markup.Elements
import AtomicCss.Proofs.Markup.Tokens

/-! # The characters of trees

The tree of a page has the characters of its tokens, and the names of the elements that are supplied
are ASCII. So nothing stands in the tree that is not in the page or brought in by reading it. -/

namespace AtomicCss

open Markup

namespace Repertoire

/-- Everything in a tree is in a repertoire. -/
inductive SpellsNode (repertoire : Repertoire) : Node → Prop
  | text {content : Text} (hcontent : repertoire.Spells content) :
      SpellsNode repertoire (.text content)
  | comment {content : Text} (hcontent : repertoire.Spells content) :
      SpellsNode repertoire (.comment content)
  | instruction {target content : Text} (htarget : repertoire.Spells target)
      (hcontent : repertoire.Spells content) : SpellsNode repertoire (.instruction target content)
  | element {tag : Text} {attributes : Attributes} {children : List Node}
      (htag : repertoire.Spells tag) (hattributes : repertoire.SpellsAttributes attributes)
      (hchildren : ∀ child ∈ children, SpellsNode repertoire child) :
      SpellsNode repertoire (.element tag attributes children)

/-- Everything in some trees is in a repertoire. -/
def SpellsNodes (repertoire : Repertoire) (nodes : List Node) : Prop :=
  ∀ node ∈ nodes, repertoire.SpellsNode node

/-- Everything in an element that is still open is in a repertoire. -/
structure SpellsOpen (repertoire : Repertoire) (element : OpenElement) : Prop where
  tag : repertoire.Spells element.tag
  attributes : repertoire.SpellsAttributes element.attributes
  children : repertoire.SpellsNodes element.children

/-- Everything in a tree that is still open is in a repertoire. -/
structure SpellsBuilder (repertoire : Repertoire) (builder : Builder) : Prop where
  stack : ∀ element ∈ builder.stack, repertoire.SpellsOpen element
  roots : repertoire.SpellsNodes builder.roots
  doctype : ∀ doctype ∈ builder.doctype, repertoire.SpellsDoctype doctype

variable {repertoire : Repertoire} {node : Node} {nodes : List Node}

@[simp]
theorem spellsNodes_nil : repertoire.SpellsNodes [] := by
  intro node hnode
  exact absurd hnode List.not_mem_nil

@[simp]
theorem spellsNodes_cons :
    repertoire.SpellsNodes (node :: nodes) ↔
      repertoire.SpellsNode node ∧ repertoire.SpellsNodes nodes := List.forall_mem_cons

theorem SpellsNodes.subset {others : List Node} (h : repertoire.SpellsNodes others)
    (hsubset : nodes ⊆ others) : repertoire.SpellsNodes nodes :=
  fun node hnode => h node (hsubset hnode)

theorem SpellsNode.children (h : repertoire.SpellsNode node) :
    repertoire.SpellsNodes node.children := by
  cases h with
  | text hcontent => exact spellsNodes_nil
  | comment hcontent => exact spellsNodes_nil
  | instruction htarget hcontent => exact spellsNodes_nil
  | element htag hattributes hchildren => exact hchildren

theorem SpellsNode.tag (h : repertoire.SpellsNode node) : repertoire.Spells node.tag := by
  cases h with
  | text hcontent => exact spells_nil
  | comment hcontent => exact spells_nil
  | instruction htarget hcontent => exact spells_nil
  | element htag hattributes hchildren => exact htag

theorem SpellsNodes.addLast (h : repertoire.SpellsNodes nodes) (hnode : repertoire.SpellsNode node) :
    repertoire.SpellsNodes (Markup.addLast node nodes) := by
  rw [Markup.addLast.eq_def]
  split
  · rename_i more content rest
    obtain ⟨hcontent, hrest⟩ := spellsNodes_cons.1 h
    cases hnode with
    | text hmore =>
        cases hcontent with
        | text hcontent =>
            exact spellsNodes_cons.2 ⟨.text (spells_append.2 ⟨hcontent, hmore⟩), hrest⟩
  · exact spellsNodes_cons.2 ⟨hnode, h⟩

/-! ## Building -/

variable {builder : Builder}

theorem spellsBuilder_empty : repertoire.SpellsBuilder .empty where
  stack := nofun
  roots := spellsNodes_nil
  doctype := nofun

theorem SpellsBuilder.add (h : repertoire.SpellsBuilder builder)
    (hnode : repertoire.SpellsNode node) : repertoire.SpellsBuilder (builder.add node) := by
  obtain ⟨stack, roots⟩ := builder
  cases stack with
  | nil => exact ⟨nofun, spellsNodes_cons.2 ⟨hnode, h.roots⟩, h.doctype⟩
  | cons current outer =>
      obtain ⟨hcurrent, houter⟩ := List.forall_mem_cons.1 h.stack
      refine ⟨List.forall_mem_cons.2 ⟨?_, houter⟩, h.roots, h.doctype⟩
      exact { hcurrent with children := hcurrent.children.addLast hnode }

theorem SpellsBuilder.push (h : repertoire.SpellsBuilder builder) {tag : Text}
    {attributes : Attributes} (htag : repertoire.Spells tag)
    (hattributes : repertoire.SpellsAttributes attributes) :
    repertoire.SpellsBuilder (builder.push tag attributes) := by
  rw [Builder.push]
  split_ifs
  · exact { h with }
  · exact { h with stack := List.forall_mem_cons.2 ⟨⟨htag, hattributes, spellsNodes_nil⟩, h.stack⟩ }

theorem SpellsBuilder.pop (h : repertoire.SpellsBuilder builder) :
    repertoire.SpellsBuilder builder.pop := by
  rw [Builder.pop]
  split
  · exact h
  · rename_i current outer hstack
    have hstack' := h.stack
    rw [hstack] at hstack'
    obtain ⟨hcurrent, houter⟩ := List.forall_mem_cons.1 hstack'
    have hrest : repertoire.SpellsBuilder { builder with stack := outer } :=
      { h with stack := houter }
    apply hrest.add
    refine .element hcurrent.tag hcurrent.attributes ?_
    exact fun child hchild => hcurrent.children child (List.mem_reverse.1 hchild)

theorem spells_of_mem_suppliedTags {tag : Text} (h : tag ∈ suppliedTags) :
    repertoire.Spells tag := by
  have hascii : ∀ tag ∈ suppliedTags, tag.all fun c => c.toNat < 0x80 := by decide
  exact spells_of_all_ascii (hascii tag h)

theorem SpellsBuilder.step {before after : Builder} (h : repertoire.SpellsBuilder before)
    {token : Token} (htoken : repertoire.SpellsToken token)
    (hstep : Builder.Step token before after) : repertoire.SpellsBuilder after := by
  cases hstep with
  | mark hstack hroots hdoctype =>
      refine ⟨hstack ▸ h.stack, hroots ▸ h.roots, ?_⟩
      rcases hdoctype with heq | ⟨doctype, rfl, heq⟩
      · rw [heq]
        exact h.doctype
      · rw [heq]
        rintro _ ⟨⟩
        exact htoken
  | leaf hnode =>
      apply h.add
      cases hnode with
      | text hpart => exact .text (Spells.subset htoken hpart)
      | lessSign => exact .text (spells_of_all_ascii (by decide))
      | comment => exact .comment htoken
  | supply htag hbottom => exact h.push (spells_of_mem_suppliedTags htag) spellsAttributes_nil
  | push hnew hbottom =>
      cases token with
      | startTag tag attributes closed =>
          cases List.mem_singleton.1 hnew
          exact h.push htoken.1 htoken.2
      | text content => cases hnew
      | lessSign => cases hnew
      | cutTag tag => cases hnew
      | endTag tag => cases hnew
      | comment content => cases hnew
      | doctype doctype => cases hnew
  | pop => exact h.pop

theorem SpellsTokens.ofTokens {tokens : List Token} (h : repertoire.SpellsTokens tokens) :
    repertoire.SpellsBuilder (.ofTokens tokens) :=
  Builder.ofTokens_keeps spellsBuilder_empty
    (fun token htoken _ _ hstep hbefore => hbefore.step (h token htoken) hstep)
    fun _ hbefore => hbefore.pop

/-! ## Pages -/

/-- Everything in a document is in a repertoire. -/
structure SpellsDocument (repertoire : Repertoire) (document : Document) : Prop where
  doctype : repertoire.SpellsDoctype document.doctype
  root : repertoire.SpellsNode document.root

variable {page : Text}

theorem spellsDoctype_standard : repertoire.SpellsDoctype .standard where
  publicId := by
    rintro _ ⟨⟩
    exact spells_toList rfl (by decide)
  systemId := by
    rintro _ ⟨⟩
    exact spells_toList rfl (by decide)

/-- A document that is read of a page. -/
theorem Reads.document {document : Document} (h : repertoire.Reads page)
    (hread : Document.read page = .ok document) : repertoire.SpellsDocument document := by
  have hbuilt := h.scan.ofTokens
  have hroot := (Document.root_mem_roots_of_read hread).1
  refine ⟨?_, hbuilt.roots _ hroot⟩
  rw [Document.read] at hread
  split at hread
  · cases hread
  · cases hread
    cases hdoctype : (Builder.ofTokens (Token.scan page)).doctype with
    | none => exact spellsDoctype_standard
    | some doctype => exact hbuilt.doctype doctype hdoctype

theorem SpellsNodes.leadingText (h : repertoire.SpellsNodes nodes) :
    repertoire.Spells (Fragment.leadingText nodes) := by
  induction nodes with
  | nil => exact spells_nil
  | cons node rest ih =>
      obtain ⟨hnode, hrest⟩ := spellsNodes_cons.1 h
      cases hnode with
      | text hcontent => exact spells_append.2 ⟨hcontent, ih hrest⟩
      | comment hcontent => exact spells_nil
      | instruction htarget hcontent => exact spells_nil
      | element htag hattributes hchildren => exact spells_nil

theorem SpellsNodes.ofBody {container : Node} (h : repertoire.SpellsNodes nodes)
    (hbody : Fragment.ofBody nodes = .ok container) : repertoire.SpellsNode container := by
  have htag : repertoire.Spells "div".toList := spells_toList rfl (by decide)
  have hrest : repertoire.SpellsNodes (nodes.dropWhile Node.isText) :=
    h.subset (List.dropWhile_suffix _).subset
  rw [Fragment.ofBody] at hbody
  split_ifs at hbody
  · cases hbody
    exact .element htag spellsAttributes_nil hrest
  · cases hbody
    exact .element htag spellsAttributes_nil (spellsNodes_cons.2 ⟨.text h.leadingText, hrest⟩)

/-- A fragment that is read of a page. -/
theorem Reads.fragment {container : Node} (h : repertoire.Reads page)
    (hread : Fragment.read page = .ok container) : repertoire.SpellsNode container := by
  rw [Fragment.read] at hread
  split at hread
  · cases hread
  · rename_i document hdocument
    have hroot := (h.wrapped.document hdocument).root
    split at hread
    · rename_i body hbody
      have hmem : body ∈ document.root.children := by
        have hfilter : body ∈ document.root.children.filter (Node.hasTag bodyTag) := by
          rw [hbody]
          exact List.mem_singleton_self body
        exact (List.mem_filter.1 hfilter).1
      exact (hroot.children body hmem).children.ofBody hread
    · cases hread

end Repertoire
end AtomicCss
