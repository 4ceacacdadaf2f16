import AtomicCss.Proofs.Markup.Printed
import AtomicCss.Proofs.Pass.Emptied
import AtomicCss.Proofs.Restyle.Characters

/-! # The characters of rendered pages

A page that is rendered has the characters of the page that was given, those that reading it brings
in, and those of the settings. A fragment may turn into a document when its styles are collected,
because elements that name the content type are left out of it. It is then read a second time, and
the values in which nothing is escaped may bring in more. -/

namespace AtomicCss

open Markup Pass

namespace Repertoire

variable {repertoire : Repertoire} {settings : Settings} {page text css : Text} {sheet : Sheet}
  {root : Node}

/-! ## Sheets -/

/-- A sheet is written with its characters. -/
theorem SpellsSheet.print (h : repertoire.SpellsSheet sheet) : repertoire.Spells sheet.print := by
  apply spells_joinWith (spells_of_all_ascii (by decide))
  intro line hline
  obtain ⟨⟨body, selectors⟩, hentry, rfl⟩ := List.mem_map.1 hline
  obtain ⟨hbody, hselectors⟩ := h _ hentry
  exact hbody.replaceFirst placeholder
    (spells_joinWith (spells_of_all_ascii (by decide)) hselectors)

theorem Spells.escapeStyleText (h : repertoire.Spells css) :
    repertoire.Spells (AtomicCss.escapeStyleText css) := by
  apply spells_flatMap
  intro c hc
  split_ifs
  · exact spells_of_all_ascii (by decide)
  · exact spells_cons.2 ⟨h c hc, spells_nil⟩

theorem spells_escapeAttributeChar {c : Char} (h : repertoire.has c) :
    repertoire.Spells (escapeAttributeChar c) := by
  rw [escapeAttributeChar]
  split_ifs
  · exact spells_toList rfl (by decide)
  · exact spells_toList rfl (by decide)
  · exact spells_toList rfl (by decide)
  · exact spells_toList rfl (by decide)
  · exact spells_toList rfl (by decide)
  · exact spells_cons.2 ⟨h, spells_nil⟩

/-- The stem of the classes and the identifier of the block are in a repertoire. -/
structure SpellsSettings (repertoire : Repertoire) (settings : Settings) : Prop where
  classStem : repertoire.Spells settings.classStem
  styleId : repertoire.Spells settings.styleId

theorem SpellsSettings.styleBlock (h : repertoire.SpellsSettings settings)
    (hcss : repertoire.Spells css) : repertoire.Spells (Pass.styleBlock settings css) := by
  have hid : repertoire.Spells (settings.styleId.flatMap escapeAttributeChar) :=
    spells_flatMap fun c hc => spells_escapeAttributeChar (h.styleId c hc)
  unfold Pass.styleBlock
  rw [spells_append, spells_append, spells_append, spells_append]
  exact ⟨⟨⟨⟨spells_toList rfl (by decide), hid⟩, spells_toList rfl (by decide)⟩,
    hcss.escapeStyleText⟩, spells_toList rfl (by decide)⟩

theorem SpellsSettings.styleNode (h : repertoire.SpellsSettings settings)
    (hcss : repertoire.Spells css) : repertoire.SpellsNode (Pass.styleNode settings css) := by
  have hname : repertoire.Spells "id".toList := spells_toList rfl (by decide)
  have hattributes : repertoire.SpellsAttributes [("id".toList, some settings.styleId)] := by
    intro entry hentry
    cases List.mem_singleton.1 hentry
    refine ⟨hname, ?_⟩
    rintro _ ⟨⟩
    exact h.styleId
  refine .element (spells_toList rfl (by decide)) hattributes ?_
  intro child hchild
  rw [List.mem_singleton.1 hchild]
  exact .text hcss.escapeStyleText

/-! ## Embedding -/

theorem SpellsNodes.insertFirst {style : Node} {nodes : List Node}
    (h : repertoire.SpellsNodes nodes) (hstyle : repertoire.SpellsNode style) :
    repertoire.SpellsNodes (Node.insertFirst style nodes) := by
  intro node hnode
  rcases List.mem_append.1 hnode with hbefore | hafter
  · exact h node (List.takeWhile_subset _ hbefore)
  · rcases List.mem_cons.1 hafter with rfl | hafter
    · exact hstyle
    · exact h node ((List.dropWhile_suffix _).subset hafter)

theorem SpellsNodes.insertIntoHead {style : Node} (hstyle : repertoire.SpellsNode style)
    {nodes changed : List Node} (h : repertoire.SpellsNodes nodes)
    (hinsert : Pass.insertIntoHead style nodes = some changed) :
    repertoire.SpellsNodes changed := by
  induction nodes generalizing changed with
  | nil => cases hinsert
  | cons node rest ih =>
      obtain ⟨hnode, hrest⟩ := spellsNodes_cons.1 h
      have hlater : (Pass.insertIntoHead style rest).map (node :: ·) = some changed →
          repertoire.SpellsNodes changed := by
        intro hmap
        obtain ⟨others, hothers, rfl⟩ := Option.map_eq_some_iff.1 hmap
        exact spellsNodes_cons.2 ⟨hnode, ih hrest hothers⟩
      cases hnode with
      | text hcontent => exact hlater hinsert
      | comment hcontent => exact hlater hinsert
      | instruction htarget hcontent => exact hlater hinsert
      | element htag hattributes hchildren =>
          simp only [Pass.insertIntoHead] at hinsert
          split_ifs at hinsert
          · cases hinsert
            have hhead := SpellsNodes.insertFirst hchildren hstyle
            exact spellsNodes_cons.2 ⟨.element htag hattributes hhead, hrest⟩
          · exact hlater hinsert

theorem SpellsNode.insertStyle {style : Node} (hstyle : repertoire.SpellsNode style)
    (h : repertoire.SpellsNode root) : repertoire.SpellsNode (Pass.insertStyle style root) := by
  cases h with
  | text hcontent => exact .text hcontent
  | comment hcontent => exact .comment hcontent
  | instruction htarget hcontent => exact .instruction htarget hcontent
  | element htag hattributes hchildren =>
      rw [Pass.insertStyle]
      split
      · rename_i changed hinsert
        exact .element htag hattributes (SpellsNodes.insertIntoHead hstyle hchildren hinsert)
      · have hsupplied : repertoire.SpellsNode (.element headTag [] [style]) := by
          refine .element (spells_toList rfl (by decide)) spellsAttributes_nil ?_
          exact fun child hchild => List.mem_singleton.1 hchild ▸ hstyle
        exact .element htag hattributes (SpellsNodes.insertFirst hchildren hsupplied)

theorem Spells.insertBlock (h : repertoire.Spells page) {block : Text}
    (hblock : repertoire.Spells block) : repertoire.Spells (Pass.insertBlock block page) := by
  have hend : repertoire.Spells headEnd := spells_toList rfl (by decide)
  rw [Pass.insertBlock]
  split
  · rename_i before after haround
    rw [Text.eq_of_around haround, spells_append, spells_append] at h
    obtain ⟨⟨hbefore, -⟩, hafter⟩ := h
    rw [spells_append, spells_append, spells_append]
    exact ⟨⟨⟨hbefore, hblock⟩, hend⟩, hafter⟩
  · exact spells_append.2 ⟨hblock, h⟩

theorem SpellsNode.embedTree (hsettings : repertoire.SpellsSettings settings)
    (h : repertoire.SpellsNode root) (hsheet : repertoire.SpellsSheet sheet) {embedded : Node}
    (hembed : (Pass.embedTree settings root sheet).outcome = .ok embedded) :
    repertoire.SpellsNode embedded := by
  rcases eq_of_embedTree hembed with ⟨-, rfl⟩ | ⟨-, -, rfl⟩
  · exact h
  · exact SpellsNode.insertStyle (hsettings.styleNode hsheet.print) h

theorem SpellsDocument.embed {document : Document} (h : repertoire.SpellsDocument document)
    (hsettings : repertoire.SpellsSettings settings) (hsheet : repertoire.SpellsSheet sheet)
    (hembed : (embedDocument settings page document sheet).outcome = .ok text) :
    repertoire.Spells text := by
  obtain ⟨embedded, htree, hprint⟩ := Effect.outcome_andThen_eq_ok_iff.1 hembed
  have hembedded : repertoire.SpellsDocument { document with root := embedded } :=
    ⟨h.doctype, h.root.embedTree hsettings hsheet htree⟩
  exact hembedded.print hprint

/-- A page in which a sheet is embedded. It is read again if it is a document. -/
theorem Spells.embedPage (h : repertoire.Spells page)
    (hreads : isDocument page → repertoire.Reads page)
    (hsettings : repertoire.SpellsSettings settings) (hsheet : repertoire.SpellsSheet sheet)
    (hembed : (Pass.embedPage settings page sheet).outcome = .ok text) :
    repertoire.Spells text := by
  cases hempty : sheet.isEmpty with
  | true =>
      rw [Pass.embedPage, if_pos hempty] at hembed
      exact Except.ok.inj hembed ▸ h
  | false =>
      cases hdocument : isDocument page with
      | true =>
          cases hread : Document.read page with
          | error fault =>
              rw [Pass.embedPage, hempty, if_neg (by decide), if_pos hdocument, onDocument,
                hread] at hembed
              cases hembed
          | ok document =>
              rw [embedPage_of_isDocument hempty hdocument hread] at hembed
              exact ((hreads hdocument).document hread).embed hsettings hsheet hembed
      | false =>
          rw [Pass.embedPage, hempty, hdocument, if_neg (by decide), if_neg (by decide)] at hembed
          have htext : Pass.insertBlock (sheet.block settings.styleId) page = text :=
            Except.ok.inj hembed
          rw [← htext, block_eq hempty]
          exact h.insertBlock (hsettings.styleBlock hsheet.print)

/-! ## Collecting -/

theorem SpellsNode.collectTree (hsettings : repertoire.SpellsSettings settings)
    (h : repertoire.SpellsNode root) (hsheet : repertoire.SpellsSheet sheet) :
    repertoire.SpellsSheet (Pass.collectTree settings root sheet).state ∧
      ∀ collected, (Pass.collectTree settings root sheet).outcome = .ok collected →
        repertoire.SpellsNode collected := by
  obtain ⟨htree, hafter⟩ := h.restyleTree hsettings.classStem hsheet
  refine ⟨hafter, fun collected hcollect => ?_⟩
  obtain ⟨_, -, rfl⟩ := Outcome.map_eq_ok_iff.1 hcollect
  exact htree

theorem Reads.collectDocument (h : repertoire.Reads page)
    (hsettings : repertoire.SpellsSettings settings) (hsheet : repertoire.SpellsSheet sheet)
    {document : Document}
    (hcollect : (Pass.collectDocument settings page sheet).outcome = .ok document) :
    repertoire.SpellsDocument document ∧
      repertoire.SpellsSheet (Pass.collectDocument settings page sheet).state := by
  rw [Pass.collectDocument] at hcollect ⊢
  cases hread : Document.read page with
  | error fault =>
      rw [hread] at hcollect
      cases hcollect
  | ok given =>
      have hgiven := h.document hread
      obtain ⟨hstate, htree⟩ := hgiven.root.collectTree hsettings hsheet
      rw [hread] at hcollect
      dsimp only at hcollect ⊢
      obtain ⟨root, hroot, hdone⟩ := Effect.outcome_andThen_eq_ok_iff.1 hcollect
      obtain rfl := Except.ok.inj hdone
      rw [Effect.state_andThen_of_keeps fun _ _ => rfl]
      exact ⟨⟨hgiven.doctype, htree root hroot⟩, hstate⟩

theorem Reads.collectPage (h : repertoire.Reads page)
    (hsettings : repertoire.SpellsSettings settings) (hsheet : repertoire.SpellsSheet sheet)
    (hcollect : (Pass.collectPage settings page sheet).outcome = .ok text) :
    repertoire.Spells text ∧
      repertoire.SpellsSheet (Pass.collectPage settings page sheet).state := by
  cases hmention : mentionsStyle page with
  | false =>
      rw [Pass.collectPage, hmention] at hcollect ⊢
      exact ⟨Except.ok.inj hcollect ▸ h.spells, hsheet⟩
  | true =>
      cases hdocument : isDocument page with
      | true =>
          rw [collectPage_of_isDocument hmention hdocument] at hcollect ⊢
          obtain ⟨document, hread, hprint⟩ := Effect.outcome_andThen_eq_ok_iff.1 hcollect
          obtain ⟨hspells, hstate⟩ := h.collectDocument hsettings hsheet hread
          rw [Effect.state_andThen_of_keeps fun _ _ => rfl]
          exact ⟨hspells.print hprint, hstate⟩
      | false =>
          rw [Pass.collectPage, hmention, hdocument, if_neg (by decide),
            if_neg (by decide)] at hcollect ⊢
          cases hread : Fragment.read page with
          | error fault =>
              rw [hread] at hcollect
              cases hcollect
          | ok container =>
              obtain ⟨hstate, htree⟩ := (h.fragment hread).collectTree hsettings hsheet
              rw [hread] at hcollect
              dsimp only at hcollect ⊢
              obtain ⟨collected, hcollected, hprint⟩ :=
                Effect.outcome_andThen_eq_ok_iff.1 hcollect
              rw [Effect.state_andThen_of_keeps fun _ _ => rfl]
              refine ⟨?_, hstate⟩
              rw [← Except.ok.inj hprint]
              exact ((htree collected hcollected).children.print false).dropContentTypeMeta

/-! ## Rendering -/

/-- What reading brings in while a page is rendered is in a repertoire: reading the page and, if the
page is a fragment that turns into a document when its styles are collected, reading that. -/
structure SpellsBrought (repertoire : Repertoire) (settings : Settings) (page : Text) : Prop where
  ofPage : repertoire.Spells (broughtIn page)
  ofCollected : isDocument page = false → ∀ collected,
    (Pass.collectPage settings page .empty).outcome = .ok collected → isDocument collected →
      repertoire.Spells (broughtIn collected)

/-- A page is rendered with its characters and those that reading brings in. -/
theorem Spells.render (h : repertoire.Spells page) (hbrought : repertoire.SpellsBrought settings page)
    (hsettings : repertoire.SpellsSettings settings)
    (hrender : (Pass.render settings page .empty).outcome = .ok text) :
    repertoire.Spells text := by
  have hreads : repertoire.Reads page := ⟨h, hbrought.ofPage⟩
  cases hdocument : isDocument page with
  | true =>
      rw [Pass.render, if_pos hdocument, renderDocument_eq] at hrender
      obtain ⟨document, hcollect, hembed⟩ := Effect.outcome_andThen_eq_ok_iff.1 hrender
      obtain ⟨hspells, hsheet⟩ := hreads.collectDocument hsettings spellsSheet_empty hcollect
      split_ifs at hembed
      · exact Except.ok.inj hembed ▸ h
      · exact hspells.embed hsettings hsheet hembed
  | false =>
      rw [Pass.render, hdocument, if_neg (by decide)] at hrender
      obtain ⟨collected, hcollect, hembed⟩ := Effect.outcome_andThen_eq_ok_iff.1 hrender
      obtain ⟨hspells, hsheet⟩ := hreads.collectPage hsettings spellsSheet_empty hcollect
      refine hspells.embedPage (fun hturned => ⟨hspells, ?_⟩) hsettings hsheet hembed
      exact hbrought.ofCollected hdocument collected hcollect hturned

end Repertoire
end AtomicCss
