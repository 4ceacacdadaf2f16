import AtomicCss.Proofs.Markup.StyleBlock
import AtomicCss.Proofs.Pass.Untouched
import AtomicCss.Proofs.Sheet.Order
import AtomicCss.Proofs.Text.Occurrences

/-! # What the CSS text of a sheet can do to a page

The CSS text of a sheet stays inside the `style` element that it is put into, whatever styles it was
compiled from. The block of a sheet and the element that is embedded in a tree have the same text, and
the block is put into a page at one place. -/

namespace AtomicCss

open Markup

/-- The text is the page with the block put in at one place: in front of the first end of a head, or
in front of all if there is none. -/
inductive InsertedOnce (block page : Text) : Text → Prop
  | beforeHeadEnd {before after : Text} (hpage : page = before ++ Pass.headEnd ++ after)
      (hfirst : ∀ before' after', page = before' ++ Pass.headEnd ++ after' →
        before.length ≤ before'.length) :
      InsertedOnce block page (before ++ block ++ Pass.headEnd ++ after)
  | inFront (hnone : ¬Pass.headEnd <:+: page) : InsertedOnce block page (block ++ page)

theorem insertedOnce_insertBlock (block page : Text) :
    InsertedOnce block page (Pass.insertBlock block page) := by
  rw [Pass.insertBlock]
  cases haround : Text.around Pass.headEnd page with
  | none => exact .inFront (Text.around_eq_none_iff.1 haround)
  | some parts =>
      obtain ⟨before, after⟩ := parts
      exact .beforeHeadEnd (Text.eq_of_around haround) fun _ _ =>
        Text.length_le_of_around haround

variable {settings : Settings}

theorem print_collect_eq_nil_iff (settings : Settings) (texts : List Text) :
    (collect settings texts).print = [] ↔ (collect settings texts).isEmpty := by
  rw [collect_eq_mergeAll]
  apply Sheet.print_mergeAll_eq_nil_iff
  intro rule hrule
  obtain ⟨text, -, hrule⟩ := List.mem_flatMap.1 hrule
  rw [compiledRules] at hrule
  split at hrule
  · exact brace_mem_body_of_compileStyle ‹_› hrule
  · cases hrule

theorem escapeStyleText_ne_nil {css : Text} (h : css ≠ []) : escapeStyleText css ≠ [] := by
  cases css with
  | nil => exact absurd rfl h
  | cons c css =>
      rw [escapeStyleText, List.flatMap_cons]
      split_ifs <;> simp

/-- The CSS text of styles stays inside its `style` element. A block of any identifier has the text
without a less-than sign and the identifier without a sign that ends it, and it is read as one `style`
element with this identifier and this text, whatever comes after it. The element that is embedded in a
tree has the same text, and a page that is no document gets the block at one place. -/
theorem collect_block_confined (settings : Settings) (texts : List Text)
    (h : (collect settings texts).isEmpty = false) :
    let sheet := collect settings texts
    let content := escapeStyleText sheet.print
    '<' ∉ content ∧
    (∀ styleId,
      sheet.block styleId = "<style id=\"".toList ++ escapeAttribute styleId ++ "\">".toList ++
        content ++ "</style>".toList ∧
      (∀ c ∈ escapeAttribute styleId, c ∉ ['"', '<', '>']) ∧
      (∀ inAttribute, decodeReferences inAttribute (escapeAttribute styleId) = styleId) ∧
      ∀ rounds rest, scanFor (rounds + 2) (sheet.block styleId ++ rest) =
        .startTag styleTag [(['i', 'd'], some styleId)] false :: .text content ::
          .endTag styleTag :: scanFor rounds rest) ∧
    (Pass.flushBlock settings sheet).outcome = .ok (sheet.block settings.styleId) ∧
    (∀ root embedded, (Pass.embedTree settings root sheet).outcome = .ok embedded →
      AddsStyle (.element "style".toList [("id".toList, some settings.styleId)] [.text content])
        root embedded) ∧
    ∀ page, isDocument page = false →
      ∃ text, (Pass.embedPage settings page sheet).outcome = .ok text ∧
        InsertedOnce (sheet.block settings.styleId) page text := by
  intro sheet content
  have hprint : sheet.print ≠ [] := by
    rw [Ne, print_collect_eq_nil_iff, h]
    decide
  have hcontent : '<' ∉ content := not_mem_escapeStyleText sheet.print
  have hblock (styleId : Text) : sheet.block styleId = blockText styleId content := by
    rw [Sheet.block, h]
    rfl
  refine ⟨hcontent, fun styleId => ⟨hblock styleId, fun c => notMem_of_mem_escapeAttribute,
    fun inAttribute => decodeReferences_escapeAttribute inAttribute styleId, ?_⟩, rfl, ?_, ?_⟩
  · intro rounds rest
    rw [hblock, scanFor_blockText hcontent,
      if_neg (mt List.isEmpty_iff.1 (escapeStyleText_ne_nil hprint))]
    rfl
  · intro root embedded hembed
    rcases Pass.eq_of_embedTree hembed with ⟨hnone, -⟩ | ⟨-, helement, rfl⟩
    · exact absurd hnone hprint
    · exact addsStyle_insertStyle _ helement
  · intro page hfragment
    refine ⟨_, ?_, insertedOnce_insertBlock (sheet.block settings.styleId) page⟩
    rw [Pass.embedPage, h, hfragment]
    rfl

/-- A style that spells the end tag of a `style` element. -/
def closingStyle : Text := "content: '</style>'".toList

/-- The block of the style, with the end tag escaped. -/
def closingBlock : Text :=
  "<style id=\"headwind\">.hw_hDXd3 \x7b content: '\\3c /style>' \x7d</style>".toList

theorem closingStyle_confined :
    let sheet := collect .standard [closingStyle]
    sheet.isEmpty = false ∧ '<' ∉ escapeStyleText sheet.print ∧
      (Pass.flushBlock .standard sheet).outcome = .ok closingBlock ∧
      ∃ text, (Pass.embedPage .standard "<p>x</p>".toList sheet).outcome = .ok text ∧
        InsertedOnce closingBlock "<p>x</p>".toList text := by
  intro sheet
  have hrules : sheet.isEmpty = false := by decide +kernel
  have hblock : sheet.block Settings.standard.styleId = closingBlock := by decide +kernel
  obtain ⟨hcontent, -, hflush, -, hpage⟩ := collect_block_confined .standard [closingStyle] hrules
  rw [hblock] at hflush hpage
  exact ⟨hrules, hcontent, hflush, hpage _ (by decide)⟩

end AtomicCss
