import AtomicCss.Proofs.Style.Parts
import AtomicCss.Style.Printer
import Mathlib.Data.List.TakeWhile

/-! # Reading what was written

The items that reading gives are made of trimmed texts without delimiters, and no name of theirs has
a colon. Such items can be written and read again without a change, so that writing undoes reading
on everything that reading gives. -/

namespace AtomicCss.Style

/-- A text that reading gives: it is trimmed and has no delimiter. -/
structure IsPiece (text : Text) : Prop where
  plain : IsPlain text
  trimmed : Text.IsTrimmed text

theorem isPiece_nil : IsPiece [] := ⟨isPlain_nil, Text.isTrimmed_nil⟩

/-- A declaration that reading gives. -/
structure Declaration.IsCanonical (declaration : Declaration) : Prop where
  name : IsPiece declaration.name
  colon_notMem : ':' ∉ declaration.name
  value : IsPiece declaration.value

/-- A rule that reading gives. -/
structure NestedRule.IsCanonical (rule : NestedRule) : Prop where
  selector : IsPiece rule.selector
  declarations : ∀ d ∈ rule.declarations, d.IsCanonical

/-- An item that reading gives. -/
def Item.IsCanonical : Item → Prop
  | declaration d => d.IsCanonical
  | rule r => r.IsCanonical

/-! ## What reading gives -/

theorem IsPlain.of_isInfix {part text : Text} (h : IsPlain text) (hpart : part <:+: text) :
    IsPlain part :=
  fun c hc => h c (hpart.subset hc)

theorem isPlain_append {first second : Text} :
    IsPlain (first ++ second) ↔ IsPlain first ∧ IsPlain second := by
  exact List.forall_mem_append

theorem isPiece_trim {text : Text} (h : IsPlain text) : IsPiece text.trim :=
  ⟨h.of_isInfix (Text.trim_isInfix text), Text.isTrimmed_trim text⟩

theorem isCanonical_declarationOf {segment : Text} (h : IsPlain segment) :
    (declarationOf segment).IsCanonical where
  name := by
    have hfront : segment.takeWhile (· ≠ ':') <+: segment := List.takeWhile_prefix _
    exact isPiece_trim (h.of_isInfix hfront.isInfix)
  colon_notMem := by
    intro hcolon
    have hmem := (Text.trim_isInfix _).subset hcolon
    simpa using List.mem_takeWhile_imp hmem
  value := by
    apply isPiece_trim
    exact h.of_isInfix ((List.tail_suffix _).trans (List.dropWhile_suffix _)).isInfix

theorem Declaration.IsRead.isCanonical {text : Text} {declaration : Declaration}
    (h : declaration.IsRead text) : declaration.IsCanonical := by
  obtain ⟨segment, -, hmem⟩ := h
  rw [eq_of_mem_declarationsOf hmem]
  exact isCanonical_declarationOf segment.property

theorem isCanonical_of_parse {strict : Bool} {text : Text} {items : List Item}
    (h : (parse strict text).outcome = .ok items) : ∀ item ∈ items, item.IsCanonical := by
  intro item hitem
  have hread := isRead_of_parse h item hitem
  cases item with
  | declaration declaration => exact Declaration.IsRead.isCanonical hread
  | rule rule =>
      obtain ⟨⟨head, -, hselector⟩, hdeclarations⟩ := hread
      refine ⟨?_, fun d hd => (hdeclarations d hd).isCanonical⟩
      rw [hselector]
      exact isPiece_trim head.property

/-! ## Declarations that are written -/

theorem isPlain_print {declaration : Declaration} (h : declaration.IsCanonical) :
    IsPlain declaration.print := by
  rw [Declaration.print, isPlain_append, isPlain_append]
  exact ⟨⟨h.name.plain, by decide⟩, h.value.plain⟩

/-- A text of blanks without delimiters, as it stands before and after what is written. -/
structure IsGap (text : Text) : Prop where
  plain : IsPlain text
  blank : text.all Text.isBlank

theorem isGap_nil : IsGap [] := ⟨isPlain_nil, rfl⟩

theorem isGap_space : IsGap [' '] := ⟨by decide, by decide⟩

theorem declarationsOf_gap {gap : Text} (h : IsGap gap) : declarationsOf gap = [] := by
  rw [declarationsOf, if_pos (Text.trim_eq_nil_iff.2 h.blank)]

/-- A declaration that is written between gaps is read as it was. -/
theorem declarationsOf_print {lead tail : Text} (hlead : IsGap lead) (htail : IsGap tail)
    {declaration : Declaration} (h : declaration.IsCanonical) :
    declarationsOf (lead ++ declaration.print ++ tail) = [declaration] := by
  have htext : lead ++ declaration.print ++ tail =
      (lead ++ declaration.name) ++ ':' :: ([' '] ++ declaration.value ++ tail) := by
    simp [Declaration.print]
  have hfront : ':' ∉ lead ++ declaration.name := by
    rw [List.mem_append, not_or]
    exact ⟨Text.notMem_of_blank hlead.blank (by decide), h.colon_notMem⟩
  have hne : Text.trim (lead ++ declaration.print ++ tail) ≠ [] := by
    rw [Ne, Text.trim_eq_nil_iff, htext]
    intro hall
    exact Text.notMem_of_blank hall (by decide) (by simp : ':' ∈ _)
  rw [declarationsOf, if_neg hne, htext, declarationOf_colon hfront,
    Text.trim_blank_append hlead.blank, Text.trim_of_isTrimmed h.name.trimmed,
    Text.trim_append_blank htail.blank, Text.trim_blank_append isGap_space.blank,
    Text.trim_of_isTrimmed h.value.trimmed]

/-! ## Derivations of what is written -/

theorem isPlain_gap_print_gap {lead tail : Text} (hlead : IsGap lead) (htail : IsGap tail)
    {declaration : Declaration} (h : declaration.IsCanonical) :
    IsPlain (lead ++ declaration.print ++ tail) :=
  isPlain_append.2 ⟨isPlain_append.2 ⟨hlead.plain, isPlain_print h⟩, htail.plain⟩

/-- The declarations of a block are written as segments that give them back. -/
theorem exists_block_segments {declarations : List Declaration}
    (h : ∀ d ∈ declarations, d.IsCanonical) :
    ∃ (body : List Segment) (final : Segment),
      endedText body ++ final.val = ' ' :: printDeclarations declarations ++ [' '] ∧
        (body ++ [final]).flatMap (fun s => declarationsOf s.val) = declarations := by
  induction declarations with
  | nil =>
      -- a block without declarations is written with the blanks of both its ends
      have hgap : IsGap [' ', ' '] := ⟨by decide, by decide⟩
      refine ⟨[], ⟨[' ', ' '], hgap.plain⟩, rfl, ?_⟩
      simp [declarationsOf_gap hgap]
  | cons declaration others ih =>
      have hfirst := h declaration List.mem_cons_self
      cases others with
      | nil =>
          refine ⟨[], ⟨_, isPlain_gap_print_gap isGap_space isGap_space hfirst⟩, rfl, ?_⟩
          rw [List.nil_append, List.flatMap_singleton]
          exact declarationsOf_print isGap_space isGap_space hfirst
      | cons next others =>
          obtain ⟨body, final, htext, hitems⟩ := ih fun d hd => h d (List.mem_cons_of_mem _ hd)
          refine ⟨⟨_, isPlain_gap_print_gap isGap_space isGap_nil hfirst⟩ :: body, final, ?_, ?_⟩
          · simp only [endedText, printDeclarations, List.flatMap_cons, List.map_cons,
              Text.joinWith_cons_cons, List.append_assoc, List.cons_append] at htext ⊢
            rw [htext]
            simp
          · rw [List.cons_append, List.flatMap_cons, hitems,
              declarationsOf_print isGap_space isGap_nil hfirst]
            rfl

/-- A block that is written after a gap is a phrase that gives its rule. -/
theorem exists_phrase_printBlock {lead head : Text} (hlead : IsGap lead) (hhead : IsPiece head)
    {declarations : List Declaration} (h : ∀ d ∈ declarations, d.IsCanonical) :
    ∃ phrase : Phrase, phrase.text = lead ++ printBlock head (printDeclarations declarations) ∧
      phrase.items = [.rule ⟨head, declarations⟩] := by
  obtain ⟨body, final, htext, hitems⟩ := exists_block_segments h
  have hplain : IsPlain (lead ++ (head ++ [' '])) :=
    isPlain_append.2 ⟨hlead.plain, isPlain_append.2 ⟨hhead.plain, isGap_space.plain⟩⟩
  refine ⟨.block ⟨_, hplain⟩ body final, ?_, ?_⟩
  · rw [Phrase.text, List.append_assoc, List.append_assoc _ (endedText body), ← List.append_assoc
      (endedText body), htext]
    simp [printBlock]
  · rw [Phrase.items, hitems, Text.trim_blank_append hlead.blank,
      Text.trim_append_blank isGap_space.blank, Text.trim_of_isTrimmed hhead.trimmed]

/-- One derivation, a semicolon and another derivation. -/
def Derivation.followedBy (first second : Derivation) : Derivation :=
  ⟨first.phrases ++ .plain first.final :: second.phrases, second.final⟩

theorem text_followedBy (first second : Derivation) :
    (first.followedBy second).text = first.text ++ ';' :: second.text := by
  simp [Derivation.followedBy, Derivation.text, Phrase.text, endedText]

theorem items_followedBy (first second : Derivation) :
    (first.followedBy second).items = first.items ++ second.items := by
  simp [Derivation.followedBy, Derivation.items, Phrase.items]

theorem exists_derivation_print {lead : Text} (hlead : IsGap lead) {item : Item}
    (h : item.IsCanonical) :
    ∃ derivation : Derivation, derivation.text = lead ++ item.print ∧
      derivation.items = [item] := by
  cases item with
  | declaration d =>
      have hplain := isPlain_gap_print_gap hlead isGap_nil h
      have hread := declarationsOf_print hlead isGap_nil h
      rw [List.append_nil] at hplain hread
      refine ⟨⟨[], _, hplain⟩, rfl, ?_⟩
      rw [Derivation.items, hread]
      rfl
  | rule r =>
      obtain ⟨phrase, htext, hitems⟩ := exists_phrase_printBlock hlead h.selector h.declarations
      refine ⟨⟨[phrase], [], isPlain_nil⟩, ?_, ?_⟩
      · simp [Derivation.text, htext, Item.print, NestedRule.print]
      · simp [Derivation.items, hitems, declarationsOf_gap isGap_nil]

/-- Items that are written have a derivation that gives them back. -/
theorem exists_derivation_printItems {lead : Text} (hlead : IsGap lead) {items : List Item}
    (h : ∀ item ∈ items, item.IsCanonical) :
    ∃ derivation : Derivation, derivation.text = lead ++ printItems items ∧
      derivation.items = items := by
  induction items generalizing lead with
  | nil =>
      refine ⟨⟨[], lead, hlead.plain⟩, (List.append_nil lead).symm, ?_⟩
      rw [Derivation.items, declarationsOf_gap hlead]
      rfl
  | cons item others ih =>
      obtain ⟨first, htext, hitems⟩ := exists_derivation_print hlead (h item List.mem_cons_self)
      cases others with
      | nil => exact ⟨first, htext, hitems⟩
      | cons next others =>
          -- the blank of the separator is the gap that the next item starts with
          obtain ⟨second, htext', hitems'⟩ :=
            ih isGap_space fun item hitem => h item (List.mem_cons_of_mem _ hitem)
          refine ⟨first.followedBy second, ?_, ?_⟩
          · rw [text_followedBy, htext, htext']
            simp [printItems]
          · rw [items_followedBy, hitems, hitems']
            rfl

theorem printItems_map_declaration (declarations : List Declaration) :
    printItems (declarations.map .declaration) = printDeclarations declarations := by
  rw [printItems, List.map_map]
  rfl

/-- Canonical items can be written and read. -/
theorem outcome_parse_printItems {items : List Item} (h : ∀ item ∈ items, item.IsCanonical) :
    (parse false (printItems items)).outcome = .ok items := by
  obtain ⟨derivation, htext, hitems⟩ := exists_derivation_printItems isGap_nil h
  rw [List.nil_append] at htext
  rw [← htext, outcome_parse_text, hitems]

/-- Canonical items can be written and read by any reader that has read all their declarations, also by
a strict one. -/
theorem outcome_parse_printItems_of_subset {strict : Bool} {text : Text} {items others : List Item}
    (h : (parse strict text).outcome = .ok items) (hcanonical : ∀ item ∈ others, item.IsCanonical)
    (hsubset : others.flatMap Item.declarations ⊆ items.flatMap Item.declarations) :
    (parse strict (printItems others)).outcome = .ok others := by
  have hwritten := outcome_parse_printItems hcanonical
  cases strict with
  | false => exact hwritten
  | true =>
      obtain ⟨hlenient, hnotices⟩ := strict_parse_eq_ok_iff.1 h
      have hcomplete : malformedCount (items.flatMap Item.declarations) = 0 := by
        rw [← length_notices_parse hlenient, hnotices, List.length_nil]
      have hothers : malformedCount (others.flatMap Item.declarations) = 0 := by
        rw [malformedCount, List.countP_eq_zero] at hcomplete ⊢
        exact fun d hd => hcomplete d (hsubset hd)
      refine strict_parse_eq_ok_iff.2 ⟨hwritten, List.length_eq_zero_iff.1 ?_⟩
      rw [length_notices_parse hwritten, hothers]

/-- The items that reading gives are the canonical ones. -/
theorem exists_parse_eq_ok_iff {items : List Item} :
    (∃ text, (parse false text).outcome = .ok items) ↔ ∀ item ∈ items, item.IsCanonical := by
  constructor
  · rintro ⟨text, h⟩
    exact isCanonical_of_parse h
  · intro h
    exact ⟨printItems items, outcome_parse_printItems h⟩

/-- Items that were read and are written again are read as they were, with as many notices, and by
a strict reader if it could read them before. -/
theorem parse_printItems_of_parse {text : Text} {items : List Item}
    (h : (parse false text).outcome = .ok items) :
    (parse false (printItems items)).outcome = .ok items ∧
      (parse false (printItems items)).notices.length = (parse false text).notices.length ∧
      ∀ read, (parse true text).outcome = .ok read →
        read = items ∧ (parse true (printItems items)).outcome = .ok items := by
  have hwritten := outcome_parse_printItems (isCanonical_of_parse h)
  have hcount : (parse false (printItems items)).notices.length =
      (parse false text).notices.length := by
    rw [length_notices_parse hwritten, length_notices_parse h]
  refine ⟨hwritten, hcount, ?_⟩
  intro read hread
  obtain ⟨hlenient, hnotices⟩ := strict_parse_eq_ok_iff.1 hread
  have hsame : read = items := Except.ok.inj (hlenient.symm.trans h)
  refine ⟨hsame, strict_parse_eq_ok_iff.2 ⟨hwritten, ?_⟩⟩
  rw [hnotices] at hcount
  exact List.length_eq_zero_iff.1 hcount

/-- The items of a style with empty names and values, a rule without a selector, and further
colons. -/
def sparseItems : List Item :=
  [.declaration ⟨['x'], []⟩, .declaration ⟨['a'], ":b".toList⟩, .rule ⟨[], []⟩,
    .rule ⟨":h".toList, [⟨[], ['y']⟩, ⟨['c'], []⟩]⟩]

/-- They are read from a text, written in another spelling, and read again with as many notices. -/
theorem sparseItems_read_again :
    (parse false "x;a::b;\x7b \x7d;:h\x7b:y;;c\x7d".toList).outcome = .ok sparseItems ∧
      printItems sparseItems = "x: ; a: :b;  \x7b  \x7d; :h \x7b : y; c:  \x7d".toList ∧
      (parse false (printItems sparseItems)).outcome = .ok sparseItems ∧
      (parse false (printItems sparseItems)).notices.length = 3 := by
  have h : (parse false "x;a::b;\x7b \x7d;:h\x7b:y;;c\x7d".toList).outcome = .ok sparseItems := rfl
  obtain ⟨hread, hnotices, -⟩ := parse_printItems_of_parse h
  exact ⟨h, rfl, hread, hnotices⟩

end AtomicCss.Style
