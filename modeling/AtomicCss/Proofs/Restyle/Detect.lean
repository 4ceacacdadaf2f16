import AtomicCss.Proofs.Markup.Attributes
import AtomicCss.Restyle.Detect
import AtomicCss.Restyle.Mapping
import Mathlib.Data.List.TakeWhile

/-! # Detecting style attributes

A style attribute with a value stands in its page as the word `style` and an equals sign, after a
character that parts attributes. White space is one of these, and is what the detection looks for.
Neither the line ends of a page nor the tags that are put around a fragment can be part of what it
finds. -/

namespace AtomicCss

open Markup

/-- Whether a style attribute may stand somewhere in a page after such a character. -/
def mentionsStyleAfter (before : Char → Bool) : Text → Bool
  | [] => false
  | c :: rest => (before c && startsStyleAttribute rest) || mentionsStyleAfter before rest

theorem mentionsStyle_eq (page : Text) :
    mentionsStyle page = mentionsStyleAfter Text.isBlank page := by
  induction page with
  | nil => rfl
  | cons c rest ih => rw [mentionsStyle, mentionsStyleAfter, ih]

theorem mentionsStyleAfter_iff {before : Char → Bool} {page : Text} :
    mentionsStyleAfter before page ↔
      ∃ c rest, c :: rest <:+ page ∧ before c ∧ startsStyleAttribute rest := by
  induction page with
  | nil => simp [mentionsStyleAfter]
  | cons c rest ih =>
      rw [mentionsStyleAfter, Bool.or_eq_true, Bool.and_eq_true, ih]
      constructor
      · rintro (⟨hc, hstart⟩ | ⟨d, others, hsuffix, hfound⟩)
        · exact ⟨c, rest, List.suffix_refl _, hc, hstart⟩
        · exact ⟨d, others, hsuffix.trans (List.suffix_cons c rest), hfound⟩
      · rintro ⟨d, others, hsuffix, hfound⟩
        rcases List.suffix_cons_iff.1 hsuffix with heq | hsuffix
        · obtain ⟨rfl, rfl⟩ := List.cons.inj heq
          exact Or.inl hfound
        · exact Or.inr ⟨d, others, hsuffix, hfound⟩

/-- A style attribute starts with its word in any case, and after blanks an equals sign follows. -/
theorem startsStyleAttribute_iff {text : Text} :
    startsStyleAttribute text ↔
      ∃ word rest, text = word ++ rest ∧ word.map foldLetter = styleName ∧
        (rest.dropWhile Text.isBlank).head? = some '=' := by
  rw [startsStyleAttribute, Bool.and_eq_true, beq_iff_eq, List.isPrefixOf_iff_prefix]
  constructor
  · rintro ⟨hword, hrest⟩
    refine ⟨text.take 5, text.drop 5, (List.take_append_drop 5 text).symm, ?_, hrest⟩
    apply (hword.eq_of_length_le _).symm
    rw [List.length_map]
    exact List.length_take_le 5 text
  · rintro ⟨word, rest, rfl, hword, hrest⟩
    have hlength : word.length = 5 := by
      rw [← List.length_map foldLetter, hword]
      rfl
    rw [List.take_append_of_le_length (Nat.le_of_eq hlength.symm), ← hlength, List.take_length,
      List.drop_left, hword]
    exact ⟨List.prefix_refl _, hrest⟩

/-! ## Names of attributes -/

theorem isBlank_of_isSpace {c : Char} (h : isSpace c) : Text.isBlank c := by
  simp only [isSpace, Bool.or_eq_true, decide_eq_true_iff] at h
  rcases h with (((rfl | rfl) | rfl) | rfl) | rfl <;> rfl

namespace Markup

/-- A name that is kept with room left is kept as a whole. -/
theorem eq_of_fitBytes_eq {room : Nat} {text kept : Text} (h : fitBytes room text = kept)
    (hroom : kept.byteSize + 4 ≤ room) : text = kept := by
  induction text generalizing room kept with
  | nil => exact h
  | cons c rest ih =>
      rw [fitBytes] at h
      split_ifs at h with hfit
      · subst h
        have hsize : Text.byteSize (c :: fitBytes (room - c.utf8Size) rest) =
            c.utf8Size + Text.byteSize (fitBytes (room - c.utf8Size) rest) := rfl
        rw [hsize] at hroom
        rw [← ih rfl (by omega)]
      · have hfour := c.utf8Size_le_four
        omega

theorem startsStyleAttribute_of_startsAttribute {text : Text}
    (h : StartsAttribute styleName text) : startsStyleAttribute text := by
  obtain ⟨written, rest, rfl, hname, hequals⟩ := h
  have hlower : Text.lowercase written = styleName := eq_of_fitBytes_eq hname (by decide)
  refine startsStyleAttribute_iff.2 ⟨written, rest, rfl, ?_, ?_⟩
  · rw [← hlower]
    apply List.map_congr_left
    intro c hc
    rw [foldLetter, if_neg]
    -- only the detection takes the long s for an s: a name with it is not that of a style
    rintro rfl
    have hmem : Char.toLower 'ſ' ∈ Text.lowercase written := List.mem_map_of_mem hc
    rw [hlower] at hmem
    exact absurd hmem (by decide)
  · obtain ⟨value, hvalue⟩ := List.head?_eq_some_iff.1 hequals
    have hblank : ∀ c ∈ rest.takeWhile isSpace, Text.isBlank c := fun c hc =>
      isBlank_of_isSpace (List.mem_takeWhile_imp hc)
    rw [← List.takeWhile_append_dropWhile (p := isSpace) (l := rest),
      List.dropWhile_append_of_pos hblank, hvalue]
    rfl

end Markup

/-! ## Line ends -/

/-- A character that is not part of a two-character line end, as it is scanned. -/
def scannedChar (c : Char) : Char :=
  let c := if c = '\r' then '\n' else c
  if c = '\x00' then replacementChar else c

theorem scannedChar_eq_or (c : Char) :
    scannedChar c = c ∨ c = '\r' ∧ scannedChar c = '\n' ∨
      c = '\x00' ∧ scannedChar c = replacementChar := by
  by_cases hreturn : c = '\r'
  · exact Or.inr (Or.inl ⟨hreturn, by rw [hreturn]; rfl⟩)
  · by_cases hnull : c = '\x00'
    · exact Or.inr (Or.inr ⟨hnull, by rw [hnull]; rfl⟩)
    · exact Or.inl (by simp [scannedChar, hreturn, hnull])

theorem normalizeInput_crlf (rest : Text) :
    normalizeInput ('\r' :: '\n' :: rest) = '\n' :: normalizeInput rest := rfl

theorem normalizeInput_cons {c : Char} {rest : Text}
    (h : ∀ others, c = '\r' → rest = '\n' :: others → False) :
    normalizeInput (c :: rest) = scannedChar c :: normalizeInput rest := by
  rw [normalizeInput, Text.normalizeLineEnds, List.map_cons]
  · rfl
  · exact h

/-- Letters are found in the page where they are found in what is scanned. -/
theorem exists_of_normalizeInput_eq {word rest text : Text}
    (h : normalizeInput text = word ++ rest) (hword : ∀ c ∈ word, c ≠ '\n' ∧ c ≠ replacementChar) :
    ∃ others, text = word ++ others ∧ normalizeInput others = rest := by
  induction word generalizing text with
  | nil => exact ⟨text, rfl, h⟩
  | cons x word ih =>
      obtain ⟨⟨hline, hreplaced⟩, hrest⟩ := List.forall_mem_cons.1 hword
      -- scanning changes a character into a line feed or the replacement character only, and the
      -- word has neither of them
      induction text using Text.normalizeLineEnds.induct with
      | case1 => cases h
      | case2 others _ =>
          rw [normalizeInput_crlf] at h
          exact absurd (List.cons.inj h).1.symm hline
      | case3 c others hends _ =>
          rw [normalizeInput_cons hends] at h
          obtain ⟨hx, hothers⟩ := List.cons.inj h
          rcases scannedChar_eq_or c with hc | ⟨-, hc⟩ | ⟨-, hc⟩
          · obtain ⟨after, rfl, hafter⟩ := ih hothers hrest
            exact ⟨after, by rw [← hx, hc, List.cons_append], hafter⟩
          · exact absurd (hx.symm.trans hc) hline
          · exact absurd (hx.symm.trans hc) hreplaced

theorem isBlank_scannedChar (c : Char) : Text.isBlank (scannedChar c) = Text.isBlank c := by
  rcases scannedChar_eq_or c with hc | ⟨rfl, hc⟩ | ⟨rfl, hc⟩
  · rw [hc]
  · rfl
  · rfl

theorem head?_dropWhile_of_normalizeInput {text : Text}
    (h : ((normalizeInput text).dropWhile Text.isBlank).head? = some '=') :
    (text.dropWhile Text.isBlank).head? = some '=' := by
  induction text using Text.normalizeLineEnds.induct with
  | case1 => cases h
  | case2 rest ih => exact ih h
  | case3 c rest hends ih =>
      rw [normalizeInput_cons hends, List.dropWhile_cons, isBlank_scannedChar] at h
      rw [List.dropWhile_cons]
      split_ifs at h ⊢
      · exact ih h
      · have hequals : scannedChar c = '=' := Option.some.inj h
        rcases scannedChar_eq_or c with hc | ⟨-, hc⟩ | ⟨-, hc⟩
        · rw [← hequals, hc]
          rfl
        · rw [hequals] at hc
          exact absurd hc (by decide)
        · rw [hequals] at hc
          exact absurd hc (by decide)

theorem startsStyleAttribute_of_normalizeInput {text : Text}
    (h : startsStyleAttribute (normalizeInput text)) : startsStyleAttribute text := by
  obtain ⟨word, rest, heq, hword, hequals⟩ := startsStyleAttribute_iff.1 h
  have hletters : ∀ c ∈ word, c ≠ '\n' ∧ c ≠ replacementChar := by
    intro c hc
    have hmem : foldLetter c ∈ styleName := hword ▸ List.mem_map_of_mem hc
    constructor
    · rintro rfl
      exact absurd hmem (by decide)
    · rintro rfl
      exact absurd hmem (by decide)
  obtain ⟨others, rfl, hrest⟩ := exists_of_normalizeInput_eq heq hletters
  rw [← hrest] at hequals
  exact startsStyleAttribute_iff.2
    ⟨word, others, rfl, hword, head?_dropWhile_of_normalizeInput hequals⟩

/-- The scanned text mentions a style attribute only if the page does. -/
theorem mentionsStyleAfter_of_normalizeInput {before : Char → Bool}
    (hbefore : ∀ c, before (scannedChar c) → before c) {page : Text}
    (h : mentionsStyleAfter before (normalizeInput page)) : mentionsStyleAfter before page := by
  induction page using Text.normalizeLineEnds.induct with
  | case1 => exact h
  | case2 rest ih =>
      rw [normalizeInput_crlf, mentionsStyleAfter, Bool.or_eq_true, Bool.and_eq_true] at h
      rw [mentionsStyleAfter, mentionsStyleAfter, Bool.or_eq_true, Bool.or_eq_true,
        Bool.and_eq_true _ (startsStyleAttribute rest)]
      right
      exact h.imp (And.imp_right startsStyleAttribute_of_normalizeInput) ih
  | case3 c rest hends ih =>
      rw [normalizeInput_cons hends, mentionsStyleAfter, Bool.or_eq_true, Bool.and_eq_true] at h
      rw [mentionsStyleAfter, Bool.or_eq_true, Bool.and_eq_true]
      exact h.imp (And.imp (hbefore c) startsStyleAttribute_of_normalizeInput) ih

/-! ## Fragments -/

/-- What starts with a tag is no part of a style attribute before it. -/
theorem startsStyleAttribute_of_append_less {text after : Text}
    (h : startsStyleAttribute (text ++ '<' :: after)) : startsStyleAttribute text := by
  obtain ⟨word, rest, heq, hword, hequals⟩ := startsStyleAttribute_iff.1 h
  have hless : ¬((('<' :: after).dropWhile Text.isBlank).head? = some '=') := by
    intro hhead
    exact absurd (Option.some.inj hhead) (by decide)
  -- the word cannot reach into the tag, since it has no `<`; nor can the equals sign stand there
  rcases List.append_eq_append_iff.1 heq with ⟨more, rfl, hafter⟩ | ⟨between, rfl, rfl⟩
  · rcases more with _ | ⟨c, more⟩
    · rw [List.nil_append] at hafter
      exact absurd (hafter ▸ hequals) hless
    · obtain ⟨rfl, -⟩ := List.cons.inj hafter
      have hmem : foldLetter '<' ∈ styleName := hword ▸ List.mem_map_of_mem (by simp)
      exact absurd hmem (by decide)
  · refine startsStyleAttribute_iff.2 ⟨word, between, rfl, hword, ?_⟩
    rw [List.dropWhile_append] at hequals
    split_ifs at hequals with hempty
    · exact absurd hequals hless
    · rwa [List.head?_append_of_ne_nil _ fun hnil => hempty (List.isEmpty_iff.2 hnil)] at hequals

theorem mentionsStyleAfter_append {before : Char → Bool} {opening : Text}
    (h : opening.any before = false) (page : Text) :
    mentionsStyleAfter before (opening ++ page) = mentionsStyleAfter before page := by
  induction opening with
  | nil => rfl
  | cons c opening ih =>
      obtain ⟨hc, hopening⟩ := Bool.or_eq_false_iff.1 h
      rw [List.cons_append, mentionsStyleAfter, hc, ih hopening, Bool.false_and, Bool.false_or]

theorem mentionsStyleAfter_of_append_less {before : Char → Bool} {page after : Text}
    (hafter : mentionsStyleAfter before ('<' :: after) = false)
    (h : mentionsStyleAfter before (page ++ '<' :: after)) : mentionsStyleAfter before page := by
  induction page with
  | nil =>
      rw [List.nil_append, hafter] at h
      exact h
  | cons c page ih =>
      rw [List.cons_append, mentionsStyleAfter, Bool.or_eq_true, Bool.and_eq_true] at h
      rw [mentionsStyleAfter, Bool.or_eq_true, Bool.and_eq_true]
      exact h.imp (And.imp_right startsStyleAttribute_of_append_less) ih

/-! ## Trees of pages -/

/-- A page mentions the attributes that are mentioned in what is scanned of it, whether as a
document or as a fragment. -/
theorem mentionsStyleAfter_of_mentionsAttribute {page : Text}
    (h : MentionsAttribute styleName (normalizeInput page)) :
    mentionsStyleAfter partsAttributes page := by
  obtain ⟨c, text, hsuffix, hc, hstart⟩ := h
  apply mentionsStyleAfter_of_normalizeInput
  · intro d hd
    rcases scannedChar_eq_or d with hscanned | ⟨rfl, -⟩ | ⟨rfl, hscanned⟩
    · rwa [hscanned] at hd
    · rfl
    · rw [hscanned] at hd
      exact absurd hd (by decide)
  · exact mentionsStyleAfter_iff.2
      ⟨c, text, hsuffix, hc, startsStyleAttribute_of_startsAttribute hstart⟩

theorem mentionsStyleAfter_of_wrapped {page : Text}
    (h : mentionsStyleAfter partsAttributes (Fragment.wrapped page)) :
    mentionsStyleAfter partsAttributes page := by
  have hopen : "<html><body>".toList.any partsAttributes = false := rfl
  have hclose : mentionsStyleAfter partsAttributes ('<' :: "/body></html>".toList) = false := rfl
  have hwrapped : Fragment.wrapped page =
      "<html><body>".toList ++ (page ++ '<' :: "/body></html>".toList) :=
    List.append_assoc _ _ _
  rw [hwrapped, mentionsStyleAfter_append hopen] at h
  exact mentionsStyleAfter_of_append_less hclose h

end AtomicCss
