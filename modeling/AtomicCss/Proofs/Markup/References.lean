import AtomicCss.Markup.Token.Scan
import AtomicCss.Proofs.Restyle.Detect
import AtomicCss.Proofs.Text.Repertoire

/-! # What character references bring into a page

Decoding a page brings in the characters that its references stand for, and the replacement
character where the null character stands. A reference is read from letters, digits and three signs
only. So it is the same reference in the page as in a part of it that ends before any other
character, and no part of a page brings in more than the page does. -/

namespace AtomicCss
namespace Markup

/-- The characters that a reference is read from, and those that keep a name from being one. -/
def isReferenceChar (c : Char) : Bool := c.isAlphanum || c = '#' || c = ';' || c = '='

/-- The text goes on with nothing that a reference could be read from. -/
def EndsReference (text : Text) : Prop := ∀ c ∈ text.head?, isReferenceChar c = false

section

variable {tail : Text}

theorem takeWhile_append_of_head? {α : Type} {p : α → Bool} {rest : List α}
    (h : ∀ a ∈ rest.head?, p a = false) (items : List α) :
    (items ++ rest).takeWhile p = items.takeWhile p := by
  induction items with
  | nil =>
      cases rest with
      | nil => rfl
      | cons a rest => exact List.takeWhile_cons_of_neg (by simp [h a rfl])
  | cons a items ih => rw [List.cons_append, List.takeWhile_cons, List.takeWhile_cons, ih]

theorem eq_some_iff_any {o : Option Char} {c : Char} : o = some c ↔ o.any (· = c) := by
  cases o <;> simp

/-- What is asked about the next character is answered alike if the text goes on with one for which
the answer is no. -/
theorem any_head?_drop_append {p : Char → Bool} (h : ∀ c ∈ tail.head?, p c = false)
    {text : Text} {n : Nat} (hn : n ≤ text.length) :
    ((text ++ tail).drop n).head?.any p = (text.drop n).head?.any p := by
  rw [List.drop_append_of_le_length hn]
  cases text.drop n with
  | nil =>
      cases tail with
      | nil => rfl
      | cons c tail => exact h c rfl
  | cons c rest => rfl

theorem EndsReference.imp {p : Char → Bool} (h : EndsReference tail)
    (hp : ∀ c, p c → isReferenceChar c) : ∀ c ∈ tail.head?, p c = false := by
  intro c hc
  have hstop := h c hc
  rw [Bool.eq_false_iff] at hstop ⊢
  exact fun hpc => hstop (hp c hpc)

/-! ## Names -/

theorem ne_nil_and_isAlphanum_of_mem_legacyNames {name : Text} (h : name ∈ legacyNames) :
    name ≠ [] ∧ name.all Char.isAlphanum := by
  have hlines : ∀ line ∈ legacyLines, (Text.splitOn ' ' line.toList).all fun name =>
      name ≠ [] ∧ name.all Char.isAlphanum := by
    simp only [legacyLines, List.forall_mem_cons]
    refine ⟨?_, ?_, ?_, ?_, ?_, ?_, ?_, ?_, nofun⟩
    all_goals rw [String.toList_ofList]; decide +kernel
  obtain ⟨line, hline, hname⟩ := List.mem_flatMap.1 h
  exact of_decide_eq_true (List.all_eq_true.1 (hlines line hline) name hname)

/-- A name stands at the start of a text exactly if it does with more text after it. -/
theorem isPrefixOf_append {name : Text} (hname : name.all Char.isAlphanum)
    (h : EndsReference tail) (text : Text) :
    name.isPrefixOf (text ++ tail) = name.isPrefixOf text := by
  induction text generalizing name with
  | nil =>
      cases name with
      | nil => cases tail <;> rfl
      | cons c name =>
          cases tail with
          | nil => rfl
          | cons d tail =>
              have hne : c ≠ d := by
                rintro rfl
                have hc := List.all_eq_true.1 hname c List.mem_cons_self
                have hstop := h c rfl
                simp [isReferenceChar, hc] at hstop
              simp [List.isPrefixOf, hne]
  | cons d text ih =>
      cases name with
      | nil => rfl
      | cons c name =>
          rw [List.all_cons, Bool.and_eq_true] at hname
          rw [List.cons_append, List.isPrefixOf, List.isPrefixOf, ih hname.2]

theorem longestLegacy?_append (h : EndsReference tail) (text : Text) :
    longestLegacy? (text ++ tail) = longestLegacy? text := by
  have hnames : legacyNames.filter (fun name => name.isPrefixOf (text ++ tail)) =
      legacyNames.filter fun name => name.isPrefixOf text := by
    apply List.filter_congr
    intro name hname
    exact isPrefixOf_append (ne_nil_and_isAlphanum_of_mem_legacyNames hname).2 h text
  rw [longestLegacy?, longestLegacy?, hnames]

theorem prefix_of_longestLegacy? {text name : Text} (h : longestLegacy? text = some name) :
    name <+: text := by
  have hall : ∀ longest ∈ longestLegacy? text, longest <+: text := by
    rw [longestLegacy?]
    apply List.foldlRecOn (motive := fun best : Option Text => ∀ longest ∈ best, longest <+: text)
    · nofun
    · intro best hbest next hnext
      have hprefix := List.isPrefixOf_iff_prefix.1 (List.mem_filter.1 hnext).2
      cases best with
      | none => simpa using hprefix
      | some longest =>
          dsimp only
          split_ifs
          · simpa using hprefix
          · exact hbest
  exact hall name h

theorem head?_drop_append_eq_semicolon (h : EndsReference tail) {text : Text} {n : Nat}
    (hn : n ≤ text.length) :
    ((text ++ tail).drop n).head? = some ';' ↔ (text.drop n).head? = some ';' := by
  rw [eq_some_iff_any, eq_some_iff_any,
    any_head?_drop_append (h.imp fun c hc => by simp_all [isReferenceChar]) hn]

theorem any_blocksLegacy_drop_append (h : EndsReference tail) {text : Text} {n : Nat}
    (hn : n ≤ text.length) :
    ((text ++ tail).drop n).head?.any blocksLegacy = (text.drop n).head?.any blocksLegacy := by
  apply any_head?_drop_append _ hn
  apply h.imp
  intro c hc
  rw [blocksLegacy, Bool.or_eq_true] at hc
  rcases hc with hequals | hletter
  · simp [isReferenceChar, of_decide_eq_true hequals]
  · simp [isReferenceChar, hletter]

theorem readNamed?_append (h : EndsReference tail) (inAttribute : Bool) (text : Text) :
    readNamed? inAttribute (text ++ tail) = readNamed? inAttribute text := by
  have hname : (text ++ tail).takeWhile Char.isAlphanum = text.takeWhile Char.isAlphanum :=
    takeWhile_append_of_head? (h.imp fun c hc => by simp [isReferenceChar, hc]) text
  rw [readNamed?, readNamed?, hname, longestLegacy?_append h]
  simp only [head?_drop_append_eq_semicolon h (List.takeWhile_prefix _).length_le]
  cases hlegacy : longestLegacy? text with
  | none => rfl
  | some legacy =>
      simp only [any_blocksLegacy_drop_append h (prefix_of_longestLegacy? hlegacy).length_le]

/-- No name starts with anything but a letter or a digit. -/
theorem readNamed?_eq_none {c : Char} {rest : Text} (hc : c.isAlphanum = false) (hne : c ≠ ';')
    (inAttribute : Bool) : readNamed? inAttribute (c :: rest) = none := by
  have hlegacy : longestLegacy? (c :: rest) = none := by
    have hnone : (legacyNames.filter fun name => name.isPrefixOf (c :: rest)) = [] := by
      rw [List.filter_eq_nil_iff]
      intro name hname hprefix
      obtain ⟨hne, hletters⟩ := ne_nil_and_isAlphanum_of_mem_legacyNames hname
      cases name with
      | nil => exact hne rfl
      | cons d name =>
          obtain ⟨rfl, -⟩ := List.cons_prefix_cons.1 (List.isPrefixOf_iff_prefix.1 hprefix)
          rw [List.all_cons, hc] at hletters
          cases hletters
    rw [longestLegacy?, hnone]
    rfl
  rw [readNamed?, List.takeWhile_cons_of_neg (by simp [hc]), hlegacy]
  simp [hne]

/-! ## Numbers -/

/-- Hexadecimal digits are letters and digits. -/
theorem hexValue?_eq_none {c : Char} (h : c.isAlphanum = false) : hexValue? c = none := by
  delta Char.isAlphanum Char.isAlpha Char.isUpper Char.isLower Char.isDigit at h
  simp only [Bool.or_eq_false_iff, Bool.and_eq_false_iff, decide_eq_false_iff_not, ge_iff_le,
    UInt32.le_iff_toNat_le] at h
  have hle (first second : Char) : first ≤ second ↔ first.val.toNat ≤ second.val.toNat :=
    UInt32.le_iff_toNat_le
  simp only [hexValue?, hle]
  simp only [Char.reduceVal, UInt32.reduceToNat] at h ⊢
  rw [if_neg (by omega), if_neg (by omega), if_neg (by omega)]

theorem leadingNumber_append (h : EndsReference tail) (base : Nat) (text : Text) :
    leadingNumber base (text ++ tail) = leadingNumber base text ∧
      (leadingNumber base text).2 ≤ text.length := by
  have hdigits : ((text ++ tail).map hexValue?).takeWhile (fun value => value.any (· < base)) =
      (text.map hexValue?).takeWhile fun value => value.any (· < base) := by
    rw [List.map_append]
    apply takeWhile_append_of_head?
    intro value hvalue
    rw [List.head?_map] at hvalue
    obtain ⟨c, hc, rfl⟩ := Option.map_eq_some_iff.1 hvalue
    rw [hexValue?_eq_none (h.imp (fun d hd => by simp [isReferenceChar, hd]) c hc)]
    rfl
  constructor
  · rw [leadingNumber, leadingNumber, hdigits]
  · exact (List.takeWhile_prefix _).length_le.trans_eq (List.length_map _)

theorem readNumeric?_append (h : EndsReference tail) (base : Nat) (text : Text) :
    readNumeric? base (text ++ tail) = readNumeric? base text := by
  obtain ⟨hnumber, hsize⟩ := leadingNumber_append h base text
  simp only [readNumeric?, semicolonWidth, hnumber, head?_drop_append_eq_semicolon h hsize]

/-! ## References -/

theorem readReference?_of_head?_ne {text : Text} (h : text.head? ≠ some '#')
    (inAttribute : Bool) : readReference? inAttribute text = readNamed? inAttribute text := by
  rw [readReference?.eq_def]
  split
  · exact absurd rfl h
  · rfl

/-- A number sign alone is no reference, and neither is one before anything but letters and
digits. -/
theorem readReference?_hash (h : EndsReference tail) (inAttribute : Bool) :
    readReference? inAttribute ('#' :: tail) = none := by
  cases tail with
  | nil =>
      have hletter : '#'.isAlphanum = false := by decide
      rw [readReference?]
      · exact readNamed?_eq_none hletter (by decide) inAttribute
      · intro c rest hcons
        cases hcons
  | cons c tail =>
      have hletter : c.isAlphanum = false := h.imp (fun d hd => by simp [isReferenceChar, hd]) c rfl
      have hx : ¬(c = 'x' ∨ c = 'X') := by
        rintro (rfl | rfl)
        · exact absurd hletter (by decide)
        · exact absurd hletter (by decide)
      have hnumber := readNumeric?_append h 10 []
      rw [List.nil_append] at hnumber
      rw [readReference?, if_neg hx, hnumber]
      rfl

/-- A reference is the same whatever comes after the characters that it is read from. -/
theorem readReference?_append (h : EndsReference tail) (inAttribute : Bool) (text : Text) :
    readReference? inAttribute (text ++ tail) = readReference? inAttribute text := by
  have hnamed := readNamed?_append h inAttribute text
  rcases text with _ | ⟨c, _ | ⟨d, rest⟩⟩
  · have hhead : tail.head? ≠ some '#' := by
      intro hhash
      exact absurd (h '#' hhash) (by decide)
    rw [List.nil_append, readReference?_of_head?_ne hhead]
    exact hnamed
  · by_cases hc : c = '#'
    · subst hc
      have hnone : EndsReference [] := by
        intro c hc
        cases hc
      rw [List.singleton_append, readReference?_hash h, readReference?_hash hnone]
    · have hhead (after : Text) : (c :: after).head? ≠ some '#' := by simpa using hc
      rw [List.singleton_append, readReference?_of_head?_ne (hhead tail),
        readReference?_of_head?_ne (hhead [])]
      exact hnamed
  · by_cases hc : c = '#'
    · subst hc
      rw [List.cons_append, List.cons_append, readReference?, readReference?,
        readNumeric?_append h, ← List.cons_append, readNumeric?_append h]
    · have hhead (after : Text) : (c :: after).head? ≠ some '#' := by simpa using hc
      rw [List.cons_append, readReference?_of_head?_ne (hhead (d :: rest ++ tail)),
        readReference?_of_head?_ne (hhead (d :: rest))]
      exact hnamed

end

/-- What is a reference in an attribute is the same reference in a text. -/
theorem readReference?_of_inAttribute {text characters : Text} {size : Nat} {inAttribute : Bool}
    (h : readReference? inAttribute text = some (characters, size)) :
    readReference? false text = some (characters, size) := by
  have hnamed (h : readNamed? inAttribute text = some (characters, size)) :
      readNamed? false text = some (characters, size) := by
    rw [readNamed?] at h ⊢
    split at h
    · exact h
    · cases hlegacy : longestLegacy? text with
      | none => rw [hlegacy] at h; cases h
      | some legacy =>
          rw [hlegacy] at h
          dsimp only at h ⊢
          split_ifs at h
          exact h
  rw [readReference?.eq_def] at h ⊢
  split at h
  · exact h
  · exact hnamed h

/-! ## What a page brings in -/

/-- What the character at a place brings in: what the reference that starts there stands for, or the
replacement character in the place of the null character. -/
def broughtAt (c : Char) (rest : Text) : Text :=
  if c = '&' then ((readReference? false rest).map Prod.fst).getD []
  else if c = '\x00' then [replacementChar]
  else []

/-- The characters that reading a text brings in, at one place of it after the other. -/
def broughtIn : Text → Text
  | [] => []
  | c :: rest => broughtAt c rest ++ broughtIn rest

theorem broughtAt_append {back : Text} (h : EndsReference back) (c : Char) (front : Text) :
    broughtAt c (front ++ back) = broughtAt c front := by
  rw [broughtAt, broughtAt, readReference?_append h]

/-- Where a text is cut after a reference, each part brings in its own characters. -/
theorem broughtIn_append {back : Text} (h : EndsReference back) (front : Text) :
    broughtIn (front ++ back) = broughtIn front ++ broughtIn back := by
  induction front with
  | nil => rfl
  | cons c front ih =>
      rw [List.cons_append, broughtIn, broughtIn, broughtAt_append h, ih, List.append_assoc]

/-- A text without ampersands and null characters brings in nothing. -/
theorem broughtIn_append_of_plain {front : Text} (h : ∀ c ∈ front, c ≠ '&' ∧ c ≠ '\x00')
    (back : Text) : broughtIn (front ++ back) = broughtIn back := by
  induction front with
  | nil => rfl
  | cons c front ih =>
      obtain ⟨⟨hampersand, hnull⟩, hfront⟩ := List.forall_mem_cons.1 h
      rw [List.cons_append, broughtIn, broughtAt, if_neg hampersand, if_neg hnull, ih hfront,
        List.nil_append]

/-- An end of a text brings in no more than the text. -/
theorem broughtIn_suffix {back text : Text} (h : back <:+ text) :
    broughtIn back <:+ broughtIn text := by
  induction text with
  | nil => rw [List.suffix_nil.1 h]
  | cons c rest ih =>
      rcases List.suffix_cons_iff.1 h with rfl | h
      · exact List.suffix_refl _
      · exact (ih h).trans (List.suffix_append _ _)

/-! ## What is scanned of a page -/

/-- Scanning leaves the characters of references alone. -/
theorem takeWhile_normalizeInput (page : Text) :
    (normalizeInput page).takeWhile isReferenceChar = page.takeWhile isReferenceChar := by
  induction page using Text.normalizeLineEnds.induct with
  | case1 => rfl
  | case2 rest ih => rfl
  | case3 c rest hends ih =>
      rw [normalizeInput_cons hends]
      rcases scannedChar_eq_or c with hc | ⟨rfl, hc⟩ | ⟨rfl, hc⟩
      · rw [hc, List.takeWhile_cons, List.takeWhile_cons, ih]
      · rfl
      · rfl

theorem readReference?_takeWhile (inAttribute : Bool) (text : Text) :
    readReference? inAttribute (text.takeWhile isReferenceChar) =
      readReference? inAttribute text := by
  have hends : EndsReference (text.dropWhile isReferenceChar) := by
    intro c hc
    have hhead := List.head?_dropWhile_not isReferenceChar text
    rw [Option.mem_def.1 hc] at hhead
    exact hhead
  calc readReference? inAttribute (text.takeWhile isReferenceChar)
      = readReference? inAttribute
          (text.takeWhile isReferenceChar ++ text.dropWhile isReferenceChar) :=
        (readReference?_append hends _ _).symm
    _ = readReference? inAttribute text := by rw [List.takeWhile_append_dropWhile]

theorem readReference?_normalizeInput (inAttribute : Bool) (page : Text) :
    readReference? inAttribute (normalizeInput page) = readReference? inAttribute page := by
  rw [← readReference?_takeWhile, takeWhile_normalizeInput, readReference?_takeWhile]

/-- What is scanned brings in no more than the page does. -/
theorem broughtIn_normalizeInput_subset (page : Text) :
    broughtIn (normalizeInput page) ⊆ broughtIn page := by
  induction page using Text.normalizeLineEnds.induct with
  | case1 => exact List.Subset.refl _
  | case2 rest ih => exact ih
  | case3 c rest hends ih =>
      rw [normalizeInput_cons hends, broughtIn, broughtIn]
      rcases scannedChar_eq_or c with hc | ⟨rfl, hc⟩ | ⟨rfl, hc⟩
      · rw [hc, broughtAt, broughtAt, readReference?_normalizeInput]
        exact List.append_subset.2
          ⟨List.subset_append_left _ _, List.subset_append_of_subset_right _ ih⟩
      · exact ih
      · exact List.subset_append_of_subset_right _ ih

/-- A character that is scanned is one of the page, a line feed, or brought in by the page. -/
theorem mem_normalizeInput {c : Char} {page : Text} (h : c ∈ normalizeInput page) :
    c ∈ page ∨ c = '\n' ∨ c ∈ broughtIn page := by
  induction page using Text.normalizeLineEnds.induct with
  | case1 => cases h
  | case2 rest ih =>
      rw [normalizeInput_crlf] at h
      rcases List.mem_cons.1 h with rfl | h
      · exact Or.inr (Or.inl rfl)
      · exact (ih h).imp_left fun hmem => by simp [hmem]
  | case3 d rest hends ih =>
      rw [normalizeInput_cons hends] at h
      rcases List.mem_cons.1 h with rfl | h
      · rcases scannedChar_eq_or d with hd | ⟨-, hd⟩ | ⟨rfl, hd⟩
        · exact Or.inl (by simp [hd])
        · exact Or.inr (Or.inl hd)
        · exact Or.inr (Or.inr (List.mem_cons_self))
      · rcases ih h with hmem | hline | hmem
        · exact Or.inl (List.mem_cons_of_mem d hmem)
        · exact Or.inr (Or.inl hline)
        · exact Or.inr (Or.inr (List.mem_append_right _ hmem))

end Markup

open Markup

/-- Everything that is read of a text is in a repertoire: the characters of the text, and those that
reading brings in. -/
structure Repertoire.Reads (repertoire : Repertoire) (text : Text) : Prop where
  spells : repertoire.Spells text
  broughtIn : repertoire.Spells (Markup.broughtIn text)

namespace Repertoire

variable {repertoire : Repertoire} {text front back : Text}

theorem Reads.suffix (h : repertoire.Reads text) (hback : back <:+ text) :
    repertoire.Reads back :=
  ⟨h.spells.subset hback.subset, h.broughtIn.subset (broughtIn_suffix hback).subset⟩

/-- The part of a text before a character that ends references. -/
theorem Reads.before (h : repertoire.Reads (front ++ back)) (hback : EndsReference back) :
    repertoire.Reads front := by
  obtain ⟨hspells, hbrought⟩ := h
  rw [broughtIn_append hback] at hbrought
  exact ⟨(spells_append.1 hspells).1, (spells_append.1 hbrought).1⟩

theorem Reads.takeWhile (h : repertoire.Reads text) {p : Char → Bool}
    (hp : ∀ c, p c = false → isReferenceChar c = false) :
    repertoire.Reads (text.takeWhile p) := by
  rw [← List.takeWhile_append_dropWhile (p := p) (l := text)] at h
  apply h.before
  intro c hc
  have hhead := List.head?_dropWhile_not p text
  rw [Option.mem_def.1 hc] at hhead
  exact hp c hhead

theorem Reads.characters (h : repertoire.Reads ('&' :: text)) {inAttribute : Bool}
    {characters : Text} {size : Nat}
    (hread : readReference? inAttribute text = some (characters, size)) :
    repertoire.Spells characters := by
  have hbrought := (spells_append.1 h.broughtIn).1
  rw [broughtAt, if_pos rfl, readReference?_of_inAttribute hread] at hbrought
  exact hbrought

/-- Decoding gives characters of the text and characters that reading it brings in. -/
theorem Reads.decodeAfter (h : repertoire.Reads text) (inAttribute : Bool) (skipped : Nat) :
    repertoire.Spells (Markup.decodeAfter inAttribute skipped text) := by
  induction text generalizing skipped with
  | nil => cases skipped <;> exact spells_nil
  | cons c rest ih =>
      have hrest := ih (h.suffix (List.suffix_cons c rest))
      cases skipped with
      | succ skipped => exact hrest skipped
      | zero =>
          have hc := (spells_cons.1 h.spells).1
          rw [Markup.decodeAfter]
          split_ifs with hampersand
          · subst hampersand
            split
            · rename_i characters size hread
              exact spells_append.2 ⟨h.characters hread, hrest size⟩
            · exact spells_cons.2 ⟨hc, hrest 0⟩
          · exact spells_cons.2 ⟨hc, hrest 0⟩

theorem Reads.decodeReferences (h : repertoire.Reads text) (inAttribute : Bool) :
    repertoire.Spells (Markup.decodeReferences inAttribute text) := h.decodeAfter inAttribute 0

theorem Reads.normalizeInput (h : repertoire.Reads text) :
    repertoire.Reads (Markup.normalizeInput text) where
  spells := by
    intro c hc
    rcases mem_normalizeInput hc with hmem | rfl | hmem
    · exact h.spells c hmem
    · exact repertoire.ascii _ (by decide)
    · exact h.broughtIn c hmem
  broughtIn := h.broughtIn.subset (broughtIn_normalizeInput_subset text)

/-- The tags that are put around a fragment bring in nothing. -/
theorem Reads.wrapped (h : repertoire.Reads text) : repertoire.Reads (Fragment.wrapped text) := by
  have hwrapped : Fragment.wrapped text =
      "<html><body>".toList ++ (text ++ "</body></html>".toList) := List.append_assoc _ _ _
  have hend : EndsReference "</body></html>".toList := by
    intro c hc
    rw [← Option.some.inj hc]
    rfl
  have hopenPlain : ∀ c ∈ "<html><body>".toList, c ≠ '&' ∧ c ≠ '\x00' := by simp
  have hclosePlain : ∀ c ∈ "</body></html>".toList, c ≠ '&' ∧ c ≠ '\x00' := by simp
  have hclose : Markup.broughtIn "</body></html>".toList = [] := by
    rw [← List.append_nil "</body></html>".toList]
    exact broughtIn_append_of_plain hclosePlain []
  rw [hwrapped]
  constructor
  · rw [spells_append, spells_append]
    exact ⟨spells_toList rfl (by decide), h.spells, spells_toList rfl (by decide)⟩
  · rw [broughtIn_append_of_plain hopenPlain, broughtIn_append hend, hclose, List.append_nil]
    exact h.broughtIn

end Repertoire
end AtomicCss
