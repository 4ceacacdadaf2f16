import AtomicCss.Proofs.Markup.Plain
import AtomicCss.Proofs.Markup.StyleBlock
import AtomicCss.Proofs.OrderedMap

/-! # Reading back tags

Escaping a text or a value and decoding its references gives it back. So the tag of a plain element
is read as it is written: its name, and its attributes one after the other, with their values. -/

namespace AtomicCss.Markup

/-! ## Characters -/

theorem isInnerChar_iff {c : Char} : isInnerChar c ↔ isPlainChar c ∧ c ≠ '<' := by
  simp [isInnerChar]

theorem isPlainNameChar_iff {c : Char} :
    isPlainNameChar c ↔ isInnerChar c ∧ endsName c = false ∧ c ≠ '=' := by
  simp [isPlainNameChar, and_assoc]

/-- A character is escaped as in the attribute of a block, or stays as it is. -/
theorem escapeChar_cases (c : Char) :
    escapeChar c = escapeAttributeChar c ∨ escapeChar c = [c] ∧ c ∉ ['&', '<', '>'] := by
  rw [escapeChar, escapeAttributeChar]
  split_ifs with hand hless hgreater
  · exact Or.inl rfl
  · exact Or.inl rfl
  · exact Or.inl rfl
  · simp [*]
  · simp [*]
  · simp [*]

/-- The characters that a character is escaped with. -/
theorem mem_escapeChar {c d : Char} (h : d ∈ escapeChar c) :
    d ∈ "&amp;lgt".toList ∨ d = c ∧ c ∉ ['&', '<', '>'] := by
  rw [escapeChar] at h
  have hreference {reference : Text} (hsubset : reference ⊆ "&amp;lgt".toList)
      (hd : d ∈ reference) : d ∈ "&amp;lgt".toList := hsubset hd
  split_ifs at h
  · exact Or.inl (hreference (by decide) h)
  · exact Or.inl (hreference (by decide) h)
  · exact Or.inl (hreference (by decide) h)
  · exact Or.inr ⟨List.mem_singleton.1 h, by simp [*]⟩

/-- What holds of the characters of references and of those that are not escaped holds of an escaped
text. -/
theorem all_escapeText {p : Char → Bool} (hreference : "&amp;lgt".toList.all p) {text : Text}
    (h : ∀ c ∈ text, c ∉ ['&', '<', '>'] → p c) : (escapeText text).all p := by
  rw [List.all_eq_true]
  intro d hd
  obtain ⟨c, hc, hmem⟩ := List.mem_flatMap.1 hd
  rcases mem_escapeChar hmem with href | ⟨rfl, hescaped⟩
  · exact List.all_eq_true.1 hreference d href
  · exact h d hc hescaped

theorem all_isInnerChar_escapeText {text : Text} (h : text.all isPlainChar) :
    (escapeText text).all isInnerChar := by
  refine all_escapeText (by decide) fun c hc hescaped => isInnerChar_iff.2 ⟨?_, ?_⟩
  · exact List.all_eq_true.1 h c hc
  · rintro rfl
    exact hescaped (by decide)

/-- Decoding undoes an escape that replaces each character by a reference to it, or not at all. -/
theorem decodeReferences_flatMap {escape : Char → Text}
    (h : ∀ c, escape c = escapeAttributeChar c ∨ escape c = [c] ∧ c ≠ '&') (inAttribute : Bool)
    (text : Text) : decodeReferences inAttribute (text.flatMap escape) = text := by
  rw [decodeReferences]
  induction text with
  | nil => rfl
  | cons c text ih =>
      rw [List.flatMap_cons]
      rcases h c with hescape | ⟨hescape, hc⟩
      · rw [hescape, decodeAfter_escapeAttributeChar, ih]
      · rw [hescape, List.singleton_append, decodeAfter, if_neg hc, ih]

theorem decodeReferences_escapeText (inAttribute : Bool) (text : Text) :
    decodeReferences inAttribute (escapeText text) = text := by
  refine decodeReferences_flatMap (fun c => ?_) inAttribute text
  rcases escapeChar_cases c with h | ⟨h, hc⟩
  · exact Or.inl h
  · exact Or.inr ⟨h, by rintro rfl; exact hc (by decide)⟩

theorem escapeText_ne_nil {text : Text} (h : text ≠ []) : escapeText text ≠ [] := by
  rintro hnil
  have hdecode := decodeReferences_escapeText false text
  rw [hnil] at hdecode
  exact h hdecode.symm

/-! ## Values -/

/-- Nothing of a plain value is written as it stands. -/
theorem escapeValue_of_isPlainValue {value : Text} (h : IsPlainValue value) :
    escapeValue value = escapeText value := by
  have hescaped := h.escaped
  clear h
  rw [escapeValue]
  induction value with
  | nil => rfl
  | cons c value ih =>
      have hwidth : verbatimWidth (c :: value) = 0 := by
        have hstart {start : Text} (hstart : start ∈ verbatimStarts) :
            start.isPrefixOf (c :: value) = false := by
          rw [Bool.eq_false_iff, Ne, List.isPrefixOf_iff_prefix]
          exact fun hprefix => hescaped start hstart hprefix.isInfix
        rw [verbatimWidth, hstart (by decide), hstart (by decide)]
        rfl
      rw [escapeValueAfter, hwidth, escapeText, List.flatMap_cons, ← escapeText, ← ih]
      exact fun start hmem hoccurs =>
        hescaped start hmem (hoccurs.trans (List.suffix_cons c _).isInfix)

/-- An address in which every character may stand is written as it is. -/
theorem escapeAddress_of_all {address : Text} (h : address.all isAddressChar) :
    escapeAddress address = address := by
  have hdrop : address.dropWhile (fun c => c = ' ' || c = '\t' || c = '\n' || c = '\r') =
      address := by
    cases address with
    | nil => rfl
    | cons c rest =>
        have hc := List.all_eq_true.1 h c List.mem_cons_self
        apply List.dropWhile_cons_of_neg
        intro hblank
        simp only [Bool.or_eq_true, decide_eq_true_iff] at hblank
        rcases hblank with ((rfl | rfl) | rfl) | rfl
        all_goals exact absurd hc (by decide)
  rw [escapeAddress, hdrop]
  have hsingle : address.flatMap (fun c =>
      if isAddressChar c then [c] else (String.utf8EncodeChar c).flatMap percentByte) =
        address.flatMap fun c => [c] := by
    apply List.flatMap_congr
    intro c hc
    rw [if_pos (List.all_eq_true.1 h c hc)]
  rw [hsingle, List.flatMap_singleton']

/-- A character of a value between double quotes. -/
def escapeQuotedChar (c : Char) : Text := if c = '"' then "&quot;".toList else escapeChar c

theorem flatMap_escapeChar (c : Char) :
    ((escapeChar c).flatMap fun d => if d = '"' then "&quot;".toList else [d]) =
      escapeQuotedChar c := by
  rw [escapeQuotedChar]
  split_ifs with hquote
  · rw [hquote]
    rfl
  · rw [escapeChar]
    split_ifs
    · rfl
    · rfl
    · rfl
    · rw [List.flatMap_singleton, if_neg hquote]

theorem mem_escapeQuotedChar {c d : Char} (h : d ∈ escapeQuotedChar c) :
    d ∈ "&amp;ltgquo".toList ∨ d = c ∧ c ∉ ['<', '"'] := by
  rw [escapeQuotedChar] at h
  split_ifs at h with hquote
  · have hsubset : "&quot;".toList ⊆ "&amp;ltgquo".toList := by decide
    exact Or.inl (hsubset h)
  · have hsubset : "&amp;lgt".toList ⊆ "&amp;ltgquo".toList := by decide
    rcases mem_escapeChar h with hmem | ⟨rfl, hmem⟩
    · exact Or.inl (hsubset hmem)
    · have hless : d ≠ '<' := by
        rintro rfl
        exact hmem (by decide)
      exact Or.inr ⟨rfl, by simp [hless, hquote]⟩

theorem decodeReferences_escapeQuoted (inAttribute : Bool) (value : Text) :
    decodeReferences inAttribute (value.flatMap escapeQuotedChar) = value := by
  refine decodeReferences_flatMap (fun c => ?_) inAttribute value
  rw [escapeQuotedChar]
  split_ifs with hquote
  · subst hquote
    exact Or.inl rfl
  · rcases escapeChar_cases c with h | ⟨h, hc⟩
    · exact Or.inl h
    · exact Or.inr ⟨h, by rintro rfl; exact hc (by decide)⟩

/-- A value is written between two quotes, with its characters and those of references, and decoding
what stands between the quotes gives the value. -/
theorem exists_quoteValue_eq (value : Text) :
    ∃ quote body, quoteValue (escapeText value) = quote :: (body ++ [quote]) ∧
      (quote = '"' ∨ quote = '\'') ∧ quote ∉ body ∧
      (value.all isPlainChar → body.all isInnerChar) ∧
      decodeReferences true body = value := by
  rw [quoteValue]
  split_ifs with h
  · exact ⟨'\'', escapeText value, rfl, Or.inr rfl, h.2, all_isInnerChar_escapeText,
      decodeReferences_escapeText true value⟩
  · -- a double quote becomes a reference once all else is escaped, so that it is not escaped twice
    have hbody : (escapeText value).flatMap (fun c => if c = '"' then "&quot;".toList else [c]) =
        value.flatMap escapeQuotedChar := by
      rw [escapeText, List.flatMap_assoc]
      exact List.flatMap_congr fun c _ => flatMap_escapeChar c
    have hmem {d : Char} (hd : d ∈ value.flatMap escapeQuotedChar) :
        d ∈ "&amp;ltgquo".toList ∨ d ∈ value ∧ d ∉ ['<', '"'] := by
      obtain ⟨c, hc, hcd⟩ := List.mem_flatMap.1 hd
      exact (mem_escapeQuotedChar hcd).imp_right fun ⟨heq, hne⟩ => heq ▸ ⟨hc, hne⟩
    rw [hbody, List.cons_append]
    refine ⟨'"', _, rfl, Or.inl rfl, ?_, ?_, decodeReferences_escapeQuoted true value⟩
    · intro hquote
      rcases hmem hquote with hreference | ⟨-, hne⟩
      · exact absurd hreference (by decide)
      · exact hne (by decide)
    · intro hplain
      have hall : "&amp;ltgquo".toList.all isInnerChar := by decide
      rw [List.all_eq_true] at hplain ⊢
      intro d hd
      rcases hmem hd with hreference | ⟨hvalue, hne⟩
      · exact List.all_eq_true.1 hall d hreference
      · refine isInnerChar_iff.2 ⟨hplain d hvalue, ?_⟩
        rintro rfl
        exact hne (by decide)

/-- A value between quotes is read back. -/
theorem readAttributeValue_quoteValue (value rest : Text) :
    readAttributeValue (quoteValue (escapeText value) ++ rest) = (value, rest) := by
  obtain ⟨quote, body, hquoted, hquote, hbody, -, hdecode⟩ := exists_quoteValue_eq value
  have hspan : (body ++ quote :: rest).span (· ≠ quote) = (body, quote :: rest) := by
    apply span_append_cons
    · rw [List.all_eq_true]
      intro c hc
      rw [decide_eq_true_eq]
      rintro rfl
      exact hbody hc
    · simp
  have htext : quoteValue (escapeText value) ++ rest = quote :: (body ++ quote :: rest) := by
    rw [hquoted, List.cons_append, List.append_assoc, List.singleton_append]
  rw [htext]
  rcases hquote with rfl | rfl
  · simp only [readAttributeValue, hspan, List.drop_one, List.tail_cons, hdecode]
  · simp only [readAttributeValue, hspan, List.drop_one, List.tail_cons, hdecode]

/-! ## Names -/

theorem IsPlainName.notEndsName {name : Text} (h : IsPlainName name) :
    name.all fun c => !endsName c := by
  rw [List.all_eq_true]
  intro c hc
  rw [(isPlainNameChar_iff.1 (List.all_eq_true.1 h.chars c hc)).2.1]
  rfl

/-- A name ends where a character follows that ends names. -/
theorem readName_of_isPlainName {name : Text} (h : IsPlainName name) {c : Char} (hc : endsName c)
    (rest : Text) : readName (name ++ c :: rest) = (name, c :: rest) := by
  simp only [readName, span_append_cons h.notEndsName (by simp [hc] : (!endsName c) = false),
    h.fold]

section

variable {first : Char} {more : Text}

theorem span_name (h : IsPlainName (first :: more)) {c : Char}
    (hc : (!endsName c && c ≠ '=') = false) (rest : Text) :
    (more ++ c :: rest).span (fun c => !endsName c && c ≠ '=') = (more, c :: rest) := by
  apply span_append_cons
  · rw [List.all_eq_true]
    intro d hd
    obtain ⟨-, hends, hequals⟩ :=
      isPlainNameChar_iff.1 (List.all_eq_true.1 h.chars d (List.mem_cons_of_mem _ hd))
    simp [hends, hequals]
  · exact hc

/-- An attribute with a value is read back. -/
theorem readAttribute_value (h : IsPlainName (first :: more)) (value rest : Text) :
    readAttribute first (more ++ '=' :: (quoteValue (escapeText value) ++ rest)) =
      (first :: more, some value, rest) := by
  have hequals (quoted : Text) : ('=' :: quoted).dropWhile isSpace = '=' :: quoted :=
    List.dropWhile_cons_of_neg (by decide)
  have hquote : (quoteValue (escapeText value) ++ rest).dropWhile isSpace =
      quoteValue (escapeText value) ++ rest := by
    obtain ⟨quote, body, hquoted, hquote, -⟩ := exists_quoteValue_eq value
    rw [hquoted, List.cons_append]
    apply List.dropWhile_cons_of_neg
    rcases hquote with rfl | rfl
    · decide
    · decide
  have hspan (quoted : Text) :
      (more ++ '=' :: quoted).span (fun c => !endsName c && c ≠ '=') = (more, '=' :: quoted) :=
    span_name h (by decide) quoted
  simp only [readAttribute, hspan, hequals, hquote, h.fold, readAttributeValue_quoteValue]

/-- An attribute without a value is read back, and the white space after it is skipped. -/
theorem readAttribute_bare (h : IsPlainName (first :: more)) {c : Char} (hc : endsName c)
    {rest : Text} (hequals : ((c :: rest).dropWhile isSpace).head? ≠ some '=') :
    readAttribute first (more ++ c :: rest) =
      (first :: more, none, (c :: rest).dropWhile isSpace) := by
  simp only [readAttribute, span_name h (by simp [hc] : (!endsName c && c ≠ '=') = false), h.fold]
  split
  · rename_i value heq
    rw [heq] at hequals
    exact absurd rfl hequals
  · rfl

end

/-! ## Attributes -/

theorem skipGap_cons_of_isSpace {c : Char} (h : isSpace c) (rest : Text) :
    skipGap (c :: rest) = skipGap rest := by
  rw [skipGap, h, Bool.true_or, if_pos rfl]

theorem skipGap_dropWhile (text : Text) : skipGap (text.dropWhile isSpace) = skipGap text := by
  induction text with
  | nil => rfl
  | cons c rest ih =>
      rw [List.dropWhile_cons]
      split_ifs with hc
      · rw [ih, skipGap_cons_of_isSpace hc]
      · rfl

theorem skipGap_cons_of_not_endsName {c : Char} (h : endsName c = false) (rest : Text) :
    skipGap (c :: rest) = c :: rest := by
  simp only [endsName, Bool.or_eq_false_iff, decide_eq_false_iff_not] at h
  rw [skipGap, if_neg]
  simp [h.1.1, h.1.2]

theorem readAttributesFor_of_greater {text rest : Text} (h : skipGap text = '>' :: rest)
    (rounds : Nat) (attributes : Attributes) :
    readAttributesFor (rounds + 1) attributes text = some (⟨attributes, false⟩, rest) := by
  simp only [readAttributesFor, h]

theorem readAttributesFor_of_name {text rest after name : Text} {first : Char}
    (h : skipGap text = first :: rest) (hfirst : endsName first = false) {value : Option Text}
    (hread : readAttribute first rest = (name, value, after)) {attributes : Attributes}
    (hnew : name ∉ OrderedMap.names attributes) (rounds : Nat) :
    readAttributesFor (rounds + 1) attributes text =
      readAttributesFor rounds (attributes ++ [(name, value)]) after := by
  have hset : OrderedMap.set name value attributes = attributes ++ [(name, value)] :=
    OrderedMap.alter_of_notMem hnew _
  have hhas : OrderedMap.has name attributes = false := by
    rw [OrderedMap.has, OrderedMap.get?_eq_none_iff.2 hnew]
    rfl
  rw [readAttributesFor, h]
  split
  · rename_i heq
    cases heq
  · rename_i heq
    obtain ⟨rfl, -⟩ := List.cons.inj heq
    cases hfirst
  · rename_i heq
    obtain ⟨rfl, -⟩ := List.cons.inj heq
    cases hfirst
  · rename_i heq
    obtain ⟨rfl, rfl⟩ := List.cons.inj heq
    simp only [hread, hhas, Bool.false_eq_true, if_false, hset]

/-- The attributes of an element with this tag. -/
def printAttributes (tag : Text) (attributes : Attributes) : Text :=
  attributes.flatMap fun (name, value) => printAttribute tag name value

/-- What is written of an attribute after its name. -/
def printValue : Option Text → Text
  | none => []
  | some value => '=' :: quoteValue (escapeText value)

variable {tag : Text}

theorem printAttribute_of_isPlainAttribute {name : Text} {value : Option Text}
    (h : IsPlainAttribute tag (name, value)) :
    printAttribute tag name value = ' ' :: (name ++ printValue value) := by
  cases value with
  | none => simp [printAttribute, printValue]
  | some value =>
      have hboolean : ¬booleanAttributes.any (·.toList = name) := fun hany =>
        absurd (h.boolean hany) (by simp)
      have haddress : holdsAddress tag name → escapeAddress (escapeText value) = escapeText value :=
        fun hholds => escapeAddress_of_all (all_escapeText (by decide) fun c hc _ =>
          List.all_eq_true.1 (h.address hholds value rfl) c hc)
      rw [printAttribute, if_neg hboolean, escapeValue_of_isPlainValue (h.value value rfl)]
      dsimp only [printValue]
      split_ifs with hholds
      · rw [haddress hholds, List.cons_append, List.cons_append, List.append_assoc,
          List.singleton_append]
      · rw [List.cons_append, List.cons_append, List.append_assoc, List.singleton_append]

theorem printAttributes_cons {name : Text} {value : Option Text}
    (h : IsPlainAttribute tag (name, value)) (attributes : Attributes) :
    printAttributes tag ((name, value) :: attributes) =
      ' ' :: (name ++ (printValue value ++ printAttributes tag attributes)) := by
  rw [printAttributes, List.flatMap_cons, ← printAttributes]
  dsimp only
  rw [printAttribute_of_isPlainAttribute h, List.cons_append, List.append_assoc]

/-- What follows an attribute in a tag: the next one, or the end of the tag. -/
theorem exists_printAttributes_append {attributes : Attributes}
    (h : ∀ entry ∈ attributes, IsPlainAttribute tag entry) (rest : Text) :
    ∃ c tail, printAttributes tag attributes ++ '>' :: rest = c :: tail ∧ endsName c ∧
      ((c :: tail).dropWhile isSpace).head? ≠ some '=' := by
  cases attributes with
  | nil => exact ⟨'>', rest, rfl, by decide, by simp [List.dropWhile, isSpace]⟩
  | cons entry attributes =>
      obtain ⟨name, value⟩ := entry
      have hentry := h (name, value) List.mem_cons_self
      obtain ⟨first, more, rfl⟩ := List.exists_cons_of_ne_nil hentry.name.nonempty
      obtain ⟨-, hends, hequals⟩ :=
        isPlainNameChar_iff.1 (List.all_eq_true.1 hentry.name.chars first List.mem_cons_self)
      have hspace : ¬isSpace first := fun hspace => by
        rw [endsName, hspace] at hends
        cases hends
      rw [printAttributes_cons hentry, List.cons_append]
      refine ⟨' ', _, rfl, by decide, ?_⟩
      rw [List.dropWhile_cons_of_pos (by decide), List.cons_append, List.cons_append,
        List.dropWhile_cons_of_neg hspace, List.head?_cons]
      exact fun heq => hequals (Option.some.inj heq)

/-- The attributes of a tag are read one after the other, up to its end. -/
theorem readAttributesFor_printAttributes {before attributes : Attributes}
    (h : ∀ entry ∈ attributes, IsPlainAttribute tag entry)
    (hnames : (OrderedMap.names (before ++ attributes)).Nodup) {rounds : Nat}
    (hrounds : attributes.length < rounds) {text rest : Text}
    (htext : skipGap text = skipGap (printAttributes tag attributes ++ '>' :: rest)) :
    readAttributesFor rounds before text = some (⟨before ++ attributes, false⟩, rest) := by
  induction attributes generalizing before rounds text with
  | nil =>
      obtain ⟨rounds, rfl⟩ := Nat.exists_eq_succ_of_ne_zero (Nat.ne_of_gt hrounds)
      rw [List.append_nil]
      exact readAttributesFor_of_greater htext rounds before
  | cons entry attributes ih =>
      obtain ⟨name, value⟩ := entry
      obtain ⟨rounds, rfl⟩ :=
        Nat.exists_eq_succ_of_ne_zero (Nat.ne_of_gt (Nat.zero_lt_of_lt hrounds))
      obtain ⟨hentry, hattributes⟩ := List.forall_mem_cons.1 h
      obtain ⟨first, more, rfl⟩ := List.exists_cons_of_ne_nil hentry.name.nonempty
      have hends : endsName first = false :=
        (isPlainNameChar_iff.1
          (List.all_eq_true.1 hentry.name.chars first List.mem_cons_self)).2.1
      -- a name that is set again would stay where it is
      have hnew : first :: more ∉ OrderedMap.names before := by
        rw [OrderedMap.names, List.map_append, List.map_cons] at hnames
        exact fun hmem => List.disjoint_of_nodup_append hnames hmem List.mem_cons_self
      have hrest {after : Text}
          (hafter : skipGap after = skipGap (printAttributes tag attributes ++ '>' :: rest)) :
          readAttributesFor rounds (before ++ [(first :: more, value)]) after =
            some (⟨before ++ (first :: more, value) :: attributes, false⟩, rest) := by
        rw [List.append_cons] at hnames
        rw [ih hattributes hnames (Nat.lt_of_succ_lt_succ hrounds) hafter, List.append_assoc,
          List.singleton_append]
      rw [printAttributes_cons hentry, List.cons_append, skipGap_cons_of_isSpace (by decide),
        List.cons_append, List.cons_append, skipGap_cons_of_not_endsName hends, List.append_assoc,
        List.append_assoc] at htext
      cases value with
      | some value =>
          have hread := readAttribute_value hentry.name value
            (printAttributes tag attributes ++ '>' :: rest)
          rw [printValue, List.cons_append] at htext
          rw [readAttributesFor_of_name htext hends hread hnew]
          exact hrest rfl
      | none =>
          -- the gap after a name is read with it, in case an equals sign comes then
          obtain ⟨c, tail, htail, hc, hequals⟩ := exists_printAttributes_append hattributes rest
          have hread := readAttribute_bare hentry.name hc hequals
          rw [printValue, List.nil_append, htail] at htext
          rw [readAttributesFor_of_name htext hends hread hnew]
          exact hrest (by rw [skipGap_dropWhile, htail])

theorem length_le_length_printAttributes {attributes : Attributes}
    (h : ∀ entry ∈ attributes, IsPlainAttribute tag entry) :
    attributes.length ≤ (printAttributes tag attributes).length := by
  induction attributes with
  | nil => exact Nat.zero_le _
  | cons entry attributes ih =>
      obtain ⟨hentry, hattributes⟩ := List.forall_mem_cons.1 h
      have hcons : printAttributes tag (entry :: attributes) = _ :=
        printAttributes_cons hentry attributes
      have hrest := ih hattributes
      rw [hcons]
      simp only [List.length_cons, List.length_append]
      omega

/-- The attributes of a plain tag are read back. -/
theorem readAttributes_printAttributes {attributes : Attributes}
    (h : IsPlainTag (tag, attributes)) (rest : Text) :
    readAttributes (printAttributes tag attributes ++ '>' :: rest) =
      some (⟨attributes, false⟩, rest) := by
  have hlength : attributes.length ≤ (printAttributes tag attributes).length :=
    length_le_length_printAttributes h.attributes
  have hnames : (OrderedMap.names ([] ++ attributes)).Nodup := h.names
  apply readAttributesFor_printAttributes h.attributes hnames _ rfl
  rw [List.length_append]
  exact Nat.lt_succ_of_le (hlength.trans (Nat.le_add_right _ _))

end AtomicCss.Markup
