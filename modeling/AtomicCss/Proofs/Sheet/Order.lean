import AtomicCss.Proofs.Restyle.Classes
import AtomicCss.Proofs.Rule.ClassNames
import AtomicCss.Proofs.Sheet.Pairs

/-! # The order of entries

A sheet writes its entries in the order in which their bodies were first merged. Of two rules of
one style, the later one is therefore written first exactly where its body has been merged before
the body of the earlier one, by a style before or by a rule of the same style between. -/

namespace AtomicCss

open Style

/-- One body is merged before another one is: in a list of merged bodies, it stands there and the
other one does not stand before it. -/
def SeenBefore (first second : Text) (bodies : List Text) : Prop :=
  bodies.idxOf first < bodies.idxOf second

instance (first second : Text) (bodies : List Text) : Decidable (SeenBefore first second bodies) :=
  inferInstanceAs (Decidable (_ < _))

/-- A sheet has entries for both bodies and writes the entry of the first one before. -/
def Sheet.WritesBefore (sheet : Sheet) (first second : Text) : Prop :=
  second ∈ sheet.bodies ∧ SeenBefore first second sheet.bodies

instance (sheet : Sheet) (first second : Text) : Decidable (sheet.WritesBefore first second) :=
  inferInstanceAs (Decidable (_ ∧ _))

/-! ## First occurrences -/

section

variable {first second body : Text} {bodies : List Text}

/-- Of two bodies that were both merged, one was merged before the other. -/
theorem not_seenBefore_iff (hmem : second ∈ bodies) (hne : first ≠ second) :
    ¬SeenBefore first second bodies ↔ SeenBefore second first bodies := by
  have hidx : bodies.idxOf second ≠ bodies.idxOf first := fun h =>
    hne ((List.idxOf_inj hmem).1 h).symm
  rw [SeenBefore, SeenBefore]
  omega

theorem idxOf_concat_of_notMem (h : first ∉ bodies) :
    (bodies ++ [body]).idxOf first = bodies.length + if first = body then 0 else 1 := by
  rw [List.idxOf_append_of_notMem h]
  split_ifs with heq
  · rw [heq, List.idxOf_cons_self]
  · rw [List.idxOf_cons_ne _ (Ne.symm heq)]
    rfl

/-- A body that is merged last comes before those that were not merged, and after the others. -/
theorem seenBefore_concat_iff :
    SeenBefore first second (bodies ++ [body]) ↔
      SeenBefore first second bodies ∨
        first = body ∧ first ≠ second ∧ first ∉ bodies ∧ second ∉ bodies := by
  rw [SeenBefore, SeenBefore]
  by_cases hfirst : first ∈ bodies
  · rw [List.idxOf_append_of_mem hfirst]
    have hlt := List.idxOf_lt_length_of_mem hfirst
    by_cases hsecond : second ∈ bodies
    · rw [List.idxOf_append_of_mem hsecond]
      simp [hfirst]
    · rw [idxOf_concat_of_notMem hsecond, List.idxOf_eq_length hsecond]
      simp only [hfirst, not_true, false_and, and_false, or_false, hlt, iff_true]
      omega
  · rw [idxOf_concat_of_notMem hfirst, List.idxOf_eq_length hfirst]
    by_cases hsecond : second ∈ bodies
    · rw [List.idxOf_append_of_mem hsecond]
      have hlt := List.idxOf_lt_length_of_mem hsecond
      simp only [hsecond, not_true, and_false, or_false]
      omega
    · rw [idxOf_concat_of_notMem hsecond, List.idxOf_eq_length hsecond]
      by_cases hbody : first = body
      · by_cases hne : first = second
        · simp [hne]
        · have hbody' : second ≠ body := fun h => hne (hbody.trans h.symm)
          simp [hbody, hbody', hbody ▸ hfirst, hsecond, Ne.symm hbody']
      · simp only [hbody, if_false, false_and, or_false]
        split_ifs <;> omega

/-- Leaving out what was merged before keeps the order. -/
theorem seenBefore_eraseDups_iff :
    SeenBefore first second bodies.eraseDups ↔ SeenBefore first second bodies := by
  induction bodies using List.reverseRecOn with
  | nil => rfl
  | append_singleton bodies body ih =>
      rw [Sheet.eraseDups_concat, seenBefore_concat_iff]
      split_ifs with hmem
      · rw [ih]
        refine (or_iff_left ?_).symm
        rintro ⟨rfl, -, hnot, -⟩
        exact hnot hmem
      · rw [seenBefore_concat_iff, ih, List.mem_eraseDups, List.mem_eraseDups]

/-- A body that is merged now comes first unless the other one has been merged before it. -/
theorem seenBefore_append_cons_iff {rest : List Text} (hne : first ≠ second) :
    SeenBefore first second (bodies ++ first :: rest) ↔ ¬SeenBefore second first bodies := by
  rw [SeenBefore, SeenBefore, List.idxOf_append, List.idxOf_append, List.idxOf_cons_self,
    List.idxOf_cons_ne _ hne]
  have hle : bodies.idxOf first ≤ bodies.length := List.idxOf_le_length
  by_cases hfirst : first ∈ bodies
  · by_cases hsecond : second ∈ bodies
    · rw [if_pos hfirst, if_pos hsecond]
      exact (not_seenBefore_iff hfirst (Ne.symm hne)).symm
    · have hlt := List.idxOf_lt_length_of_mem hfirst
      rw [if_pos hfirst, if_neg hsecond, List.idxOf_eq_length hsecond]
      omega
  · rw [if_neg hfirst, List.idxOf_eq_length hfirst]
    by_cases hsecond : second ∈ bodies
    · have hlt := List.idxOf_lt_length_of_mem hsecond
      rw [if_pos hsecond]
      omega
    · rw [if_neg hsecond, List.idxOf_eq_length hsecond]
      omega

end

/-- A sheet writes bodies in the order in which they were first merged into it. -/
theorem Sheet.writesBefore_mergeAll_iff {rules : List GeneratedRule} {first second : Text} :
    (empty.mergeAll rules).WritesBefore first second ↔
      second ∈ rules.map GeneratedRule.body ∧
        SeenBefore first second (rules.map GeneratedRule.body) := by
  rw [WritesBefore, bodies_mergeAll_empty, List.mem_eraseDups, seenBefore_eraseDups_iff]

/-- Of two rules, the one merged earlier is written first unless the body of the other one was
merged still earlier. -/
theorem Sheet.writesBefore_mergeAll_split_iff {merged middle rest : List GeneratedRule}
    {first second : GeneratedRule} (hne : first.body ≠ second.body) :
    ((empty.mergeAll (merged ++ first :: middle ++ second :: rest)).WritesBefore first.body
        second.body ↔
      ¬SeenBefore second.body first.body (merged.map GeneratedRule.body)) ∧
    ((empty.mergeAll (merged ++ first :: middle ++ second :: rest)).WritesBefore second.body
        first.body ↔
      SeenBefore second.body first.body (merged.map GeneratedRule.body)) := by
  have hbodies : (merged ++ first :: middle ++ second :: rest).map GeneratedRule.body =
      merged.map GeneratedRule.body ++
        first.body :: (middle ++ second :: rest).map GeneratedRule.body := by simp
  have hsecond : second.body ∈ (merged ++ first :: middle ++ second :: rest).map
      GeneratedRule.body := List.mem_map_of_mem (by simp)
  have hfirst : first.body ∈ (merged ++ first :: middle ++ second :: rest).map
      GeneratedRule.body := List.mem_map_of_mem (by simp)
  constructor
  · rw [writesBefore_mergeAll_iff, and_iff_right hsecond, hbodies,
      seenBefore_append_cons_iff hne]
  · rw [writesBefore_mergeAll_iff, and_iff_right hfirst, ← not_seenBefore_iff hsecond hne, hbodies,
      seenBefore_append_cons_iff hne, not_not]

/-! ## Styles -/

/-- The rules of a style text, none if it cannot be read. -/
def compiledRules (settings : Settings) (text : Text) : List GeneratedRule :=
  match (compileStyle settings text).outcome with
  | .ok compiled => compiled.rules
  | .error _ => []

/-- The sheet into which style texts are compiled, one after the other. -/
def collect (settings : Settings) (texts : List Text) : Sheet :=
  texts.foldl (fun sheet text => sheet.mergeAll (compiledRules settings text)) Sheet.empty

theorem collect_eq_mergeAll (settings : Settings) (texts : List Text) :
    collect settings texts = Sheet.empty.mergeAll (texts.flatMap (compiledRules settings)) := by
  induction texts using List.reverseRecOn with
  | nil => rfl
  | append_singleton texts text ih =>
      calc
        collect settings (texts ++ [text]) =
            (collect settings texts).mergeAll (compiledRules settings text) := by
          rw [collect, List.foldl_append, List.foldl_cons, List.foldl_nil, collect]
        _ = (Sheet.empty.mergeAll (texts.flatMap (compiledRules settings))).mergeAll
            (compiledRules settings text) := by rw [ih]
        _ = Sheet.empty.mergeAll ((texts ++ [text]).flatMap (compiledRules settings)) := by
          rw [List.flatMap_append, List.flatMap_singleton, Sheet.mergeAll_append]

/-- The atoms of a style text, none if it cannot be read. -/
def Atom.ofText (strict : Bool) (text : Text) : List Atom :=
  match (parse strict text).outcome with
  | .ok items => ofItems items
  | .error _ => []

theorem Atom.ofText_of_parse {strict : Bool} {text : Text} {items : List Item}
    (h : (parse strict text).outcome = .ok items) : ofText strict text = ofItems items := by
  rw [ofText, h]

theorem compiledRules_eq_map_ofText (settings : Settings) (text : Text) :
    compiledRules settings text =
      (Atom.ofText settings.strict text).map (Atom.rule settings.classStem) := by
  rw [compiledRules, outcome_compileStyle, Atom.ofText]
  cases (parse settings.strict text).outcome with
  | error error => rfl
  | ok items => exact Compiled.rules_ofItems settings.classStem items

theorem compiledRules_of_parse {settings : Settings} {text : Text} {items : List Item}
    (h : (parse settings.strict text).outcome = .ok items) :
    compiledRules settings text = (Compiled.ofItems settings.classStem items).rules := by
  rw [compiledRules_eq_map_ofText, Atom.ofText_of_parse h, Compiled.rules_ofItems]

/-- The sheet of style texts is that of their atoms. -/
theorem collect_eq_mergeAll_ofText (settings : Settings) (texts : List Text) :
    collect settings texts = Sheet.empty.mergeAll
      ((texts.flatMap (Atom.ofText settings.strict)).map (Atom.rule settings.classStem)) := by
  rw [collect_eq_mergeAll, List.map_flatMap, funext (compiledRules_eq_map_ofText settings)]

namespace Atom

variable {items : List Item} {declarations : List Declaration} {nested : NestedRule}

/-- The body of a plain rule starts with the placeholder, that of an at-rule with its head. -/
theorem body_plain_ne_body_atRule (h : atRule nested ∈ ofItems items) :
    (plain declarations).body ≠ (atRule nested).body := by
  intro heq
  have hhead : nested.selector.head? = some '@' := by
    simpa [IsClassified, NestedRule.isAtRule] using isClassified_of_mem h
  have hnested : (atRule nested).body.head? = some '@' := by
    simp [body, GeneratedRule.atRuleBody, printBlock, List.head?_append, hhead]
  have hplain : (plain declarations).body.head? = some 'Z' := rfl
  rw [heq, hnested] at hplain
  exact absurd hplain (by decide)

/-- The top-level declarations of a style come before its nested rules. -/
theorem exists_ofItems_eq_plain_cons (h : plain declarations ∈ ofItems items) :
    ∃ rest, ofItems items = plain declarations :: rest := by
  simp only [ofItems, List.mem_append, List.mem_map] at h
  rcases h with (h | ⟨rule, -, hrule⟩) | ⟨rule, -, hrule⟩
  · split_ifs at h with hempty
    · exact absurd h List.not_mem_nil
    · rw [ofItems, if_neg hempty, ← List.mem_singleton.1 h]
      exact ⟨_, List.append_assoc _ _ _⟩
  · exact Atom.noConfusion hrule
  · exact Atom.noConfusion hrule

/-- The rules of a style with its top-level declarations first and an at-rule after them. -/
theorem exists_rules_eq_plain_atRule (hplain : plain declarations ∈ ofItems items)
    (hnested : atRule nested ∈ ofItems items) (stem : Text) :
    ∃ middle back, (Compiled.ofItems stem items).rules =
      (plain declarations).rule stem :: middle ++ (atRule nested).rule stem :: back := by
  obtain ⟨rest, hrest⟩ := exists_ofItems_eq_plain_cons hplain
  rw [hrest] at hnested
  have hmem : atRule nested ∈ rest := by
    rcases List.mem_cons.1 hnested with heq | hmem
    · exact Atom.noConfusion heq
    · exact hmem
  obtain ⟨middle, back, rfl⟩ := List.append_of_mem hmem
  refine ⟨middle.map (rule stem), back.map (rule stem), ?_⟩
  rw [Compiled.rules_ofItems, hrest]
  simp

end Atom

section

variable {settings : Settings} {earlier later : List Text} {text : Text} {items : List Item}

/-- The rules merged up to one of two rules of a style, that rule, and the rest. -/
theorem collect_eq_of_rules_eq (h : (parse settings.strict text).outcome = .ok items)
    {front middle back : List GeneratedRule} {first second : GeneratedRule}
    (hrules : (Compiled.ofItems settings.classStem items).rules =
      front ++ first :: middle ++ second :: back) :
    collect settings (earlier ++ text :: later) =
      Sheet.empty.mergeAll (earlier.flatMap (compiledRules settings) ++ front ++ first :: middle ++
        second :: (back ++ later.flatMap (compiledRules settings))) := by
  rw [collect_eq_mergeAll, List.flatMap_append, List.flatMap_cons, compiledRules_of_parse h,
    hrules]
  simp only [List.append_assoc, List.cons_append]

/-- The top-level declarations of a style are written before its at-rules unless a style before
has brought the at-rule first. -/
theorem collect_writesBefore_plain_atRule_iff
    (h : (parse settings.strict text).outcome = .ok items) {declarations : List Declaration}
    {nested : NestedRule} (hplain : .plain declarations ∈ Atom.ofItems items)
    (hnested : .atRule nested ∈ Atom.ofItems items) :
    (collect settings (earlier ++ text :: later)).WritesBefore (Atom.plain declarations).body
        (Atom.atRule nested).body ↔
      ¬SeenBefore (Atom.atRule nested).body (Atom.plain declarations).body
        ((earlier.flatMap (compiledRules settings)).map GeneratedRule.body) := by
  obtain ⟨middle, back, hrules⟩ :=
    Atom.exists_rules_eq_plain_atRule hplain hnested settings.classStem
  have hbody : ((Atom.plain declarations).rule settings.classStem).body ≠
      ((Atom.atRule nested).rule settings.classStem).body := Atom.body_plain_ne_body_atRule hnested
  have hrules' : (Compiled.ofItems settings.classStem items).rules =
      [] ++ (Atom.plain declarations).rule settings.classStem :: middle ++
        (Atom.atRule nested).rule settings.classStem :: back := hrules
  rw [collect_eq_of_rules_eq h hrules', List.append_nil]
  exact (Sheet.writesBefore_mergeAll_split_iff hbody).1

/-- Of two rules of one style the sheet of all styles writes the earlier one first, unless the
body of the later one was merged before the body of the earlier one, by a style before or by a
rule of the same style; then that entry comes first. So an at-rule is written after the top-level
declarations of its style, unless a style before brought the body of the at-rule when that of the
declarations was still missing. -/
theorem collect_writesBefore_iff (h : (parse settings.strict text).outcome = .ok items) :
    (∀ front first middle second back,
      (Compiled.ofItems settings.classStem items).rules =
        front ++ first :: middle ++ second :: back →
      first.body ≠ second.body →
      ((collect settings (earlier ++ text :: later)).WritesBefore first.body second.body ↔
        ¬SeenBefore second.body first.body
          ((earlier.flatMap (compiledRules settings) ++ front).map GeneratedRule.body)) ∧
      ((collect settings (earlier ++ text :: later)).WritesBefore second.body first.body ↔
        SeenBefore second.body first.body
          ((earlier.flatMap (compiledRules settings) ++ front).map GeneratedRule.body))) ∧
    ∀ declarations nested, .plain declarations ∈ Atom.ofItems items →
      .atRule nested ∈ Atom.ofItems items →
      ((collect settings (earlier ++ text :: later)).WritesBefore
          (Atom.plain declarations).body (Atom.atRule nested).body ↔
        ¬SeenBefore (Atom.atRule nested).body (Atom.plain declarations).body
          ((earlier.flatMap (compiledRules settings)).map GeneratedRule.body)) := by
  constructor
  · intro front first middle second back hrules hbody
    rw [collect_eq_of_rules_eq h hrules]
    exact Sheet.writesBefore_mergeAll_split_iff hbody
  · intro declarations nested hplain hnested
    exact collect_writesBefore_plain_atRule_iff h hplain hnested

end

/-- A sheet writes the rules of a style in their order. -/
def Sheet.KeepsOrder (sheet : Sheet) (rules : List GeneratedRule) : Prop :=
  rules.Pairwise fun first second =>
    first.body ≠ second.body → sheet.WritesBefore first.body second.body

instance (sheet : Sheet) (rules : List GeneratedRule) : Decidable (sheet.KeepsOrder rules) :=
  inferInstanceAs (Decidable (List.Pairwise _ _))

/-- A style that is an at-rule. -/
def atRuleText : Text := "@media print \x7b color: blue \x7d".toList

/-- A style with the same at-rule after a declaration. -/
def mixedText : Text := "color: red; @media print \x7b color: blue \x7d".toList

/-- The at-rule of the first style stands before the declaration of the second one. -/
theorem not_keepsOrder_of_shared_atRule :
    (parse false atRuleText).outcome.toBool ∧ (parse false mixedText).outcome.toBool ∧
      ¬(collect .standard [atRuleText, mixedText]).KeepsOrder
        (compiledRules .standard mixedText) := by
  decide +kernel

/-- The declaration comes first where the style is alone, and the at-rule where it is not new. -/
theorem mixedText_order :
    let declaration := Atom.plain [⟨"color".toList, "red".toList⟩]
    let nested := Atom.atRule ⟨"@media print".toList, [⟨"color".toList, "blue".toList⟩]⟩
    (collect .standard [mixedText]).WritesBefore declaration.body nested.body ∧
      (collect .standard [atRuleText, mixedText]).WritesBefore nested.body declaration.body := by
  intro declaration nested
  have hparse : (parse false mixedText).outcome =
      .ok [.declaration ⟨"color".toList, "red".toList⟩,
        .rule ⟨"@media print".toList, [⟨"color".toList, "blue".toList⟩]⟩] := rfl
  have halone := (@collect_writesBefore_iff .standard [] [] _ _ hparse).2
  have hafter := (@collect_writesBefore_iff .standard [atRuleText] [] _ _ hparse).1
  constructor
  · apply (halone _ _ ?_ ?_).2
    · decide +kernel
    · decide +kernel
    · decide +kernel
  · apply (hafter [] (declaration.rule "hw_".toList) [] (nested.rule "hw_".toList) [] ?_ ?_).2.2
    · decide +kernel
    · decide +kernel
    · decide +kernel

end AtomicCss
