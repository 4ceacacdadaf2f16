import AtomicCss.Proofs.Rule.Atoms
import AtomicCss.Proofs.Sheet.Pairs
import Mathlib.Data.List.Infix
import Mathlib.Data.Set.Function

/-! # Class names

Three kinds of atoms name their classes by tokens of three kinds of texts. The first character of
such a text tells the kinds apart, and all tokens have the same length. So where taking tokens
confuses no two of the texts, a class belongs to one rule, and a sheet holds only that rule for
it. -/

namespace AtomicCss

open Style

namespace Atom

/-- The character that the key of an atom starts with: that of the placeholder, or the one that
makes a nested rule a pseudo-class rule or an at-rule. -/
def mark : Atom → Char
  | plain _ => 'Z'
  | pseudoClass _ => ':'
  | atRule _ => '@'

/-- A nested rule is what its kind of atom says. -/
def IsClassified : Atom → Prop
  | plain _ => True
  | pseudoClass rule => rule.isPseudoClass
  | atRule rule => rule.isAtRule

theorem isClassified_of_mem {items : List Item} {atom : Atom} (h : atom ∈ ofItems items) :
    atom.IsClassified := by
  simp only [ofItems, List.mem_append, List.mem_map, List.mem_filter] at h
  rcases h with (h | ⟨rule, ⟨-, hrule⟩, rfl⟩) | ⟨rule, ⟨-, hrule⟩, rfl⟩
  · split_ifs at h
    · exact absurd h List.not_mem_nil
    · rw [List.mem_singleton.1 h]
      trivial
  · exact hrule
  · exact hrule

theorem head?_key {atom : Atom} (h : atom.IsClassified) : atom.key.head? = some atom.mark := by
  cases atom with
  | plain declarations => rfl
  | pseudoClass rule =>
      have hrule : rule.selector.head? = some ':' := by
        simpa [IsClassified, NestedRule.isPseudoClass] using h
      simp [key, mark, List.head?_append, hrule]
  | atRule rule =>
      have hrule : rule.selector.head? = some '@' := by
        simpa [IsClassified, NestedRule.isAtRule] using h
      simp [key, mark, List.head?_append, hrule]

theorem head?_suffix {atom : Atom} (h : atom.IsClassified) :
    atom.suffix = [] ∨ atom.suffix.head? = some ':' := by
  cases atom with
  | plain declarations => exact Or.inl rfl
  | pseudoClass rule =>
      right
      simpa [suffix, IsClassified, NestedRule.isPseudoClass] using h
  | atRule rule => exact Or.inl rfl

/-- A selector and a token are parted by the length of the token. -/
theorem selector_token_inj {first second firstBody secondBody : Text}
    (h : first ++ ClassToken.ofText firstBody = second ++ ClassToken.ofText secondBody) :
    first = second ∧ ClassToken.ofText firstBody = ClassToken.ofText secondBody :=
  List.append_inj' h rfl

/-- Equal keys belong to equal rules, unless taking tokens confuses their bodies. -/
theorem rule_eq_of_key_eq {first second : Atom} (hfirst : first.IsClassified)
    (hsecond : second.IsClassified)
    (hbody : ClassToken.ofText first.body = ClassToken.ofText second.body →
      first.body = second.body)
    (hkey : first.key = second.key) (stem : Text) : first.rule stem = second.rule stem := by
  have hmark : first.mark = second.mark := by
    apply Option.some.inj
    rw [← head?_key hfirst, ← head?_key hsecond, hkey]
  have hname : first.className stem = second.className stem := by rw [className, hkey, className]
  have hrule : first.body = second.body ∧ first.suffix = second.suffix := by
    cases first with
    | plain declarations =>
        cases second with
        | plain declarations' => exact ⟨hkey, rfl⟩
        | pseudoClass rule' => exact absurd hmark (by simp [mark])
        | atRule rule' => exact absurd hmark (by simp [mark])
    | pseudoClass rule =>
        cases second with
        | plain declarations' => exact absurd hmark (by simp [mark])
        | pseudoClass rule' =>
            obtain ⟨hselector, htoken⟩ := selector_token_inj hkey
            exact ⟨hbody htoken, hselector⟩
        | atRule rule' => exact absurd hmark (by simp [mark])
    | atRule rule =>
        cases second with
        | plain declarations' => exact absurd hmark (by simp [mark])
        | pseudoClass rule' => exact absurd hmark (by simp [mark])
        | atRule rule' =>
            obtain ⟨-, htoken⟩ := selector_token_inj hkey
            exact ⟨hbody htoken, rfl⟩
  rw [rule, rule, hrule.1, hrule.2, hname]

end Atom

/-- Whether a selector is that of a class, alone or with a pseudo-class. -/
def selectsClass (name selector : Text) : Bool :=
  selector = '.' :: name || ('.' :: name ++ [':']).isPrefixOf selector

theorem selectsClass_iff {name selector : Text} :
    selectsClass name selector ↔ selector = '.' :: name ∨ '.' :: name ++ [':'] <+: selector := by
  simp [selectsClass, List.isPrefixOf_iff_prefix]

namespace Atom

theorem selectsClass_self (stem : Text) {atom : Atom} (h : atom.IsClassified) :
    selectsClass (atom.className stem) (atom.rule stem).selector := by
  rw [selectsClass_iff]
  rcases head?_suffix h with hsuffix | hsuffix
  · left
    rw [rule, hsuffix, List.append_nil]
  · right
    obtain ⟨rest, hrest⟩ := List.head?_eq_some_iff.1 hsuffix
    exact ⟨rest, by simp [rule, hrest]⟩

/-- A selector is that of a class only if the tokens agree. -/
theorem token_eq_of_selectsClass {stem : Text} {first second : Atom}
    (h : selectsClass (first.className stem) (second.rule stem).selector) :
    ClassToken.ofText first.key = ClassToken.ofText second.key := by
  have hprefix : ClassToken.ofText first.key <+:
      ClassToken.ofText second.key ++ second.suffix := by
    rcases selectsClass_iff.1 h with heq | hprefix
    · simp only [rule, className, List.cons.injEq, true_and, List.append_assoc,
        List.append_cancel_left_eq] at heq
      exact heq ▸ List.prefix_refl _
    · simp only [rule, className, List.cons_append, List.append_assoc,
        List.cons_prefix_cons, true_and, List.prefix_append_right_inj] at hprefix
      exact (List.prefix_append _ _).trans hprefix
  have htoken := List.prefix_of_prefix_length_le hprefix (List.prefix_append _ _) (by simp)
  exact htoken.eq_of_length (by simp)

end Atom

namespace Sheet

/-- The pairs of a sheet whose selector is that of a class, alone or with a pseudo-class. -/
def rulesFor (name : Text) (sheet : Sheet) : List GeneratedRule :=
  sheet.pairs.filter fun rule => selectsClass name rule.selector

theorem filter_eq_singleton {α : Type} {p : α → Bool} {l : List α} {a : α} (hl : l.Nodup)
    (ha : a ∈ l) (hp : p a) (hunique : ∀ b ∈ l, p b → b = a) : l.filter p = [a] := by
  apply List.perm_singleton.1
  apply (List.perm_ext_iff_of_nodup (hl.filter p) (List.nodup_singleton a)).2
  intro b
  rw [List.mem_filter, List.mem_singleton]
  constructor
  · rintro ⟨hb, hpb⟩
    exact hunique b hb hpb
  · rintro rfl
    exact ⟨ha, hp⟩

/-- The sheet of atoms holds one rule for the class of each of them, its own, where taking tokens
confuses no two of the texts it is applied to. -/
theorem rulesFor_className {stem : Text} {atoms : List Atom}
    (hclassified : ∀ atom ∈ atoms, atom.IsClassified)
    (htokens : Set.InjOn ClassToken.ofText {text | text ∈ atoms.flatMap Atom.hashed})
    {atom : Atom} (hatom : atom ∈ atoms) :
    (empty.mergeAll (atoms.map (Atom.rule stem))).rulesFor (atom.className stem) =
      [atom.rule stem] := by
  have hpairs : ∀ rule, rule ∈ (empty.mergeAll (atoms.map (Atom.rule stem))).pairs ↔
      ∃ other ∈ atoms, other.rule stem = rule := by
    intro rule
    rw [mem_pairs_mergeAll, pairs_empty, List.mem_map]
    exact or_iff_right List.not_mem_nil
  have hbody : ∀ source ∈ atoms, source.body ∈ atoms.flatMap Atom.hashed := fun source h =>
    List.mem_flatMap.2 ⟨source, h, by simp [Atom.hashed]⟩
  have hkey : ∀ source ∈ atoms, source.key ∈ atoms.flatMap Atom.hashed := fun source h =>
    List.mem_flatMap.2 ⟨source, h, by simp [Atom.hashed]⟩
  apply filter_eq_singleton (isDistinct_empty.mergeAll _).nodup_pairs
  · exact (hpairs _).2 ⟨atom, hatom, rfl⟩
  · exact Atom.selectsClass_self stem (hclassified atom hatom)
  · intro rule hrule hselects
    obtain ⟨other, hother, rfl⟩ := (hpairs rule).1 hrule
    have hkeys : atom.key = other.key :=
      htokens (hkey atom hatom) (hkey other hother) (Atom.token_eq_of_selectsClass hselects)
    symm
    apply Atom.rule_eq_of_key_eq (hclassified atom hatom) (hclassified other hother) _ hkeys
    intro htoken
    exact htokens (hbody atom hatom) (hbody other hother) htoken

end Sheet
end AtomicCss
