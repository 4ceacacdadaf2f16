import AtomicCss.Proofs.Restyle.Run
import AtomicCss.Proofs.Rule.ClassNames

/-! # Every element keeps its own rules

Elements of a run share one sheet, and equal bodies are merged there. Where taking tokens confuses
no two of the texts that the run applies it to, the sheet still holds one rule for each class of
each element, the one that the style of the element was compiled to, and it holds no other
rules. -/

namespace AtomicCss

/-- For each class that was compiled, a sheet holds one rule: the one that was compiled with it. -/
def Sheet.Keeps (sheet : Sheet) (compiled : Compiled) : Prop :=
  List.Forall₂ (fun name rule => sheet.rulesFor name = [rule]) compiled.classes compiled.rules

namespace Call

variable {stem : Text} {calls : List Call}

theorem isClassified_of_mem_atoms {atom : Atom} (h : atom ∈ calls.flatMap Call.atoms) :
    atom.IsClassified := by
  obtain ⟨call, -, hatom⟩ := List.mem_flatMap.1 h
  obtain ⟨items, -, hatom⟩ := mem_atoms_iff.1 hatom
  exact Atom.isClassified_of_mem hatom

/-- The texts that the calls apply tokens to are those of the atoms of the run. -/
theorem flatMap_hashed (calls : List Call) :
    calls.flatMap Call.hashed = (calls.flatMap Call.atoms).flatMap Atom.hashed := by
  rw [List.flatMap_assoc]
  rfl

/-- The sheet of a run keeps what each of its calls compiles. -/
theorem keeps_restyleAll
    (htokens : Set.InjOn ClassToken.ofText {text | text ∈ calls.flatMap Call.hashed})
    {call : Call} (hcall : call ∈ calls) {compiled : Compiled}
    (h : call.compiled? stem = some compiled) :
    (restyleAll stem calls Sheet.empty).Keeps compiled := by
  obtain ⟨hclasses, hrules⟩ := classes_and_rules_of_compiled? h
  rw [flatMap_hashed] at htokens
  rw [Sheet.Keeps, hclasses, hrules, restyleAll_eq_mergeAll, List.forall₂_map_left_iff,
    List.forall₂_map_right_iff, List.forall₂_same]
  intro atom hatom
  apply Sheet.rulesFor_className (fun _ => isClassified_of_mem_atoms) htokens
  exact List.mem_flatMap.2 ⟨call, hcall, hatom⟩

/-- Every rule in the sheet of a run is one that a call compiles. -/
theorem exists_compiled?_of_mem_pairs {rule : GeneratedRule}
    (h : rule ∈ (restyleAll stem calls Sheet.empty).pairs) :
    ∃ call ∈ calls, ∃ compiled, call.compiled? stem = some compiled ∧ rule ∈ compiled.rules := by
  rw [restyleAll_eq_mergeAll, Sheet.mem_pairs_mergeAll] at h
  have hrule : rule ∈ (calls.flatMap Call.atoms).map (Atom.rule stem) :=
    h.resolve_left List.not_mem_nil
  obtain ⟨atom, hatom, rfl⟩ := List.mem_map.1 hrule
  obtain ⟨call, hcall, hatom⟩ := List.mem_flatMap.1 hatom
  obtain ⟨items, hitems, -⟩ := mem_atoms_iff.1 hatom
  have hcompiled : call.compiled? stem = some (Compiled.ofItems stem items) := by
    rw [compiled?_eq, hitems]
    rfl
  refine ⟨call, hcall, _, hcompiled, ?_⟩
  rw [(classes_and_rules_of_compiled? hcompiled).2]
  exact List.mem_map_of_mem hatom

end Call

/-- Where taking tokens confuses no two texts of a run, every call appends the classes of its own
style, the sheet keeps the rules of these classes, and it holds no rule that no call compiles. -/
theorem restyleAll_keeps_own_rules (stem : Text) (calls : List Call)
    (htokens : Set.InjOn ClassToken.ofText {text | text ∈ calls.flatMap Call.hashed}) :
    (∀ call ∈ calls, ∀ compiled, call.compiled? stem = some compiled →
      (∀ sheet after, (call.perform stem sheet).1 = some after →
        after.classText =
          Text.joinWith [' '] (call.subject.existing ++ compiled.classes)) ∧
      (restyleAll stem calls Sheet.empty).Keeps compiled) ∧
    ∀ rule ∈ (restyleAll stem calls Sheet.empty).pairs,
      ∃ call ∈ calls, ∃ compiled,
        call.compiled? stem = some compiled ∧ rule ∈ compiled.rules := by
  constructor
  · intro call hcall compiled hcompiled
    constructor
    · intro sheet after hafter
      exact Call.classText_perform hcompiled hafter
    · exact Call.keeps_restyleAll htokens hcall hcompiled
  · intro rule hrule
    exact Call.exists_compiled?_of_mem_pairs hrule

/-- An attribute mapping and an element of a tree whose rules have the same body. -/
def callsSharingBody : List Call :=
  [⟨false, .mapping none [(styleName, .text "color: red".toList)]⟩,
    ⟨false, .element [(styleName, some ":hover \x7b color: red \x7d".toList)]⟩]

/-- The rules of both stand under one body, and each element keeps its own. -/
theorem callsSharingBody_keep_own_rules :
    (restyleAll [] callsSharingBody Sheet.empty).size = 1 ∧
      ∀ call ∈ callsSharingBody, ∀ compiled, call.compiled? [] = some compiled →
        (restyleAll [] callsSharingBody Sheet.empty).Keeps compiled := by
  constructor
  · decide +kernel
  · have htokens : ∀ first ∈ callsSharingBody.flatMap Call.hashed,
        ∀ second ∈ callsSharingBody.flatMap Call.hashed,
          ClassToken.ofText first = ClassToken.ofText second → first = second := by decide +kernel
    intro call hcall compiled hcompiled
    exact ((restyleAll_keeps_own_rules [] callsSharingBody fun first hfirst second hsecond =>
      htokens first hfirst second hsecond).1 call hcall compiled hcompiled).2

end AtomicCss
