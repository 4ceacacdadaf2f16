import AtomicCss.OrderedMap
import AtomicCss.Rule.Basic

/-! # Sheets

A sheet collects generated rules. It maps each body to the selectors that share it; bodies and
selectors stand in the order in which they were first merged, each once. -/

namespace AtomicCss

/-- The rules collected so far. -/
structure Sheet where
  entries : OrderedMap (List Text)
  deriving DecidableEq, Repr

namespace Sheet

/-- A sheet without rules. -/
def empty : Sheet := ⟨[]⟩

/-- Whether there is a rule with this body. -/
def contains (body : Text) (sheet : Sheet) : Bool := OrderedMap.has body sheet.entries

/-- The number of bodies. -/
def size (sheet : Sheet) : Nat := sheet.entries.length

/-- Whether the sheet has no rules. -/
def isEmpty (sheet : Sheet) : Bool := sheet.entries.isEmpty

/-- The selectors that share a body. -/
def selectors (body : Text) (sheet : Sheet) : List Text :=
  (OrderedMap.get? body sheet.entries).getD []

/-- A list with a selector put last unless it is there. -/
def addSelector (selector : Text) (selectors : List Text) : List Text :=
  if selector ∈ selectors then selectors else selectors ++ [selector]

/-- Whether merging a rule would add a body. -/
def isNew (rule : GeneratedRule) (sheet : Sheet) : Bool := !sheet.contains rule.body

/-- Adds a rule. -/
def merge (rule : GeneratedRule) (sheet : Sheet) : Sheet :=
  ⟨OrderedMap.alter rule.body (fun shared => addSelector rule.selector (shared.getD []))
    sheet.entries⟩

/-- Adds rules in order. -/
def mergeAll (rules : List GeneratedRule) (sheet : Sheet) : Sheet :=
  rules.foldl (fun sheet rule => sheet.merge rule) sheet

@[simp]
theorem mergeAll_nil (sheet : Sheet) : sheet.mergeAll [] = sheet := rfl

@[simp]
theorem mergeAll_cons (rule : GeneratedRule) (rules : List GeneratedRule) (sheet : Sheet) :
    sheet.mergeAll (rule :: rules) = (sheet.merge rule).mergeAll rules := rfl

theorem mergeAll_append (first second : List GeneratedRule) (sheet : Sheet) :
    sheet.mergeAll (first ++ second) = (sheet.mergeAll first).mergeAll second := by
  simp [mergeAll]

/-- A merge adds the selector to its body, at the end unless it is there. -/
theorem selectors_merge (rule : GeneratedRule) (sheet : Sheet) :
    (sheet.merge rule).selectors rule.body =
      addSelector rule.selector (sheet.selectors rule.body) := by
  simp [selectors, merge, OrderedMap.get?_alter_self]

/-- A merge leaves the selectors of every other body alone. -/
theorem selectors_merge_of_ne {rule : GeneratedRule} {body : Text} (h : body ≠ rule.body)
    (sheet : Sheet) : (sheet.merge rule).selectors body = sheet.selectors body := by
  simp [selectors, merge, OrderedMap.get?_alter_of_ne h]

end Sheet
end AtomicCss
