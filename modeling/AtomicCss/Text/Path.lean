import AtomicCss.Text.Basic

/-! # Paths

A path is a text of steps with slashes between them. A normalized path has no empty steps and no
steps that stay in place; a step back stays in it. -/

namespace AtomicCss.Text

/-- The step that stays in place. -/
def stayStep : Text := ['.']

/-- The step back. -/
def backStep : Text := ['.', '.']

/-- A path without empty steps and steps that stay in place. -/
def normalizePath (path : Text) : Text :=
  let steps := (splitOn '/' path).filter fun step => step ≠ [] ∧ step ≠ stayStep
  let joined := joinWith ['/'] steps
  match path with
  | ['/', '/'] => ['/', '/']
  | '/' :: '/' :: c :: _ => if c = '/' then '/' :: joined else '/' :: '/' :: joined
  | '/' :: _ => '/' :: joined
  | _ => if joined = [] then stayStep else joined

/-- The path of the folder that a normalized path leads into. -/
def parentPath (path : Text) : Text :=
  let parent := (path.reverse.dropWhile (· ≠ '/')).drop 1 |>.reverse
  if parent = [] then (if path.head? = some '/' then ['/'] else stayStep) else parent

/-- The last step of a path. -/
def lastStep (path : Text) : Text := (path.reverse.takeWhile (· ≠ '/')).reverse

/-- Whether a text ends in `ending`. -/
def endsWith (ending text : Text) : Bool := ending.isSuffixOf text

end AtomicCss.Text
