import AtomicCss.Text.Basic

/-! # Similar texts

How much two texts share is counted block by block: first their longest common block, then, on
each of its sides, the longest one there, and so on. Texts are similar if what they share is at
least three fifths of them. -/

namespace AtomicCss.Text

/-- The length of the longest common start of two texts. -/
def commonStart : Text → Text → Nat
  | c :: rest, d :: other => if c = d then commonStart rest other + 1 else 0
  | _, _ => 0

/-- A common block of two texts: where it starts in each of them, and its size. -/
structure Block where
  left : Nat
  right : Nat
  size : Nat

/-- The longer one of two blocks, and the first one of equals. -/
def Block.orLonger (block other : Block) : Block := if block.size < other.size then other else block

/-- The longest common block of the start of `text`, which is at `left`, with any part of the
other text, which is at `right`. -/
def longestAt (left : Nat) (text : Text) (right : Nat) : Text → Block
  | [] => ⟨left, right, 0⟩
  | d :: other =>
      Block.orLonger ⟨left, right, commonStart text (d :: other)⟩
        (longestAt left text (right + 1) other)

/-- The longest common block of a text, which is at `left`, and another one. -/
def longestBlock (left : Nat) (text other : Text) : Block :=
  match text with
  | [] => ⟨left, 0, 0⟩
  | c :: rest => (longestAt left (c :: rest) 0 other).orLonger (longestBlock (left + 1) rest other)

/-- The number of characters shared, with at most this many blocks inside one another. -/
def sharedFor : Nat → Text → Text → Nat
  | 0, _, _ => 0
  | rounds + 1, text, other =>
      let block := longestBlock 0 text other
      if block.size = 0 then 0
      else
        sharedFor rounds (text.take block.left) (other.take block.right) + block.size +
          sharedFor rounds (text.drop (block.left + block.size))
            (other.drop (block.right + block.size))

/-- The number of characters that two texts share. Each block takes at least one character of
`text`. -/
def shared (text other : Text) : Nat := sharedFor text.length text other

/-- Whether two texts share enough to be taken for each other. -/
def isSimilar (text other : Text) : Bool :=
  3 * (text.length + other.length) ≤ 10 * shared text other

end AtomicCss.Text
