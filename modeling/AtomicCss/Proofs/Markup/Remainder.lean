import AtomicCss.Markup.Token.Scan
import Mathlib.Data.List.Infix
import Mathlib.Tactic.SplitIfs

/-! # What is left after reading

A reader of markup takes characters from the front of a text. What it leaves is an end of that
text, so a tag that is read later stands in the same page. -/

namespace AtomicCss.Markup

theorem span_snd_suffix (p : Char → Bool) (text : Text) : (text.span p).2 <:+ text := by
  rw [List.span_eq_takeWhile_dropWhile]
  exact List.dropWhile_suffix p

/-! ## Comments and declarations -/

theorem readBogusComment_suffix (text : Text) : (readBogusComment text).2 <:+ text :=
  (List.drop_suffix 1 _).trans (span_snd_suffix _ text)

theorem readCommentContent_suffix (text : Text) : (readCommentContent text).2 <:+ text := by
  induction text with
  | nil => exact List.suffix_refl _
  | cons c rest ih =>
      have hrest : rest <:+ c :: rest := List.suffix_cons c rest
      rw [readCommentContent]
      split_ifs
      · exact List.nil_suffix
      · exact (List.drop_suffix 2 rest).trans hrest
      · exact (List.drop_suffix 3 rest).trans hrest
      · exact ih.trans hrest

theorem readComment_suffix (text : Text) : (readComment text).2 <:+ text := by
  rw [readComment.eq_def]
  split
  · exact List.suffix_cons _ _
  · exact (List.suffix_cons _ _).trans (List.suffix_cons _ _)
  · exact readCommentContent_suffix text

theorem readDeclaration_suffix (text : Text) : (readDeclaration text).2 <:+ text := by
  rw [readDeclaration.eq_def]
  split
  · rename_i rest
    exact (readComment_suffix rest).trans
      ((List.suffix_cons _ _).trans (List.suffix_cons _ _))
  · simp only
    split_ifs <;> exact readBogusComment_suffix text

/-! ## Content -/

theorem splitAtEndTag_suffix (tag text : Text) : (splitAtEndTag tag text).2 <:+ text := by
  induction text with
  | nil => exact List.suffix_refl _
  | cons c rest ih =>
      rw [splitAtEndTag]
      split_ifs
      · exact List.suffix_refl _
      · exact ih.trans (List.suffix_cons c rest)

theorem splitAtScriptEnd_suffix (depth : ScriptDepth) (text : Text) :
    (splitAtScriptEnd depth text).2 <:+ text := by
  induction text generalizing depth with
  | nil => rw [splitAtScriptEnd.eq_def]
  | cons c rest ih =>
      rw [splitAtScriptEnd.eq_def]
      dsimp only
      split
      · exact List.suffix_refl _
      · exact (ih _).trans (List.suffix_cons c rest)

theorem splitContent_suffix (tag text : Text) : (splitContent tag text).2 <:+ text := by
  rw [splitContent]
  split
  · exact List.suffix_refl _
  · exact splitAtEndTag_suffix tag text
  · exact splitAtEndTag_suffix tag text
  · exact splitAtScriptEnd_suffix .code text
  · exact List.nil_suffix

end AtomicCss.Markup
