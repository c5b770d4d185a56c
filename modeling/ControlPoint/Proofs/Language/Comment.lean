import Mathlib
import ControlPoint.Proofs.Language.Lines

/-!
Comments on declarations. Every line of a comment is marked, as line feeds end it; whether it is so
for a compiler depends on what the comment quotes.
-/

namespace ControlPoint.Language

open Template Text

/-- What marks a line as one of a comment on a declaration. -/
def commentMark : Language → String
  | csharp => "///"
  | visualBasic => "'''"

/-- The line is one of a comment on a declaration, wherever it is moved to. -/
def IsComment (l : Language) (line : String) : Prop :=
  l.commentMark.toList <+: line.toList.dropWhile isBlank

instance (l : Language) (line : String) : Decidable (l.IsComment line) :=
  inferInstanceAs (Decidable (l.commentMark.toList <+: line.toList.dropWhile isBlank))

/-- The text can be put into a comment: where a line ends in it but not by a line feed, the text
    itself goes on with the mark. -/
def StaysInComment (l : Language) (text : String) : Prop :=
  ∀ line ∈ lines text, ∀ rest ∈ (physicalLines (withoutReturn line)).tail, l.IsComment rest

/-- What a comment says behind its marks, but for the last line. -/
def commentText (summary remarks : String) : List String :=
  "<summary>" :: lines summary ++
    if remarks = "" then [] else "</summary>" :: "<remarks>" :: lines remarks

def lastTag (remarks : String) : String :=
  if remarks = "" then "</summary>" else "</remarks>"

theorem intercalate_commentText {summary : String} (hsummary : summary ≠ "")
    (remarks mark : String) :
    String.intercalate "\n" ((commentText summary remarks ++ [lastTag remarks]).map (mark ++ ·)) =
      mark ++ "<summary>\n" ++ markLines summary mark false ++ "\n" ++ mark ++ "</summary>" ++
        if remarks = "" then ""
        else
          "\n" ++ mark ++ "<remarks>\n" ++ markLines remarks mark false ++ "\n" ++ mark ++
            "</remarks>" := by
  have hlines {text : String} (htext : text ≠ "") : (lines text).map (mark ++ ·) ≠ [] := by
    simpa using lines_ne_nil htext
  apply String.toList_inj.mp
  by_cases hremarks : remarks = ""
  · rw [commentText, lastTag, if_pos hremarks, if_pos hremarks, List.append_nil, List.cons_append,
      List.map_cons, List.map_append, String.intercalate_cons_of_ne_nil (by simp),
      String.intercalate_append_of_ne_nil (hlines hsummary) (by simp)]
    simp [hremarks, markLines]
  · rw [commentText, lastTag, if_neg hremarks, if_neg hremarks]
    simp only [List.cons_append, List.append_assoc, List.map_cons, List.map_append, List.map_nil]
    rw [String.intercalate_cons_of_ne_nil (by simp),
      String.intercalate_append_of_ne_nil (hlines hsummary) (by simp),
      String.intercalate_cons_cons, String.intercalate_cons_of_ne_nil (by simp),
      String.intercalate_append_of_ne_nil (hlines hremarks) (by simp), String.intercalate_singleton]
    simp [hremarks, markLines]

theorem fill_docComment (l : Language) {summary : String} (hsummary : summary ≠ "")
    (remarks : String) :
    l.fill .docComment [("summary", summary), ("remarks", remarks)] =
      String.intercalate "\n" ((commentText summary remarks ++ [lastTag remarks]).map
        (l.commentMark ++ " " ++ ·)) := by
  rw [intercalate_commentText hsummary]
  apply fill_of_render
  by_cases hremarks : remarks = "" <;> cases l <;>
    simp [template, csharpTemplate, visualBasicTemplate, ofLines, Template.render, Part.render,
      Piece.render, renderPieces, Fields.value?, Fields.holds, Fields.textOf, Value.holds,
      Value.asText, hremarks, commentMark, bind, Except.bind, pure, Except.pure]
  all_goals exact String.toList_inj.mp (by simp)

theorem endsInLine_lastTag (remarks : String) : EndsInLine (lastTag remarks) := by
  unfold lastTag
  split
  · exact ⟨"</summary".toList, '>', by decide, by decide, by decide⟩
  · exact ⟨"</remarks".toList, '>', by decide, by decide, by decide⟩

theorem endsInLine_docComment (l : Language) {summary : String} (hsummary : summary ≠ "")
    (remarks : String) :
    EndsInLine (l.fill .docComment [("summary", summary), ("remarks", remarks)]) := by
  rw [l.fill_docComment hsummary, List.map_append, List.map_singleton,
    String.intercalate_append_of_ne_nil (by simp [commentText]) (by simp),
    String.intercalate_singleton]
  exact ((endsInLine_lastTag remarks).append _).append _

theorem endsInLine_commentMark (l : Language) : EndsInLine (l.commentMark ++ " ") := by
  cases l
  · exact ⟨"///".toList, ' ', by decide, by decide, by decide⟩
  · exact ⟨"'''".toList, ' ', by decide, by decide, by decide⟩

theorem isOneLine_commentMark (l : Language) : IsOneLine (l.commentMark ++ " ") := by
  cases l <;> simp [commentMark, IsOneLine, isLineEnd]

theorem isBlankText_commentMark (l : Language) (text : String) :
    isBlankText (l.commentMark ++ " " ++ text) = false := by
  cases l <;> simp [commentMark, isBlankText, isBlank]

theorem isComment_commentMark (l : Language) (levels : Nat) (text : String) :
    l.IsComment (indentation levels ++ (l.commentMark ++ " ") ++ text) := by
  have hspaces : (List.replicate (4 * levels) ' ').dropWhile isBlank = [] := by
    rw [List.dropWhile_replicate]
    rfl
  have hmark : (l.commentMark.toList ++ ' ' :: text.toList).dropWhile isBlank =
      l.commentMark.toList ++ ' ' :: text.toList := by
    cases l <;> simp [commentMark, isBlank]
  have hdrop : (indentation levels ++ (l.commentMark ++ " ") ++ text).toList.dropWhile isBlank =
      l.commentMark.toList ++ ' ' :: text.toList := by
    simp [indentation, List.dropWhile_append, hspaces, hmark]
  rw [IsComment, hdrop]
  exact List.prefix_append _ _

theorem not_mem_feed_commentText (summary remarks : String) :
    ∀ text ∈ commentText summary remarks ++ [lastTag remarks], '\n' ∉ text.toList := by
  have hlines (text : String) : ∀ line ∈ lines text, '\n' ∉ line.toList :=
    fun _ hline => not_mem_of_mem_lines hline
  rw [List.forall_mem_append, List.forall_mem_singleton]
  by_cases hremarks : remarks = ""
  · simp only [commentText, lastTag, hremarks, if_true, List.append_nil, List.forall_mem_cons]
    exact ⟨⟨by decide, hlines summary⟩, by decide⟩
  · simp only [commentText, lastTag, hremarks, if_false, List.cons_append, List.forall_mem_cons,
      List.forall_mem_append]
    exact ⟨⟨by decide, hlines summary, by decide, by decide, hlines remarks⟩, by decide⟩

/-- The lines of a comment as they are moved in. -/
theorem markLines_fill_docComment (l : Language) {summary : String} (hsummary : summary ≠ "")
    (remarks : String) (levels : Nat) :
    markLines (l.fill .docComment [("summary", summary), ("remarks", remarks)])
        (indentation levels) true =
      String.intercalate "\n" ((commentText summary remarks ++ [lastTag remarks]).map fun text =>
        indentation levels ++ (l.commentMark ++ " ") ++ withoutReturn text) := by
  have htexts := not_mem_feed_commentText summary remarks
  have hblank := l.isBlankText_commentMark
  have hends := l.endsInLine_commentMark
  have hfeed := l.isOneLine_commentMark.not_mem_feed
  rw [l.fill_docComment hsummary]
  generalize l.commentMark ++ " " = mark at *
  have hmarked : ∀ line ∈ (commentText summary remarks ++ [lastTag remarks]).map (mark ++ ·),
      '\n' ∉ line.toList := by
    rw [List.forall_mem_map]
    intro text htext
    rw [String.toList_append, List.mem_append, not_or]
    exact ⟨hfeed, htexts text htext⟩
  have htag : withoutReturn (lastTag remarks) = lastTag remarks := by
    unfold lastTag
    split <;> rfl
  have hne : mark ++ lastTag remarks ≠ "" := ((endsInLine_lastTag remarks).append mark).ne_empty
  rw [List.map_append, List.map_singleton, List.forall_mem_append, List.forall_mem_singleton]
    at hmarked
  rw [List.map_append, List.map_singleton, markLines, lines_intercalate hmarked.1 hmarked.2 hne]
  simp [hends.withoutReturn_append, hblank, htag, Function.comp_def, String.append_assoc]

/-- A comment stays one on all its lines, wherever it is moved to, just if all that it is to say can
    be put into a comment. -/
theorem isComment_docComment_iff (l : Language) {summary : String} (hsummary : summary ≠ "")
    (remarks : String) (levels : Nat) :
    (∀ line ∈ physicalLines (markLines
        (l.fill .docComment [("summary", summary), ("remarks", remarks)])
          (indentation levels) true), l.IsComment line) ↔
      l.StaysInComment summary ∧ l.StaysInComment remarks := by
  have hmark : IsOneLine (indentation levels ++ (l.commentMark ++ " ")) :=
    (isOneLine_append ..).mpr ⟨isOneLine_indentation levels, l.isOneLine_commentMark⟩
  have hline (text : String) : (∀ line ∈ physicalLines
        (indentation levels ++ (l.commentMark ++ " ") ++ withoutReturn text), l.IsComment line) ↔
      ∀ rest ∈ (physicalLines (withoutReturn text)).tail, l.IsComment rest := by
    obtain ⟨first, others, hothers⟩ :=
      List.exists_cons_of_ne_nil (physicalLines_ne_nil (withoutReturn text))
    simp [physicalLines_append hmark, hothers, l.isComment_commentMark]
  have htags : ∀ tag ∈ ["<summary>", "</summary>", "<remarks>", "</remarks>"],
      (physicalLines (withoutReturn tag)).tail = [] := by decide +kernel
  simp only [List.forall_mem_cons] at htags
  obtain ⟨hopen, hclose, hopen', hclose', -⟩ := htags
  rw [l.markLines_fill_docComment hsummary, physicalLines_intercalate (by simp), List.flatMap_map]
  simp only [List.forall_mem_flatMap, hline]
  by_cases hremarks : remarks = ""
  · have hnone : lines "" = [] := rfl
    simp [commentText, lastTag, hremarks, StaysInComment, hopen, hclose, hnone, or_imp, forall_and]
  · simp [commentText, lastTag, hremarks, StaysInComment, hopen, hclose, hopen', hclose', or_imp,
      forall_and]

end ControlPoint.Language
