import SchemaClasses.Model.Dialect
import SchemaClasses.Text.Blank
import SchemaClasses.Text.Basic

/-! The lines of a file, read off its text. A line that was laid out with no line feed in its text
is found again, with its indentation, by a reader who knows of nothing but line feeds. -/

namespace SchemaClasses

namespace Text

/-- The lines of a text, without the line feeds that end them. What stands behind the last line feed
is no line. -/
def endedLines (cs : List Char) : List (List Char) :=
  (pieces cs).filterMap fun piece =>
    if piece.getLast? = some '\n' then some piece.dropLast else none

theorem pieces_append_newline {line : List Char} (h : '\n' ∉ line) (rest : List Char) :
    pieces (line ++ '\n' :: rest) = (line ++ ['\n']) :: pieces rest := by
  induction line with
  | nil => rfl
  | cons c line ih =>
      rw [List.mem_cons, not_or] at h
      rw [List.cons_append, pieces, if_neg (Ne.symm h.1), ih h.2]
      rfl

theorem endedLines_append_newline {line : List Char} (h : '\n' ∉ line) (rest : List Char) :
    endedLines (line ++ '\n' :: rest) = line :: endedLines rest := by
  rw [endedLines, pieces_append_newline h, List.filterMap_cons, List.getLast?_concat, if_pos rfl,
    List.dropLast_concat]
  rfl

theorem exists_line_of_mem_pieces {cs piece : List Char} (h : piece ∈ pieces cs) :
    ∃ line, '\n' ∉ line ∧ (piece = line ∨ piece = line ++ ['\n']) := by
  induction cs generalizing piece with
  | nil => cases h
  | cons c cs ih =>
      rw [pieces] at h
      by_cases hc : c = '\n'
      · rw [if_pos hc] at h
        rcases List.mem_cons.mp h with rfl | h
        · exact ⟨[], List.not_mem_nil, Or.inr (congrArg (fun c => [c]) hc)⟩
        · exact ih h
      · rw [if_neg hc] at h
        cases hpieces : pieces cs with
        | nil =>
            rw [hpieces] at h
            exact ⟨[c], by simpa using Ne.symm hc, Or.inl (List.mem_singleton.mp h)⟩
        | cons first others =>
            rw [hpieces] at h ih
            rcases List.mem_cons.mp h with rfl | h
            · obtain ⟨line, hline, hfirst⟩ := ih List.mem_cons_self
              refine ⟨c :: line, ?_, hfirst.imp (congrArg (c :: ·)) (congrArg (c :: ·))⟩
              rw [List.mem_cons, not_or]
              exact ⟨Ne.symm hc, hline⟩
            · exact ih (List.mem_cons_of_mem first h)

theorem newline_not_mem_of_mem_lines {cs line : List Char} (h : line ∈ lines cs) : '\n' ∉ line := by
  obtain ⟨piece, hpiece, rfl⟩ := List.mem_map.mp h
  obtain ⟨line, hline, rfl | rfl⟩ := exists_line_of_mem_pieces hpiece
  · unfold dropEnding
    split
    · rename_i before hreverse
      exact absurd (List.mem_reverse.mp (hreverse ▸ List.mem_cons_self)) hline
    · rename_i before _ hreverse
      exact absurd (List.mem_reverse.mp (hreverse ▸ List.mem_cons_self)) hline
    · exact hline
  · unfold dropEnding
    rw [List.reverse_append]
    split
    · rename_i before hreverse
      have hbefore : line.reverse = '\r' :: before := List.tail_eq_of_cons_eq hreverse
      intro hmem
      apply hline
      rw [← List.mem_reverse, hbefore]
      exact List.mem_cons_of_mem _ (List.mem_reverse.mp hmem)
    · rename_i before _ hreverse
      have hbefore : line.reverse = before := List.tail_eq_of_cons_eq hreverse
      rwa [← hbefore, List.reverse_reverse]
    · rename_i hnone
      exact absurd rfl (hnone line.reverse)

theorem newline_not_mem_of_mem_trimmed_lines {cs line : List Char}
    (h : line ∈ (lines cs).map trimEnd) : '\n' ∉ line := by
  obtain ⟨untrimmed, huntrimmed, rfl⟩ := List.mem_map.mp h
  intro hmem
  rw [trimEnd, List.mem_reverse] at hmem
  exact newline_not_mem_of_mem_lines huntrimmed
    (List.mem_reverse.mp ((List.dropWhile_sublist _).subset hmem))

end Text

namespace Indent

/-- The blanks before a line at a depth. -/
def before (indent : Indent) (depth : Nat) : List Char :=
  (List.replicate depth indent.unit).flatMap String.toList

theorem eq_tab_or_space_of_mem_before {indent : Indent} {depth : Nat} {c : Char}
    (h : c ∈ indent.before depth) : c = '\t' ∨ c = ' ' := by
  obtain ⟨unit, hunit, hc⟩ := List.mem_flatMap.mp h
  rw [(List.mem_replicate.mp hunit).2] at hc
  cases indent with
  | tabs => exact Or.inl (by simpa [Indent.unit] using hc)
  | spaces count => exact Or.inr (by simp [Indent.unit] at hc; exact hc.2)

end Indent

namespace Line

theorem toList_render (indent : Indent) (l : Line) :
    (l.render indent).toList = indent.before l.depth ++ l.text.toList ++ ['\n'] := by
  simp [render, Indent.before, String.toList_join]

end Line

theorem toList_renderLines (indent : Indent) (lines : List Line) :
    (renderLines indent lines).toList = lines.flatMap fun l => (l.render indent).toList := by
  rw [renderLines, String.toList_join, List.flatMap_map]

end SchemaClasses
