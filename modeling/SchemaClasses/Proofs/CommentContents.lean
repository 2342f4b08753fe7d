import SchemaClasses.Proofs.CommentFragments
import SchemaClasses.Proofs.CommentReading

/-! What a documentation comment in C# says. A reader who takes its lines without the first and the
last, takes indentation and slashes away and reads the entities has the lines of the description,
so the comment loses nothing of them. -/

namespace SchemaClasses

namespace Text

theorem trimEnd_append_of_blanks {blanks : List Char} (h : ∀ c ∈ blanks, isBlank c)
    (cs : List Char) : trimEnd (cs ++ blanks) = trimEnd cs := by
  have hreverse : ∀ c ∈ blanks.reverse, isBlank c := fun c hc => h c (List.mem_reverse.mp hc)
  rw [trimEnd, List.reverse_append, List.dropWhile_append_of_pos hreverse, trimEnd]

theorem trimEnd_dropEnding (piece : List Char) : trimEnd (dropEnding piece) = trimEnd piece := by
  obtain ⟨ending, hpiece, hending⟩ := exists_dropEnding_append piece
  rw [← trimEnd_append_of_blanks hending (dropEnding piece), hpiece]

/-- The pieces of a text are its parts between line feeds, but for the line feeds behind them. -/
theorem forall₂_pieces_splitOn {cs : List Char} (hne : cs ≠ []) (hlast : cs.getLast? ≠ some '\n') :
    List.Forall₂ (fun piece part => piece = part ∨ piece = part ++ ['\n'])
      (pieces cs) (cs.splitOn '\n') := by
  induction cs with
  | nil => exact absurd rfl hne
  | cons c cs ih =>
      rw [pieces, List.splitOn_cons_eq_if_modifyHead]
      cases cs with
      | nil =>
          have hc : c ≠ '\n' := fun hc => hlast (by rw [hc]; rfl)
          simp [pieces, hc]
      | cons next cs =>
          rw [List.getLast?_cons_cons] at hlast
          have hrest := ih (List.cons_ne_nil next cs) hlast
          by_cases hc : c = '\n'
          · rw [if_pos hc, if_pos (by simpa using hc), hc]
            exact .cons (Or.inr rfl) hrest
          · rw [if_neg hc, if_neg (by simpa using hc)]
            have hparts : (next :: cs).splitOn '\n' ≠ [] := List.splitOn_ne_nil '\n' (next :: cs)
            generalize pieces (next :: cs) = others at hrest
            generalize (next :: cs).splitOn '\n' = parts at hrest hparts
            cases hrest with
            | nil => exact absurd rfl hparts
            | cons hfirst hothers =>
                exact .cons (hfirst.imp (congrArg (c :: ·)) (congrArg (c :: ·))) hothers

/-- The lines of a description are what stands between the line feeds of the trimmed text. A
carriage return before a line feed is one of the blanks at the end of a line. -/
theorem describedLines_eq_map_splitOn {cs : List Char} (h : ∃ c ∈ cs, ¬ isBlank c) :
    describedLines cs = ((trim cs).splitOn '\n').map trimEnd := by
  have hne : trim cs ≠ [] := by
    rw [Ne, trim_eq_nil_iff]
    simpa using h
  have hlast : (trim cs).getLast? ≠ some '\n' := fun hlast =>
    absurd (isBlank_of_getLast?_trimEnd hlast) (by decide)
  rw [describedLines, lines, List.map_map, ← List.forall₂_eq_eq_eq, List.forall₂_map_left_iff,
    List.forall₂_map_right_iff]
  refine (forall₂_pieces_splitOn hne hlast).imp ?_
  rintro piece part hpiece
  rw [Function.comp_apply, trimEnd_dropEnding]
  rcases hpiece with rfl | rfl
  · rfl
  · exact trimEnd_append_of_blanks (forall_mem_of_all (by decide)) part

theorem endedLines_flatMap_append_newline {lines : List (List Char)}
    (h : ∀ line ∈ lines, '\n' ∉ line) :
    endedLines (lines.flatMap fun line => line ++ ['\n']) = lines := by
  induction lines with
  | nil => rfl
  | cons line lines ih =>
      obtain ⟨hline, hlines⟩ := List.forall_mem_cons.mp h
      rw [List.flatMap_cons, List.append_assoc, List.singleton_append,
        endedLines_append_newline hline, ih hlines]

end Text

namespace CSharp

/-! ### Entities -/

/-- The names of the characters that XML does not have as they are, behind the sign before them. -/
def entities : List String := ["amp;", "lt;", "gt;"]

/-- A text of XML has no tags in it, and every `&` begins an entity. -/
structure IsPlainXml (cs : List Char) : Prop where
  not_mem : '<' ∉ cs ∧ '>' ∉ cs
  entity : ∀ behind, '&' :: behind <:+ cs → ∃ name ∈ entities, name.toList <+: behind

/-- The text with its entities read, in one pass from the left. -/
def unescapeXml : List Char → List Char
  | '&' :: 'a' :: 'm' :: 'p' :: ';' :: rest => '&' :: unescapeXml rest
  | '&' :: 'l' :: 't' :: ';' :: rest => '<' :: unescapeXml rest
  | '&' :: 'g' :: 't' :: ';' :: rest => '>' :: unescapeXml rest
  | c :: rest => c :: unescapeXml rest
  | [] => []

theorem unescapeXml_cons {c : Char} (hc : c ≠ '&') (rest : List Char) :
    unescapeXml (c :: rest) = c :: unescapeXml rest := by
  rw [unescapeXml]
  all_goals
    rintro _ rfl
    exact absurd rfl hc

theorem unescapeXml_xmlChar_append (c : Char) (rest : List Char) :
    unescapeXml (xmlChar c ++ rest) = c :: unescapeXml rest := by
  unfold xmlChar
  split
  · rfl
  · rfl
  · rfl
  · rename_i hamp _ _
    exact unescapeXml_cons hamp rest

theorem unescapeXml_flatMap_xmlChar (cs : List Char) :
    unescapeXml (cs.flatMap xmlChar) = cs := by
  induction cs with
  | nil => rfl
  | cons c cs ih => rw [List.flatMap_cons, unescapeXml_xmlChar_append, ih]

theorem IsPlainXml.nil : IsPlainXml [] where
  not_mem := ⟨List.not_mem_nil, List.not_mem_nil⟩
  entity behind h := absurd (List.suffix_nil.mp h) (List.cons_ne_nil '&' behind)

theorem IsPlainXml.cons {cs : List Char} (h : IsPlainXml cs) {c : Char}
    (hc : c ∉ ['&', '<', '>']) : IsPlainXml (c :: cs) where
  not_mem := by
    simp only [List.mem_cons, List.not_mem_nil, or_false, not_or] at hc ⊢
    exact ⟨⟨Ne.symm hc.2.1, h.not_mem.1⟩, Ne.symm hc.2.2, h.not_mem.2⟩
  entity behind hbehind := by
    rcases List.suffix_cons_iff.mp hbehind with hself | hbehind
    · rw [← (List.cons.inj hself).1] at hc
      exact absurd List.mem_cons_self hc
    · exact h.entity behind hbehind

theorem IsPlainXml.append {cs : List Char} (h : IsPlainXml cs) {before : List Char}
    (hbefore : ∀ c ∈ before, c ∉ ['&', '<', '>']) : IsPlainXml (before ++ cs) := by
  induction before with
  | nil => exact h
  | cons c before ih =>
      obtain ⟨hc, hbefore⟩ := List.forall_mem_cons.mp hbefore
      exact (ih hbefore).cons hc

theorem IsPlainXml.of_entity {cs : List Char} (h : IsPlainXml cs) (name : String)
    (hname : name ∈ entities) : IsPlainXml ('&' :: (name.toList ++ cs)) := by
  have hplain : ∀ name ∈ entities, name.toList.all (· ∉ ['&', '<', '>']) := by decide
  have hrest := h.append (Text.forall_mem_of_all (hplain name hname))
  constructor
  · simpa using hrest.not_mem
  · intro behind hbehind
    rcases List.suffix_cons_iff.mp hbehind with hself | hbehind
    · rw [(List.cons.inj hself).2]
      exact ⟨name, hname, List.prefix_append _ _⟩
    · exact hrest.entity behind hbehind

theorem IsPlainXml.of_xmlChar {cs : List Char} (h : IsPlainXml cs) (c : Char) :
    IsPlainXml (xmlChar c ++ cs) := by
  unfold xmlChar
  split
  · exact h.of_entity "amp;" (by decide)
  · exact h.of_entity "lt;" (by decide)
  · exact h.of_entity "gt;" (by decide)
  · rename_i hamp hlt hgt
    exact h.cons (by simpa using ⟨hamp, hlt, hgt⟩)

theorem isPlainXml_flatMap_xmlChar (cs : List Char) : IsPlainXml (cs.flatMap xmlChar) := by
  induction cs with
  | nil => exact .nil
  | cons c cs ih =>
      rw [List.flatMap_cons]
      exact ih.of_xmlChar c

/-! ### Lines -/

/-- What a line of a comment says, behind its indentation, its slashes and one space. -/
def contentOf (indent : String) (line : List Char) : List Char :=
  let text := line.drop (indent ++ "///").toList.length
  unescapeXml (if text.head? = some ' ' then text.tail else text)

/-- A text consists of whole lines, the first and the last of which enclose a summary. They are
indented, marked as a comment and without blanks at their ends, and have no tags between them. -/
structure IsSummary (indent : String) (contents : List (List Char)) (text : List Char) : Prop where
  lines_eq : Text.endedLines text =
    (indent ++ "/// <summary>").toList :: contents ++ [(indent ++ "/// </summary>").toList]
  eq_lines : text = (Text.endedLines text).flatMap (· ++ ['\n'])
  begins : ∀ line ∈ Text.endedLines text, (indent ++ "///").toList <+: line
  ends : ∀ line ∈ Text.endedLines text, ∀ c ∈ line.getLast?, ¬ Text.isBlank c
  plain : ∀ line ∈ contents, IsPlainXml line

theorem IsSummary.contents_unique {indent : String} {contents others : List (List Char)}
    {text : List Char} (h : IsSummary indent contents text)
    (hothers : IsSummary indent others text) : contents = others := by
  have heq := h.lines_eq.symm.trans hothers.lines_eq
  exact List.append_cancel_right (List.cons.inj heq).2

theorem contentOf_commentLine (indent : String) (line : List Char) :
    contentOf indent (indent.toList ++ (commentLine line).toList) = line := by
  rw [contentOf, commentLine_eq]
  split
  · rename_i hempty
    rw [← String.toList_append, List.drop_length, List.isEmpty_iff.mp hempty]
    rfl
  · have hbegins : indent.toList ++ ("/// " ++ String.ofList (line.flatMap xmlChar)).toList =
        (indent ++ "///").toList ++ ' ' :: line.flatMap xmlChar := by
      simp [String.toList_append]
    rw [hbegins, List.drop_left]
    exact unescapeXml_flatMap_xmlChar line

variable {indent : String} (hindent : ∀ c ∈ indent.toList, Text.isBlank c ∧ c ≠ '\n')
include hindent

theorem isPlainXml_commentLine (line : List Char) :
    IsPlainXml (indent.toList ++ (commentLine line).toList) := by
  have hindentation : ∀ c ∈ indent.toList, c ∉ ['&', '<', '>'] := by
    intro c hc hmark
    have hblank := (hindent c hc).1
    simp only [List.mem_cons, List.not_mem_nil, or_false] at hmark
    rcases hmark with rfl | rfl | rfl <;> cases hblank
  have hslashes : ∀ marks ∈ ["///", "/// "], ∀ c ∈ marks.toList, c ∉ ['&', '<', '>'] := by
    have hall : ∀ marks ∈ ["///", "/// "], marks.toList.all (· ∉ ['&', '<', '>']) := by decide
    exact fun marks hmarks => Text.forall_mem_of_all (hall marks hmarks)
  rw [commentLine_eq]
  split
  · have hplain := IsPlainXml.nil.append (hslashes "///" (by decide))
    rw [List.append_nil] at hplain
    exact hplain.append hindentation
  · rw [String.toList_append, @String.toList_ofList (line.flatMap xmlChar)]
    have hplain := (isPlainXml_flatMap_xmlChar line).append (hslashes "/// " (by decide))
    exact hplain.append hindentation

theorem isSummary_comment {described : List (List Char)}
    (hnewline : ∀ line ∈ described, '\n' ∉ line)
    (hlast : ∀ line ∈ described, ∀ c ∈ line.getLast?, ¬ Text.isBlank c) :
    IsSummary indent (described.map fun line => indent.toList ++ (commentLine line).toList)
      ((comment described).flatMap fun text => (indent.toList ++ text.toList) ++ ['\n']) := by
  have hslashes := csharp_comment_slashes hnewline
  have hlines : Text.endedLines ((comment described).flatMap fun text =>
      (indent.toList ++ text.toList) ++ ['\n']) =
        (comment described).map fun text => indent.toList ++ text.toList := by
    rw [← List.flatMap_map (fun text : String => indent.toList ++ text.toList) (· ++ ['\n'])]
    apply Text.endedLines_flatMap_append_newline
    rw [List.forall_mem_map]
    intro text htext hmem
    rcases List.mem_append.mp hmem with hmem | hmem
    · exact (hindent '\n' hmem).2 rfl
    · exact (hslashes text htext).1 hmem
  constructor
  · rw [hlines, comment, String.toList_append, String.toList_append]
    simp
  · rw [hlines, List.flatMap_map]
  · rw [hlines, List.forall_mem_map]
    intro text htext
    rw [String.toList_append]
    exact (List.prefix_append_right_inj _).mpr (hslashes text htext).2
  · rw [hlines, List.forall_mem_map, forall_mem_comment]
    have htags : ∀ tag ∈ ["/// <summary>", "/// </summary>"],
        ∀ c ∈ (indent.toList ++ tag.toList).getLast?, ¬ Text.isBlank c := by
      intro tag htag
      have hend : ∀ tag ∈ ["/// <summary>", "/// </summary>"],
          tag.toList.getLast? = some '>' := by decide
      rw [List.getLast?_append, hend tag htag]
      rintro _ ⟨⟩
      decide
    refine ⟨htags _ (by decide), fun line hline c hc hblank => ?_, htags _ (by decide)⟩
    have hmark : c ∉ ['/', ';'] := by
      intro hmark
      simp only [List.mem_cons, List.not_mem_nil, or_false] at hmark
      rcases hmark with rfl | rfl <;> cases hblank
    exact getLast?_commentLine hmark _ (fun h => hlast line hline c h hblank) hc
  · rw [List.forall_mem_map]
    exact fun line _ => isPlainXml_commentLine hindent line

theorem exists_isSummary {description : String}
    (hdescription : ∃ c ∈ description.toList, ¬ Text.isBlank c) : ∃ contents,
      IsSummary indent contents (Dialect.csharp.fragment indent description).toList ∧
      contents.map (contentOf indent) =
        ((Text.trim description.toList).splitOn '\n').map Text.trimEnd := by
  refine ⟨(Text.describedLines description.toList).map fun line =>
    indent.toList ++ (commentLine line).toList, ?_, ?_⟩
  · rw [toList_fragment .csharp indent hdescription]
    apply isSummary_comment hindent
    · exact fun line hline => Text.newline_not_mem_of_mem_trimmed_lines hline
    · intro line hline c hc
      obtain ⟨untrimmed, -, rfl⟩ := List.mem_map.mp hline
      rw [Text.isBlank_of_getLast?_trimEnd hc]
      exact Bool.false_ne_true
  · have hcontents : (contentOf indent ∘ fun line => indent.toList ++ (commentLine line).toList) =
        id := funext (contentOf_commentLine indent)
    rw [← Text.describedLines_eq_map_splitOn hdescription, List.map_map, hcontents, List.map_id]

end CSharp

/-- The comment for a description consists of whole lines, and what its lines say between the first
and the last are the lines of the description: those of the trimmed text, without blanks at their
ends. So descriptions with other lines have other comments. -/
theorem fragment_isSummary_and_contents_eq {indent description : String}
    (hindent : ∀ c ∈ indent.toList, Text.isBlank c ∧ c ≠ '\n')
    (hdescription : ∃ c ∈ description.toList, ¬ Text.isBlank c) :
    (∀ (style : Indent) (depth : Nat), indent = String.join (List.replicate depth style.unit) →
      renderLines style (Dialect.csharp.commentLines depth (commentOf (some description))) =
        Dialect.csharp.fragment indent description) ∧
    (∃ contents,
      CSharp.IsSummary indent contents (Dialect.csharp.fragment indent description).toList ∧
      contents.map (CSharp.contentOf indent) =
        ((Text.trim description.toList).splitOn '\n').map Text.trimEnd) ∧
    ∀ other : String, (∃ c ∈ other.toList, ¬ Text.isBlank c) →
      ((Text.trim other.toList).splitOn '\n').map Text.trimEnd ≠
        ((Text.trim description.toList).splitOn '\n').map Text.trimEnd →
      Dialect.csharp.fragment indent other ≠ Dialect.csharp.fragment indent description := by
  have hreads := CSharp.exists_isSummary hindent hdescription
  refine ⟨?_, hreads, fun other hother hne heq => ?_⟩
  · rintro style depth rfl
    exact renderLines_commentLines .csharp style depth description
  · obtain ⟨contents, hcontents, hlines⟩ := hreads
    obtain ⟨contents', hcontents', hlines'⟩ := CSharp.exists_isSummary hindent hother
    rw [heq] at hcontents'
    rw [← hlines, ← hlines', hcontents.contents_unique hcontents'] at hne
    exact hne rfl

namespace Entities

/-- Entities and tags, one of them behind an entity, over lines that end in three ways. -/
def spelled : String := " a &lt; <b> &amp;gt;\r\n \t\n  c & d \n"

/-- The same with an entity fewer. -/
def meant : String := "a < <b> &amp;gt;\n\n  c & d"

theorem fragment_isSummary_and_contents_eq_of_entities :
    (∀ c ∈ "\t".toList, Text.isBlank c ∧ c ≠ '\n') ∧
    (∃ c ∈ spelled.toList, ¬ Text.isBlank c) ∧ (∃ c ∈ meant.toList, ¬ Text.isBlank c) ∧
    renderLines .tabs (Dialect.csharp.commentLines 1 (commentOf (some spelled))) =
      Dialect.csharp.fragment "\t" spelled ∧
    (∃ contents,
      CSharp.IsSummary "\t" contents (Dialect.csharp.fragment "\t" spelled).toList ∧
      contents.map (CSharp.contentOf "\t") =
        ["a &lt; <b> &amp;gt;", "", "  c & d"].map String.toList) ∧
    Dialect.csharp.fragment "\t" meant ≠ Dialect.csharp.fragment "\t" spelled := by
  have hindent : ∀ c ∈ "\t".toList, Text.isBlank c ∧ c ≠ '\n' :=
    Text.forall_mem_of_all (by decide)
  have hspelled : ∃ c ∈ spelled.toList, ¬ Text.isBlank c := ⟨'a', by decide, by decide⟩
  have hmeant : ∃ c ∈ meant.toList, ¬ Text.isBlank c := ⟨'a', by decide, by decide⟩
  have hlines : ((Text.trim spelled.toList).splitOn '\n').map Text.trimEnd =
      ["a &lt; <b> &amp;gt;", "", "  c & d"].map String.toList := by decide
  obtain ⟨hfile, hcontents, hothers⟩ := fragment_isSummary_and_contents_eq hindent hspelled
  rw [hlines] at hcontents
  exact ⟨hindent, hspelled, hmeant, hfile .tabs 1 (by decide), hcontents,
    hothers meant hmeant (by decide)⟩

end Entities

end SchemaClasses
