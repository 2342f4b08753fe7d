import SchemaClasses.Model.Generate
import SchemaClasses.Proofs.Trimming

/-! The comment for a description, by itself, and as the lines that C# reads. A description is cut
into lines at its line feeds. C# ends a line at four more characters, and what stands behind one of
them in a line of the description is read as code, unless it begins as a comment line does. -/

namespace SchemaClasses

/-- The comment for a description, with an indentation before each of its lines. -/
def Dialect.fragment (d : Dialect) (indent description : String) : String :=
  String.join ((d.commentLines 0 (commentOf (some description))).map fun l =>
    indent ++ l.text ++ "\n")

theorem renderLines_commentLines (d : Dialect) (style : Indent) (depth : Nat)
    (description : String) :
    renderLines style (d.commentLines depth (commentOf (some description))) =
      d.fragment (String.join (List.replicate depth style.unit)) description := by
  rw [renderLines, Dialect.fragment]
  unfold Dialect.commentLines
  cases commentOf (some description) with
  | none => rfl
  | some text =>
      rw [List.map_map, List.map_map]
      rfl

theorem toList_fragment (d : Dialect) (indent : String) {description : String}
    (h : ∃ c ∈ description.toList, ¬ Text.isBlank c) : (d.fragment indent description).toList =
      (d.comment (Text.describedLines description.toList)).flatMap fun text =>
        (indent.toList ++ text.toList) ++ ['\n'] := by
  have hcomment : commentOf (some description) = some (Text.trimmed description) :=
    Text.trimmed?_eq_some (by simpa using h)
  rw [Dialect.fragment, hcomment, Dialect.commentLines, Text.trimmed, String.toList_ofList,
    ← Text.describedLines, String.toList_join, List.map_map, List.flatMap_map]
  simp only [Function.comp_apply, String.toList_append]
  rfl

namespace CSharp

/-- The characters that end a line. -/
def isTerminator (c : Char) : Bool :=
  c ∈ ['\r', '\n', '\u0085', '\u2028', '\u2029']

/-- The lines of a text. A carriage return and a line feed behind it end one line together. -/
def lines : List Char → List (List Char)
  | [] => [[]]
  | '\r' :: '\n' :: rest => [] :: lines rest
  | c :: rest => if isTerminator c then [] :: lines rest else (lines rest).modifyHead (c :: ·)

theorem lines_ne_nil (cs : List Char) : lines cs ≠ [] := by
  fun_induction lines cs with
  | case1 => simp
  | case2 => simp
  | case3 => simp
  | case4 c rest hmark hc ih => rwa [Ne, List.modifyHead_eq_nil_iff]

theorem lines_cons_of_not {c : Char} (hc : isTerminator c = false) (rest : List Char) :
    lines (c :: rest) = (lines rest).modifyHead (c :: ·) := by
  rw [lines, hc, if_neg Bool.false_ne_true]
  rintro _ rfl
  cases hc

theorem lines_append {a : List Char} (h : ∀ c ∈ a, isTerminator c = false) (b : List Char) :
    lines (a ++ b) = (lines b).modifyHead (a ++ ·) := by
  induction a with
  | nil => rw [List.nil_append]; cases lines b <;> rfl
  | cons c a ih =>
      obtain ⟨hc, ha⟩ := List.forall_mem_cons.mp h
      rw [List.cons_append, lines_cons_of_not hc, ih ha, List.modifyHead_modifyHead]
      rfl

theorem lines_of_not_terminator {a : List Char} (h : ∀ c ∈ a, isTerminator c = false) :
    lines a = [a] := by
  have happend := lines_append h []
  rwa [List.append_nil, lines, List.modifyHead_cons, List.append_nil] at happend

theorem lines_cons_terminator {c : Char} (hc : isTerminator c) {rest : List Char}
    (h : c = '\r' → rest.head? ≠ some '\n') : lines (c :: rest) = [] :: lines rest := by
  rw [lines, if_pos hc]
  rintro behind rfl rfl
  exact h rfl rfl

/-- A line feed ends a line of its own, unless a carriage return stands before it. -/
theorem lines_append_newline {a : List Char} (h : a.getLast? ≠ some '\r') (b : List Char) :
    lines (a ++ '\n' :: b) = lines a ++ lines b := by
  have hrest : ∀ (c : Char) (rest : List Char), (c :: rest).getLast? ≠ some '\r' →
      rest.getLast? ≠ some '\r' := by
    intro c rest hlast
    cases rest with
    | nil => nofun
    | cons d rest => rwa [List.getLast?_cons_cons] at hlast
  fun_induction lines a with
  | case1 => rfl
  | case2 rest ih =>
      have hlines := ih (hrest '\n' rest (hrest '\r' _ h))
      rw [List.cons_append, List.cons_append, lines, hlines, List.cons_append]
  | case3 c rest hmark hc ih =>
      rw [List.cons_append, lines_cons_terminator hc, ih (hrest c rest h), List.cons_append]
      rintro rfl hhead
      cases rest with
      | nil => exact h rfl
      | cons d rest =>
          cases hhead
          exact hmark rest rfl rfl
  | case4 c rest hmark hc ih =>
      rw [List.cons_append, lines_cons_of_not (Bool.eq_false_iff.mpr hc), ih (hrest c rest h)]
      obtain ⟨first, others, hlines⟩ := List.exists_cons_of_ne_nil (lines_ne_nil rest)
      rw [hlines]
      rfl

theorem lines_flatMap_append_newline {texts : List (List Char)}
    (h : ∀ text ∈ texts, text.getLast? ≠ some '\r') :
    lines (texts.flatMap fun text => text ++ ['\n']) = texts.flatMap lines ++ [[]] := by
  induction texts with
  | nil => rfl
  | cons text texts ih =>
      obtain ⟨htext, htexts⟩ := List.forall_mem_cons.mp h
      rw [List.flatMap_cons, List.append_assoc, List.singleton_append, lines_append_newline htext,
        ih htexts, List.flatMap_cons, List.append_assoc]

/-! ### Escaped text -/

theorem xmlChar_of_terminator {c : Char} (h : isTerminator c) : xmlChar c = [c] := by
  unfold xmlChar
  split
  · cases h
  · cases h
  · cases h
  · rfl

theorem not_terminator_of_mem_xmlChar {c : Char} (hc : isTerminator c = false) :
    ∀ d ∈ xmlChar c, isTerminator d = false := by
  unfold xmlChar
  split
  · exact Text.forall_mem_of_all (by decide)
  · exact Text.forall_mem_of_all (by decide)
  · exact Text.forall_mem_of_all (by decide)
  · intro d hd
    rw [List.mem_singleton.mp hd]
    exact hc

theorem head?_flatMap_xmlChar_eq_newline_iff (cs : List Char) :
    (cs.flatMap xmlChar).head? = some '\n' ↔ cs.head? = some '\n' := by
  cases cs with
  | nil => rfl
  | cons c cs =>
      rw [List.flatMap_cons]
      unfold xmlChar
      split <;> simp

/-- Escaping changes nothing at the ends of lines. -/
theorem lines_flatMap_xmlChar (cs : List Char) :
    lines (cs.flatMap xmlChar) = (lines cs).map (·.flatMap xmlChar) := by
  fun_induction lines cs with
  | case1 => rfl
  | case2 rest ih =>
      have hescaped : ('\r' :: '\n' :: rest).flatMap xmlChar =
          '\r' :: '\n' :: rest.flatMap xmlChar := rfl
      rw [hescaped, lines, ih]
      rfl
  | case3 c rest hmark hc ih =>
      rw [List.flatMap_cons, xmlChar_of_terminator hc, List.singleton_append, List.map_cons, ← ih]
      apply lines_cons_terminator hc
      rintro rfl hhead
      rw [head?_flatMap_xmlChar_eq_newline_iff] at hhead
      obtain ⟨behind, rfl⟩ := List.head?_eq_some_iff.mp hhead
      exact hmark behind rfl rfl
  | case4 c rest hmark hc ih =>
      rw [List.flatMap_cons,
        lines_append (not_terminator_of_mem_xmlChar (Bool.eq_false_iff.mpr hc)), ih]
      cases lines rest <;> rfl

theorem xmlChar_eq_self_or (c : Char) :
    xmlChar c = [c] ∨ c ∈ ['&', '<', '>'] ∧ ∃ name, xmlChar c = '&' :: name := by
  unfold xmlChar
  split <;> simp

/-- Characters that are not escaped begin an escaped text just where they begin the text. -/
theorem prefix_flatMap_xmlChar_iff {marks : List Char} (h : ∀ c ∈ marks, c ∉ ['&', '<', '>'])
    (cs : List Char) : marks <+: cs.flatMap xmlChar ↔ marks <+: cs := by
  induction marks generalizing cs with
  | nil => simp
  | cons m marks ih =>
      obtain ⟨hm, hmarks⟩ := List.forall_mem_cons.mp h
      cases cs with
      | nil => rfl
      | cons c cs =>
          rw [List.flatMap_cons, List.cons_prefix_cons]
          rcases xmlChar_eq_self_or c with hself | ⟨hc, name, hescape⟩
          · rw [hself, List.singleton_append, List.cons_prefix_cons, ih hmarks]
          · rw [hescape, List.cons_append, List.cons_prefix_cons]
            refine iff_of_false (fun hbegins => ?_) fun hbegins => ?_
            · rw [hbegins.1] at hm
              exact hm List.mem_cons_self
            · rw [hbegins.1] at hm
              exact hm hc

theorem flatMap_xmlChar_eq_nil_iff (cs : List Char) : cs.flatMap xmlChar = [] ↔ cs = [] := by
  cases cs with
  | nil => simp
  | cons c cs =>
      rcases xmlChar_eq_self_or c with hself | ⟨-, name, hescape⟩
      · simp [hself]
      · simp [hescape]

theorem getLast?_flatMap_xmlChar {mark : Char} (hmark : mark ≠ ';') {cs : List Char}
    (h : cs.getLast? ≠ some mark) : (cs.flatMap xmlChar).getLast? ≠ some mark := by
  cases cs using List.reverseRecOn with
  | nil => exact h
  | append_singleton cs c =>
      rw [List.getLast?_concat] at h
      rw [List.flatMap_append, List.flatMap_singleton]
      unfold xmlChar
      split <;> simp [Ne.symm hmark]
      simpa using h

/-- A comment line ends as the line of the description does, but for an escape or slashes. -/
theorem getLast?_commentLine {mark : Char} (hmark : mark ∉ ['/', ';']) (before : List Char)
    {line : List Char} (h : line.getLast? ≠ some mark) :
    (before ++ (commentLine line).toList).getLast? ≠ some mark := by
  simp only [List.mem_cons, List.not_mem_nil, or_false, not_or] at hmark
  rw [commentLine_eq]
  split
  · rw [List.getLast?_append_of_ne_nil before (by decide)]
    exact fun hlast => hmark.1 (Option.some.inj hlast).symm
  · rename_i hempty
    have hne : line.flatMap xmlChar ≠ [] := by
      rw [Ne, flatMap_xmlChar_eq_nil_iff]
      exact fun hnil => hempty (List.isEmpty_iff.mpr hnil)
    rw [String.toList_append, @String.toList_ofList (line.flatMap xmlChar), ← List.append_assoc,
      List.getLast?_append_of_ne_nil _ hne]
    exact getLast?_flatMap_xmlChar hmark.2 h

/-! ### Lines of comments -/

/-- Every line that has anything in it begins as a line of a comment. -/
def Documented (indent : String) (cs : List Char) : Prop :=
  ∀ line ∈ lines cs, line ≠ [] → (indent ++ "///").toList <+: line

/-- A line of a description goes on where C# ends a line in it, and does not happen to begin as a
line of the comment there. -/
def BreaksOff (indent : String) (line : List Char) : Prop :=
  ∃ piece ∈ (lines line).tail, piece ≠ [] ∧ ¬ (indent ++ "///").toList <+: piece

instance (indent : String) (cs : List Char) : Decidable (Documented indent cs) :=
  List.decidableBAll (fun line => line ≠ [] → (indent ++ "///").toList <+: line) _

instance (indent : String) (line : List Char) : Decidable (BreaksOff indent line) :=
  List.decidableBEx (fun piece => piece ≠ [] ∧ ¬ (indent ++ "///").toList <+: piece) _

variable {indent : String} (hindent : ∀ c ∈ indent.toList, c = '\t' ∨ c = ' ')

theorem documented_flatMap_iff {texts : List String}
    (h : ∀ text ∈ texts, (indent.toList ++ text.toList).getLast? ≠ some '\r') :
    Documented indent (texts.flatMap fun text => (indent.toList ++ text.toList) ++ ['\n']) ↔
      ∀ text ∈ texts, Documented indent (indent.toList ++ text.toList) := by
  have hlines := lines_flatMap_append_newline (List.forall_mem_map.mpr h)
  rw [List.flatMap_map, List.flatMap_map] at hlines
  unfold Documented
  rw [hlines]
  simp only [List.mem_append, List.mem_flatMap, List.mem_singleton]
  constructor
  · intro hall text htext line hline
    exact hall line (Or.inl ⟨text, htext, hline⟩)
  · rintro hall line (⟨text, htext, hline⟩ | rfl) hne
    · exact hall text htext line hline hne
    · exact absurd rfl hne

theorem forall_mem_comment {described : List (List Char)} {p : String → Prop} :
    (∀ text ∈ comment described, p text) ↔
      p "/// <summary>" ∧ (∀ line ∈ described, p (commentLine line)) ∧ p "/// </summary>" := by
  simp [comment, or_imp, forall_and]

include hindent

theorem not_terminator_indented {marks : List Char} (h : ∀ c ∈ marks, isTerminator c = false) :
    ∀ c ∈ indent.toList ++ marks, isTerminator c = false := by
  intro c hc
  rcases List.mem_append.mp hc with hc | hc
  · rcases hindent c hc with rfl | rfl <;> decide
  · exact h c hc

theorem documented_of_not_terminator {text : List Char} (h : ∀ c ∈ text, isTerminator c = false)
    (hmarks : "///".toList <+: text) : Documented indent (indent.toList ++ text) := by
  intro line hline _
  rw [lines_of_not_terminator (not_terminator_indented hindent h), List.mem_singleton] at hline
  rw [hline, String.toList_append]
  exact (List.prefix_append_right_inj _).mpr hmarks

/-- The first piece of a line stands behind the slashes, and the other pieces behind nothing. -/
theorem documented_commentLine_iff (line : List Char) :
    Documented indent (indent.toList ++ (commentLine line).toList) ↔ ¬ BreaksOff indent line := by
  rw [commentLine_eq]
  split
  · rename_i hempty
    rw [List.isEmpty_iff.mp hempty]
    refine iff_of_true (documented_of_not_terminator hindent (Text.forall_mem_of_all (by decide))
      List.prefix_rfl) ?_
    rintro ⟨piece, hpiece, -⟩
    cases hpiece
  · have hmarks : ∀ c ∈ (indent ++ "///").toList, c ∉ ['&', '<', '>'] := by
      rw [String.toList_append, List.forall_mem_append]
      refine ⟨fun c hc => ?_, Text.forall_mem_of_all (by decide)⟩
      rcases hindent c hc with rfl | rfl <;> decide
    obtain ⟨first, others, hlines⟩ := List.exists_cons_of_ne_nil (lines_ne_nil line)
    have hfirst : (indent ++ "///").toList <+:
        indent.toList ++ "/// ".toList ++ first.flatMap xmlChar := by
      rw [String.toList_append, List.append_assoc, List.prefix_append_right_inj]
      exact ⟨' ' :: first.flatMap xmlChar, rfl⟩
    rw [String.toList_append, @String.toList_ofList (line.flatMap xmlChar), ← List.append_assoc,
      Documented, lines_append (not_terminator_indented hindent (Text.forall_mem_of_all (by decide))),
      lines_flatMap_xmlChar, BreaksOff, hlines, List.map_cons, List.modifyHead_cons,
      List.tail_cons, List.forall_mem_cons, and_iff_right fun _ => hfirst, List.forall_mem_map]
    simp only [Ne, flatMap_xmlChar_eq_nil_iff, prefix_flatMap_xmlChar_iff hmarks, not_exists,
      not_and, not_not]

theorem documented_comment_iff {described : List (List Char)}
    (h : ∀ line ∈ described, line.getLast? ≠ some '\r') :
    Documented indent ((comment described).flatMap fun text =>
        (indent.toList ++ text.toList) ++ ['\n']) ↔
      ∀ line ∈ described, ¬ BreaksOff indent line := by
  have hfirst : Documented indent (indent.toList ++ "/// <summary>".toList) :=
    documented_of_not_terminator hindent (Text.forall_mem_of_all (by decide)) (by decide)
  have hlast : Documented indent (indent.toList ++ "/// </summary>".toList) :=
    documented_of_not_terminator hindent (Text.forall_mem_of_all (by decide)) (by decide)
  have hends : ∀ text ∈ comment described,
      (indent.toList ++ text.toList).getLast? ≠ some '\r' := by
    rw [forall_mem_comment]
    refine ⟨?_, fun line hline => getLast?_commentLine (by decide) indent.toList (h line hline), ?_⟩
    all_goals
      rw [List.getLast?_append_of_ne_nil _ (by decide)]
      decide
  rw [documented_flatMap_iff hends, forall_mem_comment, and_iff_right hfirst, and_iff_left hlast]
  exact forall₂_congr fun line _ => documented_commentLine_iff hindent line

end CSharp

/-- The comment for a description, as it stands in a file, has nothing but lines of a comment for C#
just where no line of the description breaks it off. -/
theorem fragment_documented_iff {indent description : String}
    (hindent : ∀ c ∈ indent.toList, c = '\t' ∨ c = ' ')
    (hdescription : ∃ c ∈ description.toList, ¬ Text.isBlank c) :
    (∀ (style : Indent) (depth : Nat), indent = String.join (List.replicate depth style.unit) →
      renderLines style (Dialect.csharp.commentLines depth (commentOf (some description))) =
        Dialect.csharp.fragment indent description) ∧
    (CSharp.Documented indent (Dialect.csharp.fragment indent description).toList ↔
      ∀ line ∈ Text.describedLines description.toList, ¬ CSharp.BreaksOff indent line) := by
  constructor
  · rintro style depth rfl
    exact renderLines_commentLines .csharp style depth description
  · rw [toList_fragment .csharp indent hdescription]
    apply CSharp.documented_comment_iff hindent
    intro line hline hlast
    obtain ⟨untrimmed, -, rfl⟩ := List.mem_map.mp hline
    exact absurd (Text.isBlank_of_getLast?_trimEnd hlast) (by decide)

namespace Spilled

/-- Lines that end in all the ways that a description is cut at, and one that goes on as a comment
by itself behind a separator. -/
def harmless : String := "First <b>line</b>\r\n\n Second\u2028\n/// Third\u2028\t/// goes on"

/-- One line for the generator, and five for C#. -/
def spilling : String := "First\rSecond\u0085Third\u2028Fourth\u2029Fifth"

theorem fragment_documented_iff_of_descriptions :
    (∀ c ∈ "\t".toList, c = '\t' ∨ c = ' ') ∧
    (∃ c ∈ harmless.toList, ¬ Text.isBlank c) ∧ (∃ c ∈ spilling.toList, ¬ Text.isBlank c) ∧
    renderLines .tabs (Dialect.csharp.commentLines 1 (commentOf (some harmless))) =
      Dialect.csharp.fragment "\t" harmless ∧
    CSharp.Documented "\t" (Dialect.csharp.fragment "\t" harmless).toList ∧
    ¬ CSharp.Documented "\t" (Dialect.csharp.fragment "\t" spilling).toList := by
  have hindent : ∀ c ∈ "\t".toList, c = '\t' ∨ c = ' ' := Text.forall_mem_of_all (by decide)
  have hharmless : ∃ c ∈ harmless.toList, ¬ Text.isBlank c := ⟨'F', by decide, by decide⟩
  have hspilling : ∃ c ∈ spilling.toList, ¬ Text.isBlank c := ⟨'F', by decide, by decide⟩
  obtain ⟨hfile, hiff⟩ := fragment_documented_iff hindent hharmless
  refine ⟨hindent, hharmless, hspilling, hfile .tabs 1 (by decide), hiff.mpr (by decide), ?_⟩
  rw [(fragment_documented_iff hindent hspilling).2]
  decide

/-- What stands behind any of four characters in a description stands outside of the comment. -/
theorem undocumented_behind_terminators :
    (∃ c ∈ spilling.toList, ¬ Text.isBlank c) ∧
    ¬ CSharp.Documented "\t" (Dialect.csharp.fragment "\t" spilling).toList ∧
    ["Second", "Third", "Fourth", "Fifth"].map String.toList ⊆
      CSharp.lines (Dialect.csharp.fragment "\t" spilling).toList := by
  exact ⟨⟨'F', by decide, by decide⟩, by decide, by decide⟩

end Spilled

end SchemaClasses
