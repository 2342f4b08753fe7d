import Mathlib.Data.List.Chain
import Mathlib.Data.List.DropRight
import SchemaClasses.Proofs.LineReader

/-! Readers that remove comments from the text of a file and know nothing of how it was laid out: in
C# they remove whole lines, in Java all that stands between the marks of a comment. Whatever a
description says, its comment is removed, and nothing beside it. -/

namespace SchemaClasses

namespace Text

def isTabOrSpace (c : Char) : Bool :=
  c = '\t' || c = ' '

/-- A line that ends with a line feed, and whose first characters behind tabs and spaces are three
slashes. -/
def isCommentLine (piece : List Char) : Bool :=
  piece.getLast? = some '\n' && ['/', '/', '/'].isPrefixOf (piece.dropWhile isTabOrSpace)

/-- The text without its comment lines. -/
def withoutCommentLines (cs : List Char) : List Char :=
  ((pieces cs).filter fun piece => !isCommentLine piece).flatten

/-- The text before the first place where two characters stand side by side, and the text behind
that place. -/
def cutAt? (x y : Char) : List Char → Option (List Char × List Char)
  | a :: b :: rest =>
    if a = x ∧ b = y then some ([], rest)
    else (cutAt? x y (b :: rest)).map fun cut => (a :: cut.1, cut.2)
  | _ => none

/-- The text before the first block comment and its indentation, and the text behind the comment and
the line feed after it. A comment that has no end is none. -/
def cutComment? (cs : List Char) : Option (List Char × List Char) :=
  (cutAt? '/' '*' cs).bind fun opened =>
    (cutAt? '*' '/' opened.2).map fun closed =>
      (opened.1.rdropWhile isTabOrSpace,
        if closed.2.head? = some '\n' then closed.2.tail else closed.2)

theorem length_lt_of_cutAt? {x y : Char} {cs : List Char} {cut : List Char × List Char}
    (h : cutAt? x y cs = some cut) : cut.2.length < cs.length := by
  induction cs generalizing cut with
  | nil => cases h
  | cons a cs ih =>
      cases cs with
      | nil => cases h
      | cons b cs =>
          rw [cutAt?] at h
          split at h
          · cases h
            simp only [List.length_cons]
            omega
          · obtain ⟨cut, hcut, rfl⟩ := Option.map_eq_some_iff.mp h
            have hlt := ih hcut
            exact Nat.lt_succ_of_lt hlt

theorem length_lt_of_cutComment? {cs : List Char} {cut : List Char × List Char}
    (h : cutComment? cs = some cut) : cut.2.length < cs.length := by
  obtain ⟨opened, hopened, h⟩ := Option.bind_eq_some_iff.mp h
  obtain ⟨closed, hclosed, rfl⟩ := Option.map_eq_some_iff.mp h
  have hbehind := (length_lt_of_cutAt? hclosed).trans (length_lt_of_cutAt? hopened)
  have htail : closed.2.tail.length ≤ closed.2.length := by simp
  dsimp only
  split <;> omega

/-- The text without its block comments. -/
def withoutBlockComments (cs : List Char) : List Char :=
  match _hcut : cutComment? cs with
  | none => cs
  | some cut => cut.1 ++ withoutBlockComments cut.2
termination_by cs.length
decreasing_by exact length_lt_of_cutComment? _hcut

/-- Two characters stand side by side nowhere. -/
def Apart (x y : Char) (cs : List Char) : Prop :=
  cs.IsChain fun a b => ¬ (a = x ∧ b = y)

section Cuts

variable {x y : Char}

theorem apart_of_not_mem {cs : List Char} (h : x ∉ cs) : Apart x y cs := by
  induction cs with
  | nil => exact .nil
  | cons c cs ih =>
      rw [List.mem_cons, not_or] at h
      exact (ih h.2).cons fun _ _ hmark => h.1 hmark.1.symm

theorem Apart.append {above below : List Char} (habove : Apart x y above)
    (hbelow : Apart x y below) (hlast : above.getLast? ≠ some x) : Apart x y (above ++ below) := by
  apply List.IsChain.append habove hbelow
  rintro a ha b _ ⟨rfl, _⟩
  exact hlast ha

theorem apart_append_of_not_mem {above below : List Char} (h : x ∉ above)
    (hbelow : Apart x y below) : Apart x y (above ++ below) :=
  (apart_of_not_mem h).append hbelow fun hlast => h (List.mem_of_mem_getLast? hlast)

theorem cutAt?_cons {a : Char} {cs : List Char} (h : ∀ b ∈ cs.head?, ¬ (a = x ∧ b = y)) :
    cutAt? x y (a :: cs) = (cutAt? x y cs).map fun cut => (a :: cut.1, cut.2) := by
  cases cs with
  | nil => rfl
  | cons b cs => rw [cutAt?, if_neg (h b rfl)]

/-- No cut is made inside a text without the two characters. -/
theorem cutAt?_append {line : List Char} (rest : List Char)
    (h : Apart x y (line ++ rest.take 1)) :
    cutAt? x y (line ++ rest) = (cutAt? x y rest).map fun cut => (line ++ cut.1, cut.2) := by
  induction line with
  | nil => exact (congrFun Option.map_id (cutAt? x y rest)).symm
  | cons a line ih =>
      rw [List.cons_append, Apart, List.isChain_cons] at h
      have hhead : (line ++ rest.take 1).head? = (line ++ rest).head? := by
        rw [List.head?_append, List.head?_append, List.head?_take, if_neg Nat.one_ne_zero]
      rw [hhead] at h
      rw [List.cons_append, cutAt?_cons h.1, ih h.2, Option.map_map]
      rfl

theorem cutAt?_append_cons_cons {line : List Char} (h : Apart x y (line ++ [x]))
    (rest : List Char) : cutAt? x y (line ++ x :: y :: rest) = some (line, rest) := by
  rw [cutAt?_append (x :: y :: rest) h, cutAt?, if_pos ⟨rfl, rfl⟩, Option.map_some,
    List.append_nil]

theorem cutAt?_append_cons {c : Char} (hc : c ≠ x) {line : List Char}
    (h : Apart x y (line ++ [c])) (rest : List Char) :
    cutAt? x y (line ++ c :: rest) =
      (cutAt? x y rest).map fun cut => (line ++ c :: cut.1, cut.2) := by
  rw [cutAt?_append (c :: rest) h, cutAt?_cons fun _ _ hmark => hc hmark.1, Option.map_map]
  rfl

end Cuts

theorem withoutBlockComments_of_none {cs : List Char} (h : cutComment? cs = none) :
    withoutBlockComments cs = cs := by
  rw [withoutBlockComments]
  split
  · rfl
  · rename_i hcut
    rw [h] at hcut
    cases hcut

theorem withoutBlockComments_of_some {cs : List Char} {cut : List Char × List Char}
    (h : cutComment? cs = some cut) :
    withoutBlockComments cs = cut.1 ++ withoutBlockComments cut.2 := by
  rw [withoutBlockComments]
  split
  · rename_i hcut
    rw [h] at hcut
    cases hcut
  · rename_i hcut
    rw [h] at hcut
    cases hcut
    rfl

theorem rdropWhile_append_cons {p : Char → Bool} {c : Char} (hc : p c = false)
    (line rest : List Char) : (line ++ c :: rest).rdropWhile p = line ++ c :: rest.rdropWhile p := by
  induction rest using List.reverseRecOn with
  | nil => exact List.rdropWhile_concat_neg p line c (by simp [hc])
  | append_singleton rest b ih =>
      by_cases hb : p b
      · rw [← List.cons_append, ← List.append_assoc, List.rdropWhile_concat_pos _ _ _ hb, ih,
          List.rdropWhile_concat_pos _ _ _ hb]
      · rw [← List.cons_append, ← List.append_assoc, List.rdropWhile_concat_neg _ _ _ hb,
          List.rdropWhile_concat_neg _ _ _ hb, List.append_assoc, List.cons_append]

theorem withoutBlockComments_line {line : List Char} (h : Apart '/' '*' (line ++ ['\n']))
    (rest : List Char) :
    withoutBlockComments (line ++ '\n' :: rest) = line ++ '\n' :: withoutBlockComments rest := by
  have hcut : cutComment? (line ++ '\n' :: rest) =
      (cutComment? rest).map fun cut => (line ++ '\n' :: cut.1, cut.2) := by
    rw [cutComment?, cutAt?_append_cons (by decide) h, cutComment?]
    cases cutAt? '/' '*' rest with
    | none => rfl
    | some opened =>
        rw [Option.map_some, Option.bind_some, Option.bind_some]
        cases cutAt? '*' '/' opened.2 with
        | none => rfl
        | some closed =>
            rw [Option.map_some, rdropWhile_append_cons rfl]
            rfl
  cases hrest : cutComment? rest with
  | none =>
      rw [hrest] at hcut
      rw [withoutBlockComments_of_none hcut, withoutBlockComments_of_none hrest]
  | some cut =>
      rw [hrest] at hcut
      rw [withoutBlockComments_of_some hcut, withoutBlockComments_of_some hrest,
        List.append_assoc, List.cons_append]

theorem withoutBlockComments_comment {indent body : List Char}
    (hindent : ∀ c ∈ indent, isTabOrSpace c) (hbody : Apart '*' '/' (body ++ ['*']))
    (rest : List Char) :
    withoutBlockComments (indent ++ '/' :: '*' :: (body ++ '*' :: '/' :: '\n' :: rest)) =
      withoutBlockComments rest := by
  have hopen : Apart '/' '*' (indent ++ ['/']) :=
    apart_append_of_not_mem (fun hmem => absurd (hindent '/' hmem) (by decide)) (.singleton '/')
  have hcut : cutComment? (indent ++ '/' :: '*' :: (body ++ '*' :: '/' :: '\n' :: rest)) =
      some ([], rest) := by
    rw [cutComment?, cutAt?_append_cons_cons hopen, Option.bind_some,
      cutAt?_append_cons_cons hbody, Option.map_some, List.rdropWhile_eq_nil_iff.mpr hindent]
    rfl
  rw [withoutBlockComments_of_some hcut, List.nil_append]

theorem withoutCommentLines_line {line : List Char} (h : '\n' ∉ line) (rest : List Char) :
    withoutCommentLines (line ++ '\n' :: rest) =
      if isCommentLine (line ++ ['\n']) then withoutCommentLines rest
      else line ++ '\n' :: withoutCommentLines rest := by
  rw [withoutCommentLines, pieces_append_newline h, List.filter_cons]
  cases isCommentLine (line ++ ['\n']) with
  | true => rfl
  | false => exact (List.append_cons line '\n' _).symm

end Text

/-- A text without its comments. -/
def Language.stripped : Language → List Char → List Char
  | .csharp => Text.withoutCommentLines
  | .java => Text.withoutBlockComments

theorem toList_renderLines_cons (indent : Indent) (l : Line) (lines : List Line)
    (rest : List Char) : (renderLines indent (l :: lines)).toList ++ rest =
      (indent.before l.depth ++ l.text.toList) ++
        '\n' :: ((renderLines indent lines).toList ++ rest) := by
  rw [toList_renderLines, List.flatMap_cons, ← toList_renderLines, Line.toList_render]
  simp only [List.append_assoc, List.cons_append, List.nil_append]

variable {indent : Indent}

theorem not_mem_before {c : Char} (hc : Text.isTabOrSpace c = false) (depth : Nat) :
    c ∉ indent.before depth := by
  intro hmem
  rcases Indent.eq_tab_or_space_of_mem_before hmem with rfl | rfl <;> cases hc

theorem isTabOrSpace_of_mem_before {depth : Nat} {c : Char} (h : c ∈ indent.before depth) :
    Text.isTabOrSpace c := by
  rcases Indent.eq_tab_or_space_of_mem_before h with rfl | rfl <;> rfl

/-- A line of code stays, unless it is taken for a line of a comment or begins one. -/
theorem stripped_line (language : Language) {l : Line} (hnewline : '\n' ∉ l.text.toList)
    (hcsharp : ¬ ['/', '/', '/'] <+: (l.text.toList ++ ['\n']).dropWhile Text.isTabOrSpace)
    (hjava : Text.Apart '/' '*' (l.text.toList ++ ['\n'])) (rest : List Char) :
    language.stripped ((renderLines indent [l]).toList ++ rest) =
      (renderLines indent [l]).toList ++ language.stripped rest := by
  have hline : '\n' ∉ indent.before l.depth ++ l.text.toList := by
    rw [List.mem_append, not_or]
    exact ⟨not_mem_before rfl l.depth, hnewline⟩
  rw [toList_renderLines_cons, toList_renderLines_cons]
  cases language with
  | csharp =>
      have hcode : Text.isCommentLine (indent.before l.depth ++ l.text.toList ++ ['\n']) = false := by
        rw [Text.isCommentLine, List.append_assoc,
          List.dropWhile_append_of_pos fun c hc => isTabOrSpace_of_mem_before hc,
          Bool.and_eq_false_iff, ← Bool.not_eq_true (List.isPrefixOf _ _), List.isPrefixOf_iff_prefix]
        exact Or.inr hcsharp
      rw [Language.stripped, Text.withoutCommentLines_line hline, hcode, if_neg Bool.false_ne_true]
      rfl
  | java =>
      have hcode : Text.Apart '/' '*' (indent.before l.depth ++ l.text.toList ++ ['\n']) := by
        rw [List.append_assoc]
        exact Text.apart_append_of_not_mem (not_mem_before rfl l.depth) hjava
      exact Text.withoutBlockComments_line hcode rest

theorem stripped_line_of_lacks (language : Language) {l : Line}
    (h : ∀ c ∈ marks, Lacks c l.text) (rest : List Char) :
    language.stripped ((renderLines indent [l]).toList ++ rest) =
      (renderLines indent [l]).toList ++ language.stripped rest := by
  have hslash : '/' ∉ l.text.toList ++ ['\n'] := by
    rw [List.mem_append, not_or]
    exact ⟨h '/' (by decide), by decide⟩
  apply stripped_line language (h '\n' (by decide))
  · intro hbegins
    apply hslash
    exact (List.dropWhile_sublist _).subset (hbegins.subset List.mem_cons_self)
  · exact Text.apart_of_not_mem hslash

/-- The first line of a file is a comment, but of a kind that no description is written in. -/
theorem stripped_stamp (language : Language) (options : Options) (rest : List Char) :
    language.stripped ((renderLines indent [⟨0, stampLine options⟩]).toList ++ rest) =
      (renderLines indent [⟨0, stampLine options⟩]).toList ++ language.stripped rest := by
  apply stripped_line
  · exact newline_not_mem_stampLine options
  · rw [toList_stampLine]
    intro hbegins
    have hthird := hbegins.getElem (show 2 < 3 by decide)
    cases hthird
  · have hfixed : Text.Apart '/' '*' "// This file was generated by a tool on ".toList := by
      unfold Text.Apart
      decide
    have htimestamp : '/' ∉ options.timestamp.toList ++ ['\n'] := by
      rw [List.mem_append, not_or]
      exact ⟨lacks_timestamp (by decide) options, by decide⟩
    rw [toList_stampLine, List.append_assoc]
    exact hfixed.append (Text.apart_of_not_mem htimestamp) (by decide)

theorem withoutCommentLines_slashes {depth : Nat} {texts : List String}
    (h : ∀ text ∈ texts, '\n' ∉ text.toList ∧ ['/', '/', '/'] <+: text.toList)
    (rest : List Char) :
    Text.withoutCommentLines ((renderLines indent (texts.map (⟨depth, ·⟩))).toList ++ rest) =
      Text.withoutCommentLines rest := by
  induction texts with
  | nil => rfl
  | cons text texts ih =>
      obtain ⟨⟨hnewline, behind, hbehind⟩, htexts⟩ := List.forall_mem_cons.mp h
      have hline : '\n' ∉ indent.before depth ++ text.toList := by
        rw [List.mem_append, not_or]
        exact ⟨not_mem_before rfl depth, hnewline⟩
      have hcomment : Text.isCommentLine (indent.before depth ++ text.toList ++ ['\n']) := by
        rw [Text.isCommentLine, List.getLast?_concat, List.append_assoc,
          List.dropWhile_append_of_pos fun c hc => isTabOrSpace_of_mem_before hc, ← hbehind]
        rfl
      rw [List.map_cons, toList_renderLines_cons, Text.withoutCommentLines_line hline,
        if_pos hcomment, ih htexts]

theorem flatMap_xmlChar_newline {line : List Char} (h : '\n' ∉ line) :
    '\n' ∉ line.flatMap CSharp.xmlChar := by
  rw [List.mem_flatMap]
  rintro ⟨c, hc, hmem⟩
  unfold CSharp.xmlChar at hmem
  split at hmem
  · exact absurd hmem (by decide)
  · exact absurd hmem (by decide)
  · exact absurd hmem (by decide)
  · rw [← List.mem_singleton.mp hmem] at hc
    exact h hc

theorem csharp_comment_slashes {lines : List (List Char)} (h : ∀ line ∈ lines, '\n' ∉ line) :
    ∀ text ∈ CSharp.comment lines, '\n' ∉ text.toList ∧ ['/', '/', '/'] <+: text.toList := by
  have hend : ∀ text ∈ ["/// <summary>", "/// </summary>", "///", "/// "],
      '\n' ∉ text.toList ∧ ['/', '/', '/'] <+: text.toList := by decide
  intro text htext
  rw [CSharp.comment, List.cons_append, List.mem_cons, List.mem_append, List.mem_map,
    List.mem_singleton] at htext
  rcases htext with rfl | ⟨line, hline, rfl⟩ | rfl
  · exact hend _ (by simp)
  · rw [CSharp.commentLine_eq]
    split
    · exact hend _ (by simp)
    · obtain ⟨hnewline, hbegins⟩ := hend "/// " (by simp)
      have hescaped : '\n' ∉ (String.ofList (line.flatMap CSharp.xmlChar)).toList := by
        rw [String.toList_ofList]
        exact flatMap_xmlChar_newline (h line hline)
      rw [String.toList_append, List.mem_append, not_or]
      exact ⟨⟨hnewline, hescaped⟩, hbegins.trans (List.prefix_append _ _)⟩
  · exact hend _ (by simp)

/-- No escaped line ends a comment. -/
theorem apart_escapeEnd (line : List Char) :
    Text.Apart '*' '/' (Java.escapeEnd line) ∧ (Java.escapeEnd line).head? = line.head? := by
  fun_induction Java.escapeEnd line with
  | case1 rest ih =>
      refine ⟨?_, rfl⟩
      have hfixed : Text.Apart '*' '/' ['*', '&', '#', '4', '7', ';'] := by
        unfold Text.Apart
        decide
      exact hfixed.append ih.1 (by decide)
  | case2 c rest hmark ih =>
      refine ⟨ih.1.cons ?_, rfl⟩
      rintro b hb ⟨rfl, rfl⟩
      rw [ih.2] at hb
      obtain ⟨behind, rfl⟩ := List.head?_eq_some_iff.mp hb
      exact hmark behind rfl rfl
  | case3 => exact ⟨.nil, rfl⟩

theorem apart_java_commentLine (line : List Char) :
    Text.Apart '*' '/' ((Java.commentLine line).toList ++ ['\n']) := by
  unfold Java.commentLine
  split
  · unfold Text.Apart
    decide
  · have htext : (" * " ++ String.ofList (Java.escapeEnd line)).toList =
        [' ', '*', ' '] ++ Java.escapeEnd line := by
      rw [String.toList_append]
      exact congrArg ([' ', '*', ' '] ++ ·) String.toList_ofList
    have hmark : Text.Apart '*' '/' [' ', '*', ' '] := by
      unfold Text.Apart
      decide
    have hend : Text.Apart '*' '/' (Java.escapeEnd line ++ ['\n']) := by
      apply List.IsChain.append (apart_escapeEnd line).1 (.singleton '\n')
      rintro a _ b hb ⟨_, rfl⟩
      cases hb
    rw [htext, List.append_assoc]
    exact hmark.append hend (by decide)

/-- The lines of a comment in Java up to its last one, from the second star on. -/
theorem apart_java_commentLines (indent : Indent) (depth : Nat) (lines : List (List Char))
    (last : List Char) (hlast : Text.Apart '*' '/' last) : Text.Apart '*' '/'
      ((renderLines indent (lines.map fun line => ⟨depth, Java.commentLine line⟩)).toList ++
        last) := by
  induction lines with
  | nil => exact hlast
  | cons line lines ih =>
      rw [List.map_cons, toList_renderLines_cons, List.append_cons, List.append_assoc
        (indent.before depth)]
      apply Text.Apart.append _ ih
      · simp
      · exact Text.apart_append_of_not_mem (not_mem_before rfl depth) (apart_java_commentLine line)

/-- A comment in Java from its second star to its last but one. -/
def Java.commentInside (indent : Indent) (depth : Nat) (lines : List (List Char)) : List Char :=
  '*' :: '\n' ::
    ((renderLines indent (lines.map fun line => ⟨depth, Java.commentLine line⟩)).toList ++
      (indent.before depth ++ [' ']))

theorem apart_java_commentInside (indent : Indent) (depth : Nat) (lines : List (List Char)) :
    Text.Apart '*' '/' (Java.commentInside indent depth lines ++ ['*']) := by
  have hlast : Text.Apart '*' '/' (indent.before depth ++ [' ', '*']) :=
    Text.apart_append_of_not_mem (not_mem_before rfl depth) (List.isChain_pair.mpr (by decide))
  have hinside := apart_java_commentLines indent depth lines _ hlast
  have hfirst : Text.Apart '*' '/' ['*', '\n'] := List.isChain_pair.mpr (by decide)
  have hwhole : Java.commentInside indent depth lines ++ ['*'] =
      ['*', '\n'] ++ ((renderLines indent (lines.map fun line =>
        ⟨depth, Java.commentLine line⟩)).toList ++ (indent.before depth ++ [' ', '*'])) := by
    simp [Java.commentInside]
  rw [hwhole]
  exact hfirst.append hinside (by decide)

theorem toList_java_comment (indent : Indent) (depth : Nat) (lines : List (List Char))
    (rest : List Char) :
    (renderLines indent ((Java.comment lines).map (Line.mk depth))).toList ++ rest =
      indent.before depth ++
        '/' :: '*' :: (Java.commentInside indent depth lines ++ '*' :: '/' :: '\n' :: rest) := by
  have hlines : (Java.comment lines).map (Line.mk depth) =
      ⟨depth, "/**"⟩ :: (lines.map (fun line => ⟨depth, Java.commentLine line⟩) ++
        [⟨depth, " */"⟩]) := by
    simp [Java.comment, Function.comp_def]
  rw [hlines, toList_renderLines_cons, renderLines_append, String.toList_append,
    List.append_assoc (String.toList _), toList_renderLines_cons]
  simp [Java.commentInside, renderLines]

/-- Comments are removed whole. -/
theorem stripped_comment (language : Language) (depth : Nat) {lines : List (List Char)}
    (h : ∀ line ∈ lines, '\n' ∉ line) (rest : List Char) :
    language.stripped ((renderLines indent ((language.dialect.comment lines).map
      (Line.mk depth))).toList ++ rest) = language.stripped rest := by
  cases language with
  | csharp => exact withoutCommentLines_slashes (csharp_comment_slashes h) rest
  | java =>
      have htext := toList_java_comment indent depth lines rest
      exact (congrArg Text.withoutBlockComments htext).trans
        (Text.withoutBlockComments_comment (fun c hc => isTabOrSpace_of_mem_before hc)
          (apart_java_commentInside indent depth lines) rest)

/-- The reader that removes comments and leaves all other lines as they are. -/
def commentRemover (language : Language) (indent : Indent) : LineReader language indent Char where
  read := language.stripped
  found l := (renderLines indent [l]).toList
  read_nil := by
    cases language with
    | csharp => rfl
    | java => exact Text.withoutBlockComments_of_none rfl
  read_comment depth _ comment rest := by
    cases comment with
    | none => rfl
    | some text =>
        exact stripped_comment language depth
          (fun _ => Text.newline_not_mem_of_mem_trimmed_lines) rest
  read_line _ h rest := stripped_line_of_lacks language h rest
  read_stamp options rest := stripped_stamp language options rest

end SchemaClasses
