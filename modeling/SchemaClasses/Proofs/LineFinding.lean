import SchemaClasses.Proofs.CommentReading

/-! A reader that finds the declarations and the members in a file. All it knows is how deep their
lines stand and what the lines of comments begin with, so no comment may look like a member to it,
and no member like a comment. -/

namespace SchemaClasses

/-- The lines of a file, each of which a line feed ends. -/
def linesOf (code : String) : List String :=
  (Text.endedLines code.toList).map String.ofList

/-- What a line of a comment may begin with. -/
def Language.commentMarks : Language → List String
  | .csharp => ["///"]
  | .java => ["/**", " *"]

def isDeclarationLine (line : String) : Bool :=
  "\tpublic ".toList.isPrefixOf line.toList

/-- Two tabs, and behind them no comment. -/
def Language.isMemberLine (language : Language) (line : String) : Bool :=
  match line.toList with
  | '\t' :: '\t' :: text => language.commentMarks.all fun mark => !mark.toList.isPrefixOf text
  | _ => false

/-- Every line of a declaration, with the lines of members between it and the next. -/
def readBack (language : Language) : List String → List (String × List String)
  | [] => []
  | line :: rest =>
    if isDeclarationLine line then
      (line, (rest.takeWhile fun l => !isDeclarationLine l).filter language.isMemberLine) ::
        readBack language rest
    else readBack language rest

section Reader

variable (language : Language)

/-- A line that the reader does not pass over. -/
def Language.reads (line : String) : Bool :=
  isDeclarationLine line || language.isMemberLine line

theorem not_isDeclarationLine_of_isMemberLine {language : Language} {line : String}
    (h : language.isMemberLine line) : isDeclarationLine line = false := by
  unfold Language.isMemberLine at h
  split at h
  · rename_i text htext
    rw [isDeclarationLine, htext]
    rfl
  · cases h

theorem members_filter_reads (lines : List String) :
    ((lines.filter language.reads).takeWhile fun l => !isDeclarationLine l).filter
        language.isMemberLine =
      (lines.takeWhile fun l => !isDeclarationLine l).filter language.isMemberLine := by
  induction lines with
  | nil => rfl
  | cons line lines ih =>
      cases hdeclaration : isDeclarationLine line with
      | true =>
          have hreads : language.reads line = true := by rw [Language.reads, hdeclaration]; rfl
          simp [hreads, hdeclaration]
      | false =>
          have hreads : language.reads line = language.isMemberLine line := by
            rw [Language.reads, hdeclaration, Bool.false_or]
          cases hmember : language.isMemberLine line with
          | true => simpa [hreads, hdeclaration, hmember] using ih
          | false => simpa [hreads, hdeclaration, hmember] using ih

/-- Only the lines that it does not pass over make a difference to the reader. -/
theorem readBack_filter_reads (lines : List String) :
    readBack language (lines.filter language.reads) = readBack language lines := by
  induction lines with
  | nil => rfl
  | cons line lines ih =>
      cases hdeclaration : isDeclarationLine line with
      | true =>
          have hreads : language.reads line = true := by rw [Language.reads, hdeclaration]; rfl
          rw [List.filter_cons_of_pos hreads, readBack, if_pos hdeclaration, readBack,
            if_pos hdeclaration, members_filter_reads, ih]
      | false =>
          have hskip : ∀ rest, readBack language (line :: rest) = readBack language rest := by
            intro rest
            rw [readBack, hdeclaration, if_neg Bool.false_ne_true]
          rw [hskip, ← ih, List.filter_cons]
          split
          · exact hskip _
          · rfl

variable {language}

theorem readBack_append_members {members : List String}
    (h : ∀ m ∈ members, language.isMemberLine m) (rest : List String) :
    readBack language (members ++ rest) = readBack language rest := by
  induction members with
  | nil => rfl
  | cons m members ih =>
      obtain ⟨hm, hmembers⟩ := List.forall_mem_cons.mp h
      rw [List.cons_append, readBack, not_isDeclarationLine_of_isMemberLine hm,
        if_neg Bool.false_ne_true, ih hmembers]

theorem readBack_flatMap {α : Type} {declaration : α → String} {members : α → List String}
    {as : List α} (hdeclaration : ∀ a ∈ as, isDeclarationLine (declaration a))
    (hmembers : ∀ a ∈ as, ∀ m ∈ members a, language.isMemberLine m) :
    readBack language (as.flatMap fun a => declaration a :: members a) =
      as.map fun a => (declaration a, members a) := by
  induction as with
  | nil => rfl
  | cons a as ih =>
      obtain ⟨hhead, htail⟩ := List.forall_mem_cons.mp hdeclaration
      obtain ⟨hheadMembers, htailMembers⟩ := List.forall_mem_cons.mp hmembers
      have hfirst : ((members a ++ as.flatMap fun a => declaration a :: members a).takeWhile
          fun l => !isDeclarationLine l) = members a := by
        rw [List.takeWhile_append_of_pos fun m hm => by
          rw [not_isDeclarationLine_of_isMemberLine (hheadMembers m hm), Bool.not_false]]
        cases as with
        | nil => exact List.append_nil _
        | cons next as => simp [htail next List.mem_cons_self]
      rw [List.flatMap_cons, List.cons_append, readBack, if_pos hhead, hfirst,
        List.filter_eq_self.mpr hheadMembers, readBack_append_members hheadMembers,
        ih htail htailMembers, List.map_cons]

end Reader

/-- A line as it stands in a file that is indented with tabs. -/
def Line.shown (l : Line) : String :=
  String.ofList (List.replicate l.depth '\t') ++ l.text

theorem toList_shown (l : Line) :
    l.shown.toList = List.replicate l.depth '\t' ++ l.text.toList := by
  rw [Line.shown, String.toList_append, String.toList_ofList]

theorem before_tabs (depth : Nat) : Indent.tabs.before depth = List.replicate depth '\t' := by
  induction depth with
  | zero => rfl
  | succ depth ih =>
      rw [List.replicate_succ, ← ih]
      rfl

section Layout

variable {language : Language}

theorem isDeclarationLine_shown (depth : Nat) (text : String) :
    isDeclarationLine (Line.shown ⟨depth, text⟩) =
      ('\t' :: "public ".toList).isPrefixOf (List.replicate depth '\t' ++ text.toList) := by
  rw [isDeclarationLine, toList_shown]
  rfl

theorem isMemberLine_shown (depth : Nat) (text : String) :
    language.isMemberLine (Line.shown ⟨depth, text⟩) =
      match List.replicate depth '\t' ++ text.toList with
      | '\t' :: '\t' :: text => language.commentMarks.all fun mark => !mark.toList.isPrefixOf text
      | _ => false := by
  rw [Language.isMemberLine, toList_shown]

/-- Nothing is read of a line without depth, unless it begins with a tab of its own. -/
theorem reads_depth_zero {text : String} (h : text.toList.head? ≠ some '\t') :
    language.reads (Line.shown ⟨0, text⟩) = false := by
  rw [Language.reads, isDeclarationLine_shown, isMemberLine_shown, List.replicate_zero,
    List.nil_append]
  cases htext : text.toList with
  | nil => rfl
  | cons first rest =>
      have hfirst : first ≠ '\t' := fun heq => h (by rw [htext, heq]; rfl)
      rw [List.isPrefixOf_cons_cons, beq_false_of_ne hfirst.symm, Bool.false_and, Bool.false_or]
      split
      · rename_i heq
        exact absurd (List.head_eq_of_cons_eq heq) hfirst
      · rfl

theorem reads_depth_one {text : String} (h : text.toList.head? ≠ some '\t') :
    language.reads (Line.shown ⟨1, text⟩) = "public ".toList.isPrefixOf text.toList := by
  have hmember : language.isMemberLine (Line.shown ⟨1, text⟩) = false := by
    rw [isMemberLine_shown]
    split
    · rename_i behind heq
      have htext : text.toList = '\t' :: behind := List.tail_eq_of_cons_eq heq
      exact absurd (congrArg List.head? htext) h
    · rfl
  rw [Language.reads, isDeclarationLine_shown, hmember, Bool.or_false]
  exact Bool.true_and _

theorem reads_depth_two (text : String) :
    language.reads (Line.shown ⟨2, text⟩) =
      language.commentMarks.all fun mark => !mark.toList.isPrefixOf text.toList := by
  have hdeclaration : isDeclarationLine (Line.shown ⟨2, text⟩) = false := by
    rw [isDeclarationLine_shown]
    rfl
  rw [Language.reads, hdeclaration, Bool.false_or, isMemberLine_shown]
  rfl

theorem newline_not_mem_escapeEnd {line : List Char} (h : '\n' ∉ line) :
    '\n' ∉ Java.escapeEnd line := by
  fun_induction Java.escapeEnd line with
  | case1 rest ih =>
      simp only [List.mem_cons, not_or] at h ⊢
      exact ⟨by decide, by decide, by decide, by decide, by decide, by decide, ih h.2.2⟩
  | case2 c rest _ ih =>
      rw [List.mem_cons, not_or] at h ⊢
      exact ⟨h.1, ih h.2⟩
  | case3 => exact h

/-- Every text of a comment is one line, and begins with a mark of comments. -/
theorem comment_begins_with_mark {lines : List (List Char)} (h : ∀ line ∈ lines, '\n' ∉ line)
    {text : String} (htext : text ∈ language.dialect.comment lines) :
    '\n' ∉ text.toList ∧ ∃ mark ∈ language.commentMarks, mark.toList <+: text.toList := by
  cases language with
  | csharp =>
      obtain ⟨hnewline, hbegins⟩ := csharp_comment_slashes h text htext
      exact ⟨hnewline, "///", List.mem_cons_self, hbegins⟩
  | java =>
      have hfixed : ∀ text ∈ ["/**", " *", " */", " * "],
          '\n' ∉ text.toList ∧ ∃ mark ∈ Language.java.commentMarks, mark.toList <+: text.toList := by
        decide
      have htext : text ∈ Java.comment lines := htext
      rw [Java.comment, List.cons_append, List.mem_cons, List.mem_append, List.mem_map,
        List.mem_singleton] at htext
      rcases htext with rfl | ⟨line, hline, rfl⟩ | rfl
      · exact hfixed _ (by simp)
      · unfold Java.commentLine
        split
        · exact hfixed _ (by simp)
        · obtain ⟨hnewline, mark, hmark, hbegins⟩ := hfixed " * " (by simp)
          have hescaped : '\n' ∉ (String.ofList (Java.escapeEnd line)).toList := by
            rw [String.toList_ofList]
            exact newline_not_mem_escapeEnd (h line hline)
          rw [String.toList_append, List.mem_append, not_or]
          exact ⟨⟨hnewline, hescaped⟩, mark, hmark, hbegins.trans (List.prefix_append _ _)⟩
      · exact hfixed _ (by simp)

theorem reads_of_mark {depth : Nat} (hdepth : depth ∈ [1, 2]) {text mark : String}
    (hmark : mark ∈ language.commentMarks) (hbegins : mark.toList <+: text.toList) :
    language.reads (Line.shown ⟨depth, text⟩) = false := by
  obtain ⟨behind, hbehind⟩ := hbegins
  simp only [List.mem_cons, List.not_mem_nil, or_false] at hdepth
  rcases hdepth with rfl | rfl
  · have hpublic : ∀ mark ∈ language.commentMarks, ∀ behind,
        (mark.toList ++ behind).head? ≠ some '\t' ∧
          "public ".toList.isPrefixOf (mark.toList ++ behind) = false := by
      cases language <;> simp [Language.commentMarks, List.isPrefixOf_cons_cons]
    have hmark := hpublic mark hmark behind
    rw [hbehind] at hmark
    rw [reads_depth_one hmark.1, hmark.2]
  · rw [reads_depth_two, List.all_eq_false]
    refine ⟨mark, hmark, ?_⟩
    rw [← hbehind]
    simp

/-- A text that has no sign of a comment in it is read as that of a member. -/
theorem isMemberLine_of_lacks {text : String} (hslash : Lacks '/' text) (hstar : Lacks '*' text) :
    language.isMemberLine (Line.shown ⟨2, text⟩) := by
  have hmarks : ∀ mark ∈ language.commentMarks, '/' ∈ mark.toList ∨ '*' ∈ mark.toList := by
    cases language <;> decide
  rw [isMemberLine_shown]
  show (language.commentMarks.all fun mark => !mark.toList.isPrefixOf text.toList) = true
  rw [List.all_eq_true]
  intro mark hmark
  rw [Bool.not_eq_true', ← Bool.not_eq_true, List.isPrefixOf_iff_prefix]
  intro hbegins
  rcases hmarks mark hmark with hmem | hmem
  · exact hslash (hbegins.subset hmem)
  · exact hstar (hbegins.subset hmem)

theorem endedLines_line {l : Line} (h : '\n' ∉ l.text.toList) (rest : List Char) :
    (Text.endedLines ((renderLines .tabs [l]).toList ++ rest)).map String.ofList =
      l.shown :: (Text.endedLines rest).map String.ofList := by
  have hline : '\n' ∉ Indent.tabs.before l.depth ++ l.text.toList := by
    rw [List.mem_append, not_or]
    exact ⟨not_mem_before rfl l.depth, h⟩
  have hshown : String.ofList (Indent.tabs.before l.depth ++ l.text.toList) = l.shown := by
    rw [String.ofList_append, String.ofList_toList, before_tabs, Line.shown]
  rw [toList_renderLines_cons, Text.endedLines_append_newline hline, List.map_cons, hshown]
  rfl

theorem filter_reads_line {l : Line} (h : '\n' ∉ l.text.toList) (rest : List Char) :
    ((Text.endedLines ((renderLines .tabs [l]).toList ++ rest)).map String.ofList).filter
        language.reads =
      [l.shown].filter language.reads ++
        ((Text.endedLines rest).map String.ofList).filter language.reads := by
  rw [endedLines_line h, ← List.filter_append, List.singleton_append]

theorem filter_reads_comment {depth : Nat} (hdepth : depth ∈ [1, 2]) {texts : List String}
    (h : ∀ text ∈ texts, '\n' ∉ text.toList ∧
      ∃ mark ∈ language.commentMarks, mark.toList <+: text.toList) (rest : List Char) :
    ((Text.endedLines ((renderLines .tabs (texts.map (Line.mk depth))).toList ++ rest)).map
        String.ofList).filter language.reads =
      ((Text.endedLines rest).map String.ofList).filter language.reads := by
  induction texts with
  | nil => rfl
  | cons text texts ih =>
      obtain ⟨⟨hnewline, mark, hmark, hbegins⟩, htexts⟩ := List.forall_mem_cons.mp h
      rw [List.map_cons, ← List.singleton_append, renderLines_append, String.toList_append,
        List.append_assoc, filter_reads_line hnewline, ih htexts, List.filter_singleton,
        reads_of_mark hdepth hmark hbegins]
      rfl

/-- The reader that finds the lines of declarations and members. -/
def lineFinder (language : Language) : LineReader language .tabs String where
  read cs := ((Text.endedLines cs).map String.ofList).filter language.reads
  found l := [l.shown].filter language.reads
  read_nil := rfl
  read_comment depth hdepth comment rest := by
    cases comment with
    | none => rfl
    | some text =>
        apply filter_reads_comment hdepth
        intro line hline
        exact comment_begins_with_mark (fun _ => Text.newline_not_mem_of_mem_trimmed_lines) hline
  read_line l h rest := filter_reads_line (h '\n' (by decide)) rest
  read_stamp options rest :=
    filter_reads_line (l := ⟨0, stampLine options⟩) (newline_not_mem_stampLine options) rest

end Layout

/-- The texts with a comma behind all but the last. -/
def withCommas (texts : List String) : List String :=
  texts.dropLast.map (· ++ ",") ++ texts.getLast?.toList

namespace Dialect

variable (d : Dialect)

/-- The lines of the members of a definition, without comments. -/
def bodyTexts : Body → List String
  | .dataClass _ members => members.flatMap fun m => d.storage m.name (d.typeText m.type m.alwaysBoxed)
  | .interface members => members.flatMap fun m => d.signature m.name (d.typeText m.type m.alwaysBoxed)
  | .enumeration constants => withCommas (constants.map fun c => d.constant c.name)

theorem flatten_memberLines (write : String → String → List String) (members : List Member) :
    ((members.map (Member.recommented fun _ => none)).map (d.memberLines write)).flatten =
      (members.flatMap fun m => write m.name (d.typeText m.type m.alwaysBoxed)).map (Line.mk 2) := by
  rw [List.map_map, ← List.flatMap_def, List.map_flatMap]
  rfl

theorem flatten_constantBlocks (constants : List Constant) :
    (d.constantBlocks (constants.map (Constant.recommented fun _ => none))).flatten =
      (withCommas (constants.map fun c => d.constant c.name)).map (Line.mk 2) := by
  induction constants with
  | nil => rfl
  | cons constant constants ih =>
      cases constants with
      | nil => rfl
      | cons next constants => exact congrArg (Line.mk 2 (d.constant constant.name ++ ",") :: ·) ih

theorem flatten_bodyBlocks (body : Body) :
    (d.bodyBlocks (body.recommented fun _ => none)).flatten = (d.bodyTexts body).map (Line.mk 2) := by
  cases body with
  | dataClass _ members => exact d.flatten_memberLines d.storage members
  | interface members => exact d.flatten_memberLines d.signature members
  | enumeration constants => exact d.flatten_constantBlocks constants

end Dialect

theorem mem_withCommas {texts : List String} {text : String} (h : text ∈ withCommas texts) :
    ∃ t ∈ texts, text = t ++ "," ∨ text = t := by
  rcases List.mem_append.mp h with h | h
  · obtain ⟨t, ht, rfl⟩ := List.mem_map.mp h
    exact ⟨t, (List.dropLast_subset texts) ht, Or.inl rfl⟩
  · rw [Option.mem_toList] at h
    exact ⟨text, List.mem_of_mem_getLast? h, Or.inr rfl⟩

section Found

variable (language : Language)

theorem lacks_bodyTexts {c : Char} (hc : c ∈ foreign) {body : Body}
    (h : ∀ name ∈ body.names, Lacks c name) :
    ∀ text ∈ language.dialect.bodyTexts body, Lacks c text := by
  intro text htext
  have hmember : ∀ {members : List Member}, (∀ name ∈ members.flatMap Member.names, Lacks c name) →
      ∀ m ∈ members, Lacks c m.name ∧ Lacks c (language.dialect.typeText m.type m.alwaysBoxed) := by
    intro members h m hm
    have hnames : ∀ name ∈ m.names, Lacks c name :=
      fun name hname => h name (List.mem_flatMap.mpr ⟨m, hm, hname⟩)
    have htype := hnames m.type.name (List.mem_cons_of_mem _ List.mem_cons_self)
    exact ⟨hnames m.name List.mem_cons_self,
      lacks_typeText (mem_signs_of_mem_foreign hc) language htype m.alwaysBoxed⟩
  cases body with
  | dataClass interfaces members =>
      obtain ⟨m, hm, htext⟩ := List.mem_flatMap.mp htext
      obtain ⟨hname, htype⟩ :=
        hmember (fun name hname => h name (List.mem_append_right interfaces hname)) m hm
      exact lacks_storage hc language hname htype text htext
  | interface members =>
      obtain ⟨m, hm, htext⟩ := List.mem_flatMap.mp htext
      obtain ⟨hname, htype⟩ := hmember h m hm
      exact lacks_signature hc language hname htype text htext
  | enumeration constants =>
      obtain ⟨t, ht, htext⟩ := mem_withCommas htext
      obtain ⟨constant, hconstant, rfl⟩ := List.mem_map.mp ht
      have hname := lacks_constant (mem_signs_of_mem_foreign hc) language
        (h constant.name (List.mem_map_of_mem hconstant))
      rcases htext with rfl | rfl
      · exact lacks_append.mpr ⟨hname, lacks_fixed hc rfl⟩
      · exact hname

variable {language}

theorem found_spaced (blocks : List (List Line)) :
    (spaced blocks).flatMap (lineFinder language).found =
      blocks.flatten.flatMap (lineFinder language).found := by
  have hblank : (lineFinder language).found Line.blank = [] := by cases language <;> rfl
  induction blocks with
  | nil => rfl
  | cons block blocks ih =>
      cases blocks with
      | nil => rw [spaced, List.flatten_singleton]
      | cons next blocks =>
          have hspaced : spaced (block :: next :: blocks) =
              block ++ Line.blank :: spaced (next :: blocks) := rfl
          rw [hspaced, List.flatMap_append, List.flatMap_cons, hblank, ih, List.nil_append,
            ← List.flatMap_append]
          rfl

theorem isMemberLine_of_mem {texts : List String} (h : ∀ c ∈ foreign, ∀ text ∈ texts, Lacks c text) :
    ∀ line ∈ texts.map ("\t\t" ++ ·), language.isMemberLine line := by
  intro line hline
  obtain ⟨text, htext, rfl⟩ := List.mem_map.mp hline
  exact isMemberLine_of_lacks (h '/' (by decide) text htext) (h '*' (by decide) text htext)

theorem found_texts {texts : List String} (h : ∀ c ∈ foreign, ∀ text ∈ texts, Lacks c text) :
    (texts.map (Line.mk 2)).flatMap (lineFinder language).found = texts.map ("\t\t" ++ ·) := by
  induction texts with
  | nil => rfl
  | cons text texts ih =>
      have hmember : language.isMemberLine ("\t\t" ++ text) :=
        isMemberLine_of_mem h ("\t\t" ++ text) List.mem_cons_self
      have hreads : language.reads ("\t\t" ++ text) := by
        rw [Language.reads, hmember, Bool.or_true]
      have hfound : (lineFinder language).found ⟨2, text⟩ = ["\t\t" ++ text] :=
        List.filter_cons_of_pos hreads
      rw [List.map_cons, List.flatMap_cons, hfound,
        ih fun c hc text' htext' => h c hc text' (List.mem_cons_of_mem _ htext')]
      rfl

theorem isDeclarationLine_declaration (role : Role) (name : String) (interfaces : List String) :
    isDeclarationLine ("\t" ++ language.dialect.declaration role name interfaces) := by
  have hpublic : ∃ behind, language.dialect.declaration role name interfaces =
      "public " ++ behind := by
    cases language with
    | csharp =>
        show ∃ behind, CSharp.declaration role name interfaces = "public " ++ behind
        simp only [CSharp.declaration, String.append_assoc]
        exact ⟨_, rfl⟩
    | java =>
        show ∃ behind, Java.declaration role name interfaces = "public " ++ behind
        simp only [Java.declaration, String.append_assoc]
        exact ⟨_, rfl⟩
  obtain ⟨behind, hbehind⟩ := hpublic
  rw [hbehind, isDeclarationLine, List.isPrefixOf_iff_prefix, String.toList_append,
    String.toList_append]
  exact ⟨behind.toList, rfl⟩

/-- What is found in a definition: the line that declares it, and the lines of its members. -/
theorem found_definitionLines {d : Definition}
    (h : ∀ c ∈ foreign, ∀ name ∈ d.names, Lacks c name) :
    (language.dialect.definitionLines d.uncommented).flatMap (lineFinder language).found =
      ("\t" ++ language.dialect.declaration d.body.role d.name d.body.interfaces) ::
        (language.dialect.bodyTexts d.body).map ("\t\t" ++ ·) := by
  have hrole : d.uncommented.body.role = d.body.role := by
    rw [Definition.uncommented, Definition.recommented]
    cases d.body <;> rfl
  have hinterfaces : d.uncommented.body.interfaces = d.body.interfaces := by
    rw [Definition.uncommented, Definition.recommented]
    cases d.body <;> rfl
  let mark : List Line :=
    if d.body.role = .enumeration then [⟨1, language.dialect.enumMark⟩] else []
  have hlines : language.dialect.definitionLines d.uncommented = mark ++
      ⟨1, language.dialect.declaration d.body.role d.name d.body.interfaces⟩ :: ⟨1, "\x7b"⟩ ::
        (spaced (language.dialect.bodyBlocks d.uncommented.body) ++ [⟨1, "\x7d"⟩, Line.blank]) := by
    rw [Dialect.definitionLines, hrole, hinterfaces, List.append_assoc]
    rfl
  have hmark : mark.flatMap (lineFinder language).found = [] := by
    dsimp only [mark]
    split
    · cases language <;> rfl
    · rfl
  have hdeclaration : (lineFinder language).found
      ⟨1, language.dialect.declaration d.body.role d.name d.body.interfaces⟩ =
        ["\t" ++ language.dialect.declaration d.body.role d.name d.body.interfaces] := by
    apply List.filter_cons_of_pos
    rw [Language.reads, Bool.or_eq_true]
    exact Or.inl (isDeclarationLine_declaration d.body.role d.name d.body.interfaces)
  have hopen : (lineFinder language).found ⟨1, "\x7b"⟩ = [] := by cases language <;> rfl
  have hclose : [⟨1, "\x7d"⟩, Line.blank].flatMap (lineFinder language).found = [] := by
    cases language <;> rfl
  have hbody : (spaced (language.dialect.bodyBlocks d.uncommented.body)).flatMap
      (lineFinder language).found = (language.dialect.bodyTexts d.body).map ("\t\t" ++ ·) := by
    rw [found_spaced, Definition.uncommented, Definition.recommented,
      language.dialect.flatten_bodyBlocks]
    apply found_texts
    intro c hc
    exact lacks_bodyTexts language hc fun name hname => h c hc name (List.mem_cons_of_mem _ hname)
  rw [hlines, List.flatMap_append, List.flatMap_cons, List.flatMap_cons, List.flatMap_append, hmark,
    hdeclaration, hopen, hclose, hbody, List.append_nil]
  rfl

/-- Nothing is found in the head of a file. -/
theorem found_header (options : Options) :
    ((language.dialect.header options).map (Line.mk 0)).flatMap (lineFinder language).found = [] := by
  have hstamp : (stampLine options).toList.head? ≠ some '\t' := by
    unfold stampLine
    generalize options.timestamp = timestamp
    simp
  have htail : ∀ text ∈ (language.dialect.header options).tail, text.toList.head? ≠ some '\t' := by
    cases language <;>
      simp [Language.dialect, Dialect.csharp, CSharp.header, Dialect.java, Java.header]
  have hheader : language.dialect.header options =
      stampLine options :: (language.dialect.header options).tail := by cases language <;> rfl
  have htab : ∀ text ∈ language.dialect.header options, text.toList.head? ≠ some '\t' := by
    rw [hheader]
    exact List.forall_mem_cons.mpr ⟨hstamp, htail⟩
  rw [List.flatMap_eq_nil_iff]
  intro l hl
  obtain ⟨text, htext, rfl⟩ := List.mem_map.mp hl
  show [Line.shown ⟨0, text⟩].filter language.reads = []
  rw [List.filter_singleton, reads_depth_zero (htab text htext)]
  rfl

/-- What is found in a file: what is found in its definitions, in their order. -/
theorem found_fileLines (options : Options) {definitions : List Definition}
    (h : ∀ c ∈ foreign, ∀ d ∈ definitions, ∀ name ∈ d.names, Lacks c name) :
    (language.dialect.fileLines options (definitions.map Definition.uncommented)).flatMap
        (lineFinder language).found =
      definitions.flatMap fun d =>
        ("\t" ++ language.dialect.declaration d.body.role d.name d.body.interfaces) ::
          (language.dialect.bodyTexts d.body).map ("\t\t" ++ ·) := by
  have hfoot : (lineFinder language).found ⟨0, "\x7d"⟩ = [] := by cases language <;> rfl
  rw [Dialect.fileLines, List.flatMap_append, List.flatMap_append, found_header,
    List.flatMap_singleton, hfoot, List.append_nil, List.nil_append, List.flatMap_map,
    List.flatMap_assoc]
  exact List.flatMap_congr fun d hd => found_definitionLines fun c hc => h c hc d hd

end Found

end SchemaClasses
