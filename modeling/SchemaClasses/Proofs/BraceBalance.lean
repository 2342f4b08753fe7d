import SchemaClasses.Proofs.BraceDepth

/-! The braces of a generated file. Comments are passed over whatever a description says. A brace in
a line of code is closed in the same line, or on a line of its own behind the body of a definition.
So only the head and the foot of a file change the depth. -/

namespace SchemaClasses

variable {language : Language} {indent : Indent}

/-- Lines that the scanner goes through without a change of depth. -/
def Level (language : Language) (indent : Indent) (lines : List Line) : Prop :=
  Passes language (renderLines indent lines).toList .code .code

theorem Leads.bounds {text : List Char} {p q : Place} {low rise : Int}
    (h : Leads language text p q low rise) : low ≤ 0 ∧ low ≤ rise := by
  have hbegin := h.low_le 0 [] List.nil_prefix
  have hend := h.low_le 0 text (List.prefix_refl text)
  rw [h.run_eq] at hend
  change 0 + low ≤ 0 at hbegin
  change 0 + low ≤ 0 + rise at hend
  omega

theorem passes_before (depth : Nat) : Passes language (indent.before depth) .code .code := by
  have hstrokes : ∀ c ∈ strokes, Text.isTabOrSpace c = false := forall_mem_strokes.mpr (by decide)
  exact passes_code fun c hc => not_mem_before (hstrokes c hc) depth

/-- A line changes the depth as its text does. -/
theorem leads_line (depth : Nat) {text : String} {low rise : Int}
    (h : Leads language text.toList .code .code low rise) :
    Leads language (renderLines indent [⟨depth, text⟩]).toList .code .code low rise := by
  have hend : Passes language ['\n'] .code .code := passes_code (forall_mem_strokes.mpr (by decide))
  obtain ⟨hzero, hrise⟩ := h.bounds
  have hbefore : Passes language (indent.before depth) .code .code := passes_before depth
  have htext := Leads.append hbefore h low (by omega)
  have hline := Leads.append htext hend low (by omega)
  rw [toList_renderLines, List.flatMap_singleton, Line.toList_render]
  simpa only [Int.zero_add, Int.add_zero] using hline

theorem level_nil : Level language indent [] :=
  passes_nil

theorem Level.append {above below : List Line} (habove : Level language indent above)
    (hbelow : Level language indent below) : Level language indent (above ++ below) := by
  rw [Level, renderLines_append, String.toList_append]
  exact Passes.append habove hbelow

theorem level_text (depth : Nat) {text : String} (h : ∀ c ∈ strokes, Lacks c text) :
    Level language indent [⟨depth, text⟩] :=
  leads_line depth (passes_code h)

theorem level_texts (depth : Nat) {texts : List String}
    (h : ∀ text ∈ texts, Level language indent [⟨depth, text⟩]) :
    Level language indent (texts.map (⟨depth, ·⟩)) := by
  induction texts with
  | nil => exact level_nil
  | cons text texts ih =>
      obtain ⟨hhead, htail⟩ := List.forall_mem_cons.mp h
      exact hhead.append (ih htail)

theorem level_blank : Level language indent [Line.blank] :=
  level_text 0 fun _ hc => lacks_fixed hc rfl

theorem level_spaced {blocks : List (List Line)}
    (h : ∀ block ∈ blocks, Level language indent block) : Level language indent (spaced blocks) := by
  induction blocks with
  | nil => exact level_nil
  | cons block blocks ih =>
      obtain ⟨hhead, htail⟩ := List.forall_mem_cons.mp h
      cases blocks with
      | nil => exact hhead
      | cons next blocks => exact hhead.append (level_blank.append (ih htail))

/-- Lines between braces that stand on lines of their own. -/
theorem level_braces (depth : Nat) {inside : List Line} (h : Level language indent inside) :
    Level language indent (⟨depth, "\x7b"⟩ :: (inside ++ [⟨depth, "\x7d"⟩])) := by
  have hopen : Leads language (renderLines indent [⟨depth, "\x7b"⟩]).toList
      .code .code 0 1 := leads_line depth leads_open
  have hclose : Leads language (renderLines indent [⟨depth, "\x7d"⟩]).toList
      .code .code (-1) (-1) := leads_line depth leads_close
  rw [← List.singleton_append, Level, renderLines_append, renderLines_append, String.toList_append,
    String.toList_append]
  -- The closing brace sinks below where the inside begins, but not below the opening one.
  exact hopen.append (Leads.append h hclose (-1) (by decide)) 0 (by decide)

/-- A line that is a comment from its first character on. -/
theorem level_slashes (depth : Nat) {text : String} (hnewline : '\n' ∉ text.toList)
    (hbegins : ['/', '/'] <+: text.toList) : Level language indent [⟨depth, text⟩] := by
  obtain ⟨behind, hbehind⟩ := hbegins
  have hcomment : '\n' ∉ behind := by
    intro hmem
    exact hnewline (hbehind ▸ List.mem_append_right _ hmem)
  rw [Level, toList_renderLines, List.flatMap_singleton, Line.toList_render, ← hbehind,
    List.append_assoc]
  exact (passes_before depth).append (passes_slashes hcomment)

theorem level_java_comment (depth : Nat) (lines : List (List Char)) :
    Level .java indent ((Java.comment lines).map (Line.mk depth)) := by
  have htext := toList_java_comment indent depth lines []
  rw [List.append_nil] at htext
  rw [Level, htext]
  exact (passes_before depth).append
    (passes_java_comment (apart_java_commentInside indent depth lines))

theorem level_comment (depth : Nat) (comment : Option String) :
    Level language indent (language.dialect.commentLines depth comment) := by
  cases comment with
  | none => exact level_nil
  | some text =>
      have hlines : ∀ line ∈ (Text.lines text.toList).map Text.trimEnd, '\n' ∉ line :=
        fun _ => Text.newline_not_mem_of_mem_trimmed_lines
      cases language with
      | csharp =>
          apply level_texts
          intro commentText hmem
          obtain ⟨hnewline, hbegins⟩ := csharp_comment_slashes hlines commentText hmem
          exact level_slashes depth hnewline ((List.prefix_append ['/', '/'] ['/']).trans hbegins)
      | java => exact level_java_comment depth _

section Members

variable {name type : String} (hname : ∀ c ∈ strokes, Lacks c name)
  (htype : ∀ c ∈ strokes, Lacks c type)

/-- A text with a body behind it, both on one line. -/
theorem passes_body {text : String} (head inside : String)
    (htext : text.toList = (head ++ "\x7b" ++ inside ++ "\x7d").toList)
    (hhead : ∀ c ∈ strokes, Lacks c head)
    (hinside : ∀ c ∈ strokes, Lacks c inside) : Passes language text.toList .code .code := by
  rw [htext, String.append_assoc, String.append_assoc, String.toList_append, String.toList_append,
    String.toList_append]
  exact (passes_code hhead).append (passes_braces (passes_code hinside))

include hname htype

theorem passes_csharp_property :
    Passes language (CSharp.property name type).toList .code .code := by
  apply passes_body (type ++ " " ++ Text.pascalCase name ++ " ") " get; set; "
  · simp [CSharp.property]
  · intro c hc
    have hsign := mem_signs_of_mem_strokes hc
    simp only [lacks_append]
    exact ⟨⟨⟨htype c hc, lacks_fixed hc rfl⟩, lacks_pascalCase hsign (hname c hc)⟩,
      lacks_fixed hc rfl⟩
  · exact fun _ hc => lacks_fixed hc rfl

theorem passes_java_getter : Passes language ("public " ++ Java.getterHead name type ++
    " \x7b return " ++ Java.identifier name ++ "; \x7d").toList .code .code := by
  apply passes_body ("public " ++ Java.getterHead name type ++ " ")
    (" return " ++ Java.identifier name ++ "; ")
  · simp
  · intro c hc
    have hsign := mem_signs_of_mem_strokes hc
    simp only [lacks_append]
    exact ⟨⟨lacks_fixed hc rfl, lacks_java_getterHead hsign (hname c hc) (htype c hc)⟩,
      lacks_fixed hc rfl⟩
  · intro c hc
    have hsign := mem_signs_of_mem_strokes hc
    simp only [lacks_append]
    exact ⟨⟨lacks_fixed hc rfl, lacks_identifier hsign (hname c hc)⟩, lacks_fixed hc rfl⟩

theorem passes_java_setter : Passes language ("public " ++ Java.setterHead name type ++
    " \x7b this." ++ Java.identifier name ++ " = " ++ Java.identifier name ++
    "; \x7d").toList .code .code := by
  apply passes_body ("public " ++ Java.setterHead name type ++ " ")
    (" this." ++ Java.identifier name ++ " = " ++ Java.identifier name ++ "; ")
  · simp
  · intro c hc
    have hsign := mem_signs_of_mem_strokes hc
    simp only [lacks_append]
    exact ⟨⟨lacks_fixed hc rfl, lacks_java_setterHead hsign (hname c hc) (htype c hc)⟩,
      lacks_fixed hc rfl⟩
  · intro c hc
    have hsign := mem_signs_of_mem_strokes hc
    have hfield := lacks_identifier hsign (hname c hc)
    simp only [lacks_append]
    exact ⟨⟨⟨⟨lacks_fixed hc rfl, hfield⟩, lacks_fixed hc rfl⟩, hfield⟩, lacks_fixed hc rfl⟩

theorem passes_storage : ∀ text ∈ language.dialect.storage name type,
    Passes language text.toList .code .code := by
  cases language with
  | csharp =>
      intro text htext
      have hpublic : Passes .csharp "public ".toList .code .code :=
        passes_code fun _ hc => lacks_fixed hc rfl
      rw [List.mem_singleton.mp htext, String.toList_append]
      exact hpublic.append (passes_csharp_property hname htype)
  | java =>
      have hmark : ∀ text ∈ Java.propertyMark name, Passes .java text.toList .code .code := by
        intro text htext
        exact passes_code fun c hc =>
          lacks_java_propertyMark (mem_signs_of_mem_strokes hc) (hname c hc) text htext
      have hfield : ∀ c ∈ strokes,
          Lacks c ("private " ++ type ++ " " ++ Java.identifier name ++ ";") := by
        intro c hc
        have hsign := mem_signs_of_mem_strokes hc
        simp only [lacks_append]
        exact ⟨⟨⟨⟨lacks_fixed hc rfl, htype c hc⟩, lacks_fixed hc rfl⟩,
          lacks_identifier hsign (hname c hc)⟩, lacks_fixed hc rfl⟩
      change ∀ text ∈ Java.storage name type, Passes .java text.toList .code .code
      rw [Java.storage, List.forall_mem_append, List.forall_mem_cons, List.forall_mem_cons,
        List.forall_mem_singleton]
      exact ⟨hmark, passes_code hfield, passes_java_getter hname htype,
        passes_java_setter hname htype⟩

theorem passes_signature : ∀ text ∈ language.dialect.signature name type,
    Passes language text.toList .code .code := by
  cases language with
  | csharp =>
      intro text htext
      rw [List.mem_singleton.mp htext]
      exact passes_csharp_property hname htype
  | java =>
      change ∀ text ∈ Java.signature name type, Passes .java text.toList .code .code
      rw [Java.signature, List.forall_mem_cons, List.forall_mem_singleton]
      refine ⟨passes_code fun c hc => ?_, passes_code fun c hc => ?_⟩
      · have hsign := mem_signs_of_mem_strokes hc
        have hhead := lacks_java_getterHead hsign (hname c hc) (htype c hc)
        exact lacks_append.mpr ⟨hhead, lacks_fixed hc rfl⟩
      · have hsign := mem_signs_of_mem_strokes hc
        have hhead := lacks_java_setterHead hsign (hname c hc) (htype c hc)
        exact lacks_append.mpr ⟨hhead, lacks_fixed hc rfl⟩

end Members

theorem level_memberBlocks {write : String → String → List String}
    (hwrite : ∀ {name type : String}, (∀ c ∈ strokes, Lacks c name) →
      (∀ c ∈ strokes, Lacks c type) →
      ∀ text ∈ write name type, Passes language text.toList .code .code) {members : List Member}
    (h : ∀ c ∈ strokes, ∀ name ∈ members.flatMap Member.names, Lacks c name) :
    ∀ block ∈ members.map (language.dialect.memberLines write), Level language indent block := by
  intro block hblock
  obtain ⟨m, hm, rfl⟩ := List.mem_map.mp hblock
  have hnames : ∀ c ∈ strokes, ∀ name ∈ m.names, Lacks c name :=
    fun c hc name hname => h c hc name (List.mem_flatMap.mpr ⟨m, hm, hname⟩)
  have hname : ∀ c ∈ strokes, Lacks c m.name := fun c hc => hnames c hc _ List.mem_cons_self
  have htype : ∀ c ∈ strokes, Lacks c (language.dialect.typeText m.type m.alwaysBoxed) :=
    fun c hc => lacks_typeText (mem_signs_of_mem_strokes hc) language
      (hnames c hc _ (List.mem_cons_of_mem m.name List.mem_cons_self)) m.alwaysBoxed
  apply (level_comment 2 m.comment).append
  exact level_texts 2 fun text htext => leads_line 2 (hwrite hname htype text htext)

theorem level_constantBlocks {constants : List Constant}
    (h : ∀ c ∈ strokes, ∀ name ∈ constants.map Constant.name, Lacks c name) :
    ∀ block ∈ language.dialect.constantBlocks constants, Level language indent block := by
  induction constants with
  | nil => exact fun _ h => absurd h List.not_mem_nil
  | cons constant constants ih =>
      have hname : ∀ c ∈ strokes, Lacks c (language.dialect.constant constant.name) :=
        fun c hc => lacks_constant (mem_signs_of_mem_strokes hc) language
          (h c hc constant.name List.mem_cons_self)
      have hcomment : Level language indent (language.dialect.commentLines 2 constant.comment) :=
        level_comment 2 constant.comment
      cases constants with
      | nil =>
          rw [Dialect.constantBlocks, List.forall_mem_singleton]
          exact hcomment.append (level_text 2 hname)
      | cons next constants =>
          have hlater := ih fun c hc name hmem => h c hc name (List.mem_cons_of_mem _ hmem)
          rw [Dialect.constantBlocks, List.forall_mem_cons]
          refine ⟨hcomment.append (level_text 2 fun c hc => ?_), hlater⟩
          exact lacks_append.mpr ⟨hname c hc, lacks_fixed hc rfl⟩
          simp

theorem level_bodyBlocks {body : Body} (h : ∀ c ∈ strokes, ∀ name ∈ body.names, Lacks c name) :
    ∀ block ∈ language.dialect.bodyBlocks body, Level language indent block := by
  cases body with
  | dataClass interfaces members =>
      exact level_memberBlocks passes_storage
        fun c hc name hname => h c hc name (List.mem_append_right interfaces hname)
  | interface members => exact level_memberBlocks passes_signature h
  | enumeration constants => exact level_constantBlocks h

/-- A definition opens one brace and closes it again. -/
theorem level_definitionLines {d : Definition}
    (h : ∀ c ∈ strokes, ∀ name ∈ d.names, Lacks c name) :
    Level language indent (language.dialect.definitionLines d) := by
  have hmark : Level language indent
      (if d.body.role = .enumeration then [⟨1, language.dialect.enumMark⟩] else []) := by
    split
    · exact level_text 1 fun c hc => lacks_enumMark (mem_signs_of_mem_strokes hc) language
    · exact level_nil
  have hdeclaration : Level language indent
      [⟨1, language.dialect.declaration d.body.role d.name d.body.interfaces⟩] := by
    apply level_text
    intro c hc
    apply lacks_declaration (mem_signs_of_mem_strokes hc)
    · exact h c hc d.name List.mem_cons_self
    · exact fun i hi => h c hc i (List.mem_cons_of_mem _ (d.body.interfaces_subset_names hi))
  have hblocks : ∀ block ∈ language.dialect.bodyBlocks d.body, Level language indent block :=
    level_bodyBlocks fun c hc name hname => h c hc name (List.mem_cons_of_mem d.name hname)
  have hbody := level_braces 1 (level_spaced hblocks)
  have hlines := (((level_comment 1 d.comment).append hmark).append hdeclaration).append
    (hbody.append level_blank)
  simpa [Dialect.definitionLines] using hlines

theorem level_definitions {definitions : List Definition}
    (h : ∀ d ∈ definitions, ∀ c ∈ strokes, ∀ name ∈ d.names, Lacks c name) :
    Level language indent (definitions.flatMap language.dialect.definitionLines) := by
  induction definitions with
  | nil => exact level_nil
  | cons d definitions ih =>
      obtain ⟨hhead, htail⟩ := List.forall_mem_cons.mp h
      exact (level_definitionLines hhead).append (ih htail)

namespace Options

variable (options : Options)

/-- A file with the given definitions up to its foot. -/
def unclosed (definitions : List Definition) : String :=
  options.fileHead ++ String.join (definitions.map options.definitionText)

theorem unclosed_eq (definitions : List Definition) :
    options.unclosed definitions = options.fileHead ++
      renderLines options.indent (definitions.flatMap options.dialect.definitionLines) := by
  rw [renderLines_flatMap]
  rfl

theorem slashes_prefix_stampLine : ['/', '/'] <+: (stampLine options).toList := by
  have hfixed : ['/', '/'] <+: "// This file was generated by a tool on ".toList := by decide
  rw [toList_stampLine]
  exact hfixed.trans (List.prefix_append _ _)

variable {options}
  (hoptions : ∀ c ∈ strokes, Lacks c options.namespaceName ∧ Lacks c options.holder)
include hoptions

theorem leads_fileHead : Leads options.language options.fileHead.toList .code .code 0 1 := by
  have hstamp : Level options.language options.indent [⟨0, stampLine options⟩] :=
    level_slashes 0 (newline_not_mem_stampLine options) (slashes_prefix_stampLine options)
  have htexts : Level options.language options.indent
      ((options.dialect.header options).tail.dropLast.map (⟨0, ·⟩)) := by
    apply level_texts
    intro text htext
    refine level_text 0 fun c hc => ?_
    obtain ⟨hnamespace, hholder⟩ := hoptions c hc
    exact lacks_header (mem_signs_of_mem_strokes hc) options.language hnamespace hholder text htext
  have hopen : Leads options.language (renderLines options.indent [⟨0, "\x7b"⟩]).toList
      .code .code 0 1 := leads_line 0 leads_open
  have hheader : (options.dialect.header options).map (Line.mk 0) =
      [⟨0, stampLine options⟩] ++
        (options.dialect.header options).tail.dropLast.map (Line.mk 0) ++ [⟨0, "\x7b"⟩] := by
    have hlines := congrArg (List.map (Line.mk 0)) (header_eq options.language options)
    rw [List.map_append, List.map_cons] at hlines
    exact hlines
  rw [fileHead, hheader, renderLines_append, String.toList_append]
  exact Leads.append (hstamp.append htexts) hopen 0 (by decide)

variable {definitions : List Definition}
  (h : ∀ d ∈ definitions, ∀ c ∈ strokes, ∀ name ∈ d.names, Lacks c name)
include h

theorem leads_unclosed :
    Leads options.language (options.unclosed definitions).toList .code .code 0 1 := by
  have hbody : Passes options.language
      (renderLines options.indent (definitions.flatMap options.dialect.definitionLines)).toList
      .code .code := level_definitions h
  rw [unclosed_eq, String.toList_append]
  exact (leads_fileHead hoptions).append hbody 0 (by decide)

/-- Behind the head the depth does not come back to zero. -/
theorem one_le_depth {part : List Char} (hhead : options.fileHead.toList <+: part)
    (hpart : part <+: (options.unclosed definitions).toList) :
    1 ≤ (options.language.scan part).depth := by
  obtain ⟨behind, rfl⟩ := hhead
  have hbody : Passes options.language
      (renderLines options.indent (definitions.flatMap options.dialect.definitionLines)).toList
      .code .code := level_definitions h
  rw [unclosed_eq, String.toList_append, List.prefix_append_right_inj] at hpart
  rw [Language.scan, Scanner.run, List.foldl_append, ← Scanner.run, ← Scanner.run,
    (leads_fileHead hoptions).run_eq]
  exact hbody.low_le 1 behind hpart

end Options

/-- The braces of a generated file are balanced, whatever its descriptions say. The depth is never
less than zero, it is one behind the head and behind every definition, it does not come back to zero
before the foot, and it is zero at the end. -/
theorem braces_balanced_of_generate {schema : Schema} {options : Options} {generated : Generated}
    (h : generate schema options = .ok generated)
    (hnames : ∀ name ∈ namesOf schema options,
      '/' ∉ name.toList ∧ '\x7b' ∉ name.toList ∧ '\x7d' ∉ name.toList) :
    ∃ definitions,
      (defineAll options.toRules schema.types).run .empty = .ok (definitions, generated.report) ∧
      generated.code = options.unclosed definitions ++ Options.fileFoot ∧
      (∀ part, part <+: generated.code.toList → 0 ≤ (options.language.scan part).depth) ∧
      (∀ first, first <+: definitions →
        options.language.scan (options.unclosed first).toList = ⟨.code, 1⟩) ∧
      (∀ part, options.fileHead.toList <+: part → part <+: (options.unclosed definitions).toList →
        1 ≤ (options.language.scan part).depth) ∧
      options.language.scan generated.code.toList = ⟨.code, 0⟩ := by
  have hstrokes : ∀ c ∈ strokes, ∀ name ∈ namesOf schema options, Lacks c name :=
    forall_mem_strokes.mpr ⟨fun name hname => (hnames name hname).1,
      fun name hname => (hnames name hname).2.1, fun name hname => (hnames name hname).2.2⟩
  have hoptions : ∀ c ∈ strokes, Lacks c options.namespaceName ∧ Lacks c options.holder := by
    intro c hc
    have hlacks := hstrokes c hc
    rw [namesOf, List.forall_mem_append, List.forall_mem_cons, List.forall_mem_cons] at hlacks
    exact ⟨hlacks.2.1, hlacks.2.2.1⟩
  have hdefinitions : ∀ d ∈ options.definitions schema.types, ∀ c ∈ strokes,
      ∀ name ∈ d.names, Lacks c name :=
    fun d hd c hc => lacks_names_of_mem_definitions (hstrokes c hc) hd
  obtain ⟨hrun, hcode, _⟩ := definitions_of_generate h
  have hunclosed : generated.code =
      options.unclosed (options.definitions schema.types) ++ Options.fileFoot :=
    hcode.trans (options.renderLines_fileLines _)
  have hfoot : Leads options.language Options.fileFoot.toList .code .code (-1) (-1) :=
    leads_close.append (passes_code (forall_mem_strokes.mpr (by decide))) (-1) (by decide)
  have hwhole : Leads options.language generated.code.toList .code .code 0 0 := by
    rw [hunclosed, String.toList_append]
    exact (Options.leads_unclosed hoptions hdefinitions).append hfoot 0 (by decide)
  refine ⟨_, hrun, hunclosed, ?_, ?_, ?_, ?_⟩
  · intro part hpart
    exact hwhole.low_le 0 part hpart
  · intro first hfirst
    have hsome := Options.leads_unclosed hoptions fun d hd => hdefinitions d (hfirst.subset hd)
    exact hsome.run_eq 0
  · exact fun part => Options.one_le_depth hoptions hdefinitions
  · exact hwhole.run_eq 0

namespace Braced

/-- A description with braces, and with all that begins or ends a comment. -/
def text : String :=
  "\x7d */ \x7b\r\n// \x7d\n\x7d \x7d /* \x7b */"

def page : FullType :=
  { FullType.plain .object "Page" with
    description := some text
    fields := some [{ Field.plain "class" (.scalar "Int") with description := some text },
      .plain "title" (.scalar "String")] }

def order : FullType :=
  { FullType.plain .enumeration "Order" with
    enumValues := some [{ EnumValue.plain "up" with description := some text }, .plain "down"] }

def schema : Schema := ⟨none, none, none, [page, order], []⟩

def csharp : Options := .ofLanguage "Content" .csharp 0

def java : Options := { Options.ofLanguage "com.content" .java 0 with indent := .spaces 2 }

theorem braces_balanced_in_schema :
    generate schema csharp = .ok (csharp.generatedOf schema.types) ∧
    generate schema java = .ok (java.generatedOf schema.types) ∧
    (∀ options ∈ [csharp, java], ∀ name ∈ namesOf schema options,
      '/' ∉ name.toList ∧ '\x7b' ∉ name.toList ∧ '\x7d' ∉ name.toList) ∧
    Language.csharp.scan (csharp.generatedOf schema.types).code.toList = ⟨.code, 0⟩ ∧
    Language.java.scan (java.generatedOf schema.types).code.toList = ⟨.code, 0⟩ := by
  have hcsharp : generate schema csharp = .ok (csharp.generatedOf schema.types) :=
    (generate_eq_ok_iff schema csharp _).mpr ⟨by decide, rfl⟩
  have hjava : generate schema java = .ok (java.generatedOf schema.types) :=
    (generate_eq_ok_iff schema java _).mpr ⟨by decide, rfl⟩
  have hnames : ∀ options ∈ [csharp, java], ∀ name ∈ namesOf schema options,
      '/' ∉ name.toList ∧ '\x7b' ∉ name.toList ∧ '\x7d' ∉ name.toList := by decide
  obtain ⟨_, _, _, _, _, _, hcsharpEnd⟩ :=
    braces_balanced_of_generate hcsharp (hnames csharp List.mem_cons_self)
  obtain ⟨_, _, _, _, _, _, hjavaEnd⟩ :=
    braces_balanced_of_generate hjava (hnames java (List.mem_cons_of_mem _ List.mem_cons_self))
  exact ⟨hcsharp, hjava, hnames, hcsharpEnd, hjavaEnd⟩

end Braced

end SchemaClasses
