import SchemaClasses.Proofs.DefinitionNames
import SchemaClasses.Proofs.Descriptions
import SchemaClasses.Proofs.FileLines
import SchemaClasses.Proofs.LineTexts

/-! Readers that go through a file line by line. One that passes over comments finds in a file what
it finds in the file without comments, where every line is taken by itself. -/

namespace SchemaClasses

/-- The characters that end a line and that begin a comment. -/
def marks : List Char := ['\n', '/']

theorem mem_foreign_of_mem_marks {c : Char} (hc : c ∈ marks) : c ∈ foreign :=
  List.mem_append_left ['*'] hc

theorem mem_signs_of_mem_marks {c : Char} (hc : c ∈ marks) : c ∈ signs :=
  mem_signs_of_mem_foreign (mem_foreign_of_mem_marks hc)

/-- A reader of files that passes over the comments of definitions and members. -/
structure LineReader (language : Language) (indent : Indent) (α : Type) where
  read : List Char → List α
  /-- What it finds in a line that belongs to no comment. -/
  found : Line → List α
  read_nil : read [] = []
  read_comment : ∀ depth ∈ [1, 2], ∀ comment rest,
    read ((renderLines indent (language.dialect.commentLines depth comment)).toList ++ rest) =
      read rest
  read_line : ∀ l : Line, (∀ c ∈ marks, Lacks c l.text) → ∀ rest,
    read ((renderLines indent [l]).toList ++ rest) = found l ++ read rest
  /-- The first line of a file is a comment of another kind. -/
  read_stamp : ∀ options rest,
    read ((renderLines indent [⟨0, stampLine options⟩]).toList ++ rest) =
      found ⟨0, stampLine options⟩ ++ read rest

/-- The definition without the comments in it. -/
def Definition.uncommented (d : Definition) : Definition :=
  d.recommented fun _ => none

namespace LineReader

variable {language : Language} {indent : Indent} {α : Type} (r : LineReader language indent α)

/-- Whatever stands behind the lines, the reader finds in them what it finds in others. -/
def Finds (lines others : List Line) : Prop :=
  ∀ rest, r.read ((renderLines indent lines).toList ++ rest) = others.flatMap r.found ++ r.read rest

variable {r}

theorem finds_nil : r.Finds [] [] :=
  fun _ => rfl

theorem Finds.append {above below others others' : List Line} (habove : r.Finds above others)
    (hbelow : r.Finds below others') : r.Finds (above ++ below) (others ++ others') := by
  intro rest
  rw [renderLines_append, String.toList_append, List.append_assoc, habove, hbelow,
    List.flatMap_append, List.append_assoc]

theorem finds_comment {depth : Nat} (hdepth : depth ∈ [1, 2]) (comment : Option String) :
    r.Finds (language.dialect.commentLines depth comment) [] :=
  r.read_comment depth hdepth comment

theorem finds_text (depth : Nat) {text : String} (h : ∀ c ∈ marks, Lacks c text) :
    r.Finds [⟨depth, text⟩] [⟨depth, text⟩] := by
  intro rest
  rw [r.read_line ⟨depth, text⟩ h, List.flatMap_singleton]

theorem finds_texts (depth : Nat) {texts : List String}
    (h : ∀ c ∈ marks, ∀ text ∈ texts, Lacks c text) :
    r.Finds (texts.map (⟨depth, ·⟩)) (texts.map (⟨depth, ·⟩)) := by
  induction texts with
  | nil => exact finds_nil
  | cons text texts ih =>
      have hhead := finds_text (r := r) depth fun c hc => h c hc text List.mem_cons_self
      exact hhead.append (ih fun c hc text' htext' => h c hc text' (List.mem_cons_of_mem _ htext'))

theorem finds_spaced {blocks others : List (List Line)} (h : List.Forall₂ r.Finds blocks others) :
    r.Finds (spaced blocks) (spaced others) := by
  have hblank : r.Finds [Line.blank] [Line.blank] := finds_text 0 fun _ hc => lacks_fixed hc rfl
  induction h with
  | nil => exact finds_nil
  | cons hhead htail ih =>
      cases htail with
      | nil => exact hhead
      | cons _ _ => exact hhead.append (hblank.append ih)

theorem finds_flatMap {β : Type} {lines others : β → List Line} {bs : List β}
    (h : ∀ b ∈ bs, r.Finds (lines b) (others b)) :
    r.Finds (bs.flatMap lines) (bs.flatMap others) := by
  induction bs with
  | nil => exact finds_nil
  | cons b bs ih =>
      obtain ⟨hhead, htail⟩ := List.forall_mem_cons.mp h
      exact hhead.append (ih htail)

theorem finds_memberBlocks {write : String → String → List String}
    (hwrite : ∀ c ∈ marks, ∀ {name type : String}, Lacks c name → Lacks c type →
      ∀ text ∈ write name type, Lacks c text) {members : List Member}
    (h : ∀ c ∈ marks, ∀ name ∈ members.flatMap Member.names, Lacks c name) :
    List.Forall₂ r.Finds (members.map (language.dialect.memberLines write))
      ((members.map (Member.recommented fun _ => none)).map
        (language.dialect.memberLines write)) := by
  rw [List.map_map, List.forall₂_map_left_iff, List.forall₂_map_right_iff, List.forall₂_same]
  intro m hm
  have hnames : ∀ c ∈ marks, ∀ name ∈ m.names, Lacks c name :=
    fun c hc name hname => h c hc name (List.mem_flatMap.mpr ⟨m, hm, hname⟩)
  apply (finds_comment (by decide) m.comment).append
  apply finds_texts
  intro c hc
  have htype := hnames c hc m.type.name (List.mem_cons_of_mem _ List.mem_cons_self)
  exact hwrite c hc (hnames c hc m.name List.mem_cons_self)
    (lacks_typeText (mem_signs_of_mem_marks hc) language htype m.alwaysBoxed)

theorem finds_constantBlocks {constants : List Constant}
    (h : ∀ c ∈ marks, ∀ name ∈ constants.map Constant.name, Lacks c name) :
    List.Forall₂ r.Finds (language.dialect.constantBlocks constants)
      (language.dialect.constantBlocks (constants.map (Constant.recommented fun _ => none))) := by
  induction constants with
  | nil => exact .nil
  | cons constant constants ih =>
      have hname : ∀ c ∈ marks, Lacks c (language.dialect.constant constant.name) :=
        fun c hc => lacks_constant (mem_signs_of_mem_marks hc) language
          (h c hc constant.name List.mem_cons_self)
      have hcomment : r.Finds (language.dialect.commentLines 2 constant.comment) [] :=
        finds_comment (by decide) constant.comment
      cases constants with
      | nil => exact .cons (hcomment.append (finds_text 2 hname)) .nil
      | cons next constants =>
          refine .cons (hcomment.append (finds_text 2 fun c hc => ?_))
            (ih fun c hc name hmem => h c hc name (List.mem_cons_of_mem _ hmem))
          rw [lacks_append]
          exact ⟨hname c hc, lacks_fixed hc rfl⟩

theorem finds_bodyBlocks {body : Body} (h : ∀ c ∈ marks, ∀ name ∈ body.names, Lacks c name) :
    List.Forall₂ r.Finds (language.dialect.bodyBlocks body)
      (language.dialect.bodyBlocks (body.recommented fun _ => none)) := by
  cases body with
  | dataClass interfaces members =>
      apply finds_memberBlocks
      · exact fun c hc => lacks_storage (mem_foreign_of_mem_marks hc) language
      · exact fun c hc name hname => h c hc name (List.mem_append_right interfaces hname)
  | interface members =>
      apply finds_memberBlocks
      · exact fun c hc => lacks_signature (mem_foreign_of_mem_marks hc) language
      · exact h
  | enumeration constants => exact finds_constantBlocks h

theorem finds_definitionLines {d : Definition}
    (h : ∀ c ∈ marks, ∀ name ∈ d.names, Lacks c name) :
    r.Finds (language.dialect.definitionLines d)
      (language.dialect.definitionLines d.uncommented) := by
  have hrole : (d.body.recommented fun _ => none).role = d.body.role := by cases d.body <;> rfl
  have hinterfaces : (d.body.recommented fun _ => none).interfaces = d.body.interfaces := by
    cases d.body <;> rfl
  have hmark : r.Finds
      (if d.body.role = .enumeration then [⟨1, language.dialect.enumMark⟩] else [])
      (if d.body.role = .enumeration then [⟨1, language.dialect.enumMark⟩] else []) := by
    split
    · exact finds_text 1 fun c hc => lacks_enumMark (mem_signs_of_mem_marks hc) language
    · exact finds_nil
  have hdeclaration : r.Finds
      [⟨1, language.dialect.declaration d.body.role d.name d.body.interfaces⟩]
      [⟨1, language.dialect.declaration d.body.role d.name d.body.interfaces⟩] := by
    apply finds_text
    intro c hc
    apply lacks_declaration (mem_signs_of_mem_marks hc)
    · exact h c hc d.name List.mem_cons_self
    · exact fun i hi => h c hc i (List.mem_cons_of_mem _ (d.body.interfaces_subset_names hi))
  have hopen : r.Finds [⟨1, "\x7b"⟩] [⟨1, "\x7b"⟩] := finds_text 1 fun _ hc => lacks_fixed hc rfl
  have hbody := finds_spaced (finds_bodyBlocks (r := r)
    fun c hc name hname => h c hc name (List.mem_cons_of_mem _ hname))
  have hclose : r.Finds [⟨1, "\x7d"⟩] [⟨1, "\x7d"⟩] := finds_text 1 fun _ hc => lacks_fixed hc rfl
  have hblank : r.Finds [Line.blank] [Line.blank] := finds_text 0 fun _ hc => lacks_fixed hc rfl
  have hcomment : r.Finds (language.dialect.commentLines 1 d.comment) [] :=
    finds_comment (by decide) d.comment
  have hlines := (((hcomment.append hmark).append hdeclaration).append hopen).append
    (hbody.append (hclose.append hblank))
  simpa [Dialect.definitionLines, Definition.uncommented, Definition.recommented, hrole,
    hinterfaces, Dialect.commentLines] using hlines

theorem finds_fileLines {options : Options} {definitions : List Definition}
    (hoptions : ∀ c ∈ marks, Lacks c options.namespaceName ∧ Lacks c options.holder)
    (h : ∀ d ∈ definitions, ∀ c ∈ marks, ∀ name ∈ d.names, Lacks c name) :
    r.Finds (language.dialect.fileLines options definitions)
      (language.dialect.fileLines options (definitions.map Definition.uncommented)) := by
  have hstamp : r.Finds [⟨0, stampLine options⟩] [⟨0, stampLine options⟩] := by
    intro rest
    rw [r.read_stamp, List.flatMap_singleton]
  have hopen : r.Finds [⟨0, "\x7b"⟩] [⟨0, "\x7b"⟩] := finds_text 0 fun _ hc => lacks_fixed hc rfl
  have htexts : r.Finds ((language.dialect.header options).tail.dropLast.map (⟨0, ·⟩))
      ((language.dialect.header options).tail.dropLast.map (⟨0, ·⟩)) := by
    apply finds_texts
    intro c hc
    obtain ⟨hnamespace, hholder⟩ := hoptions c hc
    exact lacks_header (mem_signs_of_mem_marks hc) language hnamespace hholder
  have hheader : r.Finds ((language.dialect.header options).map (⟨0, ·⟩))
      ((language.dialect.header options).map (⟨0, ·⟩)) := by
    rw [header_eq, List.map_append, List.map_cons]
    exact (hstamp.append htexts).append hopen
  have hdefinitions := finds_flatMap fun d hd => finds_definitionLines (r := r) (h d hd)
  have hfoot : r.Finds [⟨0, "\x7d"⟩] [⟨0, "\x7d"⟩] := finds_text 0 fun _ hc => lacks_fixed hc rfl
  rw [Dialect.fileLines, Dialect.fileLines, List.flatMap_map]
  exact (hheader.append hdefinitions).append hfoot

end LineReader

/-- All names in the types of a schema. -/
def Schema.names (s : Schema) : List String :=
  s.types.flatMap FullType.names

/-- The names in a schema and in the options of a run. -/
def namesOf (schema : Schema) (options : Options) : List String :=
  schema.names ++ options.namespaceName :: options.holder :: options.toRules.names

theorem lacks_names_of_mem_definitions {c : Char} {schema : Schema} {options : Options}
    (h : ∀ name ∈ namesOf schema options, Lacks c name) {d : Definition}
    (hd : d ∈ options.definitions schema.types) : ∀ name ∈ d.names, Lacks c name := by
  intro name hname
  rw [namesOf, List.forall_mem_append, List.forall_mem_cons, List.forall_mem_cons] at h
  obtain ⟨t, ht, hdefinition⟩ := List.mem_filterMap.mp hd
  rcases FullType.definition_names_subset hdefinition name hname with hschema | hrule
  · exact h.1 name (List.mem_flatMap.mpr ⟨t, ht, hschema⟩)
  · exact h.2.2.2 name hrule

/-- A file is read as the same file without comments, where no name has a line feed or a slash. -/
theorem LineReader.read_file {options : Options} {indent : Indent} {α : Type}
    (r : LineReader options.language indent α) {schema : Schema}
    (h : ∀ c ∈ marks, ∀ name ∈ namesOf schema options, Lacks c name) :
    r.read (renderLines indent
        (options.dialect.fileLines options (options.definitions schema.types))).toList =
      (options.dialect.fileLines options
        ((options.definitions schema.types).map Definition.uncommented)).flatMap r.found := by
  have hfile : r.Finds (options.dialect.fileLines options (options.definitions schema.types))
      (options.dialect.fileLines options
        ((options.definitions schema.types).map Definition.uncommented)) := by
    apply finds_fileLines
    · intro c hc
      have h := h c hc
      rw [namesOf, List.forall_mem_append, List.forall_mem_cons, List.forall_mem_cons] at h
      exact ⟨h.2.1, h.2.2.1⟩
    · exact fun d hd c hc => lacks_names_of_mem_definitions (h c hc) hd
  have hread := hfile []
  rwa [List.append_nil, r.read_nil, List.append_nil] at hread

end SchemaClasses
