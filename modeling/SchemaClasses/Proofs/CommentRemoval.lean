import SchemaClasses.Proofs.CommentReading

/-! Descriptions only add comments. The file for a schema without descriptions is the file for the
schema itself with its comments removed. -/

namespace SchemaClasses

/-- A text without comments. -/
def Language.withoutComments (language : Language) (code : String) : String :=
  String.ofList (language.stripped code.toList)

theorem withoutComments_file {schema : Schema} {options : Options}
    (h : ∀ c ∈ marks, ∀ name ∈ namesOf schema options, Lacks c name) :
    let definitions := options.definitions schema.types
    options.language.withoutComments
        (renderLines options.indent (options.dialect.fileLines options definitions)) =
      renderLines options.indent
        (options.dialect.fileLines options (definitions.map Definition.uncommented)) := by
  intro definitions
  have hread := (commentRemover options.language options.indent).read_file h
  have hfound : ∀ lines, lines.flatMap (commentRemover options.language options.indent).found =
      (renderLines options.indent lines).toList := by
    intro lines
    induction lines with
    | nil => rfl
    | cons l lines ih =>
        rw [List.flatMap_cons, ih, ← List.singleton_append, renderLines_append,
          String.toList_append]
        rfl
  rw [hfound] at hread
  exact (congrArg String.ofList hread).trans String.ofList_toList

/-- A blank description is none. -/
theorem commentOf_filter_blank (description : Option String) :
    commentOf (description.filter fun text => ¬ Text.isBlankText text) = commentOf description := by
  cases description with
  | none => rfl
  | some text =>
      rw [Option.filter_some]
      cases hblank : Text.isBlankText text with
      | false => rfl
      | true =>
          have htrimmed : Text.trim text.toList = [] := by
            rw [Text.trim, Text.trimStart, List.dropWhile_eq_nil_iff.mpr (List.all_eq_true.mp hblank)]
            rfl
          show none = Text.trimmed? text
          rw [Text.trimmed?, htrimmed]

/-- Descriptions only add comments: without them the run fails for the same reason, or has the code
of the run with them whose comments are removed, with as many definitions and the same report. Blank
descriptions add nothing. -/
theorem undescribed_eq_without_comments_and_blank_adds_nothing (schema : Schema)
    (options : Options) :
    ((∀ name ∈ namesOf schema options, '\n' ∉ name.toList ∧ '/' ∉ name.toList) →
      generate schema.undescribed options =
        (generate schema options).map (Generated.recoded options.language.withoutComments)) ∧
    generate schema.withoutBlankDescriptions options = generate schema options := by
  refine ⟨?_, ?_⟩
  · intro hnames
    apply generate_redescribed options.language.withoutComments (g := fun _ => none) fun _ => rfl
    apply withoutComments_file
    intro c hc name hname
    simp only [marks, List.mem_cons, List.not_mem_nil, or_false] at hc
    rcases hc with rfl | rfl
    · exact (hnames name hname).1
    · exact (hnames name hname).2
  · have hrecoded : Generated.recoded id = id := rfl
    have hsame := generate_redescribed id (g := id) commentOf_filter_blank schema options
    rw [Definition.recommented_id, List.map_id, hrecoded, Except.map_id] at hsame
    exact hsame rfl

namespace Hostile

/-- A description with line endings of two kinds, and with all marks of comments in it. -/
def text : String :=
  "*/ ends */\r\n/// here\n\n  /* \n// and & there *"

/-- A class that is described at every place, and once with nothing but blanks. -/
def page : FullType :=
  { FullType.plain .object "Page" with
    description := some text
    fields := some [
      { Field.plain "itemType" (.scalar "Int") with description := some text },
      { Field.plain "class" (.nonNullOf (.scalar "Int")) with description := some " \t\n" }] }

def order : FullType :=
  { FullType.plain .enumeration "Order" with
    enumValues := some [{ EnumValue.plain "up" with description := some text }, .plain "down"] }

def schema : Schema := ⟨none, none, none, [page, order], []⟩

def csharp : Options := .ofLanguage "Content" .csharp 0

def java : Options := { Options.ofLanguage "com.content" .java 0 with indent := .spaces 2 }

theorem undescribed_eq_without_comments_in_schema :
    generate schema csharp = .ok (csharp.generatedOf schema.types) ∧
    (∀ options ∈ [csharp, java],
      ∀ name ∈ namesOf schema options, '\n' ∉ name.toList ∧ '/' ∉ name.toList) ∧
    generate schema.undescribed csharp =
      (generate schema csharp).map (Generated.recoded Language.csharp.withoutComments) ∧
    generate schema.undescribed java =
      (generate schema java).map (Generated.recoded Language.java.withoutComments) ∧
    generate schema.withoutBlankDescriptions java = generate schema java ∧
    schema.withoutBlankDescriptions ≠ schema := by
  have hgenerated : generate schema csharp = .ok (csharp.generatedOf schema.types) :=
    (generate_eq_ok_iff schema csharp _).mpr ⟨by decide, rfl⟩
  have hnames : ∀ options ∈ [csharp, java],
      ∀ name ∈ namesOf schema options, '\n' ∉ name.toList ∧ '/' ∉ name.toList := by decide
  refine ⟨hgenerated, hnames, ?_, ?_, ?_, by decide⟩
  · exact (undescribed_eq_without_comments_and_blank_adds_nothing schema csharp).1
      (hnames csharp List.mem_cons_self)
  · exact (undescribed_eq_without_comments_and_blank_adds_nothing schema java).1
      (hnames java (List.mem_cons_of_mem _ List.mem_cons_self))
  · exact (undescribed_eq_without_comments_and_blank_adds_nothing schema java).2

end Hostile

end SchemaClasses
