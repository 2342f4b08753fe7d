import SchemaClasses.Model.Generate
import SchemaClasses.Proofs.Outcome

/-! A generated file is made of the outcomes of the types, in their order: a head, one block of text
to a definition, and a foot. -/

namespace SchemaClasses

theorem renderLines_append (indent : Indent) (above below : List Line) :
    renderLines indent (above ++ below) = renderLines indent above ++ renderLines indent below := by
  simp only [renderLines, List.map_append, String.join_append]

theorem renderLines_flatMap {α : Type} (indent : Indent) (lines : α → List Line) (as : List α) :
    renderLines indent (as.flatMap lines) =
      String.join (as.map fun a => renderLines indent (lines a)) := by
  induction as with
  | nil => rfl
  | cons a as ih =>
      rw [List.flatMap_cons, renderLines_append, ih, List.map_cons, String.join_cons]

namespace Options

variable (options : Options)

def dialect : Dialect :=
  options.language.dialect

/-- A file up to the brace that encloses all definitions. -/
def fileHead : String :=
  renderLines options.indent ((options.dialect.header options).map (⟨0, ·⟩))

def fileFoot : String :=
  "\x7d\n"

def definitionText (d : Definition) : String :=
  renderLines options.indent (options.dialect.definitionLines d)

/-- The text of a type in a file; there is none for a type without a definition. -/
def block? (t : FullType) : Option String :=
  (t.definition? options.toRules).map options.definitionText

def blocks (types : List FullType) : List String :=
  types.filterMap options.block?

/-- What is generated from types that all become something. -/
def generatedOf (types : List FullType) : Generated where
  code := options.fileHead ++ String.join (options.blocks types) ++ fileFoot
  report := Report.empty.addAll (types.flatMap (FullType.notes options.toRules))
  emitted := (options.blocks types).length

theorem renderLines_fileLines (definitions : List Definition) :
    renderLines options.indent (options.dialect.fileLines options definitions) =
      options.fileHead ++ String.join (definitions.map options.definitionText) ++ fileFoot := by
  have hfoot : renderLines options.indent [⟨0, "\x7d"⟩] = fileFoot := by
    cases options.indent <;> rfl
  rw [Dialect.fileLines, renderLines_append, renderLines_append, renderLines_flatMap, hfoot]
  rfl

end Options

/-- The code has a definition: the line that declares it, and its members between braces. -/
def Options.Prints (options : Options) (code : String) (role : Role) (name : String)
    (interfaces : List String) (members : List (List Line)) : Prop :=
  ∃ before behind, code = before ++
    renderLines options.indent (⟨1, options.dialect.declaration role name interfaces⟩ ::
      ⟨1, "\x7b"⟩ :: spaced members ++ [⟨1, "\x7d"⟩]) ++ behind

/-- What a type becomes stands in the code, with the other definitions around it. -/
theorem exists_definitionText {options : Options} {types : List FullType} {t : FullType}
    {d : Definition} (ht : t ∈ types) (hd : t.definition? options.toRules = some d) :
    ∃ before behind,
      (options.generatedOf types).code = before ++ options.definitionText d ++ behind := by
  obtain ⟨before, behind, rfl⟩ := List.append_of_mem ht
  have hblocks : options.blocks (before ++ t :: behind) =
      options.blocks before ++ options.definitionText d :: options.blocks behind := by
    rw [Options.blocks, List.filterMap_append, List.filterMap_cons, Options.block?, hd]
    rfl
  refine ⟨options.fileHead ++ String.join (options.blocks before),
    String.join (options.blocks behind) ++ Options.fileFoot, ?_⟩
  rw [Options.generatedOf, hblocks, String.join_append, String.join_cons]
  simp only [String.append_assoc]

theorem prints_of_mem {options : Options} {types : List FullType} {t : FullType} {d : Definition}
    (ht : t ∈ types) (hd : t.definition? options.toRules = some d) :
    options.Prints (options.generatedOf types).code d.body.role d.name d.body.interfaces
      (options.dialect.bodyBlocks d.body) := by
  obtain ⟨before, behind, hcode⟩ := exists_definitionText ht hd
  let above := options.dialect.commentLines 1 d.comment ++
    if d.body.role = .enumeration then [⟨1, options.dialect.enumMark⟩] else []
  have hlines : options.dialect.definitionLines d = above ++
      (⟨1, options.dialect.declaration d.body.role d.name d.body.interfaces⟩ :: ⟨1, "\x7b"⟩ ::
        spaced (options.dialect.bodyBlocks d.body) ++ [⟨1, "\x7d"⟩]) ++ [Line.blank] := by
    simp [Dialect.definitionLines, above]
  refine ⟨before ++ renderLines options.indent above,
    renderLines options.indent [Line.blank] ++ behind, ?_⟩
  rw [hcode, Options.definitionText, hlines, renderLines_append, renderLines_append]
  simp only [String.append_assoc]

theorem definitions_of_outcomes {rules : Rules} {types : List FullType}
    {outcomes : List (Option Definition)} (h : types.mapM (FullType.outcome rules) = .ok outcomes) :
    outcomes.filterMap id = types.filterMap (FullType.definition? rules) := by
  have hall := forall₂_of_mapM h
  clear h
  induction hall with
  | nil => rfl
  | cons hhead _ ih =>
      rw [List.filterMap_cons, List.filterMap_cons, ih, FullType.definition?, hhead]
      rfl

/-- Generation checks all names, then takes each type by itself. -/
theorem generate_eq (schema : Schema) (options : Options) :
    generate schema options = (do
      checkNames 0 [] schema.types
      let _ ← schema.types.mapM (FullType.outcome options.toRules)
      return options.generatedOf schema.types) := by
  unfold generate
  cases checkNames 0 [] schema.types with
  | error e => rfl
  | ok _ =>
      have hrun := gives_defineAll options.toRules schema.types Report.empty
      cases houtcomes : schema.types.mapM (FullType.outcome options.toRules) with
      | error e =>
          rw [houtcomes] at hrun
          simp only [hrun]
          rfl
      | ok outcomes =>
          have hblocks : (schema.types.filterMap (FullType.definition? options.toRules)).map
              options.definitionText = options.blocks schema.types := by
            rw [List.map_filterMap]
            rfl
          rw [houtcomes, Except.map, Except.map, definitions_of_outcomes houtcomes] at hrun
          simp only [hrun]
          show Except.ok _ = Except.ok _
          congr 1
          rw [Options.generatedOf, ← hblocks, List.length_map, ← options.renderLines_fileLines]
          rfl

theorem eq_generatedOf_of_generate {schema : Schema} {options : Options} {generated : Generated}
    (h : generate schema options = .ok generated) :
    generated = options.generatedOf schema.types := by
  rw [generate_eq] at h
  obtain ⟨_, _, h⟩ := eq_ok_of_bind h
  obtain ⟨_, _, h⟩ := eq_ok_of_bind h
  cases h
  rfl

/-- The definitions in the code, in the order of the schema. -/
def Options.definitions (options : Options) (types : List FullType) : List Definition :=
  types.filterMap (FullType.definition? options.toRules)

theorem Options.blocks_eq_map (options : Options) (types : List FullType) :
    options.blocks types = (options.definitions types).map options.definitionText := by
  rw [definitions, List.map_filterMap]
  rfl

theorem Options.code_generatedOf (options : Options) (types : List FullType) :
    (options.generatedOf types).code =
      renderLines options.indent (options.dialect.fileLines options (options.definitions types)) := by
  rw [generatedOf, blocks_eq_map, renderLines_fileLines]

/-- A run that ends well has come to the definitions, and they are the code. -/
theorem definitions_of_generate {schema : Schema} {options : Options} {generated : Generated}
    (h : generate schema options = .ok generated) :
    (defineAll options.toRules schema.types).run .empty =
        .ok (options.definitions schema.types, generated.report) ∧
      generated.code = renderLines options.indent
        (options.dialect.fileLines options (options.definitions schema.types)) ∧
      generated.emitted = (options.definitions schema.types).length := by
  unfold generate at h
  obtain ⟨_, _, h⟩ := eq_ok_of_bind h
  obtain ⟨⟨definitions, report⟩, hrun, h⟩ := eq_ok_of_bind h
  cases h
  have hdefinitions : definitions = options.definitions schema.types := by
    have hgives := gives_defineAll options.toRules schema.types .empty
    rw [hrun] at hgives
    cases houtcomes : schema.types.mapM (FullType.outcome options.toRules) with
    | error e =>
        rw [houtcomes] at hgives
        cases hgives
    | ok outcomes =>
        rw [houtcomes, Except.map, Except.map, definitions_of_outcomes houtcomes] at hgives
        cases hgives
        rfl
  rw [← hdefinitions]
  exact ⟨hrun, rfl, rfl⟩

end SchemaClasses
