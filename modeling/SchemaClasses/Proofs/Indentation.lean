import SchemaClasses.Proofs.Comparison

/-! The indentation of a file. The lines of a file and their depths do not depend on how one level
of depth is written, and no line stands deeper than at the second. -/

namespace SchemaClasses

/-- Every piece of text behind as many units as its depth. -/
def indented (unit : String) (pieces : List (Nat × String)) : String :=
  String.join (pieces.map fun (depth, text) => String.join (List.replicate depth unit) ++ text)

/-- A line with its ending, at its depth. -/
def Line.piece (l : Line) : Nat × String :=
  (l.depth, l.text ++ "\n")

theorem renderLines_eq_indented (indent : Indent) (lines : List Line) :
    renderLines indent lines = indented indent.unit (lines.map Line.piece) := by
  rw [renderLines, indented, List.map_map]
  congr 1
  apply List.map_congr_left
  intro l _
  rw [Line.render, String.append_assoc]
  rfl

theorem eq_blank_or_mem_of_mem_spaced {blocks : List (List Line)} {l : Line}
    (h : l ∈ spaced blocks) : l = Line.blank ∨ ∃ block ∈ blocks, l ∈ block := by
  induction blocks with
  | nil => cases h
  | cons block rest ih =>
      cases rest with
      | nil => exact Or.inr ⟨block, List.mem_cons_self, h⟩
      | cons next rest =>
          rw [spaced, List.mem_append, List.mem_cons] at h
          · rcases h with h | rfl | h
            · exact Or.inr ⟨block, List.mem_cons_self, h⟩
            · exact Or.inl rfl
            · rcases ih h with hblank | ⟨other, hother, hl⟩
              · exact Or.inl hblank
              · exact Or.inr ⟨other, List.mem_cons_of_mem block hother, hl⟩
          · exact List.cons_ne_nil next rest

namespace Dialect

variable {d : Dialect} {l : Line}

theorem depth_of_mem_commentLines {depth : Nat} {text : Option String}
    (h : l ∈ d.commentLines depth text) : l.depth = depth := by
  cases text with
  | none => cases h
  | some text =>
      obtain ⟨line, _, rfl⟩ := List.mem_map.mp h
      rfl

theorem depth_of_mem_memberLines {write : (name type : String) → List String} {m : Member}
    (h : l ∈ d.memberLines write m) : l.depth = 2 := by
  rcases List.mem_append.mp h with hcomment | htext
  · exact depth_of_mem_commentLines hcomment
  · obtain ⟨text, _, rfl⟩ := List.mem_map.mp htext
    rfl

theorem depth_of_mem_constantBlocks {constants : List Constant} {block : List Line}
    (hblock : block ∈ d.constantBlocks constants) (h : l ∈ block) : l.depth = 2 := by
  have hconstant : ∀ (comment : Option String) (text : String),
      l ∈ d.commentLines 2 comment ++ [⟨2, text⟩] → l.depth = 2 := by
    intro comment text hl
    rcases List.mem_append.mp hl with hcomment | htext
    · exact depth_of_mem_commentLines hcomment
    · rw [List.mem_singleton.mp htext]
  induction constants with
  | nil => cases hblock
  | cons c rest ih =>
      cases rest with
      | nil =>
          rw [List.mem_singleton.mp hblock] at h
          exact hconstant c.comment (d.constant c.name) h
      | cons next rest =>
          rcases List.mem_cons.mp hblock with rfl | hblock
          · exact hconstant c.comment (d.constant c.name ++ ",") h
          · exact ih hblock

theorem depth_of_mem_bodyBlocks {body : Body} {block : List Line} (hblock : block ∈ d.bodyBlocks body)
    (h : l ∈ block) : l.depth = 2 := by
  cases body with
  | dataClass _ members | interface members =>
      obtain ⟨m, _, rfl⟩ := List.mem_map.mp hblock
      exact depth_of_mem_memberLines h
  | enumeration constants => exact depth_of_mem_constantBlocks hblock h

theorem depth_le_of_mem_definitionLines {definition : Definition}
    (h : l ∈ d.definitionLines definition) : l.depth ≤ 2 := by
  rw [definitionLines] at h
  simp only [List.mem_append, List.mem_cons, List.not_mem_nil, or_false] at h
  rcases h with ((hcomment | hmark) | rfl | rfl | hbody) | rfl | rfl
  · rw [depth_of_mem_commentLines hcomment]
    decide
  · split at hmark
    · rw [List.mem_singleton.mp hmark]
      exact Nat.le_succ 1
    · cases hmark
  · exact Nat.le_succ 1
  · exact Nat.le_succ 1
  · rcases eq_blank_or_mem_of_mem_spaced hbody with rfl | ⟨block, hblock, hl⟩
    · decide
    · exact Nat.le_of_eq (depth_of_mem_bodyBlocks hblock hl)
  · exact Nat.le_succ 1
  · exact Nat.zero_le 2

theorem depth_le_of_mem_fileLines {options : Options} {definitions : List Definition}
    (h : l ∈ d.fileLines options definitions) : l.depth ≤ 2 := by
  rw [fileLines, List.mem_append, List.mem_append, List.mem_singleton] at h
  rcases h with (hheader | hbody) | rfl
  · obtain ⟨text, _, rfl⟩ := List.mem_map.mp hheader
    exact Nat.zero_le 2
  · obtain ⟨definition, _, hl⟩ := List.mem_flatMap.mp hbody
    exact depth_le_of_mem_definitionLines hl
  · exact Nat.zero_le 2

end Dialect

/-- What stands in a file besides its indentation. -/
def Options.pieces (options : Options) (schema : Schema) : List (Nat × String) :=
  (options.dialect.fileLines options (options.definitions schema.types)).map Line.piece

theorem depth_le_and_ends_of_mem_pieces {options : Options} {schema : Schema} {p : Nat × String}
    (h : p ∈ options.pieces schema) : p.1 ≤ 2 ∧ ∃ text, p.2 = text ++ "\n" := by
  obtain ⟨l, hl, rfl⟩ := List.mem_map.mp h
  exact ⟨Dialect.depth_le_of_mem_fileLines hl, l.text, rfl⟩

/-- The lines of a file do not tell how it is indented. -/
theorem pieces_indent (options : Options) (schema : Schema) (indent : Indent) :
    { options with indent }.pieces schema = options.pieces schema := by
  rcases options with ⟨_, _, language, _, _, _⟩
  cases language <;> rfl

theorem code_generatedOf_eq_indented (options : Options) (schema : Schema) :
    (options.generatedOf schema.types).code =
      indented options.indent.unit (options.pieces schema) := by
  rw [Options.code_generatedOf, renderLines_eq_indented, Options.pieces]

/-- What is generated from types that all become something, indented in another way. -/
theorem generatedOf_indent (options : Options) (schema : Schema) (indent : Indent) :
    { options with indent }.generatedOf schema.types =
      { options.generatedOf schema.types with
        code := indented indent.unit (options.pieces schema) } := by
  have hcode := code_generatedOf_eq_indented { options with indent } schema
  rw [pieces_indent] at hcode
  have hlength : ({ options with indent }.blocks schema.types).length =
      (options.blocks schema.types).length := by
    rw [Options.blocks_eq_map, Options.blocks_eq_map, List.length_map, List.length_map]
    rfl
  rw [← hcode, Options.generatedOf, hlength]
  rfl

/-- Indented in another way, the same is generated with other code. -/
theorem generate_indent (schema : Schema) (options : Options) (indent : Indent) :
    generate schema { options with indent } = (generate schema options).map fun g =>
      { g with code := indented indent.unit (options.pieces schema) } := by
  have hmap : (generate schema { options with indent }).map id = (generate schema options).map
      fun g => { g with code := indented indent.unit (options.pieces schema) } := by
    apply generate_map_eq_map
    · rfl
    · intro _
      exact generatedOf_indent options schema indent
  rw [← hmap, Except.map_id]
  rfl

/-- How a file is indented decides nothing but its indentation. A schema fails in all styles or in
none, with one error; and where it has a model, there is one list of texts, each with a depth of two
at most and a line ending at its end, from which the file in any style is put together with the unit
of that style. The report and the number of definitions are the same in all styles. -/
theorem error_iff_and_code_eq_indented (schema : Schema) (options : Options) :
    (∀ indent e, generate schema { options with indent } = .error e ↔
      generate schema options = .error e) ∧
    ∀ g, generate schema options = .ok g → ∃ pieces : List (Nat × String),
      (∀ p ∈ pieces, p.1 ≤ 2 ∧ ∃ text, p.2 = text ++ "\n") ∧
      ∀ indent, generate schema { options with indent } =
        .ok { g with code := indented indent.unit pieces } := by
  constructor
  · intro indent e
    rw [generate_indent]
    cases generate schema options <;> simp [Except.map]
  · intro g h
    refine ⟨options.pieces schema, fun p => depth_le_and_ends_of_mem_pieces, fun indent => ?_⟩
    rw [generate_indent, h]
    rfl

namespace Indented

/-- A class with a comment of two lines, one of them empty, above a member of several lines. -/
def page : FullType :=
  { FullType.plain .object "Page" with
    fields := some [{ Field.plain "class" (.scalar "Int") with description := some "First\n\nLast" },
      .plain "title" (.scalar "String")] }

def schema : Schema :=
  ⟨none, none, none,
    [page, { FullType.plain .enumeration "Order" with
      enumValues := some [.plain "up", .plain "down"] }], []⟩

def options : Options := .ofLanguage "com.content" .java 0

theorem error_iff_and_code_eq_indented_in_schema :
    generate schema options = .ok (options.generatedOf schema.types) ∧
    ∃ pieces : List (Nat × String),
      (∀ p ∈ pieces, p.1 ≤ 2 ∧ ∃ text, p.2 = text ++ "\n") ∧
      (options.generatedOf schema.types).code = indented "\t" pieces ∧
      ∀ indent, generate schema { options with indent } =
        .ok { options.generatedOf schema.types with code := indented indent.unit pieces } := by
  have hgenerated : generate schema options = .ok (options.generatedOf schema.types) :=
    (generate_eq_ok_iff schema options _).mpr ⟨by decide, rfl⟩
  obtain ⟨pieces, hpieces, hcode⟩ :=
    (error_iff_and_code_eq_indented schema options).2 _ hgenerated
  have htabs := hgenerated.symm.trans (hcode .tabs)
  exact ⟨hgenerated, pieces, hpieces, congrArg Generated.code (Except.ok.inj htabs), hcode⟩

end Indented

end SchemaClasses
