import SchemaClasses.Proofs.NameCollisions

/-! Reserved words in Java. A holder class is refused if its name is one, and fields, parameters and
constants get an underscore; a type keeps the name that it has in the schema. -/

namespace SchemaClasses

namespace Java

/-- The texts of a member introduce a name: that of a constant, that of the parameter of a setter,
or that of a private field and of the parameter of its setter. -/
inductive Introduces (name : String) : List String → Prop where
  | constant (ending : String) (ending_mem : ending ∈ ["", ","]) : Introduces name [name ++ ending]
  | parameter (type accessor : String) : Introduces name
      [type ++ " get" ++ accessor ++ "();",
        "void set" ++ accessor ++ "(" ++ type ++ " " ++ name ++ ");"]
  | field (mark : List String) (type accessor : String)
      (mark_eq : ∀ text ∈ mark, ∃ word, text = "@JsonProperty(\"" ++ word ++ "\")") :
      Introduces name (mark ++
        ["private " ++ type ++ " " ++ name ++ ";",
          "public " ++ type ++ " get" ++ accessor ++ "() \x7b return " ++ name ++ "; \x7d",
          "public void set" ++ accessor ++ "(" ++ type ++ " " ++ name ++ ") \x7b this." ++ name ++
            " = " ++ name ++ "; \x7d"])

/-- The names in a file: those of its holder class, of the types, and of their fields, parameters
and constants. -/
def introduced (holder : String) (types : List FullType) : List String :=
  holder :: types.flatMap fun t => t.name :: t.memberNames.map identifier

theorem identifier_not_reserved (name : String) : identifier name ∉ reserved := by
  unfold identifier
  split
  · rename_i hreserved
    exact underscored_not_reserved name hreserved
  · assumption

theorem holder_not_reserved {stem holder : String} (h : holder? stem = some holder) :
    holder ∉ reserved := by
  unfold holder? at h
  split at h
  · cases h
  · split at h
    · rename_i hvalid
      cases h
      simp only [Bool.and_eq_true, decide_eq_true_eq] at hvalid
      exact hvalid.2
    · cases h

/-- Of the names in a file only those of the types can be reserved words. -/
theorem mem_introduced_iff {word holder : String} (hword : word ∈ reserved)
    (hholder : holder ∉ reserved) (types : List FullType) :
    word ∈ introduced holder types ↔ ∃ t ∈ types, t.name = word := by
  have hmember (t : FullType) : word ∉ t.memberNames.map identifier := by
    intro hmem
    obtain ⟨name, _, rfl⟩ := List.mem_map.mp hmem
    exact identifier_not_reserved name hword
  rw [introduced, List.mem_cons, List.mem_flatMap]
  constructor
  · rintro (rfl | ⟨t, ht, hmem⟩)
    · exact absurd hword hholder
    · rcases List.mem_cons.mp hmem with rfl | hmem
      · exact ⟨t, ht, rfl⟩
      · exact absurd hmem (hmember t)
  · rintro ⟨t, ht, rfl⟩
    exact Or.inr ⟨t, ht, List.mem_cons_self⟩

theorem introduces_memberTexts (kind : TypeKind) (name type : String) :
    Introduces (identifier name) (Language.java.memberTexts kind name type) := by
  have hmark : ∀ text ∈ if name ∈ reserved then ["@JsonProperty(\"" ++ name ++ "\")"] else [],
      ∃ word, text = "@JsonProperty(\"" ++ word ++ "\")" := by
    intro text htext
    split at htext
    · exact ⟨name, List.mem_singleton.mp htext⟩
    · cases htext
  cases kind with
  | interface => exact .parameter type (Text.pascalCase name)
  | _ => exact .field _ type (Text.pascalCase name) hmark

end Java

/-- The lines of a member behind a comment, with the name that they introduce. -/
def Options.Introduces (options : Options) (name : String) (block : List Line) : Prop :=
  ∃ comment texts, block = options.dialect.commentLines 2 comment ++ texts.map (⟨2, ·⟩) ∧
    Java.Introduces name texts

theorem introduces_of_declares {options : Options} (hlanguage : options.language = .java)
    {kind : TypeKind} {name : String} {block : List Line} (h : options.Declares kind name block) :
    options.Introduces (Java.identifier name) block := by
  obtain ⟨comment, texts, hblock, htexts⟩ := h
  refine ⟨comment, texts, hblock, ?_⟩
  rw [hlanguage] at htexts
  split at htexts
  · obtain ⟨ending, hending, rfl⟩ := htexts
    exact .constant ending hending
  · obtain ⟨type, rfl⟩ := htexts
    exact Java.introduces_memberTexts kind name type

/-- A file in Java with an accepted holder class has a reserved word for a name only where a type is
called by it. Its fields, parameters and constants are never called by one. -/
theorem reserved_mem_introduced_iff {schema : Schema} {options : Options} {generated : Generated}
    {stem : String} (h : generate schema options = .ok generated)
    (hlanguage : options.language = .java) (hholder : Java.holder? stem = some options.holder) :
    ∃ definitions,
      (defineAll options.toRules schema.types).run .empty = .ok (definitions, generated.report) ∧
      generated.code = renderLines options.indent (Dialect.java.fileLines options definitions) ∧
      "public final class " ++ options.holder ∈ Java.header options ∧
      List.Forall₂ (fun t d => d.name = t.name ∧ d.body.role = t.kind.role ∧
          List.Forall₂ options.Introduces (t.memberNames.map Java.identifier)
            (Dialect.java.bodyBlocks d.body))
        schema.defined definitions ∧
      ∀ word ∈ Java.reserved, word ∈ Java.introduced options.holder schema.defined ↔
        ∃ t ∈ schema.defined, t.name = word := by
  obtain ⟨hrun, hcode, _⟩ := definitions_of_generate h
  have hdialect : options.dialect = .java := by
    rw [Options.dialect, hlanguage]
    rfl
  rw [hdialect] at hcode
  refine ⟨_, hrun, hcode, by simp [Java.header], ?_, fun word hword =>
    Java.mem_introduced_iff hword (Java.holder_not_reserved hholder) schema.defined⟩
  refine (defines_of_generate h).imp ?_
  intro t d hd
  refine ⟨hd.name_eq, hd.role_eq, ?_⟩
  have hdeclares := hd.declares
  rw [hdialect] at hdeclares
  rw [List.forall₂_map_left_iff]
  exact hdeclares.imp fun _ _ => introduces_of_declares hlanguage

namespace Keywords

/-- A class that is called by a reserved word, with a field that is called by another. -/
def record : FullType :=
  { FullType.plain .object "class" with
    fields := some [.plain "default" (.scalar "String")] }

def order : FullType :=
  { FullType.plain .enumeration "Order" with enumValues := some [.plain "new", .plain "page"] }

def schema : Schema := ⟨none, none, none, [record, order], []⟩

def options : Options := .ofLanguage "Content" .java 0

theorem generate_schema :
    generate schema options = .ok (options.generatedOf schema.types) :=
  (generate_eq_ok_iff schema options _).mpr ⟨by decide, rfl⟩

theorem reserved_mem_introduced_iff_in_schema :
    generate schema options = .ok (options.generatedOf schema.types) ∧
    options.language = .java ∧ Java.holder? "Model" = some options.holder ∧
    ∀ word ∈ Java.reserved, word ∈ Java.introduced options.holder schema.defined ↔
      ∃ t ∈ schema.defined, t.name = word := by
  have hholder : Java.holder? "Model" = some options.holder := by decide
  obtain ⟨_, _, _, _, _, hreserved⟩ := reserved_mem_introduced_iff generate_schema rfl hholder
  exact ⟨generate_schema, rfl, hholder, hreserved⟩

/-- A class keeps the reserved word that it is called by, beside a field that does not. -/
theorem reserved_name_declared :
    (∀ t ∈ schema.types, Text.isName t.name ∧ ∀ name ∈ t.memberNames, Text.isName name) ∧
    Java.holder? "Model" = some options.holder ∧
    "class" ∈ Java.reserved ∧
    Java.declaration .dataClass "class" [] = "public static class class" ∧
    ∃ generated, generate schema options = .ok generated ∧
      options.Prints generated.code .dataClass "class" []
        [[⟨2, "@JsonProperty(\"default\")"⟩,
          ⟨2, "private String default_;"⟩,
          ⟨2, "public String getDefault() \x7b return default_; \x7d"⟩,
          ⟨2, "public void setDefault(String default_) \x7b this.default_ = default_; \x7d"⟩]] := by
  let body : Body := .dataClass [] [⟨"default", none, ⟨0, .scalar, "String", false⟩, false⟩]
  have hdefinition : record.definition? options.toRules = some (record.withBody body) := rfl
  have hmem : record ∈ schema.types := List.mem_cons_self
  have hprints := prints_of_mem hmem hdefinition
  refine ⟨by decide, by decide, by decide, by decide, _, generate_schema, ?_⟩
  refine (congrArg (options.Prints _ .dataClass "class" []) ?_).mp hprints
  decide +kernel

end Keywords

end SchemaClasses
