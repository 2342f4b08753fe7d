import SchemaClasses.Proofs.NameCollisions

/-! The names that the values of an enumeration are written under in JSON. C# writes a constant by
its identifier, and Java by the name that an annotation gives it or else by its identifier. No
annotation is ever given. -/

namespace SchemaClasses

/-- A constant as it stands in a file, with the name that an annotation gives it. -/
structure PrintedConstant where
  comment : Option String
  annotation : Option String
  identifier : String
deriving DecidableEq, Repr

namespace PrintedConstant

def lines (d : Dialect) (ending : String) (c : PrintedConstant) : List Line :=
  d.commentLines 2 c.comment ++
    c.annotation.toList.map (fun word => ⟨2, "@JsonProperty(\"" ++ word ++ "\")"⟩) ++
    [⟨2, c.identifier ++ ending⟩]

/-- The constants of an enumeration, with a comma behind every one but the last. -/
def blocks (d : Dialect) : List PrintedConstant → List (List Line)
  | [] => []
  | [c] => [c.lines d ""]
  | c :: rest => c.lines d "," :: blocks d rest

def wireName (language : Language) (c : PrintedConstant) : String :=
  match language with
  | .csharp => c.identifier
  | .java => c.annotation.getD c.identifier

end PrintedConstant

/-- The constant of a value. -/
def EnumValue.printed (language : Language) (v : EnumValue) : PrintedConstant :=
  ⟨commentOf v.description, none, language.constantText v.name⟩

theorem constantBlocks_eq_blocks (language : Language) (values : List EnumValue) :
    language.dialect.constantBlocks (FullType.constants values) =
      PrintedConstant.blocks language.dialect (values.map (EnumValue.printed language)) := by
  have hlines (v : EnumValue) (ending : String) :
      (v.printed language).lines language.dialect ending =
        language.dialect.commentLines 2 (commentOf v.description) ++
          [⟨2, language.dialect.constant v.name ++ ending⟩] := by
    rw [PrintedConstant.lines, EnumValue.printed, constantText_eq]
    simp
  induction values with
  | nil => rfl
  | cons v values ih =>
      cases values with
      | nil =>
          rw [List.map_singleton, PrintedConstant.blocks, hlines, String.append_empty]
          rfl
      | cons next values =>
          rw [List.map_cons, List.map_cons, PrintedConstant.blocks, hlines, ← List.map_cons, ← ih]
          · rfl
          · simp

namespace Text

def beginsSmall (s : String) : Bool :=
  s.toList.head?.any Char.isLower

/-- A name is in word case where it does not begin with a small letter. -/
theorem pascalCase_eq_self_iff {s : String} (h : isName s) :
    pascalCase s = s ↔ beginsSmall s = false := by
  rw [pascalCase_of_isName h, withCapital, beginsSmall, ← String.toList_inj, String.toList_ofList]
  cases s.toList with
  | nil => simp
  | cons c cs =>
      rw [List.modifyHead_cons, List.cons.injEq, toUpper_eq_self_iff]
      simp

end Text

section Enumerations

variable {schema : Schema} {options : Options} {generated : Generated} {t : FullType}

theorem definition?_enumeration (h : generate schema options = .ok generated)
    (ht : t ∈ schema.defined) (hkind : t.kind = .enumeration) :
    ∃ values, t.enumValues = some values ∧
      t.definition? options.toRules =
        some (t.withBody (.enumeration (FullType.constants values))) := by
  obtain ⟨hmem, hdefined⟩ := List.mem_filter.mp ht
  have hsome := (FullType.isSome_definition? (faults_of_generate h t hmem)).mpr
    (of_decide_eq_true hdefined)
  obtain ⟨d, hd⟩ := Option.isSome_iff_exists.mp hsome
  obtain ⟨_, body, hbody, rfl⟩ := FullType.becomes_of_definition? hd
  cases hbody with
  | object hother _ _ | inputObject hother _ | interface hother _ =>
      rw [hkind] at hother
      cases hother
  | enumeration _ hvalues => exact ⟨_, hvalues, hd⟩

/-- The lines of an enumeration behind its comment. -/
def Options.enumerationLines (options : Options) (name : String)
    (constants : List PrintedConstant) : List Line :=
  ⟨1, options.dialect.enumMark⟩ :: ⟨1, options.dialect.declaration .enumeration name []⟩ ::
    ⟨1, "\x7b"⟩ :: spaced (PrintedConstant.blocks options.dialect constants) ++ [⟨1, "\x7d"⟩]

theorem definitionText_enumeration (options : Options) (t : FullType) (values : List EnumValue) :
    options.definitionText (t.withBody (.enumeration (FullType.constants values))) =
      renderLines options.indent (options.dialect.commentLines 1 (commentOf t.description)) ++
        renderLines options.indent (options.enumerationLines t.name
          (values.map (EnumValue.printed options.language))) ++
        renderLines options.indent [Line.blank] := by
  have hblocks := constantBlocks_eq_blocks options.language values
  rw [← renderLines_append, ← renderLines_append, Options.enumerationLines, Options.dialect,
    ← hblocks]
  simp [Options.definitionText, Options.dialect, Dialect.definitionLines, FullType.withBody,
    Body.role, Body.interfaces, Dialect.bodyBlocks]

/-- The code has the enumeration, with a constant for each of its values. -/
theorem exists_enumerationLines (h : generate schema options = .ok generated)
    (ht : t ∈ schema.defined) (hkind : t.kind = .enumeration) :
    ∃ values before behind,
      t.enumValues = some values ∧
      generated.code = before ++ renderLines options.indent (options.enumerationLines t.name
        (values.map (EnumValue.printed options.language))) ++ behind := by
  obtain ⟨values, hvalues, hd⟩ := definition?_enumeration h ht hkind
  obtain rfl := eq_generatedOf_of_generate h
  obtain ⟨before, behind, hcode⟩ := exists_definitionText (List.mem_of_mem_filter ht) hd
  refine ⟨values,
    before ++ renderLines options.indent (options.dialect.commentLines 1 (commentOf t.description)),
    renderLines options.indent [Line.blank] ++ behind, hvalues, ?_⟩
  rw [hcode, definitionText_enumeration]
  simp only [String.append_assoc]

theorem wireName_printed_csharp (v : EnumValue) :
    (v.printed .csharp).wireName .csharp = Text.pascalCase v.name :=
  rfl

theorem wireName_printed_java {v : EnumValue} (h : v.name ∉ Java.reserved) :
    (v.printed .java).wireName .java = v.name :=
  if_neg h

/-- The values of an enumeration are written in C# under their names in word case, so that names of
GraphQL are kept where they do not begin with a small letter. In Java they are written under their
names where these are no reserved words. -/
theorem wireNames_of_generate (h : generate schema options = .ok generated)
    (ht : t ∈ schema.defined) (hkind : t.kind = .enumeration) :
    ∃ values constants before behind,
      t.enumValues = some values ∧
      generated.code = before ++
        renderLines options.indent (options.enumerationLines t.name constants) ++ behind ∧
      List.Forall₂ (fun (v : EnumValue) (c : PrintedConstant) =>
          (options.language = .csharp → c.wireName .csharp = Text.pascalCase v.name ∧
            (Text.isName v.name →
              (c.wireName .csharp = v.name ↔ Text.beginsSmall v.name = false))) ∧
          (options.language = .java → v.name ∉ Java.reserved → c.wireName .java = v.name))
        values constants := by
  obtain ⟨values, before, behind, hvalues, hcode⟩ := exists_enumerationLines h ht hkind
  refine ⟨values, _, before, behind, hvalues, hcode, ?_⟩
  rw [List.forall₂_map_right_iff, List.forall₂_same]
  intro v _
  refine ⟨fun hcsharp => ?_, fun hjava hreserved => ?_⟩
  · rw [hcsharp, wireName_printed_csharp]
    exact ⟨rfl, Text.pascalCase_eq_self_iff⟩
  · rw [hjava]
    exact wireName_printed_java hreserved

end Enumerations

namespace Cases

/-- An enumeration with names in small letters, in capitals, and with no letter in front. -/
def order : FullType :=
  { FullType.plain .enumeration "Order" with
    enumValues := some [.plain "page", .plain "PAGE", .plain "_page"] }

def schema : Schema := ⟨none, none, none, [order], []⟩

def options (language : Language) : Options := .ofLanguage "Content" language 0

theorem generate_schema (language : Language) :
    generate schema (options language) = .ok ((options language).generatedOf schema.types) := by
  cases language <;> exact (generate_eq_ok_iff schema _ _).mpr ⟨by decide, rfl⟩

theorem wireNames_of_order :
    generate schema (options .java) = .ok ((options .java).generatedOf schema.types) ∧
    order ∈ schema.defined ∧ order.kind = .enumeration ∧
    ∃ values constants before behind,
      order.enumValues = some values ∧
      ((options .java).generatedOf schema.types).code = before ++
        renderLines .tabs ((options .java).enumerationLines "Order" constants) ++ behind ∧
      List.Forall₂ (fun (v : EnumValue) (c : PrintedConstant) =>
          v.name ∉ Java.reserved → c.wireName .java = v.name)
        values constants := by
  have hdefined : order ∈ schema.defined := by decide
  obtain ⟨values, constants, before, behind, hvalues, hcode, hnames⟩ :=
    wireNames_of_generate (generate_schema .java) hdefined rfl
  exact ⟨generate_schema .java, hdefined, rfl, values, constants, before, behind, hvalues, hcode,
    hnames.imp fun _ _ hname => hname.2 rfl⟩

/-- The constants of the enumeration in C#. -/
def constants : List PrintedConstant :=
  [⟨none, none, "Page"⟩, ⟨none, none, "PAGE"⟩, ⟨none, none, "_page"⟩]

/-- In C# a value is written under another name than its own. -/
theorem wireName_of_page_changed :
    order ∈ schema.defined ∧ order.kind = .enumeration ∧
    ∃ generated before behind,
      generate schema (options .csharp) = .ok generated ∧
      generated.code = before ++
        renderLines .tabs ((options .csharp).enumerationLines "Order" constants) ++ behind ∧
      (order.enumValues.getD []).map EnumValue.name = ["page", "PAGE", "_page"] ∧
      constants.map (PrintedConstant.wireName .csharp) = ["Page", "PAGE", "_page"] := by
  have hdefined : order ∈ schema.defined := by decide
  obtain ⟨values, before, behind, hvalues, hcode⟩ :=
    exists_enumerationLines (generate_schema .csharp) hdefined rfl
  have hconstants : values.map (EnumValue.printed .csharp) = constants := by
    cases hvalues
    decide +kernel
  have hlanguage : (options .csharp).language = .csharp := rfl
  rw [hlanguage, hconstants] at hcode
  exact ⟨hdefined, rfl, _, before, behind, generate_schema .csharp, hcode, rfl, rfl⟩

end Cases

end SchemaClasses
