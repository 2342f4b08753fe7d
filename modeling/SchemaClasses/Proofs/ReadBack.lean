import SchemaClasses.Proofs.Accounting
import SchemaClasses.Proofs.LineFinding
import SchemaClasses.Proofs.TypeText

/-! A file read back. Every definition is found in the file by the line that declares it, and every
member by its lines, once and in the order of the schema. -/

namespace SchemaClasses

namespace Language

/-- The word that declares a type of a kind. -/
def keyword (language : Language) (kind : TypeKind) : String :=
  match kind, language with
  | .interface, _ => "interface"
  | .enumeration, _ => "enum"
  | _, .csharp => "class"
  | _, .java => "static class"

/-- What stands between a class and the interfaces that it implements. -/
def implementsSign : Language → String
  | csharp => " : "
  | java => " implements "

/-- The lines of a member, by the kind of the type that declares it. -/
def memberTexts (language : Language) (kind : TypeKind) (name type : String) : List String :=
  let capital := Text.pascalCase name
  let field := if name ∈ Java.reserved then name ++ "_" else name
  match language, kind with
  | csharp, .interface => [type ++ " " ++ capital ++ " \x7b get; set; \x7d"]
  | csharp, _ => ["public " ++ type ++ " " ++ capital ++ " \x7b get; set; \x7d"]
  | java, .interface =>
    [type ++ " get" ++ capital ++ "();",
      "void set" ++ capital ++ "(" ++ type ++ " " ++ field ++ ");"]
  | java, _ =>
    (if name ∈ Java.reserved then ["@JsonProperty(\"" ++ name ++ "\")"] else []) ++
      ["private " ++ type ++ " " ++ field ++ ";",
        "public " ++ type ++ " get" ++ capital ++ "() \x7b return " ++ field ++ "; \x7d",
        "public void set" ++ capital ++ "(" ++ type ++ " " ++ field ++ ") \x7b this." ++ field ++
          " = " ++ field ++ "; \x7d"]

/-- The text of a value of an enumeration. -/
def constantText (language : Language) (name : String) : String :=
  match language with
  | csharp => Text.pascalCase name
  | java => if name ∈ Java.reserved then name ++ "_" else name

end Language

namespace FullType

/-- The line that declares the type, with the interfaces of a class. -/
def declarationLine (language : Language) (t : FullType) : String :=
  let interfaces := if t.kind = .object then t.implemented.filterMap TypeRef.name else []
  "\tpublic " ++ language.keyword t.kind ++ " " ++ t.name ++
    if interfaces = [] then "" else language.implementsSign ++ ", ".intercalate interfaces

/-- The texts of the lines of all members of a type, in the order of their declaration. -/
def allMemberTexts (options : Options) (t : FullType) : Except ShapeError (List String) :=
  if t.kind = .enumeration then
    .ok (withCommas ((t.enumValues.getD []).map fun v => options.language.constantText v.name))
  else
    (t.declared.mapM fun d =>
      ((options.remap.apply d.name d.type).text options.language t.alwaysBoxes).map
        (options.language.memberTexts t.kind d.name)).map List.flatten

/-- The line that declares a type, and the lines of its members. -/
def printed (options : Options) (t : FullType) : Except ShapeError (String × List String) :=
  (t.allMemberTexts options).map fun texts =>
    (t.declarationLine options.language, texts.map ("\t\t" ++ ·))

end FullType

section Members

theorem constantText_eq (language : Language) :
    language.constantText = language.dialect.constant := by
  cases language <;> rfl

theorem append_underscore_ne (name : String) : name ++ "_" ≠ name := by
  intro heq
  have hlength := congrArg String.length heq
  rw [String.length_append] at hlength
  exact absurd hlength (by simp)

theorem java_propertyMark_eq (name : String) :
    Java.propertyMark name =
      if name ∈ Java.reserved then ["@JsonProperty(\"" ++ name ++ "\")"] else [] := by
  unfold Java.propertyMark Java.identifier
  by_cases hreserved : name ∈ Java.reserved
  · rw [if_pos hreserved, if_neg (append_underscore_ne name), if_pos hreserved]
  · rw [if_neg hreserved, if_pos rfl, if_neg hreserved]

theorem memberTexts_interface (language : Language) (name type : String) :
    language.memberTexts .interface name type = language.dialect.signature name type := by
  cases language with
  | csharp => rfl
  | java =>
      have hgetter : "();" = "()" ++ ";" := rfl
      have hsetter : ");" = ")" ++ ";" := rfl
      show Language.java.memberTexts .interface name type = Java.signature name type
      unfold Language.memberTexts Java.signature Java.getterHead Java.setterHead Java.identifier
      simp only [hgetter, hsetter, String.append_assoc]

theorem memberTexts_class (language : Language) {kind : TypeKind} (hkind : kind ≠ .interface)
    (name type : String) :
    language.memberTexts kind name type = language.dialect.storage name type := by
  cases language with
  | csharp =>
      have htexts : Language.csharp.memberTexts kind name type =
          ["public " ++ type ++ " " ++ Text.pascalCase name ++ " \x7b get; set; \x7d"] := by
        cases kind <;> first | rfl | exact absurd rfl hkind
      rw [htexts]
      show _ = ["public " ++ CSharp.property name type]
      simp only [CSharp.property, String.append_assoc]
  | java =>
      have hsetter : "public void set" = "public " ++ "void set" := rfl
      have hgetter : "() \x7b return " = "()" ++ " \x7b return " := rfl
      have hbody : ") \x7b this." = ")" ++ " \x7b this." := rfl
      show _ = Java.storage name type
      unfold Java.storage Java.getterHead Java.setterHead
      rw [java_propertyMark_eq]
      unfold Language.memberTexts Java.identifier
      cases kind with
      | interface => exact absurd rfl hkind
      | _ => simp only [hsetter, hgetter, hbody, String.append_assoc]

end Members

section Printed

variable {options : Options} {t : FullType}

theorem tab_declaration (language : Language) (kind : TypeKind) (name : String)
    (interfaces : List String) :
    "\t" ++ language.dialect.declaration kind.role name interfaces =
      "\tpublic " ++ language.keyword kind ++ " " ++ name ++
        if interfaces = [] then "" else language.implementsSign ++ ", ".intercalate interfaces := by
  cases language with
  | csharp =>
      have hkeyword : Language.csharp.keyword kind = CSharp.keyword kind.role := by cases kind <;> rfl
      show "\t" ++ CSharp.declaration kind.role name interfaces = _
      rw [hkeyword]
      cases interfaces <;>
        simp [CSharp.declaration, Language.implementsSign, ← String.append_assoc]
  | java =>
      have hkeyword : Language.java.keyword kind = Java.keyword kind.role := by cases kind <;> rfl
      show "\t" ++ Java.declaration kind.role name interfaces = _
      rw [hkeyword]
      cases interfaces <;> simp [Java.declaration, Language.implementsSign, ← String.append_assoc]

theorem declarationLine_of_becomes {body : Body} (h : t.Becomes options.toRules body) :
    t.declarationLine options.language =
      "\t" ++ options.dialect.declaration body.role t.name body.interfaces := by
  have hinterfaces : body.interfaces =
      if t.kind = .object then t.implemented.filterMap TypeRef.name else [] := by
    cases h with
    | object hkind hinterfaces _ => rw [if_pos hkind, hinterfaces]; rfl
    | inputObject hkind _ | interface hkind _ | enumeration hkind _ => rw [hkind]; rfl
  rw [h.role_eq, hinterfaces]
  exact (tab_declaration options.language t.kind t.name _).symm

/-- The texts of all members are those that the members are written with. -/
theorem allMemberTexts_of_membersOf {members : List Member} (hkind : t.kind ≠ .enumeration)
    (h : t.membersOf options.toRules = .ok members) :
    t.allMemberTexts options = .ok (members.flatMap fun m =>
      options.language.memberTexts t.kind m.name (options.dialect.typeText m.type m.alwaysBoxed)) := by
  have htexts : t.declared.mapM (fun d =>
      ((options.remap.apply d.name d.type).text options.language t.alwaysBoxes).map
        (options.language.memberTexts t.kind d.name)) = .ok (members.map fun m =>
          options.language.memberTexts t.kind m.name
            (options.dialect.typeText m.type m.alwaysBoxed)) := by
    apply mapM_of_forall₂
    rw [List.forall₂_map_right_iff]
    refine (forall₂_of_mapM h).imp ?_
    intro d m hmember
    obtain ⟨shape, hshape, rfl⟩ := FullType.memberOf_eq_ok hmember
    rw [TypeRef.text, show TypeShape.ofRef (options.remap.apply d.name d.type) = .ok shape from hshape]
    rfl
  rw [FullType.allMemberTexts, if_neg hkind, htexts, List.flatMap_def]
  rfl

theorem allMemberTexts_of_becomes {body : Body} (h : t.Becomes options.toRules body) :
    t.allMemberTexts options = .ok (options.dialect.bodyTexts body) := by
  cases h with
  | object hkind _ hmembers | inputObject hkind hmembers =>
      rw [allMemberTexts_of_membersOf (by rw [hkind]; decide) hmembers]
      simp only [memberTexts_class options.language (show t.kind ≠ .interface by rw [hkind]; decide)]
      rfl
  | interface hkind hmembers =>
      rw [allMemberTexts_of_membersOf (by rw [hkind]; decide) hmembers, hkind]
      simp only [memberTexts_interface]
      rfl
  | enumeration hkind hvalues =>
      rw [FullType.allMemberTexts, if_pos hkind, hvalues, constantText_eq]
      simp [Dialect.bodyTexts, FullType.constants, Function.comp_def, Options.dialect]

theorem printed_of_becomes {body : Body} (h : t.Becomes options.toRules body) :
    t.printed options =
      .ok ("\t" ++ options.dialect.declaration body.role t.name body.interfaces,
        (options.dialect.bodyTexts body).map ("\t\t" ++ ·)) := by
  rw [FullType.printed, allMemberTexts_of_becomes h, declarationLine_of_becomes h]
  rfl

end Printed

/-- Every definition and every member is read back from the file, once and in order: the lines that
declare something are those of the types that are neither ignored nor skipped, and the lines of
members behind each of them are those of all members of the type. -/
theorem readBack_eq_printed {schema : Schema} {options : Options} {generated : Generated}
    (h : generate schema options = .ok generated) (hindent : options.indent = .tabs)
    (hnames : ∀ name ∈ namesOf schema options,
      '\n' ∉ name.toList ∧ '/' ∉ name.toList ∧ '*' ∉ name.toList) :
    (schema.types.filter fun t => ¬ t.Idle ∧ ¬ t.Skipped).mapM (FullType.printed options) =
      .ok (readBack options.language (linesOf generated.code)) := by
  obtain rfl := eq_generatedOf_of_generate h
  have hlacks : ∀ c ∈ foreign, ∀ name ∈ namesOf schema options, Lacks c name := by
    intro c hc name hname
    obtain ⟨hnewline, hslash, hstar⟩ := hnames name hname
    simp only [foreign, List.mem_cons, List.not_mem_nil, or_false] at hc
    rcases hc with rfl | rfl | rfl
    · exact hnewline
    · exact hslash
    · exact hstar
  have hdefinitions : ∀ c ∈ foreign, ∀ d ∈ options.definitions schema.types,
      ∀ name ∈ d.names, Lacks c name :=
    fun c hc d hd => lacks_names_of_mem_definitions (hlacks c hc) hd
  have hfound : (linesOf (options.generatedOf schema.types).code).filter options.language.reads =
      (options.definitions schema.types).flatMap fun d =>
        ("\t" ++ options.dialect.declaration d.body.role d.name d.body.interfaces) ::
          (options.dialect.bodyTexts d.body).map ("\t\t" ++ ·) := by
    rw [options.code_generatedOf, hindent]
    exact ((lineFinder options.language).read_file
      fun c hc => hlacks c (mem_foreign_of_mem_marks hc)).trans
        (found_fileLines options hdefinitions)
  have hread : readBack options.language (linesOf (options.generatedOf schema.types).code) =
      (options.definitions schema.types).map fun d =>
        ("\t" ++ options.dialect.declaration d.body.role d.name d.body.interfaces,
          (options.dialect.bodyTexts d.body).map ("\t\t" ++ ·)) := by
    rw [← readBack_filter_reads, hfound]
    apply readBack_flatMap
    · exact fun d _ => isDeclarationLine_declaration d.body.role d.name d.body.interfaces
    · intro d hd
      apply isMemberLine_of_mem
      intro c hc
      exact lacks_bodyTexts options.language hc fun name hname =>
        hdefinitions c hc d hd name (List.mem_cons_of_mem _ hname)
  rw [hread]
  apply mapM_of_forall₂
  rw [List.forall₂_map_right_iff]
  refine (forall₂_definitions_of_generate h).imp ?_
  intro t d hd
  obtain ⟨_, body, hbody, rfl⟩ := FullType.becomes_of_definition? hd
  exact printed_of_becomes hbody

namespace Shapes

/-- A description with lines in it that look like a declaration and like a member. -/
def text : String :=
  "\tpublic class Fake\n\t\tpublic int fake;\n*/ ///"

def item : FullType :=
  { FullType.plain .interface "Item" with
    fields := some [{ Field.plain "title" (.scalar "String") with description := some text }]
    possibleTypes := some [.object "Page"] }

def page : FullType :=
  { FullType.plain .object "Page" with
    description := some text
    fields := some [.plain "title" (.nonNullOf (.scalar "String")),
      .plain "default" (.listOf (.object "Page"))]
    interfaces := some [.named .interface "Item"] }

def filter : FullType :=
  { FullType.plain .inputObject "Filter" with
    inputFields := some [{ InputValue.plain "limit" (.nonNullOf (.scalar "Int")) with
      description := some text }] }

def order : FullType :=
  { FullType.plain .enumeration "Order" with
    enumValues := some [{ EnumValue.plain "up" with description := some text }, .plain "down"] }

def schema : Schema :=
  ⟨none, none, none, [item, .plain .scalar "Date", page, .plain .union "Any", filter, order], []⟩

def options : Options :=
  { Options.ofLanguage "com.content" .java 0 with skipUnsupported := true }

theorem readBack_eq_printed_in_schema :
    let generated := options.generatedOf schema.types
    generate schema options = .ok generated ∧
    (∀ name ∈ namesOf schema options,
      '\n' ∉ name.toList ∧ '/' ∉ name.toList ∧ '*' ∉ name.toList) ∧
    (schema.types.filter fun t => ¬ t.Idle ∧ ¬ t.Skipped).mapM (FullType.printed options) =
      .ok (readBack .java (linesOf generated.code)) ∧
    (schema.types.filter fun t => ¬ t.Idle ∧ ¬ t.Skipped).mapM (FullType.printed options) =
      .ok [
        ("\tpublic interface Item",
          ["\t\tString getTitle();", "\t\tvoid setTitle(String title);"]),
        ("\tpublic static class Page implements Item",
          ["\t\tprivate String title;",
            "\t\tpublic String getTitle() \x7b return title; \x7d",
            "\t\tpublic void setTitle(String title) \x7b this.title = title; \x7d",
            "\t\t@JsonProperty(\"default\")",
            "\t\tprivate List<Page> default_;",
            "\t\tpublic List<Page> getDefault() \x7b return default_; \x7d",
            "\t\tpublic void setDefault(List<Page> default_) \x7b this.default_ = default_; \x7d"]),
        ("\tpublic static class Filter",
          ["\t\tprivate int limit;",
            "\t\tpublic int getLimit() \x7b return limit; \x7d",
            "\t\tpublic void setLimit(int limit) \x7b this.limit = limit; \x7d"]),
        ("\tpublic enum Order", ["\t\tup,", "\t\tdown"])] := by
  intro generated
  have hgenerated : generate schema options = .ok generated :=
    (generate_eq_ok_iff schema options generated).mpr ⟨by decide, rfl⟩
  have hnames : ∀ name ∈ namesOf schema options,
      '\n' ∉ name.toList ∧ '/' ∉ name.toList ∧ '*' ∉ name.toList := by decide
  exact ⟨hgenerated, hnames, readBack_eq_printed hgenerated rfl hnames, rfl⟩

end Shapes

end SchemaClasses
