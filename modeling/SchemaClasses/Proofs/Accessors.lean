import SchemaClasses.Proofs.Faults
import SchemaClasses.Proofs.TypeText

/-! The accessors of members. A class has, for every field of an interface that it implements, a
member with the accessors that the interface asks for, even where the class excludes null. -/

namespace SchemaClasses

/-- The lines of a member in a class hold what its lines in an interface ask for: in C# a property,
in Java a getter and a setter, of the same names and of one type. -/
def Implements (language : Language) (type : String) (asked held : List String) : Prop :=
  match language with
  | .csharp => ∃ property,
    asked = [type ++ " " ++ property ++ " \x7b get; set; \x7d"] ∧
    held = ["public " ++ (type ++ " " ++ property ++ " \x7b get; set; \x7d")]
  | .java => ∃ getter setter parameter mark field,
    let getterHead := type ++ " " ++ getter ++ "()"
    let setterHead := "void " ++ setter ++ "(" ++ type ++ " " ++ parameter ++ ")"
    asked = [getterHead ++ ";", setterHead ++ ";"] ∧
    held = mark ++ ["private " ++ type ++ " " ++ field ++ ";",
      "public " ++ getterHead ++ " \x7b return " ++ field ++ "; \x7d",
      "public " ++ setterHead ++ " \x7b this." ++ field ++ " = " ++ parameter ++ "; \x7d"]

theorem java_getterHead_eq (name type : String) :
    Java.getterHead name type = type ++ " " ++ ("get" ++ Text.pascalCase name) ++ "()" := by
  unfold Java.getterHead
  rw [show " get" = " " ++ "get" from rfl]
  simp only [String.append_assoc]

theorem java_setterHead_eq (name type : String) :
    Java.setterHead name type = "void " ++ ("set" ++ Text.pascalCase name) ++ "(" ++ type ++ " " ++
      Java.identifier name ++ ")" := by
  unfold Java.setterHead
  rw [show "void set" = "void " ++ "set" from rfl]
  simp only [String.append_assoc]

theorem implements_of_name_of_type (language : Language) (name type : String) :
    Implements language type (language.dialect.signature name type)
      (language.dialect.storage name type) := by
  cases language with
  | csharp => exact ⟨Text.pascalCase name, rfl, rfl⟩
  | java =>
      refine ⟨"get" ++ Text.pascalCase name, "set" ++ Text.pascalCase name, Java.identifier name,
        Java.propertyMark name, Java.identifier name, ?_⟩
      rw [← java_getterHead_eq, ← java_setterHead_eq]
      exact ⟨rfl, rfl⟩

theorem nullable_eq_of_withoutNonNull {t t' : TypeRef} {s s' : TypeShape}
    (h : TypeShape.ofRef t = .ok s) (h' : TypeShape.ofRef t' = .ok s')
    (heq : t.withoutNonNull = t'.withoutNonNull) : s.nullable = s'.nullable := by
  have hnullable := TypeShape.ofRef_withoutNonNull h
  rw [heq, TypeShape.ofRef_withoutNonNull h'] at hnullable
  exact (Except.ok.inj hnullable).symm

/-- A rule gives both fields one type; without a rule they differ in the excluded null only. -/
theorem Rules.nullable_eq {rules : Rules} {name : String} {declared declared' : TypeRef}
    {s s' : TypeShape} (h : rules.shape name declared = .ok s)
    (h' : rules.shape name declared' = .ok s')
    (heq : declared.withoutNonNull = declared'.withoutNonNull) : s.nullable = s'.nullable := by
  unfold Rules.shape RemapTable.apply at h h'
  cases hrule : rules.remap.get? name with
  | none =>
      rw [hrule] at h h'
      exact nullable_eq_of_withoutNonNull h h' heq
  | some type =>
      rw [hrule] at h h'
      exact nullable_eq_of_withoutNonNull h h' rfl

theorem prints_interface {schema : Schema} {options : Options} {generated : Generated}
    (h : generate schema options = .ok generated) {t : FullType} (ht : t ∈ schema.types)
    (hkind : t.kind = .interface) (hnamed : t.isIntrospection = false) : ∃ members,
      t.membersOf options.toRules = .ok members ∧
      options.Prints generated.code .interface t.name []
        (members.map (options.dialect.memberLines options.dialect.signature)) := by
  obtain ⟨body, hbody, hdefinition⟩ := body_of_generate h ht hnamed
  obtain ⟨members, rfl, hmembers⟩ := FullType.bodyOf_interface hkind hbody
  have hprints := prints_of_mem ht hdefinition
  rw [eq_generatedOf_of_generate h]
  exact ⟨members, hmembers, hprints⟩

theorem prints_object {schema : Schema} {options : Options} {generated : Generated}
    (h : generate schema options = .ok generated) {t : FullType} (ht : t ∈ schema.types)
    (hkind : t.kind = .object) (hnamed : t.isIntrospection = false) : ∃ interfaces members,
      t.interfaceNames 0 t.implemented = .ok interfaces ∧
      t.membersOf options.toRules = .ok members ∧
      options.Prints generated.code .dataClass t.name interfaces
        (members.map (options.dialect.memberLines options.dialect.storage)) := by
  obtain ⟨body, hbody, hdefinition⟩ := body_of_generate h ht hnamed
  obtain ⟨interfaces, members, rfl, hinterfaces, hmembers⟩ := FullType.bodyOf_object hkind hbody
  have hprints := prints_of_mem ht hdefinition
  rw [eq_generatedOf_of_generate h]
  exact ⟨interfaces, members, hinterfaces, hmembers, hprints⟩

theorem text_eq_typeText {options : Options} {name : String} {declared : TypeRef} {s : TypeShape}
    (h : options.shape name declared = .ok s) :
    (options.remap.apply name declared).text options.language true =
      .ok (options.dialect.typeText s true) := by
  unfold TypeRef.text
  rw [show TypeShape.ofRef (options.remap.apply name declared) = .ok s from h]
  rfl

/-- The lines of the member that a field becomes, in a type whose members are held as objects. -/
theorem memberLines_at {options : Options} {t : FullType} {members : List Member}
    (h : t.membersOf options.toRules = .ok members) (hboxed : t.alwaysBoxes = true) {i : Nat}
    {f : Field} (hf : t.declared[i]? = some (Declared.ofField f))
    (write : String → String → List String) : ∃ shape, options.shape f.name f.type = .ok shape ∧
      (members.map (options.dialect.memberLines write))[i]? =
        some (options.dialect.commentLines 2 (commentOf f.description) ++
          (write f.name (options.dialect.typeText shape true)).map (⟨2, ·⟩)) := by
  obtain ⟨shape, hshape, hmember⟩ := FullType.member_at h hf
  refine ⟨shape, hshape, ?_⟩
  rw [List.getElem?_map, hmember, hboxed]
  rfl

/-- A class that lists an interface with implementors holds the accessors that the interface asks
for, for all fields of one name whose declared types differ in the excluded null only. -/
theorem interface_members_implemented {schema : Schema} {options : Options}
    {generated : Generated} (hgenerated : generate schema options = .ok generated)
    {object interface : FullType} (hobject : object ∈ schema.types)
    (hinterface : interface ∈ schema.types) (hobjectKind : object.kind = .object)
    (hinterfaceKind : interface.kind = .interface) (hobjectNamed : object.isIntrospection = false)
    (hinterfaceNamed : interface.isIntrospection = false)
    (himplementors : interface.hasImplementors)
    (hlisted : ∃ ref ∈ object.implemented, ref.name = some interface.name)
    {askedFields heldFields : List Field} (haskedFields : interface.fields = some askedFields)
    (hheldFields : object.fields = some heldFields) {i j : Nat} {asked held : Field}
    (hasked : askedFields[i]? = some asked) (hheld : heldFields[j]? = some held)
    (hname : asked.name = held.name)
    (htype : asked.type.withoutNonNull = held.type.withoutNonNull) :
    ∃ interfaces askedBlocks heldBlocks type askedLines heldLines,
      options.Prints generated.code .interface interface.name [] askedBlocks ∧
      options.Prints generated.code .dataClass object.name interfaces heldBlocks ∧
      interface.name ∈ interfaces ∧
      askedBlocks[i]? = some (options.dialect.commentLines 2 (commentOf asked.description) ++
        askedLines.map (⟨2, ·⟩)) ∧
      heldBlocks[j]? = some (options.dialect.commentLines 2 (commentOf held.description) ++
        heldLines.map (⟨2, ·⟩)) ∧
      (options.remap.apply asked.name asked.type).text options.language true = .ok type ∧
      (options.remap.apply held.name held.type).text options.language true = .ok type ∧
      Implements options.language type askedLines heldLines := by
  obtain ⟨ref, href, hrefName⟩ := hlisted
  obtain ⟨askedMembers, haskedMembers, haskedPrints⟩ :=
    prints_interface hgenerated hinterface hinterfaceKind hinterfaceNamed
  obtain ⟨interfaces, heldMembers, hinterfaces, hheldMembers, hheldPrints⟩ :=
    prints_object hgenerated hobject hobjectKind hobjectNamed
  have haskedBoxed : interface.alwaysBoxes = true := by
    simp [FullType.alwaysBoxes, hinterfaceKind]
  have hheldBoxed : object.alwaysBoxes = true := by
    simp [FullType.alwaysBoxes, List.ne_nil_of_mem href]
  have haskedDeclared : interface.declared[i]? = some (Declared.ofField asked) := by
    simp [FullType.declared, hinterfaceKind, himplementors, haskedFields, hasked]
  have hheldDeclared : object.declared[j]? = some (Declared.ofField held) := by
    simp [FullType.declared, hobjectKind, hheldFields, hheld]
  obtain ⟨askedShape, haskedShape, haskedLines⟩ :=
    memberLines_at haskedMembers haskedBoxed haskedDeclared options.dialect.signature
  obtain ⟨heldShape, hheldShape, hheldLines⟩ :=
    memberLines_at hheldMembers hheldBoxed hheldDeclared options.dialect.storage
  have htext : options.dialect.typeText askedShape true =
      options.dialect.typeText heldShape true := by
    have hnullable := Rules.nullable_eq haskedShape (hname ▸ hheldShape) htype
    rw [← options.dialect.typeText_nullable_of_boxed askedShape, hnullable,
      options.dialect.typeText_nullable_of_boxed]
  rw [htext] at haskedLines
  refine ⟨interfaces, _, _, options.dialect.typeText heldShape true, _, _, haskedPrints,
    hheldPrints, FullType.mem_of_interfaceNames hinterfaces href hrefName, haskedLines, hheldLines,
    ?_, text_eq_typeText hheldShape, ?_⟩
  · rw [text_eq_typeText haskedShape, htext]
  · rw [hname]
    exact implements_of_name_of_type options.language held.name _

namespace Narrowing

def asked : Field := .plain "itemIds" (.listOf (.scalar "Int"))

def held : Field := .plain "itemIds" (.nonNullOf (.listOf (.nonNullOf (.scalar "Int"))))

def item : FullType :=
  { FullType.plain .interface "Item" with
    fields := some [asked], possibleTypes := some [.object "Page"] }

/-- A class that holds the one field of its interface without null. -/
def page : FullType :=
  { FullType.plain .object "Page" with
    fields := some [.plain "title" (.scalar "String"), held]
    interfaces := some [.named .interface "Item"] }

def schema : Schema := ⟨none, none, none, [item, page], []⟩

def options : Options := .ofLanguage "Content" .java 0

theorem interface_members_implemented_in_page :
    let generated := options.generatedOf schema.types
    generate schema options = .ok generated ∧
    ∃ interfaces askedBlocks heldBlocks type askedLines heldLines,
      options.Prints generated.code .interface item.name [] askedBlocks ∧
      options.Prints generated.code .dataClass page.name interfaces heldBlocks ∧
      item.name ∈ interfaces ∧
      askedBlocks[0]? = some (options.dialect.commentLines 2 (commentOf asked.description) ++
        askedLines.map (⟨2, ·⟩)) ∧
      heldBlocks[1]? = some (options.dialect.commentLines 2 (commentOf held.description) ++
        heldLines.map (⟨2, ·⟩)) ∧
      (options.remap.apply asked.name asked.type).text options.language true = .ok type ∧
      (options.remap.apply held.name held.type).text options.language true = .ok type ∧
      Implements options.language type askedLines heldLines := by
  intro generated
  have hgenerated : generate schema options = .ok generated :=
    (generate_eq_ok_iff schema options generated).mpr ⟨by decide, rfl⟩
  have hitem : item ∈ schema.types := List.mem_cons_self
  have hpage : page ∈ schema.types := List.mem_cons_of_mem item List.mem_cons_self
  have hlisted : ∃ ref ∈ page.implemented, ref.name = some item.name :=
    ⟨.named .interface "Item", List.mem_cons_self, rfl⟩
  have hasked : [asked][0]? = some asked := rfl
  have hheld : [.plain "title" (.scalar "String"), held][1]? = some held := rfl
  exact ⟨hgenerated, interface_members_implemented hgenerated hpage hitem rfl rfl rfl rfl rfl
    hlisted rfl rfl hasked hheld rfl rfl⟩

end Narrowing

end SchemaClasses
