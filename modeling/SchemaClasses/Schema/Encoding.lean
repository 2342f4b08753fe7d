import SchemaClasses.Schema.Basic
import SchemaClasses.Json.Basic

/-! The JSON value of a schema: every record an object with all its members, in their order, and
null for what is not there. -/

namespace SchemaClasses

namespace Encode

def text (s : String) : Json := .string s

def list (item : α → Json) (items : List α) : Json := .array (items.map item)

def nullable (value : α → Json) : Option α → Json
  | none => .null
  | some a => value a

end Encode

open Encode

def TypeKind.toJson (k : TypeKind) : Json := .string k.spelling

def TypeRef.toJson : TypeRef → Json
  | ⟨kind, name, none⟩ =>
    .object [("kind", kind.toJson), ("name", nullable text name), ("ofType", .null)]
  | ⟨kind, name, some inner⟩ =>
    .object [("kind", kind.toJson), ("name", nullable text name), ("ofType", inner.toJson)]

def InputValue.toJson (v : InputValue) : Json :=
  .object [("name", text v.name), ("description", nullable text v.description),
    ("type", v.type.toJson), ("defaultValue", nullable text v.defaultValue)]

def Field.toJson (f : Field) : Json :=
  .object [("name", text f.name), ("description", nullable text f.description),
    ("args", list InputValue.toJson f.args), ("type", f.type.toJson),
    ("isDeprecated", .bool f.isDeprecated),
    ("deprecationReason", nullable text f.deprecationReason)]

def EnumValue.toJson (v : EnumValue) : Json :=
  .object [("name", text v.name), ("description", nullable text v.description),
    ("isDeprecated", .bool v.isDeprecated),
    ("deprecationReason", nullable text v.deprecationReason)]

def FullType.toJson (t : FullType) : Json :=
  .object [("kind", t.kind.toJson), ("name", text t.name),
    ("description", nullable text t.description),
    ("fields", nullable (list Field.toJson) t.fields),
    ("inputFields", nullable (list InputValue.toJson) t.inputFields),
    ("interfaces", nullable (list TypeRef.toJson) t.interfaces),
    ("enumValues", nullable (list EnumValue.toJson) t.enumValues),
    ("possibleTypes", nullable (list TypeRef.toJson) t.possibleTypes)]

def Directive.toJson (d : Directive) : Json :=
  .object [("name", text d.name), ("description", nullable text d.description),
    ("locations", list text d.locations), ("args", list InputValue.toJson d.args)]

def RootTypeName.toJson (r : RootTypeName) : Json :=
  .object [("name", text r.name)]

def Schema.toJson (s : Schema) : Json :=
  .object [("queryType", nullable RootTypeName.toJson s.queryType),
    ("mutationType", nullable RootTypeName.toJson s.mutationType),
    ("subscriptionType", nullable RootTypeName.toJson s.subscriptionType),
    ("types", list FullType.toJson s.types),
    ("directives", list Directive.toJson s.directives)]

end SchemaClasses
