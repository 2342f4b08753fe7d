import SchemaClasses.Schema.Basic
import SchemaClasses.Schema.Record

/-! Decoding a schema from its JSON value. Members that no record has are ignored. -/

namespace SchemaClasses

open Decode

/-- A kind is a text, or an object whose only member has the kind for its name and null for its
value. -/
def TypeKind.ofJson : Json → Except DecodeError TypeKind
  | .string s => .ok (ofSpelling s)
  | .object [] => .error .notSingle
  | .object ((name, v) :: members) =>
    if members.all (·.1 = name) then
      match Json.lastMember? name ((name, v) :: members) with
      | some .null | none => .ok (ofSpelling name)
      | some w => fail w .unit
    else .error .notSingle
  | v => fail v .kind

def TypeRef.shape : RecordShape := ⟨"TypeRef", ["kind", "name", "ofType"]⟩

def TypeRef.ofJson (v : Json) : Except DecodeError TypeRef :=
  match _ : Record.ofJson TypeRef.shape v with
  | .error e => .error e
  | .ok r => do
    let kind := r.slot "kind" TypeKind.ofJson
    let name := r.slot "name" (nullable text)
    let ofType : Slot (Option TypeRef) :=
      match _ : r.value? "ofType" with
      | none => none
      | some .null => some (.ok none)
      | some w => some ((TypeRef.ofJson w).map some)
    r.check [("kind", kind.failure?), ("name", name.failure?), ("ofType", ofType.failure?)]
    let kind ← r.require "kind" kind
    let name ← name.getD none
    let ofType ← ofType.getD none
    r.finish
    return { kind, name, ofType }
termination_by sizeOf v
decreasing_by exact Record.sizeOf_of_value? (by assumption) (by assumption)

def InputValue.shape : RecordShape :=
  ⟨"InputValue", ["name", "description", "type", "defaultValue"]⟩

def InputValue.ofJson (v : Json) : Except DecodeError InputValue := do
  let r ← Record.ofJson InputValue.shape v
  let name := r.slot "name" text
  let description := r.slot "description" (nullable text)
  let type := r.slot "type" TypeRef.ofJson
  let defaultValue := r.slot "defaultValue" (nullable text)
  r.check [("name", name.failure?), ("description", description.failure?),
    ("type", type.failure?), ("defaultValue", defaultValue.failure?)]
  let name ← r.require "name" name
  let description ← description.getD none
  let type ← r.require "type" type
  let defaultValue ← defaultValue.getD none
  r.finish
  return { name, description, type, defaultValue }

def Field.shape : RecordShape :=
  ⟨"Field", ["name", "description", "args", "type", "isDeprecated", "deprecationReason"]⟩

def Field.ofJson (v : Json) : Except DecodeError Field := do
  let r ← Record.ofJson Field.shape v
  let name := r.slot "name" text
  let description := r.slot "description" (nullable text)
  let args := r.slot "args" (list InputValue.ofJson)
  let type := r.slot "type" TypeRef.ofJson
  let isDeprecated := r.slot "isDeprecated" flag
  let deprecationReason := r.slot "deprecationReason" (nullable text)
  r.check [("name", name.failure?), ("description", description.failure?),
    ("args", args.failure?), ("type", type.failure?), ("isDeprecated", isDeprecated.failure?),
    ("deprecationReason", deprecationReason.failure?)]
  let name ← r.require "name" name
  let description ← description.getD none
  let args ← args.getD []
  let type ← r.require "type" type
  let isDeprecated ← isDeprecated.getD false
  let deprecationReason ← deprecationReason.getD none
  r.finish
  return { name, description, args, type, isDeprecated, deprecationReason }

def EnumValue.shape : RecordShape :=
  ⟨"EnumValue", ["name", "description", "isDeprecated", "deprecationReason"]⟩

def EnumValue.ofJson (v : Json) : Except DecodeError EnumValue := do
  let r ← Record.ofJson EnumValue.shape v
  let name := r.slot "name" text
  let description := r.slot "description" (nullable text)
  let isDeprecated := r.slot "isDeprecated" flag
  let deprecationReason := r.slot "deprecationReason" (nullable text)
  r.check [("name", name.failure?), ("description", description.failure?),
    ("isDeprecated", isDeprecated.failure?), ("deprecationReason", deprecationReason.failure?)]
  let name ← r.require "name" name
  let description ← description.getD none
  let isDeprecated ← isDeprecated.getD false
  let deprecationReason ← deprecationReason.getD none
  r.finish
  return { name, description, isDeprecated, deprecationReason }

def FullType.shape : RecordShape :=
  ⟨"FullType", ["kind", "name", "description", "fields", "inputFields", "interfaces",
    "enumValues", "possibleTypes"]⟩

def FullType.ofJson (v : Json) : Except DecodeError FullType := do
  let r ← Record.ofJson FullType.shape v
  let kind := r.slot "kind" TypeKind.ofJson
  let name := r.slot "name" text
  let description := r.slot "description" (nullable text)
  let fields := r.slot "fields" (nullable (list Field.ofJson))
  let inputFields := r.slot "inputFields" (nullable (list InputValue.ofJson))
  let interfaces := r.slot "interfaces" (nullable (list TypeRef.ofJson))
  let enumValues := r.slot "enumValues" (nullable (list EnumValue.ofJson))
  let possibleTypes := r.slot "possibleTypes" (nullable (list TypeRef.ofJson))
  r.check [("kind", kind.failure?), ("name", name.failure?),
    ("description", description.failure?), ("fields", fields.failure?),
    ("inputFields", inputFields.failure?), ("interfaces", interfaces.failure?),
    ("enumValues", enumValues.failure?), ("possibleTypes", possibleTypes.failure?)]
  let kind ← r.require "kind" kind
  let name ← r.require "name" name
  let description ← description.getD none
  let fields ← fields.getD none
  let inputFields ← inputFields.getD none
  let interfaces ← interfaces.getD none
  let enumValues ← enumValues.getD none
  let possibleTypes ← possibleTypes.getD none
  r.finish
  return { kind, name, description, fields, inputFields, interfaces, enumValues, possibleTypes }

def Directive.shape : RecordShape :=
  ⟨"Directive", ["name", "description", "locations", "args"]⟩

def Directive.ofJson (v : Json) : Except DecodeError Directive := do
  let r ← Record.ofJson Directive.shape v
  let name := r.slot "name" text
  let description := r.slot "description" (nullable text)
  let locations := r.slot "locations" (list text)
  let args := r.slot "args" (list InputValue.ofJson)
  r.check [("name", name.failure?), ("description", description.failure?),
    ("locations", locations.failure?), ("args", args.failure?)]
  let name ← r.require "name" name
  let description ← description.getD none
  let locations ← locations.getD []
  let args ← args.getD []
  r.finish
  return { name, description, locations, args }

def RootTypeName.shape : RecordShape := ⟨"RootTypeName", ["name"]⟩

def RootTypeName.ofJson (v : Json) : Except DecodeError RootTypeName := do
  let r ← Record.ofJson RootTypeName.shape v
  let name := r.slot "name" text
  r.check [("name", name.failure?)]
  let name ← r.require "name" name
  r.finish
  return { name }

def Schema.shape : RecordShape :=
  ⟨"Schema", ["queryType", "mutationType", "subscriptionType", "types", "directives"]⟩

def Schema.ofJson (v : Json) : Except DecodeError Schema := do
  let r ← Record.ofJson Schema.shape v
  let queryType := r.slot "queryType" (nullable RootTypeName.ofJson)
  let mutationType := r.slot "mutationType" (nullable RootTypeName.ofJson)
  let subscriptionType := r.slot "subscriptionType" (nullable RootTypeName.ofJson)
  let types := r.slot "types" (list FullType.ofJson)
  let directives := r.slot "directives" (list Directive.ofJson)
  r.check [("queryType", queryType.failure?), ("mutationType", mutationType.failure?),
    ("subscriptionType", subscriptionType.failure?), ("types", types.failure?),
    ("directives", directives.failure?)]
  let queryType ← queryType.getD none
  let mutationType ← mutationType.getD none
  let subscriptionType ← subscriptionType.getD none
  let types ← r.require "types" types
  let directives ← directives.getD []
  r.finish
  return { queryType, mutationType, subscriptionType, types, directives }

end SchemaClasses
