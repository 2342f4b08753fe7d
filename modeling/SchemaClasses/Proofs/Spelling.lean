import Mathlib.Data.List.Forall2
import SchemaClasses.Schema.Basic
import SchemaClasses.Json.Basic

/-! The JSON values that spell a schema. A record is spelled by an object with a member for each of
its slots or by an array of the slots' values in their order; every slot may be spelled in its own
way. Slots that must be there, slots that may be left out or null, and slots that may only be left
out are told apart. -/

namespace SchemaClasses

namespace Json

/-- What a value has for a slot of a record: a member of the name, or the item at the position. -/
def slot? (v : Json) (position : Nat) (name : String) : Option Json :=
  match v with
  | .object members => lastMember? name members
  | .array items => items[position]?
  | _ => none

/-- The value has no items behind those for the slots of a record. -/
def IsRecord (slots : Nat) : Json → Prop
  | .object _ => True
  | .array items => items.length ≤ slots
  | _ => False

end Json

section Slots

variable {α : Type} (Spells : Json → α → Prop)

/-- A slot that must be there. -/
inductive Required : Option Json → α → Prop
  | present {v a} (h : Spells v a) : Required (some v) a

/-- A slot that may be left out or null; both stand for nothing. -/
inductive Optional : Option Json → Option α → Prop
  | absent : Optional none none
  | null : Optional (some .null) none
  | present {v a} (h : Spells v a) : Optional (some v) (some a)

/-- A slot that may be left out, which stands for a default. -/
inductive Defaulted (default : α) : Option Json → α → Prop
  | absent : Defaulted default none default
  | present {v a} (h : Spells v a) : Defaulted default (some v) a

inductive SpellsList : Json → List α → Prop
  | array {items as} (h : List.Forall₂ Spells items as) : SpellsList (.array items) as

end Slots

inductive SpellsText : Json → String → Prop
  | string (s : String) : SpellsText (.string s) s

inductive SpellsFlag : Json → Bool → Prop
  | bool (b : Bool) : SpellsFlag (.bool b) b

namespace TypeKind

/-- The kinds that introspection defines. -/
def defined : List TypeKind :=
  [.scalar, .object, .interface, .union, .enumeration, .inputObject, .list, .nonNull]

/-- Every name that none of these kinds has is one of an unknown kind. -/
inductive HasName : TypeKind → String → Prop
  | defined {k} (h : k ∈ defined) : HasName k k.spelling
  | unknown {name} (h : ∀ k ∈ defined, name ≠ k.spelling) : HasName .unknown name

/-- A name, or an object whose only member has that name and is null. Members of one name count as
one, the last. -/
inductive Spells : Json → TypeKind → Prop
  | name {name k} (h : HasName k name) : Spells (.string name) k
  | member {members name k} (honly : ∀ m ∈ members, m.1 = name)
      (hnull : Json.lastMember? name members = some .null) (h : HasName k name) :
      Spells (.object members) k

end TypeKind

inductive TypeRef.Spells : Json → TypeRef → Prop
  | record {v t} (hrecord : v.IsRecord 3)
      (hkind : Required TypeKind.Spells (v.slot? 0 "kind") t.kind)
      (hname : Optional SpellsText (v.slot? 1 "name") t.name)
      (hofType : Optional TypeRef.Spells (v.slot? 2 "ofType") t.ofType) : TypeRef.Spells v t

structure InputValue.Spells (v : Json) (x : InputValue) : Prop where
  record : v.IsRecord 4
  name : Required SpellsText (v.slot? 0 "name") x.name
  description : Optional SpellsText (v.slot? 1 "description") x.description
  type : Required TypeRef.Spells (v.slot? 2 "type") x.type
  defaultValue : Optional SpellsText (v.slot? 3 "defaultValue") x.defaultValue

structure Field.Spells (v : Json) (f : Field) : Prop where
  record : v.IsRecord 6
  name : Required SpellsText (v.slot? 0 "name") f.name
  description : Optional SpellsText (v.slot? 1 "description") f.description
  args : Defaulted (SpellsList InputValue.Spells) [] (v.slot? 2 "args") f.args
  type : Required TypeRef.Spells (v.slot? 3 "type") f.type
  isDeprecated : Defaulted SpellsFlag false (v.slot? 4 "isDeprecated") f.isDeprecated
  deprecationReason : Optional SpellsText (v.slot? 5 "deprecationReason") f.deprecationReason

structure EnumValue.Spells (v : Json) (x : EnumValue) : Prop where
  record : v.IsRecord 4
  name : Required SpellsText (v.slot? 0 "name") x.name
  description : Optional SpellsText (v.slot? 1 "description") x.description
  isDeprecated : Defaulted SpellsFlag false (v.slot? 2 "isDeprecated") x.isDeprecated
  deprecationReason : Optional SpellsText (v.slot? 3 "deprecationReason") x.deprecationReason

structure FullType.Spells (v : Json) (t : FullType) : Prop where
  record : v.IsRecord 8
  kind : Required TypeKind.Spells (v.slot? 0 "kind") t.kind
  name : Required SpellsText (v.slot? 1 "name") t.name
  description : Optional SpellsText (v.slot? 2 "description") t.description
  fields : Optional (SpellsList Field.Spells) (v.slot? 3 "fields") t.fields
  inputFields : Optional (SpellsList InputValue.Spells) (v.slot? 4 "inputFields") t.inputFields
  interfaces : Optional (SpellsList TypeRef.Spells) (v.slot? 5 "interfaces") t.interfaces
  enumValues : Optional (SpellsList EnumValue.Spells) (v.slot? 6 "enumValues") t.enumValues
  possibleTypes :
    Optional (SpellsList TypeRef.Spells) (v.slot? 7 "possibleTypes") t.possibleTypes

structure Directive.Spells (v : Json) (d : Directive) : Prop where
  record : v.IsRecord 4
  name : Required SpellsText (v.slot? 0 "name") d.name
  description : Optional SpellsText (v.slot? 1 "description") d.description
  locations : Defaulted (SpellsList SpellsText) [] (v.slot? 2 "locations") d.locations
  args : Defaulted (SpellsList InputValue.Spells) [] (v.slot? 3 "args") d.args

structure RootTypeName.Spells (v : Json) (r : RootTypeName) : Prop where
  record : v.IsRecord 1
  name : Required SpellsText (v.slot? 0 "name") r.name

/-- A schema is spelled by the members of an object only, never by an array. -/
structure Schema.Spells (members : List (String × Json)) (s : Schema) : Prop where
  queryType :
    Optional RootTypeName.Spells (Json.lastMember? "queryType" members) s.queryType
  mutationType :
    Optional RootTypeName.Spells (Json.lastMember? "mutationType" members) s.mutationType
  subscriptionType :
    Optional RootTypeName.Spells (Json.lastMember? "subscriptionType" members) s.subscriptionType
  types : Required (SpellsList FullType.Spells) (Json.lastMember? "types" members) s.types
  directives :
    Defaulted (SpellsList Directive.Spells) [] (Json.lastMember? "directives" members) s.directives

end SchemaClasses
