/-! The schema of a GraphQL service as introspection describes it. A collection that introspection
may leave out is optional, so an absent list differs from an empty one. -/

namespace SchemaClasses

/-- The kind of a type or of a reference to one. -/
inductive TypeKind where
  | scalar
  | object
  | interface
  | union
  | enumeration
  | inputObject
  | list
  | nonNull
  /-- Every kind that introspection does not define. -/
  | unknown
deriving Repr, DecidableEq

namespace TypeKind

/-- The spelling that introspection uses. -/
def spelling : TypeKind → String
  | scalar => "SCALAR"
  | object => "OBJECT"
  | interface => "INTERFACE"
  | union => "UNION"
  | enumeration => "ENUM"
  | inputObject => "INPUT_OBJECT"
  | list => "LIST"
  | nonNull => "NON_NULL"
  | unknown => "UNKNOWN"

def ofSpelling (s : String) : TypeKind :=
  match s with
  | "SCALAR" => scalar
  | "OBJECT" => object
  | "INTERFACE" => interface
  | "UNION" => union
  | "ENUM" => enumeration
  | "INPUT_OBJECT" => inputObject
  | "LIST" => list
  | "NON_NULL" => nonNull
  | _ => unknown

theorem ofSpelling_spelling (k : TypeKind) : ofSpelling k.spelling = k := by
  cases k <;> rfl

end TypeKind

/-- A reference to a type: a named type, or a wrapper around another reference. -/
structure TypeRef where
  kind : TypeKind
  name : Option String
  ofType : Option TypeRef
deriving Repr

namespace TypeRef

def decEq : (a b : TypeRef) → Decidable (a = b)
  | ⟨k, n, none⟩, ⟨k', n', none⟩ => decidable_of_iff (k = k' ∧ n = n') (by simp)
  | ⟨k, n, some a⟩, ⟨k', n', some b⟩ =>
    have := decEq a b
    decidable_of_iff (k = k' ∧ n = n' ∧ a = b) (by simp)
  | ⟨_, _, none⟩, ⟨_, _, some _⟩ => isFalse (by simp)
  | ⟨_, _, some _⟩, ⟨_, _, none⟩ => isFalse (by simp)

instance : DecidableEq TypeRef := decEq

def named (kind : TypeKind) (name : String) : TypeRef := ⟨kind, some name, none⟩

def listOf (inner : TypeRef) : TypeRef := ⟨.list, none, some inner⟩

def nonNullOf (inner : TypeRef) : TypeRef := ⟨.nonNull, none, some inner⟩

def scalar (name : String) : TypeRef := named .scalar name

def object (name : String) : TypeRef := named .object name

def enumeration (name : String) : TypeRef := named .enumeration name

end TypeRef

/-- An argument of a field, or a field of an input object. -/
structure InputValue where
  name : String
  description : Option String
  type : TypeRef
  defaultValue : Option String
deriving Repr, DecidableEq

def InputValue.plain (name : String) (type : TypeRef) : InputValue :=
  ⟨name, none, type, none⟩

/-- A field of an object or of an interface. -/
structure Field where
  name : String
  description : Option String
  args : List InputValue
  type : TypeRef
  isDeprecated : Bool
  deprecationReason : Option String
deriving Repr, DecidableEq

def Field.plain (name : String) (type : TypeRef) : Field :=
  ⟨name, none, [], type, false, none⟩

structure EnumValue where
  name : String
  description : Option String
  isDeprecated : Bool
  deprecationReason : Option String
deriving Repr, DecidableEq

def EnumValue.plain (name : String) : EnumValue :=
  ⟨name, none, false, none⟩

/-- A type of the schema. Which collections are present depends on the kind. -/
structure FullType where
  kind : TypeKind
  name : String
  description : Option String
  fields : Option (List Field)
  inputFields : Option (List InputValue)
  interfaces : Option (List TypeRef)
  enumValues : Option (List EnumValue)
  possibleTypes : Option (List TypeRef)
deriving Repr, DecidableEq

namespace FullType

/-- A type without a description and without collections. -/
def plain (kind : TypeKind) (name : String) : FullType :=
  ⟨kind, name, none, none, none, none, none, none⟩

/-- The types of introspection itself have names that begin with two underscores. -/
def isIntrospection (t : FullType) : Bool :=
  "__".toList.isPrefixOf t.name.toList

/-- The interfaces that the type implements. -/
def implemented (t : FullType) : List TypeRef :=
  t.interfaces.getD []

/-- Whether some object implements the type. -/
def hasImplementors (t : FullType) : Bool :=
  match t.possibleTypes with
  | some (_ :: _) => true
  | _ => false

end FullType

structure Directive where
  name : String
  description : Option String
  locations : List String
  args : List InputValue
deriving Repr, DecidableEq

/-- The name of a root operation type. -/
structure RootTypeName where
  name : String
deriving Repr, DecidableEq

structure Schema where
  queryType : Option RootTypeName
  mutationType : Option RootTypeName
  subscriptionType : Option RootTypeName
  types : List FullType
  directives : List Directive
deriving Repr, DecidableEq

namespace Schema

/-- The position of the first type of a name. -/
def typeIndex? (s : Schema) (name : String) : Option Nat :=
  s.types.findIdx? (·.name == name)

def type? (s : Schema) (name : String) : Option FullType :=
  s.types.find? (·.name == name)

end Schema

end SchemaClasses
