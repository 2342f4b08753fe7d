import SchemaClasses.Model.TypeShape

/-! The definitions of a model, before they are written in a language. -/

namespace SchemaClasses

structure Member where
  name : String
  /-- The text of the comment above it, never blank. -/
  comment : Option String
  type : TypeShape
  /-- Whether a scalar is held in its object form even where it cannot be null. -/
  alwaysBoxed : Bool
deriving DecidableEq, Repr

/-- A value of an enumeration. -/
structure Constant where
  name : String
  comment : Option String
deriving DecidableEq, Repr

inductive Body where
  | dataClass (interfaces : List String) (members : List Member)
  | interface (members : List Member)
  | enumeration (constants : List Constant)
deriving DecidableEq, Repr

structure Definition where
  name : String
  comment : Option String
  body : Body
deriving DecidableEq, Repr

/-- How a definition is declared. -/
inductive Role where
  | dataClass
  | interface
  | enumeration
deriving DecidableEq, Repr

namespace Body

def role : Body → Role
  | dataClass _ _ => .dataClass
  | interface _ => .interface
  | enumeration _ => .enumeration

/-- The interfaces that a definition implements. -/
def interfaces : Body → List String
  | dataClass names _ => names
  | _ => []

end Body

/-- Why a schema has no model. -/
inductive GenerationError where
  | missingFields (type : String) (kind : TypeKind)
  | missingInputFields (type : String)
  | missingEnumValues (type : String)
  | unsupportedKind (type : String) (kind : TypeKind)
  | unresolvedType (type field : String) (reason : ShapeError)
  | unresolvedInterface (type : String) (index : Nat)
  | emptyTypeName (index : Nat)
  | duplicateType (type : String)
deriving DecidableEq, Repr

namespace GenerationError

def message : GenerationError → String
  | missingFields type kind => "type `" ++ type ++ "` (" ++ kind.spelling ++ ") declares no fields"
  | missingInputFields type => "input type `" ++ type ++ "` declares no input fields"
  | missingEnumValues type => "enum `" ++ type ++ "` declares no values"
  | unsupportedKind type kind => "type `" ++ type ++ "` has unsupported kind " ++ kind.spelling
  | unresolvedType type field reason =>
    "field `" ++ type ++ "." ++ field ++ "` has an unresolvable type: " ++ reason.message
  | unresolvedInterface type index =>
    "interface #" ++ toString index ++ " of `" ++ type ++ "` has no name"
  | emptyTypeName index => "schema type #" ++ toString index ++ " has an empty name"
  | duplicateType type => "type `" ++ type ++ "` is declared more than once"

/-- The type that an error is about. -/
def type? : GenerationError → Option String
  | missingFields type _ | missingInputFields type | missingEnumValues type
  | unsupportedKind type _ | unresolvedType type _ _ | unresolvedInterface type _
  | duplicateType type => some type
  | emptyTypeName _ => none

end GenerationError

end SchemaClasses
