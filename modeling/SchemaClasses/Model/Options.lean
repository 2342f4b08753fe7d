import SchemaClasses.Calendar
import SchemaClasses.Entries
import SchemaClasses.Path
import SchemaClasses.Schema.Basic

/-! What a generated model depends on besides the schema: its language, the rules for the types of
fields, and how a file is laid out and stamped. -/

namespace SchemaClasses

/-! ### Languages -/

inductive Language where
  | csharp
  | java
deriving DecidableEq, Repr

namespace Language

/-- The language of a file extension, in either case. -/
def ofExtension? (extension : String) : Option Language :=
  match Text.asciiLower extension with
  | "cs" => some csharp
  | "java" => some java
  | _ => none

/-- The language that the extension of a path names. -/
def ofPath? (path : String) : Option Language :=
  (Path.extension? path).bind ofExtension?

end Language

/-! ### Rules for types

Rules that replace the declared type of every field of a name. A few content fields are declared
as integers although their values come from an enumeration; the built-in rules name it. -/

/-- Rules in the order in which their names were first entered, one to a name. -/
structure RemapTable where
  rules : List (String × TypeRef)
deriving DecidableEq, Repr

namespace RemapTable

def empty : RemapTable := ⟨[]⟩

/-- Enters a rule. One that is there under the name is replaced in its place. -/
def insert (table : RemapTable) (name : String) (type : TypeRef) : RemapTable :=
  ⟨Entries.set name type table.rules⟩

/-- The table with one more rule, for rules that are written in a chain. -/
def rule (table : RemapTable) (name : String) (type : TypeRef) : RemapTable :=
  table.insert name type

def get? (table : RemapTable) (name : String) : Option TypeRef :=
  Entries.get? name table.rules

/-- The type that a field gets: that of its rule, or else the declared one. -/
def apply (table : RemapTable) (name : String) (declared : TypeRef) : TypeRef :=
  (table.get? name).getD declared

def names (table : RemapTable) : List String :=
  table.rules.map Prod.fst

theorem isSome_get?_iff (table : RemapTable) (name : String) :
    (table.get? name).isSome ↔ name ∈ table.names :=
  Entries.isSome_get?_iff name table.rules

def size (table : RemapTable) : Nat :=
  table.rules.length

/-- Whether two tables have the same rules, in whatever order. -/
def sameRules (a b : RemapTable) : Bool :=
  a.size = b.size && a.rules.all fun (name, type) => b.get? name = some type

/-- The enumeration behind `namespaceId` and `namespaceIds`. -/
def contentNamespace : String := "ContentNamespace"

/-- The enumeration behind `itemType`, in its namespace. -/
def itemType : Language → String
  | .csharp => "Sdl.Web.PublicContentApi.ItemType"
  | .java => "com.sdl.web.pca.client.contentmodel.enums.ItemType"

/-- The rules that a language starts with. -/
def builtIn (language : Language) : RemapTable :=
  ((empty.insert "namespaceIds" (.listOf (.enumeration contentNamespace))).insert
    "namespaceId" (.enumeration contentNamespace)).insert
    "itemType" (.enumeration (itemType language))

end RemapTable

/-! ### Options -/

inductive Indent where
  | tabs
  | spaces (count : Nat)
deriving DecidableEq, Repr

/-- One level of indentation. -/
def Indent.unit : Indent → String
  | tabs => "\t"
  | spaces count => String.ofList (List.replicate count ' ')

/-- What decides which definitions come about. -/
structure Rules where
  remap : RemapTable
  /-- Leave out types of kinds that have no definition, instead of failing. -/
  skipUnsupported : Bool
deriving DecidableEq, Repr

structure Options extends Rules where
  /-- The C# namespace or Java package. -/
  namespaceName : String
  language : Language
  indent : Indent
  /-- Seconds from the beginning of 1970, for the first line. -/
  generatedAt : Int
  /-- The Java class around all definitions. -/
  holder : String
deriving DecidableEq, Repr

namespace Options

def defaultHolder : String := "Model"

/-- The options of a language with its built-in rules. -/
def ofLanguage (namespaceName : String) (language : Language) (generatedAt : Int) : Options where
  remap := .builtIn language
  skipUnsupported := false
  namespaceName
  language
  indent := .tabs
  generatedAt
  holder := defaultHolder

def timestamp (o : Options) : String :=
  (Calendar.ofUnix o.generatedAt).text

end Options

end SchemaClasses
