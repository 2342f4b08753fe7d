import SchemaClasses.Diagnostic
import SchemaClasses.Model.CSharp
import SchemaClasses.Model.Java

/-! The model of a schema. From the types of a schema come the definitions of a model: types are
taken in their order; the first problem ends the run, and what is only worth reporting is added to
the report. The definitions are written down in the dialect of the language. -/

namespace SchemaClasses

/-! ### Definitions -/

/-- A step that may fail, and adds to a report if it does not. -/
abbrev Reporting := StateT Report (Except GenerationError)

namespace Reporting

def note (d : Diagnostic) : Reporting Unit :=
  modify (·.add d)

def ofExcept (result : Except GenerationError α) : Reporting α :=
  StateT.lift result

end Reporting

namespace Diagnostic

def skippedKind (t : FullType) : Diagnostic :=
  labelled .warning "W0001" ("Skipped " ++ t.kind.spelling ++ " type") t.name
    "no definition is generated for this kind"

def noImplementors (t : FullType) : Diagnostic :=
  labelled .info "I0001" "Interface has no implementors" t.name "emitted with an empty body"

def remapped (t : FullType) (member : String) : Diagnostic :=
  labelled .info "I0002" "Field type remapped" (t.name ++ "." ++ member)
    "declared type replaced by a remap rule"

end Diagnostic

/-- A description as it stands in a comment: without blanks at its ends, and not blank. -/
def commentOf (description : Option String) : Option String :=
  description.bind Text.trimmed?

namespace FullType

/-- Members of interfaces, and of types that implement one, hold scalars in object form, so that a
class and its interfaces agree on a member even where the class excludes null. -/
def alwaysBoxes (t : FullType) : Bool :=
  t.kind = .interface || !t.implemented.isEmpty

def member (rules : Rules) (t : FullType) (name : String) (description : Option String)
    (declared : TypeRef) : Reporting Member := do
  if (rules.remap.get? name).isSome then
    Reporting.note (.remapped t name)
  match TypeShape.ofRef (rules.remap.apply name declared) with
  | .error reason => throw (.unresolvedType t.name name reason)
  | .ok type =>
    return { name, comment := commentOf description, type, alwaysBoxed := t.alwaysBoxes }

def fieldMembers (rules : Rules) (t : FullType) (fields : List Field) : Reporting (List Member) :=
  fields.mapM fun f => t.member rules f.name f.description f.type

def inputMembers (rules : Rules) (t : FullType) (fields : List InputValue) :
    Reporting (List Member) :=
  fields.mapM fun f => t.member rules f.name f.description f.type

/-- The names of references, which must not be empty, counted from `index`. -/
def interfaceNames (t : FullType) (index : Nat) :
    List TypeRef → Except GenerationError (List String)
  | [] => .ok []
  | ref :: rest =>
    match ref.name with
    | none | some "" => .error (.unresolvedInterface t.name index)
    | some name => (t.interfaceNames (index + 1) rest).map (name :: ·)

/-- A collection that must be there and have something in it. -/
def required (items : Option (List α)) (missing : GenerationError) :
    Except GenerationError (List α) :=
  match items with
  | none | some [] => .error missing
  | some items => .ok items

def constants (values : List EnumValue) : List Constant :=
  values.map fun v => ⟨v.name, commentOf v.description⟩

/-- The body of a type that has a definition, or nothing for a type of a kind that is left out. -/
def body? (rules : Rules) (t : FullType) : Reporting (Option Body) := do
  match t.kind with
  | .scalar => return none
  | .object =>
    let fields ← Reporting.ofExcept (required t.fields (.missingFields t.name t.kind))
    let members ← t.fieldMembers rules fields
    let interfaces ← Reporting.ofExcept (t.interfaceNames 0 t.implemented)
    return some (.dataClass interfaces members)
  | .inputObject =>
    let fields ← Reporting.ofExcept (required t.inputFields (.missingInputFields t.name))
    let members ← t.inputMembers rules fields
    return some (.dataClass [] members)
  | .interface =>
    if t.hasImplementors then
      match t.fields with
      | none => throw (.missingFields t.name t.kind)
      | some fields => return some (.interface (← t.fieldMembers rules fields))
    else
      Reporting.note (.noImplementors t)
      return some (.interface [])
  | .enumeration =>
    let values ← Reporting.ofExcept (required t.enumValues (.missingEnumValues t.name))
    return some (.enumeration (constants values))
  | .union | .list | .nonNull | .unknown =>
    if rules.skipUnsupported then
      Reporting.note (.skippedKind t)
      return none
    else
      throw (.unsupportedKind t.name t.kind)

/-- The definition of a type. The types of introspection have none. -/
def define? (rules : Rules) (t : FullType) : Reporting (Option Definition) := do
  if t.isIntrospection then return none
  let body ← t.body? rules
  return body.map fun body => ⟨t.name, commentOf t.description, body⟩

end FullType

/-- Every type has a name that is not blank, and no two have the same. The types are counted from
`index`, and `seen` holds the names before them. -/
def checkNames (index : Nat) (seen : List String) : List FullType → Except GenerationError Unit
  | [] => .ok ()
  | t :: rest =>
    if Text.isBlankText t.name then .error (.emptyTypeName index)
    else if t.name ∈ seen then .error (.duplicateType t.name)
    else checkNames (index + 1) (t.name :: seen) rest

/-- The definitions of all types that have one, in the order of the schema. -/
def defineAll (rules : Rules) (types : List FullType) : Reporting (List Definition) := do
  let definitions ← types.mapM (·.define? rules)
  return definitions.filterMap id

/-! ### Files -/

def Language.dialect : Language → Dialect
  | .csharp => .csharp
  | .java => .java

structure Generated where
  code : String
  report : Report
  /-- The number of definitions in the code. -/
  emitted : Nat
deriving DecidableEq, Repr

/-- The model of a schema, or the first problem in it. All names are checked before any type is
defined. -/
def generate (schema : Schema) (options : Options) : Except GenerationError Generated := do
  checkNames 0 [] schema.types
  let (definitions, report) ← (defineAll options.toRules schema.types).run .empty
  let lines := options.language.dialect.fileLines options definitions
  return { code := renderLines options.indent lines, report, emitted := definitions.length }

end SchemaClasses
