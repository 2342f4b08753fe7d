/-! The introspection query: a document of operations and fragments, written with two spaces to a
level. It follows type references through seven wrappers. -/

namespace SchemaClasses.Query

/-- A selection in the query. -/
inductive Selection where
  | field (name : String)
  | spread (fragment : String)
  /-- A field whose selections stand on the same line. -/
  | inline (name : String) (selections : List Selection)
  /-- A field whose selections stand on lines of their own. -/
  | block (name : String) (selections : List Selection)

/-- A definition with its selections. -/
structure Part where
  heading : String
  selections : List Selection

def margin (depth : Nat) : String :=
  String.ofList (List.replicate (2 * depth) ' ')

mutual

def Selection.inlineText : Selection → String
  | .field name => name
  | .spread fragment => "..." ++ fragment
  | .inline name selections => name ++ " \x7b" ++ inlineTexts selections ++ " \x7d"
  | .block name selections => name ++ " \x7b" ++ inlineTexts selections ++ " \x7d"

def inlineTexts : List Selection → String
  | [] => ""
  | s :: rest => " " ++ s.inlineText ++ inlineTexts rest

end

mutual

def Selection.write (depth : Nat) : Selection → String
  | .block name selections =>
    margin depth ++ name ++ " \x7b\n" ++ writeAll (depth + 1) selections ++
      margin depth ++ "\x7d\n"
  | s => margin depth ++ s.inlineText ++ "\n"

def writeAll (depth : Nat) : List Selection → String
  | [] => ""
  | s :: rest => s.write depth ++ writeAll depth rest

end

def Part.write (p : Part) : String :=
  "\n" ++ p.heading ++ " \x7b\n" ++ writeAll 1 p.selections ++ "\x7d\n"

/-- The selections on a type reference with up to the given number of wrappers around it. -/
def typeRefSelections : Nat → List Selection
  | 0 => [.field "kind", .field "name"]
  | n + 1 => [.field "kind", .field "name", .block "ofType" (typeRefSelections n)]

def operation : Part where
  heading := "query IntrospectionQuery"
  selections := [
    .block "__schema" [
      .inline "queryType" [.field "name"],
      .inline "mutationType" [.field "name"],
      .inline "subscriptionType" [.field "name"],
      .block "types" [.spread "FullType"],
      .block "directives" [
        .field "name",
        .field "description",
        .field "locations",
        .block "args" [.spread "InputValue"]]]]

def fullType : Part where
  heading := "fragment FullType on __Type"
  selections := [
    .field "kind",
    .field "name",
    .field "description",
    .block "fields(includeDeprecated: true)" [
      .field "name",
      .field "description",
      .block "args" [.spread "InputValue"],
      .block "type" [.spread "TypeRef"],
      .field "isDeprecated",
      .field "deprecationReason"],
    .block "inputFields" [.spread "InputValue"],
    .block "interfaces" [.spread "TypeRef"],
    .block "enumValues(includeDeprecated: true)" [
      .field "name",
      .field "description",
      .field "isDeprecated",
      .field "deprecationReason"],
    .block "possibleTypes" [.spread "TypeRef"]]

def inputValue : Part where
  heading := "fragment InputValue on __InputValue"
  selections := [
    .field "name",
    .field "description",
    .inline "type" [.spread "TypeRef"],
    .field "defaultValue"]

def typeRef : Part where
  heading := "fragment TypeRef on __Type"
  selections := typeRefSelections 7

/-- The text that is sent to a service. -/
def introspection : String :=
  String.join ([operation, fullType, inputValue, typeRef].map Part.write)

end SchemaClasses.Query
