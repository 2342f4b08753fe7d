import SchemaClasses.Model.Dialect
import SchemaClasses.Text.Letters
import SchemaClasses.Text.Case

/-! Models in Java: classes nested in one holder class, with a private field, a getter and a setter
for every member. -/

namespace SchemaClasses.Java

/-- The words that no name may be. -/
def reserved : List String :=
  ["abstract", "assert", "boolean", "break", "byte", "case", "catch", "char", "class", "const",
    "continue", "default", "do", "double", "else", "enum", "extends", "final", "finally",
    "float", "for", "goto", "if", "implements", "import", "instanceof", "int", "interface",
    "long", "native", "new", "package", "private", "protected", "public", "return", "short",
    "static", "strictfp", "super", "switch", "synchronized", "this", "throw", "throws",
    "transient", "try", "void", "volatile", "while", "true", "false", "null"]

/-- A name as an identifier: a reserved word gets an underscore behind it. -/
def identifier (name : String) : String :=
  if name ∈ reserved then name ++ "_" else name

/-- The holder class for a file. A public class has the name of its file, so the stem must be an
identifier as it is. -/
def holder? (stem : String) : Option String :=
  match stem.toList with
  | [] => none
  | first :: rest =>
    if (Text.isLetter first || first = '_' || first = '$') &&
        rest.all (fun c => Text.isLetterOrDigit c || c = '_' || c = '$') &&
        stem ∉ reserved then
      some stem
    else none

def scalar? (name : String) (boxed : Bool) : Option String :=
  match name with
  | "String" | "ID" => some "String"
  | "Int" => some (if boxed then "Integer" else "int")
  | "Long" => some (if boxed then "Long" else "long")
  | "Float" => some (if boxed then "Double" else "double")
  | "Boolean" => some (if boxed then "Boolean" else "boolean")
  | _ => none

def header (options : Options) : List String :=
  [stampLine options,
    "package " ++ options.namespaceName ++ ";",
    "",
    "import java.util.List;",
    "",
    "import com.fasterxml.jackson.annotation.JsonFormat;",
    "import com.fasterxml.jackson.annotation.JsonProperty;",
    "",
    "public final class " ++ options.holder,
    "\x7b"]

/-- A line inside a comment, where the end of the comment is written with a character reference. -/
def escapeEnd : List Char → List Char
  | '*' :: '/' :: rest => '*' :: '&' :: '#' :: '4' :: '7' :: ';' :: escapeEnd rest
  | c :: rest => c :: escapeEnd rest
  | [] => []

def commentLine (line : List Char) : String :=
  if line.isEmpty then " *" else " * " ++ String.ofList (escapeEnd line)

def comment (lines : List (List Char)) : List String :=
  "/**" :: lines.map commentLine ++ [" */"]

def keyword : Role → String
  | .dataClass => "static class"
  | .interface => "interface"
  | .enumeration => "enum"

def declaration (role : Role) (name : String) (interfaces : List String) : String :=
  "public " ++ keyword role ++ " " ++ name ++
    if interfaces.isEmpty then "" else " implements " ++ ", ".intercalate interfaces

def getterHead (name type : String) : String :=
  type ++ " get" ++ Text.pascalCase name ++ "()"

def setterHead (name type : String) : String :=
  "void set" ++ Text.pascalCase name ++ "(" ++ type ++ " " ++ identifier name ++ ")"

/-- The name under which a member is read and written, where its field has another. -/
def propertyMark (name : String) : List String :=
  if identifier name = name then [] else ["@JsonProperty(\"" ++ name ++ "\")"]

def storage (name type : String) : List String :=
  let field := identifier name
  propertyMark name ++
    ["private " ++ type ++ " " ++ field ++ ";",
      "public " ++ getterHead name type ++ " \x7b return " ++ field ++ "; \x7d",
      "public " ++ setterHead name type ++ " \x7b this." ++ field ++ " = " ++ field ++ "; \x7d"]

def signature (name type : String) : List String :=
  [getterHead name type ++ ";", setterHead name type ++ ";"]

end Java

def Dialect.java : Dialect where
  scalar? := Java.scalar?
  header := Java.header
  comment := Java.comment
  enumMark := "@JsonFormat(shape = JsonFormat.Shape.STRING)"
  declaration := Java.declaration
  storage := Java.storage
  signature := Java.signature
  constant := Java.identifier

end SchemaClasses
