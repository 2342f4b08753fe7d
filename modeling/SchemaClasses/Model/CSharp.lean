import SchemaClasses.Model.Dialect
import SchemaClasses.Text.Case

/-! Models in C#: data classes in a namespace, with properties in word case. -/

namespace SchemaClasses.CSharp

def scalar? (name : String) (_ : Bool) : Option String :=
  match name with
  | "String" | "ID" => some "string"
  | "Int" => some "int"
  | "Long" => some "long"
  | "Float" => some "double"
  | "Boolean" => some "bool"
  | _ => none

def header (options : Options) : List String :=
  [stampLine options,
    "using System.Collections;",
    "using System.Collections.Generic;",
    "using Newtonsoft.Json;",
    "using Newtonsoft.Json.Converters;",
    "",
    "namespace " ++ options.namespaceName,
    "\x7b"]

/-- A text with a character replaced wherever it stands. -/
def replaced (mark : Char) (entity cs : List Char) : List Char :=
  cs.flatMap fun c => if c = mark then entity else [c]

/-- A line of a documentation comment, which is XML. Entities begin with an `&`, so those that are
in the line itself are replaced first. -/
def escapeXml (line : List Char) : List Char :=
  replaced '>' ['&', 'g', 't', ';'] (replaced '<' ['&', 'l', 't', ';']
    (replaced '&' ['&', 'a', 'm', 'p', ';'] line))

/-- What all replacements together make of a character. -/
def xmlChar : Char → List Char
  | '&' => ['&', 'a', 'm', 'p', ';']
  | '<' => ['&', 'l', 't', ';']
  | '>' => ['&', 'g', 't', ';']
  | c => [c]

/-- No replacement finds anything in what an earlier one has put in. -/
theorem escapeXml_eq_flatMap (line : List Char) : escapeXml line = line.flatMap xmlChar := by
  have happend : ∀ cs ds : List Char, escapeXml (cs ++ ds) = escapeXml cs ++ escapeXml ds := by
    intro cs ds
    simp only [escapeXml, replaced, List.flatMap_append]
  have hchar : ∀ c, escapeXml [c] = xmlChar c := by
    intro c
    unfold xmlChar
    split
    · rfl
    · rfl
    · rfl
    · rename_i hamp hlt hgt
      have hself : ∀ {mark : Char} (entity : List Char), c ≠ mark →
          replaced mark entity [c] = [c] := by
        intro mark entity h
        rw [replaced, List.flatMap_singleton, if_neg h]
      rw [escapeXml, hself _ hamp, hself _ hlt, hself _ hgt]
  induction line with
  | nil => rfl
  | cons c line ih =>
      rw [← List.singleton_append, happend, hchar, ih, List.flatMap_append, List.flatMap_singleton]

def commentLine (line : List Char) : String :=
  if line.isEmpty then "///" else "/// " ++ String.ofList (escapeXml line)

theorem commentLine_eq (line : List Char) : commentLine line =
    if line.isEmpty then "///" else "/// " ++ String.ofList (line.flatMap xmlChar) := by
  rw [commentLine, escapeXml_eq_flatMap]

def comment (lines : List (List Char)) : List String :=
  "/// <summary>" :: lines.map commentLine ++ ["/// </summary>"]

def keyword : Role → String
  | .dataClass => "class"
  | .interface => "interface"
  | .enumeration => "enum"

def declaration (role : Role) (name : String) (interfaces : List String) : String :=
  "public " ++ keyword role ++ " " ++ name ++
    if interfaces.isEmpty then "" else " : " ++ ", ".intercalate interfaces

def property (name type : String) : String :=
  type ++ " " ++ Text.pascalCase name ++ " \x7b get; set; \x7d"

end CSharp

def Dialect.csharp : Dialect where
  scalar? := CSharp.scalar?
  header := CSharp.header
  comment := CSharp.comment
  enumMark := "[JsonConverter(typeof(StringEnumConverter))]"
  declaration := CSharp.declaration
  storage name type := ["public " ++ CSharp.property name type]
  signature name type := [CSharp.property name type]
  constant := Text.pascalCase

end SchemaClasses
