/-! What a run reports without failing: warnings and information, each with a code, a title and
labels at places in the schema. -/

namespace SchemaClasses

inductive Severity where
  | warning
  | info
deriving DecidableEq, Repr

def Severity.name : Severity → String
  | warning => "warning"
  | info => "info"

/-- A remark on a place in the schema, such as `Article` or `Article.namespaceId`. -/
structure Label where
  path : String
  message : String
deriving DecidableEq, Repr

structure Diagnostic where
  severity : Severity
  code : String
  title : String
  labels : List Label
deriving DecidableEq, Repr

namespace Diagnostic

/-- A diagnostic with one label. -/
def labelled (severity : Severity) (code title path message : String) : Diagnostic :=
  ⟨severity, code, title, [⟨path, message⟩]⟩

/-- The place of the first label. -/
def primaryPath? (d : Diagnostic) : Option String :=
  d.labels.head?.map Label.path

def display (d : Diagnostic) : String :=
  d.severity.name ++ "[" ++ d.code ++ "]: " ++ d.title ++
    match d.primaryPath? with
    | some path => " (" ++ path ++ ")"
    | none => ""

end Diagnostic

/-- Diagnostics in the order in which they were found. -/
structure Report where
  entries : Array Diagnostic
deriving DecidableEq, Repr

namespace Report

def empty : Report := ⟨#[]⟩

def add (r : Report) (d : Diagnostic) : Report := ⟨r.entries.push d⟩

def toList (r : Report) : List Diagnostic := r.entries.toList

def ofSeverity (r : Report) (s : Severity) : List Diagnostic :=
  r.toList.filter (·.severity = s)

def warnings (r : Report) : List Diagnostic := r.ofSeverity .warning

def infos (r : Report) : List Diagnostic := r.ofSeverity .info

@[simp] theorem toList_empty : empty.toList = [] := rfl

end Report

end SchemaClasses
